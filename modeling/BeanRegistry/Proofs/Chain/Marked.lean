import BeanRegistry.Proofs.Run.Unbounded

set_option autoImplicit false

namespace BeanRegistry

variable {app : Application} {Result Other : Type}

abbrev Outcome (app : Application) : Type :=
  Except Failure (Value app.Content)

inductive Mark where
  | opened (position : Nat) (isTarget : Bool)
  | closed (position : Nat) (succeeded : Bool)
  | hookStarted (position : Nat)
  | hookEnded (position : Nat)
  | suppressed (position : Nat)
  deriving DecidableEq

def Mark.make (passage : Passage app) : Mark → Eval app Unit
  | .opened position isTarget => openPosition passage position isTarget
  | .closed position succeeded => Eval.note (.closed passage.chain position succeeded)
  | .hookStarted position => Eval.note (.hookStarted passage.chain position)
  | .hookEnded position => Eval.note (.hookEnded passage.chain position)
  | .suppressed position =>
    Eval.note (.suppressed passage.chain position passage.invocation.method)

inductive MarkedOperation (app : Application) where
  | common (operation : Operation app)
  | mark (mark : Mark)

@[reducible] def MarkedOperation.Answer : MarkedOperation app → Type
  | .common operation => operation.Answer
  | .mark _ => Unit

abbrev MarkedScript (app : Application) (Result : Type) : Type :=
  Program (MarkedOperation app) MarkedOperation.Answer Result

def Handler.marking (handle : Handler app) (passage : Passage app) :
    (operation : MarkedOperation app) → Eval app operation.Answer
  | .common operation => handle (.request operation)
  | .mark mark => mark.make passage

namespace MarkedScript

def mark (mark : Mark) : MarkedScript app Unit :=
  .ask (.mark mark) .done

def erase : MarkedScript app Result → Script app Result
  | .done result => .done result
  | .ask (.common operation) next => .ask operation fun answer => erase (next answer)
  | .ask (.mark _) next => erase (next ())

theorem erase_bind (program : MarkedScript app Result) (next : Result → MarkedScript app Other) :
    erase (program.bind next) = (erase program).bind fun result => erase (next result) := by
  induction program with
  | done result => rfl
  | ask operation rest ih =>
    cases operation with
    | common operation => simp only [Program.bind, erase, ih]
    | mark mark => exact ih ()

def exhausted : MarkedScript app (Outcome app) :=
  .done (.error (.chain (.alreadyProceeded .targetInvoked)))

end MarkedScript

open MarkedScript

namespace HookScript

def within (rest : MarkedScript app (Outcome app)) :
    HookScript app Result → MarkedScript app Result
  | .done result => .done result
  | .ask (.common operation) next =>
    .ask (.common operation) fun answer => within rest (next answer)
  | .ask .proceed next => rest.bind fun outcome => within rest (next outcome)

theorem run_within (handle : Handler app) (passage : Passage app)
    (rest : MarkedScript app (Outcome app)) (script : HookScript app Result) :
    (within rest script).run (handle.marking passage) =
      handle.hook (rest.run (handle.marking passage)) script := by
  induction script with
  | done result => rfl
  | ask operation next ih =>
    cases operation with
    | common operation =>
      simp only [within, Program.run, Handler.hook, Handler.around, Handler.marking] at ih ⊢
      simp only [ih]
    | proceed =>
      simp only [within, Program.run_bind, ih]
      rfl

end HookScript

def hooked (position : Nat) (rest : MarkedScript app (Outcome app))
    (script : HookScript app Result) : MarkedScript app Result := do
  mark (.hookStarted position)
  let result ← HookScript.within rest script
  mark (.hookEnded position)
  pure result

def Advice.marked (code : Code app) (invocation : Invocation app) (position : Nat)
    (rest : MarkedScript app (Outcome app)) : Advice app.Hook → MarkedScript app (Outcome app)
  | .before hook => do
    match ← hooked position rest (code.before hook invocation) with
    | .error failure => pure (.error failure)
    | .ok () => rest
  | .afterReturning hook => do
    match ← rest with
    | .error failure => pure (.error failure)
    | .ok result =>
      match ← hooked position rest (code.afterReturning hook result invocation) with
      | .error failure => pure (.error failure)
      | .ok () => pure (.ok result)
  | .afterThrowing hook => do
    match ← rest with
    | .ok result => pure (.ok result)
    | .error failure =>
      match ← hooked position rest (code.afterThrowing hook failure invocation) with
      | .error other => pure (.error other)
      | .ok result =>
        mark (.suppressed position)
        pure (.ok result)
  | .afterFinally hook => do
    let outcome ← rest
    hooked position rest (code.afterFinally hook invocation)
    pure outcome
  | .interceptor hook => HookScript.within rest (code.around hook invocation)

def surrounded (position : Nat) (isTarget : Bool) (body : MarkedScript app (Outcome app)) :
    MarkedScript app (Outcome app) := do
  mark (.opened position isTarget)
  let outcome ← body
  mark (.closed position outcome.isOk)
  pure outcome

def Passage.remaining (code : Code app) (passage : Passage app) :
    Nat → List (Advice app.Hook) → MarkedScript app (Outcome app)
  | position, [] =>
    surrounded position true
      (HookScript.within exhausted (code.target passage.targetMethod passage.invocation))
  | position, advice :: rest =>
    surrounded position false
      (advice.marked code passage.invocation position
        (passage.remaining code (position + 1) rest))

section Running

variable (code : Code app) (handle : Handler app) (passage : Passage app) (position : Nat)
  (rest : MarkedScript app (Outcome app))

theorem run_mark (mark : Mark) :
    (MarkedScript.mark mark).run (handle.marking passage) = mark.make passage :=
  bind_pure _

theorem run_hooked (script : HookScript app Result) :
    (hooked position rest script).run (handle.marking passage) =
      runHook handle passage position (rest.run (handle.marking passage)) script := by
  simp only [hooked, Program.bind_eq, Program.run_bind, run_mark, HookScript.run_within]
  rfl

theorem run_marked (advice : Advice app.Hook) :
    (advice.marked code passage.invocation position rest).run (handle.marking passage) =
      invokeAdvice code handle passage position (rest.run (handle.marking passage)) advice := by
  cases advice with
  | before hook =>
    simp only [Advice.marked, invokeAdvice, Program.bind_eq, Program.run_bind, run_hooked]
    refine congrArg _ (funext fun outcome => ?_)
    cases outcome <;> rfl
  | afterReturning hook =>
    simp only [Advice.marked, invokeAdvice, Program.bind_eq, Program.run_bind]
    refine congrArg _ (funext fun outcome => ?_)
    cases outcome with
    | error failure => rfl
    | ok result =>
      simp only [Program.run_bind, run_hooked]
      refine congrArg _ (funext fun verdict => ?_)
      cases verdict <;> rfl
  | afterThrowing hook =>
    simp only [Advice.marked, invokeAdvice, Program.bind_eq, Program.run_bind]
    refine congrArg _ (funext fun outcome => ?_)
    cases outcome with
    | ok result => rfl
    | error failure =>
      simp only [Program.run_bind, run_hooked]
      refine congrArg _ (funext fun verdict => ?_)
      cases verdict with
      | error other => rfl
      | ok result =>
        simp only [Program.run_bind, run_mark]
        rfl
  | afterFinally hook =>
    simp only [Advice.marked, invokeAdvice, Program.bind_eq, Program.run_bind, run_hooked]
    rfl
  | interceptor hook => exact HookScript.run_within handle passage rest _

theorem run_surrounded (isTarget : Bool) :
    (surrounded position isTarget rest).run (handle.marking passage) = (do
      openPosition passage position isTarget
      let outcome ← rest.run (handle.marking passage)
      closePosition passage position outcome
      pure outcome) := by
  simp only [surrounded, Program.bind_eq, Program.run_bind, run_mark]
  rfl

end Running

theorem proceed_beyond (code : Code app) (passage : Passage app) {position : Nat}
    (beyond : passage.advices.length < position) :
    unbounded code (.proceed passage position) =
      pure (.error (.chain (.alreadyProceeded .targetInvoked))) := by
  have missing : passage.advices[position]? = none := List.getElem?_eq_none (by omega)
  have different : ¬ position = passage.advices.length := by omega
  rw [unbounded_proceed]
  simp only [proceedAt, missing, different, if_false]

theorem proceed_eq_remaining (code : Code app) (passage : Passage app) (position : Nat)
    (rest : List (Advice app.Hook)) (left : passage.advices.drop position = rest)
    (within : position ≤ passage.advices.length) :
    unbounded code (.proceed passage position) =
      (passage.remaining code position rest).run ((unbounded code).marking passage) := by
  induction rest generalizing position with
  | nil =>
    have last : passage.advices.length ≤ position := List.drop_eq_nil_iff.mp left
    obtain rfl : position = passage.advices.length := by omega
    have missing : passage.advices[passage.advices.length]? = none := List.getElem?_eq_none last
    have beyond := proceed_beyond code passage (Nat.lt_succ_self passage.advices.length)
    rw [unbounded_proceed]
    simp only [proceedAt, missing, if_true, beyond, Passage.remaining, run_surrounded,
      HookScript.run_within]
    rfl
  | cons advice rest ih =>
    have here : passage.advices[position]? = some advice := by
      rw [← List.head?_drop, left, List.head?_cons]
    have bound : position + 1 ≤ passage.advices.length := by
      have := (List.getElem?_eq_some_iff.mp here).1
      omega
    have tail : passage.advices.drop (position + 1) = rest := by
      rw [← List.drop_drop, left]
      rfl
    rw [unbounded_proceed]
    simp only [proceedAt, here, ih (position + 1) tail bound, Passage.remaining, run_surrounded,
      run_marked]

theorem passage_chain {chain : Chain app} {identity : ChainId} {passage : Passage app}
    (complete : chain.passage identity = .ok passage) : passage.chain = identity := by
  unfold Chain.passage at complete
  split at complete
  · cases complete
  · split at complete
    · cases complete
    · split at complete
      · cases complete
      · split at complete <;> cases complete
        rfl

def Passage.finish (passage : Passage app) (outcome : Outcome app) : Eval app Unit := do
  let progress := if outcome.isOk then Progress.returned else .failed
  modify fun world => world.mapChain passage.chain fun cell => { cell with progress }
  Eval.note (.finished passage.chain passage.invocation.method progress)

def Passage.conduct (passage : Passage app) (handle : Handler app)
    (program : MarkedScript app (Outcome app)) : Eval app (Outcome app) := do
  let outcome ← program.run (handle.marking passage)
  passage.finish outcome
  pure outcome

theorem drive_eq_conduct (code : Code app) {world : World app} {chain : ChainId}
    {cell : ChainCell app} {passage : Passage app} (known : world.chain? chain = some cell)
    (unstarted : cell.progress = .created) (complete : cell.chain.passage chain = .ok passage) :
    unbounded code (.request (.driveChain chain)) world =
      passage.conduct (unbounded code) (passage.remaining code 0 passage.advices) world := by
  obtain rfl := passage_chain complete
  have started : cell.chain.start passage.chain cell.progress = .ok passage := by
    simp only [Chain.start, unstarted, complete, if_true]
  have all := proceed_eq_remaining code passage 0 passage.advices rfl (Nat.zero_le _)
  rw [unbounded_request]
  simp only [carryOut, driveChain, Eval.get_bind, known, Option.getD_some, started, all,
    Passage.conduct]
  rfl

end BeanRegistry
