import BeanRegistry.Proofs.Chain.Forward
import BeanRegistry.Proofs.Chain.Passes
import BeanRegistry.Proofs.Run.Kept

set_option autoImplicit false

namespace BeanRegistry

variable {app : Application} {code : Code app} {Result Other : Type}

inductive Happening where
  | mark (mark : Mark)
  | proceeded (position : Nat)
  deriving DecidableEq

inductive ToldOperation (app : Application) where
  | common (operation : Operation app)
  | happen (happening : Happening)

@[reducible] def ToldOperation.Answer : ToldOperation app → Type
  | .common operation => operation.Answer
  | .happen _ => Unit

abbrev ToldScript (app : Application) (Result : Type) : Type :=
  Program (ToldOperation app) ToldOperation.Answer Result

namespace ToldScript

def tell (happening : Happening) : ToldScript app Unit :=
  .ask (.happen happening) .done

def silence : ToldScript app Result → MarkedScript app Result
  | .done result => .done result
  | .ask (.common operation) next => .ask (.common operation) fun answer => silence (next answer)
  | .ask (.happen (.mark mark)) next => .ask (.mark mark) fun _ => silence (next ())
  | .ask (.happen (.proceeded _)) next => silence (next ())

def recount : ToldScript app Result → MarkedScript app (Result × List Happening)
  | .done result => .done (result, [])
  | .ask (.common operation) next => .ask (.common operation) fun answer => recount (next answer)
  | .ask (.happen happening) next =>
    let told := (recount (next ())).bind fun rest => .done (rest.1, happening :: rest.2)
    match happening with
    | .mark mark => .ask (.mark mark) fun _ => told
    | .proceeded _ => told

-- On every way through the program it is so of the result and the account.
def Tells (holds : Result → List Happening → Prop) : ToldScript app Result → Prop
  | .done result => holds result []
  | .ask (.common _) next => ∀ answer, Tells holds (next answer)
  | .ask (.happen happening) next => Tells (fun result rest => holds result (happening :: rest)) (next ())

theorem silence_bind (program : ToldScript app Result) (next : Result → ToldScript app Other) :
    silence (program.bind next) = (silence program).bind fun result => silence (next result) := by
  induction program with
  | done result => rfl
  | ask operation rest ih =>
    cases operation with
    | common operation => simp only [Program.bind, silence, ih]
    | happen happening =>
      cases happening with
      | mark mark => simp only [Program.bind, silence, ih]
      | proceeded position => exact ih ()

theorem recount_silence (program : ToldScript app Result) :
    ((recount program).bind fun told => .done told.1) = silence program := by
  induction program with
  | done result => rfl
  | ask operation rest ih =>
    cases operation with
    | common operation => simp only [recount, Program.bind, silence, ih]
    | happen happening =>
      cases happening <;>
        simp only [recount, silence, Program.bind, Program.bind_assoc] <;> rw [ih]

theorem tells_happen {holds : Result → List Happening → Prop} {happening : Happening}
    {next : Unit → ToldScript app Result} : Tells holds (.ask (.happen happening) next) ↔
      Tells (fun result rest => holds result (happening :: rest)) (next ()) :=
  .rfl

theorem tells_tell {holds : Result → List Happening → Prop} {happening : Happening}
    {rest : ToldScript app Result}
    (tells : Tells (fun result account => holds result (happening :: account)) rest) :
    Tells holds (tell happening >>= fun _ => rest) :=
  tells

theorem tells_mono {holds expected : Result → List Happening → Prop} {program : ToldScript app Result}
    (tells : Tells holds program) (weaker : ∀ result account, holds result account →
      expected result account) :
    Tells expected program := by
  induction program generalizing holds expected with
  | done result => exact weaker result [] tells
  | ask operation rest ih =>
    cases operation with
    | common operation => exact fun answer => ih answer (tells answer) weaker
    | happen happening => exact ih () tells fun result account => weaker result (happening :: account)

theorem tells_bind {holds : Result → List Happening → Prop} {expected : Other → List Happening → Prop}
    {program : ToldScript app Result} {next : Result → ToldScript app Other} (tells : Tells holds program)
    (rest : ∀ result account, holds result account →
      Tells (fun other more => expected other (account ++ more)) (next result)) :
    Tells expected (program.bind next) := by
  induction program generalizing holds expected with
  | done result => exact rest result [] tells
  | ask operation _ ih =>
    cases operation with
    | common operation => exact fun answer => ih answer (tells answer) rest
    | happen happening => exact ih () tells fun result account => rest result (happening :: account)

end ToldScript

open ToldScript

section Programs

variable (position : Nat) (next : ToldScript app (Outcome app))

def proceeding : ToldScript app (Outcome app) := do
  tell (.proceeded position)
  next

def HookScript.told : HookScript app Result → ToldScript app Result
  | .done result => .done result
  | .ask (.common operation) rest => .ask (.common operation) fun answer => HookScript.told (rest answer)
  | .ask .proceed rest => (proceeding position next).bind fun outcome => HookScript.told (rest outcome)

def hookTold (script : HookScript app Result) : ToldScript app Result := do
  tell (.mark (.hookStarted position))
  let result ← HookScript.told position next script
  tell (.mark (.hookEnded position))
  pure result

def Advice.told (code : Code app) (invocation : Invocation app) :
    Advice app.Hook → ToldScript app (Outcome app)
  | .before hook => do
    match ← hookTold position next (code.before hook invocation) with
    | .error failure => pure (.error failure)
    | .ok () => proceeding position next
  | .afterReturning hook => do
    match ← proceeding position next with
    | .error failure => pure (.error failure)
    | .ok result =>
      match ← hookTold position next (code.afterReturning hook result invocation) with
      | .error failure => pure (.error failure)
      | .ok () => pure (.ok result)
  | .afterThrowing hook => do
    match ← proceeding position next with
    | .ok result => pure (.ok result)
    | .error failure =>
      match ← hookTold position next (code.afterThrowing hook failure invocation) with
      | .error other => pure (.error other)
      | .ok result =>
        tell (.mark (.suppressed position))
        pure (.ok result)
  | .afterFinally hook => do
    let outcome ← proceeding position next
    hookTold position next (code.afterFinally hook invocation)
    pure outcome
  | .interceptor hook => HookScript.told position next (code.around hook invocation)

def entered (isTarget : Bool) (body : ToldScript app (Outcome app)) : ToldScript app (Outcome app) := do
  tell (.mark (.opened position isTarget))
  let outcome ← body
  tell (.mark (.closed position outcome.isOk))
  pure outcome

end Programs

-- Whoever proceeds behind the target is turned away.
def turnedAway : ToldScript app (Outcome app) :=
  .done (.error (.chain (.alreadyProceeded .targetInvoked)))

def Passage.told (code : Code app) (passage : Passage app) :
    Nat → List (Advice app.Hook) → ToldScript app (Outcome app)
  | position, [] =>
    entered position true
      (HookScript.told position turnedAway (code.target passage.targetMethod passage.invocation))
  | position, advice :: rest =>
    entered position false (advice.told position (passage.told code (position + 1) rest) code
      passage.invocation)

section Silence

variable (position : Nat) (next : ToldScript app (Outcome app))

theorem silence_hook (script : HookScript app Result) :
    silence (HookScript.told position next script) = HookScript.within (silence next) script := by
  induction script with
  | done result => rfl
  | ask operation rest ih =>
    cases operation with
    | common operation => simp only [HookScript.told, silence, HookScript.within, ih]
    | proceed =>
      simp only [HookScript.told, HookScript.within, silence_bind, ih]
      rfl

theorem silence_hookTold (script : HookScript app Result) :
    silence (hookTold position next script) = hooked position (silence next) script := by
  simp only [hookTold, hooked, Program.bind_eq, silence_bind, silence_hook]
  rfl

theorem silence_advice (code : Code app) (invocation : Invocation app) (advice : Advice app.Hook) :
    silence (advice.told position next code invocation) =
      advice.marked code invocation position (silence next) := by
  cases advice with
  | before hook =>
    simp only [Advice.told, Advice.marked, Program.bind_eq, silence_bind, silence_hookTold]
    refine congrArg _ (funext fun outcome => ?_)
    cases outcome <;> rfl
  | afterReturning hook =>
    simp only [Advice.told, Advice.marked, Program.bind_eq, silence_bind]
    refine congrArg _ (funext fun outcome => ?_)
    cases outcome with
    | error failure => rfl
    | ok result =>
      simp only [silence_bind, silence_hookTold]
      refine congrArg _ (funext fun verdict => ?_)
      cases verdict <;> rfl
  | afterThrowing hook =>
    simp only [Advice.told, Advice.marked, Program.bind_eq, silence_bind]
    refine congrArg _ (funext fun outcome => ?_)
    cases outcome with
    | ok result => rfl
    | error failure =>
      simp only [silence_bind, silence_hookTold]
      refine congrArg _ (funext fun verdict => ?_)
      cases verdict <;> rfl
  | afterFinally hook =>
    simp only [Advice.told, Advice.marked, Program.bind_eq, silence_bind, silence_hookTold]
    rfl
  | interceptor hook => exact silence_hook position next _

theorem silence_entered (isTarget : Bool) (body : ToldScript app (Outcome app)) :
    silence (entered position isTarget body) = surrounded position isTarget (silence body) := by
  simp only [entered, surrounded, Program.bind_eq, silence_bind]
  rfl

end Silence

theorem silence_told (code : Code app) (passage : Passage app) (position : Nat)
    (rest : List (Advice app.Hook)) :
    silence (passage.told code position rest) = passage.remaining code position rest := by
  induction rest generalizing position with
  | nil =>
    rw [Passage.told, Passage.remaining, silence_entered, silence_hook]
    rfl
  | cons advice rest ih => rw [Passage.told, Passage.remaining, silence_entered, silence_advice, ih]

def Happening.mark? : Happening → Option Mark
  | .mark noted => some noted
  | .proceeded _ => none

def Step.markOf? (chain : ChainId) (step : Step app) : Option Mark :=
  if step.passage? = some chain then
    match step with
    | .opened _ position isTarget _ _ => some (.opened position isTarget)
    | .closed _ position succeeded => some (.closed position succeeded)
    | .hookStarted _ position => some (.hookStarted position)
    | .hookEnded _ position => some (.hookEnded position)
    | .suppressed _ position _ => some (.suppressed position)
    | _ => none
  else none

def World.marks (world : World app) (chain : ChainId) : List Mark :=
  world.history.filterMap (Step.markOf? chain)

def World.Begun (world : World app) (chain : ChainId) : Prop :=
  ∃ progress, world.progress? chain = some progress ∧ progress ≠ .created

def Untouched (chain : ChainId) (before after : World app) : Prop :=
  before.Begun chain → after.Begun chain ∧ after.marks chain = before.marks chain

section Untouched

variable {chain : ChainId} {before after : World app}

theorem Untouched.trans {first middle last : World app} (before : Untouched chain first middle)
    (rest : Untouched chain middle last) : Untouched chain first last := by
  intro begun
  obtain ⟨still, same⟩ := before begun
  obtain ⟨last, last_same⟩ := rest still
  exact ⟨last, last_same.trans same⟩

theorem marks_note (world : World app) (chain : ChainId) (step : Step app) :
    (world.note step).marks chain = world.marks chain ++ (step.markOf? chain).toList := by
  simp only [World.marks, World.history, World.note, List.reverse_cons, List.filterMap_append]
  cases found : step.markOf? chain <;> simp [found]

theorem marks_finished (world : World app) (ended chain : ChainId) (method : Method) (progress : Progress) :
    (world.finished ended method progress).marks chain = world.marks chain := by
  rw [World.finished, marks_note]
  simp [Step.markOf?, World.marks, World.history, World.mapChain]

theorem marks_of_steps {steps : List (Step app)} (grown : after.journal = steps ++ before.journal)
    (outside : ∀ step ∈ steps, step.passage? ≠ some chain) : after.marks chain = before.marks chain := by
  have none : steps.reverse.filterMap (Step.markOf? chain) = [] := by
    refine List.filterMap_eq_nil_iff.mpr fun step member => ?_
    exact if_neg (outside step (List.mem_reverse.mp member))
  simp only [World.marks, World.history, grown, List.reverse_append, List.filterMap_append, none,
    List.append_nil]

theorem Still.untouched (still : Still before after) : Untouched chain before after := by
  rintro ⟨progress, known, begun⟩
  obtain ⟨steps, grown, outside⟩ := still.journal
  refine ⟨⟨progress, still.kept known, begun⟩, marks_of_steps grown fun step member => ?_⟩
  simp [outside step member]

theorem untouched_of_other {step : Step app} (other : step.passage? ≠ some chain)
    (stands : after.progress? chain = before.progress? chain)
    (journal : after.journal = step :: before.journal) : Untouched chain before after := by
  rintro ⟨progress, known, begun⟩
  have outside : ∀ passed ∈ [step], passed.passage? ≠ some chain := by simpa using other
  exact ⟨⟨progress, stands.trans known, begun⟩, marks_of_steps journal outside⟩

theorem PassageMove.untouched {passage : Passage app} (move : PassageMove passage before after)
    (other : passage.chain ≠ chain) : Untouched chain before after := by
  cases move with
  | note step passing unmoved =>
    refine untouched_of_other ?_ rfl rfl
    rw [passing]
    simpa using other
  | opened position isTarget =>
    refine untouched_of_other ?_
      ((before.progress?_opened passage position isTarget chain).trans (if_neg other)) rfl
    simpa [Step.passage?] using other

end Untouched

-- While a chain is under way nothing but its own passage touches it.
theorem perform_untouched (code : Code app) (chain : ChainId) (budget : Nat) :
    (Discipline.keeping (Untouched chain) Untouched.trans).Answers (fun _ => perform code budget) ∧
      ∀ passage : Passage app, passage.chain ≠ chain → ∀ position world,
        (Discipline.keeping (Untouched chain) Untouched.trans).Holds world fun _ : Unit =>
          perform code budget (.proceed passage position) world := by
  induction budget with
  | zero =>
    constructor
    · intro operation world answer after answered
      cases answered
    · intro passage _ position world answer after answered
      cases answered
  | succ budget ih =>
    obtain ⟨answered, proceeds⟩ := ih
    have plain {world after : World app} (move : PlainMove world after) : Untouched chain world after :=
      move.still.untouched
    have careful {world after : World app} (move : CarefulMove world after) := plain move.plain
    have stays (world : World app) : Untouched chain world world := plain (.stay world)
    have produced (factory : FactoryId) (recipe : RecipeFactory app) (world : World app)
        (_ : world.factory? factory = some (.recipe recipe)) :=
      Discipline.produceByRecipe_holds code careful answered (fun move => move.still.untouched) factory recipe
        world
    constructor
    · refine fun operation => Discipline.carryOut_holds code careful answered produced
        (Discipline.build_holds code careful answered produced fun world home => plain (.grant world home))
        ?_ operation
      · intro driven world outcome after drove
        change driveChain (perform code budget) driven world = _ at drove
        cases known : world.chain? driven with
        | none =>
          rw [driveChain_unknown known] at drove
          cases drove
          exact stays world
        | some cell =>
          by_cases unstarted : cell.progress = .created
          · cases complete : cell.chain.passage driven with
            | error piece =>
              rw [driveChain_unready known unstarted complete] at drove
              cases drove
              exact stays world
            | ok passage =>
              rw [driveChain_started known unstarted complete] at drove
              obtain ⟨⟨proceeded, middle⟩, passed, ended⟩ := Option.bind_eq_some_iff.mp drove
              cases ended
              obtain rfl := passage_chain complete
              rintro ⟨progress, stands, begun⟩
              have other : passage.chain ≠ chain := by
                rintro rfl
                simp only [World.progress?, known, Option.map_some, Option.some.injEq] at stands
                exact begun (stands.symm.trans unstarted)
              refine Untouched.trans (proceeds passage other 0 world _ _ passed) ?_ ⟨progress, stands, begun⟩
              exact untouched_of_other (by simpa [Step.passage?] using other)
                ((middle.progress?_finished passage.chain chain _ _).trans (if_neg other)) rfl
          · rw [driveChain_refused known unstarted] at drove
            cases drove
            exact stays world
    · intro passage other position
      exact Discipline.proceedAt_holds code careful answered (fun move => move.untouched other) position
        (proceeds passage other (position + 1))

theorem unbounded_untouched (code : Code app) (chain : ChainId) {operation : Operation app}
    {world after : World app} {answer : operation.Answer}
    (answered : unbounded code (.request operation) world = some (answer, after)) :
    Untouched chain world after := by
  obtain ⟨budget, performed⟩ := unbounded_eq_some_iff.mp answered
  exact (perform_untouched code chain budget).1 operation world answer after performed

section Recounting

variable {passage : Passage app} {world moved after : World app} {result : Result} {account : List Happening}

theorem make_mark (passage : Passage app) (mark : Mark) (world : World app) : ∃ moved,
    mark.make passage world = some ((), moved) ∧
    moved.marks passage.chain = world.marks passage.chain ++ [mark] ∧
    (world.Begun passage.chain → moved.Begun passage.chain) ∧
    ∀ position isTarget, mark = .opened position isTarget → (world.progress? passage.chain).isSome →
      moved.Begun passage.chain := by
  cases mark with
  | opened position isTarget =>
    have moves := world.progress?_opened passage position isTarget passage.chain
    rw [if_pos rfl] at moves
    have begins (known : (world.progress? passage.chain).isSome) :
        (world.opened passage position isTarget).Begun passage.chain := by
      obtain ⟨progress, found⟩ := Option.isSome_iff_exists.mp known
      rw [found] at moves
      exact ⟨_, moves, Progress.ne_created_of_le (progress.le_advance _).2
        (Progress.entering_started position isTarget).1⟩
    refine ⟨world.opened passage position isTarget, rfl, ?_,
      fun ⟨progress, known, _⟩ => begins (by simp [known]), fun _ _ _ known => begins known⟩
    rw [World.opened, marks_note]
    simp [Step.markOf?, Step.passage?, World.marks, World.history, World.mapChain]
  | closed _ _ | hookStarted _ | hookEnded _ | suppressed _ =>
    refine ⟨_, rfl, ?_, id, fun _ _ same => ?_⟩
    · rw [marks_note]
      simp [Step.markOf?, Step.passage?]
    · cases same

theorem recount_mark {handle : Handler app} {mark : Mark} {next : Unit → ToldScript app Result}
    (made : mark.make passage world = some ((), moved))
    (ran : (recount (.ask (.happen (.mark mark)) next)).run (handle.marking passage) world =
      some ((result, account), after)) :
    ∃ rest, account = .mark mark :: rest ∧
      (recount (next ())).run (handle.marking passage) moved = some ((result, rest), after) := by
  change (mark.make passage >>= fun _ => Program.run _ (Program.bind _ _)) world = _ at ran
  rw [Eval.bind_apply, made, Option.bind_some, Program.run_bind] at ran
  obtain ⟨⟨inner, rest⟩, middle, told, ended⟩ := Eval.bind_eq_some_iff.mp ran
  cases ended
  exact ⟨rest, rfl, told⟩

theorem recount_run {holds : Result → List Happening → Prop} {program : ToldScript app Result}
    (tells : Tells holds program) (begun : world.Begun passage.chain)
    (ran : (recount program).run ((unbounded code).marking passage) world = some ((result, account), after)) :
    holds result account ∧
      after.marks passage.chain = world.marks passage.chain ++ account.filterMap Happening.mark? := by
  induction program generalizing world account holds with
  | done result =>
    cases ran
    exact ⟨tells, by simp⟩
  | ask operation next ih =>
    cases operation with
    | common operation =>
      obtain ⟨answer, middle, answered, rest⟩ := Eval.bind_eq_some_iff.mp ran
      obtain ⟨still, same⟩ := unbounded_untouched code passage.chain answered begun
      rw [← same]
      exact ih answer (tells answer) still rest
    | happen happening =>
      cases happening with
      | proceeded position =>
        rw [recount, Program.run_bind] at ran
        obtain ⟨⟨inner, rest⟩, middle, told, ended⟩ := Eval.bind_eq_some_iff.mp ran
        cases ended
        obtain ⟨held, marks⟩ := ih () (tells_happen.mp tells) begun told
        exact ⟨held, marks⟩
      | mark mark =>
        obtain ⟨moved, made, marked, begins, _⟩ := make_mark passage mark world
        obtain ⟨rest, rfl, told⟩ := recount_mark made ran
        obtain ⟨held, marks⟩ := ih () (tells_happen.mp tells) (begins begun) told
        exact ⟨held, by simp [marks, marked, Happening.mark?]⟩

theorem recount_opened {holds : Result → List Happening → Prop} {position : Nat} {isTarget : Bool}
    {next : Unit → ToldScript app Result}
    (tells : Tells holds (.ask (.happen (.mark (.opened position isTarget))) next))
    (known : (world.progress? passage.chain).isSome)
    (ran : (recount (.ask (.happen (.mark (.opened position isTarget))) next)).run
      ((unbounded code).marking passage) world = some ((result, account), after)) :
    holds result account ∧
      after.marks passage.chain = world.marks passage.chain ++ account.filterMap Happening.mark? := by
  obtain ⟨moved, made, marked, _, begins⟩ := make_mark passage (.opened position isTarget) world
  obtain ⟨rest, rfl, told⟩ := recount_mark made ran
  obtain ⟨held, marks⟩ := recount_run (tells_happen.mp tells) (begins position isTarget rfl known) told
  exact ⟨held, by simp [marks, marked, Happening.mark?]⟩

end Recounting

def Passage.recounted (code : Code app) (passage : Passage app) :
    MarkedScript app (Outcome app × List Happening) :=
  recount (passage.told code 0 passage.advices)

theorem recounted_run {passage : Passage app} {world after : World app} {outcome : Outcome app}
    {account : List Happening} {holds : Outcome app → List Happening → Prop}
    (tells : Tells holds (passage.told code 0 passage.advices))
    (known : (world.progress? passage.chain).isSome)
    (ran : (passage.recounted code).run ((unbounded code).marking passage) world =
      some ((outcome, account), after)) :
    holds outcome account ∧
      after.marks passage.chain = world.marks passage.chain ++ account.filterMap Happening.mark? := by
  unfold Passage.recounted at ran
  cases advices : passage.advices <;> rw [advices] at ran tells <;> exact recount_opened tells known ran

theorem drive_eq_recounted (code : Code app) {world : World app} {chain : ChainId} {cell : ChainCell app}
    {passage : Passage app} (known : world.chain? chain = some cell) (unstarted : cell.progress = .created)
    (complete : cell.chain.passage chain = .ok passage) :
    unbounded code (.request (.driveChain chain)) world =
      ((passage.recounted code).run ((unbounded code).marking passage) world).map fun told =>
        (told.1.1, told.2.finished chain passage.invocation.method (ending told.1.1)) := by
  rw [drive_eq_conduct code known unstarted complete, ← silence_told, ← recount_silence, Passage.conduct,
    Program.run_bind, Eval.bind_apply, Eval.bind_apply]
  obtain rfl := passage_chain complete
  unfold Passage.recounted
  cases (recount (passage.told code 0 passage.advices)).run ((unbounded code).marking passage) world <;> rfl

end BeanRegistry
