import BeanRegistry.Proofs.Chain.Marked
import BeanRegistry.Proofs.Run.Requests
import BeanRegistry.Proofs.Sample

set_option autoImplicit false

namespace BeanRegistry

variable {app : Application} {Result Other : Type}

open MarkedScript

def HookScript.around (rest : Script app (Outcome app)) : HookScript app Result → Script app Result
  | .done result => .done result
  | .ask (.common operation) next =>
    .ask operation fun answer => HookScript.around rest (next answer)
  | .ask .proceed next => rest.bind fun outcome => HookScript.around rest (next outcome)

def HookScript.proceed : HookScript app (Outcome app) :=
  .ask .proceed .done

def Advice.program (code : Code app) (invocation : Invocation app) :
    Advice app.Hook → HookScript app (Outcome app)
  | .before hook => do
    match ← code.before hook invocation with
    | .error failure => pure (.error failure)
    | .ok () => HookScript.proceed
  | .afterReturning hook => do
    match ← HookScript.proceed with
    | .error failure => pure (.error failure)
    | .ok result =>
      match ← code.afterReturning hook result invocation with
      | .error failure => pure (.error failure)
      | .ok () => pure (.ok result)
  | .afterThrowing hook => do
    match ← HookScript.proceed with
    | .ok result => pure (.ok result)
    | .error failure => code.afterThrowing hook failure invocation
  | .afterFinally hook => do
    let outcome ← HookScript.proceed
    code.afterFinally hook invocation
    pure outcome
  | .interceptor hook => code.around hook invocation

-- The first program is outermost; the target has nothing left to proceed to.
def nested (interceptors : List (HookScript app (Outcome app)))
    (target : HookScript app (Outcome app)) : Script app (Outcome app) :=
  interceptors.foldr (fun interceptor rest => HookScript.around rest interceptor)
    (HookScript.around (.done (.error (.chain (.alreadyProceeded .targetInvoked)))) target)

def Passage.nested (code : Code app) (passage : Passage app) : Script app (Outcome app) :=
  BeanRegistry.nested (passage.advices.map (Advice.program code passage.invocation))
    (code.target passage.targetMethod passage.invocation)

theorem around_bind (rest : Script app (Outcome app)) (program : HookScript app Result)
    (next : Result → HookScript app Other) :
    HookScript.around rest (program.bind next) =
      (HookScript.around rest program).bind fun result => HookScript.around rest (next result) := by
  induction program with
  | done result => rfl
  | ask operation _ ih =>
    cases operation with
    | common operation => simp only [Program.bind, HookScript.around, ih]
    | proceed => simp only [Program.bind, HookScript.around, ih, Program.bind_assoc]

theorem around_proceed (rest : Script app (Outcome app)) :
    HookScript.around rest HookScript.proceed = rest :=
  Program.bind_done rest

theorem erase_within (rest : MarkedScript app (Outcome app)) (script : HookScript app Result) :
    erase (HookScript.within rest script) = HookScript.around (erase rest) script := by
  induction script with
  | done result => rfl
  | ask operation next ih =>
    cases operation with
    | common operation => simp only [HookScript.within, HookScript.around, erase, ih]
    | proceed => simp only [HookScript.within, HookScript.around, erase_bind, ih]

theorem erase_hooked (position : Nat) (rest : MarkedScript app (Outcome app))
    (script : HookScript app Result) :
    erase (hooked position rest script) = HookScript.around (erase rest) script := by
  change erase ((HookScript.within rest script).bind fun result => _) = _
  rw [erase_bind, erase_within]
  exact Program.bind_done _

theorem erase_marked (code : Code app) (invocation : Invocation app) (position : Nat)
    (rest : MarkedScript app (Outcome app)) (advice : Advice app.Hook) :
    erase (advice.marked code invocation position rest) =
      HookScript.around (erase rest) (advice.program code invocation) := by
  cases advice with
  | before hook =>
    simp only [Advice.marked, Advice.program, Program.bind_eq, erase_bind, around_bind, erase_hooked]
    refine congrArg _ (funext fun outcome => ?_)
    cases outcome with
    | error failure => rfl
    | ok _ => exact (around_proceed _).symm
  | afterReturning hook =>
    simp only [Advice.marked, Advice.program, Program.bind_eq, erase_bind, around_bind,
      around_proceed]
    refine congrArg _ (funext fun outcome => ?_)
    cases outcome with
    | error failure => rfl
    | ok result =>
      simp only [erase_bind, around_bind, erase_hooked]
      refine congrArg _ (funext fun verdict => ?_)
      cases verdict <;> rfl
  | afterThrowing hook =>
    simp only [Advice.marked, Advice.program, Program.bind_eq, erase_bind, around_bind,
      around_proceed]
    refine congrArg _ (funext fun outcome => ?_)
    cases outcome with
    | ok result => rfl
    | error failure =>
      simp only [erase_bind, erase_hooked]
      refine Eq.trans (congrArg _ (funext fun verdict => ?_)) (Program.bind_done _)
      cases verdict <;> rfl
  | afterFinally hook =>
    simp only [Advice.marked, Advice.program, Program.bind_eq, erase_bind, around_bind,
      around_proceed, erase_hooked]
    rfl
  | interceptor hook => exact erase_within rest _

theorem erase_surrounded (position : Nat) (isTarget : Bool)
    (body : MarkedScript app (Outcome app)) :
    erase (surrounded position isTarget body) = erase body := by
  change erase (body.bind fun outcome => _) = _
  rw [erase_bind]
  exact Program.bind_done _

theorem erase_remaining (code : Code app) (passage : Passage app) (position : Nat)
    (rest : List (Advice app.Hook)) :
    erase (passage.remaining code position rest) =
      nested (rest.map (Advice.program code passage.invocation))
        (code.target passage.targetMethod passage.invocation) := by
  induction rest generalizing position with
  | nil => exact (erase_surrounded _ _ _).trans (erase_within _ _)
  | cons advice rest ih =>
    simp only [Passage.remaining, erase_surrounded, erase_marked, ih, nested, List.map_cons,
      List.foldr_cons]

def HookOperation.Within (Allowed : Operation app → Prop) : HookOperation app → Prop
  | .common operation => Allowed operation
  | .proceed => True

theorem around_every {Allowed : Operation app → Prop} {rest : Script app (Outcome app)}
    (allowed : rest.Every Allowed) {script : HookScript app Result}
    (own : script.Every (HookOperation.Within Allowed)) :
    (HookScript.around rest script).Every Allowed := by
  induction script with
  | done result => trivial
  | ask operation next ih =>
    cases operation with
    | common operation => exact ⟨own.1, fun answer => ih answer (own.2 answer)⟩
    | proceed => exact Program.every_bind allowed fun outcome => ih outcome (own.2 outcome)

theorem nested_every {Allowed : Operation app → Prop}
    {interceptors : List (HookScript app (Outcome app))} {target : HookScript app (Outcome app)}
    (inner : target.Every (HookOperation.Within Allowed))
    (outer : ∀ interceptor ∈ interceptors, interceptor.Every (HookOperation.Within Allowed)) :
    (nested interceptors target).Every Allowed := by
  induction interceptors with
  | nil =>
    have none : (.done (.error (.chain (.alreadyProceeded .targetInvoked))) :
      Script app (Outcome app)).Every Allowed := trivial
    exact around_every none inner
  | cons interceptor rest ih =>
    have allowed := ih fun other member => outer other (by simp [member])
    exact around_every allowed (outer interceptor (by simp))

def OpensWithin (count : Nat) : MarkedOperation app → Prop
  | .mark (.opened position false) => position < count
  | .mark (.opened position true) => position = count
  | _ => True

theorem mark_every {Allowed : MarkedOperation app → Prop} {made : Mark}
    (allowed : Allowed (.mark made)) : (mark made).Every Allowed :=
  ⟨allowed, fun _ => trivial⟩

theorem within_opens {count : Nat} {rest : MarkedScript app (Outcome app)}
    (opens : rest.Every (OpensWithin count)) (script : HookScript app Result) :
    (HookScript.within rest script).Every (OpensWithin count) := by
  induction script with
  | done result => trivial
  | ask operation next ih =>
    cases operation with
    | common operation => exact ⟨trivial, ih⟩
    | proceed => exact Program.every_bind opens ih

theorem hooked_opens {count : Nat} {rest : MarkedScript app (Outcome app)} (position : Nat)
    (opens : rest.Every (OpensWithin count)) (script : HookScript app Result) :
    (hooked position rest script).Every (OpensWithin count) := by
  refine Program.every_bind (mark_every trivial) fun _ => ?_
  refine Program.every_bind (within_opens opens script) fun result => ?_
  exact Program.every_bind (mark_every trivial) fun _ => trivial

theorem marked_opens {count : Nat} {rest : MarkedScript app (Outcome app)} (code : Code app)
    (invocation : Invocation app) (position : Nat) (opens : rest.Every (OpensWithin count))
    (advice : Advice app.Hook) :
    (advice.marked code invocation position rest).Every (OpensWithin count) := by
  cases advice with
  | before hook =>
    refine Program.every_bind (hooked_opens position opens _) fun outcome => ?_
    cases outcome with
    | error failure => trivial
    | ok _ => exact opens
  | afterReturning hook =>
    refine Program.every_bind opens fun outcome => ?_
    cases outcome with
    | error failure => trivial
    | ok result =>
      refine Program.every_bind (hooked_opens position opens _) fun verdict => ?_
      cases verdict <;> trivial
  | afterThrowing hook =>
    refine Program.every_bind opens fun outcome => ?_
    cases outcome with
    | ok result => trivial
    | error failure =>
      refine Program.every_bind (hooked_opens position opens _) fun verdict => ?_
      cases verdict with
      | error other => trivial
      | ok result => exact ⟨trivial, fun _ => trivial⟩
  | afterFinally hook =>
    refine Program.every_bind opens fun outcome => ?_
    exact Program.every_bind (hooked_opens position opens _) fun _ => trivial
  | interceptor hook => exact within_opens opens _

theorem surrounded_opens {count : Nat} {body : MarkedScript app (Outcome app)} {position : Nat}
    {isTarget : Bool}
    (inside : OpensWithin count (.mark (.opened position isTarget) : MarkedOperation app))
    (opens : body.Every (OpensWithin count)) :
    (surrounded position isTarget body).Every (OpensWithin count) := by
  refine Program.every_bind (mark_every inside) fun _ => ?_
  refine Program.every_bind opens fun outcome => ?_
  exact Program.every_bind (mark_every trivial) fun _ => trivial

theorem remaining_opens (code : Code app) (passage : Passage app) (position : Nat)
    (rest : List (Advice app.Hook)) (length : position + rest.length = passage.advices.length) :
    (passage.remaining code position rest).Every (OpensWithin passage.advices.length) := by
  induction rest generalizing position with
  | nil =>
    have none : (exhausted : MarkedScript app (Outcome app)).Every
      (OpensWithin passage.advices.length) := trivial
    exact surrounded_opens length (within_opens none _)
  | cons advice rest ih =>
    rw [List.length_cons] at length
    have inside : position < passage.advices.length := by omega
    have opens := ih (position + 1) (by omega)
    exact surrounded_opens inside (marked_opens code passage.invocation position opens advice)

def World.without (world : World app) (chain : ChainId) : World app :=
  { world.mapChain chain fun cell => { cell with progress := .created } with
    journal := world.journal.filter fun step => step.passage? ≠ some chain }

def apart (chain : ChainId) (answered : Option (Result × World app)) :
    Option (Result × World app) :=
  answered.map fun answer => (answer.1, answer.2.without chain)

def Overlooks (handle : Handler app) (chain : ChainId) (operation : Operation app) : Prop :=
  ∀ left right : World app, left.without chain = right.without chain →
    apart chain (handle (.request operation) left) = apart chain (handle (.request operation) right)

theorem without_note (world : World app) (chain : ChainId) {step : Step app}
    (passing : step.passage? = some chain) : (world.note step).without chain = world.without chain := by
  simp [World.without, World.note, World.mapChain, passing]

theorem without_note_outside (world : World app) (chain : ChainId) {step : Step app}
    (outside : step.passage? = none) :
    (world.note step).without chain = (world.without chain).note step := by
  simp [World.without, World.note, World.mapChain, outside]

theorem without_progress (world : World app) (chain : ChainId) (change : Progress → Progress) :
    (world.mapChain chain fun cell => { cell with progress := change cell.progress }).without chain =
      world.without chain := by
  simp only [World.without, World.mapChain]
  congr 1
  apply Array.toList_inj.mp
  simp only [Array.toList_modify, List.modify_modify_eq]
  rfl

theorem make_without (passage : Passage app) (mark : Mark) (world : World app) :
    ∃ after, mark.make passage world = some ((), after) ∧
      after.without passage.chain = world.without passage.chain := by
  cases mark with
  | opened position isTarget =>
    refine ⟨_, rfl, ?_⟩
    rw [without_note _ _ rfl]
    exact without_progress world passage.chain fun progress => progress.advance _
  | closed _ _ | hookStarted _ | hookEnded _ | suppressed _ => exact ⟨_, rfl, without_note _ _ rfl⟩

theorem emit_overlooks (code : Code app) (chain : ChainId) (event : app.Event) :
    Overlooks (unbounded code) chain (.emit event) := by
  intro left right same
  rw [unbounded_request]
  refine congrArg (fun world => some ((), world)) ?_
  rw [without_note_outside _ _ rfl, same, ← without_note_outside _ _ rfl]

-- Requests that overlook the chain cannot tell a marked program from the program itself.
theorem run_apart (handle : Handler app) (passage : Passage app) (program : MarkedScript app Result)
    (overlooking : (erase program).Every (Overlooks handle passage.chain)) {left right : World app}
    (same : left.without passage.chain = right.without passage.chain) :
    apart passage.chain (program.run (handle.marking passage) left) =
      apart passage.chain ((erase program).run handle.common right) := by
  induction program generalizing left right with
  | done result => exact congrArg (fun world => some (result, world)) same
  | ask operation next ih =>
    cases operation with
    | mark mark =>
      obtain ⟨after, made, unchanged⟩ := make_without passage mark left
      simp only [Program.run, Handler.marking, Eval.bind_apply, made, Option.bind_some, erase]
      exact ih () overlooking (unchanged.trans same)
    | common operation =>
      have asked := overlooking.1 left right same
      simp only [Program.run, Handler.marking, Handler.common, Eval.bind_apply, erase]
      cases first : handle (.request operation) left with
      | none =>
        cases second : handle (.request operation) right with
        | none => rfl
        | some answer => simp [apart, first, second] at asked
      | some answer =>
        cases second : handle (.request operation) right with
        | none => simp [apart, first, second] at asked
        | some other =>
          simp only [apart, first, second, Option.map_some, Option.some.injEq, Prod.mk.injEq] at asked
          simp only [Option.bind_some, asked.1]
          exact ih other.1 (overlooking.2 other.1) asked.2

theorem conduct_apart (passage : Passage app) (handle : Handler app)
    (program : MarkedScript app (Outcome app)) (world : World app) :
    apart passage.chain (passage.conduct handle program world) =
      apart passage.chain (program.run (handle.marking passage) world) := by
  simp only [Passage.conduct, Eval.bind_apply]
  cases program.run (handle.marking passage) world with
  | none => rfl
  | some answer =>
    refine congrArg (fun world => some (answer.1, world)) ?_
    rw [without_note _ _ rfl]
    exact without_progress answer.2 passage.chain fun _ => _

theorem drive_refines_nested (code : Code app) {world : World app} {chain : ChainId}
    {cell : ChainCell app} {passage : Passage app} (known : world.chain? chain = some cell)
    (unstarted : cell.progress = .created) (complete : cell.chain.passage chain = .ok passage) :
    ∃ marked : MarkedScript app (Outcome app),
      erase marked = passage.nested code ∧
      marked.Every (OpensWithin passage.advices.length) ∧
      unbounded code (.request (.driveChain chain)) world =
        passage.conduct (unbounded code) marked world ∧
      ((passage.nested code).Every (Overlooks (unbounded code) chain) →
        apart chain (unbounded code (.request (.driveChain chain)) world) =
          apart chain ((unbounded code).script (passage.nested code) world)) := by
  have driven := drive_eq_conduct code known unstarted complete
  have erased := erase_remaining code passage 0 passage.advices
  have opens := remaining_opens code passage 0 passage.advices (Nat.zero_add _)
  refine ⟨passage.remaining code 0 passage.advices, erased, opens, driven, fun overlooking => ?_⟩
  obtain rfl := passage_chain complete
  rw [driven, conduct_apart, run_apart _ _ _ (erased ▸ overlooking) rfl, erased]
  rfl

theorem retrying_drive_refines_nested :
    let passage := Sample.passage [.interceptor .retry, .afterFinally .heed, .before .refuse]
    let world := Sample.configured passage
    (world.chain? passage.chain).map ChainCell.progress = some .created ∧
      (passage.nested Sample.code).Every (Overlooks (unbounded Sample.code) passage.chain) ∧
      ∃ marked : MarkedScript Sample.app (Outcome Sample.app),
        erase marked = passage.nested Sample.code ∧
        marked.Every (OpensWithin passage.advices.length) ∧
        unbounded Sample.code (.request (.driveChain passage.chain)) world =
          passage.conduct (unbounded Sample.code) marked world ∧
        apart passage.chain (unbounded Sample.code (.request (.driveChain passage.chain)) world) =
          apart passage.chain
            ((unbounded Sample.code).script (passage.nested Sample.code) world) := by
  intro passage world
  have emits (event : String) := emit_overlooks Sample.code passage.chain event
  have overlooking : (passage.nested Sample.code).Every
      (Overlooks (unbounded Sample.code) passage.chain) := by
    refine nested_every ⟨emits _, fun _ => trivial⟩ fun interceptor member => ?_
    simp only [passage, Sample.passage, List.map_cons, List.map_nil, List.mem_cons,
      List.not_mem_nil, or_false] at member
    rcases member with rfl | rfl | rfl
    · refine ⟨emits _, fun _ => ⟨trivial, fun outcome => ?_⟩⟩
      cases outcome with
      | error failure => exact ⟨trivial, fun _ => trivial⟩
      | ok value => trivial
    · exact ⟨trivial, fun outcome => ⟨emits _, fun _ => trivial⟩⟩
    · exact ⟨emits _, fun _ => trivial⟩
  have complete : (Sample.chain passage).passage passage.chain = .ok passage := rfl
  have known : world.chain? passage.chain = some ⟨Sample.chain passage, .created⟩ := rfl
  obtain ⟨marked, erased, opens, driven, alike⟩ :=
    drive_refines_nested Sample.code known rfl complete
  exact ⟨rfl, overlooking, marked, erased, opens, driven, alike overlooking⟩

end BeanRegistry
