import BeanRegistry.Run

set_option autoImplicit false

namespace BeanRegistry

variable {app : Application} {Index : Type}

theorem Eval.bind_apply {Result Other : Type} (first : Eval app Result)
    (next : Result → Eval app Other) (world : World app) :
    (first >>= next) world = (first world).bind fun answer => next answer.1 answer.2 :=
  rfl

theorem Eval.bind_eq_some_iff {Result Other : Type} {first : Eval app Result}
    {next : Result → Eval app Other} {world after : World app} {other : Other} :
    (first >>= next) world = some (other, after) ↔
      ∃ result middle, first world = some (result, middle) ∧
        next result middle = some (other, after) := by
  simp only [Bind.bind, StateT.bind, Option.bind_eq_some_iff, Prod.exists]

theorem Eval.get_bind {Result : Type} (next : World app → Eval app Result) (world : World app) :
    (get >>= next) world = next world world :=
  rfl

theorem Eval.noteGuards_bind {Result : Type} (step : Guards → Step app)
    (next : Unit → Eval app Result) (world : World app) :
    (Eval.noteGuards step >>= next) world = next () (world.note (step world.guards)) :=
  rfl

def Step.production? : Step app → Option FactoryId
  | .refused factory _ | .entered factory _ | .creating factory _ | .followingUp factory _
  | .unwrapping factory _ _ | .kept factory _ | .left factory _ _ => some factory
  | _ => none

def Step.passage? : Step app → Option ChainId
  | .opened chain _ _ _ _ | .closed chain _ _ | .hookStarted chain _ | .hookEnded chain _
  | .suppressed chain _ _ | .finished chain _ _ => some chain
  | _ => none

-- The moves that belong neither to a production nor to the passage of a chain.
inductive PlainMove : World app → World app → Prop where
  | stay (world : World app) : PlainMove world world
  | note (world : World app) (step : Step app) (unproductive : step.production? = none)
      (outside : step.passage? = none) : PlainMove world (world.note step)
  | remember (world : World app) (memory : app.Memory) : PlainMove world { world with memory }
  | learnName (world : World app) (factory : FactoryId) (name : String) :
      PlainMove world (world.mapFactory factory fun learner => learner.learnName name)
  | learnRegistry (world : World app) (factory : FactoryId) (registry : RegistryId) :
      PlainMove world (world.mapFactory factory fun learner => learner.learnRegistry registry)
  | addObject (world : World app) (content : app.Content) :
      PlainMove world (world.addObject content).2
  | addRecipe (world : World app) (scope : Scope) (recipe : app.Recipe) :
      PlainMove world (world.addFactory (.recipe (.ofRecipe scope recipe))).2
  | addCustom (world : World app) (custom : CustomFactory app) :
      PlainMove world (world.addFactory (.custom custom)).2
  | addRegistry (world : World app) (declarations : Declarations) (registry : Registry)
      (described : declarations.registry = .ok registry) :
      PlainMove world (world.addRegistry registry).2
  | grant (world : World app) (registry : RegistryId) : PlainMove world (world.grant registry).2
  | release (world : World app) (owner : Owner) : PlainMove world (world.release owner)
  | addChain (world : World app) (chain : Chain app) : PlainMove world (world.addChain chain).2
  | configure (world : World app) (chain : ChainId) (settings : List (ChainSetting app)) :
      PlainMove world (world.mapChain chain fun cell =>
        { cell with chain := cell.chain.configure settings })

def Step.owner? : Step app → Option Owner
  | .granted owner | .released owner => some owner
  | _ => none

def World.books (world : World app) : Array (List Nat) × List (Step app) :=
  (world.registries.map RegistryCell.owners, world.journal.filter fun step => step.owner?.isSome)

-- A registry gets no further share unless it has one already.
inductive CarefulMove : World app → World app → Prop where
  | aside {world after : World app} (move : PlainMove world after) (apart : after.books = world.books) :
      CarefulMove world after
  | addRegistry (world : World app) (declarations : Declarations) (registry : Registry)
      (described : declarations.registry = .ok registry) :
      CarefulMove world (world.addRegistry registry).2
  | grant (world : World app) (registry : RegistryId) (alive : world.isActive registry = true) :
      CarefulMove world (world.grant registry).2
  | release (world : World app) (owner : Owner) : CarefulMove world (world.release owner)

namespace CarefulMove

theorem plain {world after : World app} (move : CarefulMove world after) : PlainMove world after := by
  cases move with
  | aside move apart => exact move
  | addRegistry declarations registry described => exact .addRegistry world declarations registry described
  | grant registry alive => exact .grant world registry
  | release owner => exact .release world owner

theorem stay (world : World app) : CarefulMove world world :=
  .aside (.stay world) rfl

theorem note (world : World app) (step : Step app) (unproductive : step.production? = none)
    (outside : step.passage? = none) (unshared : step.owner? = none) : CarefulMove world (world.note step) :=
  .aside (.note world step unproductive outside) (by simp [World.books, World.note, unshared])

end CarefulMove

def Step.progress? : Step app → Option Progress
  | .opened _ _ _ _ progress | .finished _ _ progress => some progress
  | _ => none

namespace World

def opened (world : World app) (passage : Passage app) (position : Nat) (isTarget : Bool) : World app :=
  let reached := if isTarget then Progress.targetInvoked else .running position
  let moved := world.mapChain passage.chain fun cell =>
    { cell with progress := cell.progress.advance reached }
  moved.note (.opened passage.chain position isTarget passage.invocation.method
    (((moved.chain? passage.chain).map ChainCell.progress).getD reached))

def finished (world : World app) (chain : ChainId) (method : Method) (progress : Progress) : World app :=
  (world.mapChain chain fun cell => { cell with progress }).note (.finished chain method progress)

end World

inductive PassageMove (passage : Passage app) : World app → World app → Prop where
  | note (world : World app) (step : Step app) (passing : step.passage? = some passage.chain)
      (unmoved : step.progress? = none) : PassageMove passage world (world.note step)
  | opened (world : World app) (position : Nat) (isTarget : Bool) :
      PassageMove passage world (world.opened passage position isTarget)

inductive ChainMove : World app → World app → Prop where
  | pass {world after : World app} (passage : Passage app) (passed : PassageMove passage world after) :
      ChainMove world after
  | finish (world : World app) (chain : ChainId) (method : Method) (progress : Progress) :
      ChainMove world (world.finished chain method progress)

inductive PipelineMove (factory : FactoryId) : World app → World app → Prop where
  | creating (world : World app) : PipelineMove factory world (world.note (.creating factory world.guards))
  | followingUp (world : World app) :
      PipelineMove factory world (world.note (.followingUp factory world.guards))
  | unwrapping (world : World app) (nested : FactoryId) :
      PipelineMove factory world (world.note (.unwrapping factory nested world.guards))
  | keep (world : World app) (bean : Object app.Content) :
      PipelineMove factory world (world.mapFactory factory fun keeper => keeper.keep bean)
  | kept (world : World app) (name : String) : PipelineMove factory world (world.note (.kept factory name))

inductive ProductionMove : World app → World app → Prop where
  | pipeline {world after : World app} (factory : FactoryId) (passed : PipelineMove factory world after) :
      ProductionMove world after
  | note (world : World app) (step : Step app) (factory : FactoryId)
      (productive : step.production? = some factory) : ProductionMove world (world.note step)
  | guard (world : World app) (guards : Guards) : ProductionMove world (world.withGuards guards)

-- A property of evaluations, several at once, that survives sequencing.
structure Discipline (app : Application) (Index : Type) where
  Allows : World app → World app → Prop
  Holds : {Result : Type} → World app → (Index → Option (Result × World app)) → Prop
  step : ∀ {Result : Type} {world after : World app} (result : Result),
    Allows world after → Holds world fun _ => some (result, after)
  bind : ∀ {Result Other : Type} {world : World app} {first : Index → Eval app Result}
    {next : Index → Result → Eval app Other},
    Holds world (fun index => first index world) →
      (∀ result after, Holds after fun index => next index result after) →
        Holds world fun index => (first index >>= next index) world

namespace Discipline

variable (discipline : Discipline app Index)

def Answers (handle : Index → Handler app) : Prop :=
  ∀ operation world, discipline.Holds world fun index => handle index (.request operation) world

def Handles (handle : Index → Handler app) : Prop :=
  ∀ call world, discipline.Holds world fun index => handle index call world

variable {discipline} {handle : Index → Handler app} {Result : Type}

theorem Handles.answers (handled : discipline.Handles handle) : discipline.Answers handle :=
  fun operation => handled (.request operation)

theorem program_holds {Operation : Type} {Answer : Operation → Type}
    {answer : Index → (operation : Operation) → Eval app (Answer operation)}
    (stay : ∀ world, discipline.Allows world world)
    (answered : ∀ operation world,
      discipline.Holds world fun index => answer index operation world)
    (program : Program Operation Answer Result) (world : World app) :
    discipline.Holds world fun index => program.run (answer index) world := by
  induction program generalizing world with
  | done result => exact discipline.step result (stay world)
  | ask operation next ih => exact discipline.bind (answered operation world) ih

section Rules

variable (code : Code app)
  (plain : ∀ {world after : World app}, CarefulMove world after → discipline.Allows world after)
  (answered : discipline.Answers handle)

include plain answered

theorem script_holds (script : Script app Result) (world : World app) :
    discipline.Holds world fun index => (handle index).script script world :=
  program_holds (fun world => plain (.stay world)) answered script
    world

theorem hook_holds {rest : Index → Eval app (Except Failure (Value app.Content))}
    (continued : ∀ world, discipline.Holds world fun index => rest index world)
    (script : HookScript app Result) (world : World app) :
    discipline.Holds world fun index => (handle index).hook (rest index) script world := by
  refine program_holds (fun world => plain (.stay world)) (fun operation => ?_) script world
  cases operation with
  | common operation => exact answered operation
  | proceed => exact continued

omit answered in
theorem taught_holds {change : World app → World app} {world : World app}
    (taught : CarefulMove world (change world)) {told : Step app} (unproductive : told.production? = none)
    (outside : told.passage? = none) (unshared : told.owner? = none) :
    discipline.Holds world fun _ : Index =>
      (do modify change; Eval.note told; pure true : Eval app Bool) world := by
  refine discipline.bind (discipline.step _ (plain taught)) fun _ _ => ?_
  refine discipline.bind (discipline.step _ (plain (.note _ _ unproductive outside unshared))) fun _ _ => ?_
  exact discipline.step _ (plain (.stay _))

theorem heard_holds (isAware : Bool) {told : Step app} (unproductive : told.production? = none)
    (outside : told.passage? = none) (unshared : told.owner? = none) (script : Script app Unit)
    (world : World app) :
    discipline.Holds world fun index =>
      (do
        if isAware then
          Eval.note told
          (handle index).script script
          pure true
        else pure false : Eval app Bool) world := by
  cases isAware with
  | false => exact discipline.step _ (plain (.stay world))
  | true =>
    refine discipline.bind (discipline.step _ (plain (.note world _ unproductive outside unshared)))
      fun _ _ => ?_
    refine discipline.bind (script_holds plain answered script _) fun _ _ => ?_
    exact discipline.step _ (plain (.stay _))

theorem tellName_holds (factory : FactoryId) (name : String) (world : World app) :
    discipline.Holds world fun index => tellName code (handle index) factory name world := by
  unfold tellName
  refine discipline.bind (discipline.step _ (plain (.stay world))) fun known after => ?_
  cases known.factory? factory with
  | none => exact discipline.step _ (plain (.stay after))
  | some learner =>
    cases learner with
    | recipe _ => exact taught_holds plain (.aside (.learnName after factory name) rfl) rfl rfl rfl
    | custom custom => exact heard_holds plain answered custom.isNameAware rfl rfl rfl _ after

theorem tellRegistry_holds (factory : FactoryId) (registry : RegistryId) (world : World app) :
    discipline.Holds world fun index =>
      tellRegistry code (handle index) factory registry world := by
  unfold tellRegistry
  refine discipline.bind (discipline.step _ (plain (.stay world))) fun known after => ?_
  cases known.factory? factory with
  | none => exact discipline.step _ (plain (.stay after))
  | some learner =>
    cases learner with
    | recipe _ => exact taught_holds plain (.aside (.learnRegistry after factory registry) rfl) rfl rfl rfl
    | custom custom => exact heard_holds plain answered custom.isRegistryAware rfl rfl rfl _ after

end Rules

end Discipline
end BeanRegistry
