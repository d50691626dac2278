import BeanRegistry.Proofs.Registry.Built
import BeanRegistry.Proofs.Registry.Synonyms
import BeanRegistry.Proofs.Run.Persistence
import BeanRegistry.Proofs.Run.Watched

set_option autoImplicit false

namespace BeanRegistry

variable {app : Application} {code : Code app}

def World.owners? (world : World app) (registry : RegistryId) : Option (List Nat) :=
  (world.registryCell? registry).map RegistryCell.owners

namespace World

variable {world after : World app} {registry other : RegistryId}

theorem isHeld_eq (world : World app) (owner : Owner) :
    world.isHeld owner = (world.owners? owner.registry).any (·.contains owner.serial) := by
  unfold isHeld owners?
  cases world.registryCell? owner.registry <;> rfl

theorem isActive_eq (world : World app) (registry : RegistryId) :
    world.isActive registry = (world.owners? registry).any (!·.isEmpty) := by
  unfold isActive owners?
  cases world.registryCell? registry <;> rfl

theorem owners?_books (same : after.books = world.books) (registry : RegistryId) :
    after.owners? registry = world.owners? registry := by
  have read (world : World app) : world.owners? registry = world.books.1[registry.index]? := by
    simp [owners?, registryCell?, books]
  rw [read, read, same]

theorem owners?_mapOwners (world : World app) (registry other : RegistryId) (change : List Nat → List Nat) :
    (world.mapOwners registry change).owners? other =
      if registry = other then (world.owners? other).map change else world.owners? other := by
  obtain ⟨registry⟩ := registry
  obtain ⟨other⟩ := other
  simp only [owners?, registryCell?, mapOwners, Array.getElem?_modify, RegistryId.mk.injEq]
  split
  · cases world.registries[other]? <;> rfl
  · rfl

theorem owners?_addRegistry (world : World app) (added : Registry) (other : RegistryId) :
    (world.addRegistry added).2.owners? other =
      if other = ⟨world.registries.size⟩ then some [] else world.owners? other := by
  obtain ⟨other⟩ := other
  simp only [owners?, registryCell?, addRegistry, Array.getElem?_push, RegistryId.mk.injEq]
  split <;> rfl

theorem owners?_new (world : World app) : world.owners? ⟨world.registries.size⟩ = none := by
  simp [owners?, registryCell?]

end World

theorem ChainMove.books {world after : World app} (move : ChainMove world after) :
    after.books = world.books := by
  have apart {step : Step app} {chain : ChainId} (passing : step.passage? = some chain) :
      step.owner? = none := by
    cases step <;> first | rfl | cases passing
  cases move with
  | finish chain method progress => rfl
  | pass passage passed =>
    cases passed with
    | note step passing _ => simp [World.books, World.note, apart passing]
    | opened position isTarget => rfl

theorem ProductionMove.books {world after : World app} (move : ProductionMove world after) :
    after.books = world.books := by
  have apart {step : Step app} {factory : FactoryId} (productive : step.production? = some factory) :
      step.owner? = none := by
    cases step <;> first | rfl | cases productive
  cases move with
  | pipeline factory passed => cases passed <;> rfl
  | note step factory productive => simp [World.books, World.note, apart productive]
  | guard guards => rfl

section Lending

variable {handle : Handler app} {world : World app} {factory nested : FactoryId}
  {lender borrower : RecipeFactory app}
  (known : world.recipeFactory? factory = some lender) (found : world.recipeFactory? nested = some borrower)

include known found

theorem lendName_books :
    ∃ after, lendName code handle factory nested world = some ((), after) ∧ after.books = world.books := by
  simp only [lendName, Eval.get_bind, known]
  cases lender.name with
  | none => exact ⟨world, rfl, rfl⟩
  | some name => exact ⟨_, discard_eq (tellName_recipe found name), rfl⟩

theorem lendRegistry_books :
    ∃ after, lendRegistry code handle factory nested world = some ((), after) ∧
      after.books = world.books := by
  simp only [lendRegistry, Eval.get_bind, known]
  cases lender.registry with
  | none => exact ⟨world, rfl, rfl⟩
  | some registry => exact ⟨_, discard_eq (tellRegistry_recipe found registry), rfl⟩

theorem lendIdentity_books :
    ∃ after, lendIdentity code handle factory nested world = some ((), after) ∧
      after.books = world.books := by
  obtain ⟨middle, lent, same⟩ := lendName_books known found
  obtain ⟨_, again, _, names⟩ := lendName_recipe code handle known found
  cases lent.symm.trans again
  have told := names nested
  rw [if_pos rfl] at told
  obtain ⟨still, lends⟩ : ∃ still, middle.recipeFactory? factory = some still := by
    rw [names]
    split
    · exact ⟨_, rfl⟩
    · exact ⟨lender, known⟩
  obtain ⟨after, handed, unchanged⟩ := lendRegistry_books lends told
  refine ⟨after, ?_, unchanged.trans same⟩
  rw [lendIdentity, Eval.bind_apply, lent]
  exact handed

end Lending

-- It goes on as long as the shares stay as they are, and survives what is done to them.
structure Shareholding (holds : World app → Prop) : Prop where
  aside : ∀ {world after}, after.books = world.books → world.fresh ≤ after.fresh → holds world → holds after
  addRegistry : ∀ {world} registry, holds world → holds (world.addRegistry registry).2
  grant : ∀ {world registry}, world.isActive registry = true → holds world → holds (world.grant registry).2
  release : ∀ {world} owner, holds world → holds (world.release owner)
  found : ∀ {world noted registry}, holds world →
    Persists (world.addRegistry registry).2 noted → holds noted →
    holds (noted.grant ⟨world.registries.size⟩).2

namespace Shareholding

variable {holds : World app → Prop} (of : Shareholding holds)

include of

theorem careful {world after : World app} (move : CarefulMove world after) (held : holds world) :
    holds after := by
  cases move with
  | aside move apart => exact of.aside apart move.persists.fresh held
  | addRegistry _ registry _ => exact of.addRegistry registry held
  | grant registry alive => exact of.grant alive held
  | release owner => exact of.release owner held

theorem allows {world after : World app} (move : CarefulMove world after) (held : holds world) :
    holds after ∧ Persists world after :=
  ⟨of.careful move held, move.plain.persists⟩

theorem opens {declarations : Declarations} {registry : Registry} {world told : World app}
    (described : declarations.registry = .ok registry) (held : holds world)
    (since : Persists (world.addRegistry registry).2 told) (still : holds told) :
    let opened := ((told.noteAliases registry.aliases).grant ⟨world.registries.size⟩).2
    holds opened ∧ Persists world opened := by
  intro opened
  let Kept (world after : World app) : Prop := holds world → holds after ∧ Persists world after
  have noting : Kept told (told.noteAliases registry.aliases) := by
    refine noteAliases_keeps Kept (fun first rest held => ?_) of.allows registry.aliases told
    obtain ⟨middle, before⟩ := first held
    obtain ⟨last, after⟩ := rest middle
    exact ⟨last, before.trans after⟩
  obtain ⟨noted, unchanged⟩ := noting still
  have added := (PlainMove.addRegistry world declarations registry described).persists
  have noticed := since.trans unchanged
  exact ⟨of.found held noticed noted, (added.trans noticed).trans (PlainMove.grant _ _).persists⟩

-- Building is watched over up to the first share, and again from there on.
theorem build_watched {handle : Bool → Handler app}
    (answered : (Discipline.watching holds Persists Persists.trans).Answers handle)
    (produced : ∀ factory recipe world, world.factory? factory = some (.recipe recipe) →
      (Discipline.watching holds Persists Persists.trans).Holds world fun watched =>
        produceByRecipe code (handle watched) factory recipe world)
    (declarations : Declarations) (world : World app) :
    (Discipline.watching holds Persists Persists.trans).Holds world fun watched =>
      build code (handle watched) declarations world := by
  cases described : declarations.registry with
  | error fault =>
    simp only [build, described]
    exact Discipline.step _ _ fun held => ⟨held, (PlainMove.stay world).persists⟩
  | ok registry =>
    intro held
    simp only [build_eq described]
    obtain ⟨same, told⟩ := Discipline.introduce_holds code of.allows answered ⟨world.registries.size⟩
      declarations.beans _ (of.addRegistry registry held)
    have loads := Discipline.loadEagerly_holds code of.allows answered produced ⟨world.registries.size⟩
      declarations.eager
    dsimp only at same
    rw [same]
    constructor
    · refine Option.bind_congr fun introduced introducing => ?_
      obtain ⟨still, since⟩ := told _ _ introducing
      exact congrArg _ (loads _ (of.opens described held since still).1).1
    · intro outcome after building
      obtain ⟨introduced, introducing, building⟩ := Option.bind_eq_some_iff.mp building
      obtain ⟨still, since⟩ := told _ _ introducing
      obtain ⟨opened, persists⟩ := of.opens described held since still
      obtain ⟨⟨loaded, last⟩, loading, building⟩ := Option.map_eq_some_iff.mp building
      obtain ⟨kept, later⟩ := (loads _ opened).2 _ _ loading
      cases loaded with
      | error error =>
        cases building
        exact ⟨of.release _ kept, (persists.trans later).trans (PlainMove.release _ _).persists⟩
      | ok _ =>
        cases building
        obtain ⟨noted, unchanged⟩ := of.allows (.note last (.built _ _ _) rfl rfl rfl) kept
        exact ⟨noted, (persists.trans later).trans unchanged⟩

theorem watches (code : Code app) : code.Watches holds Persists fun _ _ => True := by
  have productive {handle : Bool → Handler app}
      (answered : (Discipline.watching holds Persists Persists.trans).Answers handle) (factory : FactoryId)
      (recipe : RecipeFactory app) (world : World app) (_ : world.factory? factory = some (.recipe recipe)) :
      (Discipline.watching holds Persists Persists.trans).Holds world fun watched =>
        produceByRecipe code (handle watched) factory recipe world :=
    Discipline.produceByRecipe_holds code of.allows answered
      (fun move held => ⟨of.aside move.books move.persists.fresh held, move.persists⟩) factory recipe world
  exact .of_careful Persists.trans of.allows
    (fun move held => ⟨of.aside move.books move.persists.fresh held, move.persists⟩) productive
    fun answered => of.build_watched answered (productive answered)

theorem unbounded {operation : Operation app} {world after : World app} {answer : operation.Answer}
    (held : holds world)
    (answered : BeanRegistry.unbounded code (.request operation) world = some (answer, after)) :
    holds after := by
  obtain ⟨budget, performed⟩ := unbounded_eq_some_iff.mp answered
  exact ((of.watches code).perform_watched held performed).1

end Shareholding

end BeanRegistry
