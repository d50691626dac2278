import Mathlib.Logic.Relation
import BeanRegistry.Proofs.Factory.Telling
import BeanRegistry.Proofs.Run.Kept

set_option autoImplicit false

namespace BeanRegistry

variable {app : Application} {code : Code app}

structure RecipeFactory.Becomes (early late : RecipeFactory app) : Prop where
  scope : late.scope = early.scope
  recipe : late.recipe = early.recipe
  name : ∀ name, early.name = some name → late.name = some name
  registry : ∀ registry, early.registry = some registry → late.registry = some registry

namespace RecipeFactory.Becomes

theorem refl (recipe : RecipeFactory app) : recipe.Becomes recipe :=
  ⟨rfl, rfl, fun _ same => same, fun _ same => same⟩

theorem trans {early middle late : RecipeFactory app} (before : early.Becomes middle)
    (rest : middle.Becomes late) : early.Becomes late :=
  ⟨rest.scope.trans before.scope, rest.recipe.trans before.recipe,
    fun name known => rest.name name (before.name name known),
    fun registry known => rest.registry registry (before.registry registry known)⟩

theorem learnName (recipe : RecipeFactory app) (name : String) :
    recipe.Becomes (recipe.learnName name) := by
  refine ⟨rfl, rfl, fun other known => ?_, fun _ same => same⟩
  simp [RecipeFactory.learnName, known]

theorem learnRegistry (recipe : RecipeFactory app) (registry : RegistryId) :
    recipe.Becomes (recipe.learnRegistry registry) := by
  refine ⟨rfl, rfl, fun _ same => same, fun other known => ?_⟩
  simp [RecipeFactory.learnRegistry, known]

theorem keep (recipe : RecipeFactory app) (bean : Object app.Content) :
    recipe.Becomes (recipe.keep bean) := by
  unfold RecipeFactory.keep
  split
  · exact ⟨rfl, rfl, fun _ same => same, fun _ same => same⟩
  · exact refl recipe

end RecipeFactory.Becomes

structure Persists (before after : World app) : Prop where
  fresh : before.fresh ≤ after.fresh
  recipes : ∀ {factory early}, before.recipeFactory? factory = some early →
    ∃ late, after.recipeFactory? factory = some late ∧ early.Becomes late
  cells : ∀ {registry cell}, before.registryCell? registry = some cell →
    ∃ owners, after.registryCell? registry = some ⟨cell.registry, owners⟩ ∧
      ∀ serial ∈ owners, serial ∈ cell.owners ∨ before.fresh ≤ serial ∧ serial < after.fresh

theorem Persists.trans {first middle last : World app} (before : Persists first middle)
    (rest : Persists middle last) : Persists first last := by
  refine ⟨Nat.le_trans before.fresh rest.fresh, fun known => ?_, fun known => ?_⟩
  · obtain ⟨between, found, becomes⟩ := before.recipes known
    obtain ⟨late, still, becomes_too⟩ := rest.recipes found
    exact ⟨late, still, becomes.trans becomes_too⟩
  · obtain ⟨shares, found, grants⟩ := before.cells known
    obtain ⟨owners, still, grants_too⟩ := rest.cells found
    refine ⟨owners, still, fun serial member => ?_⟩
    have early := before.fresh
    have late := rest.fresh
    rcases grants_too serial member with among | fresh
    · exact (grants serial among).imp_right fun fresh => ⟨fresh.1, by omega⟩
    · exact .inr ⟨by omega, fresh.2⟩

theorem Persists.answers {before after : World app} (persists : Persists before after)
    {identity : RegistryId} {cell : RegistryCell} (known : before.registryCell? identity = some cell) :
    after.registry identity = cell.registry := by
  obtain ⟨owners, found, _⟩ := persists.cells known
  simp [World.registry, found]

theorem Persists.registry {before after : World app} (persists : Persists before after)
    {registry : RegistryId} (active : before.isActive registry = true) :
    after.registry registry = before.registry registry := by
  unfold World.isActive at active
  split at active
  next cell known =>
    rw [persists.answers known]
    simp [World.registry, known]
  next => cases active

theorem Persists.of_eq {before after : World app} (fresh : before.fresh ≤ after.fresh)
    (factories : after.factories = before.factories) (registries : after.registries = before.registries) :
    Persists before after := by
  refine ⟨fresh, fun {factory early} known => ⟨early, ?_, .refl early⟩, fun {registry cell} known =>
    ⟨cell.owners, ?_, fun serial member => .inl member⟩⟩
  · rwa [World.recipeFactory?_congr factories]
  · simpa [World.registryCell?, registries] using known

theorem Persists.of_mapFactory (world : World app) (changed : FactoryId)
    {change : RecipeFactory app → RecipeFactory app}
    (becomes : ∀ recipe : RecipeFactory app, recipe.Becomes (change recipe)) :
    Persists world (world.mapFactory changed change) := by
  refine ⟨Nat.le_refl _, fun {factory early} known => ?_, fun {registry cell} known =>
    ⟨cell.owners, known, fun serial member => .inl member⟩⟩
  rw [World.recipeFactory?_mapFactory, known]
  split
  · exact ⟨_, rfl, becomes early⟩
  · exact ⟨early, rfl, .refl early⟩

theorem Persists.of_addFactory (world : World app) (added : Factory app) :
    Persists world (world.addFactory added).2 := by
  refine ⟨Nat.le_refl _, fun {factory early} known => ⟨early, ?_, .refl early⟩, fun {registry cell} known =>
    ⟨cell.owners, known, fun serial member => .inl member⟩⟩
  rw [World.recipeFactory?_addFactory, if_neg, known]
  intro beyond
  simp [world.recipeFactory?_beyond factory beyond] at known

theorem Persists.of_mapOwners {world after : World app} {registry : RegistryId}
    {change : List Nat → List Nat} (fresh : world.fresh ≤ after.fresh)
    (factories : after.factories = world.factories)
    (registries : after.registries = (world.mapOwners registry change).registries)
    (granted : ∀ owners, ∀ serial ∈ change owners,
      serial ∈ owners ∨ world.fresh ≤ serial ∧ serial < after.fresh) : Persists world after := by
  refine ⟨fresh, fun {factory early} known => ⟨early, ?_, .refl early⟩, fun {other cell} known => ?_⟩
  · rwa [World.recipeFactory?_congr factories]
  · have found : after.registryCell? other = if registry = other then
        (world.registryCell? other).map fun cell => { cell with owners := change cell.owners }
        else world.registryCell? other := by
      obtain ⟨registry⟩ := registry
      obtain ⟨other⟩ := other
      simp only [World.registryCell?, registries, World.mapOwners, Array.getElem?_modify,
        RegistryId.mk.injEq]
    rw [found, known]
    split
    · exact ⟨_, rfl, granted cell.owners⟩
    · exact ⟨cell.owners, rfl, fun serial member => .inl member⟩

theorem PlainMove.persists {before after : World app} (move : PlainMove before after) :
    Persists before after := by
  cases move with
  | learnName factory name => exact .of_mapFactory before factory fun recipe => .learnName recipe name
  | learnRegistry factory registry =>
    exact .of_mapFactory before factory fun recipe => .learnRegistry recipe registry
  | addRecipe scope recipe => exact .of_addFactory before _
  | addCustom custom => exact .of_addFactory before _
  | addObject content => exact .of_eq (Nat.le_succ _) rfl rfl
  | addRegistry declarations registry described =>
    refine ⟨Nat.le_refl _, fun {factory early} known => ⟨early, known, .refl early⟩,
      fun {other cell} known => ⟨cell.owners, ?_, fun serial member => .inl member⟩⟩
    simp only [World.registryCell?, World.addRegistry, Array.getElem?_push] at known ⊢
    split
    next beyond => simp [beyond] at known
    next => exact known
  | grant registry =>
    refine .of_mapOwners (Nat.le_succ _) rfl rfl fun owners serial member => ?_
    rcases List.mem_cons.mp member with rfl | member
    · exact .inr ⟨Nat.le_refl _, Nat.lt_succ_self _⟩
    · exact .inl member
  | release owner =>
    exact .of_mapOwners (Nat.le_refl _) rfl rfl fun owners serial member =>
      .inl (List.mem_filter.mp member).1
  | _ => exact .of_eq (Nat.le_refl _) rfl rfl

theorem ChainMove.persists {before after : World app} (move : ChainMove before after) :
    Persists before after := by
  cases move with
  | finish chain method progress => exact .of_eq (Nat.le_refl _) rfl rfl
  | pass passage passed => cases passed <;> exact .of_eq (Nat.le_refl _) rfl rfl

theorem PipelineMove.persists {factory : FactoryId} {before after : World app}
    (move : PipelineMove factory before after) : Persists before after := by
  cases move with
  | keep bean => exact .of_mapFactory before factory fun recipe => .keep recipe bean
  | _ => exact .of_eq (Nat.le_refl _) rfl rfl

theorem ProductionMove.persists {before after : World app} (move : ProductionMove before after) :
    Persists before after := by
  cases move with
  | pipeline factory passed => exact passed.persists
  | _ => exact .of_eq (Nat.le_refl _) rfl rfl

theorem persists_keeps (code : Code app) : code.Keeps Persists :=
  .of_moves code Persists.trans PlainMove.persists ChainMove.persists ProductionMove.persists

theorem unbounded_persists {call : Call app} {world after : World app} {answer : call.Answer}
    (answered : unbounded code call world = some (answer, after)) : Persists world after :=
  (persists_keeps code).unbounded_keeps call world after answer answered

inductive Move : World app → World app → Prop where
  | plain {world after : World app} (moved : PlainMove world after) : Move world after
  | chain {world after : World app} (moved : ChainMove world after) : Move world after
  | production {world after : World app} (moved : ProductionMove world after) : Move world after

-- Any steps one after the other, whether or not a run would take them.
def Reaches : World app → World app → Prop :=
  Relation.ReflTransGen Move

theorem reaches_keeps (code : Code app) : code.Keeps Reaches :=
  .of_moves code Relation.ReflTransGen.trans (fun moved => .single (.plain moved))
    (fun moved => .single (.chain moved)) fun moved => .single (.production moved)

theorem Reaches.persists {before after : World app} (reaches : Reaches before after) :
    Persists before after := by
  induction reaches with
  | refl => exact .of_eq (Nat.le_refl _) rfl rfl
  | tail _ moved ih =>
    refine ih.trans ?_
    cases moved with
    | plain moved => exact moved.persists
    | chain moved => exact moved.persists
    | production moved => exact moved.persists

theorem RecipeFactory.Becomes.borrow (borrower lender : RecipeFactory app) :
    borrower.Becomes (borrower.borrow lender) := by
  refine ⟨rfl, rfl, fun name known => ?_, fun registry known => ?_⟩
  · simp [RecipeFactory.borrow, known]
  · simp [RecipeFactory.borrow, known]

theorem Learning.persists_borrow {world told : World app} {nested : FactoryId}
    {lender borrower : RecipeFactory app} (learning : Learning world told)
    (found : world.recipeFactory? nested = some borrower)
    (knows : ∀ other, told.recipeFactory? other =
      if nested = other then some (borrower.borrow lender) else world.recipeFactory? other) :
    Persists world told := by
  refine ⟨Nat.le_of_eq learning.fresh.symm, fun {other early} known => ?_, fun {registry cell} known =>
    ⟨cell.owners, ?_, fun serial member => .inl member⟩⟩
  · rw [knows]
    split
    next same =>
      rw [← same, found] at known
      cases known
      exact ⟨_, rfl, .borrow borrower lender⟩
    next => exact ⟨early, known, .refl early⟩
  · simpa [World.registryCell?, learning.registries] using known

end BeanRegistry
