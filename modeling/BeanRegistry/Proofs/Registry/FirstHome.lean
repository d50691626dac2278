import BeanRegistry.Proofs.Registry.Causes
import BeanRegistry.Proofs.Registry.Founding

set_option autoImplicit false

namespace BeanRegistry

variable {app : Application} {code : Code app} {handle : Handler app}

namespace RecipeFactory

def madeFor (factory : RecipeFactory app) (name : String) (home : RegistryId) : RecipeFactory app :=
  { ((ofRecipe factory.scope factory.recipe).learnName name).learnRegistry home with
    cached := factory.cached }

structure NewTo (factory : RecipeFactory app) (name : String) (home : RegistryId) : Prop where
  name : factory.name = none ∨ factory.name = some name
  home : factory.registry = none ∨ factory.registry = some home

theorem told_or_not_iff {α : Type} {known : Option α} {value : α} :
    known = none ∨ known = some value ↔ value = known.getD value := by
  cases known <;> simp [eq_comm]

theorem newTo_iff {factory : RecipeFactory app} {name : String} {home : RegistryId} :
    factory.NewTo name home ↔ name = factory.name.getD name ∧ home = factory.registry.getD home := by
  rw [← told_or_not_iff, ← told_or_not_iff]
  exact ⟨fun new => ⟨new.name, new.home⟩, fun ⟨named, housed⟩ => ⟨named, housed⟩⟩

theorem eq_madeFor {factory : RecipeFactory app} {name : String} {home : RegistryId}
    (named : factory.name = some name) (housed : factory.registry = some home) :
    factory = factory.madeFor name home := by
  obtain ⟨scope, recipe, _, _, cached⟩ := factory
  cases named
  cases housed
  rfl

structure WorksFor (code : Code app) (recipe : RecipeFactory app) (factory : FactoryId) (name : String)
    (home : RegistryId) (world : World app) : Prop where
  creation : recipe.creation = ⟨name, some home⟩
  produces : unbounded code (.request (.produce factory)) world =
    produceByRecipe code (unbounded code) factory (recipe.madeFor name home) world
  bound : world.nestingBound recipe =
    if world.isActive home then (world.registry home).nestingBound else defaultNestingBound
  acquires : (unbounded code).script recipe.creation.acquire world =
    if world.isActive home then some (.ok ⟨home, world.fresh⟩, (world.grant home).2)
    else some (.error .registryDropped, world)
  resolves {asked : String} {outcome : Except BeanFailure (Object app.Content)} {after : World app}
    (alive : world.isActive home = true)
    (answers : unbounded code (.request (.resolve home asked)) (world.grant home).2 = some (outcome, after)) :
    (unbounded code).script (recipe.creation.resolve asked) world =
      some (outcome.mapError .bean, after.release ⟨home, world.fresh⟩)

section Working

variable {recipe : RecipeFactory app} {factory : FactoryId} {name : String} {home : RegistryId}
  {world now : World app}

theorem worksFor_of_told (known : world.recipeFactory? factory = some recipe)
    (named : recipe.name = some name) (housed : recipe.registry = some home) :
    recipe.WorksFor code factory name home world where
  creation := by simp [creation, displayName, named, housed]
  produces := by
    rw [unbounded_produce, produce_known known, ← eq_madeFor named housed]
  bound := by rw [World.nestingBound, housed]
  acquires := script_acquire (show recipe.creation.registry = some home from housed) world
  resolves alive answers := script_asks housed alive answers

-- What a factory was told stays, so there is but one name and one registry it works for from then on.
theorem worksFor_iff_told (persists : Persists world now) (known : world.recipeFactory? factory = some recipe)
    (named : recipe.name = some name) (housed : recipe.registry = some home) :
    ∃ late, now.recipeFactory? factory = some late ∧ ∀ other there,
      late.WorksFor code factory other there now ↔ other = name ∧ there = home := by
  obtain ⟨late, found, becomes⟩ := persists.recipes known
  have works : late.WorksFor code factory name home now :=
    worksFor_of_told found (becomes.name name named) (becomes.registry home housed)
  refine ⟨late, found, fun other there => ⟨fun working => ?_, ?_⟩⟩
  · have same := working.creation.symm.trans works.creation
    cases same
    exact ⟨rfl, rfl⟩
  · rintro ⟨rfl, rfl⟩
    exact works

end Working

end RecipeFactory

theorem works_for_first_told {declarations : Declarations} {registry : Registry} {world built : World app}
    {outcome : Except BeanFailure Owner} {before after : List (String × FactoryId)} {name : String}
    {factory : FactoryId} {first : RecipeFactory app} (described : declarations.registry = .ok registry)
    (beans : declarations.beans = before ++ (name, factory) :: after)
    (made : world.recipeFactory? factory = some first)
    (building : unbounded code (.request (.build declarations)) world = some (outcome, built)) :
    let home : RegistryId := ⟨world.registries.size⟩
    ∃ met early prepared,
      introduce code (unbounded code) home before (world.addRegistry registry).2 = some ((), met) ∧
      met.recipeFactory? factory = some early ∧ first.Becomes early ∧
      ((∀ bean ∈ before, bean.2 ≠ factory ∧ (world.recipeFactory? bean.2).isSome) → early = first) ∧
      introduce code (unbounded code) home ((name, factory) :: after) met = some ((), prepared) ∧
      Reaches prepared built ∧
      ∀ now, Reaches prepared now → now.registry home = registry ∧
        ∃ recipe, now.recipeFactory? factory = some recipe ∧
          recipe.WorksFor code factory (early.name.getD name) (early.registry.getD home) now ∧
          (recipe.WorksFor code factory name home now ↔ early.NewTo name home) := by
  intro home
  obtain ⟨prepared, introduced, reached, _⟩ := build_introduces described building
  have founded : (world.addRegistry registry).2.registryCell? home = some ⟨registry, []⟩ :=
    world.registryCell?_addRegistry registry
  have answers (now : World app) (since : Reaches prepared now) : now.registry home = registry :=
    ((introduce_persists introduced).trans since.persists).answers founded
  rw [beans, introduce_append] at introduced
  obtain ⟨_, met, introduced, telling⟩ := Eval.bind_eq_some_iff.mp introduced
  obtain ⟨early, known, becomes⟩ := (introduce_persists introduced).recipes made
  obtain ⟨told, found, named, housed⟩ := introduce_told known telling
  refine ⟨met, early, prepared, introduced, known, becomes, fun plain => ?_, telling, reached,
    fun now since => ?_⟩
  · have own : ∀ other ∈ before.map Prod.snd, ((world.addRegistry registry).2.recipeFactory? other).isSome :=
      List.forall_mem_map.mpr fun bean member => (plain bean member).2
    rw [introduce_eq code (unbounded code) home own] at introduced
    cases introduced
    rw [introducedAll_apart fun bean member => (plain bean member).1] at known
    exact Option.some.inj (known.symm.trans made)
  · obtain ⟨recipe, still, works⟩ := RecipeFactory.worksFor_iff_told since.persists found named housed
    refine ⟨answers now since, recipe, still, (works _ _).mpr ⟨rfl, rfl⟩, ?_⟩
    rw [works, RecipeFactory.newTo_iff]

theorem Sample.lamp_works_as_new : ∃ outcome built recipe,
    unbounded furnish (.request (.build lamps)) lampShop = some (outcome, built) ∧
      built.recipeFactory? ⟨0⟩ = some recipe ∧ recipe.WorksFor furnish ⟨0⟩ "lamp" ⟨0⟩ built := by
  obtain ⟨outcome, built, building, _⟩ := @unbounded_of_any _ furnish (.request (.build lamps)) lampShop
    (fun _ => true) 2 (by decide +kernel)
  have beans : lamps.beans = [] ++ ("lamp", ⟨0⟩) :: [("wick", ⟨1⟩)] := rfl
  obtain ⟨_, early, _, _, _, _, same, _, reached, works⟩ := works_for_first_told rfl beans rfl building
  obtain ⟨_, recipe, known, _, as_new⟩ := works built reached
  have fresh : early = .ofRecipe .singleton ⟨["wick"], .ok none⟩ := same (List.forall_mem_nil _)
  refine ⟨outcome, built, recipe, building, known, as_new.mpr ?_⟩
  rw [fresh]
  exact ⟨.inl rfl, .inl rfl⟩

def FailsAfter (code : Code app) (doomed declarations : Declarations) (world : World app) (name : String) :
    Prop :=
  (∃ owner built bean after,
    unbounded code (.request (.build declarations)) world = some (.ok owner, built) ∧
    unbounded code (.request (.resolve owner.registry name)) built = some (.ok bean, after)) ∧
  ∃ fault lost owner built error after,
    unbounded code (.request (.build doomed)) world = some (.error fault, lost) ∧
    unbounded code (.request (.build declarations)) lost = some (.ok owner, built) ∧
    built.isActive owner.registry = true ∧
    unbounded code (.request (.resolve owner.registry name)) built = some (.error error, after) ∧
    error.rootCause? Failure.registryDropped? = some ()

theorem FailsAfter.of_runs {doomed declarations : Declarations} {world : World app} {name : String}
    (budget : Nat)
    (provides : (perform code budget (.request (.build declarations)) world).any (fun building =>
      building.1.toOption.any fun owner =>
        (perform code budget (.request (.resolve owner.registry name)) building.2).any (·.1.isOk)) = true)
    (fails : (perform code budget (.request (.build doomed)) world).any (fun failing => !failing.1.isOk &&
      (perform code budget (.request (.build declarations)) failing.2).any fun building =>
        building.1.toOption.any fun owner => building.2.isActive owner.registry &&
          (perform code budget (.request (.resolve owner.registry name)) building.2).any fun answer =>
            match answer.1 with
            | .ok _ => false
            | .error error => (error.rootCause? Failure.registryDropped?).isSome) = true) :
    FailsAfter code doomed declarations world name := by
  refine ⟨?_, ?_⟩
  · obtain ⟨made, built, building, asks⟩ := unbounded_of_any budget provides
    cases made with
    | error _ => cases asks
    | ok owner =>
      obtain ⟨answer, after, asking, succeeds⟩ := unbounded_of_any budget asks
      cases answer with
      | error _ => cases succeeds
      | ok bean => exact ⟨owner, built, bean, after, building, asking⟩
  · obtain ⟨verdict, lost, failing, builds⟩ := unbounded_of_any budget fails
    rw [Bool.and_eq_true] at builds
    obtain ⟨made, built, building, asks⟩ := unbounded_of_any budget builds.2
    cases verdict with
    | ok _ => cases builds.1
    | error fault =>
      cases made with
      | error _ => cases asks
      | ok owner =>
        rw [Except.toOption, Option.any_some, Bool.and_eq_true] at asks
        obtain ⟨answer, after, asking, drops⟩ := unbounded_of_any budget asks.2
        cases answer with
        | ok _ => cases drops
        | error error =>
          obtain ⟨⟨⟩, dropped⟩ := Option.isSome_iff_exists.mp drops
          exact ⟨fault, lost, owner, built, error, after, failing, building, asks.1, asking, dropped⟩

-- The registry that never came to be is the one the lamp asks for its wick.
theorem Sample.lost_home_refuses : FailsAfter furnish (lamps.withEager "ghost") lamps lampShop "lamp" :=
  .of_runs 9 (by decide +kernel) (by decide +kernel)

end BeanRegistry
