import BeanRegistry.Proofs.Run.Discipline

set_option autoImplicit false

namespace BeanRegistry

variable {app : Application}

theorem Guards.refusal?_eq_none_iff {guards : Guards} {factory : FactoryId} {name : String}
    {bound : Nat} :
    guards.refusal? factory name bound = none ↔ factory ∉ guards.producing ∧ guards.depth < bound := by
  unfold Guards.refusal?
  by_cases running : factory ∈ guards.producing
  · simp [running]
  · by_cases deep : bound ≤ guards.depth
    · simp [running, deep]
    · simp [running, deep, Nat.lt_of_not_le deep]

theorem Guards.refusal?_circular_iff (guards : Guards) (factory : FactoryId) (name : String) (bound : Nat) :
    (∃ other, guards.refusal? factory name bound = some (.circularFactory other)) ↔
      factory ∈ guards.producing := by
  unfold Guards.refusal?
  by_cases running : factory ∈ guards.producing
  · simp [running]
  · by_cases deep : bound ≤ guards.depth <;> simp [running, deep]

theorem Guards.refusal?_cases {guards : Guards} {factory : FactoryId} {name : String} {bound : Nat}
    {error : BeanFailure} (refuses : guards.refusal? factory name bound = some error) :
    error = .circularFactory name ∨ error = .nestingTooDeep name bound := by
  unfold Guards.refusal? at refuses
  split at refuses
  · exact .inl (Option.some.inj refuses).symm
  · split at refuses
    · exact .inr (Option.some.inj refuses).symm
    · cases refuses

theorem journal_trans {alike : Step app → Prop} {first middle last : World app}
    (before : ∃ steps, middle.journal = steps ++ first.journal ∧ ∀ step ∈ steps, alike step)
    (rest : ∃ steps, last.journal = steps ++ middle.journal ∧ ∀ step ∈ steps, alike step) :
    ∃ steps, last.journal = steps ++ first.journal ∧ ∀ step ∈ steps, alike step := by
  obtain ⟨early, earlier, first_alike⟩ := before
  obtain ⟨late, later, last_alike⟩ := rest
  refine ⟨late ++ early, by rw [later, earlier, List.append_assoc], fun step member => ?_⟩
  rcases List.mem_append.mp member with member | member
  · exact last_alike step member
  · exact first_alike step member

theorem RecipeFactory.keep_scope (recipe : RecipeFactory app) (bean : Object app.Content) :
    (recipe.keep bean).scope = recipe.scope := by
  unfold RecipeFactory.keep
  split <;> rfl

namespace World

def scope? (world : World app) (factory : FactoryId) : Option Scope :=
  (world.recipeFactory? factory).map RecipeFactory.scope

def ready? (world : World app) (factory : FactoryId) : Option (Object app.Content) :=
  (world.recipeFactory? factory).bind RecipeFactory.ready?

def Bounded (world : World app) : Prop :=
  ∀ cell ∈ world.registries, 0 < cell.registry.nestingBound

theorem Bounded.nestingBound_pos {world : World app} (bounded : world.Bounded)
    (recipe : RecipeFactory app) : 0 < world.nestingBound recipe := by
  have positive (registry : RegistryId) : 0 < (world.registry registry).nestingBound := by
    unfold World.registry registryCell?
    cases found : world.registries[registry.index]? with
    | none => decide
    | some cell => exact bounded cell (Array.mem_of_getElem? found)
  have unbound : 0 < defaultNestingBound := by decide
  unfold World.nestingBound
  cases recipe.registry with
  | none => exact unbound
  | some registry =>
    dsimp only
    split
    · exact positive registry
    · exact unbound

theorem registries_mapOwners {world : World app} {holds : Registry → Prop}
    (all : ∀ cell ∈ world.registries, holds cell.registry) (registry : RegistryId)
    (change : List Nat → List Nat) :
    ∀ cell ∈ (world.mapOwners registry change).registries, holds cell.registry := by
  intro cell member
  obtain ⟨index, found⟩ := Array.mem_iff_getElem?.mp member
  simp only [World.mapOwners, Array.getElem?_modify] at found
  split at found
  · obtain ⟨former, known, rfl⟩ := Option.map_eq_some_iff.mp found
    exact all former (Array.mem_of_getElem? known)
  · exact all cell (Array.mem_of_getElem? found)

theorem recipeFactory?_eq_some_iff {world : World app} {factory : FactoryId}
    {recipe : RecipeFactory app} :
    world.recipeFactory? factory = some recipe ↔ world.factory? factory = some (.recipe recipe) := by
  unfold recipeFactory?
  split
  next found => simp [found]
  next missing =>
    constructor
    · nofun
    · exact fun found => absurd found (missing recipe)

theorem recipeFactory?_congr {world other : World app} (same : world.factories = other.factories)
    (factory : FactoryId) : world.recipeFactory? factory = other.recipeFactory? factory := by
  simp [recipeFactory?, factory?, same]

theorem factory?_mapFactory (world : World app) (changed factory : FactoryId)
    (change : RecipeFactory app → RecipeFactory app) :
    (world.mapFactory changed change).factory? factory =
      if changed = factory then (world.factory? factory).map (Factory.mapRecipe change)
      else world.factory? factory := by
  obtain ⟨changed⟩ := changed
  obtain ⟨factory⟩ := factory
  simp only [mapFactory, factory?, Array.getElem?_modify, FactoryId.mk.injEq]

theorem recipeFactory?_mapFactory (world : World app) (changed factory : FactoryId)
    (change : RecipeFactory app → RecipeFactory app) :
    (world.mapFactory changed change).recipeFactory? factory =
      if changed = factory then (world.recipeFactory? factory).map change
      else world.recipeFactory? factory := by
  unfold recipeFactory?
  rw [factory?_mapFactory]
  by_cases same : changed = factory
  · simp only [same, if_true]
    cases world.factory? factory with
    | none => rfl
    | some known => cases known <;> rfl
  · simp only [same, if_false]

theorem recipeFactory?_addFactory (world : World app) (added : Factory app) (factory : FactoryId) :
    (world.addFactory added).2.recipeFactory? factory =
      if factory.index = world.factories.size then
        match added with
        | .recipe recipe => some recipe
        | .custom _ => none
      else world.recipeFactory? factory := by
  unfold recipeFactory? factory? addFactory
  dsimp only
  rw [Array.getElem?_push]
  by_cases new : factory.index = world.factories.size
  · simp only [new, if_true]
    cases added <;> rfl
  · simp only [new, if_false]

theorem recipeFactory?_beyond (world : World app) (factory : FactoryId)
    (beyond : factory.index = world.factories.size) : world.recipeFactory? factory = none := by
  simp [recipeFactory?, factory?, beyond]

theorem scope?_eq_some_iff {world : World app} {factory : FactoryId} {scope : Scope} :
    world.scope? factory = some scope ↔
      ∃ recipe, world.recipeFactory? factory = some recipe ∧ recipe.scope = scope := by
  simp [scope?]

theorem ready?_of_prototype {world : World app} {factory : FactoryId}
    (prototype : world.scope? factory = some .prototype) : world.ready? factory = none := by
  obtain ⟨recipe, known, scope⟩ := scope?_eq_some_iff.mp prototype
  simp [ready?, known, RecipeFactory.ready?, scope]

theorem scope?_mapFactory (world : World app) (changed factory : FactoryId)
    {change : RecipeFactory app → RecipeFactory app}
    (scope : ∀ recipe, (change recipe).scope = recipe.scope) :
    (world.mapFactory changed change).scope? factory = world.scope? factory := by
  rw [scope?, recipeFactory?_mapFactory, scope?]
  split
  · cases world.recipeFactory? factory <;> simp [scope]
  · rfl

theorem ready?_mapFactory (world : World app) (changed factory : FactoryId)
    (change : RecipeFactory app → RecipeFactory app) :
    (world.mapFactory changed change).ready? factory =
      if changed = factory then (world.recipeFactory? factory).bind fun recipe => (change recipe).ready?
      else world.ready? factory := by
  rw [ready?, recipeFactory?_mapFactory, ready?]
  split
  · cases world.recipeFactory? factory <;> rfl
  · rfl

end World

structure SameFactories (before after : World app) : Prop where
  scopes : ∀ {factory scope}, before.scope? factory = some scope → after.scope? factory = some scope
  ready : ∀ factory, after.ready? factory = before.ready? factory

namespace SameFactories

theorem of_eq {before after : World app} (same : after.factories = before.factories) :
    SameFactories before after := by
  have known := World.recipeFactory?_congr same
  constructor
  · intro factory scope found
    rwa [World.scope?, known]
  · intro factory
    rw [World.ready?, known, World.ready?]

theorem of_mapFactory (world : World app) (changed : FactoryId)
    {change : RecipeFactory app → RecipeFactory app}
    (scope : ∀ recipe, (change recipe).scope = recipe.scope)
    (ready : ∀ recipe, (change recipe).ready? = recipe.ready?) :
    SameFactories world (world.mapFactory changed change) := by
  constructor
  · intro factory kept found
    rwa [World.scope?_mapFactory world changed factory scope]
  · intro factory
    rw [World.ready?_mapFactory, World.ready?]
    split
    · simp only [ready]
    · rfl

theorem of_addFactory (world : World app) (added : Factory app)
    (unready : ∀ recipe, added = .recipe recipe → recipe.ready? = none) :
    SameFactories world (world.addFactory added).2 := by
  constructor
  · intro factory scope found
    rw [World.scope?, World.recipeFactory?_addFactory]
    split
    next new => simp [World.scope?, world.recipeFactory?_beyond factory new] at found
    next => exact found
  · intro factory
    rw [World.ready?, World.recipeFactory?_addFactory, World.ready?]
    split
    next new =>
      rw [world.recipeFactory?_beyond factory new]
      cases added with
      | recipe recipe => exact unready recipe rfl
      | custom _ => rfl
    next => rfl

end SameFactories

theorem registry_nestingBound_pos {declarations : Declarations} {registry : Registry}
    (described : declarations.registry = .ok registry) : 0 < registry.nestingBound := by
  unfold Declarations.registry at described
  split at described
  next => cases described
  next positive =>
    split at described <;> cases described
    exact Nat.pos_of_ne_zero positive

-- The guards stand, all factories go on, and the journal grows by steps that no production takes.
structure Quiet (before after : World app) : Prop extends SameFactories before after where
  guards : after.guards = before.guards
  bounded : before.Bounded → after.Bounded
  journal : ∃ steps, after.journal = steps ++ before.journal ∧ ∀ step ∈ steps, step.production? = none

theorem PlainMove.registries {holds : Registry → Prop} {before after : World app}
    (described : ∀ {declarations : Declarations} {registry}, declarations.registry = .ok registry →
      holds registry)
    (move : PlainMove before after) (all : ∀ cell ∈ before.registries, holds cell.registry) :
    ∀ cell ∈ after.registries, holds cell.registry := by
  cases move with
  | addRegistry declarations registry own =>
    intro cell member
    rcases Array.mem_push.mp member with old | rfl
    · exact all cell old
    · exact described own
  | grant registry => exact World.registries_mapOwners all registry _
  | release owner => exact World.registries_mapOwners all owner.registry _
  | _ => exact all

theorem PlainMove.quiet {before after : World app} (move : PlainMove before after) :
    Quiet before after := by
  have factories : SameFactories before after := by
    cases move with
    | learnName factory name => exact .of_mapFactory before factory (fun _ => rfl) fun _ => rfl
    | learnRegistry factory registry =>
      exact .of_mapFactory before factory (fun _ => rfl) fun _ => rfl
    | addRecipe scope recipe =>
      refine .of_addFactory before _ fun made same => ?_
      obtain rfl := Factory.recipe.inj same
      cases scope <;> rfl
    | addCustom custom => exact .of_addFactory before _ nofun
    | _ => exact .of_eq rfl
  have guards : after.guards = before.guards := by cases move <;> rfl
  have bounded : before.Bounded → after.Bounded := move.registries registry_nestingBound_pos
  refine { factories with guards, bounded, journal := ?_ }
  cases move with
  | note step unproductive outside => exact ⟨[step], rfl, by simp [unproductive]⟩
  | grant registry => exact ⟨[_], rfl, by simp [Step.production?]⟩
  | release owner => exact ⟨[_], rfl, by simp [Step.production?]⟩
  | _ => exact ⟨[], rfl, nofun⟩

theorem ChainMove.quiet {before after : World app} (move : ChainMove before after) :
    Quiet before after := by
  cases move with
  | finish chain method progress =>
    exact { SameFactories.of_eq rfl with
            guards := rfl, bounded := id, journal := ⟨[_], rfl, by simp [Step.production?]⟩ }
  | pass passage passed =>
    cases passed with
    | opened position isTarget =>
      exact { SameFactories.of_eq rfl with
              guards := rfl, bounded := id, journal := ⟨[_], rfl, by simp [Step.production?]⟩ }
    | note step passing unmoved =>
      refine { SameFactories.of_eq rfl with guards := rfl, bounded := id, journal := ⟨[step], rfl, ?_⟩ }
      cases step <;> simp [Step.passage?] at passing <;> simp [Step.production?]

end BeanRegistry
