import BeanRegistry.Proofs.Factory.Product
import BeanRegistry.Proofs.Factory.Underway
import BeanRegistry.Proofs.Registry.Assembly
import BeanRegistry.Proofs.Registry.References

set_option autoImplicit false

namespace BeanRegistry

open Relation

variable {app : Application}

structure Site (app : Application) where
  identity : RegistryId
  registry : Registry
  needs : FactoryId → List String
  -- The factories as they know their names and their registry and have no bean.
  beans : FactoryId → Option (RecipeFactory app)
  outer : List FactoryId

namespace Site

variable (site : Site app)

structure Sound (code : Code app) : Prop where
  bounded : 0 < site.registry.nestingBound
  enrolled : ∀ {factory}, factory ∈ site.registry.factories → ∃ recipe,
    site.beans factory = some recipe ∧ recipe.registry = some site.identity ∧
      code.Assembles recipe.recipe (site.needs factory)
  apart : ∀ {factory}, factory ∈ site.registry.factories → factory ∉ site.outer

def IsSingleton (factory : FactoryId) : Prop :=
  ∃ recipe, site.beans factory = some recipe ∧ recipe.scope = .singleton

def Covers (world : World app) (factory : FactoryId) : Prop :=
  ∀ other, ReflTransGen (site.registry.Needs site.needs) factory other → site.IsSingleton other →
    (world.ready? other).isSome

def CoversNames (names : List String) (world : World app) : Prop :=
  ∀ name ∈ names, ∀ {factory}, site.registry.factory? name = some factory → site.Covers world factory

def failure : Obstacle → BeanFailure
  | .unknown name => .notFound name
  | .circle factory =>
    .circularFactory (((site.beans factory).map RecipeFactory.displayName).getD "")

end Site

structure Standing (site : Site app) (owners : List Nat) (path : List FactoryId)
    (world : World app) : Prop where
  cell : world.registryCell? site.identity = some ⟨site.registry, owners⟩
  held : owners ≠ []
  serials : ∀ serial ∈ owners, serial < world.fresh
  guards : world.guards = ⟨path ++ site.outer, none⟩
  beans : ∀ {factory recipe}, factory ∈ site.registry.factories → site.beans factory = some recipe →
    ∃ cached, world.recipeFactory? factory = some { recipe with cached }
  unready : ∀ {factory}, factory ∈ path → world.ready? factory = none
  ready : ∀ {factory bean}, factory ∈ site.registry.factories → world.ready? factory = some bean →
    site.registry.Grounded site.needs factory ∧ site.Covers world factory

theorem World.registryCell?_mapOwners {world : World app} {identity : RegistryId} {registry : Registry}
    {owners : List Nat} (found : world.registryCell? identity = some ⟨registry, owners⟩)
    (change : List Nat → List Nat) :
    (world.mapOwners identity change).registryCell? identity = some ⟨registry, change owners⟩ := by
  unfold World.registryCell? at found
  simp [World.registryCell?, World.mapOwners, Array.getElem?_modify, found]

namespace Standing

variable {site : Site app} {owners : List Nat} {path : List FactoryId} {world after : World app}
  (standing : Standing site owners path world)

include standing

theorem registry : world.registry site.identity = site.registry := by
  simp [World.registry, standing.cell]

theorem isActive : world.isActive site.identity = true := by
  simp [World.isActive, standing.cell, standing.held]

theorem nestingBound {recipe : RecipeFactory app} (registered : recipe.registry = some site.identity) :
    world.nestingBound recipe = site.registry.nestingBound := by
  simp [World.nestingBound, registered, standing.isActive, standing.registry]

theorem move {shares : List Nat} {inside : List FactoryId} (factories : after.factories = world.factories)
    (cell : after.registryCell? site.identity = some ⟨site.registry, shares⟩) (held : shares ≠ [])
    (serials : ∀ serial ∈ shares, serial < after.fresh)
    (guards : after.guards = ⟨inside ++ site.outer, none⟩)
    (unready : ∀ {factory}, factory ∈ inside → world.ready? factory = none) :
    Standing site shares inside after := by
  have same : SameFactories world after := .of_eq factories
  have known := World.recipeFactory?_congr factories
  refine ⟨cell, held, serials, guards, ?_,
    fun {factory} member => (same.ready factory).trans (unready member), ?_⟩
  · intro factory recipe member found
    rw [known]
    exact standing.beans member found
  · intro factory bean member found
    rw [same.ready] at found
    obtain ⟨grounded, covers⟩ := standing.ready member found
    refine ⟨grounded, fun other reached single => ?_⟩
    rw [same.ready]
    exact covers other reached single

theorem enter {factory : FactoryId} (unready : world.ready? factory = none) :
    Standing site owners (factory :: path) (world.enter factory) := by
  refine standing.move rfl standing.cell standing.held standing.serials ?_ ?_
  · simp [World.enter, World.note, World.withGuards, standing.guards, Guards.claim, Guards.push]
  · intro other member
    rcases List.mem_cons.mp member with rfl | member
    · exact unready
    · exact standing.unready member

theorem refuse (factory : FactoryId) : Standing site owners path (world.refuse factory) := by
  refine standing.move rfl standing.cell standing.held standing.serials ?_ standing.unready
  simp [World.refuse, World.note, World.withGuards, standing.guards, Guards.claim]

theorem note (step : Step app) : Standing site owners path (world.note step) :=
  standing.move rfl standing.cell standing.held standing.serials standing.guards standing.unready

theorem addObject (content : app.Content) :
    Standing site owners path (world.addObject content).2 :=
  standing.move rfl standing.cell standing.held
    (fun serial member => Nat.lt_succ_of_lt (standing.serials serial member)) standing.guards
    standing.unready

omit standing in
theorem leave {factory : FactoryId} (standing : Standing site owners (factory :: path) world)
    (succeeded : Bool) : Standing site owners path (world.leave factory succeeded) := by
  refine standing.move rfl standing.cell standing.held standing.serials ?_ ?_
  · simp [World.leave, World.note, World.withGuards, standing.guards, Guards.pop]
  · exact fun member => standing.unready (List.mem_cons_of_mem factory member)

theorem grant : Standing site (world.fresh :: owners) path (world.grant site.identity).2 := by
  have cell := World.registryCell?_mapOwners standing.cell (world.fresh :: ·)
  refine standing.move rfl cell (List.cons_ne_nil _ _) ?_ standing.guards standing.unready
  intro serial member
  rcases List.mem_cons.mp member with rfl | member
  · exact Nat.lt_succ_self _
  · exact Nat.lt_succ_of_lt (standing.serials serial member)

omit standing in
theorem release {serial : Nat} (standing : Standing site (serial :: owners) path world)
    (held : owners ≠ []) (older : ∀ other ∈ owners, other < serial) :
    Standing site owners path (world.release ⟨site.identity, serial⟩) := by
  have rest : (serial :: owners).filter (· != serial) = owners := by
    have kept : owners.filter (· != serial) = owners := by
      refine List.filter_eq_self.mpr fun other member => ?_
      have smaller := older other member
      simp only [bne_iff_ne, ne_eq]
      omega
    simp [kept]
  refine standing.move rfl ?_ held ?_ standing.guards standing.unready
  · exact (World.registryCell?_mapOwners standing.cell _).trans (by rw [rest])
  · exact fun other member => standing.serials other (List.mem_cons_of_mem serial member)

end Standing

structure Smooth (before after : World app) : Prop where
  journal : ∃ steps, after.journal = steps ++ before.journal ∧ ∀ step ∈ steps, step.stage? ≠ some .failed
  ready : ∀ {factory bean}, before.ready? factory = some bean → after.ready? factory = some bean

theorem Smooth.trans {first middle last : World app} (before : Smooth first middle)
    (rest : Smooth middle last) : Smooth first last where
  journal := journal_trans before.journal rest.journal
  ready found := rest.ready (before.ready found)

theorem Smooth.of_factories {before after : World app} (factories : after.factories = before.factories)
    (journal : ∃ steps, after.journal = steps ++ before.journal ∧
      ∀ step ∈ steps, step.stage? ≠ some .failed) : Smooth before after :=
  ⟨journal, fun {factory _} found => ((SameFactories.of_eq factories).ready factory).trans found⟩

theorem Smooth.covers {site : Site app} {before after : World app} (smooth : Smooth before after)
    {factory : FactoryId} (covers : site.Covers before factory) : site.Covers after factory := by
  intro other reached single
  obtain ⟨bean, found⟩ := Option.isSome_iff_exists.mp (covers other reached single)
  rw [smooth.ready found]
  rfl

theorem Site.covers_of_below {site : Site app} {world : World app} {factory : FactoryId}
    (below : ∀ other, site.registry.Needs site.needs factory other → site.Covers world other)
    (own : site.IsSingleton factory → (world.ready? factory).isSome) : site.Covers world factory := by
  intro other reached single
  rcases ReflTransGen.cases_head reached with rfl | ⟨next, needed, rest⟩
  · exact own single
  · exact below next needed other rest single

namespace Standing

variable {site : Site app} {owners : List Nat} {path : List FactoryId} {world : World app}
  {factory : FactoryId} {recipe : RecipeFactory app}

-- A singleton keeps its bean once everything below it is covered.
theorem keep (standing : Standing site owners (factory :: path) world) (new : factory ∉ path)
    (member : factory ∈ site.registry.factories) (enrolled : site.beans factory = some recipe)
    (single : recipe.scope = .singleton) (grounded : site.registry.Grounded site.needs factory)
    (below : ∀ other, site.registry.Needs site.needs factory other → site.Covers world other)
    (bean : Object app.Content) (name : String) :
    let kept := ((world.mapFactory factory fun keeper => keeper.keep bean).note
      (.kept factory name)).leave factory true
    Standing site owners path kept ∧ Smooth world kept ∧ site.Covers kept factory := by
  intro kept
  have known (other : FactoryId) : kept.recipeFactory? other =
      if factory = other then (world.recipeFactory? other).map fun keeper => keeper.keep bean
      else world.recipeFactory? other := world.recipeFactory?_mapFactory factory other _
  obtain ⟨cached, found⟩ := standing.beans member enrolled
  have own : kept.ready? factory = some bean := World.ready?_keep found single bean
  have elsewhere {other : FactoryId} (different : other ≠ factory) :
      kept.ready? other = world.ready? other := by
    rw [World.ready?, known, if_neg different.symm, World.ready?]
  have empty : world.ready? factory = none := standing.unready List.mem_cons_self
  have smooth : Smooth world kept := by
    refine ⟨⟨[.left factory true _, .kept factory name], rfl, ?_⟩, ?_⟩
    · intro step among
      simp only [List.mem_cons, List.not_mem_nil, or_false] at among
      rcases among with rfl | rfl <;> simp [Step.stage?]
    · intro other held ready
      rw [elsewhere, ready]
      rintro rfl
      simp [empty] at ready
  have covers : site.Covers kept factory := by
    refine site.covers_of_below (fun other needed => smooth.covers (below other needed)) fun _ => ?_
    simp [own]
  refine ⟨⟨standing.cell, standing.held, standing.serials, ?_, ?_, ?_, ?_⟩, smooth, covers⟩
  · change Guards.pop world.guards = _
    simp [standing.guards, Guards.pop]
  · intro other blueprint among described
    rw [known]
    obtain ⟨former, before⟩ := standing.beans among described
    split
    next same =>
      rw [same, described] at enrolled
      cases enrolled
      rw [before]
      exact ⟨some bean, by simp [RecipeFactory.keep, single]⟩
    next => exact ⟨former, before⟩
  · intro other asked
    have different : other ≠ factory := by
      rintro rfl
      exact new asked
    rw [elsewhere different]
    exact standing.unready (List.mem_cons_of_mem factory asked)
  · intro other held among ready
    by_cases same : other = factory
    · rw [same]
      exact ⟨grounded, covers⟩
    · rw [elsewhere same] at ready
      obtain ⟨ground, covered⟩ := standing.ready among ready
      exact ⟨ground, smooth.covers covered⟩

theorem finish (standing : Standing site owners (factory :: path) world) (new : factory ∉ path)
    (member : factory ∈ site.registry.factories) (enrolled : site.beans factory = some recipe)
    (grounded : site.registry.Grounded site.needs factory)
    (below : ∀ other, site.registry.Needs site.needs factory other → site.Covers world other)
    (bean : Object app.Content) :
    ∃ kept, keepBean factory bean world = some ((), kept) ∧
      Standing site owners path (kept.leave factory true) ∧ Smooth world (kept.leave factory true) ∧
        site.Covers (kept.leave factory true) factory := by
  obtain ⟨cached, known⟩ := standing.beans member enrolled
  rw [keepBean_eq known bean]
  cases scope : recipe.scope with
  | singleton =>
    exact ⟨_, rfl, standing.keep new member enrolled scope grounded below bean _⟩
  | prototype =>
    have smooth : Smooth world (world.leave factory true) := by
      refine .of_factories rfl ⟨[.left factory true world.guards.pop], rfl, ?_⟩
      simp [Step.stage?]
    refine ⟨world, rfl, standing.leave true, smooth, ?_⟩
    refine site.covers_of_below (fun other needed => smooth.covers (below other needed)) ?_
    rintro ⟨same, described, single⟩
    rw [enrolled] at described
    cases described
    simp [scope] at single

end Standing

end BeanRegistry
