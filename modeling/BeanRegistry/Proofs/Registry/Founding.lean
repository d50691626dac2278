import BeanRegistry.Proofs.Registry.Built
import BeanRegistry.Proofs.Run.Persistence

set_option autoImplicit false

namespace BeanRegistry

variable {app : Application} {code : Code app} {handle : Handler app}

section Introducing

variable {identity : RegistryId} {name : String} {factory : FactoryId} {world after : World app}

theorem introduce_keeps {Kept : World app → World app → Prop} (keeps : code.Keeps Kept)
    {beans : List (String × FactoryId)}
    (introduced : introduce code (unbounded code) identity beans world = some ((), after)) :
    Kept world after :=
  Discipline.introduce_holds code keeps.careful (keeps.unbounded_keeps.handles keeps.trans).answers
    identity beans world () after introduced

theorem loadEagerly_keeps {Kept : World app → World app → Prop} (keeps : code.Keeps Kept)
    {names : List String} {loaded : Except BeanFailure Unit}
    (loading : loadEagerly code (unbounded code) identity names world = some (loaded, after)) :
    Kept world after :=
  Discipline.loadEagerly_holds code keeps.careful (keeps.unbounded_keeps.handles keeps.trans).answers
    (fun _ _ _ known _ _ => keeps.produced keeps.unbounded_keeps (fun _ _ _ same => same) known)
      identity names world loaded after
    loading

theorem introduce_persists {beans : List (String × FactoryId)}
    (introduced : introduce code (unbounded code) identity beans world = some ((), after)) :
    Persists world after :=
  introduce_keeps (persists_keeps code) introduced

theorem World.introduced_persists (world : World app) (identity : RegistryId) (name : String)
    (factory : FactoryId) : Persists world (world.introduced identity name factory) := by
  have named : Persists world (world.mapFactory factory fun learner => learner.learnName name) :=
    (PlainMove.learnName world factory name).persists
  refine named.trans (.trans (.of_eq (Nat.le_refl _) rfl rfl) ?_)
  exact (PlainMove.learnRegistry _ factory identity).persists.trans (.of_eq (Nat.le_refl _) rfl rfl)

theorem World.ready?_introduced (world : World app) (identity : RegistryId) (name : String)
    (factory other : FactoryId) :
    (world.introduced identity name factory).ready? other = world.ready? other := by
  rw [World.ready?, World.ready?, world.recipeFactory?_introduced identity name factory]
  split
  · cases world.recipeFactory? other <;> rfl
  · rfl

def World.introducedAll (world : World app) (identity : RegistryId) (beans : List (String × FactoryId)) :
    World app :=
  beans.foldl (fun told bean => told.introduced identity bean.1 bean.2) world

theorem introduce_eq (code : Code app) (handle : Handler app) (identity : RegistryId)
    {beans : List (String × FactoryId)} {world : World app}
    (known : ∀ factory ∈ beans.map Prod.snd, (world.recipeFactory? factory).isSome) :
    introduce code handle identity beans world = some ((), world.introducedAll identity beans) := by
  induction beans generalizing world with
  | nil => rfl
  | cons bean rest ih =>
    obtain ⟨name, factory⟩ := bean
    rw [List.map_cons, List.forall_mem_cons] at known
    obtain ⟨recipe, found⟩ := Option.isSome_iff_exists.mp known.1
    rw [introduce_cons found]
    refine ih fun other member => ?_
    rw [world.recipeFactory?_introduced identity name factory]
    split <;> simp [known.2 other member]

theorem introducedAll_learning (world : World app) (identity : RegistryId)
    (beans : List (String × FactoryId)) : Learning world (world.introducedAll identity beans) :=
  List.foldlRecOn beans _ (.refl world) fun told learning bean _ =>
    learning.trans (told.introduced_learning identity bean.1 bean.2)

theorem introducedAll_persists (world : World app) (identity : RegistryId)
    (beans : List (String × FactoryId)) : Persists world (world.introducedAll identity beans) :=
  List.foldlRecOn beans _ (.of_eq (Nat.le_refl _) rfl rfl) fun told persists bean _ =>
    persists.trans (told.introduced_persists identity bean.1 bean.2)

theorem introducedAll_ready? (world : World app) (beans : List (String × FactoryId)) (other : FactoryId) :
    (world.introducedAll identity beans).ready? other = world.ready? other :=
  List.foldlRecOn (motive := fun told : World app => told.ready? other = world.ready? other) beans _ rfl
    fun told same bean _ => (told.ready?_introduced identity bean.1 bean.2 other).trans same

theorem introducedAll_apart {beans : List (String × FactoryId)} (apart : ∀ bean ∈ beans, bean.2 ≠ factory) :
    (world.introducedAll identity beans).recipeFactory? factory = world.recipeFactory? factory :=
  List.foldlRecOn
    (motive := fun told : World app => told.recipeFactory? factory = world.recipeFactory? factory) beans _ rfl
    fun told same bean member => by
      rw [told.recipeFactory?_introduced identity bean.1 bean.2 factory, if_neg (apart bean member), same]

theorem introduce_append (code : Code app) (handle : Handler app) (identity : RegistryId)
    (before rest : List (String × FactoryId)) :
    introduce code handle identity (before ++ rest) =
      (do introduce code handle identity before; introduce code handle identity rest) := by
  induction before with
  | nil => rfl
  | cons bean before ih =>
    rw [List.cons_append, introduce, introduce, ih]
    simp only [bind_assoc]

-- Whoever comes after it, a factory goes by what it knew when its turn came, or else by what it is told then.
theorem introduce_told {rest : List (String × FactoryId)} {early : RecipeFactory app}
    (known : world.recipeFactory? factory = some early)
    (introduced : introduce code (unbounded code) identity ((name, factory) :: rest) world =
      some ((), after)) : ∃ told, after.recipeFactory? factory = some told ∧
        told.name = some (early.name.getD name) ∧
      told.registry = some (early.registry.getD identity) := by
  rw [introduce_cons known] at introduced
  have first := world.recipeFactory?_introduced identity name factory factory
  rw [if_pos rfl, known] at first
  obtain ⟨told, found, becomes⟩ := (introduce_persists introduced).recipes first
  refine ⟨told, found, becomes.name _ ?_, becomes.registry _ ?_⟩
  · cases named : early.name <;> simp [RecipeFactory.learnRegistry, RecipeFactory.learnName, named]
  · cases housed : early.registry <;> simp [RecipeFactory.learnRegistry, RecipeFactory.learnName, housed]

end Introducing

theorem World.registryCell?_addRegistry (world : World app) (registry : Registry) :
    (world.addRegistry registry).2.registryCell? ⟨world.registries.size⟩ = some ⟨registry, []⟩ := by
  simp [World.registryCell?, World.addRegistry]

section Building

variable {declarations : Declarations} {registry : Registry} {world built now : World app}

theorem build_introduces {outcome : Except BeanFailure Owner}
    (described : declarations.registry = .ok registry)
    (building : unbounded code (.request (.build declarations)) world = some (outcome, built)) :
    ∃ prepared, introduce code (unbounded code) ⟨world.registries.size⟩ declarations.beans
        (world.addRegistry registry).2 = some ((), prepared) ∧ Reaches prepared built ∧
      ∀ owner, outcome = .ok owner → owner.registry = ⟨world.registries.size⟩ := by
  rw [unbounded_request, carryOut, build_eq described] at building
  obtain ⟨⟨_, prepared⟩, introduced, building⟩ := Option.bind_eq_some_iff.mp building
  obtain ⟨⟨loaded, last⟩, loading, building⟩ := Option.map_eq_some_iff.mp building
  let keeps := reaches_keeps code
  have reached : Reaches prepared last :=
    (noteAliases_keeps Reaches keeps.trans keeps.careful _ prepared).trans
    ((keeps.plain (.grant _ _)).trans (loadEagerly_keeps keeps loading))
  cases loaded with
  | error error =>
    cases building
    refine ⟨prepared, introduced, reached.trans (keeps.plain (.release last _)), fun owner same => ?_⟩
    cases same
  | ok _ =>
    cases building
    refine ⟨prepared, introduced, reached.trans (keeps.plain (.note last _ rfl rfl)), fun owner same => ?_⟩
    cases same
    rfl

theorem build_described {owner : Owner}
    (building : unbounded code (.request (.build declarations)) world = some (.ok owner, built)) :
    ∃ registry, declarations.registry = .ok registry := by
  cases described : declarations.registry with
  | error fault =>
    rw [unbounded_request, carryOut] at building
    simp only [build, described] at building
    cases building
  | ok registry => exact ⟨registry, rfl⟩

theorem build_registry {owner : Owner}
    (building : unbounded code (.request (.build declarations)) world = some (.ok owner, built))
    (persists : Persists built now) : declarations.registry = .ok (now.registry owner.registry) := by
  obtain ⟨registry, described⟩ := build_described building
  obtain ⟨prepared, introduced, reached, founded⟩ := build_introduces described building
  have lasting := (introduce_persists introduced).trans (reached.persists.trans persists)
  rw [described, founded owner rfl, lasting.answers (world.registryCell?_addRegistry registry)]

end Building

end BeanRegistry
