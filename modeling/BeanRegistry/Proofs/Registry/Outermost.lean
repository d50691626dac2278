import BeanRegistry.Proofs.Registry.Ending
import BeanRegistry.Proofs.Registry.Founding
import BeanRegistry.Proofs.Sample

set_option autoImplicit false

namespace BeanRegistry

variable {app : Application} {code : Code app} {handle : Handler app}

namespace Host

variable {host : Host app}

theorem Takes.introduced {world : World app} {other : FactoryId} (takes : host.Takes world other)
    (name : String)
    (factory : FactoryId) : host.Takes (world.introduced host.identity name factory) other := by
  obtain ⟨recipe, known, sound, free⟩ := takes
  rw [Takes, world.recipeFactory?_introduced host.identity name factory, known]
  split
  · refine ⟨_, rfl, sound, fun registry registered => ?_⟩
    cases home : recipe.registry with
    | none =>
      simp only [RecipeFactory.learnRegistry, RecipeFactory.learnName, home] at registered
      exact (Option.some.inj registered).symm
    | some other =>
      simp only [RecipeFactory.learnRegistry, RecipeFactory.learnName, home] at registered
      cases registered
      exact free registry home
  · exact ⟨recipe, rfl, sound, free⟩

theorem introduce_enrols {beans : List (String × FactoryId)} {world : World app}
    (takes : ∀ factory ∈ beans.map Prod.snd, host.Takes world factory) :
    (introduce code handle host.identity beans).Gives world fun _ after =>
      Persists world after ∧ ∀ factory ∈ beans.map Prod.snd, host.Enrols after factory := by
  induction beans generalizing world with
  | nil => exact ⟨(), world, rfl, .of_eq (Nat.le_refl _) rfl rfl, by simp⟩
  | cons bean rest ih =>
    obtain ⟨name, factory⟩ := bean
    rw [List.map_cons, List.forall_mem_cons] at takes
    obtain ⟨⟨recipe, known, sound, free⟩, others⟩ := takes
    have knows := world.recipeFactory?_introduced host.identity name factory
    have own : host.Enrols (world.introduced host.identity name factory) factory := by
      refine ⟨(recipe.learnName name).learnRegistry host.identity, ?_, sound, ?_⟩
      · rw [knows, if_pos rfl, known]
        rfl
      · cases registered : recipe.registry with
        | none => simp [RecipeFactory.learnRegistry, RecipeFactory.learnName, registered]
        | some registry =>
          simp [RecipeFactory.learnRegistry, RecipeFactory.learnName, registered, free registry registered]
    obtain ⟨_, after, introduced, persists, enrols⟩ :=
      ih fun other member => (others other member).introduced name factory
    refine ⟨(), after, by rw [introduce_cons known, introduced], ?_, ?_⟩
    · exact (world.introduced_persists host.identity name factory).trans persists
    · rw [List.map_cons, List.forall_mem_cons]
      exact ⟨own.persists persists, enrols⟩

end Host

theorem build_houses {declarations : Declarations} {registry : Registry} {Sound : app.Recipe → Prop}
    {world built now : World app} {owner share : Owner}
    (described : declarations.registry = .ok registry)
    (strangers : ∀ factory ∈ declarations.beans.map Prod.snd, ∃ recipe,
      world.recipeFactory? factory = some recipe ∧ Sound recipe.recipe ∧ recipe.registry = none)
    (building : build code (unbounded code) declarations world = some (.ok owner, built))
    (persists : Persists built now) (same : share.registry = owner.registry)
    (held : now.isHeld share) : (Host.mk share registry Sound).Houses now := by
  obtain ⟨identity, serial⟩ := share
  let host : Host app := ⟨⟨⟨world.registries.size⟩, serial⟩, registry, Sound⟩
  have takes (factory : FactoryId) (member : factory ∈ declarations.beans.map Prod.snd) :
      host.Takes (world.addRegistry registry).2 factory := by
    obtain ⟨recipe, known, sound, free⟩ := strangers factory member
    exact ⟨recipe, known, sound, by simp [free]⟩
  rw [← carryOut, ← unbounded_request] at building
  obtain ⟨prepared, introduced, reached, founded⟩ := build_introduces described building
  obtain rfl : identity = ⟨world.registries.size⟩ := same.trans (founded owner rfl)
  have introducing : (introduce code (unbounded code) host.identity declarations.beans).Gives _ _ :=
    host.introduce_enrols takes
  obtain ⟨_, middle, alike, introducing, enrols⟩ := introducing
  obtain rfl : middle = prepared := congrArg Prod.snd (Option.some.inj (alike.symm.trans introduced))
  have later : Persists middle now := reached.persists.trans persists
  obtain ⟨owners, cell, granted⟩ := (introducing.trans later).cells (world.registryCell?_addRegistry registry)
  have among : serial ∈ owners := by
    change now.registryCell? ⟨world.registries.size⟩ = _ at cell
    simpa [World.isHeld, cell] using held
  refine ⟨⟨?_, owners, cell⟩, held, fun factory member => ?_⟩
  · rcases granted _ among with none | fresh
    · cases none
    · exact fresh.2
  · exact (enrols factory (mem_declared described member)).persists later

theorem Declarations.capacity_le {declarations : Declarations} {registry : Registry}
    (described : declarations.registry = .ok registry) :
    registry.capacity ≤ (declarations.beans.map Prod.snd).toFinset.card * declarations.nestingBound := by
  have bound : registry.nestingBound = declarations.nestingBound := by
    unfold Declarations.registry at described
    split at described
    · cases described
    · split at described <;> cases described
      rfl
  unfold Registry.capacity
  rw [bound]
  refine Nat.mul_le_mul_right _ (Finset.card_le_card fun factory member => ?_)
  rw [List.mem_toFinset] at member ⊢
  exact mem_declared described member

theorem resolving_ends {declarations : Declarations} {Sound : app.Recipe → Prop}
    {world built now : World app} {owner share : Owner}
    (strangers : ∀ factory ∈ declarations.beans.map Prod.snd, ∃ recipe,
      world.recipeFactory? factory = some recipe ∧ Sound recipe.recipe ∧ recipe.registry = none)
    (building : unbounded code (.request (.build declarations)) world = some (.ok owner, built))
    (confines : ∀ registry, declarations.registry = .ok registry → code.Confines ⟨share, registry, Sound⟩)
    (reached : Reaches built now) (outermost : now.guards = Guards.empty)
    (same : share.registry = owner.registry) (held : now.isHeld share) (name : String) :
    ∃ outcome after,
      unbounded code (.request (.resolve owner.registry name)) now = some (outcome, after) ∧
        ListsAtMost ((declarations.beans.map Prod.snd).toFinset.card * declarations.nestingBound)
          now after := by
  rw [unbounded_request] at building
  cases described : declarations.registry with
  | error fault =>
    simp only [carryOut, build, described] at building
    cases building
  | ok registry =>
    let host : Host app := ⟨share, registry, Sound⟩
    have houses : host.Houses now :=
      build_houses described strangers building reached.persists same held
    have inside : host.Inside [] now now :=
      { houses with
        guards := outermost
        persists := .of_eq (Nat.le_refl _) rfl rfl
        lists := ⟨[], rfl, List.forall_mem_nil _⟩ }
    have positive := registry_nestingBound_pos described
    have roomy : host.registry.Roomy [] := .nil
    obtain ⟨⟨outcome, after⟩, answered, _, still⟩ := Host.resolve_ends positive
      (Host.ends (confines registry described) positive roomy) roomy inside name
    obtain ⟨steps, journal, few⟩ := still.lists
    rw [← same]
    refine ⟨outcome, after, answered, steps, journal, fun step member guards shown => ?_⟩
    exact (few step member shown).trans (Declarations.capacity_le described)

theorem unpack_confines (share : Owner) (registry : Registry) :
    Sample.unpack.Confines ⟨share, registry, fun _ => True⟩ := by
  let host : Host Sample.toys := ⟨share, registry, fun _ => True⟩
  have made (world : World Sample.toys) (scope : Scope) (inner : Sample.Doll) (held : world.isHeld share) :
      let after := (world.addFactory (.recipe (.ofRecipe scope inner))).2
      after.isHeld share ∧ host.Takes after ⟨world.factories.size⟩ := by
    refine ⟨held, .ofRecipe scope inner, ?_, trivial, nofun⟩
    rw [World.recipeFactory?_addFactory, if_pos rfl]
  constructor
  · intro resolver lawful recipe creation world _ registered houses
    refine ⟨1, ?_⟩
    cases recipe with
    | solid => exact ⟨_, _, rfl, houses.held, nofun⟩
    | around inner =>
      obtain ⟨held, takes⟩ := made world .singleton inner houses.held
      refine ⟨_, _, rfl, held, fun nested same => ?_⟩
      cases same
      exact takes
    | endless names =>
      obtain ⟨_, after, gathered, still⟩ := gather_confined lawful registered houses names
      obtain ⟨held, takes⟩ := made after .prototype (.endless names) still.held
      change Eval.Gives (Handler.script _ (Sample.Doll.reveal creation (.endless names))) world _
      rw [Eval.Gives, Sample.Doll.reveal, Handler.script_bind, gathered]
      refine ⟨_, _, rfl, held, fun nested same => ?_⟩
      cases same
      exact takes
  · intro resolver lawful recipe product creation world _ _ houses
    exact ⟨1, .ok (), world, rfl, houses.held, fun _ _ takes => takes⟩

-- A doll that leads back to itself by its name and by what is inside of it.
def Sample.spiral : World Sample.toys :=
  { World.initial () with factories := #[.recipe (.ofRecipe .singleton (.endless ["spiral"]))] }

def Sample.spirals : Declarations :=
  (Declarations.empty.withBean "spiral" ⟨0⟩).withNestingBound 2

theorem spiral_ends :
    ∃ owner built outcome after,
      unbounded Sample.unpack (.request (.build Sample.spirals)) Sample.spiral = some (.ok owner, built) ∧
        unbounded Sample.unpack (.request (.resolve owner.registry "spiral")) built =
          some (outcome, after) ∧ ListsAtMost 2 built after := by
  have builds : (perform Sample.unpack 2 (.request (.build Sample.spirals)) Sample.spiral).any
      (fun answer =>
        answer.1.toOption.any (answer.2.isHeld ·) && answer.2.guards = Guards.empty) = true := by
    decide +kernel
  obtain ⟨⟨made, built⟩, performed, settled⟩ := (Option.any_eq_true _ _).mp builds
  rw [Bool.and_eq_true, decide_eq_true_iff] at settled
  obtain ⟨kept, outermost⟩ := settled
  cases made with
  | error _ => cases kept
  | ok owner =>
    have building : unbounded Sample.unpack (.request (.build Sample.spirals)) Sample.spiral =
        some (.ok owner, built) := unbounded_eq_some_iff.mpr ⟨2, performed⟩
    have strangers (factory : FactoryId) (member : factory ∈ Sample.spirals.beans.map Prod.snd) :
        ∃ recipe : RecipeFactory Sample.toys, Sample.spiral.recipeFactory? factory = some recipe ∧
          True ∧ recipe.registry = none := by
      obtain rfl : factory = ⟨0⟩ := List.mem_singleton.mp member
      exact ⟨_, rfl, trivial, rfl⟩
    obtain ⟨outcome, after, answered, lists⟩ := resolving_ends strangers building
      (fun registry _ => unpack_confines owner registry) .refl outermost rfl kept "spiral"
    exact ⟨owner, built, outcome, after, building, answered, lists⟩

end BeanRegistry
