import BeanRegistry.Proofs.Registry.Aliases
import BeanRegistry.Proofs.Registry.Causes
import BeanRegistry.Proofs.Run.Watched

set_option autoImplicit false

namespace BeanRegistry

variable {app : Application} {code : Code app}

-- A failure as it is for someone who asked under another name; what it wraps stays.
def BeanFailure.askedAs (name : String) : BeanFailure → BeanFailure
  | .creationFailed _ source => .creationFailed name source
  | .typeMismatch _ expected => .typeMismatch name expected
  | error => error

def Failure.askedAs (name : String) : Failure → Failure
  | .bean error => .bean (error.askedAs name)
  | failure => failure

structure Synonyms (code : Code app) (world : World app) (registry : RegistryId) (name other : String) :
    Prop where
  factory : ∃ factory, (world.registry registry).factory? name = some factory ∧
    (world.registry registry).factory? other = some factory
  contained : (world.registry registry).contains name = true ∧ (world.registry registry).contains other = true
  single : (isSingletonNamed world registry name).toOption = (isSingletonNamed world registry other).toOption
  resolves : ∀ budget, perform code budget (.request (.resolve registry name)) world =
    (perform code budget (.request (.resolve registry other)) world).map
      (Prod.map (Except.mapError (.askedAs name)) id)
  wrapped : ∀ error after, unbounded code (.request (.resolve registry other)) world =
    some (.error error, after) → ∃ source, error = .creationFailed other (.bean source) ∧
      unbounded code (.request (.resolve registry name)) world =
        some (.error (.creationFailed name (.bean source)), after)
  typed : ∀ type, (unbounded code).script (.resolveTyped registry type name) world =
    ((unbounded code).script (.resolveTyped registry type other) world).map
      (Prod.map (Except.mapError (.askedAs name)) id)
  referred : ∀ creation : Creation, creation.registry = some registry →
    (unbounded code).script (creation.resolve name) world =
      ((unbounded code).script (creation.resolve other) world).map
        (Prod.map (Except.mapError (.askedAs name)) id)
  circular : ∀ factory recipe, (world.registry registry).factory? name = some factory →
    world.recipeFactory? factory = some recipe → ∀ own after, ∀ asked ∈ [name, other],
      (unbounded code (.request (.resolve registry asked)) world =
          some (.error (.creationFailed asked (.bean (.circularFactory own))), after) ↔
        factory ∈ world.guards.producing ∧ recipe.ready? = none ∧ own = recipe.displayName ∧
          after = world.refuse factory)

section OneFactory

variable {handle : Handler app} {world : World app} {registry : RegistryId} {name other : String}
  {factory : FactoryId}

theorem resolve_askedAs (named : (world.registry registry).factory? name = some factory)
    (same : (world.registry registry).factory? other = some factory) :
    resolve code handle registry name world =
      (resolve code handle registry other world).map (Prod.map (Except.mapError (.askedAs name)) id) := by
  rw [resolve_known named, resolve_known same]
  cases produce code handle factory world with
  | none => rfl
  | some answer =>
    obtain ⟨outcome, after⟩ := answer
    cases outcome <;> rfl

theorem unbounded_resolve_askedAs (named : (world.registry registry).factory? name = some factory)
    (same : (world.registry registry).factory? other = some factory) :
    unbounded code (.request (.resolve registry name)) world =
      (unbounded code (.request (.resolve registry other)) world).map
        (Prod.map (Except.mapError (.askedAs name)) id) := by
  rw [unbounded_resolve, unbounded_resolve, resolve_askedAs named same]

theorem script_resolveTyped (code : Code app) (registry : RegistryId) (type : BeanType app.Content)
    (name : String) (world : World app) :
    (unbounded code).script (.resolveTyped registry type name) world =
      (unbounded code (.request (.resolve registry name)) world).map
        (Prod.map (fun outcome => outcome.bind fun bean => type.check name bean) id) := by
  rw [Script.resolveTyped, Handler.script_bind, Script.resolve, Script.request, Handler.script_request]
  cases unbounded code (.request (.resolve registry name)) world with
  | none => rfl
  | some answer =>
    obtain ⟨outcome, after⟩ := answer
    cases outcome <;> rfl

theorem typed_askedAs (named : (world.registry registry).factory? name = some factory)
    (same : (world.registry registry).factory? other = some factory) (type : BeanType app.Content) :
    (unbounded code).script (.resolveTyped registry type name) world =
      ((unbounded code).script (.resolveTyped registry type other) world).map
        (Prod.map (Except.mapError (.askedAs name)) id) := by
  rw [script_resolveTyped, script_resolveTyped, unbounded_resolve_askedAs named same, Option.map_map,
    Option.map_map]
  cases unbounded code (.request (.resolve registry other)) world with
  | none => rfl
  | some answer =>
    obtain ⟨outcome, after⟩ := answer
    cases outcome with
    | error error => rfl
    | ok bean =>
      change some (type.check name bean, after) = some ((type.check other bean).mapError _, after)
      unfold BeanType.check
      split <;> rfl

-- A creation asks the registry in the world it has acquired a share in.
theorem referred_askedAs (named : (world.registry registry).factory? name = some factory)
    (same : (world.registry registry).factory? other = some factory) {creation : Creation}
    (registered : creation.registry = some registry) :
    (unbounded code).script (creation.resolve name) world =
      ((unbounded code).script (creation.resolve other) world).map
        (Prod.map (Except.mapError (.askedAs name)) id) := by
  rw [script_resolve registered, script_resolve registered]
  split
  next alive =>
    have granted (asked : String) : ((world.grant registry).2.registry registry).factory? asked =
        (world.registry registry).factory? asked := by rw [registry_granted alive]
    rw [unbounded_resolve_askedAs ((granted name).trans named) ((granted other).trans same), Option.map_map,
      Option.map_map]
    cases unbounded code (.request (.resolve registry other)) (world.grant registry).2 with
    | none => rfl
    | some answer =>
      obtain ⟨outcome, after⟩ := answer
      cases outcome <;> rfl
  next => rfl

end OneFactory

theorem Synonyms.of_factory {world : World app} {registry : RegistryId} {name other : String}
    {factory : FactoryId} (named : (world.registry registry).factory? name = some factory)
    (same : (world.registry registry).factory? other = some factory) :
    Synonyms code world registry name other where
  factory := ⟨factory, named, same⟩
  contained := by simp [Registry.contains, named, same]
  single := by
    simp only [isSingletonNamed, named, same]
    cases world.factory? factory <;> rfl
  resolves budget := by
    cases budget with
    | zero => rfl
    | succ budget => exact resolve_askedAs named same
  wrapped error after fails := by
    obtain ⟨source, rfl, produced⟩ := resolve_error same fails
    exact ⟨source, rfl, resolve_failed named produced⟩
  typed := typed_askedAs named same
  referred _ := referred_askedAs named same
  circular producer recipe found known own after asked among := by
    obtain rfl := Option.some.inj (named.symm.trans found)
    have leads : (world.registry registry).factory? asked = some factory := by
      rcases List.mem_pair.mp among with rfl | rfl
      · exact named
      · exact same
    rw [← produce_circular_iff known]
    constructor
    · intro fails
      obtain ⟨source, wraps, produced⟩ := resolve_error leads fails
      cases wraps
      exact produced
    · exact resolve_failed leads

def AliasesAgree (code : Code app) (world : World app) : Prop :=
  ∀ registry name target, (world.registry registry).aliasTarget? name = some target →
    Synonyms code world registry name target

def World.Described (world : World app) : Prop :=
  ∀ cell ∈ world.registries, ∃ declarations : Declarations, declarations.registry = .ok cell.registry

section Described

variable {world after : World app}

theorem World.Described.plain (described : world.Described) (move : PlainMove world after) :
    after.Described :=
  have own {declarations : Declarations} {registry : Registry}
      (described : declarations.registry = .ok registry) :
      ∃ declarations : Declarations, declarations.registry = .ok registry := ⟨declarations, described⟩
  move.registries own described

theorem World.Described.of_eq (described : world.Described) (same : after.registries = world.registries) :
    after.Described := by
  rwa [Described, same]

theorem ChainMove.registries_eq (move : ChainMove world after) : after.registries = world.registries := by
  cases move with
  | finish => rfl
  | pass passage passed => cases passed <;> rfl

theorem ProductionMove.registries_eq (move : ProductionMove world after) :
    after.registries = world.registries := by
  cases move with
  | pipeline factory passed => cases passed <;> rfl
  | _ => rfl

theorem Reaches.described (reaches : Reaches world after) (described : world.Described) :
    after.Described := by
  induction reaches with
  | refl => exact described
  | tail _ moved ih =>
    cases moved with
    | plain moved => exact ih.plain moved
    | chain moved => exact ih.of_eq moved.registries_eq
    | production moved => exact ih.of_eq moved.registries_eq

theorem Declarations.aliased_factory {declarations : Declarations} {registry : Registry}
    {name target : String}
    (described : declarations.registry = .ok registry) (leads : registry.aliasTarget? name = some target) :
    ∃ factory, registry.factory? name = some factory ∧ registry.factory? target = some factory := by
  obtain ⟨fitting, rfl⟩ := registry_ok described
  simp only [Registry.aliasTarget?, Alias.settle_find?] at leads
  split at leads <;> cases leads
  next among =>
    have primary := fitting.follow_mem (.inr among)
    obtain ⟨factory, found⟩ := Option.isSome_iff_exists.mp ((declarations.isBean_iff _).mpr primary)
    refine ⟨factory, ?_, ?_⟩
    · rw [Registry.factory?, lookup_settled fitting, found]
    · rw [Registry.factory?, lookup_settled fitting, fitting.follow_primary primary, found]

theorem World.Described.aliasesAgree (described : world.Described) : AliasesAgree code world := by
  intro registry name target leads
  cases found : world.registryCell? registry with
  | none =>
    rw [World.registry, found] at leads
    cases leads
  | some cell =>
    have answers : world.registry registry = cell.registry := by simp [World.registry, found]
    obtain ⟨declarations, own⟩ := described cell (Array.mem_of_getElem? found)
    rw [answers] at leads
    obtain ⟨factory, named, same⟩ := Declarations.aliased_factory own leads
    exact .of_factory (answers ▸ named) (answers ▸ same)

end Described

theorem aliases_are_synonyms (code : Code app) (memory : app.Memory) :
    (∀ now, Reaches (World.initial memory) now → AliasesAgree code now) ∧
    ∀ {Result : Type} (budget : Nat) (script : Script app Result),
      (World.initial memory).runWatched code (AliasesAgree code) budget script =
          (World.initial memory).run code budget script ∧
        ∀ result after, (World.initial memory).run code budget script = some (result, after) →
          Reaches (World.initial memory) after := by
  have initially : (World.initial memory).Described := by simp [World.Described, World.initial]
  refine ⟨fun now reaches => (reaches.described initially).aliasesAgree, fun budget script => ?_⟩
  have watches : code.Watches World.Described (fun _ _ => True) fun _ _ => True :=
    .of_moves code (fun move described => described.plain move)
      (fun move described => described.of_eq move.registries_eq)
      fun move described => described.of_eq move.registries_eq
  obtain ⟨same, _⟩ := watches.run_shows World.Described.aliasesAgree initially budget script
  exact ⟨same, fun result after ran => (reaches_keeps code).run_keeps ran⟩

def Sample.glaze : Script Sample.app (Except BeanFailure Owner) := do
  let glass ← Script.newFactory .singleton []
  Script.request (.build ((Declarations.empty.withBean "glass" glass).withAlias "pane" "glass"))

theorem Sample.pane_is_glass : ∃ owner built,
    (World.initial ()).run Sample.code 4 Sample.glaze = some (.ok owner, built) ∧
      (built.registry owner.registry).aliasTarget? "pane" = some "glass" ∧
      Synonyms Sample.code built owner.registry "pane" "glass" := by
  have glazes : ((World.initial ()).run Sample.code 4 Sample.glaze).any (fun answer =>
      answer.1.toOption.any fun owner =>
        (answer.2.registry owner.registry).aliasTarget? "pane" = some "glass") = true := by decide +kernel
  obtain ⟨⟨outcome, built⟩, ran, leads⟩ := (Option.any_eq_true _ _).mp glazes
  cases outcome with
  | error _ => cases leads
  | ok owner =>
    have leads : (built.registry owner.registry).aliasTarget? "pane" = some "glass" := of_decide_eq_true leads
    have reached := (reaches_keeps Sample.code).run_keeps ran
    exact ⟨owner, built, ran, leads, (aliases_are_synonyms Sample.code ()).1 built reached _ _ _ leads⟩

end BeanRegistry
