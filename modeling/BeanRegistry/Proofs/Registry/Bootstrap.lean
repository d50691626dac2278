import BeanRegistry.Proofs.Registry.Aliases
import BeanRegistry.Proofs.Registry.Causes
import BeanRegistry.Proofs.Registry.Introduction

set_option autoImplicit false

namespace BeanRegistry

variable {app : Application} {code : Code app} {home : RegistryId}

inductive LoadsAll (code : Code app) (home : RegistryId) : List String → World app → World app → Prop where
  | done (world : World app) : LoadsAll code home [] world world
  | next {name : String} {rest : List String} {world middle after : World app} {bean : Object app.Content}
      (resolves : unbounded code (.request (.resolve home name)) world = some (.ok bean, middle))
      (single : isSingletonNamed middle home name = .ok true) (loads : LoadsAll code home rest middle after) :
      LoadsAll code home (name :: rest) world after

inductive LoadFails (code : Code app) (home : RegistryId) (name : String) (world : World app) :
    BeanFailure → World app → Prop where
  | fails {error : BeanFailure} {after : World app}
      (resolves : unbounded code (.request (.resolve home name)) world = some (.error error, after)) :
      LoadFails code home name world error after
  | prototype {bean : Object app.Content} {after : World app}
      (resolves : unbounded code (.request (.resolve home name)) world = some (.ok bean, after))
      (several : isSingletonNamed after home name = .ok false) :
      LoadFails code home name world (.invalidConfiguration (.eagerPrototype name)) after

section Loading

variable {name : String} {names rest : List String} {world middle after : World app} {error : BeanFailure}

theorem produce_unknown {factory : FactoryId} (unknown : world.factory? factory = none) :
    unbounded code (.request (.produce factory)) world = some (.error (.notFound ""), world) := by
  rw [unbounded_produce, produce, Eval.get_bind, unknown]
  rfl

-- A bean that was resolved has a factory, so it is known whether it is a singleton.
theorem resolved_single {bean : Object app.Content}
    (resolves : unbounded code (.request (.resolve home name)) world = some (.ok bean, after)) :
    ∃ single, isSingletonNamed after home name = .ok single := by
  cases found : (world.registry home).factory? name with
  | none =>
    rw [resolve_unknown found] at resolves
    cases resolves
  | some factory =>
    cases known : world.factory? factory with
    | none =>
      rw [resolve_failed found (produce_unknown known)] at resolves
      cases resolves
    | some early =>
      obtain ⟨late, still, _⟩ := ((stays_keeps code).unbounded_keeps _ _ _ _ resolves).factories known
      have named : (after.registry home).factory? name = some factory := by
        cases cell : world.registryCell? home with
        | none =>
          rw [World.registry, cell] at found
          cases found
        | some registered =>
          rw [(unbounded_persists resolves).answers cell]
          rwa [World.registry, cell] at found
      exact ⟨late.isSingleton, by simp [isSingletonNamed, named, still]⟩

theorem loadEagerly_resolved {bean : Object app.Content}
    (resolves : unbounded code (.request (.resolve home name)) world = some (.ok bean, middle)) :
    loadEagerly code (unbounded code) home (name :: rest) world =
      match isSingletonNamed middle home name with
      | .error error => some (.error error, middle)
      | .ok false => some (.error (.invalidConfiguration (.eagerPrototype name)), middle)
      | .ok true => loadEagerly code (unbounded code) home rest middle := by
  rw [unbounded_resolve] at resolves
  rw [loadEagerly, Eval.bind_apply, resolves, Option.bind_some]
  dsimp only
  rw [Eval.get_bind]
  rcases isSingletonNamed middle home name with error | (single | single) <;> rfl

theorem LoadsAll.loads (loads : LoadsAll code home names world middle) (rest : List String) :
    loadEagerly code (unbounded code) home (names ++ rest) world =
      loadEagerly code (unbounded code) home rest middle := by
  induction loads with
  | done world => rfl
  | next resolves single _ ih => rw [List.cons_append, loadEagerly_resolved resolves, single, ih]

theorem LoadFails.loads (fails : LoadFails code home name world error after) :
    loadEagerly code (unbounded code) home (name :: rest) world = some (.error error, after) := by
  cases fails with
  | fails resolves =>
    rw [unbounded_resolve] at resolves
    rw [loadEagerly, Eval.bind_apply, resolves]
    rfl
  | prototype resolves several => rw [loadEagerly_resolved resolves, several]

theorem loadEagerly_cases {outcome : Except BeanFailure Unit}
    (loading : loadEagerly code (unbounded code) home names world = some (outcome, after)) :
    outcome = .ok () ∧ LoadsAll code home names world after ∨
      ∃ error before name rest middle, outcome = .error error ∧ names = before ++ name :: rest ∧
        LoadsAll code home before world middle ∧ LoadFails code home name middle error after := by
  induction names generalizing world with
  | nil =>
    cases loading
    exact .inl ⟨rfl, .done _⟩
  | cons name rest ih =>
    cases resolves : unbounded code (.request (.resolve home name)) world with
    | none =>
      rw [unbounded_resolve] at resolves
      rw [loadEagerly, Eval.bind_apply, resolves] at loading
      cases loading
    | some answer =>
      obtain ⟨resolved, middle⟩ := answer
      cases resolved with
      | error error =>
        rw [LoadFails.loads (.fails resolves)] at loading
        cases loading
        exact .inr ⟨error, [], name, rest, world, rfl, rfl, .done world, .fails resolves⟩
      | ok bean =>
        obtain ⟨single, known⟩ := resolved_single resolves
        cases single with
        | false =>
          rw [LoadFails.loads (.prototype resolves known)] at loading
          cases loading
          exact .inr ⟨_, [], name, rest, world, rfl, rfl, .done world, .prototype resolves known⟩
        | true =>
          rw [loadEagerly_resolved resolves, known] at loading
          rcases ih loading with ⟨rfl, loads⟩ | ⟨error, before, other, later, last, rfl, rfl, loads, fails⟩
          · exact .inl ⟨rfl, .next resolves known loads⟩
          · exact .inr ⟨error, name :: before, other, later, last, rfl, rfl,
              .next resolves known loads, fails⟩

theorem loadEagerly_ok_iff : loadEagerly code (unbounded code) home names world = some (.ok (), after) ↔
    LoadsAll code home names world after := by
  constructor
  · intro loading
    rcases loadEagerly_cases loading with ⟨_, loads⟩ | ⟨_, _, _, _, _, failed, _⟩
    · exact loads
    · cases failed
  · intro loads
    have all := loads.loads []
    rwa [List.append_nil] at all

theorem loadEagerly_error_iff :
    loadEagerly code (unbounded code) home names world = some (.error error, after) ↔
    ∃ before name rest middle, names = before ++ name :: rest ∧ LoadsAll code home before world middle ∧
      LoadFails code home name middle error after := by
  constructor
  · intro loading
    rcases loadEagerly_cases loading with
      ⟨succeeded, _⟩ | ⟨_, before, name, rest, middle, same, split, loads, fails⟩
    · cases succeeded
    · cases same
      exact ⟨before, name, rest, middle, split, loads, fails⟩
  · rintro ⟨before, name, rest, middle, rfl, loads, fails⟩
    rw [loads.loads, fails.loads]

theorem unbounded_produces {factory : FactoryId} {bean : Object app.Content}
    (single : world.scope? factory = some .singleton)
    (produced : unbounded code (.request (.produce factory)) world = some (.ok bean, after)) :
    after.ready? factory = some bean :=
  (code_produces code factory).kept single produced

theorem LoadsAll.ready {factory : FactoryId} {bean : Object app.Content}
    (loads : LoadsAll code home names world after) (ready : world.ready? factory = some bean) :
    after.ready? factory = some bean := by
  induction loads with
  | done world => exact ready
  | next resolves _ _ ih => exact ih ((code_produces code _).lasts ready resolves).1

theorem Persists.scope? {factory : FactoryId} {scope : Scope} (persists : Persists world after)
    (known : world.scope? factory = some scope) : after.scope? factory = some scope := by
  obtain ⟨early, found, rfl⟩ := World.scope?_eq_some_iff.mp known
  obtain ⟨late, still, becomes⟩ := persists.recipes found
  exact World.scope?_eq_some_iff.mpr ⟨late, still, becomes.scope⟩

theorem LoadsAll.created {factory : FactoryId} {cell : RegistryCell}
    (loads : LoadsAll code home names world after) (founded : world.registryCell? home = some cell)
    (single : world.scope? factory = some .singleton)
    (member : name ∈ names) (found : cell.registry.factory? name = some factory) :
    ∃ bean, after.ready? factory = some bean := by
  induction loads generalizing cell with
  | done world => cases member
  | @next first rest world middle after bean resolves _ loads ih =>
    have persists := unbounded_persists resolves
    rcases List.mem_cons.mp member with rfl | among
    · have named : (world.registry home).factory? name = some factory := by
        rwa [World.registry, founded]
      exact ⟨bean, loads.ready (unbounded_produces single (resolve_ok named resolves))⟩
    · obtain ⟨owners, still, _⟩ := persists.cells founded
      exact ih still (persists.scope? single) among found

end Loading

-- The part of building that comes before the first eager bean.
noncomputable def opening (code : Code app) (declarations : Declarations) (registry : Registry) :
    Eval app Owner := do
  let home ← modifyGet fun world => world.addRegistry registry
  introduce code (unbounded code) home declarations.beans
  registry.aliases.forM fun resolved => Eval.note (.aliased resolved)
  modifyGet fun world => world.grant home

section Opening

variable {declarations : Declarations} {registry : Registry} {world opened built : World app} {owner : Owner}

theorem opening_eq_some_iff : opening code declarations registry world = some (owner, opened) ↔
    ∃ told, introduce code (unbounded code) ⟨world.registries.size⟩ declarations.beans
        (world.addRegistry registry).2 = some ((), told) ∧
      (told.noteAliases registry.aliases).grant ⟨world.registries.size⟩ = (owner, opened) := by
  have founded : (modifyGet fun world => world.addRegistry registry : Eval app RegistryId) world =
      some (⟨world.registries.size⟩, (world.addRegistry registry).2) := rfl
  rw [opening, Eval.bind_eq_some_iff]
  constructor
  · rintro ⟨home, _, same, rest⟩
    cases founded.symm.trans same
    obtain ⟨_, told, introduced, rest⟩ := Eval.bind_eq_some_iff.mp rest
    rw [Eval.bind_apply, noteAliases_run] at rest
    exact ⟨told, introduced, Option.some.inj rest⟩
  · rintro ⟨told, introduced, granted⟩
    refine ⟨_, _, founded, ?_⟩
    rw [Eval.bind_apply, introduced, Option.bind_some, Eval.bind_apply, noteAliases_run]
    exact congrArg some granted

theorem opening_owner (opens : opening code declarations registry world = some (owner, opened)) :
    owner.registry = ⟨world.registries.size⟩ := by
  obtain ⟨told, _, granted⟩ := opening_eq_some_iff.mp opens
  exact congrArg (·.1.registry) granted.symm

theorem build_opens (described : declarations.registry = .ok registry) {outcome : Except BeanFailure Owner} :
    unbounded code (.request (.build declarations)) world = some (outcome, built) ↔
      ∃ owner opened loaded last, opening code declarations registry world = some (owner, opened) ∧
        loadEagerly code (unbounded code) owner.registry declarations.eager opened = some (loaded, last) ∧
        (outcome, built) =
          match loaded with
          | .error error => (.error error, last.release owner)
          | .ok _ => (.ok owner, last.note (.built registry.names.length registry.aliases.length
              declarations.eager.length)) := by
  rw [unbounded_request, carryOut, build_eq described, Option.bind_eq_some_iff]
  constructor
  · rintro ⟨⟨_, told⟩, introduced, loading⟩
    obtain ⟨⟨loaded, last⟩, loading, same⟩ := Option.map_eq_some_iff.mp loading
    refine ⟨_, _, loaded, last, opening_eq_some_iff.mpr ⟨told, introduced, rfl⟩, loading, ?_⟩
    rw [← same]
    cases loaded <;> rfl
  · rintro ⟨owner, opened, loaded, last, opens, loading, same⟩
    obtain ⟨told, introduced, granted⟩ := opening_eq_some_iff.mp opens
    cases granted
    refine ⟨((), told), introduced, Option.map_eq_some_iff.mpr ⟨(loaded, last), loading, ?_⟩⟩
    rw [same]
    cases loaded <;> rfl

theorem opening_persists (described : declarations.registry = .ok registry)
    (opens : opening code declarations registry world = some (owner, opened)) :
    Persists world opened ∧
      ∃ owners, opened.registryCell? owner.registry = some ⟨registry, owners⟩ ∧ owners ≠ [] := by
  obtain ⟨told, introduced, granted⟩ := opening_eq_some_iff.mp opens
  cases granted
  let keeps := persists_keeps code
  have founded := keeps.plain (.addRegistry world declarations registry described)
  have noted := (introduce_persists introduced).trans
    (noteAliases_keeps Persists keeps.trans keeps.careful registry.aliases told)
  obtain ⟨owners, known, _⟩ := noted.cells (world.registryCell?_addRegistry registry)
  exact ⟨(founded.trans noted).trans (keeps.plain (.grant _ _)), _, World.registryCell?_mapOwners known _,
    List.cons_ne_nil _ _⟩

theorem opening_notes (opens : opening code declarations registry world = some (owner, opened)) :
    Notes world opened (world.tellings owner.registry declarations.beans) := by
  rw [opening_owner opens]
  obtain ⟨told, introduced, granted⟩ := opening_eq_some_iff.mp opens
  cases granted
  let keeps := stays_keeps code
  have founded : Stays world (world.addRegistry registry).2 := .of_eq [] rfl rfl
  have noted := (noteAliases_keeps Stays keeps.trans keeps.careful registry.aliases told).trans
    (keeps.plain (.grant _ ⟨world.registries.size⟩))
  have all := (founded.notes.trans (introduce_notes introduced)).trans noted.notes
  rw [List.nil_append, List.append_nil] at all
  exact all

theorem opening_quiet (quietly : code.HearsQuietly) (described : declarations.registry = .ok registry)
    (opens : opening code declarations registry world = some (owner, opened)) : Quiet world opened := by
  obtain ⟨told, introduced, granted⟩ := opening_eq_some_iff.mp opens
  cases granted
  have founded := (PlainMove.addRegistry world declarations registry described).quiet
  have noted := noteAliases_keeps Quiet Quiet.trans (fun move => move.plain.quiet) registry.aliases told
  exact ((founded.trans (introduce_quiet quietly introduced)).trans noted).trans (PlainMove.grant _ _).quiet

theorem opening_answers (quietly : code.HearsQuietly) (declarations : Declarations) (registry : Registry)
    (world : World app) : ∃ owner opened, opening code declarations registry world =
      some (owner, opened) := by
  obtain ⟨_, told, introduced, _⟩ :=
    introduce_answers quietly ⟨world.registries.size⟩ declarations.beans (world.addRegistry registry).2
  exact ⟨_, _, opening_eq_some_iff.mpr ⟨told, introduced, rfl⟩⟩

theorem opening_learned {name : String} {factory : FactoryId} {early : RecipeFactory app}
    (described : declarations.registry = .ok registry)
    (opens : opening code declarations registry world = some (owner, opened))
    (member : (name, factory) ∈ declarations.beans) (known : world.recipeFactory? factory = some early) :
    ∃ late, opened.recipeFactory? factory = some late ∧ late.name.isSome ∧ late.registry.isSome := by
  obtain ⟨told, introduced, granted⟩ := opening_eq_some_iff.mp opens
  cases granted
  let keeps := persists_keeps code
  obtain ⟨before, rest, split⟩ := List.append_of_mem member
  rw [split, introduce_append] at introduced
  obtain ⟨_, middle, early_ones, introduced⟩ := Eval.bind_eq_some_iff.mp introduced
  have founded := keeps.plain (.addRegistry world declarations registry described)
  obtain ⟨waiting, found, _⟩ := (founded.trans (introduce_persists early_ones)).recipes known
  obtain ⟨learned, still, named, housed⟩ := introduce_told found introduced
  have noted := (noteAliases_keeps Persists keeps.trans keeps.careful registry.aliases told).trans
    (keeps.plain (.grant _ ⟨world.registries.size⟩))
  obtain ⟨late, last, becomes⟩ := noted.recipes still
  exact ⟨late, last, by rw [becomes.name _ named]; rfl, by rw [becomes.registry _ housed]; rfl⟩

end Opening

structure Opened (code : Code app) (declarations : Declarations) (world : World app) (owner : Owner)
    (opened : World app) : Prop where
  home : owner.registry = ⟨world.registries.size⟩
  active : opened.isActive owner.registry = true
  told : Notes world opened (world.tellings owner.registry declarations.beans)
  learned : ∀ {name factory}, (name, factory) ∈ declarations.beans → (world.recipeFactory? factory).isSome →
    ∃ recipe, opened.recipeFactory? factory = some recipe ∧ recipe.name.isSome ∧ recipe.registry.isSome
  quiet : code.HearsQuietly → Quiet world opened
  -- Whatever creators there are to run find every bean and every alias.
  complete : ∀ {now}, Reaches opened now → ∀ name,
    (now.registry owner.registry).factory? name =
        declarations.beans.lookup (Alias.follow declarations.aliases.reverse name) ∧
      ((now.registry owner.registry).contains name = true ↔
        name ∈ declarations.names ∨ name ∈ declarations.aliases.map Alias.name)

structure Bootstraps (code : Code app) (declarations : Declarations) (registry : Registry)
    (world : World app) : Prop where
  introduces : ∀ {owner opened}, opening code declarations registry world = some (owner, opened) ↔
    ∃ told, Introduces code ⟨world.registries.size⟩ declarations.beans (world.addRegistry registry).2 told ∧
      (told.noteAliases registry.aliases).grant ⟨world.registries.size⟩ = (owner, opened)
  opens : code.HearsQuietly → ∃ owner opened, opening code declarations registry world = some (owner, opened)
  opened : ∀ {owner opened}, opening code declarations registry world = some (owner, opened) →
    Opened code declarations world owner opened
  succeeds : ∀ {owner built}, unbounded code (.request (.build declarations)) world =
    some (.ok owner, built) ↔
    ∃ opened loaded, opening code declarations registry world = some (owner, opened) ∧
      LoadsAll code owner.registry declarations.eager opened loaded ∧
      built = loaded.note (.built registry.names.length registry.aliases.length declarations.eager.length)
  fails : ∀ {error built}, unbounded code (.request (.build declarations)) world =
    some (.error error, built) ↔
    ∃ owner opened before name rest middle after,
      opening code declarations registry world = some (owner, opened) ∧
      declarations.eager = before ++ name :: rest ∧ LoadsAll code owner.registry before opened middle ∧
      LoadFails code owner.registry name middle error after ∧ built = after.release owner
  created : ∀ {owner built}, unbounded code (.request (.build declarations)) world = some (.ok owner, built) →
    ∀ name ∈ declarations.eager, ∀ factory, registry.factory? name = some factory →
      world.scope? factory = some .singleton →
        ∃ recipe, built.recipeFactory? factory = some recipe ∧ recipe.isCreated = true

section Bootstrap

variable {declarations : Declarations} {registry : Registry} {world : World app}

theorem Opened.of_opening {owner : Owner} {opened : World app}
    (described : declarations.registry = .ok registry)
    (opens : opening code declarations registry world = some (owner, opened)) :
    Opened code declarations world owner opened := by
  obtain ⟨_, owners, founded, held⟩ := opening_persists described opens
  obtain ⟨fitting, tabled⟩ := Declarations.registry_ok described
  refine ⟨opening_owner opens, by simpa [World.isActive, founded] using held, opening_notes opens,
    fun member known => ?_, fun quietly => opening_quiet quietly described opens, fun reaches name => ?_⟩
  · obtain ⟨early, found⟩ := Option.isSome_iff_exists.mp known
    exact opening_learned described opens member found
  · have found : registry.factory? name =
        declarations.beans.lookup (Alias.follow declarations.aliases.reverse name) := by
      rw [tabled]
      exact Declarations.lookup_settled fitting name
    rw [reaches.persists.answers founded]
    refine ⟨found, ?_⟩
    rw [Registry.contains, found]
    refine (declarations.isBean_iff _).trans ⟨fun member => ?_, fitting.follow_mem⟩
    by_cases known : name ∈ declarations.aliases.map Alias.name
    · exact .inr known
    · rw [Alias.follow_apart (by simpa using known)] at member
      exact .inl member

theorem bootstraps (described : declarations.registry = .ok registry) :
    Bootstraps code declarations registry world where
  introduces {owner opened} := by
    rw [opening_eq_some_iff]
    simp only [introduce_eq_some_iff]
  opens quietly := opening_answers quietly declarations registry world
  opened opens := .of_opening described opens
  succeeds {owner built} := by
    rw [build_opens described]
    constructor
    · rintro ⟨other, opened, loaded, last, opens, loading, same⟩
      cases loaded with
      | error error => cases same
      | ok _ =>
        cases same
        exact ⟨opened, last, opens, loadEagerly_ok_iff.mp loading, rfl⟩
    · rintro ⟨opened, loaded, opens, loads, rfl⟩
      exact ⟨owner, opened, .ok (), loaded, opens, loadEagerly_ok_iff.mpr loads, rfl⟩
  fails {error built} := by
    rw [build_opens described]
    constructor
    · rintro ⟨owner, opened, loaded, last, opens, loading, same⟩
      cases loaded with
      | ok _ => cases same
      | error error =>
        cases same
        obtain ⟨before, name, rest, middle, split, loads, fails⟩ := loadEagerly_error_iff.mp loading
        exact ⟨owner, opened, before, name, rest, middle, last, opens, split, loads, fails, rfl⟩
    · rintro ⟨owner, opened, before, name, rest, middle, after, opens, split, loads, fails, rfl⟩
      have loading := loadEagerly_error_iff.mpr ⟨before, name, rest, middle, split, loads, fails⟩
      exact ⟨owner, opened, .error error, after, opens, loading, rfl⟩
  created {owner built} building name member factory found single := by
    obtain ⟨_, opened, loaded, last, opens, loading, same⟩ := (build_opens described).mp building
    cases loaded with
    | error error => cases same
    | ok _ =>
      cases same
      obtain ⟨persists, owners, founded, _⟩ := opening_persists described opens
      obtain ⟨bean, ready⟩ :=
        (loadEagerly_ok_iff.mp loading).created founded (persists.scope? single) member found
      obtain ⟨recipe, known, kept⟩ := Option.bind_eq_some_iff.mp ready
      exact ⟨recipe, known, by rw [RecipeFactory.isCreated, kept]; rfl⟩

theorem build_is_phased (code : Code app) (declarations : Declarations) (world : World app) :
    (∀ fault, declarations.registry = .error fault ↔
      declarations.nestingBound = 0 ∧ fault = .zeroNesting ∨
        declarations.nestingBound ≠ 0 ∧ Alias.FirstFault declarations.names declarations.aliases fault) ∧
    (∀ fault, declarations.registry = .error fault →
      unbounded code (.request (.build declarations)) world =
        some (.error (.invalidConfiguration fault), world)) ∧
    ∀ registry, declarations.registry = .ok registry → Bootstraps code declarations registry world := by
  refine ⟨fun fault => Declarations.registry_error_iff, fun fault undescribed => ?_,
    fun registry described => bootstraps described⟩
  rw [unbounded_request, carryOut]
  simp only [build, undescribed]
  rfl

-- A lamp that is asked for eagerly, under another name and before its wick is registered.
def Sample.lamplight : Declarations :=
  (((Declarations.empty.withAlias "light" "lamp").withEager "light").withBean "lamp" ⟨0⟩).withBean "wick" ⟨1⟩

theorem Sample.lamplight_phased :
    unbounded Sample.furnish (.request (.build (Sample.lamplight.withNestingBound 0))) Sample.lampShop =
        some (.error (.invalidConfiguration .zeroNesting), Sample.lampShop) ∧
      ∃ registry owner built recipe, Sample.lamplight.registry = .ok registry ∧
        unbounded Sample.furnish (.request (.build Sample.lamplight)) Sample.lampShop =
          some (.ok owner, built) ∧
        built.recipeFactory? ⟨0⟩ = some recipe ∧ recipe.isCreated = true := by
  constructor
  · obtain ⟨faulty, untouched, _⟩ :=
      build_is_phased Sample.furnish (Sample.lamplight.withNestingBound 0) Sample.lampShop
    exact untouched _ ((faulty _).mpr (.inl ⟨rfl, rfl⟩))
  · obtain ⟨_, _, phases⟩ := build_is_phased Sample.furnish Sample.lamplight Sample.lampShop
    have succeeds : (perform Sample.furnish 8 (.request (.build Sample.lamplight)) Sample.lampShop).any
        (fun answer => answer.1.isOk) = true := by decide +kernel
    obtain ⟨outcome, built, building, ok⟩ := unbounded_of_any 8 succeeds
    cases outcome with
    | error _ => cases ok
    | ok owner =>
      obtain ⟨recipe, known, created⟩ :=
        (phases _ rfl).created building "light" (by decide) ⟨0⟩ (by decide) rfl
      exact ⟨_, owner, built, recipe, rfl, building, known, created⟩

end Bootstrap

end BeanRegistry
