import Mathlib.Data.List.Infix
import BeanRegistry.Proofs.Factory.Creation
import BeanRegistry.Proofs.Registry.Confined
import BeanRegistry.Proofs.Sample

set_option autoImplicit false

namespace BeanRegistry

variable {app : Application} {code : Code app}

inductive Hop where
  | reference (name : String)
  | nested
  deriving DecidableEq, Repr

inductive Mishap where
  | raised (failure : Failure)
  | refused (error : BeanFailure)
  | unknown (name : String)

inductive Layer where
  | creationFailed (name : String)
  | unableToCreate
  deriving DecidableEq, Repr

namespace Layer

def around : Layer → Failure → Failure
  | .creationFailed name, failure => .bean (.creationFailed name failure)
  | .unableToCreate, failure => .bean (.unableToCreate failure)

def wrap (layers : List Layer) (failure : Failure) : Failure :=
  layers.foldr around failure

theorem around_sources (layer : Layer) (failure : Failure) :
    (layer.around failure).sources = failure :: failure.sources := by
  cases layer <;> simp [around, Failure.sources, BeanFailure.sources]

theorem wrap_sources (layer : Layer) (layers : List Layer) (failure : Failure) :
    (wrap (layer :: layers) failure).sources =
      layers.tails.map (wrap · failure) ++ failure.sources := by
  induction layers generalizing layer with
  | nil => exact around_sources layer failure
  | cons next rest ih =>
    rw [wrap, List.foldr_cons, around_sources]
    change wrap (next :: rest) failure :: (wrap (next :: rest) failure).sources = _
    rw [ih, List.tails_cons]
    rfl

-- No layer hides what is inside from whoever looks for something else than a layer.
theorem wrap_found {α : Type} {wanted : Failure → Option α} {found : α} {failure : Failure}
    (apart : ∀ layer failure, wanted (around layer failure) = none)
    (found_inside : wanted failure = some found) (layers : List Layer) :
    (wrap layers failure :: (wrap layers failure).sources).findSome? wanted = some found := by
  induction layers with
  | nil => simp [wrap, found_inside]
  | cons layer rest ih =>
    have outside := apart layer (wrap rest failure)
    rw [wrap, List.foldr_cons, around_sources]
    change (around layer (wrap rest failure) ::
      wrap rest failure :: (wrap rest failure).sources).findSome? _ = _
    rw [List.findSome?_cons, outside]
    exact ih

end Layer

def Hop.layers : Hop → List Layer
  | .reference name => [.unableToCreate, .creationFailed name]
  | .nested => [.unableToCreate]

namespace Mishap

-- A factory that is refused and a name that nobody has add nothing of their own.
def layers : Mishap → List Layer
  | .refused _ => []
  | .raised _ | .unknown _ => [.unableToCreate]

def failure : Mishap → Failure
  | .raised failure => failure
  | .refused error => .bean error
  | .unknown name => .bean (.notFound name)

end Mishap

def Hop.pathLayers (path : List Hop) (mishap : Mishap) : List Layer :=
  path.flatMap layers ++ mishap.layers

inductive Script.ComesTo (code : Code app) {Result : Type} (left : Script app Result) (there : World app) :
    Script app Result → World app → Prop where
  | here : ComesTo code left there left there
  | ask {operation : Operation app} {next : operation.Answer → Script app Result} {world after : World app}
      {answer : operation.Answer}
      (answered : unbounded code (.request operation) world = some (answer, after))
      (comes : ComesTo code left there (next answer) after) :
      ComesTo code left there (.ask operation next) world

theorem Script.ComesTo.run {Result : Type} {script left : Script app Result} {world there : World app}
    (comes : ComesTo code left there script world) :
    (unbounded code).script script world = (unbounded code).script left there := by
  induction comes with
  | here => rfl
  | ask answered comes ih =>
    rw [← ih]
    change (unbounded code (.request _) >>= fun answer => _) _ = _
    rw [Eval.bind_apply, answered]
    rfl

theorem Script.ComesTo.bind {Result Other : Type} {script left : Script app Result} {world there : World app}
    (comes : ComesTo code left there script world) (next : Result → Script app Other) :
    ComesTo code (left >>= next) there (script >>= next) world := by
  induction comes with
  | here => exact .here
  | ask answered _ ih => exact .ask answered ih

def Creation.AsksFor (code : Code app) (creation : Creation) (name : String) {Result : Type}
    (asking : World app) (script : Script app (Except Failure Result)) (world : World app) : Prop :=
  ∃ next, (∀ failure, next (.error failure) = pure (.error failure)) ∧
    Script.ComesTo code (creation.resolve name >>= next) asking script world

theorem Creation.AsksFor.fails {creation : Creation} {name : String} {Result : Type}
    {asking world after : World app} {script : Script app (Except Failure Result)} {failure : Failure}
    (asks : creation.AsksFor code name asking script world)
    (fails : (unbounded code).script (creation.resolve name) asking = some (.error failure, after)) :
    (unbounded code).script script world = some (.error failure, after) := by
  obtain ⟨next, passes, comes⟩ := asks
  rw [comes.run, Handler.script_bind, fails, Option.bind_some, passes]
  rfl

theorem Creation.AsksFor.bind {creation : Creation} {name : String} {Result Other : Type}
    {asking world : World app} {script : Script app (Except Failure Result)}
    (asks : creation.AsksFor code name asking script world)
    {next : Except Failure Result → Script app (Except Failure Other)}
    (passes : ∀ failure, next (.error failure) = pure (.error failure)) :
    creation.AsksFor code name asking (script >>= next) world := by
  obtain ⟨inner, passed, comes⟩ := asks
  refine ⟨fun outcome => inner outcome >>= next, fun failure => ?_, ?_⟩
  · dsimp only
    rw [passed]
    exact passes failure
  · have reached := comes.bind next
    rwa [Program.bind_eq, Program.bind_eq, Program.bind_assoc] at reached

theorem Creation.gather_asks (creation : Creation) (name : String) (rest : List String) (world : World app) :
    creation.AsksFor code name world (creation.gather (name :: rest)) world :=
  ⟨_, fun _ => rfl, .here⟩

inductive Refers (code : Code app) (factory : FactoryId) (recipe : RecipeFactory app) (name : String)
    (asking entered : World app) : Prop where
  | creating (asks : recipe.creation.AsksFor code name asking (code.create recipe.recipe recipe.creation)
      (entered.note (.creating factory entered.guards)))
  | followingUp {product : Product app} {created : World app}
      (creates : (unbounded code).script (code.create recipe.recipe recipe.creation)
        (entered.note (.creating factory entered.guards)) = some (.ok product, created))
      (asks : recipe.creation.AsksFor code name asking (code.followUp recipe.recipe product recipe.creation)
        (created.note (.followingUp factory created.guards)))

theorem Refers.fails {factory : FactoryId} {recipe : RecipeFactory app} {name : String}
    {asking entered after : World app} {failure : Failure}
    (refers : Refers code factory recipe name asking entered)
    (fails : (unbounded code).script (recipe.creation.resolve name) asking = some (.error failure, after)) :
    makeProduct code (unbounded code) factory recipe entered = some (.error failure, after) := by
  rw [makeProduct, Eval.noteGuards_bind, Eval.bind_apply]
  cases refers with
  | creating asks =>
    rw [asks.fails fails]
    rfl
  | followingUp creates asks =>
    rw [creates, Option.bind_some]
    change (Eval.noteGuards (.followingUp factory) >>= fun _ => _) _ = _
    rw [Eval.noteGuards_bind, Eval.bind_apply, asks.fails fails]
    rfl

inductive FailsAlong (code : Code app) : FactoryId → World app → List Hop → Mishap → Prop where
  | raised {factory : FactoryId} {recipe : RecipeFactory app} {world after : World app} {failure : Failure}
      (begins : Begins factory recipe world)
      (raises : makeProduct code (unbounded code) factory recipe (world.enter factory) =
        some (.error failure, after)) : FailsAlong code factory world [] (.raised failure)
  | refused {factory : FactoryId} {recipe : RecipeFactory app} {world : World app} {error : BeanFailure}
      (known : world.recipeFactory? factory = some recipe) (unready : recipe.ready? = none)
      (refuses : world.guards.refusal? factory recipe.displayName (world.nestingBound recipe) = some error) :
      FailsAlong code factory world [] (.refused error)
  | unknown {factory : FactoryId} {recipe : RecipeFactory app} {world asking : World app} {name : String}
      {registry : RegistryId} (begins : Begins factory recipe world)
      (refers : Refers code factory recipe name asking (world.enter factory))
      (registered : recipe.registry = some registry) (alive : asking.isActive registry = true)
      (missing : (asking.registry registry).factory? name = none) :
      FailsAlong code factory world [] (.unknown name)
  | reference {factory other : FactoryId} {recipe : RecipeFactory app} {world asking : World app}
      {name : String} {registry : RegistryId} {path : List Hop} {mishap : Mishap}
      (begins : Begins factory recipe world)
      (refers : Refers code factory recipe name asking (world.enter factory))
      (registered : recipe.registry = some registry) (alive : asking.isActive registry = true)
      (found : (asking.registry registry).factory? name = some other)
      (fails : FailsAlong code other (asking.grant registry).2 path mishap) :
      FailsAlong code factory world (.reference name :: path) mishap
  | nested {factory inner : FactoryId} {recipe : RecipeFactory app} {world made told : World app}
      {path : List Hop} {mishap : Mishap} (begins : Begins factory recipe world)
      (makes : makeProduct code (unbounded code) factory recipe (world.enter factory) =
        some (.ok (.factory inner), made))
      (lends : lendIdentity code (unbounded code) factory inner made = some ((), told))
      (fails : FailsAlong code inner (told.unwrapping factory inner world.guards.depth) path mishap) :
      FailsAlong code factory world (.nested :: path) mishap

section Asking

variable {creation : Creation} {registry : RegistryId} {name : String} {asking : World app}

theorem registry_granted (alive : asking.isActive registry = true) :
    (asking.grant registry).2.registry registry = asking.registry registry :=
  (PlainMove.grant asking registry).persists.registry alive

-- A name is looked up in the registry of a creation while the creation holds a share of its own.
theorem script_asks (registered : creation.registry = some registry) (alive : asking.isActive registry = true)
    {outcome : Except BeanFailure (Object app.Content)} {after : World app}
    (resolves : unbounded code (.request (.resolve registry name)) (asking.grant registry).2 =
      some (outcome, after)) :
    (unbounded code).script (creation.resolve name) asking =
      some (outcome.mapError .bean, after.release ⟨registry, asking.fresh⟩) := by
  rw [script_resolve registered, if_pos alive, resolves]
  rfl

theorem resolve_unknown {world : World app} (missing : (world.registry registry).factory? name = none) :
    unbounded code (.request (.resolve registry name)) world = some (.error (.notFound name), world) := by
  rw [unbounded_resolve, resolve, Eval.get_bind, missing]
  rfl

theorem resolve_failed {world after : World app} {factory : FactoryId} {error : BeanFailure}
    (found : (world.registry registry).factory? name = some factory)
    (fails : unbounded code (.request (.produce factory)) world = some (.error error, after)) :
    unbounded code (.request (.resolve registry name)) world =
      some (.error (.creationFailed name (.bean error)), after) := by
  rw [unbounded_produce] at fails
  rw [unbounded_resolve, resolve_known found, fails]
  rfl

theorem resolve_ok {world after : World app} {factory : FactoryId} {bean : Object app.Content}
    (found : (world.registry registry).factory? name = some factory)
    (resolves : unbounded code (.request (.resolve registry name)) world = some (.ok bean, after)) :
    unbounded code (.request (.produce factory)) world = some (.ok bean, after) := by
  rw [unbounded_resolve, resolve_known found] at resolves
  obtain ⟨⟨outcome, left⟩, produced, resolves⟩ := Option.bind_eq_some_iff.mp resolves
  cases outcome with
  | error error => cases resolves
  | ok bean =>
    cases resolves
    rwa [unbounded_produce]

theorem resolve_error {world after : World app} {factory : FactoryId} {error : BeanFailure}
    (found : (world.registry registry).factory? name = some factory)
    (fails : unbounded code (.request (.resolve registry name)) world = some (.error error, after)) :
    ∃ source, error = .creationFailed name (.bean source) ∧
      unbounded code (.request (.produce factory)) world = some (.error source, after) := by
  rw [unbounded_resolve, resolve_known found] at fails
  obtain ⟨⟨outcome, left⟩, produced, fails⟩ := Option.bind_eq_some_iff.mp fails
  rw [← unbounded_produce] at produced
  cases outcome with
  | ok bean => cases fails
  | error source =>
    cases fails
    exact ⟨source, rfl, produced⟩

end Asking

section Producing

variable {factory : FactoryId} {recipe : RecipeFactory app} {world : World app}

theorem Begins.produce_eq (begins : Begins factory recipe world) :
    unbounded code (.request (.produce factory)) world =
      ((makeProduct code (unbounded code) factory recipe >>=
        deliver code (unbounded code) factory world.guards.depth) (world.enter factory)).bind fun answer =>
          match answer with
          | (.error failure, after) => some (.error (.unableToCreate failure), after.leave factory false)
          | (.ok bean, after) =>
            (keepBean factory bean after).bind fun kept => some (.ok bean, kept.2.leave factory true) := by
  rw [unbounded_produce, produce_known begins.known, ← createBean_eq]
  exact produceByRecipe_entered begins.unready begins.admitted

theorem Begins.raises (begins : Begins factory recipe world) {failure : Failure} {after : World app}
    (raises : makeProduct code (unbounded code) factory recipe (world.enter factory) =
      some (.error failure, after)) :
    unbounded code (.request (.produce factory)) world =
      some (.error (.unableToCreate failure), after.leave factory false) := by
  rw [begins.produce_eq, Eval.bind_apply, raises]
  rfl

theorem Begins.unwraps (begins : Begins factory recipe world) {inner : FactoryId}
    {made told after : World app} {error : BeanFailure}
    (makes : makeProduct code (unbounded code) factory recipe (world.enter factory) =
      some (.ok (.factory inner), made))
    (lends : lendIdentity code (unbounded code) factory inner made = some ((), told))
    (fails : unbounded code (.request (.produce inner)) (told.unwrapping factory inner world.guards.depth) =
      some (.error error, after)) :
    ∃ left, unbounded code (.request (.produce factory)) world =
      some (.error (.unableToCreate (.bean error)), left) := by
  have unwrapped := unwrap_eq lends world.guards.depth
  rw [fails] at unwrapped
  rw [begins.produce_eq, Eval.bind_apply, makes, Option.bind_some, deliver, Eval.bind_apply, unwrapped]
  exact ⟨_, rfl⟩

theorem unwrap_error {nested : FactoryId} {depth : Nat} {error : BeanFailure} {after : World app}
    (fails : unwrap code (unbounded code) factory nested depth world = some (.error error, after)) :
    ∃ told left, lendIdentity code (unbounded code) factory nested world = some ((), told) ∧
      unbounded code (.request (.produce nested)) (told.unwrapping factory nested depth) =
        some (.error error, left) := by
  obtain ⟨_, told, lends, _⟩ := Eval.bind_eq_some_iff.mp fails
  rw [unwrap_eq lends] at fails
  obtain ⟨⟨_, left⟩, produced, same⟩ := Option.bind_eq_some_iff.mp fails
  cases same
  exact ⟨told, left, lends, produced⟩

inductive Stumbles (code : Code app) (factory : FactoryId) (recipe : RecipeFactory app) (world : World app) :
    Failure → Prop where
  | raised {failure : Failure} {after : World app}
      (raises : makeProduct code (unbounded code) factory recipe (world.enter factory) =
        some (.error failure, after)) : Stumbles code factory recipe world failure
  | nested {inner : FactoryId} {made told after : World app} {error : BeanFailure}
      (makes : makeProduct code (unbounded code) factory recipe (world.enter factory) =
        some (.ok (.factory inner), made))
      (lends : lendIdentity code (unbounded code) factory inner made = some ((), told))
      (fails : unbounded code (.request (.produce inner)) (told.unwrapping factory inner world.guards.depth) =
        some (.error error, after)) : Stumbles code factory recipe world (.bean error)

theorem Begins.stumbles (begins : Begins factory recipe world) {error : BeanFailure} {after : World app}
    (fails : unbounded code (.request (.produce factory)) world = some (.error error, after)) :
    ∃ failure, error = .unableToCreate failure ∧ Stumbles code factory recipe world failure := by
  rw [begins.produce_eq] at fails
  obtain ⟨⟨outcome, left⟩, created, fails⟩ := Option.bind_eq_some_iff.mp fails
  cases outcome with
  | ok bean =>
    obtain ⟨_, _, fails⟩ := Option.bind_eq_some_iff.mp fails
    cases fails
  | error failure =>
    cases fails
    refine ⟨failure, rfl, ?_⟩
    obtain ⟨product, made, makes, delivers⟩ := Eval.bind_eq_some_iff.mp created
    match product, makes, delivers with
    | .error _, makes, delivers =>
      cases delivers
      exact .raised makes
    | .ok (.bean _), _, delivers => cases delivers
    | .ok (.factory inner), makes, delivers =>
      obtain ⟨answer, middle, unwrapped, delivers⟩ := Eval.bind_eq_some_iff.mp delivers
      cases answer with
      | ok bean => cases delivers
      | error source =>
        cases delivers
        obtain ⟨told, _, lends, produced⟩ := unwrap_error unwrapped
        exact .nested makes lends produced

theorem produce_error {error : BeanFailure} {after : World app}
    (known : world.recipeFactory? factory = some recipe)
    (fails : unbounded code (.request (.produce factory)) world = some (.error error, after)) :
    world.guards.refusal? factory recipe.displayName (world.nestingBound recipe) = some error ∨
      ∃ failure, error = .unableToCreate failure ∧ Stumbles code factory recipe world failure := by
  cases ready : recipe.ready? with
  | some bean =>
    rw [unbounded_produce, produce_known known] at fails
    simp only [produceByRecipe, ready] at fails
    cases fails
  | none =>
    cases refuses : world.guards.refusal? factory recipe.displayName (world.nestingBound recipe) with
    | some refusal =>
      rw [unbounded_produce, produce_known known, produceByRecipe_refused ready refuses] at fails
      cases fails
      exact .inl rfl
    | none =>
      have begins : Begins factory recipe world := ⟨known, ready, refuses⟩
      exact .inr (begins.stumbles fails)

theorem produce_circular_iff {own : String} {after : World app}
    (known : world.recipeFactory? factory = some recipe) :
    unbounded code (.request (.produce factory)) world = some (.error (.circularFactory own), after) ↔
      factory ∈ world.guards.producing ∧ recipe.ready? = none ∧ own = recipe.displayName ∧
        after = world.refuse factory := by
  constructor
  · intro fails
    rcases produce_error known fails with refuses | ⟨failure, raised, _⟩
    · have running := (Guards.refusal?_circular_iff _ _ _ _).mp ⟨own, refuses⟩
      rw [unbounded_produce, produce_known known] at fails
      cases ready : recipe.ready? with
      | some bean =>
        simp only [produceByRecipe, ready] at fails
        cases fails
      | none =>
        rw [produceByRecipe_refused ready refuses] at fails
        cases fails
        rcases Guards.refusal?_cases refuses with same | same <;> cases same
        exact ⟨running, rfl, rfl, rfl⟩
    · cases raised
  · rintro ⟨running, unready, rfl, rfl⟩
    have refuses : world.guards.refusal? factory recipe.displayName (world.nestingBound recipe) =
        some (.circularFactory recipe.displayName) := if_pos running
    rw [unbounded_produce, produce_known known, produceByRecipe_refused unready refuses]

end Producing

theorem FailsAlong.error {factory : FactoryId} {world : World app} {path : List Hop} {mishap : Mishap}
    (fails : FailsAlong code factory world path mishap) :
    ∃ error after, unbounded code (.request (.produce factory)) world = some (.error error, after) ∧
      Failure.bean error = Layer.wrap (Hop.pathLayers path mishap) mishap.failure := by
  induction fails with
  | raised begins raises => exact ⟨_, _, begins.raises raises, rfl⟩
  | @refused factory _ world error known unready refuses =>
    refine ⟨error, world.refuse factory, ?_, rfl⟩
    rw [unbounded_produce, produce_known known, produceByRecipe_refused unready refuses]
  | @unknown factory recipe _ _ name _ begins refers registered alive missing =>
    have home : recipe.creation.registry = some _ := registered
    rw [← registry_granted alive] at missing
    exact ⟨_, _, begins.raises (refers.fails (script_asks home alive (resolve_unknown missing))), rfl⟩
  | @reference _ _ recipe _ _ name _ _ _ begins refers registered alive found _ ih =>
    obtain ⟨error, after, produced, wrapped⟩ := ih
    have home : recipe.creation.registry = some _ := registered
    rw [← registry_granted alive] at found
    have asked := script_asks home alive (resolve_failed found produced)
    refine ⟨_, _, begins.raises (refers.fails asked), ?_⟩
    rw [wrapped]
    rfl
  | nested begins makes lends _ ih =>
    obtain ⟨error, after, produced, wrapped⟩ := ih
    obtain ⟨left, unwrapped⟩ := begins.unwraps makes lends produced
    refine ⟨_, left, unwrapped, ?_⟩
    rw [wrapped]
    rfl

theorem resolve_keeps_causes (registry : RegistryId) (name : String) (world : World app) :
    ((world.registry registry).factory? name = none →
      unbounded code (.request (.resolve registry name)) world = some (.error (.notFound name), world)) ∧
    ∀ factory, (world.registry registry).factory? name = some factory →
      (∀ path mishap, FailsAlong code factory world path mishap → ∃ error after,
        unbounded code (.request (.resolve registry name)) world = some (.error error, after) ∧
        .bean error = Layer.wrap (.creationFailed name :: Hop.pathLayers path mishap) mishap.failure ∧
        error.sources =
          (Hop.pathLayers path mishap).tails.map (Layer.wrap · mishap.failure) ++ mishap.failure.sources ∧
        error.beanName? = some name ∧
        ∀ {α : Type} (wanted : Failure → Option α) found,
          (∀ layer failure, wanted (Layer.around layer failure) = none) →
          wanted mishap.failure = some found → error.rootCause? wanted = some found) ∧
      ∀ error after, unbounded code (.request (.resolve registry name)) world = some (.error error, after) →
        ∃ source, error = .creationFailed name (.bean source) ∧
          unbounded code (.request (.produce factory)) world = some (.error source, after) ∧
          ∀ recipe, world.recipeFactory? factory = some recipe →
            source = .circularFactory recipe.displayName ∨
            source = .nestingTooDeep recipe.displayName (world.nestingBound recipe) ∨
            ∃ failure, source = .unableToCreate failure ∧ Stumbles code factory recipe world failure := by
  refine ⟨resolve_unknown, fun factory found => ⟨fun path mishap fails => ?_, fun error after fails => ?_⟩⟩
  · obtain ⟨error, after, produced, wrapped⟩ := fails.error
    have outer : Failure.bean (.creationFailed name (.bean error)) =
        Layer.wrap (.creationFailed name :: Hop.pathLayers path mishap) mishap.failure :=
      congrArg (Layer.around (.creationFailed name)) wrapped
    refine ⟨_, after, resolve_failed found produced, outer, ?_, rfl, fun wanted cause apart caused => ?_⟩
    · rw [← Layer.wrap_sources, ← outer]
      rfl
    · have looked := Layer.wrap_found apart caused (.creationFailed name :: Hop.pathLayers path mishap)
      rwa [← outer] at looked
  · obtain ⟨source, rfl, produced⟩ := resolve_error found fails
    refine ⟨source, rfl, produced, fun recipe known => ?_⟩
    rcases produce_error known produced with refuses | stumbles
    · exact (Guards.refusal?_cases refuses).imp_right .inl
    · exact .inr (.inr stumbles)

-- A lamp needs a bulb; that is another name of the light, and the light is a filament that is burnt.
def Sample.dark : World Sample.kits :=
  { World.initial () with
    factories := #[.recipe (enlisted "lamp" ⟨["bulb"], .ok none⟩),
      .recipe (enlisted "light" ⟨[], .ok (some ⟨2⟩)⟩), .recipe (.ofRecipe .singleton ⟨[], .error refusal⟩)]
    registries := #[⟨⟨["lamp", "light"], [⟨"bulb", "light"⟩],
      [("lamp", ⟨0⟩), ("light", ⟨1⟩), ("bulb", ⟨1⟩)], 2⟩, [0]⟩]
    fresh := 1 }

theorem Sample.dark_along :
    FailsAlong Sample.furnish ⟨0⟩ Sample.dark [.reference "bulb", .nested] (.raised Sample.refusal) := by
  let asking := (Sample.dark.enter ⟨0⟩).note (.creating ⟨0⟩ (Sample.dark.enter ⟨0⟩).guards)
  have lamp : Begins ⟨0⟩ (Sample.enlisted "lamp" ⟨["bulb"], .ok none⟩) Sample.dark := ⟨rfl, rfl, rfl⟩
  have asks : Refers Sample.furnish ⟨0⟩ (Sample.enlisted "lamp" ⟨["bulb"], .ok none⟩) "bulb" asking
      (Sample.dark.enter ⟨0⟩) := .creating ((Creation.gather_asks _ "bulb" [] asking).bind fun _ => rfl)
  have light : Begins ⟨1⟩ (Sample.enlisted "light" ⟨[], .ok (some ⟨2⟩)⟩) (asking.grant ⟨0⟩).2 :=
    ⟨rfl, rfl, rfl⟩
  exact .reference lamp asks rfl rfl rfl (.nested light rfl rfl (.raised ⟨rfl, rfl, rfl⟩ rfl))

theorem Sample.dark_keeps_causes :
    FailsAlong Sample.furnish ⟨0⟩ Sample.dark [.reference "bulb", .nested] (.raised Sample.refusal) ∧
    ∃ error after, unbounded Sample.furnish (.request (.resolve ⟨0⟩ "lamp")) Sample.dark =
      some (.error error, after) ∧ error.sources.length = 5 ∧
        error.rootCause? Failure.application? = some "refused" := by
  obtain ⟨error, after, resolved, _, sources, _, rooted⟩ :=
    ((resolve_keeps_causes ⟨0⟩ "lamp" Sample.dark).2 ⟨0⟩ rfl).1 _ _ Sample.dark_along
  refine ⟨Sample.dark_along, error, after, resolved, ?_, rooted _ _ (fun layer _ => ?_) rfl⟩
  · rw [sources]
    rfl
  · cases layer <;> rfl

end BeanRegistry
