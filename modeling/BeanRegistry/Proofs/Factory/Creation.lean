import BeanRegistry.Proofs.Factory.Pipeline
import BeanRegistry.Proofs.Sample

set_option autoImplicit false

namespace BeanRegistry

variable {app : Application} {code : Code app} {handle : Handler app}

theorem Undisturbed.refl (world : World app) : Undisturbed world world :=
  (PlainMove.stay world).quiet.undisturbed

theorem passing_withGuards (world : World app) {guards : Guards}
    (producing : guards.producing = world.guards.producing) :
    Passing [] world (world.withGuards guards) := by
  have same : SameFactories world (world.withGuards guards) := .of_eq rfl
  refine ⟨rfl, producing, same.scopes, fun {other _} found => (same.ready other).trans found,
    fun {other} _ free => (same.ready other).trans free, fun _ => nofun, ?_, id⟩
  intro other scope _ _
  rw [World.rest, World.rest, same.ready]
  rfl

section Productions

variable (handled : handle.Keeps Undisturbed)

include handled

theorem script_undisturbed {Result : Type} {script : Script app Result} {world after : World app}
    {result : Result} (ran : handle.script script world = some (result, after)) :
    Undisturbed world after :=
  Discipline.script_holds (fun move => move.plain.quiet.undisturbed)
    (handled.handles Undisturbed.trans).answers
    script world result after ran

theorem lendIdentity_undisturbed {factory nested : FactoryId} {world after : World app}
    (lent : lendIdentity code handle factory nested world = some ((), after)) :
    Undisturbed world after :=
  Discipline.lendIdentity_holds code (fun move => move.plain.quiet.undisturbed)
    (handled.handles Undisturbed.trans).answers factory nested world () after lent

variable {factory : FactoryId} {scope : Scope} {steps : List (Step app)} {before now after : World app}

theorem unwrap_underway {nested : FactoryId} {depth : Nat}
    {outcome : Except BeanFailure (Object app.Content)}
    (underway : Underway factory scope .followingUp steps before now)
    (unwrapped : unwrap code handle factory nested depth now = some (outcome, after)) :
    ∃ steps, Underway factory scope .unwrapping steps before after := by
  simp only [unwrap, Eval.bind_eq_some_iff] at unwrapped
  obtain ⟨_, introduced, lent, _, noted, stepped, _, meant, deepened, _, answered, produced, _, claimed,
    left, unwrapped⟩ := unwrapped
  have deeper : Passing [] noted meant := by
    cases deepened
    exact passing_withGuards noted rfl
  have cleared : Passing [] answered claimed ∧ claimed.guards.pendingDepth = none := by
    cases left
    exact ⟨passing_withGuards answered rfl, rfl⟩
  cases stepped
  cases unwrapped
  obtain ⟨_, underway⟩ := underway.undisturbed rfl (lendIdentity_undisturbed handled lent)
  have underway := underway.note (.unwrapping factory nested introduced.guards) rfl rfl rfl (by simp)
    (by simp)
  -- The depth that is pending meanwhile is claimed before the nested bean comes back.
  obtain ⟨⟨_, nested⟩, _⟩ := handled _ _ _ _ produced
  exact underway.call rfl ((deeper.trans nested).trans cleared.1) cleared.2

theorem createBean_underway {recipe : RecipeFactory app} {depth : Nat}
    {outcome : Except Failure (Object app.Content)}
    (underway : Underway factory scope .entered steps before now)
    (created : createBean code handle factory recipe depth now = some (outcome, after)) :
    ∃ phase steps, Underway factory scope phase steps before after ∧
      phase.next scope .failed = some .resting ∧
      (outcome.isOk → phase = .followingUp ∨ phase = .unwrapping) := by
  unfold createBean at created
  obtain ⟨_, starting, started, created⟩ := Eval.bind_eq_some_iff.mp created
  obtain ⟨made, middle, ran, created⟩ := Eval.bind_eq_some_iff.mp created
  cases started
  have creating := underway.note (.creating factory now.guards) rfl rfl rfl nofun nofun
  obtain ⟨_, underway⟩ := creating.undisturbed rfl
    (script_undisturbed handled ran)
  cases made with
  | error failure =>
    cases created
    exact ⟨.creating, _, underway, rfl, nofun⟩
  | ok product =>
    obtain ⟨_, following, followed, created⟩ := Eval.bind_eq_some_iff.mp created
    obtain ⟨verdict, late, ran, created⟩ := Eval.bind_eq_some_iff.mp created
    cases followed
    obtain ⟨_, underway⟩ := (underway.note (.followingUp factory middle.guards) rfl rfl rfl nofun
      nofun).undisturbed rfl (script_undisturbed handled ran)
    cases verdict with
    | error failure =>
      cases created
      exact ⟨.followingUp, _, underway, rfl, nofun⟩
    | ok _ =>
      cases product with
      | bean bean =>
        cases created
        exact ⟨.followingUp, _, underway, rfl, fun _ => .inl rfl⟩
      | factory nested =>
        obtain ⟨answer, last, unwrapped, created⟩ := Eval.bind_eq_some_iff.mp created
        obtain ⟨_, underway⟩ := unwrap_underway handled underway unwrapped
        cases answer <;> cases created <;> exact ⟨.unwrapping, _, underway, rfl, fun _ => .inr rfl⟩

omit handled in
theorem keepBean_underway {phase : Phase} {bean : Object app.Content}
    (underway : Underway factory scope phase steps before now)
    (finishing : phase = .followingUp ∨ phase = .unwrapping)
    (kept : keepBean factory bean now = some ((), after)) :
    ∃ phase steps, Underway factory scope phase steps before after ∧
      phase.next scope .succeeded = some (after.rest factory) ∧
      (scope = .singleton → after.ready? factory = some bean) := by
  obtain ⟨recipe, known, same⟩ := World.scope?_eq_some_iff.mp underway.own
  simp only [keepBean, Eval.get_bind, known, same] at kept
  cases scope with
  | prototype =>
    cases kept
    refine ⟨phase, steps, underway, ?_, by simp⟩
    rw [World.rest_eq_resting (World.ready?_of_prototype underway.own)]
    rcases finishing with rfl | rfl <;> rfl
  | singleton =>
    cases kept
    have ready := World.ready?_keep known same bean
    have moved : phase.next .singleton .kept = some .kept := by rcases finishing with rfl | rfl <;> rfl
    exact ⟨.kept, _, underway.keep moved, congrArg some (World.rest_eq_settled ready).symm, fun _ => ready⟩

inductive Produced (factory : FactoryId) (recipe : RecipeFactory app) (world : World app) :
    Except BeanFailure (Object app.Content) → World app → Prop where
  | ready {bean : Object app.Content} (ready : recipe.ready? = some bean) :
      Produced factory recipe world (.ok bean) world
  | refused {error : BeanFailure} (unready : recipe.ready? = none)
      (refusal : world.guards.refusal? factory recipe.displayName (world.nestingBound recipe) =
        some error) :
      Produced factory recipe world (.error error) (world.refuse factory)
  | failed {failure : Failure} {steps : List (Step app)} {after : World app}
      (unready : recipe.ready? = none)
      (admitted : world.guards.refusal? factory recipe.displayName (world.nestingBound recipe) = none)
      (passing : Passing steps world after) (once : (life factory steps).count .creating = 1)
      (empty : after.ready? factory = none) (claimed : after.guards.pendingDepth = none) :
      Produced factory recipe world (.error (.unableToCreate failure)) after
  | created {bean : Object app.Content} {steps : List (Step app)} {after : World app}
      (unready : recipe.ready? = none)
      (admitted : world.guards.refusal? factory recipe.displayName (world.nestingBound recipe) = none)
      (passing : Passing steps world after) (once : (life factory steps).count .creating = 1)
      (kept : recipe.scope = .singleton → after.ready? factory = some bean)
      (claimed : after.guards.pendingDepth = none) :
      Produced factory recipe world (.ok bean) after

theorem produceByRecipe_produced {recipe : RecipeFactory app} {world : World app}
    {outcome : Except BeanFailure (Object app.Content)}
    (known : world.recipeFactory? factory = some recipe)
    (produced : produceByRecipe code handle factory recipe world = some (outcome, after)) :
    Produced factory recipe world outcome after := by
  cases ready : recipe.ready? with
  | some bean =>
    simp only [produceByRecipe, ready] at produced
    cases produced
    exact .ready ready
  | none =>
    cases refusal : world.guards.refusal? factory recipe.displayName (world.nestingBound recipe) with
    | some error =>
      rw [produceByRecipe_refused ready refusal] at produced
      cases produced
      exact .refused ready refusal
    | none =>
      rw [produceByRecipe_entered ready refusal, Option.bind_eq_some_iff] at produced
      obtain ⟨⟨made, now⟩, creating, produced⟩ := produced
      have unready : world.ready? factory = none := by simp [World.ready?, known, ready]
      have underway := Underway.start (Guards.refusal?_eq_none_iff.mp refusal).1
        (World.scope?_eq_some_iff.mpr ⟨recipe, known, rfl⟩) unready
      obtain ⟨phase, steps, underway, failing, finishing⟩ := createBean_underway handled underway creating
      cases made with
      | error failure =>
        cases produced
        have unkept : phase ≠ .kept := by
          rintro rfl
          cases failing
        have empty := underway.empty unkept
        have passing := underway.leave false (World.rest_eq_resting empty ▸ failing)
        exact .failed ready refusal passing (underway.leave_once false failing) empty
          underway.claimed
      | ok bean =>
        obtain ⟨⟨_, kept⟩, keeping, produced⟩ := Option.bind_eq_some_iff.mp produced
        obtain ⟨phase, steps, underway, succeeding, held⟩ :=
          keepBean_underway underway (finishing rfl) keeping
        cases produced
        exact .created ready refusal (underway.leave true succeeding)
          (underway.leave_once true succeeding) held underway.claimed

omit handled in
theorem Produced.undisturbed {recipe : RecipeFactory app} {world : World app}
    {outcome : Except BeanFailure (Object app.Content)}
    (known : world.recipeFactory? factory = some recipe)
    (produced : Produced factory recipe world outcome after) : Undisturbed world after := by
  cases produced with
  | ready _ => exact .refl _
  | refused unready _ =>
    have free : world.ready? factory = none := by simp [World.ready?, known, unready]
    exact ⟨⟨_, refuse_passing free⟩, .inr rfl⟩
  | failed _ _ passing _ _ claimed => exact ⟨⟨_, passing⟩, .inr claimed⟩
  | created _ _ passing _ _ claimed => exact ⟨⟨_, passing⟩, .inr claimed⟩

end Productions

theorem undisturbed_keeps (code : Code app) : code.Keeps Undisturbed := by
  refine .of_produced code Undisturbed.trans (fun move => move.quiet.undisturbed)
    (fun move => move.quiet.undisturbed) ?_
  intro handle handled _ factory recipe world after outcome known produced
  have found := World.recipeFactory?_eq_some_iff.mpr known
  exact (produceByRecipe_produced handled found produced).undisturbed found

theorem resolve_known {factory : FactoryId} {registry : RegistryId} {name : String} {world : World app}
    (named : (world.registry registry).factory? name = some factory) :
    resolve code handle registry name world =
      (produce code handle factory world).bind fun answer =>
        match answer with
        | (.error error, after) => some (.error (.creationFailed name (.bean error)), after)
        | (.ok bean, after) => some (.ok bean, after) := by
  simp only [resolve, Eval.get_bind, named]
  rw [Eval.bind_apply]
  cases produce code handle factory world with
  | none => rfl
  | some answer =>
    obtain ⟨outcome, after⟩ := answer
    cases outcome <;> rfl

theorem perform_undisturbed {budget : Nat} {call : Call app} {world after : World app}
    {answer : call.Answer} (answered : perform code budget call world = some (answer, after)) :
    Undisturbed world after :=
  (undisturbed_keeps code).perform_keeps budget call world after answer answered

theorem unbounded_undisturbed {call : Call app} {world after : World app} {answer : call.Answer}
    (answered : unbounded code call world = some (answer, after)) : Undisturbed world after :=
  (undisturbed_keeps code).unbounded_keeps call world after answer answered

theorem perform_produced {budget : Nat} {factory : FactoryId} {recipe : RecipeFactory app}
    {world after : World app} {outcome : Except BeanFailure (Object app.Content)}
    (known : world.recipeFactory? factory = some recipe)
    (answered : perform code budget (.request (.produce factory)) world = some (outcome, after)) :
    Produced factory recipe world outcome after := by
  cases budget with
  | zero => cases answered
  | succ budget =>
    have keeps := (undisturbed_keeps code).perform_keeps budget
    simp only [perform, carryOut, produce_known known] at answered
    exact produceByRecipe_produced keeps known answered

theorem produce_ready {world : World app} {factory : FactoryId} {bean : Object app.Content}
    (ready : world.ready? factory = some bean) :
    produce code handle factory world = some (.ok bean, world) := by
  obtain ⟨recipe, known, cached⟩ := Option.bind_eq_some_iff.mp ready
  simp only [produce_known known, produceByRecipe, cached]
  rfl

def tally (factory : FactoryId) (stage : Stage) (journal : List (Step app)) : Nat :=
  (life factory journal).count stage

structure Recorded (code : Code app) (memory : app.Memory) (factory : FactoryId) (scope : Scope)
    (world : World app) : Prop where
  -- Every entry begins an attempt that runs the factory's scripts and ends before the run does.
  tried : ∀ {later earlier guards}, world.journal = later ++ .entered factory guards :: earlier →
    Attempted code factory earlier (World.initial memory) world
  alone : ∀ {later earlier guards}, world.journal = later ++ .entered factory guards :: earlier →
    tally factory .entered earlier = tally factory .failed earlier + tally factory .succeeded earlier
  moments : ∀ {later earlier}, world.journal = later ++ earlier →
    tally factory .creating earlier ≤ tally factory .entered earlier ∧
      tally factory .entered earlier ≤
        tally factory .failed earlier + tally factory .succeeded earlier + 1
  creations : tally factory .creating world.journal = tally factory .entered world.journal ∧
    tally factory .creating world.journal =
      tally factory .failed world.journal + tally factory .succeeded world.journal
  once : scope = .singleton →
    tally factory .succeeded world.journal = if (world.ready? factory).isSome then 1 else 0
  silent : scope = .singleton → ∀ {later earlier guards},
    world.journal = later ++ .left factory true guards :: earlier → life factory later = []
  fresh : scope = .prototype → world.ready? factory = none ∧ tally factory .kept world.journal = 0

structure Code.Produces (code : Code app) (factory : FactoryId) : Prop where
  lasts : ∀ {call world after bean} {answer : Call.Answer call},
    world.ready? factory = some bean → unbounded code call world = some (answer, after) →
      after.ready? factory = some bean ∧
        ∀ recipe, after.recipeFactory? factory = some recipe → recipe.isCreated = true
  identical : ∀ {world bean}, world.ready? factory = some bean →
    unbounded code (.request (.produce factory)) world = some (.ok bean, world)
  named : ∀ {world bean registry name}, world.ready? factory = some bean →
    (world.registry registry).factory? name = some factory →
      unbounded code (.request (.resolve registry name)) world = some (.ok bean, world)
  refused : ∀ {recipe world error}, world.recipeFactory? factory = some recipe → recipe.ready? = none →
    world.guards.refusal? factory recipe.displayName (world.nestingBound recipe) = some error →
      unbounded code (.request (.produce factory)) world = some (.error error, world.refuse factory)
  tried : ∀ {recipe world outcome after}, Begins factory recipe world →
    (unbounded code (.request (.produce factory)) world = some (outcome, after) ↔
      Tries code factory world outcome after)
  created : ∀ {world outcome after}, Tries code factory world outcome after →
    ∃ steps, after.journal = steps ++ world.journal ∧ tally factory .creating steps = 1
  kept : ∀ {world after bean}, world.scope? factory = some .singleton →
    unbounded code (.request (.produce factory)) world = some (.ok bean, after) →
      after.ready? factory = some bean
  empty : ∀ {scope world after error}, world.scope? factory = some scope →
    unbounded code (.request (.produce factory)) world = some (.error error, after) →
      after.ready? factory = none
  -- The guards let the factory in again after an attempt that failed.
  retried : ∀ {world middle after error outcome}, world.Bounded →
    Tries code factory world (.error error) middle →
    (unbounded code (.request (.produce factory)) middle = some (outcome, after) ↔
      Tries code factory middle outcome after)
  bounded : ∀ {call world after} {answer : Call.Answer call}, world.Bounded →
    unbounded code call world = some (answer, after) → after.Bounded

theorem recorded_of_passing {memory : app.Memory} {world : World app} {steps : List (Step app)}
    {factory : FactoryId} {scope : Scope} (known : world.scope? factory = some scope)
    (passing : Passing steps (World.initial memory) world)
    (accounts : Accounts code (World.initial memory) world) :
    Recorded code memory factory scope world := by
  have journal : world.journal = steps := by simpa [World.initial] using passing.journal
  have admitted : world.Admits factory scope := by
    intro found kept
    rw [known] at kept
    exact (Option.some.inj kept).symm
  have passed : Phase.through scope .resting (life factory world.journal) = some (world.rest factory) := by
    have initially : (World.initial memory).rest factory = .resting := by
      simp [World.rest, World.ready?, World.recipeFactory?, World.factory?, World.initial]
    rw [journal, ← initially]
    exact passing.attempts List.not_mem_nil admitted
  have ledger := Phase.through_ledger passed
  have ended : (world.rest factory).running = 0 ∧ (world.rest factory).unstarted = 0 := by
    unfold World.rest
    split <;> exact ⟨rfl, rfl⟩
  constructor
  · intro later earlier guards split
    exact accounts.attempts ⟨later, split.symm⟩ List.nil_suffix
  · intro later earlier guards split
    rw [split, life_around rfl rfl] at passed
    obtain ⟨middle, _, before, moved, _⟩ := Phase.through_around passed
    obtain rfl := Phase.next_entered moved
    exact (Phase.through_ledger before).entries
  · intro later earlier split
    rw [split, life_append, Phase.through_append, Option.bind_eq_some_iff] at passed
    obtain ⟨phase, before, _⟩ := passed
    obtain ⟨entries, creations, _, _⟩ := Phase.through_ledger before
    have running : phase.running ≤ 1 := by cases phase <;> decide
    unfold tally
    omega
  · have entries := ledger.entries
    have creations := ledger.creations
    unfold tally
    constructor <;> omega
  · intro singleton
    rw [tally, ledger.singleton singleton, World.rest]
    split <;> rfl
  · intro singleton later earlier guards split
    obtain rfl := singleton
    rw [split, life_around rfl rfl] at passed
    obtain ⟨_, _, _, moved, rest⟩ := Phase.through_around passed
    obtain rfl := Phase.next_succeeded moved
    exact Phase.through_settled rest
  · intro prototype
    obtain rfl := prototype
    exact ⟨World.ready?_of_prototype known, (ledger.prototype rfl).1⟩

section Outcomes

variable {factory : FactoryId} {recipe : RecipeFactory app} {world after : World app}
  {outcome : Except BeanFailure (Object app.Content)}

theorem unbounded_produced (known : world.recipeFactory? factory = some recipe)
    (answered : unbounded code (.request (.produce factory)) world = some (outcome, after)) :
    Produced factory recipe world outcome after := by
  rw [unbounded_produce, produce_known known] at answered
  exact produceByRecipe_produced (undisturbed_keeps code).unbounded_keeps known answered

theorem Tries.begins (tries : Tries code factory world outcome after) :
    ∃ recipe, Begins factory recipe world := by
  cases tries with
  | fails begins _ => exact ⟨_, begins⟩
  | succeeds begins _ => exact ⟨_, begins⟩

theorem Tries.produces (tries : Tries code factory world outcome after) :
    unbounded code (.request (.produce factory)) world = some (outcome, after) := by
  obtain ⟨_, begins⟩ := tries.begins
  exact begins.produces_iff.mpr tries

theorem Tries.creates (tries : Tries code factory world outcome after) :
    ∃ steps, after.journal = steps ++ world.journal ∧ tally factory .creating steps = 1 := by
  obtain ⟨recipe, begins⟩ := tries.begins
  cases unbounded_produced begins.known tries.produces with
  | ready ready => simp [begins.unready] at ready
  | refused _ refusal => simp [begins.admitted] at refusal
  | failed _ _ passing once _ _ => exact ⟨_, passing.journal, once⟩
  | created _ _ passing once _ _ => exact ⟨_, passing.journal, once⟩

theorem Tries.retries {error : BeanFailure} (bounded : world.Bounded)
    (tries : Tries code factory world (.error error) after) : ∃ recipe, Begins factory recipe after := by
  obtain ⟨recipe, begins⟩ := tries.begins
  cases unbounded_produced begins.known tries.produces with
  | refused _ refusal => simp [begins.admitted] at refusal
  | failed _ _ passing _ empty claimed =>
    obtain ⟨current, held, _⟩ :=
      World.scope?_eq_some_iff.mp (passing.scopes (World.scope?_eq_some_iff.mpr ⟨recipe, begins.known, rfl⟩))
    have unready : current.ready? = none := by rwa [World.ready?, held, Option.bind_some] at empty
    have idle := (Guards.refusal?_eq_none_iff.mp begins.admitted).1
    refine ⟨current, held, unready, Guards.refusal?_eq_none_iff.mpr ⟨passing.producing ▸ idle, ?_⟩⟩
    rw [Guards.depth, claimed]
    exact (passing.bounded bounded).nestingBound_pos current

end Outcomes

theorem code_produces (code : Code app) (factory : FactoryId) : code.Produces factory where
  lasts ready answered := by
    obtain ⟨⟨_, passing⟩, _⟩ := unbounded_undisturbed answered
    have still := passing.ready ready
    refine ⟨still, fun recipe known => ?_⟩
    rw [World.ready?, known, Option.bind_some] at still
    simp [RecipeFactory.isCreated, still]
  identical ready := by
    rw [unbounded_produce]
    exact produce_ready ready
  named ready named := by
    rw [unbounded_resolve, resolve_known named, produce_ready ready]
    rfl
  refused known unready refusal := by
    rw [unbounded_produce, produce_known known]
    exact produceByRecipe_refused unready refusal
  tried begins := begins.produces_iff
  created tries := tries.creates
  kept singleton answered := by
    obtain ⟨recipe, known, scope⟩ := World.scope?_eq_some_iff.mp singleton
    cases unbounded_produced known answered with
    | ready ready => simp [World.ready?, known, ready]
    | created _ _ _ _ kept _ => exact kept scope
  empty := by
    intro scope world after error found answered
    obtain ⟨recipe, known, _⟩ := World.scope?_eq_some_iff.mp found
    cases unbounded_produced known answered with
    | refused unready _ =>
      have same : (world.refuse factory).ready? factory = world.ready? factory :=
        (SameFactories.of_eq rfl).ready factory
      rw [same, World.ready?, known]
      exact unready
    | failed _ _ _ _ empty _ => exact empty
  retried bounded failed := by
    obtain ⟨_, begins⟩ := failed.retries bounded
    exact begins.produces_iff
  bounded bounded answered := by
    obtain ⟨⟨_, passing⟩, _⟩ := unbounded_undisturbed answered
    exact passing.bounded bounded

theorem factories_create_as_scoped {Result : Type} {memory : app.Memory} {budget : Nat}
    {script : Script app Result} {result : Result} {world : World app} {factory : FactoryId}
    {scope : Scope} (ran : (World.initial memory).run code budget script = some (result, world))
    (known : world.scope? factory = some scope) :
    Recorded code memory factory scope world ∧ world.Bounded ∧ code.Produces factory := by
  obtain ⟨⟨steps, passing⟩, _⟩ := (undisturbed_keeps code).run_keeps ran
  have initially : (World.initial memory).Bounded := by simp [World.Bounded, World.initial]
  have accounts := (accounts_keeps code).run_keeps ran
  exact ⟨recorded_of_passing known passing accounts, passing.bounded initially, code_produces code factory⟩

namespace Sample

inductive Light where
  | wick
  | lamp

abbrev lights : Application where
  Content := Unit
  Event := Empty
  -- Whether the oil was filled in.
  Memory := Bool
  Recipe := Light
  Custom := Empty
  Hook := Empty

-- A lamp fills itself at the first attempt, which fails, and is a wick at the second.
def kindle : Code lights where
  create light _ := do
    match light, ← Script.readMemory with
    | .wick, _ => pure (.ok (.bean (← Script.newObject ())))
    | .lamp, false =>
      Script.writeMemory true
      pure (.error refusal)
    | .lamp, true => pure (.ok (.factory (← Script.newFactory .singleton .wick)))
  followUp _ _ _ := pure (.ok ())
  produce custom := nomatch custom
  nameTold custom _ := nomatch custom
  registryTold custom _ := nomatch custom
  before hook _ := nomatch hook
  afterReturning hook _ _ := nomatch hook
  afterThrowing hook _ _ := nomatch hook
  afterFinally hook _ := nomatch hook
  around hook _ := nomatch hook
  target hook _ := nomatch hook

def lightThrice : Script lights (List (Except BeanFailure (Object Unit))) := do
  let lamp ← Script.newFactory .singleton .lamp
  let first ← Script.produce lamp
  let second ← Script.produce lamp
  let third ← Script.produce lamp
  pure [first, second, third]

theorem lamp_lit_at_second_attempt :
    let outcomes := [.error (.unableToCreate refusal), .ok ⟨0, ()⟩, .ok ⟨0, ()⟩]
    ∃ world, (World.initial false).run kindle 3 lightThrice = some (outcomes, world) ∧
      tally ⟨0⟩ .failed world.journal = 1 ∧ tally ⟨0⟩ .succeeded world.journal = 1 ∧
      tally ⟨0⟩ .creating world.journal = 2 ∧ tally ⟨1⟩ .creating world.journal = 1 ∧
      Recorded kindle false ⟨0⟩ .singleton world ∧ Recorded kindle false ⟨1⟩ .singleton world ∧
      world.Bounded ∧ kindle.Produces ⟨0⟩ := by
  intro outcomes
  have ran : (World.initial false).run kindle 3 lightThrice = some (outcomes, _) := rfl
  obtain ⟨lamp, bounded, produces⟩ :=
    factories_create_as_scoped ran (show World.scope? _ ⟨0⟩ = some .singleton from rfl)
  obtain ⟨wick, _, _⟩ := factories_create_as_scoped ran (show World.scope? _ ⟨1⟩ = some .singleton from rfl)
  exact ⟨_, ran, rfl, rfl, rfl, rfl, lamp, wick, bounded, produces⟩

end Sample

end BeanRegistry
