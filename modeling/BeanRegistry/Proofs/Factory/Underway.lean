import BeanRegistry.Proofs.Factory.Known
import BeanRegistry.Proofs.Factory.Life

set_option autoImplicit false

namespace BeanRegistry

variable {app : Application}

namespace World

def refuse (world : World app) (factory : FactoryId) : World app :=
  (world.withGuards world.guards.claim).note (.refused factory world.guards.claim)

def enter (world : World app) (factory : FactoryId) : World app :=
  let entered := world.guards.claim.push factory
  (world.withGuards entered).note (.entered factory entered)

def leave (world : World app) (factory : FactoryId) (succeeded : Bool) : World app :=
  (world.withGuards world.guards.pop).note (.left factory succeeded world.guards.pop)

def rest (world : World app) (factory : FactoryId) : Phase :=
  if (world.ready? factory).isSome then .settled else .resting

theorem rest_eq_settled {world : World app} {factory : FactoryId} {bean : Object app.Content}
    (ready : world.ready? factory = some bean) : world.rest factory = .settled := by
  simp [rest, ready]

theorem rest_eq_resting {world : World app} {factory : FactoryId}
    (unready : world.ready? factory = none) : world.rest factory = .resting := by
  simp [rest, unready]

def Admits (world : World app) (factory : FactoryId) (scope : Scope) : Prop :=
  ∀ found, world.scope? factory = some found → found = scope

end World

theorem enterGuards_eq (factory : FactoryId) (recipe : RecipeFactory app) (world : World app) :
    enterGuards factory recipe world =
      match world.guards.refusal? factory recipe.displayName (world.nestingBound recipe) with
      | some error => some (.error error, world.refuse factory)
      | none => some (.ok world.guards.depth, world.enter factory) := by
  unfold enterGuards
  rw [Eval.get_bind]
  cases world.guards.refusal? factory recipe.displayName (world.nestingBound recipe) <;> rfl

theorem World.ready?_keep {world : World app} {factory : FactoryId} {recipe : RecipeFactory app}
    (known : world.recipeFactory? factory = some recipe) (scope : recipe.scope = .singleton)
    (bean : Object app.Content) :
    (world.mapFactory factory fun keeper => keeper.keep bean).ready? factory = some bean := by
  rw [World.ready?_mapFactory, if_pos rfl, known]
  simp [RecipeFactory.keep, RecipeFactory.ready?, scope]

-- The steps, the newest first, are of productions that also came to their end in between.
structure Passing (steps : List (Step app)) (before after : World app) : Prop where
  journal : after.journal = steps ++ before.journal
  producing : after.guards.producing = before.guards.producing
  scopes : ∀ {factory scope}, before.scope? factory = some scope → after.scope? factory = some scope
  ready : ∀ {factory bean}, before.ready? factory = some bean → after.ready? factory = some bean
  unfinished : ∀ {factory}, factory ∈ before.guards.producing →
    before.ready? factory = none → after.ready? factory = none
  refuses : ∀ {factory}, factory ∈ before.guards.producing →
    ∀ stage ∈ life factory steps, stage = .refused
  attempts : ∀ {factory scope}, factory ∉ before.guards.producing → after.Admits factory scope →
    Phase.through scope (before.rest factory) (life factory steps) = some (after.rest factory)
  bounded : before.Bounded → after.Bounded

-- What every call leaves: productions that passed, and a pending depth that at most was claimed.
def Undisturbed (before after : World app) : Prop :=
  (∃ steps, Passing steps before after) ∧
    (after.guards.pendingDepth = before.guards.pendingDepth ∨ after.guards.pendingDepth = none)

theorem Passing.trans {early late : List (Step app)} {first middle last : World app}
    (before : Passing early first middle) (rest : Passing late middle last) :
    Passing (late ++ early) first last := by
  have same := before.producing
  refine ⟨?_, rest.producing.trans same, fun found => rest.scopes (before.scopes found),
    fun found => rest.ready (before.ready found), ?_, ?_, ?_,
    fun bounded => rest.bounded (before.bounded bounded)⟩
  · rw [rest.journal, before.journal, List.append_assoc]
  · exact fun running unready => rest.unfinished (same ▸ running) (before.unfinished running unready)
  · intro factory running stage member
    rw [life_append, List.mem_append] at member
    cases member with
    | inl member => exact rest.refuses (same ▸ running) stage member
    | inr member => exact before.refuses running stage member
  · intro factory scope idle admitted
    have earlier : middle.Admits factory scope := fun found kept => admitted found (rest.scopes kept)
    rw [life_append, Phase.through_append, before.attempts idle earlier]
    exact rest.attempts (same ▸ idle) admitted

theorem Undisturbed.trans {first middle last : World app} (before : Undisturbed first middle)
    (rest : Undisturbed middle last) : Undisturbed first last := by
  obtain ⟨⟨_, early⟩, claimed⟩ := before
  obtain ⟨⟨_, late⟩, pending⟩ := rest
  refine ⟨⟨_, early.trans late⟩, ?_⟩
  rcases pending with same | none
  · rwa [same]
  · exact .inr none

theorem life_unproductive {steps : List (Step app)}
    (unproductive : ∀ step ∈ steps, step.production? = none) (factory : FactoryId) :
    life factory steps = [] := by
  simp only [life, List.filterMap_eq_nil_iff]
  intro step member
  simp [unproductive step member]

theorem Quiet.undisturbed {before after : World app} (quiet : Quiet before after) :
    Undisturbed before after := by
  obtain ⟨steps, journal, unproductive⟩ := quiet.journal
  have silent := life_unproductive unproductive
  have producing := congrArg Guards.producing quiet.guards
  refine ⟨⟨steps, journal, producing, quiet.scopes, ?_, ?_, ?_, ?_, quiet.bounded⟩,
    .inl (congrArg Guards.pendingDepth quiet.guards)⟩
  · exact fun {factory _} found => (quiet.ready factory).trans found
  · exact fun {factory} _ unready => (quiet.ready factory).trans unready
  · simp [silent]
  · intro factory scope _ _
    rw [silent, World.rest, World.rest, quiet.ready]
    rfl

theorem refuse_passing {world : World app} {factory : FactoryId}
    (unready : world.ready? factory = none) :
    Passing [.refused factory world.guards.claim] world (world.refuse factory) := by
  let step : Step app := .refused factory world.guards.claim
  have same : SameFactories world (world.refuse factory) := .of_eq rfl
  have elsewhere {other : FactoryId} (different : other ≠ factory) : life other [step] = [] :=
    life_other rfl different []
  have here : life factory [step] = [.refused] := life_own rfl rfl []
  refine ⟨rfl, rfl, same.scopes, fun {other _} found => (same.ready other).trans found,
    fun {other} _ free => (same.ready other).trans free, ?_, ?_, id⟩
  · intro other _
    by_cases own : other = factory
    · subst own
      simp [step, here]
    · simp [step, elsewhere own]
  · intro other scope _ _
    have rest : (world.refuse factory).rest other = world.rest other := by
      simp only [World.rest, same.ready]
    by_cases own : other = factory
    · subst own
      rw [here, rest, World.rest_eq_resting unready]
      rfl
    · rw [elsewhere own, rest]
      rfl

structure Underway (factory : FactoryId) (scope : Scope) (phase : Phase) (steps : List (Step app))
    (before now : World app) : Prop where
  journal : now.journal = steps ++ before.journal
  producing : now.guards.producing = factory :: before.guards.producing
  scopes : ∀ {other kept}, before.scope? other = some kept → now.scope? other = some kept
  ready : ∀ {other bean}, before.ready? other = some bean → now.ready? other = some bean
  unfinished : ∀ {other}, other ∈ before.guards.producing →
    before.ready? other = none → now.ready? other = none
  refuses : ∀ {other}, other ∈ before.guards.producing →
    ∀ stage ∈ life other steps, stage = .refused
  attempts : ∀ {other admitted}, other ∉ before.guards.producing → other ≠ factory →
    now.Admits other admitted →
      Phase.through admitted (before.rest other) (life other steps) = some (now.rest other)
  idle : factory ∉ before.guards.producing
  unready : before.ready? factory = none
  own : now.scope? factory = some scope
  empty : phase ≠ .kept → now.ready? factory = none
  reached : Phase.through scope .resting (life factory steps) = some phase
  once : (life factory steps).count .entered = 1
  claimed : now.guards.pendingDepth = none
  bounded : before.Bounded → now.Bounded

namespace Underway

variable {factory : FactoryId} {scope : Scope} {phase : Phase} {steps : List (Step app)}
  {before now : World app}

theorem start (idle : factory ∉ before.guards.producing) (own : before.scope? factory = some scope)
    (unready : before.ready? factory = none) :
    Underway factory scope .entered [.entered factory (before.guards.claim.push factory)] before
      (before.enter factory) := by
  let step : Step app := .entered factory (before.guards.claim.push factory)
  have same : SameFactories before (before.enter factory) := .of_eq rfl
  have elsewhere {other : FactoryId} (different : other ≠ factory) : life other [step] = [] :=
    life_other rfl different []
  have here : life factory [step] = [.entered] := life_own rfl rfl []
  refine ⟨rfl, rfl, same.scopes, fun {other _} found => (same.ready other).trans found,
    fun {other} _ free => (same.ready other).trans free, ?_, ?_, idle, unready, same.scopes own,
    fun _ => (same.ready factory).trans unready, ?_, ?_, rfl, id⟩
  · intro other running
    rw [elsewhere fun same => idle (same ▸ running)]
    exact List.forall_mem_nil _
  · intro other admitted _ different _
    rw [elsewhere different, World.rest, World.rest, same.ready]
    rfl
  · rw [here]
    rfl
  · rw [here]
    rfl

theorem advance {after : World app} (underway : Underway factory scope phase steps before now)
    {step : Step app} {stage : Stage} {next : Phase} (owned : step.production? = some factory)
    (shown : step.stage? = some stage) (moved : phase.next scope stage = some next)
    (fresh : stage ≠ .entered) (journal : after.journal = step :: now.journal)
    (guards : after.guards = now.guards) (bounded : now.Bounded → after.Bounded)
    (scopes : ∀ {other kept}, now.scope? other = some kept → after.scope? other = some kept)
    (apart : ∀ {other}, other ≠ factory → after.ready? other = now.ready? other)
    (empty : next ≠ .kept → after.ready? factory = none) :
    Underway factory scope next (step :: steps) before after := by
  have elsewhere {other : FactoryId} (different : other ≠ factory) :
      life other (step :: steps) = life other steps :=
    life_other owned different steps
  have here := life_own owned shown steps
  have apart_of_ready {other : FactoryId} {bean : Object app.Content}
      (found : before.ready? other = some bean) : other ≠ factory := by
    rintro rfl
    rw [underway.unready] at found
    cases found
  have apart_of_running {other : FactoryId} (running : other ∈ before.guards.producing) :
      other ≠ factory := by
    rintro rfl
    exact underway.idle running
  have producing := congrArg Guards.producing guards
  refine ⟨?_, producing.trans underway.producing, fun found => scopes (underway.scopes found),
    fun found => (apart (apart_of_ready found)).trans (underway.ready found),
    fun running free => (apart (apart_of_running running)).trans (underway.unfinished running free),
    ?_, ?_, underway.idle, underway.unready, scopes underway.own, empty, ?_, ?_,
    guards ▸ underway.claimed, fun initially => bounded (underway.bounded initially)⟩
  · rw [journal, underway.journal, List.cons_append]
  · intro other running
    rw [elsewhere (apart_of_running running)]
    exact underway.refuses running
  · intro other admitted idle different admits
    have earlier : now.Admits other admitted := fun found kept => admits found (scopes kept)
    rw [elsewhere different, underway.attempts idle different earlier, World.rest, World.rest,
      apart different]
  · rw [here, Phase.through, underway.reached]
    exact moved
  · rw [here, List.count_cons_of_ne fresh]
    exact underway.once

theorem note (underway : Underway factory scope phase steps before now) (step : Step app)
    {stage : Stage} {next : Phase} (owned : step.production? = some factory)
    (shown : step.stage? = some stage) (moved : phase.next scope stage = some next)
    (fresh : stage ≠ .entered) (unfinished : phase ≠ .kept) :
    Underway factory scope next (step :: steps) before (now.note step) := by
  have same : SameFactories now (now.note step) := .of_eq rfl
  exact underway.advance owned shown moved fresh rfl rfl id same.scopes (fun {other} _ => same.ready other)
    fun _ => (same.ready factory).trans (underway.empty unfinished)

theorem keep {bean : Object app.Content} {name : String}
    (underway : Underway factory .singleton phase steps before now)
    (moved : phase.next .singleton .kept = some .kept) :
    Underway factory .singleton .kept (.kept factory name :: steps) before
      ((now.mapFactory factory fun keeper => keeper.keep bean).note (.kept factory name)) := by
  have scope (recipe : RecipeFactory app) := recipe.keep_scope bean
  refine underway.advance rfl rfl moved nofun rfl rfl id ?_ ?_ fun kept => absurd rfl kept
  · intro other kept found
    exact (now.scope?_mapFactory factory other scope).trans found
  · intro other different
    have unchanged := now.ready?_mapFactory factory other fun keeper => keeper.keep bean
    rw [if_neg different.symm] at unchanged
    exact unchanged

-- A call in between leaves the production where it stands.
theorem call {after : World app} (underway : Underway factory scope phase steps before now)
    (refuses : phase.next scope .refused = some phase) {late : List (Step app)}
    (passing : Passing late now after) (claimed : after.guards.pendingDepth = none) :
    ∃ steps, Underway factory scope phase steps before after := by
  have unfinished : phase ≠ .kept := by
    rintro rfl
    cases refuses
  have running {other : FactoryId} (member : other ∈ before.guards.producing) :
      other ∈ now.guards.producing := by
    rw [underway.producing]
    exact List.mem_cons_of_mem factory member
  have busy : factory ∈ now.guards.producing := by
    rw [underway.producing]
    exact List.mem_cons_self
  refine ⟨late ++ steps, ?_, passing.producing.trans underway.producing,
    fun found => passing.scopes (underway.scopes found), fun found => passing.ready (underway.ready found),
    fun member free => passing.unfinished (running member) (underway.unfinished member free), ?_, ?_,
    underway.idle, underway.unready, passing.scopes underway.own,
    fun _ => passing.unfinished busy (underway.empty unfinished), ?_, ?_, claimed,
    fun initially => passing.bounded (underway.bounded initially)⟩
  · rw [passing.journal, underway.journal, List.append_assoc]
  · intro other member stage shown
    rw [life_append, List.mem_append] at shown
    cases shown with
    | inl shown => exact passing.refuses (running member) stage shown
    | inr shown => exact underway.refuses member stage shown
  · intro other admitted idle different admits
    have earlier : now.Admits other admitted := fun found kept => admits found (passing.scopes kept)
    have outside : other ∉ now.guards.producing := by
      rw [underway.producing, List.mem_cons, not_or]
      exact ⟨different, idle⟩
    rw [life_append, Phase.through_append, underway.attempts idle different earlier]
    exact passing.attempts outside admits
  · rw [life_append, Phase.through_append, underway.reached]
    exact Phase.through_refusals scope refuses (passing.refuses busy)
  · rw [life_append, List.count_append, underway.once]
    have none : (life factory late).count .entered = 0 := by
      rw [List.count_eq_zero]
      intro member
      exact nomatch passing.refuses busy _ member
    omega

theorem undisturbed {after : World app} (underway : Underway factory scope phase steps before now)
    (refuses : phase.next scope .refused = some phase) (undisturbed : Undisturbed now after) :
    ∃ steps, Underway factory scope phase steps before after := by
  obtain ⟨⟨_, passing⟩, same | claimed⟩ := undisturbed
  · exact underway.call refuses passing (same.trans underway.claimed)
  · exact underway.call refuses passing claimed

theorem leave (underway : Underway factory scope phase steps before now) (succeeded : Bool)
    (moved : phase.next scope (if succeeded then .succeeded else .failed) = some (now.rest factory)) :
    Passing (.left factory succeeded now.guards.pop :: steps) before (now.leave factory succeeded) := by
  let step : Step app := .left factory succeeded now.guards.pop
  have same : SameFactories now (now.leave factory succeeded) := .of_eq rfl
  have elsewhere {other : FactoryId} (different : other ≠ factory) :
      life other (step :: steps) = life other steps :=
    life_other rfl different steps
  refine ⟨?_, ?_, fun found => same.scopes (underway.scopes found),
    fun {other _} found => (same.ready other).trans (underway.ready found),
    fun {other} running free => (same.ready other).trans (underway.unfinished running free), ?_, ?_,
    underway.bounded⟩
  · exact congrArg (step :: ·) underway.journal
  · exact congrArg List.tail underway.producing
  · intro other running
    rw [elsewhere fun same => underway.idle (same ▸ running)]
    exact underway.refuses running
  · intro other admitted idle admits
    by_cases own : other = factory
    · subst own
      obtain rfl := admits scope (same.scopes underway.own)
      rw [life_own rfl rfl, Phase.through, World.rest_eq_resting underway.unready, underway.reached]
      exact moved
    · have earlier : now.Admits other admitted := fun found kept => admits found (same.scopes kept)
      rw [elsewhere own, underway.attempts idle own earlier, World.rest, World.rest, same.ready]

theorem leave_once (underway : Underway factory scope phase steps before now) (succeeded : Bool)
    {next : Phase}
    (moved : phase.next scope (if succeeded then .succeeded else .failed) = some next) :
    (life factory ((.left factory succeeded now.guards.pop : Step app) :: steps)).count .creating = 1 := by
  have started : phase ≠ .entered := by
    rintro rfl
    cases succeeded <;> cases moved
  have creations := (Phase.through_ledger underway.reached).creations
  rw [underway.once, Phase.unstarted, if_neg started] at creations
  have last : (if succeeded then Stage.succeeded else .failed) ≠ .creating := by cases succeeded <;> decide
  rw [life_own rfl rfl, List.count_cons_of_ne last]
  exact creations

end Underway
end BeanRegistry
