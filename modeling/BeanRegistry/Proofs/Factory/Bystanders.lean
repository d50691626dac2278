import BeanRegistry.Proofs.Chain.Marked
import BeanRegistry.Proofs.Factory.Creation

set_option autoImplicit false

namespace BeanRegistry

variable {app : Application}

def Guards.under (outer : List FactoryId) (guards : Guards) : Guards :=
  { guards with producing := guards.producing ++ outer }

def Step.under (outer : List FactoryId) : Step app → Step app
  | .refused factory guards => .refused factory (guards.under outer)
  | .entered factory guards => .entered factory (guards.under outer)
  | .creating factory guards => .creating factory (guards.under outer)
  | .followingUp factory guards => .followingUp factory (guards.under outer)
  | .unwrapping factory nested guards => .unwrapping factory nested (guards.under outer)
  | .left factory succeeded guards => .left factory succeeded (guards.under outer)
  | step => step

-- A world with factories below those that are producing, and with steps before its own.
def World.under (outer : List FactoryId) (past : List (Step app)) (world : World app) : World app :=
  { world with
    guards := world.guards.under outer
    journal := world.journal.map (Step.under outer) ++ past }

def Spares (factories : List FactoryId) (before after : World app) : Prop :=
  ∃ steps, after.journal = steps ++ before.journal ∧
    ∀ step ∈ steps, ∀ factory ∈ factories, step.production? ≠ some factory

structure Grown (before after : World app) : Prop where
  journal : before.journal <:+ after.journal
  producing : after.guards.producing = before.guards.producing

theorem Grown.refl (world : World app) : Grown world world :=
  ⟨List.suffix_rfl, rfl⟩

theorem Grown.trans {first middle last : World app} (before : Grown first middle) (rest : Grown middle last) :
    Grown first last :=
  ⟨before.journal.trans rest.journal, rest.producing.trans before.producing⟩

theorem Spares.split {factories : List FactoryId} {first middle last : World app}
    (spares : Spares factories first last)
    (before : first.journal <:+ middle.journal) (rest : middle.journal <:+ last.journal) :
    Spares factories first middle ∧ Spares factories middle last := by
  obtain ⟨steps, all, spared⟩ := spares
  obtain ⟨early, early_eq⟩ := before
  obtain ⟨late, late_eq⟩ := rest
  obtain rfl : steps = late ++ early := by
    rw [← late_eq, ← early_eq, ← List.append_assoc] at all
    exact (List.append_cancel_right all).symm
  exact ⟨⟨early, early_eq.symm, fun step member => spared step (List.mem_append_right _ member)⟩,
    ⟨late, late_eq.symm, fun step member => spared step (List.mem_append_left _ member)⟩⟩

-- An evaluation that spares the factories below does the same with others below.
structure Follows (outer other : List FactoryId) (past : List (Step app)) {Result : Type}
    (evaluation : Eval app Result) : Prop where
  grows : ∀ {world after : World app} {result : Result},
    evaluation world = some (result, after) → Grown world after
  alike : ∀ {world after : World app} {result : Result},
    evaluation (world.under outer past) = some (result, after) →
      Spares (outer ++ other) (world.under outer past) after → ∃ last :
        World app, after = last.under outer past ∧
        evaluation (world.under other past) = some (result, last.under other past)

namespace Follows

variable {outer other : List FactoryId} {past : List (Step app)} {Result Other : Type}

theorem change {result : World app → Result} {change : World app → World app}
    (same : ∀ (outer : List FactoryId) (world : World app), result (world.under outer past) = result world)
    (moves : ∀ (outer : List FactoryId) (world : World app),
      change (world.under outer past) = (change world).under outer past)
    (grown : ∀ world, Grown world (change world)) :
    Follows outer other past (fun world => some (result world, change world)) where
  grows {world _ _} answered := by
    cases answered
    exact grown world
  alike {world _ _} answered _ := by
    cases answered
    refine ⟨change world, moves outer world, ?_⟩
    rw [same, same, moves]

theorem pure (result : Result) : Follows outer other past (pure result : Eval app Result) :=
  change (fun _ _ => rfl) (fun _ _ => rfl) Grown.refl

theorem bind {first : Eval app Result} {next : Result → Eval app Other}
    (before : Follows outer other past first)
    (rest : ∀ result, Follows outer other past (next result)) :
      Follows outer other past (first >>= next) where
  grows answered := by
    obtain ⟨result, middle, earlier, later⟩ := Eval.bind_eq_some_iff.mp answered
    exact (before.grows earlier).trans ((rest result).grows later)
  alike answered spares := by
    obtain ⟨result, middle, earlier, later⟩ := Eval.bind_eq_some_iff.mp answered
    obtain ⟨early, late⟩ := spares.split (before.grows earlier).journal ((rest result).grows later).journal
    obtain ⟨between, rfl, first_alike⟩ := before.alike earlier early
    obtain ⟨last, rfl, rest_alike⟩ := (rest result).alike later late
    exact ⟨last, rfl, Eval.bind_eq_some_iff.mpr ⟨result, _, first_alike, rest_alike⟩⟩

theorem look {next : World app → Eval app Result}
    (same : ∀ world : World app, next (world.under outer past) = next (world.under other past))
    (all : ∀ world, Follows outer other past (next world)) : Follows outer other past (get >>= next) where
  grows {world _ _} answered := (all world).grows answered
  alike {world _ _} answered spares := by
    obtain ⟨last, rfl, answers⟩ := (all (world.under outer past)).alike answered spares
    exact ⟨last, rfl, by rw [Eval.get_bind, ← same, answers]⟩

theorem note {step : Step app} (still : ∀ outer, step.under outer = step) :
    Follows outer other past (Eval.note step) := by
  refine change (fun _ _ => rfl) (fun outer world => ?_) fun world => ⟨List.suffix_cons _ _, rfl⟩
  simp [World.note, World.under, still]

theorem noteGuards {step : Guards → Step app}
    (shows : ∀ (outer : List FactoryId) (guards : Guards), step (guards.under outer) =
      (step guards).under outer) :
    Follows outer other past (Eval.noteGuards step) := by
  refine change (fun _ _ => rfl) (fun outer world => ?_) fun world => ⟨List.suffix_cons _ _, rfl⟩
  simp [World.note, World.under, shows]

theorem modify {move : World app → World app}
    (moves : ∀ (outer : List FactoryId) (world : World app),
      move (world.under outer past) = (move world).under outer past)
    (grown : ∀ world, Grown world (move world)) : Follows outer other past (modify move : Eval app Unit) :=
  change (fun _ _ => rfl) moves grown

theorem changeGuards {move : Guards → Guards}
    (moves : ∀ (outer : List FactoryId) (guards : Guards), move (guards.under outer) =
      (move guards).under outer)
    (kept : ∀ guards, (move guards).producing = guards.producing) :
    Follows outer other past (Eval.changeGuards move : Eval app Unit) := by
  refine modify (fun outer world => ?_) fun world => ⟨List.suffix_rfl, kept _⟩
  simp [World.withGuards, World.under, moves]

theorem discard {evaluation : Eval app Result} (follows : Follows outer other past evaluation) :
    Follows outer other past (discard evaluation) :=
  follows.bind fun _ => pure ()

end Follows

def Handler.Follows (outer other : List FactoryId) (past : List (Step app)) (handle : Handler app) : Prop :=
  ∀ call, BeanRegistry.Follows outer other past (handle call)

section Rules

variable {outer other : List FactoryId} {past : List (Step app)} {handle : Handler app} {code : Code app}
  {Result : Type} (handled : handle.Follows outer other past)

include handled

theorem script_follows (script : Script app Result) : Follows outer other past (handle.script script) := by
  induction script with
  | done result => exact .pure result
  | ask operation next ih => exact (handled (.request operation)).bind ih

theorem hook_follows {rest : Eval app (Outcome app)} (continued : Follows outer other past rest)
    (script : HookScript app Result) : Follows outer other past (handle.hook rest script) := by
  induction script with
  | done result => exact .pure result
  | ask operation next ih =>
    cases operation with
    | common operation => exact (handled (.request operation)).bind ih
    | proceed => exact continued.bind ih

omit handled in
theorem taught_follows {learn : World app → World app} {told : Step app}
    (moves : ∀ (outer : List FactoryId) (world : World app),
      learn (world.under outer past) = (learn world).under outer past)
    (grown : ∀ world, Grown world (learn world)) (still : ∀ outer, told.under outer = told) :
    Follows outer other past (do modify learn; Eval.note told; pure true : Eval app Bool) := by
  refine Follows.bind (.modify moves grown) fun _ => ?_
  exact Follows.bind (.note still) fun _ => .pure true

theorem heard_follows (isAware : Bool) {told : Step app} (still : ∀ outer, told.under outer = told)
    (script : Script app Unit) :
    Follows outer other past (do
      if isAware then
        Eval.note told
        handle.script script
        pure true
      else pure false : Eval app Bool) := by
  cases isAware with
  | false => exact .pure false
  | true =>
    refine Follows.bind (.note still) fun _ => ?_
    exact (script_follows handled script).bind fun _ => .pure true

theorem tellName_follows (factory : FactoryId) (name : String) :
    Follows outer other past (tellName code handle factory name) := by
  refine .look (fun _ => rfl) fun world => ?_
  cases world.factory? factory with
  | none => exact .pure false
  | some learner =>
    cases learner with
    | recipe _ => exact taught_follows (fun _ _ => rfl) (fun _ => ⟨List.suffix_rfl, rfl⟩) fun _ => rfl
    | custom custom => exact heard_follows handled custom.isNameAware (fun _ => rfl) _

theorem tellRegistry_follows (factory : FactoryId) (registry : RegistryId) :
    Follows outer other past (tellRegistry code handle factory registry) := by
  refine .look (fun _ => rfl) fun world => ?_
  cases world.factory? factory with
  | none => exact .pure false
  | some learner =>
    cases learner with
    | recipe _ => exact taught_follows (fun _ _ => rfl) (fun _ => ⟨List.suffix_rfl, rfl⟩) fun _ => rfl
    | custom custom => exact heard_follows handled custom.isRegistryAware (fun _ => rfl) _

theorem lendIdentity_follows (factory nested : FactoryId) :
    Follows outer other past (lendIdentity code handle factory nested) := by
  refine Follows.bind (.look (fun _ => rfl) fun world => ?_) fun _ => .look (fun _ => rfl) fun world => ?_
  · cases world.recipeFactory? factory with
    | none => exact .pure ()
    | some lender =>
      dsimp only
      cases lender.name with
      | none => exact .pure ()
      | some name => exact (tellName_follows handled nested name).discard
  · cases world.recipeFactory? factory with
    | none => exact .pure ()
    | some lender =>
      dsimp only
      cases lender.registry with
      | none => exact .pure ()
      | some registry => exact (tellRegistry_follows handled nested registry).discard

theorem unwrap_follows (factory nested : FactoryId) (depth : Nat) :
    Follows outer other past (unwrap code handle factory nested depth) := by
  refine (lendIdentity_follows handled factory nested).bind fun _ => ?_
  refine Follows.bind (.noteGuards fun _ _ => rfl) fun _ => ?_
  refine Follows.bind (.changeGuards (fun _ _ => rfl) fun _ => rfl) fun _ => ?_
  refine (handled (.request (.produce nested))).bind fun outcome => ?_
  exact Follows.bind (.changeGuards (fun _ _ => rfl) fun _ => rfl) fun _ => .pure outcome

theorem createBean_follows (factory : FactoryId) (recipe : RecipeFactory app) (depth : Nat) :
    Follows outer other past (createBean code handle factory recipe depth) := by
  refine Follows.bind (.noteGuards fun _ _ => rfl) fun _ => ?_
  refine (script_follows handled _).bind fun created => ?_
  cases created with
  | error failure => exact .pure _
  | ok product =>
    refine Follows.bind (.noteGuards fun _ _ => rfl) fun _ => ?_
    refine (script_follows handled _).bind fun followed => ?_
    cases followed with
    | error failure => exact .pure _
    | ok _ =>
      cases product with
      | bean bean => exact .pure _
      | factory nested =>
        refine (unwrap_follows handled factory nested depth).bind fun outcome => ?_
        cases outcome <;> exact .pure _

omit handled in
theorem keepBean_follows (factory : FactoryId) (bean : Object app.Content) :
    Follows outer other past (keepBean factory bean) := by
  refine .look (fun _ => rfl) fun world => ?_
  cases world.recipeFactory? factory with
  | none => exact .pure ()
  | some recipe =>
    dsimp only
    cases recipe.scope with
    | prototype => exact .pure ()
    | singleton =>
      refine Follows.bind (.modify (fun _ _ => rfl) fun _ => ⟨List.suffix_rfl, rfl⟩) fun _ => ?_
      exact .note fun _ => rfl

def attempt (code : Code app) (handle : Handler app) (factory : FactoryId) (recipe : RecipeFactory app)
    (depth : Nat) : Eval app (Except BeanFailure (Object app.Content)) := do
  match ← createBean code handle factory recipe depth with
  | .error failure => pure (.error (.unableToCreate failure))
  | .ok bean =>
    keepBean factory bean
    pure (.ok bean)

theorem attempt_follows (factory : FactoryId) (recipe : RecipeFactory app) (depth : Nat) :
    Follows outer other past (attempt code handle factory recipe depth) := by
  refine (createBean_follows handled factory recipe depth).bind fun created => ?_
  cases created with
  | error failure => exact .pure _
  | ok bean => exact (keepBean_follows factory bean).bind fun _ => .pure _

omit handled in
theorem produceByRecipe_attempt {factory : FactoryId} {recipe : RecipeFactory app} {world : World app}
    (unready : recipe.ready? = none)
    (admitted : world.guards.refusal? factory recipe.displayName (world.nestingBound recipe) = none) :
    produceByRecipe code handle factory recipe world =
      (attempt code handle factory recipe world.guards.depth (world.enter factory)).bind fun answer =>
        some (answer.1, answer.2.leave factory answer.1.isOk) := by
  rw [produceByRecipe_entered unready admitted, attempt, Eval.bind_apply]
  cases createBean code handle factory recipe world.guards.depth (world.enter factory) with
  | none => rfl
  | some answer =>
    obtain ⟨made, now⟩ := answer
    cases made with
    | error failure => rfl
    | ok bean =>
      simp only [Option.bind_some, Eval.bind_apply]
      cases keepBean factory bean now <;> rfl

omit handled in
theorem Spares.idle {factories : List FactoryId} {before after : World app} {step : Step app}
    {factory : FactoryId}
    (spares : Spares factories before after) (took : step :: before.journal <:+ after.journal)
    (productive : step.production? = some factory) : factory ∉ factories := by
  intro among
  obtain ⟨steps, grown, spared⟩ := spares
  obtain ⟨later, whole⟩ := took
  obtain rfl : steps = later ++ [step] := by
    rw [grown, List.append_cons] at whole
    exact (List.append_cancel_right whole).symm
  exact spared step (by simp) factory among productive

omit handled in
theorem refusal?_under {outer : List FactoryId} {factory : FactoryId} (aside : factory ∉ outer)
    (guards : Guards) (name : String) (bound : Nat) :
    (guards.under outer).refusal? factory name bound = guards.refusal? factory name bound := by
  have same : factory ∈ (guards.under outer).producing ↔ factory ∈ guards.producing := by
    simp [Guards.under, aside]
  simp only [Guards.refusal?, same]
  rfl

omit handled in
theorem leave_under {last : World app} {factory : FactoryId} {rest : List FactoryId}
    (producing : last.guards.producing = factory :: rest) (outer : List FactoryId) (past : List (Step app))
    (succeeded : Bool) :
    (last.under outer past).leave factory succeeded = (last.leave factory succeeded).under outer past := by
  simp [World.leave, World.under, World.note, World.withGuards, Step.under, Guards.under,
    Guards.pop, producing]

omit handled in
-- Neither list has the factory, so that the guards make the same of it.
theorem refusal?_alike {factory : FactoryId} (idle : factory ∉ outer ++ other) (recipe : RecipeFactory app)
    (world : World app) :
    (world.under outer past).guards.refusal? factory recipe.displayName
        ((world.under outer past).nestingBound recipe) =
      (world.under other past).guards.refusal? factory recipe.displayName
        ((world.under other past).nestingBound recipe) := by
  rw [List.mem_append, not_or] at idle
  have above := refusal?_under idle.1 world.guards recipe.displayName (world.nestingBound recipe)
  have below := refusal?_under idle.2 world.guards recipe.displayName (world.nestingBound recipe)
  exact above.trans below.symm

section Productions

variable {factory : FactoryId} {recipe : RecipeFactory app} (unready : recipe.ready? = none)

include unready

theorem produceByRecipe_grown {world after : World app} {outcome : Except BeanFailure (Object app.Content)}
    (produced : produceByRecipe code handle factory recipe world = some (outcome, after)) :
    Grown world after := by
  cases refusal : world.guards.refusal? factory recipe.displayName (world.nestingBound recipe) with
  | some error =>
    rw [produceByRecipe_refused unready refusal] at produced
    cases produced
    exact ⟨List.suffix_cons _ _, rfl⟩
  | none =>
    rw [produceByRecipe_attempt unready refusal] at produced
    obtain ⟨⟨made, now⟩, attempted, ended⟩ := Option.bind_eq_some_iff.mp produced
    cases ended
    have follows : Follows outer other past (attempt code handle factory recipe world.guards.depth) :=
      attempt_follows handled factory recipe _
    have grown := follows.grows attempted
    refine ⟨((List.suffix_cons _ _).trans grown.journal).trans (List.suffix_cons _ _), ?_⟩
    exact congrArg List.tail grown.producing

theorem produceByRecipe_alike {world after : World app} {outcome : Except BeanFailure (Object app.Content)}
    (produced : produceByRecipe code handle factory recipe (world.under outer past) = some (outcome, after))
    (spares : Spares (outer ++ other) (world.under outer past) after) :
    ∃ last : World app, after = last.under outer past ∧
      produceByRecipe code handle factory recipe (world.under other past) =
        some (outcome, last.under other past) := by
  cases refusal : (world.under outer past).guards.refusal? factory recipe.displayName
      ((world.under outer past).nestingBound recipe) with
  | some error =>
    rw [produceByRecipe_refused unready refusal] at produced
    cases produced
    have idle := spares.idle List.suffix_rfl rfl
    rw [refusal?_alike idle] at refusal
    exact ⟨world.refuse factory, rfl, produceByRecipe_refused unready refusal⟩
  | none =>
    rw [produceByRecipe_attempt unready refusal] at produced
    obtain ⟨⟨made, now⟩, attempted, ended⟩ := Option.bind_eq_some_iff.mp produced
    cases ended
    have follows : Follows outer other past (attempt code handle factory recipe world.guards.depth) :=
      attempt_follows handled factory recipe _
    have grown := follows.grows attempted
    have idle := spares.idle (grown.journal.trans (List.suffix_cons _ _)) rfl
    rw [refusal?_alike idle] at refusal
    have opening : (world.under outer past).journal <:+ ((world.enter factory).under outer past).journal :=
      List.suffix_cons _ _
    have closing : now.journal <:+ (now.leave factory made.isOk).journal := List.suffix_cons _ _
    have within : Spares (outer ++ other) ((world.enter factory).under outer past) now :=
      ((spares.split opening (grown.journal.trans closing)).2.split grown.journal closing).1
    have inside : attempt code handle factory recipe world.guards.depth
        ((world.enter factory).under outer past) =
        some (made, now) := attempted
    obtain ⟨last, rfl, alike⟩ := follows.alike inside within
    have producing : last.guards.producing = factory :: world.guards.producing :=
      List.append_cancel_right grown.producing
    refine ⟨last.leave factory made.isOk, leave_under producing outer past _, ?_⟩
    rw [produceByRecipe_attempt unready refusal, ← leave_under producing other past]
    exact Option.bind_eq_some_iff.mpr ⟨_, alike, rfl⟩

end Productions

theorem produceByRecipe_follows (factory : FactoryId) (recipe : RecipeFactory app) :
    Follows outer other past (produceByRecipe code handle factory recipe) := by
  cases ready : recipe.ready? with
  | some bean =>
    simp only [produceByRecipe, ready]
    exact .pure _
  | none => exact ⟨produceByRecipe_grown handled ready, produceByRecipe_alike handled ready⟩

theorem produce_follows (factory : FactoryId) : Follows outer other past (produce code handle factory) := by
  refine .look (fun _ => rfl) fun world => ?_
  cases world.factory? factory with
  | none => exact .pure _
  | some known =>
    cases known with
    | recipe recipe => exact produceByRecipe_follows handled factory recipe
    | custom custom => exact script_follows handled _

theorem resolve_follows (registry : RegistryId) (name : String) :
    Follows outer other past (resolve code handle registry name) := by
  refine .look (fun _ => rfl) fun world => ?_
  cases (world.registry registry).factory? name with
  | none => exact .pure _
  | some factory =>
    refine (produce_follows handled factory).bind fun outcome => ?_
    cases outcome <;> exact .pure _

theorem register_follows (declarations : Declarations) (name : String) (factory : FactoryId) :
    Follows outer other past (register code handle declarations name factory) := by
  unfold register
  cases declarations.admits name with
  | error fault => exact .pure _
  | ok _ =>
    refine Follows.bind (tellName_follows handled factory name).discard fun _ => ?_
    refine .look (fun _ => rfl) fun world => ?_
    exact Follows.bind (.note fun _ => rfl) fun _ => .pure _

theorem introduce_follows (registry : RegistryId) (beans : List (String × FactoryId)) :
    Follows outer other past (introduce code handle registry beans) := by
  induction beans with
  | nil => exact .pure ()
  | cons bean rest ih =>
    refine Follows.bind (tellName_follows handled bean.2 bean.1).discard fun _ => ?_
    exact Follows.bind (tellRegistry_follows handled bean.2 registry).discard fun _ => ih

theorem loadEagerly_follows (registry : RegistryId) (names : List String) :
    Follows outer other past (loadEagerly code handle registry names) := by
  induction names with
  | nil => exact .pure _
  | cons name rest ih =>
    refine (resolve_follows handled registry name).bind fun outcome => ?_
    cases outcome with
    | error error => exact .pure _
    | ok _ =>
      refine .look (fun _ => rfl) fun world => ?_
      match isSingletonNamed world registry name with
      | .error error => exact .pure _
      | .ok false => exact .pure _
      | .ok true => exact ih

omit handled in
theorem noteAliases_follows (aliases : List Alias) :
    Follows outer other past (aliases.forM fun resolved => Eval.note
      (.aliased resolved) : Eval app Unit) := by
  induction aliases with
  | nil => exact .pure ()
  | cons resolved rest ih => exact Follows.bind (.note fun _ => rfl) fun _ => ih

theorem build_follows (declarations : Declarations) :
    Follows outer other past (build code handle declarations) := by
  unfold build
  cases declarations.registry with
  | error fault => exact .pure _
  | ok registry =>
    refine Follows.bind (.change (fun _ _ => rfl) (fun _ _ => rfl) fun _ => ⟨List.suffix_rfl, rfl⟩)
      fun identity => ?_
    refine (introduce_follows handled identity declarations.beans).bind fun _ => ?_
    refine (noteAliases_follows registry.aliases).bind fun _ => ?_
    refine Follows.bind (.change (fun _ _ => rfl) (fun _ _ => rfl) fun _ => ⟨List.suffix_cons _ _, rfl⟩)
      fun owner => ?_
    refine (loadEagerly_follows handled identity declarations.eager).bind fun loaded => ?_
    cases loaded with
    | error error =>
      exact Follows.bind (.modify (fun _ _ => rfl) fun _ => ⟨List.suffix_cons _ _, rfl⟩) fun _ => .pure _
    | ok _ => exact Follows.bind (.note fun _ => rfl) fun _ => .pure _

section Chains

variable {passage : Passage app} {rest : Eval app (Outcome app)} (continued : Follows outer other past rest)

include continued

theorem runHook_follows (position : Nat) (script : HookScript app Result) :
    Follows outer other past (runHook handle passage position rest script) := by
  refine Follows.bind (.note fun _ => rfl) fun _ => ?_
  refine (hook_follows handled continued script).bind fun result => ?_
  exact Follows.bind (.note fun _ => rfl) fun _ => .pure _

theorem invokeAdvice_follows (position : Nat) (advice : Advice app.Hook) :
    Follows outer other past (invokeAdvice code handle passage position rest advice) := by
  have hooked {Result : Type} (script : HookScript app Result) :
      Follows outer other past (runHook handle passage position rest script) :=
    runHook_follows handled continued position script
  cases advice with
  | before hook =>
    refine (hooked _).bind fun verdict => ?_
    cases verdict with
    | error failure => exact .pure _
    | ok _ => exact continued
  | afterReturning hook =>
    refine continued.bind fun outcome => ?_
    cases outcome with
    | error failure => exact .pure _
    | ok result =>
      refine (hooked _).bind fun verdict => ?_
      cases verdict <;> exact .pure _
  | afterThrowing hook =>
    refine continued.bind fun outcome => ?_
    cases outcome with
    | ok result => exact .pure _
    | error failure =>
      refine (hooked _).bind fun verdict => ?_
      cases verdict with
      | error other => exact .pure _
      | ok result => exact Follows.bind (.note fun _ => rfl) fun _ => .pure _
  | afterFinally hook =>
    refine continued.bind fun outcome => ?_
    exact (hooked _).bind fun _ => .pure _
  | interceptor hook => exact hook_follows handled continued _

omit continued handled in
theorem enclosed_follows {body : Eval app (Outcome app)} (position : Nat) (isTarget : Bool)
    (follows : Follows outer other past body) : Follows outer other past (do
      openPosition passage position isTarget
      let outcome ← body
      closePosition passage position outcome
      pure outcome) := by
  have opens : Follows outer other past
      (modify fun world => world.opened passage position isTarget : Eval app Unit) :=
    .modify (fun _ _ => rfl) fun _ => ⟨List.suffix_cons _ _, rfl⟩
  refine Follows.bind opens fun _ => ?_
  refine follows.bind fun outcome => ?_
  exact Follows.bind (.note fun _ => rfl) fun _ => .pure _

end Chains

theorem proceedAt_follows (passage : Passage app) (position : Nat) :
    Follows outer other past (proceedAt code handle passage position) := by
  have continued := handled (.proceed passage (position + 1))
  unfold proceedAt
  cases passage.advices[position]? with
  | some advice =>
    exact enclosed_follows position false (invokeAdvice_follows handled continued position advice)
  | none =>
    dsimp only
    split
    · exact enclosed_follows position true (hook_follows handled continued _)
    · exact .pure _

theorem driveChain_follows (chain : ChainId) : Follows outer other past (driveChain handle chain) := by
  refine .look (fun _ => rfl) fun world => ?_
  generalize (world.chain? chain).getD { chain := Chain.empty, progress := .created } = cell
  dsimp only
  cases cell.chain.start chain cell.progress with
  | error error => exact .pure _
  | ok passage =>
    refine (handled (.proceed passage 0)).bind fun outcome => ?_
    refine Follows.bind (.modify (fun _ _ => rfl) fun _ => ⟨List.suffix_rfl, rfl⟩) fun _ => ?_
    exact Follows.bind (.note fun _ => rfl) fun _ => .pure _

omit handled in
theorem granted_follows {asks : World app → Bool} {registry : RegistryId} {given : Owner → Result}
    {none : Result}
    (same : ∀ (outer : List FactoryId) (world : World app), asks (world.under outer past) = asks world) :
    Follows outer other past fun world : World app =>
      some (if asks world then (given (world.grant registry).1, (world.grant registry).2) else
        (none, world)) := by
  have branches : (fun world : World app =>
      some (if asks world then (given (world.grant registry).1, (world.grant registry).2) else
        (none, world))) =
      (do
        if asks (← get) then modifyGet fun world => (given (world.grant registry).1, (world.grant registry).2)
        else pure none : Eval app Result) := by
    funext world
    rw [Eval.get_bind]
    cases asks world <;> rfl
  rw [branches]
  refine .look (fun world => by simp only [same]) fun world => ?_
  cases asks world with
  | false => exact .pure none
  | true => exact .change (fun _ _ => rfl) (fun _ _ => rfl) fun _ => ⟨List.suffix_cons _ _, rfl⟩

theorem carryOut_follows (operation : Operation app) :
    Follows outer other past (carryOut code handle operation) := by
  have told {Result : Type} (answer : World app → Result)
      (same : ∀ (outer : List FactoryId) (world : World app), answer (world.under outer past) =
        answer world) :
      Follows outer other past (fun world => some (answer world, world)) :=
    .change same (fun _ _ => rfl) Grown.refl
  cases operation with
  | emit event => exact .note fun _ => rfl
  | readMemory => exact told World.memory fun _ _ => rfl
  | writeMemory memory => exact .modify (fun _ _ => rfl) fun _ => ⟨List.suffix_rfl, rfl⟩
  | newObject content => exact .change (fun _ _ => rfl) (fun _ _ => rfl) fun _ => ⟨List.suffix_rfl, rfl⟩
  | newFactory scope recipe => exact .change (fun _ _ => rfl) (fun _ _ => rfl) fun _ => ⟨List.suffix_rfl, rfl⟩
  | newCustomFactory custom => exact .change (fun _ _ => rfl) (fun _ _ => rfl) fun _ => ⟨List.suffix_rfl, rfl⟩
  | inspectFactory factory => exact told (·.factory? factory) fun _ _ => rfl
  | produce factory => exact produce_follows handled factory
  | tellName factory name => exact tellName_follows handled factory name
  | tellRegistry factory registry => exact tellRegistry_follows handled factory registry
  | register declarations name factory => exact register_follows handled declarations name factory
  | build declarations => exact build_follows handled declarations
  | inspectRegistry registry => exact told (·.registry registry) fun _ _ => rfl
  | resolve registry name => exact resolve_follows handled registry name
  | isSingleton registry name => exact told (isSingletonNamed · registry name) fun _ _ => rfl
  | isActive registry => exact told (·.isActive registry) fun _ _ => rfl
  | acquire registry =>
    have acquires : Follows outer other past fun world : World app => some (if world.isActive registry then
        (some (world.grant registry).1, (world.grant registry).2) else (none, world)) :=
      granted_follows fun _ _ => rfl
    exact acquires
  | share owner =>
    have shares : Follows outer other past fun world : World app => some (if world.isHeld owner then
        (id (world.grant owner.registry).1, (world.grant owner.registry).2) else (owner, world)) :=
      granted_follows fun _ _ => rfl
    exact shares
  | release owner => exact .modify (fun _ _ => rfl) fun _ => ⟨List.suffix_cons _ _, rfl⟩
  | newChain chain => exact .change (fun _ _ => rfl) (fun _ _ => rfl) fun _ => ⟨List.suffix_rfl, rfl⟩
  | configureChain chain settings => exact .modify (fun _ _ => rfl) fun _ => ⟨List.suffix_rfl, rfl⟩
  | inspectChain chain => exact told (·.chain? chain) fun _ _ => rfl
  | driveChain chain => exact driveChain_follows handled chain

end Rules

section Runs

variable (outer other : List FactoryId) (past : List (Step app))

theorem serve_follows {handle : Handler app} (code : Code app) (handled : handle.Follows outer other past) :
    (serve code handle).Follows outer other past := by
  intro call
  cases call with
  | request operation => exact carryOut_follows handled operation
  | proceed passage position => exact proceedAt_follows handled passage position

theorem perform_follows (code : Code app) (budget : Nat) :
    (perform code budget).Follows outer other past := by
  induction budget with
  | zero => exact fun call => ⟨nofun, nofun⟩
  | succ budget ih =>
    rw [perform_succ]
    exact serve_follows outer other past code ih

theorem unbounded_follows (code : Code app) : (unbounded code).Follows outer other past := by
  refine fun call => ⟨fun answered => ?_, fun answered spares => ?_⟩
  · obtain ⟨budget, performed⟩ := unbounded_eq_some_iff.mp answered
    exact (perform_follows outer other past code budget call).grows performed
  · obtain ⟨budget, performed⟩ := unbounded_eq_some_iff.mp answered
    obtain ⟨last, same, alike⟩ := (perform_follows outer other past code budget call).alike performed spares
    exact ⟨last, same, unbounded_eq_some_iff.mpr ⟨budget, alike⟩⟩

end Runs

def World.Beside (world twin : World app) : Prop :=
  ∃ (outer other : List FactoryId) (past : List (Step app)) (own : World app),
    world = own.under outer past ∧ twin = own.under other past

-- The world as it would be if no factory was producing; a pending depth stays.
def World.alone (world : World app) : World app :=
  world.withGuards { world.guards with producing := [] }

section Alone

variable {Result : Type} {code : Code app} {script : Script app Result} {world after : World app}
  {result : Result}

theorem script_alone (ran : (unbounded code).script script world = some (result, after))
    (spares : Spares world.guards.producing world after) :
    ∃ last, (unbounded code).script script world.alone = some (result, last) ∧ after.Beside last := by
  let own : World app := { world with guards := ⟨[], world.guards.pendingDepth⟩, journal := [] }
  have follows := script_follows (unbounded_follows world.guards.producing [] world.journal code) script
  have started : (unbounded code).script script (own.under world.guards.producing world.journal) =
    some (result, after) := ran
  have spared : Spares (world.guards.producing ++ [])
      (own.under world.guards.producing world.journal) after := by
    rw [List.append_nil]
    exact spares
  obtain ⟨last, rfl, alike⟩ := follows.alike started spared
  exact ⟨_, alike, _, _, _, last, rfl, rfl⟩

theorem script_beside (ran : (unbounded code).script script world.alone = some (result, after))
    (spares : Spares world.guards.producing world.alone after) :
    ∃ last, (unbounded code).script script world = some (result, last) ∧ after.Beside last := by
  let own : World app := { world with guards := ⟨[], world.guards.pendingDepth⟩, journal := [] }
  have follows := script_follows (unbounded_follows [] world.guards.producing world.journal code) script
  have started : (unbounded code).script script (own.under [] world.journal) = some (result, after) := ran
  obtain ⟨last, rfl, alike⟩ := follows.alike started spares
  exact ⟨_, alike, _, _, _, last, rfl, rfl⟩

end Alone

end BeanRegistry
