import BeanRegistry.Proofs.Factory.Bystanders
import BeanRegistry.Proofs.Registry.Built

set_option autoImplicit false

namespace BeanRegistry

variable {app : Application} {code : Code app}

inductive Handler.Asks (handle : Handler app) {Result : Type} :
    Script app Result → World app → Operation app → World app → Prop where
  | here {operation : Operation app} {next : operation.Answer → Script app Result} (world : World app) :
      Asks handle (.ask operation next) world operation world
  | later {operation asked : Operation app} {next : operation.Answer → Script app Result}
      {answer : operation.Answer} {world middle now : World app}
      (answered : handle (.request operation) world = some (answer, middle))
      (rest : Asks handle (next answer) middle asked now) : Asks handle (.ask operation next) world asked now

def Engaged (before after : World app) : Prop :=
  ∃ steps, after.journal = steps ++ before.journal ∧ ∃ step ∈ steps, step.production?.isSome

-- A pending depth is claimed as soon as a factory takes a step.
def Lingers (before after : World app) : Prop :=
  Undisturbed before after ∧ (after.guards.pendingDepth = none ∨
    after.guards.pendingDepth = before.guards.pendingDepth ∧ ¬ Engaged before after)

namespace Lingers

variable {before middle after : World app}

theorem of_quiet (quiet : Quiet before after) : Lingers before after := by
  refine ⟨quiet.undisturbed, .inr ⟨congrArg Guards.pendingDepth quiet.guards, ?_⟩⟩
  obtain ⟨steps, journal, unproductive⟩ := quiet.journal
  rintro ⟨same, grown, step, member, productive⟩
  obtain rfl : steps = same := List.append_cancel_right (journal.symm.trans grown)
  simp [unproductive step member] at productive

theorem refl (world : World app) : Lingers world world :=
  .of_quiet (PlainMove.stay world).quiet

theorem trans (first : Lingers before middle) (rest : Lingers middle after) : Lingers before after := by
  obtain ⟨undisturbed, claimed | ⟨same, idle⟩⟩ := first <;> obtain ⟨later, none | ⟨still, quiet⟩⟩ := rest
  · exact ⟨undisturbed.trans later, .inl none⟩
  · exact ⟨undisturbed.trans later, .inl (still.trans claimed)⟩
  · exact ⟨undisturbed.trans later, .inl none⟩
  · refine ⟨undisturbed.trans later, .inr ⟨still.trans same, ?_⟩⟩
    obtain ⟨⟨early, before_passing⟩, _⟩ := undisturbed
    obtain ⟨⟨late, passing⟩, _⟩ := later
    rintro ⟨steps, grown, step, member, productive⟩
    obtain rfl : steps = late ++ early := by
      rw [passing.journal, before_passing.journal, ← List.append_assoc] at grown
      exact (List.append_cancel_right grown).symm
    rcases List.mem_append.mp member with member | member
    · exact quiet ⟨late, passing.journal, step, member, productive⟩
    · exact idle ⟨early, before_passing.journal, step, member, productive⟩

theorem claimed (lingers : Lingers before after) (free : before.guards.pendingDepth = none) :
    after.guards.pendingDepth = none := by
  obtain ⟨_, claimed | ⟨same, _⟩⟩ := lingers
  · exact claimed
  · exact same.trans free

end Lingers

theorem lingers_keeps (code : Code app) : code.Keeps Lingers := by
  refine .of_produced code Lingers.trans (fun move => .of_quiet move.quiet)
    (fun move => .of_quiet move.quiet) ?_
  intro handle handled _ factory recipe world after outcome known produced
  have found := World.recipeFactory?_eq_some_iff.mpr known
  have keeps : handle.Keeps Undisturbed := fun call before after answer answered =>
    (handled call before after answer answered).1
  have whole := produceByRecipe_produced keeps found produced
  have undisturbed := whole.undisturbed found
  cases whole with
  | ready _ => exact .refl world
  | refused _ _ => exact ⟨undisturbed, .inl rfl⟩
  | failed _ _ _ _ _ claimed => exact ⟨undisturbed, .inl claimed⟩
  | created _ _ _ _ _ claimed => exact ⟨undisturbed, .inl claimed⟩

section Scripts

variable {Result : Type} {script : Script app Result} {world now : World app}

theorem Handler.Asks.lingers {operation : Operation app}
    (asks : (unbounded code).Asks script world operation now) : Lingers world now := by
  induction asks with
  | here world => exact .refl world
  | later answered _ ih => exact ((lingers_keeps code).unbounded_keeps _ _ _ _ answered).trans ih

theorem script_lingers {result : Result} (ran : (unbounded code).script script world = some (result, now)) :
    Lingers world now :=
  Discipline.script_holds (lingers_keeps code).careful
    ((lingers_keeps code).unbounded_keeps.handles Lingers.trans).answers script world result now ran

end Scripts

namespace World

def creating (world : World app) (factory : FactoryId) : World app :=
  (world.enter factory).note (.creating factory (world.enter factory).guards)

def followingUp (world : World app) (factory : FactoryId) : World app :=
  world.note (.followingUp factory world.guards)

def outside (world : World app) : World app :=
  world.withGuards Guards.empty

theorem alone_eq_outside {world : World app} (claimed : world.guards.pendingDepth = none) :
    world.alone = world.outside := by
  simp [alone, outside, Guards.empty, claimed]

end World

-- In the code of a custom factory that is unwrapped, some factory has taken a step before.
inductive Midway (code : Code app) : Operation app → World app → Prop where
  | creator {factory : FactoryId} {recipe : RecipeFactory app} {world now : World app}
      {operation : Operation app}
      (asks : (unbounded code).Asks (code.create recipe.recipe recipe.creation) (world.creating factory)
        operation now) : Midway code operation now
  | hook {factory : FactoryId} {recipe : RecipeFactory app} {product : Product app}
      {world made now : World app} {operation : Operation app}
      (created : (unbounded code).script (code.create recipe.recipe recipe.creation)
        (world.creating factory) =
        some (.ok product, made))
      (asks : (unbounded code).Asks (code.followUp recipe.recipe product recipe.creation)
        (made.followingUp factory) operation now) : Midway code operation now
  | body {factory nested : FactoryId} {depth : Nat} {custom : CustomFactory app} {world now : World app}
      {operation : Operation app} (known : world.factory? nested = some (.custom custom))
      (asks : (unbounded code).Asks (code.produce custom.code)
        (world.unwrapping factory nested depth) operation now)
      (engaged : Engaged (world.unwrapping factory nested depth) now) : Midway code operation now
  | deeper {custom : CustomFactory app} {factory : FactoryId} {world now : World app}
      {operation : Operation app}
      (midway : Midway code (.produce factory) world) (known : world.factory? factory = some (.custom custom))
      (asks : (unbounded code).Asks (code.produce custom.code) world operation now) :
      Midway code operation now

theorem Midway.claimed {operation : Operation app} {now : World app} (midway : Midway code operation now) :
    now.guards.pendingDepth = none := by
  induction midway with
  | creator asks => exact asks.lingers.claimed rfl
  | hook created asks => exact asks.lingers.claimed ((script_lingers created).claimed rfl)
  | body known asks engaged =>
    obtain ⟨_, claimed | ⟨_, idle⟩⟩ := asks.lingers
    · exact claimed
    · exact absurd engaged idle
  | deeper _ _ asks ih => exact asks.lingers.claimed ih

def resolveEach (registry : RegistryId) :
    List String → Script app (List (Except BeanFailure (Object app.Content)))
  | [] => pure []
  | name :: rest => do
    let outcome ← Script.resolve registry name
    let outcomes ← resolveEach registry rest
    pure (outcome :: outcomes)

def Independent (code : Code app) (registry : RegistryId) (names : List String) (succeeds : String → Bool)
    (world : World app) : Prop :=
  ∀ {earlier name later middle outcome after}, (earlier ++ name :: later).Perm names →
    resolveAll code registry earlier world = some ((), middle) →
      unbounded code (.request (.resolve registry name)) middle = some (outcome, after) →
        outcome.isOk = succeeds name

section Sequences

variable {registry : RegistryId}

theorem resolveAll_append (names rest : List String) :
    resolveAll code registry (names ++ rest) =
      resolveAll code registry names >>= fun _ => resolveAll code registry rest := by
  induction names with
  | nil => rfl
  | cons name names ih =>
    rw [List.cons_append, resolveAll, resolveAll, ih, bind_assoc]

theorem script_resolve_eq (name : String) (world : World app) :
    (unbounded code).script (Script.resolve registry name) world =
      unbounded code (.request (.resolve registry name)) world :=
  (unbounded code).script_request (.resolve registry name) world

theorem script_resolveEach_cons {name : String} {rest : List String} {world after : World app}
    {outcomes : List (Except BeanFailure (Object app.Content))}
    (ran : (unbounded code).script (resolveEach registry (name :: rest)) world = some (outcomes, after)) :
    ∃ outcome middle others, unbounded code (.request (.resolve registry name)) world =
      some (outcome, middle) ∧
      (unbounded code).script (resolveEach registry rest) middle = some (others, after) ∧
        outcomes = outcome :: others := by
  rw [resolveEach, Handler.script_bind, script_resolve_eq, Option.bind_eq_some_iff] at ran
  obtain ⟨⟨outcome, middle⟩, resolved, ran⟩ := ran
  rw [Handler.script_bind, Option.bind_eq_some_iff] at ran
  obtain ⟨⟨others, last⟩, rest_ran, ended⟩ := ran
  cases ended
  exact ⟨outcome, middle, others, resolved, rest_ran, rfl⟩

theorem Independent.outcomes {names later earlier : List String} {succeeds : String → Bool}
    {world middle after : World app} {outcomes : List (Except BeanFailure (Object app.Content))}
    (independent : Independent code registry names succeeds world)
    (order : (earlier ++ later).Perm names) (resolved : resolveAll code registry earlier world =
      some ((), middle))
    (ran : (unbounded code).script (resolveEach registry later) middle = some (outcomes, after)) :
    outcomes.map Except.isOk = later.map succeeds := by
  induction later generalizing earlier middle outcomes with
  | nil =>
    cases ran
    rfl
  | cons name rest ih =>
    obtain ⟨outcome, next, others, answered, rest_ran, rfl⟩ := script_resolveEach_cons ran
    have further : resolveAll code registry (earlier ++ [name]) world = some ((), next) := by
      rw [resolveAll_append, Eval.bind_apply, resolved, Option.bind_some, resolveAll, Eval.bind_apply,
        discard_eq answered]
      rfl
    rw [List.map_cons, List.map_cons, independent order resolved answered]
    rw [List.append_cons] at order
    rw [ih order further rest_ran]

end Sequences

def ResolvesAfresh (code : Code app) (registry : RegistryId) (name : String) (now : World app) : Prop :=
  let resolves := unbounded code (.request (.resolve registry name))
  (∀ {outcome after}, resolves now = some (outcome, after) → Spares now.guards.producing now after →
    ∃ last, resolves now.outside = some (outcome, last) ∧ after.Beside last) ∧
  ∀ {outcome after}, resolves now.outside = some (outcome, after) →
    Spares now.guards.producing now.outside after →
    ∃ last, resolves now = some (outcome, last) ∧ after.Beside last

theorem resolvesAfresh_of_claimed {registry : RegistryId} {name : String} {now : World app}
    (claimed : now.guards.pendingDepth = none) : ResolvesAfresh code registry name now := by
  constructor
  · intro outcome after resolved spares
    rw [← script_resolve_eq] at resolved ⊢
    rw [← World.alone_eq_outside claimed]
    exact script_alone resolved spares
  · intro outcome after resolved spares
    rw [← script_resolve_eq] at resolved ⊢
    rw [← World.alone_eq_outside claimed] at resolved spares
    exact script_beside resolved spares

theorem resolvable_resolves {declarations : Declarations} {needs : FactoryId → List String}
    {world built : World app} {owner : Owner} (unlearned : declarations.Unlearned needs world)
    (assembles : ∀ {name factory recipe}, (name, factory) ∈ declarations.beans →
      world.recipeFactory? factory = some recipe → code.Assembles recipe.recipe (needs factory))
    (building : unbounded code (.request (.build declarations)) world = some (.ok owner, built)) :
    ∃ described, declarations.registry = .ok described ∧ ∀ earlier : List String, ∃ now,
      resolveAll code owner.registry earlier built = some ((), now) ∧
      ∀ name, described.Resolvable needs name →
        ∃ bean after, unbounded code (.request (.resolve owner.registry name)) now =
          some (.ok bean, after) := by
  rw [unbounded_request] at building
  obtain ⟨site, same, _, of, owners, standing⟩ := build_standing unlearned assembles building
  obtain rfl := of.needs
  refine ⟨site.registry, of.described, fun earlier => ?_⟩
  rw [← same]
  obtain ⟨_, now, resolved, stands⟩ := resolveAll_gives of.sound earlier standing
  refine ⟨now, resolved, fun name resolvable => ?_⟩
  obtain ⟨outcome, after, answered, _, answers⟩ := resolve_walk of.sound stands name
  rw [← unbounded_resolve] at answered
  have ok := answers.isOk_iff.mpr ((Registry.firstObstacle_eq_none_iff name).mpr resolvable)
  cases outcome with
  | error error => cases ok
  | ok bean => exact ⟨bean, after, answered⟩

theorem resolving_starts_over (code : Code app) :
    (∀ {registry name now}, Midway code (.resolve registry name) now →
      ResolvesAfresh code registry name now) ∧
    (∀ {registry names succeeds} {now : World app}, now.guards.pendingDepth = none →
      Independent code registry names succeeds now.outside → ∀ {others outcomes after}, others.Perm names →
        (unbounded code).script (resolveEach registry others) now = some (outcomes, after) →
          Spares now.guards.producing now after → outcomes.map Except.isOk = others.map succeeds) ∧
    (∀ {declarations needs world built owner}, declarations.Unlearned needs world →
      (∀ {name factory recipe}, (name, factory) ∈ declarations.beans →
        world.recipeFactory? factory = some recipe → code.Assembles recipe.recipe (needs factory)) →
      unbounded code (.request (.build declarations)) world = some (.ok owner, built) →
        ∃ described, declarations.registry = .ok described ∧ ∀ earlier : List String, ∃ now,
          resolveAll code owner.registry earlier built = some ((), now) ∧
            ∀ name, described.Resolvable needs name → ∃ bean after,
              unbounded code (.request (.resolve owner.registry name)) now = some (.ok bean, after)) := by
  refine ⟨fun midway => resolvesAfresh_of_claimed midway.claimed, ?_, resolvable_resolves⟩
  intro registry names succeeds now claimed independent others outcomes after order ran spares
  obtain ⟨last, ran, _⟩ := script_alone ran spares
  rw [World.alone_eq_outside claimed] at ran
  have whole : ([] ++ others).Perm names := order
  exact independent.outcomes whole rfl ran

namespace Sample

abbrev tours : Application where
  Content := Unit
  Event := Empty
  Memory := Unit
  Recipe := Option FactoryId
  Custom := List String
  Hook := Empty

def guide : Code tours where
  create recipe _ := do
    match recipe with
    | some nested => pure (.ok (.factory nested))
    | none =>
      let bean ← Script.newObject ()
      pure (.ok (.bean bean))
  followUp _ _ _ := pure (.ok ())
  produce names := do
    let outcomes ← resolveEach ⟨0⟩ names
    pure (outcomes.getLast?.getD (.error (.notFound "")))
  nameTold _ _ := pure ()
  registryTold _ _ := pure ()
  before hook _ := nomatch hook
  afterReturning hook _ _ := nomatch hook
  afterThrowing hook _ _ := nomatch hook
  afterFinally hook _ := nomatch hook
  around hook _ := nomatch hook
  target hook _ := nomatch hook

-- A tour is what its guide finds; no factory may be unwrapped inside another one.
def town (stops : List String) : World tours :=
  let enlisted (name : String) (recipe : Option FactoryId) : Factory tours :=
    .recipe { RecipeFactory.ofRecipe .singleton recipe with name := some name, registry := some ⟨0⟩ }
  let names := [("tour", ⟨0⟩), ("tower", ⟨2⟩), ("market", ⟨3⟩)]
  { World.initial () with
    factories := #[enlisted "tour" (some ⟨1⟩), .custom ⟨stops, true, false, false⟩, enlisted "tower" none,
      enlisted "market" none]
    registries :=
      #[⟨{ Registry.empty with names := names.map Prod.fst, table := names, nestingBound := 1 }, [0]⟩]
    fresh := 1 }

def onTour (stops : List String) : World tours :=
  (((town stops).creating ⟨0⟩).followingUp ⟨0⟩).unwrapping ⟨0⟩ ⟨1⟩ 0

abbrev pastTower : World tours :=
  (onTour ["tower", "market"]).refuse ⟨2⟩

theorem pastTower_midway : Midway guide (.resolve ⟨0⟩ "market") pastTower := by
  have refused : unbounded guide (.request (.resolve ⟨0⟩ "tower")) (onTour ["tower", "market"]) =
      some (.error (.creationFailed "tower" (.bean (.nestingTooDeep "tower" 1))), pastTower) :=
    unbounded_eq_some_iff.mpr ⟨6, rfl⟩
  have known : (((town ["tower", "market"]).creating ⟨0⟩).followingUp ⟨0⟩).factory? ⟨1⟩ =
      some (.custom ⟨["tower", "market"], true, false, false⟩) := rfl
  have asks : (unbounded guide).Asks (guide.produce ["tower", "market"]) (onTour ["tower", "market"])
      (.resolve ⟨0⟩ "market") pastTower := .later refused (.here _)
  exact .body known asks ⟨[.refused ⟨2⟩ _], rfl, _, List.mem_singleton_self _, rfl⟩

theorem sights_independent : Independent guide ⟨0⟩ ["tower", "market"] (fun _ => true) pastTower.outside := by
  intro earlier name later middle outcome after order resolved answered
  have sights (sight : String) (among : sight ∈ earlier ++ name :: later) : sight ∈ ["tower", "market"] :=
    order.mem_iff.mp among
  have few := order.length_eq
  match earlier with
  | [] =>
    have alone : ∀ name ∈ ["tower", "market"],
        (perform guide 6 (.request (.resolve ⟨0⟩ name)) pastTower.outside).any
        (fun answer => answer.1.isOk) = true := by decide +kernel
    obtain ⟨_, _, same, ok⟩ := unbounded_of_any 6 (alone name (sights name (by simp)))
    cases resolved
    rw [answered] at same
    cases same
    exact ok
  | [first] =>
    have both : ∀ first ∈ ["tower", "market"], ∀ name ∈ ["tower", "market"],
        (perform guide 6 (.request (.resolve ⟨0⟩ first)) pastTower.outside).any (fun answer =>
          (perform guide 6 (.request (.resolve ⟨0⟩ name)) answer.2).any fun other => other.1.isOk) =
            true := by
      decide +kernel
    have runs := both first (sights first (by simp)) name (sights name (by simp))
    obtain ⟨_, between, starts, checked⟩ := unbounded_of_any 6 runs
    obtain ⟨_, _, same, ok⟩ := unbounded_of_any 6 checked
    rw [resolveAll, Eval.bind_apply, discard_eq starts] at resolved
    cases resolved
    rw [answered] at same
    cases same
    exact ok
  | first :: second :: rest => simp at few

theorem spares_of_drop {app : Application} {factories : List FactoryId}
    {before after : World app} (count : Nat) (older : after.journal.drop count = before.journal)
    (spared : (after.journal.take count).all fun step => factories.all (step.production? != some ·)) :
    Spares factories before after := by
  refine ⟨after.journal.take count, ?_, fun step member factory among => ?_⟩
  · rw [← older, List.take_append_drop]
  · simpa using List.all_eq_true.mp (List.all_eq_true.mp spared step member) factory among

theorem market_after_tower_starts_over :
    ∃ bean after, unbounded guide (.request (.resolve ⟨0⟩ "market")) pastTower = some (.ok bean, after) ∧
      (∃ last, unbounded guide (.request (.resolve ⟨0⟩ "market")) pastTower.outside = some (.ok bean, last) ∧
        after.Beside last) ∧
      ∀ order ∈ [["tower", "market"], ["market", "tower"]], ∃ outcomes later,
        (unbounded guide).script (resolveEach ⟨0⟩ order) pastTower = some (outcomes, later) ∧
          outcomes.map Except.isOk = [true, true] := by
  obtain ⟨afresh, anyhow, _⟩ := resolving_starts_over guide
  have found : unbounded guide (.request (.resolve ⟨0⟩ "market")) pastTower = some (.ok ⟨1, ()⟩, _) :=
    unbounded_eq_some_iff.mpr ⟨6, rfl⟩
  refine ⟨_, _, found, (afresh pastTower_midway).1 found (spares_of_drop 5 rfl (by decide +kernel)), ?_⟩
  rw [List.forall_mem_cons, List.forall_mem_singleton]
  have onward : pastTower.run guide 6 (resolveEach ⟨0⟩ ["tower", "market"]) = some (_, _) := rfl
  have back : pastTower.run guide 6 (resolveEach ⟨0⟩ ["market", "tower"]) = some (_, _) := rfl
  have swapped : ["market", "tower"].Perm ["tower", "market"] := .swap "tower" "market" []
  exact ⟨⟨_, _, script_of_run onward, anyhow rfl sights_independent (.refl _) (script_of_run onward)
      (spares_of_drop 10 rfl (by decide +kernel))⟩,
    _, _, script_of_run back, anyhow rfl sights_independent swapped (script_of_run back)
      (spares_of_drop 10 rfl (by decide +kernel))⟩

-- Nothing was made yet when the guide asks for its first sight: that one is refused, whichever it is.
theorem first_sight_sinks :
    (∃ error after, unbounded guide (.request (.resolve ⟨0⟩ "tour")) (town ["tower"]) =
      some (.error error, after) ∧ (Failure.bean error).innermost = .bean (.nestingTooDeep "tower" 1) ∧
      (onTour ["tower"]).journal <:+ after.journal) ∧
    (∃ error after bean last, (unbounded guide).Asks (guide.produce ["tower"]) (onTour ["tower"])
        (.resolve ⟨0⟩ "tower") (onTour ["tower"]) ∧
      unbounded guide (.request (.resolve ⟨0⟩ "tower")) (onTour ["tower"]) = some (.error error, after) ∧
      (Failure.bean error).innermost = .bean (.nestingTooDeep "tower" 1) ∧
      Spares (onTour ["tower"]).guards.producing (onTour ["tower"]) after ∧
      unbounded guide (.request (.resolve ⟨0⟩ "tower")) (onTour ["tower"]).outside = some (.ok bean, last)) ∧
    ∀ order ∈ [["tower", "market"], ["market", "tower"]], ∃ outcomes after,
      (unbounded guide).script (resolveEach ⟨0⟩ order) (onTour order) = some (outcomes, after) ∧
        outcomes.map Except.isOk = [false, true] := by
  refine ⟨⟨_, _, unbounded_eq_some_iff.mpr ⟨6, rfl⟩, rfl, ?_⟩, ?_, ?_⟩
  · exact ⟨[.left ⟨0⟩ false _, .refused ⟨2⟩ _], rfl⟩
  · exact ⟨_, _, _, _, .here _, unbounded_eq_some_iff.mpr ⟨6, rfl⟩, rfl,
      spares_of_drop 1 rfl (by decide +kernel), unbounded_eq_some_iff.mpr ⟨6, rfl⟩⟩
  · rw [List.forall_mem_cons, List.forall_mem_singleton]
    have onward : (onTour ["tower", "market"]).run guide 6 (resolveEach ⟨0⟩ ["tower", "market"]) =
        some (_, _) := rfl
    have back : (onTour ["market", "tower"]).run guide 6 (resolveEach ⟨0⟩ ["market", "tower"]) =
        some (_, _) := rfl
    exact ⟨⟨_, _, script_of_run onward, rfl⟩, _, _, script_of_run back, rfl⟩

end Sample

end BeanRegistry
