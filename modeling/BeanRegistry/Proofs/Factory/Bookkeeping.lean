import BeanRegistry.Proofs.Factory.Creation
import BeanRegistry.Proofs.Run.Watched

set_option autoImplicit false

namespace BeanRegistry

variable {app : Application} {code : Code app}

attribute [ext] Guards

def Step.guards? : Step app → Option Guards
  | .refused _ guards | .entered _ guards | .creating _ guards | .followingUp _ guards
  | .unwrapping _ _ guards | .left _ _ guards => some guards
  | _ => none

theorem Step.guards?_eq_none {step : Step app} (unproductive : step.production? = none) :
    step.guards? = none := by
  cases step <;> simp [Step.production?] at unproductive <;> rfl

def underway : List (Step app) → List FactoryId
  | [] => []
  | .entered factory _ :: earlier => factory :: underway earlier
  | .left factory _ _ :: earlier => (underway earlier).erase factory
  | _ :: earlier => underway earlier

theorem underway_append {steps : List (Step app)} (unproductive : ∀ step ∈ steps, step.production? = none)
    (earlier : List (Step app)) : underway (steps ++ earlier) = underway earlier := by
  induction steps with
  | nil => rfl
  | cons step later ih =>
    obtain ⟨quiet, rest⟩ := List.forall_mem_cons.mp unproductive
    rw [← ih rest]
    cases step <;> simp [Step.production?] at quiet <;> rfl

structure Guarded (world : World app) : Prop where
  producing : world.guards.producing = underway world.journal
  distinct : world.guards.producing.Nodup
  recipes : ∀ factory ∈ world.guards.producing, (world.scope? factory).isSome
  -- No depth is pending at any step of a production.
  shown : ∀ {step earlier guards}, step :: earlier <:+ world.journal → step.guards? = some guards →
    guards = ⟨underway (step :: earlier), none⟩ ∧ guards.producing.Nodup

-- The list is as it was, and a pending depth at most was claimed.
def Restored (before after : World app) : Prop :=
  after.guards.producing = before.guards.producing ∧
    (after.guards.pendingDepth = before.guards.pendingDepth ∨ after.guards.pendingDepth = none)

theorem Restored.trans {first middle last : World app} (before : Restored first middle)
    (rest : Restored middle last) : Restored first last := by
  obtain ⟨same, claimed⟩ := before
  obtain ⟨still, pending⟩ := rest
  refine ⟨still.trans same, ?_⟩
  rcases pending with kept | none
  · rwa [kept]
  · exact .inr none

theorem Restored.guards {before after : World app} (restored : Restored before after)
    {producing : List FactoryId} (guards : before.guards = ⟨producing, none⟩) :
    after.guards = ⟨producing, none⟩ := by
  obtain ⟨same, claimed⟩ := restored
  rw [guards] at same claimed
  exact Guards.ext same (claimed.elim id id)

theorem Undisturbed.restored {before after : World app} (undisturbed : Undisturbed before after) :
    Restored before after := by
  obtain ⟨⟨_, passing⟩, claimed⟩ := undisturbed
  exact ⟨passing.producing, claimed⟩

namespace Guarded

theorem initial (memory : app.Memory) : Guarded (World.initial memory) := by
  refine ⟨rfl, List.nodup_nil, nofun, fun shown => ?_⟩
  simp [World.initial] at shown

variable {world after : World app} (guarded : Guarded world)

include guarded

theorem quiet (quiet : Quiet world after) : Guarded after ∧ Restored world after := by
  obtain ⟨steps, journal, unproductive⟩ := quiet.journal
  have producing := congrArg Guards.producing quiet.guards
  refine ⟨⟨?_, ?_, ?_, ?_⟩, producing, .inl (congrArg Guards.pendingDepth quiet.guards)⟩
  · rw [journal, underway_append unproductive, producing]
    exact guarded.producing
  · rw [producing]
    exact guarded.distinct
  · intro factory running
    obtain ⟨scope, known⟩ := Option.isSome_iff_exists.mp (guarded.recipes factory (producing ▸ running))
    simp [quiet.scopes known]
  · rw [journal]
    clear journal
    induction steps with
    | nil => exact guarded.shown
    | cons step later ih =>
      obtain ⟨silent, rest⟩ := List.forall_mem_cons.mp unproductive
      intro other earlier guards among shows
      rcases List.suffix_cons_iff.mp among with same | among
      · cases same
        simp [Step.guards?_eq_none silent] at shows
      · exact ih rest among shows

theorem extend {step : Step app} (journal : after.journal = step :: world.journal)
    (producing : after.guards.producing = underway (step :: world.journal))
    (distinct : after.guards.producing.Nodup)
    (recipes : ∀ factory ∈ after.guards.producing, (after.scope? factory).isSome)
    (shows : ∀ guards, step.guards? = some guards → guards = after.guards ∧ guards.pendingDepth = none) :
    Guarded after := by
  refine ⟨journal ▸ producing, distinct, recipes, ?_⟩
  intro other earlier guards among shown
  rw [journal] at among
  rcases List.suffix_cons_iff.mp among with same | among
  · obtain ⟨rfl, rfl⟩ := List.cons.inj same
    obtain ⟨rfl, none⟩ := shows guards shown
    exact ⟨Guards.ext producing none, distinct⟩
  · exact guarded.shown among shown

theorem enter {factory : FactoryId} (idle : factory ∉ world.guards.producing)
    (known : (world.scope? factory).isSome) : Guarded (world.enter factory) := by
  have same : SameFactories world (world.enter factory) := .of_eq rfl
  refine guarded.extend rfl (congrArg (factory :: ·) guarded.producing)
    (List.nodup_cons.mpr ⟨idle, guarded.distinct⟩) ?_ ?_
  · intro other running
    rcases List.mem_cons.mp running with rfl | running
    · exact known
    · exact guarded.recipes other running
  · rintro _ ⟨⟩
    exact ⟨rfl, rfl⟩

theorem refuse (factory : FactoryId) : Guarded (world.refuse factory) := by
  refine guarded.extend rfl guarded.producing guarded.distinct guarded.recipes ?_
  rintro _ ⟨⟩
  exact ⟨rfl, rfl⟩

theorem withPending (pending : Option Nat) :
    Guarded (world.withGuards { world.guards with pendingDepth := pending }) :=
  ⟨guarded.producing, guarded.distinct, guarded.recipes, guarded.shown⟩

variable {factory : FactoryId} {outer : List FactoryId} (guards : world.guards = ⟨factory :: outer, none⟩)

include guards

theorem leave (succeeded : Bool) : Guarded (world.leave factory succeeded) := by
  have producing := guarded.producing
  have distinct := guarded.distinct
  have recipes := guarded.recipes
  rw [guards] at producing distinct recipes
  have left : (world.leave factory succeeded).guards = ⟨outer, none⟩ := by
    simp [World.leave, World.note, World.withGuards, guards, Guards.pop]
  refine guarded.extend rfl ?_ ?_ ?_ ?_
  · rw [left, underway, ← producing, List.erase_cons_head]
  · rw [left]
    exact (List.nodup_cons.mp distinct).2
  · rw [left]
    exact fun other running => recipes other (List.mem_cons_of_mem factory running)
  · rintro _ ⟨⟩
    exact ⟨rfl, congrArg Guards.pendingDepth left⟩

theorem pipeline (move : PipelineMove factory world after) :
    Guarded after ∧ after.guards = ⟨factory :: outer, none⟩ := by
  have none := congrArg Guards.pendingDepth guards
  have noted {step : Step app} (producing : underway (step :: world.journal) = underway world.journal)
      (shows : ∀ shown, step.guards? = some shown → shown = world.guards) : Guarded (world.note step) := by
    refine guarded.extend rfl (guarded.producing.trans producing.symm) guarded.distinct guarded.recipes ?_
    intro shown shown_by
    obtain rfl := shows shown shown_by
    exact ⟨rfl, none⟩
  cases move with
  | creating => exact ⟨noted rfl (by simp [Step.guards?]), guards⟩
  | followingUp => exact ⟨noted rfl (by simp [Step.guards?]), guards⟩
  | unwrapping nested => exact ⟨noted rfl (by simp [Step.guards?]), guards⟩
  | kept name => exact ⟨noted rfl (by simp [Step.guards?]), guards⟩
  | keep bean =>
    refine ⟨⟨guarded.producing, guarded.distinct, fun other running => ?_, guarded.shown⟩, guards⟩
    rw [World.scope?_mapFactory world factory other (RecipeFactory.keep_scope · bean)]
    exact guarded.recipes other running

end Guarded

section Productions

variable {handle : Bool → Handler app} {factory : FactoryId} {outer : List FactoryId}

abbrev guarding : Discipline app Bool :=
  .watching Guarded Restored Restored.trans

abbrev inside (factory : FactoryId) (outer : List FactoryId) : Discipline app Bool :=
  .watching (fun now => Guarded now ∧ now.guards = ⟨factory :: outer, none⟩) (fun _ _ => True)
    fun _ _ => trivial

theorem inside_of_guarding {Result : Type} {world : World app}
    {evaluation : Bool → Option (Result × World app)} (kept : guarding.Holds world evaluation) :
    (inside factory outer).Holds world evaluation := by
  rintro ⟨guarded, guards⟩
  obtain ⟨same, kept⟩ := kept guarded
  refine ⟨same, fun result after answered => ?_⟩
  obtain ⟨still, restored⟩ := kept result after answered
  exact ⟨⟨still, restored.guards guards⟩, trivial⟩

theorem inside_plain {world after : World app} (move : CarefulMove world after) :
    (inside factory outer).Allows world after := by
  rintro ⟨guarded, guards⟩
  obtain ⟨still, restored⟩ := guarded.quiet move.plain.quiet
  exact ⟨⟨still, restored.guards guards⟩, trivial⟩

theorem inside_pipeline {world after : World app} (move : PipelineMove factory world after) :
    (inside factory outer).Allows world after := by
  rintro ⟨guarded, guards⟩
  exact ⟨guarded.pipeline guards move, trivial⟩

variable (answered : guarding.Answers handle)

include answered

-- The depth is pending only while the nested factory is asked.
theorem unwrap_inside (nested : FactoryId) (depth : Nat) (world : World app) :
    (inside factory outer).Holds world fun watched =>
      unwrap code (handle watched) factory nested depth world := by
  have answers : (inside factory outer).Answers handle :=
    fun operation world => inside_of_guarding (answered operation world)
  refine Discipline.bind _ (Discipline.lendIdentity_holds code inside_plain answers factory nested world)
    fun _ lent => ?_
  refine Discipline.bind _ (Discipline.step _ _ (inside_pipeline (.unwrapping lent nested)))
    fun _ noted => ?_
  rintro ⟨guarded, guards⟩
  let asked := noted.withGuards { noted.guards with pendingDepth := some (depth + 1) }
  obtain ⟨same, kept⟩ := answered (.produce nested) asked (guarded.withPending _)
  have expanded (watched : Bool) :
      (do
        Eval.changeGuards fun guards => { guards with pendingDepth := some (depth + 1) }
        let outcome ← handle watched (.request (.produce nested))
        Eval.changeGuards Guards.claim
        pure outcome : Eval app _) noted =
      (handle watched (.request (.produce nested)) asked).bind fun answer =>
        some (answer.1, answer.2.withGuards answer.2.guards.claim) := rfl
  dsimp only at same ⊢
  rw [expanded true, expanded false, same]
  refine ⟨rfl, fun outcome after left => ?_⟩
  obtain ⟨⟨_, produced⟩, answer, ended⟩ := Option.bind_eq_some_iff.mp left
  cases ended
  obtain ⟨still, restored, _⟩ := kept _ produced answer
  have producing : asked.guards.producing = factory :: outer := congrArg Guards.producing guards
  exact ⟨⟨still.withPending none, Guards.ext (restored.trans producing) rfl⟩, trivial⟩

theorem createBean_inside (outer : List FactoryId) (recipe : RecipeFactory app) (depth : Nat)
    (world : World app) :
    (inside factory outer).Holds world fun watched =>
      createBean code (handle watched) factory recipe depth world :=
  Discipline.createBean_holds code inside_plain
    (fun operation world => inside_of_guarding (answered operation world)) inside_pipeline recipe depth
    (fun nested => unwrap_inside answered nested depth) world

theorem produceByRecipe_guarding (factory : FactoryId) (recipe : RecipeFactory app) (world : World app)
    (known : world.factory? factory = some (.recipe recipe)) :
    guarding.Holds world fun watched => produceByRecipe code (handle watched) factory recipe world := by
  intro guarded
  have stays : Restored world world := ⟨rfl, .inl rfl⟩
  cases ready : recipe.ready? with
  | some bean =>
    simp only [produceByRecipe, ready]
    refine ⟨trivial, fun _ _ same => ?_⟩
    cases same
    exact ⟨guarded, stays⟩
  | none =>
    cases refusal : world.guards.refusal? factory recipe.displayName (world.nestingBound recipe) with
    | some error =>
      simp only [produceByRecipe_refused ready refusal]
      refine ⟨trivial, fun _ _ same => ?_⟩
      cases same
      exact ⟨guarded.refuse factory, rfl, .inr rfl⟩
    | none =>
      have idle := (Guards.refusal?_eq_none_iff.mp refusal).1
      have recipes : (world.scope? factory).isSome := by
        simp [World.scope?, World.recipeFactory?_eq_some_iff.mpr known]
      obtain ⟨same, kept⟩ := createBean_inside answered world.guards.producing recipe
        world.guards.depth (world.enter factory) ⟨guarded.enter idle recipes, rfl⟩
      simp only [produceByRecipe_entered ready refusal]
      dsimp only at same
      rw [same]
      refine ⟨rfl, fun outcome after produced => ?_⟩
      obtain ⟨⟨made, now⟩, created, produced⟩ := Option.bind_eq_some_iff.mp produced
      obtain ⟨⟨still, guards⟩, _⟩ := kept made now created
      have leaving {last : World app} (standing : Guarded last)
          (inside : last.guards = ⟨factory :: world.guards.producing, none⟩) (succeeded : Bool) :
          Guarded (last.leave factory succeeded) ∧ Restored world (last.leave factory succeeded) := by
        refine ⟨standing.leave inside succeeded, ?_, .inr ?_⟩ <;>
          simp [World.leave, World.note, World.withGuards, inside, Guards.pop]
      cases made with
      | error failure =>
        cases produced
        exact leaving still guards false
      | ok bean =>
        obtain ⟨⟨_, last⟩, keeping, ended⟩ := Option.bind_eq_some_iff.mp produced
        cases ended
        have keeps : (inside factory world.guards.producing).Holds now fun _ =>
            keepBean factory bean now :=
          Discipline.keepBean_holds inside_plain inside_pipeline bean now
        obtain ⟨⟨standing, inside⟩, _⟩ := (keeps ⟨still, guards⟩).2 () last keeping
        exact leaving standing inside true

end Productions

theorem guarded_watches (code : Code app) :
    code.Watches Guarded Restored fun _ _ => True :=
  .of_chained Restored.trans (fun move guarded => guarded.quiet move.quiet)
    (fun move guarded => guarded.quiet move.quiet) produceByRecipe_guarding

theorem outermost_settled (code : Code app) (budget : Nat) {Result : Type} (script : Script app Result)
    {world : World app} (settled : world.guards = Guards.empty) :
    ((perform code budget).watched fun now => now.guards = Guards.empty).script script world =
      world.run code budget script := by
  let discipline : Discipline app Bool :=
    .watching (fun now => now.guards = Guards.empty) (fun _ _ => True) fun _ _ => trivial
  let handle (watched : Bool) : Handler app :=
    bif watched then (perform code budget).watched fun now => now.guards = Guards.empty
    else perform code budget
  have answered : discipline.Answers handle := by
    intro operation world before
    have kept (answer : operation.Answer) (after : World app)
        (served : perform code budget (.request operation) world = some (answer, after)) :
        after.guards = Guards.empty :=
      (perform_undisturbed served).restored.guards before
    have same : (perform code budget).watched (fun now => now.guards = Guards.empty) (.request operation)
        world = perform code budget (.request operation) world := Handler.watched_eq before kept
    exact ⟨same, fun answer after served => ⟨kept answer after served, trivial⟩⟩
  have plain {world after : World app} (move : CarefulMove world after) : discipline.Allows world after :=
    fun before => ⟨move.plain.quiet.guards.trans before, trivial⟩
  exact (Discipline.script_holds plain answered script world settled).1

structure Code.KeepsGuards (code : Code app) : Prop where
  restored : ∀ {budget call world after} {answer : Call.Answer call},
    perform code budget call world = some (answer, after) → Restored world after
  refused : ∀ {factory recipe world error}, world.recipeFactory? factory = some recipe →
    recipe.ready? = none →
      world.guards.refusal? factory recipe.displayName (world.nestingBound recipe) = some error →
        ∀ budget, BeanRegistry.produce code (perform code budget) factory world =
          some (.error error, { world with
            guards := world.guards.claim
            journal := .refused factory world.guards.claim :: world.journal })
  circular : ∀ {budget factory recipe world after outcome}, Guarded world →
    world.recipeFactory? factory = some recipe → recipe.ready? = none →
      BeanRegistry.produce code (perform code budget) factory world = some (outcome, after) →
        ((∃ name, outcome = .error (.circularFactory name)) ↔ factory ∈ underway world.journal)

theorem code_keepsGuards (code : Code app) : code.KeepsGuards where
  restored answered := (perform_undisturbed answered).restored
  refused known unready refusal budget := by
    rw [produce_known known, produceByRecipe_refused unready refusal]
    rfl
  circular {budget factory recipe world after outcome} guarded known unready produced := by
    rw [← guarded.producing,
      ← Guards.refusal?_circular_iff _ factory recipe.displayName (world.nestingBound recipe)]
    have answered : perform code (budget + 1) (.request (.produce factory)) world =
      some (outcome, after) := produced
    cases perform_produced known answered with
    | ready ready => simp [unready] at ready
    | refused _ refusal => simp [refusal]
    | failed _ admitted _ _ _ _ => simp [admitted]
    | created _ admitted _ _ _ _ => simp [admitted]

-- Resolves a bean that asks for itself.
def Sample.enterMaze : Script Sample.app (Except BeanFailure (Object Unit)) := do
  let maze ← Script.newFactory .singleton ["maze"]
  let declared : Declarations := Declarations.empty.withBean "maze" maze
  match ← Script.request (.build declared) with
  | .error error => pure (.error error)
  | .ok owner => Script.resolve owner.registry "maze"

end BeanRegistry
