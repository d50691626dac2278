import BeanRegistry.Proofs.Factory.Bookkeeping
import BeanRegistry.Proofs.Run.Persistence

set_option autoImplicit false

namespace BeanRegistry

variable {app : Application} {code : Code app}

def Step.work? : Step app → Option (FactoryId × Stage)
  | .creating factory _ => some (factory, .creating)
  | .followingUp factory _ => some (factory, .followingUp)
  | _ => none

def work (levels : List FactoryId) (steps : List (Step app)) : List (FactoryId × Stage) :=
  (steps.reverse.filterMap Step.work?).filter fun done => done.1 ∈ levels

def once (factory : FactoryId) : List (FactoryId × Stage) :=
  [(factory, .creating), (factory, .followingUp)]

def Works (levels : List FactoryId) (done : List (FactoryId × Stage)) (before after : World app) : Prop :=
  ∃ steps, after.journal = steps ++ before.journal ∧ work levels steps = done

theorem Works.trans {levels : List FactoryId} {early late : List (FactoryId × Stage)}
    {first middle last : World app} (before : Works levels early first middle)
    (rest : Works levels late middle last) : Works levels (early ++ late) first last := by
  obtain ⟨steps, earlier, rfl⟩ := before
  obtain ⟨more, later, rfl⟩ := rest
  refine ⟨more ++ steps, by rw [later, earlier, List.append_assoc], ?_⟩
  simp [work]

theorem Works.idle {levels : List FactoryId} {before after : World app}
    (journal : ∃ steps, after.journal = steps ++ before.journal ∧ ∀ step ∈ steps, step.work? = none) :
    Works levels [] before after := by
  obtain ⟨steps, grown, idle⟩ := journal
  refine ⟨steps, grown, ?_⟩
  have none : steps.reverse.filterMap Step.work? = [] := by simpa using idle
  simp [work, none]

theorem Works.entered (levels : List FactoryId) (world : World app) (factory : FactoryId) :
    Works levels [] world (world.enter factory) :=
  .idle ⟨[_], rfl, by simp [Step.work?]⟩

theorem Works.left (levels : List FactoryId) (world : World app) (factory : FactoryId)
    (succeeded : Bool) : Works levels [] world (world.leave factory succeeded) :=
  .idle ⟨[_], rfl, by simp [Step.work?]⟩

theorem Step.work?_eq_none {step : Step app} (unproductive : step.production? = none) :
    step.work? = none := by
  cases step <;> simp [Step.production?] at unproductive <;> rfl

-- Whoever only refuses does no work.
theorem work_refused {levels : List FactoryId} {steps : List (Step app)}
    (refuses : ∀ factory ∈ levels, ∀ stage ∈ life factory steps, stage = .refused) :
    work levels steps = [] := by
  simp only [work, List.filter_eq_nil_iff, List.mem_filterMap, List.mem_reverse, decide_eq_true_eq]
  rintro ⟨factory, stage⟩ ⟨step, among, shown⟩ member
  have lives : stage ∈ life factory steps := by
    refine List.mem_filterMap.mpr ⟨step, among, ?_⟩
    cases step <;> simp [Step.work?] at shown <;> simp [Step.production?, Step.stage?, shown]
  obtain rfl := refuses factory member stage lives
  cases step <;> simp [Step.work?] at shown

theorem Undisturbed.works {levels : List FactoryId} {before after : World app}
    (undisturbed : Undisturbed before after)
    (apart : ∀ factory ∈ levels, factory ∈ before.guards.producing ∨ life factory after.journal = []) :
    Works levels [] before after := by
  obtain ⟨⟨steps, passing⟩, _⟩ := undisturbed
  refine ⟨steps, passing.journal, work_refused fun factory member => ?_⟩
  rcases apart factory member with running | unused
  · exact passing.refuses running
  · rw [passing.journal, life_append, List.append_eq_nil_iff] at unused
    simp [unused.1]

section Making

variable {factory : FactoryId} {recipe : RecipeFactory app} {world after : World app}
  {product : Product app}

theorem makeProduct_persists {handle : Handler app} {outcome : Except Failure (Product app)}
    (handled : handle.Keeps Persists)
    (made : makeProduct code handle factory recipe world = some (outcome, after)) :
    Persists world after :=
  Discipline.makeProduct_holds code (fun move => move.plain.persists) (handled.handles Persists.trans).answers
    PipelineMove.persists recipe world outcome after made

theorem makeProduct_ok {handle : Handler app}
    (made : makeProduct code handle factory recipe world = some (.ok product, after)) :
    ∃ middle, handle.script (code.create recipe.recipe recipe.creation)
        (world.note (.creating factory world.guards)) = some (.ok product, middle) ∧
      handle.script (code.followUp recipe.recipe product recipe.creation)
        (middle.note (.followingUp factory middle.guards)) = some (.ok (), after) := by
  rw [makeProduct, Eval.noteGuards_bind] at made
  obtain ⟨created, middle, creating, made⟩ := Eval.bind_eq_some_iff.mp made
  cases created with
  | error failure => cases made
  | ok first =>
    dsimp only at made
    rw [Eval.noteGuards_bind] at made
    obtain ⟨followed, last, following, made⟩ := Eval.bind_eq_some_iff.mp made
    cases followed <;> cases made
    exact ⟨middle, creating, following⟩

structure Made (factory : FactoryId) (world after : World app) : Prop where
  guards : after.guards = world.guards
  persists : Persists world after
  grown : ∃ steps, after.journal = steps ++ world.journal
  unready : ∀ running ∈ world.guards.producing, world.ready? running = none → after.ready? running = none
  works : ∀ {levels}, factory ∈ levels →
    (∀ other ∈ levels, other ∈ world.guards.producing ∨ life other after.journal = []) →
      Works levels (once factory) world after

theorem makeProduct_made {outer : List FactoryId} (guards : world.guards = ⟨outer, none⟩)
    (made : makeProduct code (unbounded code) factory recipe world = some (.ok product, after)) :
    Made factory world after := by
  have handled := (undisturbed_keeps code).unbounded_keeps
  obtain ⟨middle, creating, following⟩ := makeProduct_ok made
  have first := script_undisturbed handled creating
  have second := script_undisturbed handled following
  have between : middle.guards = ⟨outer, none⟩ := first.restored.guards guards
  have last : after.guards = ⟨outer, none⟩ := second.restored.guards between
  refine ⟨last.trans guards.symm, makeProduct_persists (persists_keeps code).unbounded_keeps made,
    ?_, ?_, ?_⟩
  · obtain ⟨⟨early, first⟩, _⟩ := first
    obtain ⟨⟨late, second⟩, _⟩ := second
    refine ⟨late ++ .followingUp factory middle.guards :: (early ++ [.creating factory world.guards]), ?_⟩
    rw [second.journal]
    simp [World.note, first.journal]
  · intro running member unready
    obtain ⟨⟨_, early⟩, _⟩ := first
    obtain ⟨⟨_, late⟩, _⟩ := second
    have still : running ∈ middle.guards.producing := by rwa [between, ← congrArg Guards.producing guards]
    exact late.unfinished still (early.unfinished member unready)
  · intro levels own apart
    have earlier {other : FactoryId} (unused : life other after.journal = []) :
        life other middle.journal = [] := by
      obtain ⟨⟨_, late⟩, _⟩ := second
      rw [late.journal, life_append, List.append_eq_nil_iff] at unused
      exact (List.append_eq_nil_iff.mp ((life_append other [_] middle.journal).symm.trans unused.2)).2
    have creates : Works levels [(factory, .creating)] world (world.note (.creating factory world.guards)) :=
      ⟨[_], rfl, by simp [work, Step.work?, own]⟩
    have follows : Works levels [(factory, .followingUp)] middle
        (middle.note (.followingUp factory middle.guards)) :=
      ⟨[_], rfl, by simp [work, Step.work?, own]⟩
    have creating_idle := first.works fun other member => (apart other member).imp_right earlier
    have following_idle := second.works fun other member => by
      refine (apart other member).imp_left fun running => ?_
      change other ∈ middle.guards.producing
      rwa [between, ← congrArg Guards.producing guards]
    exact (creates.trans creating_idle).trans (follows.trans following_idle)

end Making

end BeanRegistry
