import BeanRegistry.Proofs.Run.Discipline

set_option autoImplicit false

namespace BeanRegistry

variable {app : Application}

inductive Stage where
  | refused
  | entered
  | creating
  | followingUp
  | unwrapping
  | kept
  | failed
  | succeeded
  deriving DecidableEq, Repr

def Step.stage? : Step app → Option Stage
  | .refused _ _ => some .refused
  | .entered _ _ => some .entered
  | .creating _ _ => some .creating
  | .followingUp _ _ => some .followingUp
  | .unwrapping _ _ _ => some .unwrapping
  | .kept _ _ => some .kept
  | .left _ succeeded _ => some (if succeeded then .succeeded else .failed)
  | _ => none

def life (factory : FactoryId) (steps : List (Step app)) : List Stage :=
  steps.filterMap fun step => if step.production? = some factory then step.stage? else none

theorem life_append (factory : FactoryId) (later earlier : List (Step app)) :
    life factory (later ++ earlier) = life factory later ++ life factory earlier :=
  List.filterMap_append

theorem life_around {factory : FactoryId} {step : Step app} (own : step.production? = some factory)
    {stage : Stage} (shown : step.stage? = some stage) (later earlier : List (Step app)) :
    life factory (later ++ step :: earlier) = life factory later ++ stage :: life factory earlier := by
  simp [life, own, shown]

theorem life_own {factory : FactoryId} {step : Step app} (own : step.production? = some factory)
    {stage : Stage} (shown : step.stage? = some stage) (steps : List (Step app)) :
    life factory (step :: steps) = stage :: life factory steps :=
  life_around own shown [] steps

theorem life_other {factory other : FactoryId} {step : Step app} (owned : step.production? = some factory)
    (different : other ≠ factory) (steps : List (Step app)) :
    life other (step :: steps) = life other steps := by
  simp [life, owned, different.symm]

inductive Phase where
  | resting
  | entered
  | creating
  | followingUp
  | unwrapping
  | kept
  | settled
  deriving DecidableEq, Repr

namespace Phase

-- A factory asked again while it runs its own code refuses and goes on.
def next (scope : Scope) : Phase → Stage → Option Phase
  | .resting, .refused => some .resting
  | .resting, .entered => some .entered
  | .entered, .creating => some .creating
  | .creating, .refused => some .creating
  | .creating, .followingUp => some .followingUp
  | .followingUp, .refused => some .followingUp
  | .followingUp, .unwrapping => some .unwrapping
  | .unwrapping, .refused => some .unwrapping
  | .creating, .failed | .followingUp, .failed | .unwrapping, .failed => some .resting
  | .followingUp, .kept | .unwrapping, .kept => if scope = .singleton then some .kept else none
  | .followingUp, .succeeded | .unwrapping, .succeeded =>
    if scope = .prototype then some .resting else none
  | .kept, .succeeded => some .settled
  | _, _ => none

-- The stages are given the newest first.
def through (scope : Scope) (phase : Phase) : List Stage → Option Phase
  | [] => some phase
  | stage :: earlier => (through scope phase earlier).bind fun middle => middle.next scope stage

theorem through_append (scope : Scope) (phase : Phase) (later earlier : List Stage) :
    through scope phase (later ++ earlier) =
      (through scope phase earlier).bind fun middle => through scope middle later := by
  induction later with
  | nil => simp [through]
  | cons stage later ih =>
    simp only [List.cons_append, through, ih]
    cases through scope phase earlier <;> rfl

theorem through_around {scope : Scope} {phase last : Phase} {later earlier : List Stage} {stage : Stage}
    (passed : through scope phase (later ++ stage :: earlier) = some last) :
    ∃ middle reached, through scope phase earlier = some middle ∧
      middle.next scope stage = some reached ∧ through scope reached later = some last := by
  rw [through_append, Option.bind_eq_some_iff] at passed
  obtain ⟨reached, before, rest⟩ := passed
  obtain ⟨middle, first, moved⟩ := Option.bind_eq_some_iff.mp before
  exact ⟨middle, reached, first, moved, rest⟩

theorem through_refusals (scope : Scope) {phase : Phase} (refuses : phase.next scope .refused = some phase)
    {stages : List Stage} (refused : ∀ stage ∈ stages, stage = .refused) :
    through scope phase stages = some phase := by
  induction stages with
  | nil => rfl
  | cons stage earlier ih =>
    rw [List.forall_mem_cons] at refused
    simp [through, ih refused.2, refused.1, refuses]

theorem through_settled {scope : Scope} {stages : List Stage} {phase : Phase}
    (passed : through scope .settled stages = some phase) : stages = [] := by
  induction stages generalizing phase with
  | nil => rfl
  | cons stage earlier ih =>
    simp only [through, Option.bind_eq_some_iff] at passed
    obtain ⟨middle, before, moved⟩ := passed
    obtain rfl := ih before
    cases before
    exact nomatch moved

def running : Phase → Nat
  | .resting | .settled => 0
  | .entered | .creating | .followingUp | .unwrapping | .kept => 1

def unstarted (phase : Phase) : Nat :=
  if phase = .entered then 1 else 0

def settledOnce (phase : Phase) : Nat :=
  if phase = .settled then 1 else 0

structure Ledger (scope : Scope) (phase : Phase) (stages : List Stage) : Prop where
  entries : stages.count .entered =
    stages.count .failed + stages.count .succeeded + phase.running
  creations : stages.count .creating + phase.unstarted = stages.count .entered
  singleton : scope = .singleton → stages.count .succeeded = phase.settledOnce
  prototype : scope = .prototype → stages.count .kept = 0 ∧ phase ≠ .kept ∧ phase ≠ .settled

section Next

variable {scope : Scope} {phase reached : Phase} {stage : Stage}
  (moved : phase.next scope stage = some reached)

include moved

theorem next_running : reached.running + [stage].count .failed + [stage].count .succeeded =
    phase.running + [stage].count .entered := by
  cases phase <;> cases stage <;> cases scope <;> simp [next] at moved <;> subst moved <;> decide

theorem next_unstarted :
    reached.unstarted + [stage].count .creating = phase.unstarted + [stage].count .entered := by
  cases phase <;> cases stage <;> cases scope <;> simp [next] at moved <;> subst moved <;> decide

theorem next_settledOnce (singleton : scope = .singleton) :
    reached.settledOnce = phase.settledOnce + [stage].count .succeeded := by
  subst singleton
  cases phase <;> cases stage <;> simp [next] at moved <;> subst moved <;> decide

theorem next_prototype (prototype : scope = .prototype) (unkept : phase ≠ .kept) :
    stage ≠ .kept ∧ reached ≠ .kept ∧ reached ≠ .settled := by
  subst prototype
  cases phase <;> cases stage <;> simp [next] at moved <;> subst moved <;> simp at unkept ⊢

theorem Ledger.next {stages : List Stage} (ledger : Ledger scope phase stages) :
    Ledger scope reached (stage :: stages) := by
  have split (counted : Stage) :
      (stage :: stages).count counted = [stage].count counted + stages.count counted := by
    rw [← List.singleton_append, List.count_append]
  constructor
  · have entries := ledger.entries
    have running := next_running moved
    rw [split, split, split]
    omega
  · have creations := ledger.creations
    have unstarted := next_unstarted moved
    rw [split, split]
    omega
  · intro singleton
    have succeeded := ledger.singleton singleton
    have settled := next_settledOnce moved singleton
    rw [split]
    omega
  · intro prototype
    obtain ⟨none, unkept, _⟩ := ledger.prototype prototype
    obtain ⟨other, stands⟩ := next_prototype moved prototype unkept
    exact ⟨by rw [List.count_cons_of_ne other, none], stands⟩

end Next

theorem through_ledger {scope : Scope} {phase : Phase} {stages : List Stage}
    (passed : through scope .resting stages = some phase) : Ledger scope phase stages := by
  induction stages generalizing phase with
  | nil =>
    cases passed
    constructor <;> simp [running, unstarted, settledOnce]
  | cons stage earlier ih =>
    simp only [through, Option.bind_eq_some_iff] at passed
    obtain ⟨middle, before, moved⟩ := passed
    exact Ledger.next moved (ih before)

theorem next_entered {scope : Scope} {phase reached : Phase}
    (moved : phase.next scope .entered = some reached) : phase = .resting := by
  cases phase with
  | resting => rfl
  | _ => simp [next] at moved

theorem next_succeeded {phase reached : Phase}
    (moved : phase.next .singleton .succeeded = some reached) : reached = .settled := by
  cases phase <;> simp [next] at moved
  exact moved.symm

end Phase
end BeanRegistry
