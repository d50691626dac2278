import BeanRegistry.Proofs.Chain.Marked
import BeanRegistry.Proofs.Run.Discipline
import Mathlib.Order.Bounds.Basic

set_option autoImplicit false

namespace BeanRegistry

variable {app : Application} {code : Code app}

namespace Progress

theorem lt_iff {left right : Progress} :
    left < right ↔ left.stage < right.stage ∨
      left.stage = right.stage ∧ left.position < right.position := by
  change (compare left.stage right.stage).then (compare left.position right.position) = .lt ↔ _
  rw [Ordering.then_eq_lt, Nat.compare_eq_lt, Nat.compare_eq_eq, Nat.compare_eq_lt]

instance : Preorder Progress where
  le left right := ¬ right < left
  le_refl progress := by
    rw [lt_iff]
    omega
  le_trans first middle last before rest := by
    rw [lt_iff] at *
    omega
  lt_iff_le_not_ge left right := by
    simp only [lt_iff]
    omega

theorem le_iff {left right : Progress} :
    left ≤ right ↔ left.stage < right.stage ∨
      left.stage = right.stage ∧ left.position ≤ right.position := by
  change ¬ right < left ↔ _
  rw [lt_iff]
  omega

theorem created_le (progress : Progress) : created ≤ progress := by
  cases progress <;> simp [le_iff, stage, position]

theorem ne_created_of_le {early late : Progress} (order : early ≤ late) (started : early ≠ created) :
    late ≠ created := by
  rintro rfl
  cases early <;> simp [le_iff, stage, position] at order started

theorem le_of_finished {early late : Progress} (unfinished : early.isFinished = false)
    (finished : late.isFinished = true) : early ≤ late := by
  cases early <;> cases late <;> simp [isFinished, le_iff, stage] at *

def entering (position : Nat) (isTarget : Bool) : Progress :=
  if isTarget then .targetInvoked else .running position

theorem entering_started (position : Nat) (isTarget : Bool) :
    entering position isTarget ≠ created ∧ (entering position isTarget).isFinished = false := by
  cases isTarget <;> simp [entering, isFinished]

theorem le_advance (current next : Progress) : current ≤ current.advance next ∧
    next ≤ current.advance next := by
  unfold advance
  split
  next later => exact ⟨later.le, le_rfl⟩
  next earlier => exact ⟨le_rfl, earlier⟩

theorem advance_cases (current next : Progress) :
    current.advance next = current ∨ current.advance next = next := by
  unfold advance
  split
  · exact .inr rfl
  · exact .inl rfl

theorem advance_unfinished {current next : Progress} (unfinished : current.isFinished = false)
    (going : next.isFinished = false) : (current.advance next).isFinished = false := by
  rcases advance_cases current next with same | same <;> rw [same] <;> assumption

theorem advance_finished {current next : Progress} (finished : current.isFinished = true)
    (going : next.isFinished = false) : current.advance next = current := by
  unfold advance
  rw [if_neg]
  exact le_of_finished going finished

end Progress

def World.progress? (world : World app) (chain : ChainId) : Option Progress :=
  (world.chain? chain).map ChainCell.progress

-- What a chain stood at, the latest first.
def held (chain : ChainId) (journal : List (Step app)) : List Progress :=
  journal.filterMap fun step => if step.passage? = some chain then step.progress? else none

def Step.entered? : Step app → Option Progress
  | .opened _ position isTarget _ _ => some (.entering position isTarget)
  | _ => none

def positions (chain : ChainId) (journal : List (Step app)) : List Progress :=
  journal.filterMap fun step => if step.passage? = some chain then step.entered? else none

def Farthest (chain : ChainId) (journal : List (Step app)) (progress : Progress) : Prop :=
  IsGreatest {reached | reached = .created ∨ reached ∈ positions chain journal} progress

structure Rising (chain : ChainId) (progress : Progress) (journal : List (Step app)) : Prop where
  current : (held chain journal).headD .created = progress
  sorted : (held chain journal).Pairwise fun later earlier => earlier ≤ later
  ongoing : progress.isFinished = false → Farthest chain journal progress ∧
    ∀ method last, .finished chain method last ∉ journal
  -- Every entering shows the farthest position so far.
  shown : ∀ {position isTarget method reached earlier},
    .opened chain position isTarget method reached :: earlier <:+ journal →
      Farthest chain (.opened chain position isTarget method reached :: earlier) reached
  ended : ∀ {step earlier}, step :: earlier <:+ journal → step.passage? = some chain →
    ∀ method last, .finished chain method last ∉ earlier

structure Forward (world : World app) : Prop where
  known : ∀ {step chain}, step ∈ world.journal → step.passage? = some chain →
    (world.progress? chain).isSome
  rising : ∀ {chain progress}, world.progress? chain = some progress →
    Rising chain progress world.journal

-- Chains that were started do not start again, and those at their end stay as they are.
def Risen (before after : World app) : Prop :=
  ∀ chain early, before.progress? chain = some early → ∃ late, after.progress? chain = some late ∧
    early ≤ late ∧ (early ≠ .created → late.isFinished = early.isFinished) ∧
      (early.isFinished = true → late = early)

theorem Risen.trans {first middle last : World app} (before : Risen first middle)
    (rest : Risen middle last) : Risen first last := by
  intro chain early found
  obtain ⟨late, known, rises, starts, ends⟩ := before chain early found
  obtain ⟨last, final, rises_on, starts_on, ends_on⟩ := rest chain late known
  refine ⟨last, final, rises.trans rises_on, fun started => ?_, fun finished => ?_⟩
  · rw [starts_on (Progress.ne_created_of_le rises started), starts started]
  · obtain rfl := ends finished
    exact ends_on finished

section Journals

variable {chain : ChainId} {progress : Progress} {step : Step app} {journal : List (Step app)}

theorem Rising.initial (untouched : ∀ step ∈ journal, step.passage? ≠ some chain) :
    Rising chain .created journal := by
  have none_held : held chain journal = [] := by
    simp only [held, List.filterMap_eq_nil_iff]
    intro step member
    simp [untouched step member]
  have none_entered : positions chain journal = [] := by
    simp only [positions, List.filterMap_eq_nil_iff]
    intro step member
    simp [untouched step member]
  have apart {step : Step app} {earlier : List (Step app)} (among : step :: earlier <:+ journal) :
      step.passage? ≠ some chain :=
    untouched step (among.subset List.mem_cons_self)
  refine ⟨?_, ?_, fun _ => ⟨?_, fun method last member => ?_⟩, fun among => ?_, fun among own => ?_⟩
  · rw [none_held]
    rfl
  · rw [none_held]
    exact .nil
  · rw [Farthest, none_entered]
    refine ⟨.inl rfl, ?_⟩
    rintro reached (rfl | member)
    · exact le_rfl
    · simp at member
  · exact untouched _ member rfl
  · exact absurd rfl (apart among)
  · exact absurd own (apart among)

theorem Rising.ended_cons (rising : Rising chain progress journal)
    (unended : step.passage? = some chain → ∀ method last, .finished chain method last ∉ journal)
    {other : Step app} {earlier : List (Step app)} (suffix : other :: earlier <:+ step :: journal)
    (own : other.passage? = some chain) : ∀ method last, .finished chain method last ∉ earlier := by
  rcases List.suffix_cons_iff.mp suffix with same | suffix
  · obtain ⟨rfl, rfl⟩ := List.cons.inj same
    exact unended own
  · exact rising.ended suffix own

theorem Rising.note (rising : Rising chain progress journal)
    (silent : step.passage? = some chain → step.progress? = none ∧ progress.isFinished = false) :
    Rising chain progress (step :: journal) := by
  have unmoved (own : step.passage? = some chain) : step.progress? = none := (silent own).1
  have holds : held chain (step :: journal) = held chain journal := by
    by_cases own : step.passage? = some chain
    · simp [held, own, unmoved own]
    · simp [held, own]
  have unentered (own : step.passage? = some chain) : step.entered? = none := by
    have quiet := unmoved own
    cases step <;> simp [Step.progress?] at quiet <;> rfl
  have enters : positions chain (step :: journal) = positions chain journal := by
    by_cases own : step.passage? = some chain
    · simp [positions, own, unentered own]
    · simp [positions, own]
  refine ⟨holds ▸ rising.current, holds ▸ rising.sorted, fun unfinished => ?_, fun among => ?_,
    fun suffix => rising.ended_cons (fun own => (rising.ongoing (silent own).2).2) suffix⟩
  · obtain ⟨farthest, unended⟩ := rising.ongoing unfinished
    refine ⟨by rwa [Farthest, enters], fun method last member => ?_⟩
    rcases List.mem_cons.mp member with rfl | member
    · have quiet := unmoved rfl
      simp [Step.progress?] at quiet
    · exact unended method last member
  · rcases List.suffix_cons_iff.mp among with same | among
    · obtain ⟨rfl, rfl⟩ := List.cons.inj same
      have quiet := unmoved rfl
      simp [Step.progress?] at quiet
    · exact rising.shown among

theorem Rising.notes (rising : Rising chain progress journal) {steps : List (Step app)}
    (outside : ∀ step ∈ steps, step.passage? = none) : Rising chain progress (steps ++ journal) := by
  induction steps with
  | nil => exact rising
  | cons step later ih =>
    obtain ⟨first, rest⟩ := List.forall_mem_cons.mp outside
    refine (ih rest).note fun own => ?_
    simp [first] at own

theorem Rising.sorted_cons (rising : Rising chain progress journal) {next : Progress}
    (order : progress ≤ next) :
    (next :: held chain journal).Pairwise fun later earlier => earlier ≤ later := by
  refine List.pairwise_cons.mpr ⟨fun earlier member => ?_, rising.sorted⟩
  have current := rising.current
  have sorted := rising.sorted
  cases values : held chain journal with
  | nil => simp [values] at member
  | cons head rest =>
    rw [values] at member current sorted
    obtain rfl : head = progress := current
    rcases List.mem_cons.mp member with rfl | member
    · exact order
    · exact ((List.pairwise_cons.mp sorted).1 earlier member).trans order

theorem Rising.enter (rising : Rising chain progress journal) (unfinished : progress.isFinished = false)
    (position : Nat) (isTarget : Bool) (method : Method) :
    let reached := progress.advance (.entering position isTarget)
    Rising chain reached (.opened chain position isTarget method reached :: journal) := by
  intro reached
  obtain ⟨⟨among, greatest⟩, unended⟩ := rising.ongoing unfinished
  obtain ⟨rises, enters⟩ := progress.le_advance (.entering position isTarget)
  have holds : held chain (.opened chain position isTarget method reached :: journal) =
      reached :: held chain journal := by simp [held, Step.passage?, Step.progress?]
  have entered : positions chain (.opened chain position isTarget method reached :: journal) =
      .entering position isTarget :: positions chain journal := by
    simp [positions, Step.passage?, Step.entered?]
  have farthest : Farthest chain (.opened chain position isTarget method reached :: journal) reached := by
    rw [Farthest, entered]
    constructor
    · rcases progress.advance_cases (.entering position isTarget) with same | same
      · rw [show reached = progress from same]
        exact among.imp_right (List.mem_cons_of_mem _)
      · exact .inr (same ▸ List.mem_cons_self)
    · rintro other (rfl | member)
      · exact Progress.created_le _
      · rcases List.mem_cons.mp member with rfl | member
        · exact enters
        · exact (greatest (.inr member)).trans rises
  refine ⟨by rw [holds]; rfl, holds ▸ rising.sorted_cons rises, fun _ => ⟨farthest, ?_⟩,
    fun suffix => ?_, fun suffix => rising.ended_cons (fun _ => unended) suffix⟩
  · simpa using unended
  · rcases List.suffix_cons_iff.mp suffix with same | suffix
    · obtain ⟨same, rfl⟩ := List.cons.inj same
      cases same
      exact farthest
    · exact rising.shown suffix

theorem Rising.finish (rising : Rising chain progress journal) (unfinished : progress.isFinished = false)
    {last : Progress} (finished : last.isFinished = true) (method : Method) :
    Rising chain last (.finished chain method last :: journal) := by
  have unended := (rising.ongoing unfinished).2
  have holds : held chain (.finished chain method last :: journal) = last :: held chain journal := by
    simp [held, Step.passage?, Step.progress?]
  refine ⟨by rw [holds]; rfl, holds ▸ rising.sorted_cons (Progress.le_of_finished unfinished finished),
    fun going => ?_, fun suffix => ?_, fun suffix => rising.ended_cons (fun _ => unended) suffix⟩
  · simp [finished] at going
  · rcases List.suffix_cons_iff.mp suffix with same | suffix
    · cases same
    · exact rising.shown suffix

end Journals

structure Still (before after : World app) : Prop where
  kept : ∀ {chain progress}, before.progress? chain = some progress →
    after.progress? chain = some progress
  fresh : ∀ {chain progress}, before.progress? chain = none → after.progress? chain = some progress →
    progress = .created
  journal : ∃ steps, after.journal = steps ++ before.journal ∧ ∀ step ∈ steps, step.passage? = none

theorem Still.of_chains {before after : World app} (same : after.chains = before.chains)
    (journal : ∃ steps, after.journal = steps ++ before.journal ∧ ∀ step ∈ steps, step.passage? = none) :
    Still before after := by
  have found (chain : ChainId) : after.progress? chain = before.progress? chain := by
    simp [World.progress?, World.chain?, same]
  refine ⟨fun known => (found _).trans known, fun missing known => ?_, journal⟩
  rw [found, missing] at known
  cases known

theorem World.progress?_mapChain (world : World app) (changed chain : ChainId)
    {change : ChainCell app → ChainCell app} {move : Progress → Progress}
    (moves : ∀ cell, (change cell).progress = move cell.progress) :
    (world.mapChain changed change).progress? chain =
      if changed = chain then (world.progress? chain).map move else world.progress? chain := by
  obtain ⟨changed⟩ := changed
  obtain ⟨chain⟩ := chain
  simp only [World.progress?, World.chain?, World.mapChain, Array.getElem?_modify, ChainId.mk.injEq]
  split <;> simp [Function.comp_def, moves]

theorem World.progress?_configure (world : World app) (changed chain : ChainId)
    (settings : List (ChainSetting app)) :
    (world.mapChain changed fun cell =>
      { cell with chain := cell.chain.configure settings }).progress? chain = world.progress? chain := by
  let change (cell : ChainCell app) : ChainCell app := { cell with chain := cell.chain.configure settings }
  have unmoved (cell : ChainCell app) : (change cell).progress = id cell.progress := rfl
  rw [world.progress?_mapChain changed chain unmoved]
  split <;> simp

theorem PlainMove.still {before after : World app} (move : PlainMove before after) :
    Still before after := by
  have silent : ∃ steps : List (Step app), before.journal = steps ++ before.journal ∧
      ∀ step ∈ steps, step.passage? = none := ⟨[], rfl, nofun⟩
  cases move with
  | note step unproductive outside => exact .of_chains rfl ⟨[step], rfl, by simp [outside]⟩
  | grant registry => exact .of_chains rfl ⟨[_], rfl, by simp [Step.passage?]⟩
  | release owner => exact .of_chains rfl ⟨[_], rfl, by simp [Step.passage?]⟩
  | configure chain settings =>
    have same (other : ChainId) := before.progress?_configure chain other settings
    refine ⟨fun known => (same _).trans known, fun missing known => ?_, silent⟩
    rw [same, missing] at known
    cases known
  | addChain chain =>
    have added (other : ChainId) : (before.addChain chain).2.progress? other =
        if other.index = before.chains.size then some .created else before.progress? other := by
      simp only [World.progress?, World.chain?, World.addChain, Array.getElem?_push]
      split <;> rfl
    refine ⟨fun {other progress} known => ?_, fun {other progress} missing known => ?_, silent⟩
    · rw [added, if_neg, known]
      intro beyond
      simp [World.progress?, World.chain?, beyond] at known
    · rw [added, missing] at known
      split at known <;> cases known
      rfl
  | _ => exact .of_chains rfl silent

theorem ProductionMove.still {before after : World app} (move : ProductionMove before after) :
    Still before after := by
  cases move with
  | guard guards => exact .of_chains rfl ⟨[], rfl, nofun⟩
  | note step factory productive =>
    refine .of_chains rfl ⟨[step], rfl, ?_⟩
    cases step <;> simp [Step.production?] at productive <;> simp [Step.passage?]
  | pipeline factory passed =>
    cases passed with
    | keep bean => exact .of_chains rfl ⟨[], rfl, nofun⟩
    | _ => exact .of_chains rfl ⟨[_], rfl, by simp [Step.passage?]⟩

theorem World.progress?_opened (world : World app) (passage : Passage app) (position : Nat)
    (isTarget : Bool) (chain : ChainId) :
    (world.opened passage position isTarget).progress? chain =
      if passage.chain = chain then
        (world.progress? chain).map fun progress => progress.advance (.entering position isTarget)
      else world.progress? chain :=
  world.progress?_mapChain passage.chain chain fun _ => rfl

theorem World.progress?_finished (world : World app) (ended chain : ChainId) (method : Method)
    (progress : Progress) :
    (world.finished ended method progress).progress? chain =
      if ended = chain then (world.progress? chain).map fun _ => progress
      else world.progress? chain :=
  world.progress?_mapChain ended chain fun _ => rfl

theorem Still.risen {before after : World app} (still : Still before after) : Risen before after :=
  fun _ _ known => ⟨_, still.kept known, le_rfl, fun _ => rfl, fun _ => rfl⟩

namespace Forward

theorem initial (memory : app.Memory) : Forward (World.initial memory) := by
  refine ⟨fun member => ?_, fun found => ?_⟩
  · simp [World.initial] at member
  · simp [World.progress?, World.chain?, World.initial] at found

variable {world after : World app} (forward : Forward world)

include forward

theorem still (still : Still world after) : Forward after := by
  obtain ⟨steps, journal, outside⟩ := still.journal
  constructor
  · intro step chain member passing
    rw [journal] at member
    rcases List.mem_append.mp member with added | member
    · simp [outside step added] at passing
    · obtain ⟨progress, known⟩ := Option.isSome_iff_exists.mp (forward.known member passing)
      simp [still.kept known]
  · intro chain progress found
    rw [journal]
    refine Rising.notes ?_ outside
    cases known : world.progress? chain with
    | some former =>
      rw [still.kept known] at found
      cases found
      exact forward.rising known
    | none =>
      obtain rfl := still.fresh known found
      refine .initial fun step member passing => ?_
      simpa [known] using forward.known member passing

theorem step {chain : ChainId} {step : Step app} {move : Progress → Progress} {progress : Progress}
    (journal : after.journal = step :: world.journal)
    (moves : ∀ other, after.progress? other =
      if chain = other then (world.progress? other).map move else world.progress? other)
    (own : step.passage? = some chain) (known : world.progress? chain = some progress)
    (rises : Rising chain (move progress) (step :: world.journal)) : Forward after := by
  constructor
  · intro other passed member passing
    rw [journal] at member
    rw [moves]
    split
    next same => simp [← same, known]
    next apart =>
      rcases List.mem_cons.mp member with rfl | member
      · exact absurd (Option.some.inj (own.symm.trans passing)) apart
      · exact forward.known member passing
  · intro other reached held
    rw [moves] at held
    rw [journal]
    split at held
    next same =>
      subst same
      rw [known] at held
      cases held
      exact rises
    next apart =>
      refine (forward.rising held).note fun passing => ?_
      exact absurd (Option.some.inj (own.symm.trans passing)) apart

variable {passage : Passage app} {progress : Progress}
  (known : world.progress? passage.chain = some progress) (unfinished : progress.isFinished = false)

include known unfinished

theorem opened (position : Nat) (isTarget : Bool) :
    Forward (world.opened passage position isTarget) := by
  have moves := world.progress?_opened passage position isTarget
  have reached := moves passage.chain
  rw [if_pos rfl, known] at reached
  have journal : (world.opened passage position isTarget).journal =
      .opened passage.chain position isTarget passage.invocation.method
        (progress.advance (.entering position isTarget)) :: world.journal :=
    congrArg (fun shown : Option Progress => Step.opened passage.chain position isTarget
      passage.invocation.method (shown.getD (.entering position isTarget)) :: world.journal) reached
  exact forward.step journal moves rfl known
    ((forward.rising known).enter unfinished position isTarget passage.invocation.method)

theorem pass (move : PassageMove passage world after) : Forward after := by
  cases move with
  | opened position isTarget => exact forward.opened known unfinished position isTarget
  | note step passing unmoved =>
    have moves (other : ChainId) : (world.note step).progress? other =
        if passage.chain = other then (world.progress? other).map id else world.progress? other := by
      rw [Option.map_id_fun, id, ite_self]
      rfl
    exact forward.step rfl moves passing known
      ((forward.rising known).note fun _ => ⟨unmoved, unfinished⟩)

theorem finish {last : Progress} (finished : last.isFinished = true) (method : Method) :
    Forward (world.finished passage.chain method last) :=
  forward.step rfl (world.progress?_finished passage.chain · method last) rfl known
    ((forward.rising known).finish unfinished finished method)

end Forward

theorem PassageMove.risen {passage : Passage app} {before after : World app}
    (move : PassageMove passage before after) : Risen before after := by
  cases move with
  | note step passing unmoved => exact fun _ _ known => ⟨_, known, le_rfl, fun _ => rfl, fun _ => rfl⟩
  | opened position isTarget =>
    intro chain early known
    have going := (Progress.entering_started position isTarget).2
    rw [before.progress?_opened]
    split
    next =>
      rw [known]
      refine ⟨early.advance (.entering position isTarget), rfl, (early.le_advance _).1, fun _ => ?_,
        fun finished => ?_⟩
      · cases finished : early.isFinished with
        | true => rw [Progress.advance_finished finished going, finished]
        | false => exact Progress.advance_unfinished finished going
      · exact Progress.advance_finished finished going
    next => exact ⟨_, known, le_rfl, fun _ => rfl, fun _ => rfl⟩

def Passage.Ready (passage : Passage app) (world : World app) : Prop :=
  ∃ progress, world.progress? passage.chain = some progress ∧ progress.isFinished = false

def Passage.Started (passage : Passage app) (world : World app) : Prop :=
  ∃ progress, world.progress? passage.chain = some progress ∧ progress.isFinished = false ∧
    progress ≠ .created

theorem Risen.started {passage : Passage app} {before after : World app} (risen : Risen before after)
    (started : passage.Started before) : passage.Started after := by
  obtain ⟨early, known, going, begun⟩ := started
  obtain ⟨late, found, rises, goes, _⟩ := risen _ early known
  exact ⟨late, found, (goes begun).trans going, Progress.ne_created_of_le rises begun⟩

end BeanRegistry
