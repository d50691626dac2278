import BeanRegistry.Proofs.Chain.Told

set_option autoImplicit false

namespace BeanRegistry

variable {app : Application} {code : Code app} {Hook Result : Type}

open ToldScript

def hookRun (position : Nat) : List Happening :=
  [.mark (.hookStarted position), .mark (.hookEnded position)]

inductive Advice.Inside (deeper : Bool → List Happening → Prop) (position : Nat) :
    Advice Hook → Bool → List Happening → Prop where
  | refused (hook : Hook) : Inside deeper position (.before hook) false (hookRun position)
  | passed (hook : Hook) {succeeded : Bool} {below : List Happening} (entered : deeper succeeded below) :
      Inside deeper position (.before hook) succeeded (hookRun position ++ .proceeded position :: below)
  | returned (hook : Hook) (succeeded : Bool) {below : List Happening} (entered : deeper true below) :
      Inside deeper position (.afterReturning hook) succeeded
        (.proceeded position :: below ++ hookRun position)
  | unreturned (hook : Hook) {below : List Happening} (entered : deeper false below) :
      Inside deeper position (.afterReturning hook) false (.proceeded position :: below)
  | threw (hook : Hook) {below : List Happening} (entered : deeper false below) :
      Inside deeper position (.afterThrowing hook) false (.proceeded position :: below ++ hookRun position)
  | suppressed (hook : Hook) {below : List Happening} (entered : deeper false below) :
      Inside deeper position (.afterThrowing hook) true
        (.proceeded position :: below ++ hookRun position ++ [.mark (.suppressed position)])
  | unthrown (hook : Hook) {below : List Happening} (entered : deeper true below) :
      Inside deeper position (.afterThrowing hook) true (.proceeded position :: below)
  | ended (hook : Hook) {succeeded : Bool} {below : List Happening} (entered : deeper succeeded below) :
      Inside deeper position (.afterFinally hook) succeeded (.proceeded position :: below ++ hookRun position)
  | around (hook : Hook) (succeeded : Bool) {belows : List (List Happening)}
      (entered : ∀ below ∈ belows, ∃ outcome, deeper outcome below) :
      Inside deeper position (.interceptor hook) succeeded (belows.flatMap (.proceeded position :: ·))

def entryOf (position : Nat) (isTarget succeeded : Bool) (inside : List Happening) : List Happening :=
  .mark (.opened position isTarget) :: inside ++ [.mark (.closed position succeeded)]

-- Whoever proceeds at the target enters nothing.
def EntryOf : List (Advice Hook) → Nat → Bool → List Happening → Prop
  | [], position, succeeded, account =>
    ∃ tries, account = entryOf position true succeeded (.replicate tries (.proceeded position))
  | advice :: rest, position, succeeded, account =>
    ∃ inside, advice.Inside (EntryOf rest (position + 1)) position succeeded inside ∧
      account = entryOf position false succeeded inside

def Advice.Mixed (code : Code app) (invocation : Invocation app) (advice : Advice app.Hook) : Prop :=
  (∃ hook, advice = .interceptor hook) ∨ advice.Modest code invocation

section Telling

variable {position : Nat} {next : ToldScript app (Outcome app)} {deeper : Bool → List Happening → Prop}

theorem hook_tells_nothing {script : HookScript app Result} (common : script.Every HookOperation.IsCommon) :
    Tells (fun _ account => account = []) (HookScript.told position next script) := by
  induction script with
  | done result => rfl
  | ask operation rest ih =>
    cases operation with
    | common operation => exact fun answer => ih answer (common.2 answer)
    | proceed => exact common.1.elim

theorem hookTold_tells {script : HookScript app Result} (common : script.Every HookOperation.IsCommon) :
    Tells (fun _ account => account = hookRun position) (hookTold position next script) := by
  refine tells_tell (tells_bind (hook_tells_nothing common) fun result account silent => ?_)
  subst silent
  rfl

variable (tells : Tells (fun outcome account => deeper outcome.isOk account) next)

include tells

theorem proceeding_tells : Tells (fun outcome account =>
    ∃ below, deeper outcome.isOk below ∧ account = .proceeded position :: below) (proceeding position next) :=
  tells_tell (tells_mono tells fun _ account entered => ⟨account, entered, rfl⟩)

theorem hook_tells (script : HookScript app Result) : Tells (fun _ account =>
    ∃ belows : List (List Happening), (∀ below ∈ belows, ∃ outcome, deeper outcome below) ∧
      account = belows.flatMap (.proceeded position :: ·)) (HookScript.told position next script) := by
  induction script with
  | done result => exact ⟨[], nofun, rfl⟩
  | ask operation rest ih =>
    cases operation with
    | common operation => exact ih
    | proceed =>
      refine tells_bind (proceeding_tells tells) fun outcome account entered => ?_
      obtain ⟨below, entered, rfl⟩ := entered
      refine tells_mono (ih outcome) fun result more others => ?_
      obtain ⟨belows, all, rfl⟩ := others
      exact ⟨below :: belows, List.forall_mem_cons.mpr ⟨⟨_, entered⟩, all⟩, rfl⟩

theorem advice_tells {invocation : Invocation app} {advice : Advice app.Hook}
    (mixed : advice.Mixed code invocation) :
    Tells (fun outcome account => advice.Inside deeper position outcome.isOk account)
      (advice.told position next code invocation) := by
  rcases mixed with ⟨hook, rfl⟩ | modest
  · refine tells_mono (hook_tells tells _) fun outcome account others => ?_
    obtain ⟨belows, all, rfl⟩ := others
    exact .around hook _ all
  cases advice with
  | interceptor hook => exact modest.elim
  | before hook =>
    refine tells_bind (hookTold_tells modest) fun verdict account ran => ?_
    subst ran
    cases verdict with
    | error failure => exact .refused hook
    | ok _ =>
      refine tells_mono (proceeding_tells tells) fun outcome more entered => ?_
      obtain ⟨below, entered, rfl⟩ := entered
      exact .passed hook entered
  | afterReturning hook =>
    refine tells_bind (proceeding_tells tells) fun outcome account entered => ?_
    obtain ⟨below, entered, rfl⟩ := entered
    cases outcome with
    | error failure =>
      have ending : Advice.Inside deeper position (.afterReturning hook) false _ := .unreturned hook entered
      rwa [← List.append_nil (_ :: below)] at ending
    | ok result =>
      refine tells_bind (hookTold_tells (modest result)) fun verdict account ran => ?_
      subst ran
      cases verdict <;> simpa using .returned hook _ entered
  | afterThrowing hook =>
    refine tells_bind (proceeding_tells tells) fun outcome account entered => ?_
    obtain ⟨below, entered, rfl⟩ := entered
    cases outcome with
    | ok result =>
      have ending : Advice.Inside deeper position (.afterThrowing hook) true _ := .unthrown hook entered
      rwa [← List.append_nil (_ :: below)] at ending
    | error failure =>
      refine tells_bind (hookTold_tells (modest failure)) fun verdict account ran => ?_
      subst ran
      cases verdict with
      | error other => simpa using .threw hook entered
      | ok result =>
        have ending : Advice.Inside deeper position (.afterThrowing hook) true _ := .suppressed hook entered
        rwa [List.append_assoc] at ending
  | afterFinally hook =>
    refine tells_bind (proceeding_tells tells) fun outcome account entered => ?_
    obtain ⟨below, entered, rfl⟩ := entered
    refine tells_bind (hookTold_tells modest) fun _ account ran => ?_
    subst ran
    simpa using .ended hook entered

omit tells in
theorem entered_tells {inside : Outcome app → List Happening → Prop} {body : ToldScript app (Outcome app)}
    (tells : Tells inside body) (isTarget : Bool) :
    Tells (fun outcome account => ∃ within, inside outcome within ∧
      account = entryOf position isTarget outcome.isOk within) (entered position isTarget body) :=
  tells_tell (tells_bind tells fun _ within held => tells_tell (show ∃ _, _ ∧ _ from ⟨within, held, rfl⟩))

end Telling

theorem flatMap_turnedAway {position : Nat} {belows : List (List Happening)}
    (away : ∀ below ∈ belows, ∃ _ : Bool, below = []) :
    belows.flatMap (.proceeded position :: ·) = .replicate belows.length (.proceeded position) := by
  induction belows with
  | nil => rfl
  | cons below rest ih =>
    obtain ⟨⟨_, rfl⟩, rest_away⟩ := List.forall_mem_cons.mp away
    rw [List.flatMap_cons, ih rest_away]
    rfl

theorem told_entry (passage : Passage app) (position : Nat) {rest : List (Advice app.Hook)}
    (mixed : ∀ advice ∈ rest, advice.Mixed code passage.invocation) :
    Tells (fun outcome account => EntryOf rest position outcome.isOk account)
      (passage.told code position rest) := by
  induction rest generalizing position with
  | nil =>
    let away (_ : Bool) (account : List Happening) : Prop := account = []
    have tells : Tells (fun outcome account => away outcome.isOk account)
      (turnedAway : ToldScript app (Outcome app)) := rfl
    refine tells_mono (entered_tells (hook_tells tells _) true) fun outcome account entered => ?_
    obtain ⟨_, ⟨belows, all, rfl⟩, rfl⟩ := entered
    exact ⟨belows.length, by rw [flatMap_turnedAway all]⟩
  | cons advice rest ih =>
    rw [List.forall_mem_cons] at mixed
    exact entered_tells (advice_tells (ih (position + 1) mixed.2) mixed.1) false

section Laws

variable {advices : List (Advice Hook)} {position : Nat} {succeeded : Bool} {account : List Happening}

theorem Advice.Inside.mono {advice : Advice Hook} {deeper holds : Bool → List Happening → Prop}
    (inside : advice.Inside deeper position succeeded account)
    (weaker : ∀ outcome below, deeper outcome below → holds outcome below) :
    advice.Inside holds position succeeded account := by
  cases inside with
  | refused hook => exact .refused hook
  | passed hook entered => exact .passed hook (weaker _ _ entered)
  | returned hook _ entered => exact .returned hook _ (weaker _ _ entered)
  | unreturned hook entered => exact .unreturned hook (weaker _ _ entered)
  | threw hook entered => exact .threw hook (weaker _ _ entered)
  | suppressed hook entered => exact .suppressed hook (weaker _ _ entered)
  | unthrown hook entered => exact .unthrown hook (weaker _ _ entered)
  | ended hook entered => exact .ended hook (weaker _ _ entered)
  | around hook _ entered =>
    exact .around hook _ fun below member => (entered below member).imp fun outcome => weaker outcome below

-- What holds of the target and goes on from one position to the one before it holds of every entry.
theorem EntryOf.holds {holds : Nat → Bool → List Happening → Prop}
    (target : ∀ succeeded tries, holds advices.length succeeded
      (entryOf advices.length true succeeded (.replicate tries (.proceeded advices.length))))
    (next : ∀ position advice, advices[position]? = some advice → ∀ succeeded inside,
      advice.Inside (holds (position + 1)) position succeeded inside →
        holds position succeeded (entryOf position false succeeded inside))
    (entry : EntryOf advices 0 succeeded account) : holds 0 succeeded account := by
  have from_here (rest : List (Advice Hook)) (position : Nat) (succeeded : Bool) (account : List Happening)
      (left : advices.drop position = rest) (within : position ≤ advices.length)
      (entry : EntryOf rest position succeeded account) : holds position succeeded account := by
    induction rest generalizing position succeeded account with
    | nil =>
      obtain rfl : position = advices.length := Nat.le_antisymm within (List.drop_eq_nil_iff.mp left)
      obtain ⟨tries, rfl⟩ := entry
      exact target succeeded tries
    | cons advice rest ih =>
      have here : advices[position]? = some advice := by rw [← List.head?_drop, left, List.head?_cons]
      have tail : advices.drop (position + 1) = rest := by
        rw [← List.drop_drop, left]
        rfl
      obtain ⟨bound, _⟩ := List.getElem?_eq_some_iff.mp here
      obtain ⟨inside, entered, rfl⟩ := entry
      exact next position advice here succeeded inside
        (entered.mono fun outcome below => ih (position + 1) outcome below tail bound)
  exact from_here advices 0 succeeded account rfl (Nat.zero_le _) entry

def Happening.after? (depth : Nat) : Happening → Option Nat
  | .mark (.opened position _) => if position = depth then some (depth + 1) else none
  | .mark (.closed position _) => if depth = position + 1 then some position else none
  | .mark (.hookStarted position) | .mark (.hookEnded position) | .mark (.suppressed position)
  | .proceeded position => if depth = position + 1 then some depth else none

def Happening.enters (position : Nat) : Happening → Bool
  | .mark (.opened entered _) => entered = position
  | _ => false

def Advice.triggers (position : Nat) : Advice Hook → Happening → Bool
  | .before _, happening | .afterFinally _, happening => happening.enters position
  | .afterReturning _, happening => happening = .mark (.closed (position + 1) true)
  | .afterThrowing _, happening => happening = .mark (.closed (position + 1) false)
  | .interceptor _, _ => false

structure Orderly (advices : List (Advice Hook)) (account : List Happening) : Prop where
  nested : account.foldlM Happening.after? 0 = some 0
  proceeds : ∀ position < advices.length,
    account.count (.proceeded position) = account.countP (Happening.enters (position + 1))
  hooks : ∀ position advice, advices[position]? = some advice →
    account.count (.mark (.hookStarted position)) = account.countP (advice.triggers position) ∧
      account.count (.mark (.hookEnded position)) = account.countP (advice.triggers position)

theorem flatMap_nested {belows : List (List Happening)}
    (nested : ∀ below ∈ belows, ∃ _ : Bool, below.foldlM Happening.after? (position + 1) =
      some (position + 1)) :
    (belows.flatMap (.proceeded position :: ·)).foldlM Happening.after? (position + 1) =
      some (position + 1) := by
  induction belows with
  | nil => rfl
  | cons below rest ih =>
    obtain ⟨⟨_, here⟩, rest_nested⟩ := List.forall_mem_cons.mp nested
    simp [List.flatMap_cons, List.foldlM_append, Happening.after?, here, ih rest_nested]

theorem replicate_nested (position tries : Nat) :
    (List.replicate tries (Happening.proceeded position)).foldlM Happening.after? (position + 1) =
      some (position + 1) := by
  induction tries with
  | zero => rfl
  | succ tries ih => simp [List.replicate_succ, Happening.after?, ih]

theorem entryOf_nested {isTarget : Bool} {inside : List Happening}
    (nested : inside.foldlM Happening.after? (position + 1) = some (position + 1)) :
    (entryOf position isTarget succeeded inside).foldlM Happening.after? position = some position := by
  simp [entryOf, List.foldlM_append, Happening.after?, nested]

theorem EntryOf.nested (entry : EntryOf advices 0 succeeded account) :
    account.foldlM Happening.after? 0 = some 0 := by
  let level (position : Nat) (_ : Bool) (account : List Happening) : Prop :=
    account.foldlM Happening.after? position = some position
  have all : level 0 succeeded account := by
    refine entry.holds (fun _ tries => entryOf_nested (replicate_nested _ tries)) ?_
    intro position advice _ succeeded inside within
    refine entryOf_nested ?_
    cases within with
    | around hook _ entered => exact flatMap_nested entered
    | _ => simp_all [level, hookRun, Happening.after?, List.foldlM_append]
  exact all

theorem countP_flatMap_eq {counted other : Happening → Bool} {belows : List (List Happening)}
    (each : ∀ below ∈ belows, (Happening.proceeded position :: below).countP counted =
      (Happening.proceeded position :: below).countP other) :
    (belows.flatMap (.proceeded position :: ·)).countP counted =
      (belows.flatMap (.proceeded position :: ·)).countP other := by
  rw [List.countP_flatMap, List.countP_flatMap]
  exact congrArg List.sum (List.map_congr_left each)

theorem EntryOf.proceeds (entry : EntryOf advices 0 succeeded account) (within : position < advices.length) :
    account.count (.proceeded position) = account.countP (Happening.enters (position + 1)) := by
  -- The entry of the next position itself was proceeded to from outside.
  let balanced (here : Nat) (_ : Bool) (account : List Happening) : Prop :=
    account.countP (· == .proceeded position) + (if here = position + 1 then 1 else 0) =
      account.countP (Happening.enters (position + 1))
  have all : balanced 0 succeeded account := by
    refine entry.holds (fun succeeded tries => ?_) ?_
    · have apart : advices.length ≠ position := by omega
      simp [balanced, entryOf, List.countP_replicate, List.countP_cons, Happening.enters, apart]
    · intro here advice _ succeeded inside around
      cases around with
      | around hook _ entered =>
        have same := countP_flatMap_eq fun below member => show
            (Happening.proceeded here :: below).countP (· == .proceeded position) =
              (Happening.proceeded here :: below).countP (Happening.enters (position + 1)) by
          obtain ⟨_, deeper⟩ := entered below member
          simp_all [balanced, Happening.enters, List.countP_cons]
        simp [balanced, entryOf, Happening.enters, List.countP_cons, same]
      | _ =>
        simp_all [balanced, entryOf, hookRun, Happening.enters, List.countP_cons, List.countP_append]
        try omega
  simpa [balanced, List.count] using all

section Triggers

variable (advice : Advice Hook) (position here : Nat)

@[simp] theorem triggers_proceeded : advice.triggers position (.proceeded here) = false := by
  cases advice <;> simp [Advice.triggers, Happening.enters]

@[simp] theorem triggers_hookStarted : advice.triggers position (.mark (.hookStarted here)) = false := by
  cases advice <;> simp [Advice.triggers, Happening.enters]

@[simp] theorem triggers_hookEnded : advice.triggers position (.mark (.hookEnded here)) = false := by
  cases advice <;> simp [Advice.triggers, Happening.enters]

@[simp] theorem triggers_suppressed : advice.triggers position (.mark (.suppressed here)) = false := by
  cases advice <;> simp [Advice.triggers, Happening.enters]

variable {position here}

theorem triggers_opened (apart : here ≠ position) (isTarget : Bool) :
    advice.triggers position (.mark (.opened here isTarget)) = false := by
  cases advice <;> simp [Advice.triggers, Happening.enters, apart]

theorem triggers_closed (apart : here ≠ position) (succeeded : Bool) :
    advice.triggers position (.mark (.closed (here + 1) succeeded)) = false := by
  cases advice <;> simp [Advice.triggers, Happening.enters, apart]

end Triggers

theorem EntryOf.hooks (entry : EntryOf advices 0 succeeded account) {advice : Advice Hook}
    (found : advices[position]? = some advice) {mark : Mark}
    (own : mark = .hookStarted position ∨ mark = .hookEnded position) :
    account.count (.mark mark) = account.countP (advice.triggers position) := by
  -- The end of an entry of the next position is what the hook may yet run for.
  let balanced (here : Nat) (succeeded : Bool) (account : List Happening) : Prop :=
    account.countP (· == .mark mark) +
        (if advice.triggers position (.mark (.closed here succeeded)) then 1 else 0) =
      account.countP (advice.triggers position)
  have all : balanced 0 succeeded account := by
    refine entry.holds (fun succeeded tries => ?_) ?_
    · have apart : advices.length ≠ position := by
        obtain ⟨bound, _⟩ := List.getElem?_eq_some_iff.mp found
        omega
      rcases own with rfl | rfl <;>
        simp [balanced, entryOf, List.countP_replicate, List.countP_cons, triggers_opened advice apart]
    · intro here other met succeeded inside around
      cases around with
      | @around hook _ belows entered =>
        have aside : here ≠ position ∨ advice = .interceptor hook := by
          by_cases apart : here = position
          · subst apart
            exact .inr (Option.some.inj (found.symm.trans met))
          · exact .inl apart
        have opens : advice.triggers position (.mark (.opened here false)) = false := by
          rcases aside with apart | rfl
          · exact triggers_opened advice apart false
          · rfl
        have closes (outcome : Bool) :
            advice.triggers position (.mark (.closed (here + 1) outcome)) = false := by
          rcases aside with apart | rfl
          · exact triggers_closed advice apart outcome
          · rfl
        have same : (belows.flatMap (.proceeded here :: ·)).countP (· == .mark mark) =
            (belows.flatMap (.proceeded here :: ·)).countP (advice.triggers position) := by
          refine countP_flatMap_eq fun below member => ?_
          obtain ⟨_, deeper⟩ := entered below member
          simpa [balanced, closes, List.countP_cons] using deeper
        rcases own with rfl | rfl <;> simp [balanced, entryOf, List.countP_cons, opens, same]
      | _ =>
        by_cases apart : here = position
        · subst apart
          obtain rfl := Option.some.inj (found.symm.trans met)
          rcases own with rfl | rfl <;>
            simp_all [balanced, entryOf, hookRun, Happening.enters, Advice.triggers, List.countP_append]
        · rcases own with rfl | rfl <;>
            simp_all [balanced, entryOf, hookRun, triggers_opened, triggers_closed, List.countP_cons,
              List.countP_append]
  have first : advice.triggers position (.mark (.closed 0 succeeded)) = false := by
    cases advice <;> simp [Advice.triggers, Happening.enters]
  simpa [balanced, List.count, first] using all

theorem EntryOf.orderly (entry : EntryOf advices 0 succeeded account) : Orderly advices account where
  nested := entry.nested
  proceeds _ within := entry.proceeds within
  hooks _ _ found := ⟨entry.hooks found (.inl rfl), entry.hooks found (.inr rfl)⟩

end Laws

theorem entries_nest (code : Code app) {world : World app} {chain : ChainId} {cell : ChainCell app}
    {passage : Passage app} (known : world.chain? chain = some cell) (unstarted : cell.progress = .created)
    (complete : cell.chain.passage chain = .ok passage)
    (mixed : ∀ advice ∈ passage.advices, advice.Mixed code passage.invocation) :
    let told := (passage.recounted code).run ((unbounded code).marking passage) world
    let finish (after : World app) (outcome : Outcome app) : World app :=
      after.finished chain passage.invocation.method (ending outcome)
    unbounded code (.request (.driveChain chain)) world =
        told.map (fun answer => (answer.1.1, finish answer.2 answer.1.1)) ∧
      ∀ outcome account after, told = some ((outcome, account), after) →
        (finish after outcome).marks chain = world.marks chain ++ account.filterMap Happening.mark? ∧
          EntryOf passage.advices 0 outcome.isOk account ∧ Orderly passage.advices account := by
  intro told finish
  refine ⟨drive_eq_recounted code known unstarted complete, fun outcome account after ran => ?_⟩
  obtain rfl := passage_chain complete
  have there : (world.progress? passage.chain).isSome := by simp [World.progress?, known]
  obtain ⟨entry, marks⟩ := recounted_run (told_entry passage 0 mixed) there ran
  exact ⟨(marks_finished after _ _ _ _).trans marks, entry, entry.orderly⟩

theorem retried_entries_nest :
    let passage := Sample.passage [.interceptor .retry, .afterFinally .heed, .afterThrowing .refuse,
      .afterReturning .heed, .before .refuse]
    ∃ outcome account after,
      (passage.recounted Sample.code).run ((unbounded Sample.code).marking passage)
      (Sample.configured passage) =
        some ((outcome, account), after) ∧
      (account.filterMap Happening.mark?).count (.hookStarted 1) = 2 ∧
      EntryOf passage.advices 0 outcome.isOk account ∧ Orderly passage.advices account := by
  intro passage
  have complete : (Sample.chain passage).passage passage.chain = .ok passage := rfl
  have known : (Sample.configured passage).chain? passage.chain = some ⟨Sample.chain passage, .created⟩ := rfl
  have mixed : ∀ advice ∈ passage.advices, advice.Mixed Sample.code passage.invocation := by
    intro advice member
    simp only [passage, Sample.passage, List.mem_cons, List.not_mem_nil, or_false] at member
    rcases member with rfl | rfl | rfl | rfl | rfl
    · exact .inl ⟨_, rfl⟩
    · exact .inr ⟨trivial, fun _ => trivial⟩
    · exact .inr fun _ => ⟨trivial, fun _ => trivial⟩
    · exact .inr fun _ => ⟨trivial, fun _ => trivial⟩
    · exact .inr ⟨trivial, fun _ => trivial⟩
  obtain ⟨driven, nests⟩ := entries_nest Sample.code known rfl complete mixed
  obtain ⟨_, final, drives, twice⟩ := @unbounded_of_any _ Sample.code (.request (.driveChain passage.chain))
    (Sample.configured passage) (fun answer => (answer.2.marks passage.chain).count (.hookStarted 1) == 2) 9
    (by decide +kernel)
  rw [driven] at drives
  obtain ⟨⟨⟨outcome, account⟩, after⟩, told, same⟩ := Option.map_eq_some_iff.mp drives
  cases same
  obtain ⟨marks, entry, orderly⟩ := nests outcome account after told
  refine ⟨outcome, account, after, told, ?_, entry, orderly⟩
  have none : (Sample.configured passage).marks passage.chain = [] := rfl
  rw [← List.nil_append (account.filterMap _), ← none, ← marks]
  exact beq_iff_eq.mp twice

end BeanRegistry
