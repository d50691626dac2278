import BeanRegistry.Proofs.Chain.Entries

set_option autoImplicit false

namespace BeanRegistry

variable {app : Application} {code : Code app} {Result Other : Type}

open MarkedScript ToldScript

def Mark.position : Mark → Nat
  | .opened position _ | .closed position _ | .hookStarted position | .hookEnded position
  | .suppressed position =>
    position

-- Whenever the rest starts, the hook has just run in an entry of its own.
def Prompt (position : Nat) (marks : List Mark) : Prop :=
  ∀ earlier isTarget later, marks = earlier ++ .opened (position + 1) isTarget :: later →
    [.opened position false, .hookStarted position, .hookEnded position] <:+ earlier

def Unopened (position : Nat) (marks : List Mark) : Prop :=
  ∀ isTarget, .opened position isTarget ∉ marks

structure Additive (holds : List Mark → Prop) : Prop where
  nil : holds []
  append : ∀ {earlier later}, holds earlier → holds later → holds (earlier ++ later)

section Additive

variable {position : Nat}

theorem unopened_additive (position : Nat) : Additive (Unopened position) where
  nil _ := List.not_mem_nil
  append before rest isTarget opened := (List.mem_append.mp opened).elim (before isTarget) (rest isTarget)

theorem prompt_additive (position : Nat) : Additive (Prompt position) where
  nil earlier isTarget later same := by simp at same
  append {first second} before rest earlier isTarget later same := by
    rcases List.append_eq_append_iff.mp same with ⟨between, rfl, second_eq⟩ | ⟨between, first_eq, same⟩
    · exact (rest between isTarget later second_eq).trans (List.suffix_append _ _)
    · cases between with
      | nil => simpa [first_eq] using rest [] isTarget later (by simpa using same.symm)
      | cons mark between =>
        obtain ⟨rfl, _⟩ := List.cons.inj same
        exact before earlier isTarget between first_eq

theorem Prompt.of_other {mark : Mark} (other : ∀ isTarget, mark ≠ .opened (position + 1) isTarget) :
    Prompt position [mark] := by
  intro earlier isTarget later same
  cases earlier with
  | nil => exact absurd (List.cons.inj same).1 (other isTarget)
  | cons first earlier => simp at same

theorem Prompt.once {marks first between later : List Mark} {one other : Bool}
    (prompt : Prompt position marks)
    (twice : marks = first ++ .opened (position + 1) one ::
      (between ++ .opened (position + 1) other :: later)) :
    .opened position false ∈ between := by
  have whole : marks =
      (first ++ .opened (position + 1) one :: between) ++ .opened (position + 1) other :: later := by
    simp [twice]
  have ran := prompt _ other later whole
  rcases List.suffix_or_suffix_of_suffix ran (List.suffix_append _ _) with inside | around
  · rcases List.suffix_cons_iff.mp inside with same | within
    · simp at same
    · exact within.subset (by simp)
  · have opened := around.subset List.mem_cons_self
    simp at opened

end Additive

section Leaving

abbrev Leaves (holds : List Mark → Prop) (program : ToldScript app Result) : Prop :=
  Tells (fun _ account => holds (account.filterMap Happening.mark?)) program

variable {holds : List Mark → Prop} (additive : Additive holds) {position : Nat}
  {next : ToldScript app (Outcome app)}

include additive

theorem leaves_bind {program : ToldScript app Result} {rest : Result → ToldScript app Other}
    (leaves : Leaves holds program) (leave : ∀ result, Leaves holds (rest result)) :
    Leaves holds (program.bind rest) :=
  tells_bind leaves fun result account held => tells_mono (leave result) fun _ more later => by
    rw [List.filterMap_append]
    exact additive.append held later

theorem proceeding_leaves (leaves : Leaves holds next) : Leaves holds (proceeding position next) :=
  leaves_bind additive additive.nil fun _ => leaves

theorem hook_leaves (leaves : Leaves holds next) (script : HookScript app Result) :
    Leaves holds (HookScript.told position next script) := by
  induction script with
  | done result => exact additive.nil
  | ask operation rest ih =>
    cases operation with
    | common operation => exact ih
    | proceed => exact leaves_bind additive (proceeding_leaves additive leaves) ih

section Hooks

variable (hooked : ∀ mark ∈ [Mark.hookStarted position, .hookEnded position,
  .suppressed position], holds [mark])

include hooked

theorem hookTold_leaves (leaves : Leaves holds next) (script : HookScript app Result) :
    Leaves holds (hookTold position next script) := by
  refine leaves_bind additive (hooked (.hookStarted position) (by simp)) fun _ => ?_
  refine leaves_bind additive (hook_leaves additive leaves script) fun _ => ?_
  exact leaves_bind additive (hooked (.hookEnded position) (by simp)) fun _ => additive.nil

theorem advice_leaves (leaves : Leaves holds next) (invocation : Invocation app) (advice : Advice app.Hook) :
    Leaves holds (advice.told position next code invocation) := by
  have proceeds : Leaves holds (proceeding position next) := proceeding_leaves additive leaves
  have runs {Result : Type} (script : HookScript app Result) := hookTold_leaves additive hooked leaves script
  cases advice with
  | before hook =>
    refine leaves_bind additive (runs _) fun verdict => ?_
    cases verdict with
    | error failure => exact additive.nil
    | ok _ => exact proceeds
  | afterReturning hook =>
    refine leaves_bind additive proceeds fun outcome => ?_
    cases outcome with
    | error failure => exact additive.nil
    | ok result =>
      refine leaves_bind additive (runs _) fun verdict => ?_
      cases verdict <;> exact additive.nil
  | afterThrowing hook =>
    refine leaves_bind additive proceeds fun outcome => ?_
    cases outcome with
    | ok result => exact additive.nil
    | error failure =>
      refine leaves_bind additive (runs _) fun verdict => ?_
      cases verdict with
      | error other => exact additive.nil
      | ok result =>
        exact leaves_bind additive (hooked (.suppressed position) (by simp)) fun _ => additive.nil
  | afterFinally hook =>
    refine leaves_bind additive proceeds fun outcome => ?_
    exact leaves_bind additive (runs _) fun _ => additive.nil
  | interceptor hook => exact hook_leaves additive leaves _

end Hooks

variable (alone : ∀ mark : Mark, mark.position = position → holds [mark])

include alone

theorem entered_leaves (isTarget : Bool) {body : ToldScript app (Outcome app)} (leaves : Leaves holds body) :
    Leaves holds (entered position isTarget body) := by
  refine leaves_bind additive (alone (.opened position isTarget) rfl) fun _ => ?_
  refine leaves_bind additive leaves fun outcome => ?_
  exact leaves_bind additive (alone (.closed position outcome.isOk) rfl) fun _ => additive.nil

theorem entry_leaves (leaves : Leaves holds next) (invocation : Invocation app) (advice : Advice app.Hook) :
    Leaves holds (entered position false (advice.told position next code invocation)) := by
  refine entered_leaves additive alone false
    (advice_leaves additive (fun mark member => alone mark ?_) leaves _ advice)
  simp only [List.mem_cons, List.not_mem_nil, or_false] at member
  rcases member with rfl | rfl | rfl <;> rfl

omit alone in
theorem told_leaves (code : Code app) (passage : Passage app) (rest : List (Advice app.Hook))
    (alone : ∀ mark : Mark, position ≤ mark.position → holds [mark]) :
    Leaves holds (passage.told code position rest) := by
  induction rest generalizing position with
  | nil =>
    have away : Leaves holds (turnedAway : ToldScript app (Outcome app)) := additive.nil
    exact entered_leaves additive (fun mark here => alone mark here.ge) true (hook_leaves additive away _)
  | cons advice rest ih =>
    exact entry_leaves additive (fun mark here => alone mark here.ge)
      (ih fun mark deeper => alone mark (by omega)) _ advice

end Leaving

theorem told_starts (code : Code app) (passage : Passage app) (position : Nat)
    (rest : List (Advice app.Hook)) :
    Tells (fun _ account => ∃ isTarget more, account.filterMap Happening.mark? =
      .opened position isTarget :: more ∧
      Unopened position more) (passage.told code position rest) := by
  have additive := unopened_additive position
  have entry {body : ToldScript app (Outcome app)} (isTarget : Bool)
      (leaves : Leaves (Unopened position) body) : Tells (fun _ account => ∃ isTarget more,
        account.filterMap Happening.mark? = .opened position isTarget :: more ∧ Unopened position more)
        (entered position isTarget body) := by
    refine tells_mono (entered_tells leaves isTarget) fun outcome account entered => ?_
    obtain ⟨within, unopened, rfl⟩ := entered
    refine ⟨isTarget, within.filterMap Happening.mark? ++ [.closed position outcome.isOk], ?_, ?_⟩
    · simp [entryOf, Happening.mark?]
    · exact additive.append unopened fun _ => by simp
  cases rest with
  | nil =>
    have away : Leaves (Unopened position) (turnedAway : ToldScript app (Outcome app)) := additive.nil
    exact entry true (hook_leaves additive away _)
  | cons advice rest =>
    have deeper : Leaves (Unopened position) (passage.told code (position + 1) rest) := by
      refine told_leaves additive code passage rest fun mark below isTarget opened => ?_
      obtain rfl := List.mem_singleton.mp opened
      exact Nat.not_succ_le_self position below
    refine entry false (advice_leaves additive (fun mark member isTarget opened => ?_) deeper _ advice)
    obtain rfl := List.mem_singleton.mp opened
    simp at member

theorem Prompt.starting {position : Nat} {more : List Mark} (isTarget : Bool)
    (unopened : Unopened (position + 1) more) :
    Prompt position ([.opened position false, .hookStarted position, .hookEnded position] ++
      .opened (position + 1) isTarget :: more) := by
  intro earlier other later same
  rcases List.append_eq_append_iff.mp same with ⟨between, rfl, rest⟩ | ⟨between, ran, rest⟩
  · cases between with
    | nil => exact List.suffix_rfl
    | cons mark between =>
      obtain ⟨_, rfl⟩ := List.cons.inj rest
      exact absurd (by simp) (unopened other)
  · cases between with
    | nil => simp [ran]
    | cons mark between =>
      obtain ⟨rfl, _⟩ := List.cons.inj rest
      have member : Mark.opened (position + 1) other ∈
          earlier ++ .opened (position + 1) other :: between := by simp
      rw [← ran] at member
      simp at member

-- What follows a hook that does not proceed starts with the entry behind it, and there is no other.
theorem before_prompt {passage : Passage app} {position : Nat} {hook : app.Hook}
    (inner : List (Advice app.Hook))
    (common : (code.before hook passage.invocation).Every HookOperation.IsCommon) :
    Leaves (Prompt position) (passage.told code position (.before hook :: inner)) := by
  let deeper (_ : Bool) (account : List Happening) : Prop := ∃ isTarget more,
    account.filterMap Happening.mark? = .opened (position + 1) isTarget :: more ∧ Unopened (position + 1) more
  have starts : Tells (fun outcome account => deeper outcome.isOk account)
      (passage.told code (position + 1) inner) := told_starts code passage (position + 1) inner
  have modest : (Advice.before hook).Modest code passage.invocation := common
  refine tells_mono (entered_tells (advice_tells starts (.inr modest)) false)
    fun outcome account entered => ?_
  obtain ⟨within, inside, rfl⟩ := entered
  generalize outcome.isOk = succeeded at inside
  cases inside with
  | refused =>
    intro earlier isTarget later same
    have opened : Mark.opened (position + 1) isTarget ∈
        earlier ++ .opened (position + 1) isTarget :: later := by simp
    rw [← same] at opened
    simp [entryOf, hookRun, Happening.mark?] at opened
  | passed hook entered =>
    obtain ⟨isTarget, more, starts, unopened⟩ := entered
    have closes : Unopened (position + 1) [.closed position succeeded] := fun _ => by simp
    have prompt := Prompt.starting isTarget ((unopened_additive (position + 1)).append unopened closes)
    simpa [entryOf, hookRun, Happening.mark?, List.filterMap_cons, List.filterMap_append, starts] using prompt

theorem told_prompt {passage : Passage app} {watched position : Nat} {hook : app.Hook}
    {outer inner : List (Advice app.Hook)} (length : position + outer.length = watched)
    (common : (code.before hook passage.invocation).Every HookOperation.IsCommon) :
    Leaves (Prompt watched) (passage.told code position (outer ++ .before hook :: inner)) := by
  induction outer generalizing position with
  | nil =>
    obtain rfl : position = watched := length
    exact before_prompt inner common
  | cons advice outer ih =>
    rw [List.length_cons] at length
    refine entry_leaves (prompt_additive watched) (fun mark here => .of_other ?_) (ih (by omega)) _ advice
    rintro isTarget rfl
    have here : watched + 1 = position := here
    omega

section Alike

-- A program up to a mark has no result if it comes that far.
def MarkedScript.upTo (stop : Mark) : MarkedScript app Result → MarkedScript app (Option Result)
  | .done result => .done (some result)
  | .ask (.common operation) next => .ask (.common operation) fun answer => upTo stop (next answer)
  | .ask (.mark mark) next => .ask (.mark mark) fun _ =>
      if mark = stop then .done none else upTo stop (next ())

theorem upTo_bind (stop : Mark) (program : MarkedScript app Result) (next : Result → MarkedScript app Other) :
    upTo stop (program.bind next) = (upTo stop program).bind fun reached =>
      match reached with
      | none => .done none
      | some result => upTo stop (next result) := by
  induction program with
  | done result => rfl
  | ask operation rest ih =>
    cases operation with
    | common operation => simp only [Program.bind, upTo, ih]
    | mark mark =>
      simp only [Program.bind, upTo, ih]
      by_cases here : mark = stop <;> simp [here, Program.bind]

variable {stop : Mark}

theorem upTo_congr {program other : MarkedScript app Result} {next rest : Result → MarkedScript app Other}
    (alike : upTo stop program = upTo stop other)
    (later : ∀ result, upTo stop (next result) = upTo stop (rest result)) :
    upTo stop (program.bind next) = upTo stop (other.bind rest) := by
  simp only [upTo_bind, alike, later]

section Rests

variable {rest other : MarkedScript app (Outcome app)} (alike : upTo stop rest = upTo stop other)

include alike

theorem upTo_within (script : HookScript app Result) :
    upTo stop (HookScript.within rest script) = upTo stop (HookScript.within other script) := by
  induction script with
  | done result => rfl
  | ask operation next ih =>
    cases operation with
    | common operation => simp only [HookScript.within, upTo, ih]
    | proceed => exact upTo_congr alike ih

theorem upTo_hooked (position : Nat) (script : HookScript app Result) :
    upTo stop (hooked position rest script) = upTo stop (hooked position other script) := by
  refine upTo_congr rfl fun _ => ?_
  exact upTo_congr (upTo_within alike script) fun _ => rfl

theorem upTo_marked (code : Code app) (invocation : Invocation app) (position : Nat)
    (advice : Advice app.Hook) : upTo stop (advice.marked code invocation position rest) =
      upTo stop (advice.marked code invocation position other) := by
  cases advice with
  | before hook =>
    refine upTo_congr (upTo_hooked alike position _) fun verdict => ?_
    cases verdict with
    | error failure => rfl
    | ok _ => exact alike
  | afterReturning hook =>
    refine upTo_congr alike fun outcome => ?_
    cases outcome with
    | error failure => rfl
    | ok result => exact upTo_congr (upTo_hooked alike position _) fun _ => rfl
  | afterThrowing hook =>
    refine upTo_congr alike fun outcome => ?_
    cases outcome with
    | ok result => rfl
    | error failure => exact upTo_congr (upTo_hooked alike position _) fun _ => rfl
  | afterFinally hook =>
    refine upTo_congr alike fun outcome => ?_
    exact upTo_congr (upTo_hooked alike position _) fun _ => rfl
  | interceptor hook => exact upTo_within alike _

theorem upTo_surrounded (position : Nat) (isTarget : Bool) :
    upTo stop (surrounded position isTarget rest) = upTo stop (surrounded position isTarget other) := by
  refine upTo_congr rfl fun _ => ?_
  exact upTo_congr alike fun _ => rfl

end Rests

theorem upTo_before {invocation : Invocation app} {hook : app.Hook}
    (common : (code.before hook invocation).Every HookOperation.IsCommon) (position : Nat)
    (rest other : MarkedScript app (Outcome app)) :
    upTo (.hookEnded position) ((Advice.before hook).marked code invocation position rest) =
      upTo (.hookEnded position) ((Advice.before hook).marked code invocation position other) := by
  simp only [Advice.marked, hooked_eq_of_common common position rest,
    hooked_eq_of_common common position other]
  simp only [hooked, Program.bind_eq, Program.bind_assoc]
  refine upTo_congr rfl fun _ => upTo_congr rfl fun verdict => ?_
  simp only [mark, Program.bind, upTo, if_true]

theorem upTo_remaining {passage other : Passage app} {position watched : Nat} {hook : app.Hook}
    {outer : List (Advice app.Hook)} (length : position + outer.length = watched)
    (same : other.invocation = passage.invocation)
    (common : (code.before hook passage.invocation).Every HookOperation.IsCommon)
    (inner others : List (Advice app.Hook)) :
    upTo (.hookEnded watched) (passage.remaining code position (outer ++ .before hook :: inner)) =
      upTo (.hookEnded watched) (other.remaining code position (outer ++ .before hook :: others)) := by
  induction outer generalizing position with
  | nil =>
    obtain rfl : position = watched := length
    simp only [List.nil_append, Passage.remaining, same]
    exact upTo_congr rfl fun _ => upTo_congr (upTo_before common position _ _) fun _ => rfl
  | cons advice outer ih =>
    rw [List.length_cons] at length
    simp only [List.cons_append, Passage.remaining, same]
    exact upTo_surrounded (upTo_marked (ih (by omega)) code passage.invocation position advice) position false

end Alike

theorem hook_eq_of_common {script : HookScript app Result} (common : script.Every HookOperation.IsCommon)
    (handle : Handler app) (rest other : Eval app (Outcome app)) :
    handle.hook rest script = handle.hook other script := by
  induction script with
  | done result => rfl
  | ask operation next ih =>
    cases operation with
    | common operation => exact congrArg (Bind.bind _) (funext fun answer => ih answer (common.2 answer))
    | proceed => exact common.1.elim

theorem before_hooks_precede (code : Code app) {world : World app} {chain : ChainId} {cell : ChainCell app}
    {passage : Passage app} {position : Nat} {hook : app.Hook} (known : world.chain? chain = some cell)
    (unstarted : cell.progress = .created) (complete : cell.chain.passage chain = .ok passage)
    (found : passage.advices[position]? = some (.before hook))
    (common : (code.before hook passage.invocation).Every HookOperation.IsCommon) :
    unbounded code (.request (.driveChain chain)) world =
        passage.conduct (unbounded code) (passage.remaining code 0 passage.advices) world ∧
      (∀ outcome after, unbounded code (.request (.driveChain chain)) world = some (outcome, after) →
        ∃ marks, after.marks chain = world.marks chain ++ marks ∧ Prompt position marks ∧
          ∀ first between later one other,
            marks = first ++ .opened (position + 1) one ::
              (between ++ .opened (position + 1) other :: later) → .opened position false ∈ between) ∧
      (∀ handle rest other, runHook handle passage position rest (code.before hook passage.invocation) =
        runHook handle passage position other (code.before hook passage.invocation)) ∧
      ∀ other : Passage app, other.invocation = passage.invocation →
        other.advices.take (position + 1) = passage.advices.take (position + 1) →
          upTo (.hookEnded position) (other.remaining code 0 other.advices) =
            upTo (.hookEnded position) (passage.remaining code 0 passage.advices) := by
  obtain ⟨bound, here⟩ := List.getElem?_eq_some_iff.mp found
  have outer_length : 0 + (passage.advices.take position).length = position := by
    rw [List.length_take]
    omega
  have taken : passage.advices.take (position + 1) = passage.advices.take position ++ [.before hook] := by
    rw [List.take_add_one, found]
    rfl
  have split {advices : List (Advice app.Hook)}
      (shared : advices.take (position + 1) = passage.advices.take (position + 1)) :
      advices = passage.advices.take position ++ .before hook :: advices.drop (position + 1) := by
    rw [List.append_cons, ← taken, ← shared, List.take_append_drop]
  have prompt : Leaves (Prompt position) (passage.told code 0 passage.advices) := by
    rw [split rfl]
    exact told_prompt outer_length common
  refine ⟨drive_eq_conduct code known unstarted complete, fun outcome after drove => ?_,
    fun handle rest other => ?_, fun other same shared => ?_⟩
  · rw [drive_eq_recounted code known unstarted complete] at drove
    obtain ⟨⟨⟨ended, account⟩, last⟩, ran, same⟩ := Option.map_eq_some_iff.mp drove
    cases same
    obtain rfl := passage_chain complete
    have there : (world.progress? passage.chain).isSome := by simp [World.progress?, known]
    obtain ⟨held, marks⟩ := recounted_run prompt there ran
    exact ⟨_, (marks_finished last _ _ _ _).trans marks, held, fun _ _ _ _ _ => held.once⟩
  · simp only [runHook, hook_eq_of_common common handle rest other]
  · rw [split rfl, split shared]
    exact (upTo_remaining outer_length same common _ _).symm

theorem Sample.retried_hook_precedes :
    let passage := { Sample.passage [.interceptor .retry, .before .heed] with targetMethod := .refuse }
    let hook := Sample.code.before .heed passage.invocation
    ∃ outcome after, unbounded Sample.code (.request (.driveChain passage.chain))
      (Sample.configured passage) =
        some (outcome, after) ∧ Prompt 1 (after.marks passage.chain) ∧
      (after.marks passage.chain).count (.opened 2 true) = 2 ∧
      runHook (unbounded Sample.code) passage 1 (pure (.ok .void)) hook =
        runHook (unbounded Sample.code) passage 1 (pure (.error Sample.refusal)) hook := by
  intro passage hook
  have complete : (Sample.chain passage).passage passage.chain = .ok passage := rfl
  have known : (Sample.configured passage).chain? passage.chain = some ⟨Sample.chain passage, .created⟩ := rfl
  have found : passage.advices[1]? = some (.before .heed) := rfl
  obtain ⟨_, precedes, blind, _⟩ :=
    before_hooks_precede Sample.code known rfl complete found ⟨trivial, fun _ => trivial⟩
  obtain ⟨outcome, after, drives, twice⟩ :=
    @unbounded_of_any _ Sample.code (.request (.driveChain passage.chain))
    (Sample.configured passage) (fun answer => (answer.2.marks passage.chain).count (.opened 2 true) == 2) 9
    (by decide +kernel)
  obtain ⟨marks, whole, prompt, _⟩ := precedes outcome after drives
  have none : (Sample.configured passage).marks passage.chain = [] := rfl
  rw [none, List.nil_append] at whole
  exact ⟨outcome, after, drives, whole ▸ prompt, beq_iff_eq.mp twice, blind _ _ _⟩

-- A before hook that runs the call ahead of time, and refuses it if it fails.
def Sample.prying : Code Sample.app :=
  { Sample.code with
    before := fun _ _ => do
      match ← (.ask .proceed .done : HookScript Sample.app (Outcome Sample.app)) with
      | .ok _ => pure (.ok ())
      | .error failure => pure (.error failure) }

theorem Sample.prying_hook_sees_result :
    let passage := Sample.passage [.before .heed]
    let hook := Sample.prying.before .heed passage.invocation
    (∃ outcome after, unbounded Sample.prying (.request (.driveChain passage.chain))
      (Sample.configured passage) =
        some (outcome, after) ∧
      after.marks passage.chain = [.opened 0 false, .hookStarted 0, .opened 1 true,
        .closed 1 true, .hookEnded 0,
        .opened 1 true, .closed 1 true, .closed 0 true] ∧ ¬ Prompt 0 (after.marks passage.chain)) ∧
      runHook (unbounded Sample.prying) passage 0 (pure (.ok .void)) hook ≠
        runHook (unbounded Sample.prying) passage 0 (pure (.error Sample.refusal)) hook := by
  intro passage hook
  constructor
  · let looked : List Mark := [.opened 0 false, .hookStarted 0, .opened 1 true, .closed 1 true, .hookEnded 0,
      .opened 1 true, .closed 1 true, .closed 0 true]
    obtain ⟨outcome, after, drives, marks⟩ := @unbounded_of_any _ Sample.prying
      (.request (.driveChain passage.chain)) (Sample.configured passage)
      (fun answer => answer.2.marks passage.chain == looked) 9 (by decide +kernel)
    have marks := beq_iff_eq.mp marks
    refine ⟨outcome, after, drives, marks, fun prompt => ?_⟩
    have early := (prompt [.opened 0 false, .hookStarted 0] true _ marks).length_le
    simp at early
  · intro same
    have verdicts : some (Except.ok (), _) = some (Except.error Sample.refusal, _) :=
      congrFun same (Sample.configured passage)
    simp at verdicts

end BeanRegistry
