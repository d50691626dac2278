import BeanRegistry.Proofs.Chain.Marked
import BeanRegistry.Proofs.Run.Requests
import BeanRegistry.Proofs.Sample

set_option autoImplicit false

namespace BeanRegistry

variable {app : Application} {Result : Type}

open MarkedScript

def HookOperation.IsCommon : HookOperation app → Prop
  | .common _ => True
  | .proceed => False

def Advice.Modest (code : Code app) (invocation : Invocation app) : Advice app.Hook → Prop
  | .before hook => (code.before hook invocation).Every HookOperation.IsCommon
  | .afterReturning hook =>
    ∀ result, (code.afterReturning hook result invocation).Every HookOperation.IsCommon
  | .afterThrowing hook =>
    ∀ failure, (code.afterThrowing hook failure invocation).Every HookOperation.IsCommon
  | .afterFinally hook => (code.afterFinally hook invocation).Every HookOperation.IsCommon
  | .interceptor _ => False

theorem within_eq_of_common {script : HookScript app Result}
    (common : script.Every HookOperation.IsCommon) (rest other : MarkedScript app (Outcome app)) :
    HookScript.within rest script = HookScript.within other script := by
  induction script with
  | done result => rfl
  | ask operation next ih =>
    cases operation with
    | common operation =>
      exact congrArg (Program.ask _) (funext fun answer => ih answer (common.2 answer))
    | proceed => exact common.1.elim

theorem hooked_eq_of_common {script : HookScript app Result}
    (common : script.Every HookOperation.IsCommon) (position : Nat)
    (rest : MarkedScript app (Outcome app)) :
    hooked position rest script = hooked position exhausted script := by
  simp only [hooked, within_eq_of_common common rest exhausted]

section Passes

variable (code : Code app) (invocation : Invocation app)

-- What was passed on the way in, the latest first, and the failure that ended it.
def inward : Nat → List (Nat × Advice app.Hook) → List (Advice app.Hook) →
    MarkedScript app (List (Nat × Advice app.Hook) × Option Failure)
  | _, passed, [] => pure (passed, none)
  | position, passed, .before hook :: rest => do
    mark (.opened position false)
    match ← hooked position exhausted (code.before hook invocation) with
    | .error failure =>
      mark (.closed position false)
      pure (passed, some failure)
    | .ok () => inward (position + 1) ((position, .before hook) :: passed) rest
  | position, passed, advice :: rest => do
    mark (.opened position false)
    inward (position + 1) ((position, advice) :: passed) rest

def leave (position : Nat) : Advice app.Hook → Outcome app → MarkedScript app (Outcome app)
  | .afterReturning hook, .ok result => do
    match ← hooked position exhausted (code.afterReturning hook result invocation) with
    | .error failure => pure (.error failure)
    | .ok () => pure (.ok result)
  | .afterThrowing hook, .error failure => do
    match ← hooked position exhausted (code.afterThrowing hook failure invocation) with
    | .error other => pure (.error other)
    | .ok result =>
      mark (.suppressed position)
      pure (.ok result)
  | .afterFinally hook, outcome => do
    hooked position exhausted (code.afterFinally hook invocation)
    pure outcome
  | _, outcome => pure outcome

def outward : List (Nat × Advice app.Hook) → Outcome app → MarkedScript app (Outcome app)
  | [], outcome => pure outcome
  | (position, advice) :: earlier, outcome => do
    let outcome ← leave code invocation position advice outcome
    mark (.closed position outcome.isOk)
    outward earlier outcome

end Passes

def Passage.reach (code : Code app) (passage : Passage app) :
    Option Failure → MarkedScript app (Outcome app)
  | some failure => pure (.error failure)
  | none =>
    surrounded passage.advices.length true
      (HookScript.within exhausted (code.target passage.targetMethod passage.invocation))

def Passage.twoPasses (code : Code app) (passage : Passage app) : MarkedScript app (Outcome app) := do
  let (passed, refusal) ← inward code passage.invocation 0 [] passage.advices
  let outcome ← passage.reach code refusal
  outward code passage.invocation passed outcome

theorem marked_before (code : Code app) (invocation : Invocation app) (position : Nat)
    (rest : MarkedScript app (Outcome app)) (hook : app.Hook)
    (modest : (Advice.before hook).Modest code invocation) :
    (Advice.before hook).marked code invocation position rest =
      (hooked position exhausted (code.before hook invocation)).bind fun outcome =>
        match outcome with
        | .error failure => .done (.error failure)
        | .ok () => rest := by
  simp only [Advice.marked, hooked_eq_of_common modest position rest]
  rfl

theorem marked_after (code : Code app) (invocation : Invocation app) (position : Nat)
    (rest : MarkedScript app (Outcome app)) (advice : Advice app.Hook)
    (modest : advice.Modest code invocation) (after : ∀ hook, advice ≠ .before hook) :
    advice.marked code invocation position rest =
      rest.bind (leave code invocation position advice) := by
  cases advice with
  | before hook => exact absurd rfl (after hook)
  | interceptor hook => exact modest.elim
  | afterReturning hook =>
    refine congrArg (Program.bind rest) (funext fun outcome => ?_)
    cases outcome with
    | error failure => rfl
    | ok result =>
      have common := hooked_eq_of_common (modest result) position rest
      exact congrArg (fun hooks => Program.bind hooks _) common
  | afterThrowing hook =>
    refine congrArg (Program.bind rest) (funext fun outcome => ?_)
    cases outcome with
    | ok result => rfl
    | error failure =>
      have common := hooked_eq_of_common (modest failure) position rest
      exact congrArg (fun hooks => Program.bind hooks _) common
  | afterFinally hook =>
    refine congrArg (Program.bind rest) (funext fun outcome => ?_)
    simp only [leave, hooked_eq_of_common modest position rest]

theorem inward_after (code : Code app) (invocation : Invocation app) (position : Nat)
    (passed : List (Nat × Advice app.Hook)) (advice : Advice app.Hook)
    (rest : List (Advice app.Hook)) (after : ∀ hook, advice ≠ .before hook) :
    inward code invocation position passed (advice :: rest) =
      (mark (.opened position false)).bind fun _ =>
        inward code invocation (position + 1) ((position, advice) :: passed) rest := by
  cases advice with
  | before hook => exact absurd rfl (after hook)
  | afterReturning _ | afterThrowing _ | afterFinally _ | interceptor _ => rfl

-- What is left of both passes is the rest of the passage, followed by the way out from here.
theorem passes_eq_remaining (code : Code app) (passage : Passage app) (position : Nat)
    (passed : List (Nat × Advice app.Hook)) (rest : List (Advice app.Hook))
    (length : position + rest.length = passage.advices.length)
    (modest : ∀ advice ∈ rest, advice.Modest code passage.invocation) :
    ((inward code passage.invocation position passed rest).bind fun reached =>
        (passage.reach code reached.2).bind (outward code passage.invocation reached.1)) =
      (passage.remaining code position rest).bind (outward code passage.invocation passed) := by
  induction rest generalizing position passed with
  | nil =>
    obtain rfl : position = passage.advices.length := length
    rfl
  | cons advice rest ih =>
    rw [List.length_cons] at length
    have here := modest advice (by simp)
    have next := ih (position + 1) ((position, advice) :: passed) (by omega)
      (fun other member => modest other (by simp [member]))
    by_cases before : ∃ hook, advice = .before hook
    · obtain ⟨hook, rfl⟩ := before
      simp only [Passage.remaining, surrounded, Program.bind_eq, Program.bind_assoc,
        marked_before _ _ _ _ _ here, inward]
      refine congrArg (Program.bind _) (funext fun _ => congrArg (Program.bind _) ?_)
      funext verdict
      cases verdict with
      | error failure => rfl
      | ok _ =>
        refine next.trans (congrArg (Program.bind _) (funext fun outcome => ?_))
        rfl
    · have after : ∀ hook, advice ≠ .before hook := fun hook same => before ⟨hook, same⟩
      simp only [Passage.remaining, surrounded, Program.bind_eq, Program.bind_assoc,
        marked_after _ _ _ _ _ here after, inward_after _ _ _ _ _ _ after, next]
      rfl

theorem twoPasses_eq (code : Code app) (passage : Passage app)
    (modest : ∀ advice ∈ passage.advices, advice.Modest code passage.invocation) :
    passage.twoPasses code = passage.remaining code 0 passage.advices := by
  have passes := passes_eq_remaining code passage 0 [] passage.advices (Nat.zero_add _) modest
  exact passes.trans (Program.bind_done _)

section Once

variable (watched : Nat)

def Starts (operation : MarkedOperation app) : Prop :=
  operation = .mark (.hookStarted watched)

def startsAt (position : Nat) : Nat :=
  if watched = position then 1 else 0

def startsFrom (position : Nat) : Nat :=
  if watched < position then 0 else 1

theorem startsFrom_split (position : Nat) :
    startsFrom watched position = startsAt watched position + startsFrom watched (position + 1) := by
  unfold startsFrom startsAt
  by_cases earlier : watched < position
  · have different : watched ≠ position := by omega
    have still : watched < position + 1 := by omega
    simp [earlier, different, still]
  · by_cases same : watched = position
    · simp [same]
    · have later : ¬ watched < position + 1 := by omega
      simp [earlier, same, later]

variable {watched}

theorem mark_starts {made : Mark} (other : made ≠ .hookStarted watched) :
    (mark made : MarkedScript app Unit).AtMost (Starts watched) 0 :=
  .pass (fun same => other (MarkedOperation.mark.inj same)) fun _ => .done _

theorem within_starts (script : HookScript app Result) :
    (HookScript.within exhausted script).AtMost (Starts watched) 0 := by
  induction script with
  | done result => exact .done result
  | ask operation next ih =>
    cases operation with
    | common operation => exact .pass (fun same => nomatch same) ih
    | proceed => exact ih _

theorem hooked_starts (position : Nat) (script : HookScript app Result) :
    (hooked position exhausted script).AtMost (Starts watched) (startsAt watched position) := by
  have ended : ((HookScript.within exhausted script).bind fun result =>
      (mark (.hookEnded position)).bind fun _ => .done result).AtMost (Starts watched) 0 :=
    Program.none_bind (within_starts script) fun result =>
      Program.none_bind (mark_starts nofun) fun _ => .done result
  unfold startsAt
  by_cases here : watched = position
  · rw [if_pos here]
    exact .spend fun _ => ended
  · rw [if_neg here]
    exact .pass (fun same => here (by cases same; rfl)) fun _ => ended

theorem leave_starts (code : Code app) (invocation : Invocation app) (position : Nat)
    (advice : Advice app.Hook) (modest : advice.Modest code invocation) (outcome : Outcome app) :
    (leave code invocation position advice outcome).AtMost (Starts watched)
      (startsAt watched position) := by
  cases advice with
  | before hook => exact .done _
  | interceptor hook => exact modest.elim
  | afterReturning hook =>
    cases outcome with
    | error failure => exact .done _
    | ok result =>
      refine Program.bind_none (hooked_starts position _) fun verdict => ?_
      cases verdict <;> exact .done _
  | afterThrowing hook =>
    cases outcome with
    | ok result => exact .done _
    | error failure =>
      refine Program.bind_none (hooked_starts position _) fun verdict => ?_
      cases verdict with
      | error other => exact .done _
      | ok result => exact Program.none_bind (mark_starts nofun) fun _ => .done _
  | afterFinally hook =>
    exact Program.bind_none (hooked_starts position _) fun _ => .done _

theorem marked_starts (code : Code app) (invocation : Invocation app) (position : Nat)
    (rest : MarkedScript app (Outcome app)) (advice : Advice app.Hook)
    (modest : advice.Modest code invocation) {count : Nat}
    (starts : rest.AtMost (Starts watched) count) :
    (advice.marked code invocation position rest).AtMost (Starts watched)
      (startsAt watched position + count) := by
  by_cases before : ∃ hook, advice = .before hook
  · obtain ⟨hook, rfl⟩ := before
    rw [marked_before _ _ _ _ _ modest]
    refine Program.atMost_bind (hooked_starts position _) fun verdict => ?_
    cases verdict with
    | error failure => exact .done _
    | ok _ => exact starts
  · have after : ∀ hook, advice ≠ .before hook := fun hook same => before ⟨hook, same⟩
    rw [marked_after _ _ _ _ _ modest after, Nat.add_comm]
    exact Program.atMost_bind starts (leave_starts code invocation position advice modest)

theorem surrounded_starts (position : Nat) (isTarget : Bool)
    {body : MarkedScript app (Outcome app)} {count : Nat}
    (starts : body.AtMost (Starts watched) count) :
    (surrounded position isTarget body).AtMost (Starts watched) count :=
  Program.none_bind (mark_starts nofun) fun _ =>
    Program.bind_none starts fun _ => Program.none_bind (mark_starts nofun) fun _ => .done _

theorem remaining_starts (code : Code app) (passage : Passage app) (position : Nat)
    (rest : List (Advice app.Hook)) (modest : ∀ advice ∈ rest, advice.Modest code passage.invocation) :
    (passage.remaining code position rest).AtMost (Starts watched) (startsFrom watched position) := by
  induction rest generalizing position with
  | nil =>
    exact (surrounded_starts position true (within_starts _)).weaken (Nat.zero_le _)
  | cons advice rest ih =>
    have next := ih (position + 1) fun other member => modest other (by simp [member])
    rw [startsFrom_split]
    exact surrounded_starts position false
      (marked_starts code _ position _ advice (modest advice (by simp)) next)

end Once

theorem drive_makes_two_passes (code : Code app) {world : World app} {chain : ChainId}
    {cell : ChainCell app} {passage : Passage app} (known : world.chain? chain = some cell)
    (unstarted : cell.progress = .created) (complete : cell.chain.passage chain = .ok passage)
    (modest : ∀ advice ∈ passage.advices, advice.Modest code passage.invocation) :
    unbounded code (.request (.driveChain chain)) world =
        passage.conduct (unbounded code) (passage.twoPasses code) world ∧
      ∀ position, (passage.twoPasses code).AtMost (Starts position) 1 := by
  rw [twoPasses_eq code passage modest]
  refine ⟨drive_eq_conduct code known unstarted complete, fun position => ?_⟩
  have starts : (passage.remaining code 0 passage.advices).AtMost (Starts position)
      (startsFrom position 0) := remaining_starts code passage 0 passage.advices modest
  simpa [startsFrom] using starts

theorem mixed_drive_makes_two_passes :
    let passage := Sample.passage [.before .heed, .afterThrowing .heed, .afterFinally .heed,
      .afterReturning .refuse, .before .refuse, .before .heed]
    let world := Sample.configured passage
    (∀ advice ∈ passage.advices, advice.Modest Sample.code passage.invocation) ∧
      unbounded Sample.code (.request (.driveChain passage.chain)) world =
        passage.conduct (unbounded Sample.code) (passage.twoPasses Sample.code) world ∧
      ∀ position, (passage.twoPasses Sample.code).AtMost (Starts position) 1 := by
  intro passage world
  have modest : ∀ advice ∈ passage.advices, advice.Modest Sample.code passage.invocation := by
    intro advice member
    simp only [passage, Sample.passage, List.mem_cons, List.not_mem_nil, or_false] at member
    rcases member with rfl | rfl | rfl | rfl | rfl | rfl
    · exact ⟨trivial, fun _ => trivial⟩
    · exact fun _ => ⟨trivial, fun _ => trivial⟩
    · exact ⟨trivial, fun _ => trivial⟩
    · exact fun _ => ⟨trivial, fun _ => trivial⟩
    · exact ⟨trivial, fun _ => trivial⟩
    · exact ⟨trivial, fun _ => trivial⟩
  exact ⟨modest, drive_makes_two_passes Sample.code rfl rfl rfl modest⟩

end BeanRegistry
