import BeanRegistry.Proofs.Chain.Forward
import BeanRegistry.Proofs.Run.Kept

set_option autoImplicit false

namespace BeanRegistry

variable {app : Application} {code : Code app}

def unwrappedAs (kind : Kind) : Outcome app → Except Failure (kind.Carrier app.Content)
  | .error failure => .error failure
  | .ok value => (value.unwrap kind).mapError .chain

theorem unwrappedAs_eq_ok_iff {kind : Kind} {outcome : Outcome app} {carried : kind.Carrier app.Content} :
    unwrappedAs kind outcome = .ok carried ↔ outcome = .ok (.wrap kind carried) := by
  cases outcome with
  | error failure => simp [unwrappedAs]
  | ok value =>
    rw [Except.ok.injEq, ← Value.unwrap_eq_ok_iff]
    cases unwrapped : value.unwrap kind <;> simp [unwrappedAs, unwrapped, Except.mapError]

theorem script_driveAs (handle : Handler app) (kind : Kind) (chain : ChainId) (world : World app) :
    handle.script (Script.driveAs kind chain) world =
      (handle (.request (.driveChain chain)) world).map (Prod.map (unwrappedAs kind) id) := by
  rw [Script.driveAs, Handler.script_bind, Script.drive, Script.request, Handler.script_request]
  cases handle (.request (.driveChain chain)) world with
  | none => rfl
  | some answer =>
    obtain ⟨outcome, after⟩ := answer
    cases outcome with
    | error failure => rfl
    | ok value =>
      simp only [Option.bind_some, Option.map_some, Prod.map, unwrappedAs, id]
      cases value.unwrap kind <;> rfl

def Settled (chain : ChainId) (before after : World app) : Prop :=
  ∀ early, before.progress? chain = some early →
    ∃ late, after.progress? chain = some late ∧ (early.isFinished = true → late = early)

section Settled

variable {chain : ChainId} {before after : World app}

theorem Settled.refl (world : World app) : Settled chain world world :=
  fun early known => ⟨early, known, fun _ => rfl⟩

theorem Settled.trans {first middle last : World app} (before : Settled chain first middle)
    (rest : Settled chain middle last) : Settled chain first last := by
  intro early found
  obtain ⟨late, known, ends⟩ := before early found
  obtain ⟨last, final, ends_on⟩ := rest late known
  refine ⟨last, final, fun finished => ?_⟩
  obtain rfl := ends finished
  exact ends_on finished

theorem Risen.settled (risen : Risen before after) : Settled chain before after := by
  intro early found
  obtain ⟨late, known, _, _, ends⟩ := risen chain early found
  exact ⟨late, known, ends⟩

theorem Settled.finished {middle : World app} (settled : Settled chain before middle) {driven : ChainId}
    (unfinished : before.progress? driven = some .created) (method : Method) (last : Progress) :
    Settled chain before (middle.finished driven method last) := by
  intro early found
  obtain ⟨late, known, ends⟩ := settled early found
  rw [World.progress?_finished, known]
  by_cases own : driven = chain
  · subst own
    obtain rfl := Option.some.inj (unfinished.symm.trans found)
    exact ⟨last, by simp, fun finished => nomatch finished⟩
  · exact ⟨late, if_neg own, ends⟩

theorem driveChain_settled {handle : Handler app} (handled : handle.Keeps (Settled chain)) {driven : ChainId}
    {outcome : Outcome app} (drove : driveChain handle driven before = some (outcome, after)) :
    Settled chain before after := by
  cases known : before.chain? driven with
  | none =>
    rw [driveChain_unknown known] at drove
    cases drove
    exact .refl before
  | some cell =>
    by_cases unstarted : cell.progress = .created
    · cases complete : cell.chain.passage driven with
      | error piece =>
        rw [driveChain_unready known unstarted complete] at drove
        cases drove
        exact .refl before
      | ok passage =>
        rw [driveChain_started known unstarted complete] at drove
        obtain ⟨⟨proceeded, middle⟩, passed, ended⟩ := Option.bind_eq_some_iff.mp drove
        cases ended
        have created : before.progress? driven = some .created := by simp [World.progress?, known, unstarted]
        exact (handled (.proceed passage 0) before middle proceeded passed).finished created _ _
    · rw [driveChain_refused known unstarted] at drove
      cases drove
      exact .refl before

theorem settled_keeps (code : Code app) (chain : ChainId) : code.Keeps (Settled chain) where
  trans := Settled.trans
  plain move := move.still.risen.settled
  produced {_} handled _ {factory recipe world after outcome} _ produced :=
    Discipline.produceByRecipe_holds code (fun move => move.plain.still.risen.settled)
      (handled.handles Settled.trans).answers (fun move => move.still.risen.settled) factory
        recipe world outcome
      after produced
  driven {_} handled {_ _ _ _} drove := driveChain_settled handled drove
  proceeded {_} handled {passage position world after outcome} proceeded :=
    Discipline.proceedAt_holds code (fun move => move.plain.still.risen.settled)
      (handled.handles Settled.trans).answers (fun move => move.risen.settled) position
      (handled.handles Settled.trans (.proceed passage (position + 1))) world outcome after proceeded

end Settled

section Drives

variable {chain : ChainId} {world after : World app}

theorem drive_returned {value : Value app.Content}
    (drove : unbounded code (.request (.driveChain chain)) world = some (.ok value, after)) :
    after.progress? chain = some .returned := by
  rw [unbounded_request] at drove
  change driveChain (unbounded code) chain world = _ at drove
  cases known : world.chain? chain with
  | none => simp [driveChain_unknown known] at drove
  | some cell =>
    by_cases unstarted : cell.progress = .created
    · cases complete : cell.chain.passage chain with
      | error piece => simp [driveChain_unready known unstarted complete] at drove
      | ok passage =>
        rw [driveChain_started known unstarted complete] at drove
        obtain ⟨⟨outcome, middle⟩, passed, ended⟩ := Option.bind_eq_some_iff.mp drove
        cases ended
        have created : world.progress? chain = some .created := by simp [World.progress?, known, unstarted]
        obtain ⟨late, stands, _⟩ := (settled_keeps code chain).unbounded_keeps _ _ _ _ passed _ created
        rw [World.progress?_finished, if_pos rfl, stands]
        rfl
    · simp [driveChain_refused known unstarted] at drove

theorem drive_settled {progress : Progress} (stands : world.progress? chain = some progress)
    (finished : progress.isFinished = true) {Result : Type} {script : Script app Result} {result : Result}
    (ran : (unbounded code).script script world = some (result, after)) :
    after.progress? chain = some progress ∧
      unbounded code (.request (.driveChain chain)) after =
        some (.error (.chain (.alreadyProceeded progress)), after) ∧
      ∀ kind, (unbounded code).script (Script.driveAs kind chain) after =
        some (.error (.chain (.alreadyProceeded progress)), after) := by
  have keeps := settled_keeps code chain
  have kept : Settled chain world after :=
    Discipline.script_holds keeps.careful (keeps.unbounded_keeps.handles keeps.trans).answers script world
      result after ran
  obtain ⟨late, standing, ends⟩ := kept progress stands
  obtain rfl := ends finished
  obtain ⟨cell, known, rfl⟩ := Option.map_eq_some_iff.mp standing
  have refused : unbounded code (.request (.driveChain chain)) after =
      some (.error (.chain (.alreadyProceeded cell.progress)), after) := by
    rw [unbounded_request]
    refine driveChain_refused known fun created => ?_
    simp [created, Progress.isFinished] at finished
  refine ⟨standing, refused, fun kind => ?_⟩
  rw [script_driveAs, refused]
  rfl

end Drives

section Conveying

variable (code) (handle : Handler app) (passage : Passage app) (value : Value app.Content)
  (deeper : World app → World app → Prop)

-- An interceptor asks and proceeds as it likes, and hands on the value once proceeding gave it.
inductive HookScript.Relays (rest : Eval app (Outcome app)) :
    HookScript app (Outcome app) → World app → World app → Prop where
  | asked {operation : Operation app} {next : operation.Answer → HookScript app (Outcome app)}
      {world middle after : World app} {answer : operation.Answer}
      (answered : handle (.request operation) world = some (answer, middle))
      (further : Relays rest (next answer) middle after) :
      Relays rest (.ask (.common operation) next) world after
  | proceeded {next : Outcome app → HookScript app (Outcome app)} {world middle after : World app}
      {outcome : Outcome app} (came : rest world = some (outcome, middle))
      (further : Relays rest (next outcome) middle after) : Relays rest (.ask .proceed next) world after
  | handed {next : Outcome app → HookScript app (Outcome app)} {world middle after : World app}
      (conveyed : deeper world middle)
      (returned : handle.hook rest (next (.ok value)) middle = some (.ok value, after)) :
      Relays rest (.ask .proceed next) world after

def Advice.HandsOn (position : Nat) : Advice app.Hook → World app → World app → Prop :=
  let rest := handle (.proceed passage (position + 1))
  let succeeds (script : HookScript app (Except Failure Unit)) (world after : World app) : Prop :=
    runHook handle passage position rest script world = some (.ok (), after)
  fun
  | .before hook, world, after =>
    ∃ middle, succeeds (code.before hook passage.invocation) world middle ∧ deeper middle after
  | .afterReturning hook, world, after =>
    ∃ middle, deeper world middle ∧ succeeds (code.afterReturning hook value passage.invocation) middle after
  | .afterThrowing _, world, after => deeper world after
  | .afterFinally hook, world, after => ∃ middle, deeper world middle ∧
    runHook handle passage position rest (code.afterFinally hook passage.invocation) middle = some ((), after)
  | .interceptor hook, world, after =>
    (code.around hook passage.invocation).Relays handle value deeper rest world after

def Passage.Conveys : List (Advice app.Hook) → Nat → World app → World app → Prop
  | [], position, world, after => unbounded code (.proceed passage position) world = some (.ok value, after)
  | advice :: inner, position, world, after => ∃ within,
    advice.HandsOn code (unbounded code) passage value (Conveys inner (position + 1)) position
        (world.opened passage position false) within ∧
      after = within.note (.closed passage.chain position true)

variable {code handle passage value deeper} {position : Nat} {world after : World app}

theorem relays_returns {rest : Eval app (Outcome app)} {script : HookScript app (Outcome app)}
    (conveyed : ∀ world after, deeper world after → rest world = some (.ok value, after))
    (relays : script.Relays handle value deeper rest world after) :
    handle.hook rest script world = some (.ok value, after) := by
  induction relays with
  | asked answered _ ih => exact Eval.bind_eq_some_iff.mpr ⟨_, _, answered, ih⟩
  | proceeded came _ ih => exact Eval.bind_eq_some_iff.mpr ⟨_, _, came, ih⟩
  | handed conveys returned => exact Eval.bind_eq_some_iff.mpr ⟨_, _, conveyed _ _ conveys, returned⟩

theorem handsOn_returns {advice : Advice app.Hook}
    (conveyed : ∀ world after, deeper world after →
      handle (.proceed passage (position + 1)) world = some (.ok value, after))
    (hands : advice.HandsOn code handle passage value deeper position world after) :
    invokeAdvice code handle passage position (handle (.proceed passage (position + 1))) advice world =
      some (.ok value, after) := by
  cases advice with
  | before hook =>
    obtain ⟨middle, heeded, conveys⟩ := hands
    exact Eval.bind_eq_some_iff.mpr ⟨.ok (), middle, heeded, conveyed _ _ conveys⟩
  | afterReturning hook =>
    obtain ⟨middle, conveys, heeded⟩ := hands
    refine Eval.bind_eq_some_iff.mpr ⟨.ok value, middle, conveyed _ _ conveys, ?_⟩
    exact Eval.bind_eq_some_iff.mpr ⟨.ok (), after, heeded, rfl⟩
  | afterThrowing hook => exact Eval.bind_eq_some_iff.mpr ⟨.ok value, after, conveyed _ _ hands, rfl⟩
  | afterFinally hook =>
    obtain ⟨middle, conveys, ran⟩ := hands
    refine Eval.bind_eq_some_iff.mpr ⟨.ok value, middle, conveyed _ _ conveys, ?_⟩
    exact Eval.bind_eq_some_iff.mpr ⟨(), after, ran, rfl⟩
  | interceptor hook => exact relays_returns conveyed hands

-- By induction on the outer advices, each of them an entry around the next.
theorem conveys_returns {outer inner : List (Advice app.Hook)}
    (left : passage.advices.drop position = outer ++ inner)
    (conveys : passage.Conveys code value outer position world after) :
    unbounded code (.proceed passage position) world = some (.ok value, after) := by
  induction outer generalizing position world after with
  | nil => exact conveys
  | cons advice outer ih =>
    obtain ⟨within, hands, rfl⟩ := conveys
    have here : passage.advices[position]? = some advice := by rw [← List.head?_drop, left]; rfl
    have next : passage.advices.drop (position + 1) = outer ++ inner := by
      rw [← List.drop_drop, left]
      rfl
    have invoked := handsOn_returns (fun _ _ conveys => ih next conveys) hands
    rw [unbounded_proceed]
    simp only [proceedAt, here]
    refine Eval.bind_eq_some_iff.mpr ⟨(), world.opened passage position false, rfl, ?_⟩
    exact Eval.bind_eq_some_iff.mpr ⟨.ok value, within, invoked, rfl⟩

end Conveying

theorem typed_drive_agrees (code : Code app) (chain : ChainId) (kind : Kind) (world : World app) :
    let plain (world : World app) := unbounded code (.request (.driveChain chain)) world
    let typed (kind : Kind) (world : World app) := (unbounded code).script (Script.driveAs kind chain) world
    typed kind world = (plain world).map (Prod.map (unwrappedAs kind) id) ∧
    (∀ failure after, plain world = some (.error failure, after) →
      typed kind world = some (.error failure, after)) ∧
    (∀ carried after, typed kind world = some (.ok carried, after) ↔
      plain world = some (.ok (.wrap kind carried), after)) ∧
    (∀ value after, plain world = some (.ok value, after) →
      ((∃ carried, value = .wrap kind carried) ↔ value.kind = kind) ∧
      (value.kind ≠ kind → typed kind world = some (.error (.chain (.typeMismatch kind value.kind)), after)) ∧
      ∀ {Result : Type} (script : Script app Result) result later,
        (unbounded code).script script after = some (result, later) →
          let refused := Failure.chain (.alreadyProceeded .returned)
          later.progress? chain = some .returned ∧ plain later = some (.error refused, later) ∧
            ∀ other, typed other later = some (.error refused, later)) ∧
    (∀ cell passage outer carried after, world.chain? chain = some cell → cell.progress = .created →
      cell.chain.passage chain = .ok passage → outer <+: passage.advices →
        passage.Conveys code (.wrap kind carried) outer 0 world after →
          typed kind world =
            some (.ok carried, after.finished chain passage.invocation.method .returned)) := by
  intro plain typed
  have agrees : typed kind world = (plain world).map (Prod.map (unwrappedAs kind) id) :=
    script_driveAs (unbounded code) kind chain world
  have unwraps (carried : kind.Carrier app.Content) (after : World app) :
      typed kind world = some (.ok carried, after) ↔
      plain world = some (.ok (.wrap kind carried), after) := by
    rw [agrees, Option.map_eq_some_iff]
    simp only [Prod.exists, Prod.map, id, Prod.mk.injEq, unwrappedAs_eq_ok_iff]
    constructor
    · rintro ⟨outcome, last, drove, rfl, rfl⟩
      exact drove
    · exact fun drove => ⟨_, _, drove, rfl, rfl⟩
  refine ⟨agrees, fun failure after failed => ?_, unwraps, fun value after returned => ?_, ?_⟩
  · rw [agrees, failed]
    rfl
  · refine ⟨Value.kind_eq_iff.symm, fun apart => ?_, fun script result later ran => ?_⟩
    · rw [agrees, returned]
      simp [unwrappedAs, Value.unwrap_mismatch apart, Except.mapError]
    · exact drive_settled (drive_returned returned) rfl ran
  · rintro cell passage outer carried after known unstarted complete ⟨inner, whole⟩ conveys
    have all : passage.advices.drop 0 = outer ++ inner := whole.symm
    rw [unwraps]
    change unbounded code (.request (.driveChain chain)) world = _
    rw [unbounded_request]
    refine (driveChain_started known unstarted complete).trans ?_
    rw [conveys_returns all conveys]
    rfl

theorem runHook_emit (code : Code app) (passage : Passage app) (position : Nat)
    (rest : Eval app (Outcome app))
    {Result : Type} (event : app.Event) (result : Result) (world : World app) :
    runHook (unbounded code) passage position rest
      (.ask (.common (.emit event)) fun _ => .done result) world =
      some (result, ((world.note (.hookStarted passage.chain position)).note (.event event)).note
        (.hookEnded passage.chain position)) := by
  refine Eval.bind_eq_some_iff.mpr ⟨(), world.note (.hookStarted passage.chain position), rfl, ?_⟩
  refine Eval.bind_eq_some_iff.mpr ⟨result, _, Eval.bind_eq_some_iff.mpr ⟨(), _, ?_, rfl⟩, rfl⟩
  exact congrFun (unbounded_request code (.emit event)) _

theorem Sample.flag_returned :
    let passage := Sample.passage [.before .heed, .interceptor .retry, .afterFinally .heed]
    let typed (kind : Kind) (world : World Sample.app) :=
      (unbounded Sample.code).script (Script.driveAs kind passage.chain) world
    ∃ after, after.progress? passage.chain = some .returned ∧
      typed .bool (Sample.configured passage) = some (.ok true, after) ∧
      typed .int32 (Sample.configured passage) = some (.error (.chain (.typeMismatch .int32 .bool)), after) ∧
      typed .bool after = some (.error (.chain (.alreadyProceeded .returned)), after) := by
  intro passage typed
  have complete : (Sample.chain passage).passage passage.chain = .ok passage := rfl
  have known : (Sample.configured passage).chain? passage.chain = some ⟨Sample.chain passage, .created⟩ := rfl
  have emitted (event : String) (world : World Sample.app) :
      unbounded Sample.code (.request (.emit event)) world = some ((), world.note (.event event)) :=
    congrFun (unbounded_request Sample.code (.emit event)) world
  have produced (world : World Sample.app) : ∃ after,
      unbounded Sample.code (.proceed passage 3) world = some (.ok (.bool true), after) := by
    rw [unbounded_proceed]
    refine ⟨(((world.opened passage 3 true).note (.event "target")).note (.closed passage.chain 3 true)), ?_⟩
    refine Eval.bind_eq_some_iff.mpr ⟨(), world.opened passage 3 true, rfl, ?_⟩
    exact Eval.bind_eq_some_iff.mpr
      ⟨.ok (.bool true), _, Eval.bind_eq_some_iff.mpr ⟨(), _, emitted "target" _, rfl⟩, rfl⟩
  -- From the innermost advice to the outermost.
  have finally_conveys (world : World Sample.app) : ∃ after,
      passage.Conveys Sample.code (.wrap .bool true) [.afterFinally .heed] 2 world after := by
    obtain ⟨middle, came⟩ := produced (world.opened passage 2 false)
    exact ⟨_, _, ⟨middle, came, runHook_emit Sample.code passage 2 _ "after finally" () middle⟩, rfl⟩
  have around_conveys (world : World Sample.app) : ∃ after,
      passage.Conveys Sample.code (.wrap .bool true)
        [.interceptor .retry, .afterFinally .heed] 1 world after := by
    obtain ⟨after, conveys⟩ := finally_conveys ((world.opened passage 1 false).note (.event "around"))
    exact ⟨_, after, .asked (emitted "around" _) (.handed conveys rfl), rfl⟩
  obtain ⟨after, conveys⟩ := around_conveys _
  have all_convey : passage.Conveys Sample.code (.wrap .bool true) passage.advices 0
      (Sample.configured passage) _ :=
    ⟨after, ⟨_, runHook_emit Sample.code passage 0 _ "before" (Except.ok ()) _, conveys⟩, rfl⟩
  obtain ⟨_, _, unwraps, _, handed⟩ :=
    typed_drive_agrees Sample.code passage.chain .bool (Sample.configured passage)
  have flagged := handed _ passage passage.advices true _ known rfl complete (List.prefix_refl _) all_convey
  obtain ⟨_, _, _, returned, _⟩ :=
    typed_drive_agrees Sample.code passage.chain .int32 (Sample.configured passage)
  obtain ⟨_, mismatch, later⟩ := returned _ _ ((unwraps true _).mp flagged)
  obtain ⟨standing, _, refused⟩ := later (pure ()) () _ rfl
  exact ⟨_, standing, flagged, mismatch (by decide), refused .bool⟩

end BeanRegistry
