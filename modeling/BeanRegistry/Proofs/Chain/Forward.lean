import BeanRegistry.Proofs.Chain.Rising
import BeanRegistry.Proofs.Run.Watched
import BeanRegistry.Proofs.Sample

set_option autoImplicit false

namespace BeanRegistry

variable {app : Application} {code : Code app}

section Watch

variable {handle : Bool → Handler app} {passage : Passage app}

abbrev forwarding : Discipline app Bool :=
  .watching Forward Risen Risen.trans

abbrev readied (passage : Passage app) : Discipline app Bool :=
  .watching (fun now => Forward now ∧ passage.Ready now) Risen Risen.trans

abbrev begun (passage : Passage app) : Discipline app Bool :=
  .watching (fun now => Forward now ∧ passage.Started now) Risen Risen.trans

theorem begun_of_forwarding {Result : Type} {world : World app}
    {evaluation : Bool → Option (Result × World app)} (kept : forwarding.Holds world evaluation) :
    (begun passage).Holds world evaluation := by
  rintro ⟨forward, started⟩
  obtain ⟨same, kept⟩ := kept forward
  refine ⟨same, fun result after answered => ?_⟩
  obtain ⟨still, risen⟩ := kept result after answered
  exact ⟨⟨still, risen.started started⟩, risen⟩

theorem begun_of_readied {Result : Type} {world : World app}
    {evaluation : Bool → Option (Result × World app)} (kept : (readied passage).Holds world evaluation) :
    (begun passage).Holds world evaluation := by
  rintro ⟨forward, started⟩
  have ⟨progress, known, going, _⟩ := started
  obtain ⟨same, kept⟩ := kept ⟨forward, progress, known, going⟩
  refine ⟨same, fun result after answered => ?_⟩
  obtain ⟨⟨still, _⟩, risen⟩ := kept result after answered
  exact ⟨⟨still, risen.started started⟩, risen⟩

theorem forwarding_plain {world after : World app} (move : PlainMove world after) :
    forwarding.Allows world after :=
  fun forward => ⟨forward.still move.still, move.still.risen⟩

theorem begun_plain {world after : World app} (move : CarefulMove world after) :
    (begun passage).Allows world after := by
  rintro ⟨forward, started⟩
  have still := move.plain.still
  exact ⟨⟨forward.still still, still.risen.started started⟩, still.risen⟩

theorem begun_pass {world after : World app} (move : PassageMove passage world after) :
    (begun passage).Allows world after := by
  rintro ⟨forward, started⟩
  have ⟨progress, known, going, _⟩ := started
  exact ⟨⟨forward.pass known going move, move.risen.started started⟩, move.risen⟩

-- Once a position was entered the chain has started, and nothing that is asked for ends it.
theorem enclosed_readied {body : Bool → Eval app (Except Failure (Value app.Content))} (position : Nat)
    (isTarget : Bool) (held : ∀ world, (begun passage).Holds world fun watched => body watched world)
    (world : World app) :
    (readied passage).Holds world fun watched =>
      (do
        openPosition passage position isTarget
        let outcome ← body watched
        closePosition passage position outcome
        pure outcome : Eval app (Except Failure (Value app.Content))) world := by
  rintro ⟨forward, progress, known, going⟩
  have entered := world.progress?_opened passage position isTarget passage.chain
  rw [if_pos rfl, known] at entered
  obtain ⟨starts, goes⟩ := Progress.entering_started position isTarget
  have started : passage.Started (world.opened passage position isTarget) := by
    refine ⟨_, entered, Progress.advance_unfinished going goes, ?_⟩
    exact Progress.ne_created_of_le (progress.le_advance _).2 starts
  have inner : (begun passage).Holds (world.opened passage position isTarget) fun watched =>
      (do
        let outcome ← body watched
        closePosition passage position outcome
        pure outcome : Eval app (Except Failure (Value app.Content)))
        (world.opened passage position isTarget) := by
    refine Discipline.bind _ (held _) fun _ _ => ?_
    refine Discipline.bind _ (Discipline.step _ _ (begun_pass (.note _ _ rfl rfl))) fun _ _ => ?_
    exact Discipline.step _ _ (begun_plain (.stay _))
  obtain ⟨same, kept⟩ := inner ⟨forward.opened known going position isTarget, started⟩
  refine ⟨same, fun outcome after answered => ?_⟩
  obtain ⟨⟨still, last, found, unfinished, _⟩, risen⟩ := kept outcome after answered
  have opening : Risen world (world.opened passage position isTarget) :=
    (PassageMove.opened world position isTarget).risen
  exact ⟨⟨still, last, found, unfinished⟩, opening.trans risen⟩

theorem proceedAt_readied (answered : forwarding.Answers handle) (position : Nat)
    (continued : ∀ world, (readied passage).Holds world fun watched =>
      handle watched (.proceed passage (position + 1)) world) (world : World app) :
    (readied passage).Holds world fun watched =>
      proceedAt code (handle watched) passage position world :=
  Discipline.proceedAt_within code begun_plain
    (fun operation world => begun_of_forwarding (answered operation world)) begun_pass position
    (fun world ready => ⟨ready, (PlainMove.stay world).still.risen⟩) (enclosed_readied position)
    (fun world => begun_of_readied (continued world)) world

def ending (outcome : Except Failure (Value app.Content)) : Progress :=
  if outcome.isOk then .returned else .failed

section Drives

variable {handle : Handler app} {chain : ChainId} {cell : ChainCell app} {world : World app}

theorem driveChain_unknown (unknown : world.chain? chain = none) :
    driveChain handle chain world = some (.error (.chain (.notConfigured .target)), world) := by
  simp only [driveChain, Eval.get_bind, unknown]
  rfl

variable (known : world.chain? chain = some cell)

include known

theorem driveChain_refused (started : cell.progress ≠ .created) :
    driveChain handle chain world =
      some (.error (.chain (.alreadyProceeded cell.progress)), world) := by
  simp only [driveChain, Eval.get_bind, known, Option.getD_some, Chain.start, started, if_false]
  rfl

variable (unstarted : cell.progress = .created)

include unstarted

theorem driveChain_unready {piece : ChainPiece} (incomplete : cell.chain.passage chain = .error piece) :
    driveChain handle chain world = some (.error (.chain (.notConfigured piece)), world) := by
  simp only [driveChain, Eval.get_bind, known, Option.getD_some, Chain.start, unstarted, incomplete,
    if_true]
  rfl

theorem driveChain_started (complete : cell.chain.passage chain = .ok passage) :
    driveChain handle chain world =
      (handle (.proceed passage 0) world).bind fun answer =>
        some (answer.1, answer.2.finished chain passage.invocation.method (ending answer.1)) := by
  simp only [driveChain, Eval.get_bind, known, Option.getD_some, Chain.start, unstarted, complete, if_true]
  rfl

end Drives

theorem driveChain_ends {chain : ChainId} {cell : ChainCell app} {world : World app}
    (proceeds : ∀ world, (readied passage).Holds world fun watched =>
      handle watched (.proceed passage 0) world)
    (forward : Forward world) (known : world.chain? chain = some cell)
    (unstarted : cell.progress = .created) (complete : cell.chain.passage chain = .ok passage) :
    driveChain (handle true) chain world = driveChain (handle false) chain world ∧
      ∀ outcome after, driveChain (handle false) chain world = some (outcome, after) →
        (Forward after ∧ Risen world after) ∧ after.progress? chain = some (ending outcome) := by
  obtain rfl := passage_chain complete
  have created : world.progress? passage.chain = some .created := by
    simp [World.progress?, known, unstarted]
  obtain ⟨same, kept⟩ := proceeds world ⟨forward, .created, created, rfl⟩
  rw [driveChain_started known unstarted complete, driveChain_started known unstarted complete]
  dsimp only at same
  rw [same]
  refine ⟨rfl, fun outcome after driven => ?_⟩
  obtain ⟨⟨proceeded, middle⟩, answered, ended⟩ := Option.bind_eq_some_iff.mp driven
  obtain ⟨rfl, rfl⟩ := Prod.mk.inj (Option.some.inj ended)
  obtain ⟨⟨still, progress, found, going⟩, risen⟩ := kept proceeded middle answered
  generalize proceeded = outcome
  have finished : (ending outcome).isFinished = true := by
    unfold ending
    split <;> rfl
  have moved (chain : ChainId) := middle.progress?_finished passage.chain chain
    passage.invocation.method (ending outcome)
  have last := moved passage.chain
  rw [if_pos rfl, found] at last
  refine ⟨⟨still.finish found going finished _, ?_⟩, last⟩
  intro chain early before
  by_cases own : passage.chain = chain
  · subst own
    rw [created] at before
    cases before
    exact ⟨ending outcome, last, Progress.created_le _, fun begins => absurd rfl begins,
      by simp [Progress.isFinished]⟩
  · obtain ⟨late, standing, rest⟩ := risen chain early before
    exact ⟨late, ((moved chain).trans (if_neg own)).trans standing, rest⟩

theorem forwarding_stays {Result : Type} {world : World app} {result : Result}
    {evaluation : Bool → Option (Result × World app)}
    (stays : ∀ watched, evaluation watched = some (result, world)) :
    forwarding.Holds world evaluation := by
  obtain rfl : evaluation = fun _ => some (result, world) := funext stays
  exact Discipline.step _ result (forwarding_plain (.stay world))

theorem driveChain_forwarding
    (proceeds : ∀ (passage : Passage app) position world, (readied passage).Holds world fun watched =>
      handle watched (.proceed passage position) world) (chain : ChainId) (world : World app) :
    forwarding.Holds world fun watched => driveChain (handle watched) chain world := by
  cases known : world.chain? chain with
  | none => exact forwarding_stays fun watched => driveChain_unknown known
  | some cell =>
    by_cases unstarted : cell.progress = .created
    · cases complete : cell.chain.passage chain with
      | error piece => exact forwarding_stays fun watched => driveChain_unready known unstarted complete
      | ok passage =>
        intro forward
        obtain ⟨same, kept⟩ := driveChain_ends (proceeds passage 0) forward known unstarted complete
        exact ⟨same, fun outcome after driven => (kept outcome after driven).1⟩
    · exact forwarding_stays fun watched => driveChain_refused known unstarted

theorem produceByRecipe_forwarding {handle : Bool → Handler app} (answered : forwarding.Answers handle)
    (factory : FactoryId) (recipe : RecipeFactory app) (world : World app) :
    forwarding.Holds world fun watched => produceByRecipe code (handle watched) factory recipe world :=
  Discipline.produceByRecipe_holds code (fun move => forwarding_plain move.plain) answered
    (fun move forward => ⟨forward.still move.still, move.still.risen⟩) factory recipe world

end Watch

theorem forward_watches (code : Code app) : code.Watches Forward Risen Passage.Ready where
  trans := Risen.trans
  careful move := forwarding_plain move.plain
  produced answered factory recipe world _ := produceByRecipe_forwarding answered factory recipe world
  built answered := Discipline.build_holds code (fun move => forwarding_plain move.plain) answered
    (fun factory recipe world _ => produceByRecipe_forwarding answered factory recipe world)
    fun world identity => forwarding_plain (.grant world identity)
  driven := driveChain_forwarding
  proceeded answered _ position continued := proceedAt_readied answered position continued

structure Code.DrivesOnce (code : Code app) : Prop where
  refused : ∀ {chain cell world}, world.chain? chain = some cell → cell.progress ≠ .created →
    ∀ budget, perform code (budget + 1) (.request (.driveChain chain)) world =
      some (.error (.chain (.alreadyProceeded cell.progress)), world)
  refusedTyped : ∀ {chain cell world}, world.chain? chain = some cell → cell.progress ≠ .created →
    ∀ kind budget, (perform code (budget + 1)).script (Script.driveAs kind chain) world =
      some (.error (.chain (.alreadyProceeded cell.progress)), world)
  reconfigured : ∀ {budget chain settings world after},
    perform code budget (.request (.configureChain chain settings)) world = some ((), after) →
      ∀ other, after.progress? other = world.progress? other
  unready : ∀ {chain cell world piece}, world.chain? chain = some cell → cell.progress = .created →
    cell.chain.passage chain = .error piece → ∀ budget,
      perform code (budget + 1) (.request (.driveChain chain)) world =
        some (.error (.chain (.notConfigured piece)), world)
  ended : ∀ {budget chain cell passage world after outcome}, Forward world →
    world.chain? chain = some cell → cell.progress = .created →
      cell.chain.passage chain = .ok passage →
        perform code budget (.request (.driveChain chain)) world = some (outcome, after) →
          after.progress? chain = some (if outcome.isOk then .returned else .failed)
  rises : ∀ {budget operation world after} {answer : Operation.Answer operation}, Forward world →
    perform code budget (.request operation) world = some (answer, after) →
      Forward after ∧ Risen world after

theorem code_drivesOnce (code : Code app) : code.DrivesOnce where
  refused known started _ := driveChain_refused known started
  refusedTyped {chain cell world} known started kind budget := by
    have driven : perform code (budget + 1) (.request (.driveChain chain)) world = _ :=
      driveChain_refused known started
    change (perform code (budget + 1) (.request (.driveChain chain)) world).bind _ = _
    rw [driven]
    rfl
  reconfigured {budget chain settings world after} configured other := by
    cases budget with
    | zero => cases configured
    | succ budget =>
      cases configured
      exact world.progress?_configure chain other settings
  unready known unstarted incomplete _ := driveChain_unready known unstarted incomplete
  ended {budget chain cell passage world after outcome} forward known unstarted complete driven := by
    cases budget with
    | zero => cases driven
    | succ budget =>
      have proceeds := ((forward_watches code).both_hold id budget).2 passage 0
      exact ((driveChain_ends proceeds forward known unstarted complete).2 outcome after driven).2
  rises forward answered := (forward_watches code).perform_watched forward answered

def Sample.driveTwice :
    Script Sample.app (Except Failure (Value Unit) × Except Failure (Value Unit)) := do
  let driven ← Script.request (.newChain (chain (passage [.interceptor .retry, .before .heed])))
  let first ← Script.drive driven
  let second ← Script.drive driven
  pure (first, second)

end BeanRegistry
