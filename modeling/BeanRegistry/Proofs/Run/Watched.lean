import BeanRegistry.Proofs.Run.Unbounded

set_option autoImplicit false

namespace BeanRegistry

variable {app : Application} {holds : World app → Prop} {Kept : World app → World app → Prop}

noncomputable def Handler.watched (handle : Handler app) (holds : World app → Prop) : Handler app :=
  open Classical in
  fun call world =>
    if holds world then (handle call world).filter fun answer => holds answer.2 else none

noncomputable def performWatched (code : Code app) (holds : World app → Prop) : Nat → Handler app
  | 0 => fun _ _ => none
  | budget + 1 => (serve code (performWatched code holds budget)).watched holds

noncomputable def World.runWatched {Result : Type} (world : World app) (code : Code app)
    (holds : World app → Prop) (budget : Nat) (script : Script app Result) :
    Option (Result × World app) :=
  (performWatched code holds budget).script script world

theorem Handler.watched_eq {handle : Handler app} {call : Call app} {world : World app}
    (before : holds world)
    (kept : ∀ answer after, handle call world = some (answer, after) → holds after) :
    handle.watched holds call world = handle call world := by
  unfold Handler.watched
  rw [if_pos before]
  cases answered : handle call world with
  | none => rfl
  | some answer => simp [Option.filter, kept answer.1 answer.2 answered]

def Discipline.watching (holds : World app → Prop) (Kept : World app → World app → Prop)
    (trans : ∀ {first middle last}, Kept first middle → Kept middle last → Kept first last) :
    Discipline app Bool where
  Allows world after := holds world → holds after ∧ Kept world after
  Holds world answer := holds world → answer true = answer false ∧
    ∀ result after, answer false = some (result, after) → holds after ∧ Kept world after
  step result allowed before := by
    refine ⟨rfl, fun _ _ same => ?_⟩
    cases same
    exact allowed before
  bind {_ _ world first next} start rest before := by
    obtain ⟨same, kept⟩ := start before
    constructor
    · dsimp only at same ⊢
      rw [Eval.bind_apply, Eval.bind_apply, same]
      cases answered : first false world with
      | none => rfl
      | some answer =>
        obtain ⟨result, middle⟩ := answer
        exact (rest result middle (kept result middle answered).1).1
    · intro other after answered
      obtain ⟨result, middle, earlier, later⟩ := Eval.bind_eq_some_iff.mp answered
      obtain ⟨held, before_kept⟩ := kept result middle earlier
      obtain ⟨still, rest_kept⟩ := (rest result middle held).2 other after later
      exact ⟨still, trans before_kept rest_kept⟩

-- A chain that is under way may be asked to proceed only while it is ready to.
structure Code.Watches (code : Code app) (holds : World app → Prop)
    (Kept : World app → World app → Prop) (Ready : Passage app → World app → Prop) : Prop where
  trans : ∀ {first middle last}, Kept first middle → Kept middle last → Kept first last
  careful : ∀ {world after}, CarefulMove world after → holds world → holds after ∧ Kept world after
  produced : ∀ {handle : Bool → Handler app}, (Discipline.watching holds Kept trans).Answers handle →
    ∀ factory recipe world, world.factory? factory = some (.recipe recipe) →
      (Discipline.watching holds Kept trans).Holds world fun watched =>
        produceByRecipe code (handle watched) factory recipe world
  built : ∀ {handle : Bool → Handler app}, (Discipline.watching holds Kept trans).Answers handle →
    ∀ declarations world, (Discipline.watching holds Kept trans).Holds world fun watched =>
      build code (handle watched) declarations world
  driven : ∀ {handle : Bool → Handler app},
    (∀ passage position world,
      (Discipline.watching (fun now => holds now ∧ Ready passage now) Kept trans).Holds world
        fun watched => handle watched (.proceed passage position) world) →
    ∀ chain world, (Discipline.watching holds Kept trans).Holds world fun watched =>
      driveChain (handle watched) chain world
  proceeded : ∀ {handle : Bool → Handler app}, (Discipline.watching holds Kept trans).Answers handle →
    ∀ passage position,
      (∀ world, (Discipline.watching (fun now => holds now ∧ Ready passage now) Kept trans).Holds world
        fun watched => handle watched (.proceed passage (position + 1)) world) →
      ∀ world, (Discipline.watching (fun now => holds now ∧ Ready passage now) Kept trans).Holds world
        fun watched => proceedAt code (handle watched) passage position world

namespace Code.Watches

variable {code : Code app} {Ready : Passage app → World app → Prop}

noncomputable def both (code : Code app) (holds : World app → Prop) (budget : Nat) : Bool → Handler app
  | true => performWatched code holds budget
  | false => perform code budget

variable (watches : code.Watches holds Kept Ready) {shown : World app → Prop}

include watches

theorem both_hold (shows : ∀ {world}, holds world → shown world) (budget : Nat) :
    (Discipline.watching holds Kept watches.trans).Answers (both code shown budget) ∧
      ∀ passage position world,
        (Discipline.watching (fun now => holds now ∧ Ready passage now) Kept watches.trans).Holds world
          fun watched => both code shown budget watched (.proceed passage position) world := by
  induction budget with
  | zero => exact ⟨fun _ _ _ => ⟨rfl, nofun⟩, fun _ _ _ _ => ⟨rfl, nofun⟩⟩
  | succ budget ih =>
    obtain ⟨answered, proceeds⟩ := ih
    constructor
    · intro operation world before
      have kept := Discipline.carryOut_holds code watches.careful answered (watches.produced answered)
        (watches.built answered) (watches.driven proceeds) operation world before
      refine ⟨?_, kept.2⟩
      refine (Handler.watched_eq (shows before) fun answer after served => ?_).trans kept.1
      exact shows (kept.2 answer after (kept.1.symm.trans served)).1
    · intro passage position world before
      have kept := watches.proceeded answered passage position (proceeds passage (position + 1)) world
        before
      refine ⟨?_, kept.2⟩
      refine (Handler.watched_eq (shows before.1) fun answer after served => ?_).trans kept.1
      exact shows (kept.2 answer after (kept.1.symm.trans served)).1.1

theorem perform_watched {budget : Nat} {operation : Operation app} {world after : World app}
    {answer : operation.Answer} (before : holds world)
    (answered : perform code budget (.request operation) world = some (answer, after)) :
    holds after ∧ Kept world after :=
  ((watches.both_hold id budget).1 operation world before).2 answer after answered

theorem run_shows {Result : Type} (shows : ∀ {world}, holds world → shown world) {world : World app}
    (before : holds world) (budget : Nat) (script : Script app Result) :
    world.runWatched code shown budget script = world.run code budget script ∧
      ∀ result after, world.run code budget script = some (result, after) →
        holds after ∧ Kept world after :=
  Discipline.script_holds watches.careful (watches.both_hold shows budget).1 script world before

theorem run_watched {Result : Type} {world : World app} (before : holds world) (budget : Nat)
    (script : Script app Result) :
    world.runWatched code holds budget script = world.run code budget script ∧
      ∀ result after, world.run code budget script = some (result, after) →
        holds after ∧ Kept world after :=
  watches.run_shows id before budget script

end Code.Watches

theorem Code.Watches.of_careful {code : Code app}
    (trans : ∀ {first middle last}, Kept first middle → Kept middle last → Kept first last)
    (careful : ∀ {world after}, CarefulMove world after → holds world → holds after ∧ Kept world after)
    (chained : ∀ {world after}, ChainMove world after → holds world → holds after ∧ Kept world after)
    (produced : ∀ {handle : Bool → Handler app}, (Discipline.watching holds Kept trans).Answers handle →
      ∀ factory recipe world, world.factory? factory = some (.recipe recipe) →
        (Discipline.watching holds Kept trans).Holds world fun watched =>
          produceByRecipe code (handle watched) factory recipe world)
    (built : ∀ {handle : Bool → Handler app}, (Discipline.watching holds Kept trans).Answers handle →
      ∀ declarations world, (Discipline.watching holds Kept trans).Holds world fun watched =>
        build code (handle watched) declarations world) :
    code.Watches holds Kept fun _ _ => True where
  trans := trans
  careful := careful
  produced := produced
  built := built
  driven {handle} proceeds chain world := by
    refine Discipline.driveChain_holds careful chained (fun passage world held => ?_) chain world
    obtain ⟨same, kept⟩ := proceeds passage 0 world ⟨held, trivial⟩
    exact ⟨same, fun outcome after answered => (kept outcome after answered).imp_left And.left⟩
  proceeded {handle} answered passage position continued world := by
    have proceeds (world : World app) (held : holds world) := continued world ⟨held, trivial⟩
    have kept : (Discipline.watching holds Kept trans).Holds world fun watched =>
        proceedAt code (handle watched) passage position world :=
      Discipline.proceedAt_holds code careful answered (fun move => chained (.pass passage move)) position
        (fun world held => (proceeds world held).imp_right fun kept outcome after answered =>
          (kept outcome after answered).imp_left And.left) world
    rintro ⟨held, _⟩
    exact (kept held).imp_right fun kept outcome after answered =>
      (kept outcome after answered).imp_left fun still => ⟨still, trivial⟩

theorem Code.Watches.of_chained {code : Code app}
    (trans : ∀ {first middle last}, Kept first middle → Kept middle last → Kept first last)
    (plain : ∀ {world after}, PlainMove world after → holds world → holds after ∧ Kept world after)
    (chained : ∀ {world after}, ChainMove world after → holds world → holds after ∧ Kept world after)
    (produced : ∀ {handle : Bool → Handler app}, (Discipline.watching holds Kept trans).Answers handle →
      ∀ factory recipe world, world.factory? factory = some (.recipe recipe) →
        (Discipline.watching holds Kept trans).Holds world fun watched =>
          produceByRecipe code (handle watched) factory recipe world) :
    code.Watches holds Kept fun _ _ => True :=
  .of_careful trans (fun move => plain move.plain) chained produced fun answered =>
    Discipline.build_holds code (fun move => plain move.plain) answered (produced answered)
      fun world identity => plain (.grant world identity)

theorem Code.Watches.of_moves (code : Code app)
    (plain : ∀ {world after}, PlainMove world after → holds world → holds after)
    (chained : ∀ {world after}, ChainMove world after → holds world → holds after)
    (productive : ∀ {world after}, ProductionMove world after → holds world → holds after) :
    code.Watches holds (fun _ _ => True) fun _ _ => True :=
  .of_chained (fun _ _ => trivial) (fun move held => ⟨plain move held, trivial⟩)
    (fun move held => ⟨chained move held, trivial⟩) fun answered factory recipe world _ =>
      Discipline.produceByRecipe_holds code (fun move held => ⟨plain move.plain held, trivial⟩) answered
        (fun move held => ⟨productive move held, trivial⟩) factory recipe world

end BeanRegistry
