import BeanRegistry.Proofs.Run.Unbounded

set_option autoImplicit false

namespace BeanRegistry

variable {app : Application} {Kept : World app → World app → Prop}

def Handler.Keeps (handle : Handler app) (Kept : World app → World app → Prop) : Prop :=
  ∀ (call : Call app) (world after : World app) (answer : call.Answer),
    handle call world = some (answer, after) → Kept world after

def Discipline.keeping (Kept : World app → World app → Prop)
    (trans : ∀ {first middle last}, Kept first middle → Kept middle last → Kept first last) :
    Discipline app Unit where
  Allows := Kept
  Holds world answer := ∀ result after, answer () = some (result, after) → Kept world after
  step _ allowed _ _ answered := (Prod.mk.inj (Option.some.inj answered)).2 ▸ allowed
  bind first next other after answered := by
    obtain ⟨result, middle, before, rest⟩ := Eval.bind_eq_some_iff.mp answered
    exact trans (first result middle before) (next result middle other after rest)

theorem Handler.Keeps.handles {handle : Handler app} (handled : handle.Keeps Kept)
    (trans : ∀ {first middle last}, Kept first middle → Kept middle last → Kept first last) :
    (Discipline.keeping Kept trans).Handles fun _ => handle :=
  fun call world answer after answered => handled call world after answer answered

structure Code.Keeps (code : Code app) (Kept : World app → World app → Prop) : Prop where
  trans : ∀ {first middle last}, Kept first middle → Kept middle last → Kept first last
  plain : ∀ {world after}, PlainMove world after → Kept world after
  produced : ∀ {handle : Handler app}, handle.Keeps Kept → handle.Within (unbounded code) →
    ∀ {factory recipe world after} {outcome : Except BeanFailure (Object app.Content)},
      world.factory? factory = some (.recipe recipe) →
        produceByRecipe code handle factory recipe world = some (outcome, after) → Kept world after
  driven : ∀ {handle : Handler app}, handle.Keeps Kept →
    ∀ {chain world after} {outcome : Except Failure (Value app.Content)},
      driveChain handle chain world = some (outcome, after) → Kept world after
  proceeded : ∀ {handle : Handler app}, handle.Keeps Kept →
    ∀ {passage position world after} {outcome : Except Failure (Value app.Content)},
      proceedAt code handle passage position world = some (outcome, after) → Kept world after

namespace Code.Keeps

variable {code : Code app} (keeps : code.Keeps Kept)

include keeps

theorem careful {world after : World app} (move : CarefulMove world after) : Kept world after :=
  keeps.plain move.plain

theorem perform_keeps (budget : Nat) : (perform code budget).Keeps Kept := by
  induction budget with
  | zero => exact fun _ _ _ _ answered => nomatch answered
  | succ budget ih =>
    intro call world after answer answered
    cases call with
    | proceed passage position => exact keeps.proceeded ih answered
    | request operation =>
      have answers := (ih.handles keeps.trans).answers
      have produced (factory : FactoryId) (recipe : RecipeFactory app) (world : World app)
          (known : world.factory? factory = some (.recipe recipe)) :
          (Discipline.keeping Kept keeps.trans).Holds world fun _ =>
            produceByRecipe code (perform code budget) factory recipe world :=
        fun _ _ answered => keeps.produced ih (perform_within code budget) known answered
      exact Discipline.carryOut_holds code keeps.careful answers produced
        (Discipline.build_holds code keeps.careful answers produced fun world identity =>
          keeps.plain (.grant world identity))
        (fun _ _ _ _ answered => keeps.driven ih answered) operation world answer after answered

theorem run_keeps {Result : Type} {world after : World app} {budget : Nat} {script : Script app Result}
    {result : Result} (ran : world.run code budget script = some (result, after)) :
    Kept world after :=
  Discipline.script_holds keeps.careful ((keeps.perform_keeps budget).handles keeps.trans).answers script
    world result after ran

end Code.Keeps

section Passages

variable {code : Code app} {handle : Handler app}
  (trans : ∀ {first middle last}, Kept first middle → Kept middle last → Kept first last)
  (plain : ∀ {world after}, PlainMove world after → Kept world after)
  (chained : ∀ {world after}, ChainMove world after → Kept world after) (handled : handle.Keeps Kept)

include trans plain chained handled

theorem driveChain_keeps {chain : ChainId} {world after : World app}
    {outcome : Except Failure (Value app.Content)}
    (driven : driveChain handle chain world = some (outcome, after)) : Kept world after :=
  Discipline.driveChain_holds (fun move => plain move.plain) chained
    (fun passage => handled.handles trans (.proceed passage 0)) chain world outcome after driven

theorem proceedAt_keeps {passage : Passage app} {position : Nat} {world after : World app}
    {outcome : Except Failure (Value app.Content)}
    (proceeded : proceedAt code handle passage position world = some (outcome, after)) :
    Kept world after :=
  Discipline.proceedAt_holds code (fun move => plain move.plain) (handled.handles trans).answers
    (fun passed => chained (.pass passage passed)) position
    (handled.handles trans (.proceed passage (position + 1))) world outcome after proceeded

end Passages

theorem Code.Keeps.of_produced (code : Code app)
    (trans : ∀ {first middle last}, Kept first middle → Kept middle last → Kept first last)
    (plain : ∀ {world after}, PlainMove world after → Kept world after)
    (chained : ∀ {world after}, ChainMove world after → Kept world after)
    (produced : ∀ {handle : Handler app}, handle.Keeps Kept → handle.Within (unbounded code) →
      ∀ {factory recipe world after} {outcome : Except BeanFailure (Object app.Content)},
        world.factory? factory = some (.recipe recipe) →
          produceByRecipe code handle factory recipe world = some (outcome, after) → Kept world after) :
    code.Keeps Kept where
  trans := trans
  plain := plain
  produced := produced
  driven {_} handled {_ _ _ _} driven := by
    refine driveChain_keeps ?_ ?_ ?_ handled driven
    · exact trans
    · exact plain
    · exact chained
  proceeded {_} handled {_ _ _ _ _} proceeded := by
    refine proceedAt_keeps ?_ ?_ ?_ handled proceeded
    · exact trans
    · exact plain
    · exact chained

theorem Code.Keeps.of_moves (code : Code app)
    (trans : ∀ {first middle last}, Kept first middle → Kept middle last → Kept first last)
    (plain : ∀ {world after}, PlainMove world after → Kept world after)
    (chained : ∀ {world after}, ChainMove world after → Kept world after)
    (productive : ∀ {world after}, ProductionMove world after → Kept world after) : code.Keeps Kept := by
  refine .of_produced code trans plain chained ?_
  intro handle handled _ factory recipe world after outcome _ produced
  exact Discipline.produceByRecipe_holds code (fun move => plain move.plain)
    (handled.handles trans).answers productive
    factory recipe world outcome after produced

theorem Code.Keeps.unbounded_keeps {code : Code app} (keeps : code.Keeps Kept) :
    (unbounded code).Keeps Kept := by
  intro call world after answer answered
  obtain ⟨budget, performed⟩ := unbounded_eq_some_iff.mp answered
  exact keeps.perform_keeps budget call world after answer performed

end BeanRegistry
