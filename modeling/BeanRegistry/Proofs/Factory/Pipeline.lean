import BeanRegistry.Proofs.Factory.Underway
import BeanRegistry.Proofs.Run.Persistence

set_option autoImplicit false

namespace BeanRegistry

variable {app : Application} {code : Code app} {handle : Handler app}

structure Begins (factory : FactoryId) (recipe : RecipeFactory app) (world : World app) : Prop where
  known : world.recipeFactory? factory = some recipe
  unready : recipe.ready? = none
  admitted : world.guards.refusal? factory recipe.displayName (world.nestingBound recipe) = none

-- Between the guards the factory's own scripts run: it creates once, follows up once, and asks the factory
-- nested in its product once, up to the first of them that fails.
inductive Pipeline (code : Code app) (handle : Handler app) (factory : FactoryId) (recipe : RecipeFactory app)
    (depth : Nat) (entered : World app) : Except Failure (Object app.Content) → World app → Prop where
  | creationFails {failure : Failure} {after : World app}
      (creates : handle.script (code.create recipe.recipe recipe.creation)
        (entered.note (.creating factory entered.guards)) = some (.error failure, after)) :
      Pipeline code handle factory recipe depth entered (.error failure) after
  | followUpFails {product : Product app} {created after : World app} {failure : Failure}
      (creates : handle.script (code.create recipe.recipe recipe.creation)
        (entered.note (.creating factory entered.guards)) = some (.ok product, created))
      (follows : handle.script (code.followUp recipe.recipe product recipe.creation)
        (created.note (.followingUp factory created.guards)) = some (.error failure, after)) :
      Pipeline code handle factory recipe depth entered (.error failure) after
  | direct {bean : Object app.Content} {created after : World app}
      (creates : handle.script (code.create recipe.recipe recipe.creation)
        (entered.note (.creating factory entered.guards)) = some (.ok (.bean bean), created))
      (follows : handle.script (code.followUp recipe.recipe (.bean bean) recipe.creation)
        (created.note (.followingUp factory created.guards)) = some (.ok (), after)) :
      Pipeline code handle factory recipe depth entered (.ok bean) after
  | nested {inner : FactoryId} {created followed told answered : World app}
      {outcome : Except BeanFailure (Object app.Content)}
      (creates : handle.script (code.create recipe.recipe recipe.creation)
        (entered.note (.creating factory entered.guards)) = some (.ok (.factory inner), created))
      (follows : handle.script (code.followUp recipe.recipe (.factory inner) recipe.creation)
        (created.note (.followingUp factory created.guards)) = some (.ok (), followed))
      (lends : lendIdentity code handle factory inner followed = some ((), told))
      (asks : handle (.request (.produce inner)) (told.unwrapping factory inner depth) =
        some (outcome, answered)) :
      Pipeline code handle factory recipe depth entered (outcome.mapError .bean)
        (answered.withGuards answered.guards.claim)

def World.keeping (world : World app) (factory : FactoryId) (bean : Object app.Content) : World app :=
  match world.recipeFactory? factory with
  | none => world
  | some recipe =>
    match recipe.scope with
    | .prototype => world
    | .singleton =>
      (world.mapFactory factory fun keeper => keeper.keep bean).note (.kept factory recipe.displayName)

inductive Tries (code : Code app) (factory : FactoryId) (world : World app) :
    Except BeanFailure (Object app.Content) → World app → Prop where
  | fails {recipe : RecipeFactory app} {failure : Failure} {last : World app}
      (begins : Begins factory recipe world)
      (ran : Pipeline code (unbounded code) factory recipe world.guards.depth (world.enter factory)
        (.error failure) last) :
      Tries code factory world (.error (.unableToCreate failure)) (last.leave factory false)
  | succeeds {recipe : RecipeFactory app} {bean : Object app.Content} {last : World app}
      (begins : Begins factory recipe world)
      (ran : Pipeline code (unbounded code) factory recipe world.guards.depth (world.enter factory)
        (.ok bean) last) :
      Tries code factory world (.ok bean) ((last.keeping factory bean).leave factory true)

theorem produceByRecipe_refused {factory : FactoryId} {recipe : RecipeFactory app} {world : World app}
    {error : BeanFailure} (unready : recipe.ready? = none)
    (refusal : world.guards.refusal? factory recipe.displayName (world.nestingBound recipe) =
      some error) :
    produceByRecipe code handle factory recipe world = some (.error error, world.refuse factory) := by
  unfold produceByRecipe
  simp only [unready]
  rw [Eval.bind_apply, enterGuards_eq, refusal]
  rfl

theorem produceByRecipe_entered {factory : FactoryId} {recipe : RecipeFactory app} {world : World app}
    (unready : recipe.ready? = none)
    (admitted : world.guards.refusal? factory recipe.displayName (world.nestingBound recipe) = none) :
    produceByRecipe code handle factory recipe world =
      (createBean code handle factory recipe world.guards.depth (world.enter factory)).bind fun answer =>
        match answer with
        | (.error failure, after) => some (.error (.unableToCreate failure), after.leave factory false)
        | (.ok bean, after) =>
          (keepBean factory bean after).bind fun kept => some (.ok bean, kept.2.leave factory true) := by
  unfold produceByRecipe
  simp only [unready]
  rw [Eval.bind_apply, enterGuards_eq, admitted, Option.bind_some]
  dsimp only
  rw [Eval.bind_apply]
  cases createBean code handle factory recipe world.guards.depth (world.enter factory) with
  | none => rfl
  | some answer =>
    obtain ⟨outcome, after⟩ := answer
    cases outcome <;> rfl

theorem produce_known {factory : FactoryId} {recipe : RecipeFactory app} {world : World app}
    (known : world.recipeFactory? factory = some recipe) :
    produce code handle factory world = produceByRecipe code handle factory recipe world := by
  have found := World.recipeFactory?_eq_some_iff.mp known
  simp only [produce, Eval.get_bind, found]

section Pipelines

variable {factory : FactoryId} {recipe : RecipeFactory app} {world entered after : World app} {depth : Nat}

theorem createBean_eq_some_iff {made : Except Failure (Object app.Content)} :
    createBean code handle factory recipe depth entered = some (made, after) ↔
      Pipeline code handle factory recipe depth entered made after := by
  constructor
  · intro created
    rw [createBean, Eval.noteGuards_bind] at created
    obtain ⟨product, middle, creates, created⟩ := Eval.bind_eq_some_iff.mp created
    cases product with
    | error failure =>
      cases created
      exact .creationFails creates
    | ok product =>
      dsimp only at created
      rw [Eval.noteGuards_bind] at created
      obtain ⟨verdict, followed, follows, created⟩ := Eval.bind_eq_some_iff.mp created
      cases verdict with
      | error failure =>
        cases created
        exact .followUpFails creates follows
      | ok _ =>
        cases product with
        | bean bean =>
          cases created
          exact .direct creates follows
        | factory inner =>
          obtain ⟨answer, last, unwrapped, created⟩ := Eval.bind_eq_some_iff.mp created
          obtain ⟨_, told, lends, _⟩ := Eval.bind_eq_some_iff.mp unwrapped
          rw [unwrap_eq lends] at unwrapped
          obtain ⟨⟨outcome, answered⟩, asks, same⟩ := Option.bind_eq_some_iff.mp unwrapped
          cases same
          have ran := Pipeline.nested creates follows lends asks
          cases outcome <;> cases created <;> exact ran
  · intro ran
    rw [createBean, Eval.noteGuards_bind, Eval.bind_apply]
    cases ran with
    | creationFails creates => rw [creates]; rfl
    | followUpFails creates follows =>
      rw [creates, Option.bind_some]
      dsimp only
      rw [Eval.noteGuards_bind, Eval.bind_apply, follows]
      rfl
    | direct creates follows =>
      rw [creates, Option.bind_some]
      dsimp only
      rw [Eval.noteGuards_bind, Eval.bind_apply, follows]
      rfl
    | @nested _ _ _ _ _ outcome creates follows lends asks =>
      rw [creates, Option.bind_some]
      dsimp only
      rw [Eval.noteGuards_bind, Eval.bind_apply, follows, Option.bind_some]
      dsimp only
      rw [Eval.bind_apply, unwrap_eq lends, asks]
      cases outcome <;> rfl

theorem keepBean_run (bean : Object app.Content) :
    keepBean factory bean world = some ((), world.keeping factory bean) := by
  rw [World.keeping]
  cases known : world.recipeFactory? factory with
  | none =>
    simp only [keepBean, Eval.get_bind, known]
    rfl
  | some recipe =>
    rw [keepBean_eq known]
    dsimp only
    cases recipe.scope <;> rfl

theorem Begins.produces_iff (begins : Begins factory recipe world)
    {outcome : Except BeanFailure (Object app.Content)} :
    unbounded code (.request (.produce factory)) world = some (outcome, after) ↔
      Tries code factory world outcome after := by
  rw [unbounded_produce, produce_known begins.known, produceByRecipe_entered begins.unready begins.admitted]
  constructor
  · intro produced
    obtain ⟨⟨made, last⟩, ran, produced⟩ := Option.bind_eq_some_iff.mp produced
    rw [createBean_eq_some_iff] at ran
    cases made with
    | error failure =>
      cases produced
      exact .fails begins ran
    | ok bean =>
      simp only [keepBean_run, Option.bind_some] at produced
      cases produced
      exact .succeeds begins ran
  · intro tries
    cases tries with
    | fails again ran =>
      cases begins.known.symm.trans again.known
      rw [createBean_eq_some_iff.mpr ran]
      rfl
    | succeeds again ran =>
      cases begins.known.symm.trans again.known
      rw [createBean_eq_some_iff.mpr ran, Option.bind_some]
      dsimp only
      rw [keepBean_run]
      rfl

end Pipelines

-- The entry on top of these steps began an attempt that came to its end between the worlds.
def Attempted (code : Code app) (factory : FactoryId) (earlier : List (Step app)) (before after : World app) :
    Prop :=
  ∃ start outcome stop, start.journal = earlier ∧ Reaches before start ∧
    Tries code factory start outcome stop ∧ stop.journal <:+ after.journal ∧ Reaches stop after

structure Accounts (code : Code app) (before after : World app) : Prop where
  reaches : Reaches before after
  grown : before.journal <:+ after.journal
  attempts : ∀ {earlier factory guards}, .entered factory guards :: earlier <:+ after.journal →
    before.journal <:+ earlier → Attempted code factory earlier before after

section Accounting

variable {factory : FactoryId} {recipe : RecipeFactory app} {before after : World app}

theorem Accounts.of_steps (reaches : Reaches before after)
    (quiet : ∃ steps, after.journal = steps ++ before.journal ∧
      ∀ factory guards, .entered factory guards ∉ steps) :
    Accounts code before after := by
  obtain ⟨steps, grown, unentered⟩ := quiet
  refine ⟨reaches, ⟨steps, grown.symm⟩, fun {earlier factory guards} entry inside => ?_⟩
  obtain ⟨later, split⟩ := entry
  obtain ⟨between, rfl⟩ := inside
  rw [grown, ← List.cons_append, ← List.append_assoc] at split
  refine absurd ?_ (unentered factory guards)
  rw [← List.append_cancel_right split]
  simp

theorem Attempted.within {earlier : List (Step app)} {first last : World app}
    (attempted : Attempted code factory earlier before after) (reached : Reaches first before)
    (grown : after.journal <:+ last.journal) (reaches : Reaches after last) :
    Attempted code factory earlier first last := by
  obtain ⟨start, outcome, stop, same, found, tries, ends, left⟩ := attempted
  exact ⟨start, outcome, stop, same, reached.trans found, tries, ends.trans grown, left.trans reaches⟩

-- A step is part of what was there at some time, or all of that comes before it.
theorem step_early_or_late {step : Step app} {earlier middle whole : List (Step app)}
    (taken : step :: earlier <:+ whole) (grown : middle <:+ whole) :
    step :: earlier <:+ middle ∨ middle <:+ earlier := by
  rcases List.suffix_or_suffix_of_suffix taken grown with early | late
  · exact .inl early
  · rcases List.suffix_cons_iff.mp late with same | late
    · exact .inl (same ▸ List.suffix_rfl)
    · exact .inr late

theorem Accounts.trans {first middle last : World app} (before : Accounts code first middle)
    (rest : Accounts code middle last) : Accounts code first last := by
  refine ⟨before.reaches.trans rest.reaches, before.grown.trans rest.grown, fun entry inside => ?_⟩
  rcases step_early_or_late entry rest.grown with early | late
  · exact (before.attempts early inside).within .refl rest.grown rest.reaches
  · exact (rest.attempts entry late).within before.reaches List.suffix_rfl .refl

theorem Quiet.accounts (reaches : Reaches before after) (quiet : Quiet before after) :
    Accounts code before after := by
  obtain ⟨steps, grown, unproductive⟩ := quiet.journal
  refine .of_steps reaches ⟨steps, grown, fun factory guards member => ?_⟩
  cases unproductive _ member

theorem PlainMove.accounts (move : PlainMove before after) : Accounts code before after :=
  move.quiet.accounts (.single (.plain move))

theorem ChainMove.accounts (move : ChainMove before after) : Accounts code before after :=
  move.quiet.accounts (.single (.chain move))

theorem PipelineMove.accounts (move : PipelineMove factory before after) : Accounts code before after := by
  refine .of_steps (.single (.production (.pipeline factory move))) ?_
  cases move with
  | keep bean => exact ⟨[], rfl, by simp⟩
  | _ => exact ⟨[_], rfl, by simp⟩

theorem Accounts.of_guards (world : World app) (guards : Guards) :
    Accounts code world (world.withGuards guards) :=
  .of_steps (.single (.production (.guard world guards))) ⟨[], rfl, by simp⟩

theorem Accounts.leave (world : World app) (factory : FactoryId) (succeeded : Bool) :
    Accounts code world (world.leave factory succeeded) := by
  refine (Accounts.of_guards world world.guards.pop).trans
    (.of_steps (.single (.production ?_)) ⟨[_], rfl, by simp⟩)
  exact .note _ _ factory rfl

theorem Accounts.keeping (world : World app) (factory : FactoryId) (bean : Object app.Content) :
    Accounts code world (world.keeping factory bean) := by
  rw [World.keeping]
  cases world.recipeFactory? factory with
  | none => exact (PlainMove.stay world).accounts
  | some recipe =>
    dsimp only
    cases recipe.scope with
    | prototype => exact (PlainMove.stay world).accounts
    | singleton => exact (PipelineMove.keep world bean).accounts.trans (PipelineMove.kept _ _).accounts

-- An attempt accounts for its own entry as soon as all inside of it are accounted for.
theorem Tries.accounts {outcome : Except BeanFailure (Object app.Content)}
    (tries : Tries code factory before outcome after) (inside : Accounts code (before.enter factory) after) :
    Accounts code before after := by
  have guarded : Reaches before (before.withGuards (before.guards.claim.push factory)) :=
    .single (.production (.guard before _))
  have enters : Reaches before (before.enter factory) := guarded.tail (.production (.note _ _ factory rfl))
  have steps : before.journal <:+ (before.enter factory).journal := List.suffix_cons _ _
  refine ⟨enters.trans inside.reaches, steps.trans inside.grown, fun {earlier other guards} entry within => ?_⟩
  rcases step_early_or_late entry inside.grown with early | late
  · -- Nothing else was entered yet, so the entry is the first step of this attempt.
    rcases List.suffix_cons_iff.mp early with same | beyond
    · cases same
      exact ⟨before, outcome, after, rfl, .refl, tries, List.suffix_rfl, .refl⟩
    · have short : earlier.length + 1 ≤ before.journal.length := beyond.length_le
      have long := within.length_le
      omega
  · exact (inside.attempts entry late).within enters List.suffix_rfl .refl

variable (handled : handle.Keeps (Accounts code))

include handled

theorem script_accounts {Result : Type} {script : Script app Result} {result : Result}
    (ran : handle.script script before = some (result, after)) : Accounts code before after :=
  Discipline.script_holds (fun move => move.plain.accounts)
    (handled.handles Accounts.trans).answers script before
    result after ran

theorem Pipeline.accounts {depth : Nat} {made : Except Failure (Object app.Content)}
    (ran : Pipeline code handle factory recipe depth before made after) : Accounts code before after := by
  have creating : Accounts code before (before.note (.creating factory before.guards)) :=
    (PipelineMove.creating before).accounts
  have following (world : World app) : Accounts code world (world.note (.followingUp factory world.guards)) :=
    (PipelineMove.followingUp world).accounts
  have scripted {Result : Type} {script : Script app Result} {start stop : World app} {result : Result}
      (ran : handle.script script start = some (result, stop)) : Accounts code start stop :=
    script_accounts handled ran
  cases ran with
  | creationFails creates => exact creating.trans (scripted creates)
  | followUpFails creates follows =>
    exact (creating.trans (scripted creates)).trans ((following _).trans (scripted follows))
  | direct creates follows =>
    exact (creating.trans (scripted creates)).trans ((following _).trans (scripted follows))
  | @nested inner _ followed told answered _ creates follows lends asks =>
    have made := (creating.trans (scripted creates)).trans ((following _).trans (scripted follows))
    have lent : Accounts code followed told :=
      Discipline.lendIdentity_holds code (fun move => move.plain.accounts)
        (handled.handles Accounts.trans).answers
        factory inner followed () told lends
    have unwraps : Accounts code told (told.unwrapping factory inner depth) :=
      (PipelineMove.unwrapping told inner).accounts.trans (.of_guards _ _)
    have answers := handled _ _ _ _ asks
    exact made.trans (lent.trans (unwraps.trans (answers.trans (.of_guards answered _))))

end Accounting

theorem accounts_keeps (code : Code app) : code.Keeps (Accounts code) := by
  refine .of_produced code Accounts.trans PlainMove.accounts ChainMove.accounts ?_
  intro handle handled within factory recipe world after outcome known produced
  have found := World.recipeFactory?_eq_some_iff.mpr known
  cases ready : recipe.ready? with
  | some bean =>
    simp only [produceByRecipe, ready] at produced
    cases produced
    exact (PlainMove.stay world).accounts
  | none =>
    cases refusal : world.guards.refusal? factory recipe.displayName (world.nestingBound recipe) with
    | some error =>
      rw [produceByRecipe_refused ready refusal] at produced
      cases produced
      refine (Accounts.of_guards world _).trans (.of_steps (.single (.production ?_)) ⟨[_], rfl, by simp⟩)
      exact .note _ _ factory rfl
    | none =>
      have begins : Begins factory recipe world := ⟨found, ready, refusal⟩
      have tries : Tries code factory world outcome after := by
        rw [← begins.produces_iff, unbounded_produce, produce_known found]
        exact produceByRecipe_within within produced
      refine tries.accounts ?_
      rw [produceByRecipe_entered ready refusal] at produced
      obtain ⟨⟨made, last⟩, ran, produced⟩ := Option.bind_eq_some_iff.mp produced
      have inside := (createBean_eq_some_iff.mp ran).accounts handled
      cases made with
      | error failure =>
        cases produced
        exact inside.trans (.leave last factory false)
      | ok bean =>
        simp only [keepBean_run, Option.bind_some] at produced
        cases produced
        exact inside.trans ((Accounts.keeping last factory bean).trans (.leave _ factory true))

end BeanRegistry
