import BeanRegistry.Proofs.Run.Rules
import BeanRegistry.Script

set_option autoImplicit false

namespace BeanRegistry

variable {app : Application}

def Grows {Answer : Type} (stages : Nat → Option Answer) : Prop :=
  ∀ stage answer, stages stage = some answer → stages (stage + 1) = some answer

theorem Grows.later {Answer : Type} {stages : Nat → Option Answer} (grows : Grows stages)
    {early late : Nat} (order : early ≤ late) {answer : Answer}
    (answered : stages early = some answer) : stages late = some answer := by
  induction order with
  | refl => exact answered
  | step _ ih => exact grows _ answer ih

structure Approaches {Answer : Type} (stages : Nat → Option Answer) (limit : Option Answer) :
    Prop where
  grows : Grows stages
  reaches : ∀ {answer}, limit = some answer ↔ ∃ stage, stages stage = some answer

def Discipline.approaching : Discipline app (Option Nat) where
  Allows _ _ := True
  Holds _ answer := Approaches (fun stage => answer (some stage)) (answer none)
  step result _ := ⟨fun _ _ answered => answered, by simp⟩
  bind {_ _ world first next} before rest := by
    constructor
    · intro stage answer answered
      obtain ⟨result, middle, earlier, later⟩ := Eval.bind_eq_some_iff.mp answered
      exact Eval.bind_eq_some_iff.mpr
        ⟨result, middle, before.grows _ _ earlier, (rest result middle).grows _ _ later⟩
    · intro answer
      constructor
      · intro answered
        obtain ⟨result, middle, earlier, later⟩ := Eval.bind_eq_some_iff.mp answered
        obtain ⟨early, first⟩ := before.reaches.mp earlier
        obtain ⟨late, second⟩ := (rest result middle).reaches.mp later
        exact ⟨max early late, Eval.bind_eq_some_iff.mpr ⟨result, middle,
          before.grows.later (Nat.le_max_left early late) first,
          (rest result middle).grows.later (Nat.le_max_right early late) second⟩⟩
      · rintro ⟨stage, answered⟩
        obtain ⟨result, middle, earlier, later⟩ := Eval.bind_eq_some_iff.mp answered
        exact Eval.bind_eq_some_iff.mpr ⟨result, middle, before.reaches.mpr ⟨stage, earlier⟩,
          (rest result middle).reaches.mpr ⟨stage, later⟩⟩

def serve (code : Code app) (handle : Handler app) : Handler app
  | .request operation => carryOut code handle operation
  | .proceed passage position => proceedAt code handle passage position

theorem perform_succ (code : Code app) (budget : Nat) :
    perform code (budget + 1) = serve code (perform code budget) := by
  funext call
  cases call <;> rfl

theorem serve_holds {Index : Type} {discipline : Discipline app Index} {handle : Index → Handler app}
    (code : Code app) (all : ∀ world after, discipline.Allows world after)
    (handled : discipline.Handles handle) : discipline.Handles fun index => serve code (handle index) := by
  intro call world
  cases call with
  | request operation =>
    have produced (factory : FactoryId) (recipe : RecipeFactory app) (world : World app)
        (_ : world.factory? factory = some (.recipe recipe)) :
        discipline.Holds world fun index => produceByRecipe code (handle index) factory recipe world :=
      Discipline.produceByRecipe_holds code (fun _ => all _ _) handled.answers
        (fun _ => all _ _) factory recipe
        world
    exact Discipline.carryOut_holds code (fun _ => all _ _) handled.answers produced
      (Discipline.build_holds code (fun _ => all _ _) handled.answers produced fun _ _ => all _ _)
      (Discipline.driveChain_holds (fun _ => all _ _) (fun _ => all _ _)
        fun passage => handled (.proceed passage 0)) operation world
  | proceed passage position =>
    exact Discipline.proceedAt_holds code (fun _ => all _ _) handled.answers (fun _ => all _ _)
      position (handled (.proceed passage (position + 1))) world

-- Two stages, a budget and the next one, are enough of a sequence to compare the two.
def twoBudgets (code : Code app) (budget : Nat) : Option Nat → Handler app
  | some 0 => perform code budget
  | _ => perform code (budget + 1)

theorem twoBudgets_approaching {code : Code app} {budget : Nat}
    (more : ∀ call world answer, perform code budget call world = some answer →
      perform code (budget + 1) call world = some answer) :
    Discipline.approaching.Handles (twoBudgets code budget) := by
  intro call world
  constructor
  · intro stage answer answered
    cases stage with
    | zero => exact more call world answer answered
    | succ stage => exact answered
  · intro answer
    constructor
    · exact fun answered => ⟨1, answered⟩
    · rintro ⟨stage, answered⟩
      cases stage with
      | zero => exact more call world answer answered
      | succ stage => exact answered

theorem perform_grows (code : Code app) (call : Call app) (world : World app) :
    Grows fun budget => perform code budget call world := by
  intro budget
  induction budget generalizing call world with
  | zero =>
    intro answer answered
    simp [perform] at answered
  | succ budget ih =>
    intro answer answered
    have handled := twoBudgets_approaching ih
    change perform code (budget + 1) call world = some answer at answered
    change perform code (budget + 1 + 1) call world = some answer
    rw [perform_succ] at answered ⊢
    exact (serve_holds code (fun _ _ => trivial) handled call world).grows 0 answer answered

noncomputable def unbounded (code : Code app) : Handler app := fun call world =>
  open Classical in
  if answered : ∃ answer budget, perform code budget call world = some answer then
    some answered.choose
  else none

theorem unbounded_eq_some_iff {code : Code app} {call : Call app} {world : World app}
    {answer : call.Answer × World app} :
    unbounded code call world = some answer ↔
      ∃ budget, perform code budget call world = some answer := by
  unfold unbounded
  split
  next found =>
    obtain ⟨enough, chosen⟩ := found.choose_spec
    refine ⟨fun same => ⟨enough, same ▸ chosen⟩, fun ⟨budget, answered⟩ => ?_⟩
    -- Under the larger of the two budgets there is only one answer.
    have first := (perform_grows code call world).later (Nat.le_max_left enough budget) chosen
    have second := (perform_grows code call world).later (Nat.le_max_right enough budget) answered
    exact first.symm.trans second
  next missing =>
    simp only [reduceCtorEq, false_iff]
    exact fun ⟨budget, answered⟩ => missing ⟨answer, budget, answered⟩

def Handler.Within (handle limit : Handler app) : Prop :=
  ∀ call world answer, handle call world = some answer → limit call world = some answer

theorem perform_within (code : Code app) (budget : Nat) : (perform code budget).Within (unbounded code) :=
  fun _ _ _ answered => unbounded_eq_some_iff.mpr ⟨budget, answered⟩

theorem unbounded_of_any {code : Code app} {call : Call app} {world : World app}
    {check : call.Answer × World app → Bool} (budget : Nat)
    (checked : (perform code budget call world).any check = true) :
    ∃ answer after, unbounded code call world = some (answer, after) ∧ check (answer, after) = true := by
  obtain ⟨⟨answer, after⟩, performed, checks⟩ := (Option.any_eq_true _ _).mp checked
  exact ⟨answer, after, unbounded_eq_some_iff.mpr ⟨budget, performed⟩, checks⟩

noncomputable def allBudgets (code : Code app) : Option Nat → Handler app
  | some budget => perform code budget
  | none => unbounded code

theorem allBudgets_approaching (code : Code app) : Discipline.approaching.Handles (allBudgets code) :=
  fun call world => ⟨perform_grows code call world, unbounded_eq_some_iff⟩

theorem script_of_run {code : Code app} {budget : Nat} {Result : Type} {script : Script app Result}
    {world after : World app} {result : Result} (ran : world.run code budget script = some (result, after)) :
    (unbounded code).script script world = some (result, after) := by
  have answered := (allBudgets_approaching code).answers
  exact (Discipline.script_holds (fun _ => trivial) answered script world).reaches.mpr ⟨budget, ran⟩

def Discipline.following : Discipline app Bool where
  Allows _ _ := True
  Holds _ answer := ∀ result after, answer false = some (result, after) → answer true = some (result, after)
  step _ _ _ _ answered := answered
  bind before rest other last answered := by
    obtain ⟨result, middle, earlier, later⟩ := Eval.bind_eq_some_iff.mp answered
    exact Eval.bind_eq_some_iff.mpr ⟨result, middle, before result middle earlier,
      rest result middle other last later⟩

theorem produceByRecipe_within {code : Code app} {handle limit : Handler app} (within : handle.Within limit)
    {factory : FactoryId} {recipe : RecipeFactory app} {world after : World app}
    {outcome : Except BeanFailure (Object app.Content)}
    (produced : produceByRecipe code handle factory recipe world = some (outcome, after)) :
    produceByRecipe code limit factory recipe world = some (outcome, after) := by
  let both : Bool → Handler app
    | false => handle
    | true => limit
  have answered : Discipline.following.Answers both := fun operation world result last same =>
    within (.request operation) world (result, last) same
  exact Discipline.produceByRecipe_holds code (fun _ => trivial) answered
    (fun _ => trivial) factory recipe world
    outcome after produced

theorem unbounded_eq (code : Code app) : unbounded code = serve code (unbounded code) := by
  have handled := allBudgets_approaching code
  funext call world
  have limit : Approaches (fun budget => serve code (perform code budget) call world)
      (serve code (unbounded code) call world) :=
    serve_holds code (fun _ _ => trivial) handled call world
  apply Option.ext
  intro answer
  rw [unbounded_eq_some_iff, limit.reaches]
  constructor
  · rintro ⟨budget, answered⟩
    refine ⟨budget, ?_⟩
    rw [← perform_succ]
    exact perform_grows code call world budget answer answered
  · rintro ⟨budget, answered⟩
    refine ⟨budget + 1, ?_⟩
    rw [perform_succ]
    exact answered

theorem unbounded_request (code : Code app) (operation : Operation app) :
    unbounded code (.request operation) = carryOut code (unbounded code) operation :=
  congrFun (unbounded_eq code) (.request operation)

theorem unbounded_produce (code : Code app) (factory : FactoryId) :
    unbounded code (.request (.produce factory)) = produce code (unbounded code) factory :=
  unbounded_request code (.produce factory)

theorem unbounded_resolve (code : Code app) (registry : RegistryId) (name : String) :
    unbounded code (.request (.resolve registry name)) = resolve code (unbounded code) registry name :=
  unbounded_request code (.resolve registry name)

theorem unbounded_acquire (code : Code app) (registry : RegistryId) (world : World app) :
    unbounded code (.request (.acquire registry)) world = some (world.acquire registry) := by
  rw [unbounded_request]
  rfl

theorem unbounded_proceed (code : Code app) (passage : Passage app) (position : Nat) :
    unbounded code (.proceed passage position) =
      proceedAt code (unbounded code) passage position :=
  congrFun (unbounded_eq code) (.proceed passage position)

def Eval.Gives {Result : Type} (evaluation : Eval app Result) (world : World app)
    (holds : Result → World app → Prop) : Prop :=
  ∃ result after, evaluation world = some (result, after) ∧ holds result after

theorem Eval.Gives.bind {Result Other : Type} {first : Eval app Result} {next : Result → Eval app Other}
    {world : World app} {holds : Result → World app → Prop} {ends : Other → World app → Prop}
    (given : first.Gives world holds)
    (rest : ∀ result after, holds result after → (next result).Gives after ends) :
    (first >>= next).Gives world ends := by
  obtain ⟨result, middle, answered, held⟩ := given
  obtain ⟨other, after, answers, ended⟩ := rest result middle held
  exact ⟨other, after, Eval.bind_eq_some_iff.mpr ⟨result, middle, answered, answers⟩, ended⟩

theorem Handler.script_bind {Result Other : Type} (handle : Handler app) (script : Script app Result)
    (next : Result → Script app Other) (world : World app) :
    handle.script (script >>= next) world =
      (handle.script script world).bind fun answer => handle.script (next answer.1) answer.2 := by
  rw [Program.bind_eq, Handler.script, Program.run_bind, Eval.bind_apply]
  rfl

theorem Handler.script_request (handle : Handler app) (operation : Operation app) (world : World app) :
    handle.script (Program.request operation) world = handle (.request operation) world := by
  change (handle (.request operation) >>= pure) world = _
  rw [bind_pure]

theorem script_request (code : Code app) (operation : Operation app) (world : World app) :
    (unbounded code).script (Program.request operation) world =
      carryOut code (unbounded code) operation world := by
  rw [Handler.script_request, unbounded_request]

section Creations

variable {code : Code app} {creation : Creation} {registry : RegistryId}

theorem script_acquire (registered : creation.registry = some registry) (world : World app) :
    (unbounded code).script creation.acquire world =
      if world.isActive registry then some (.ok ⟨registry, world.fresh⟩, (world.grant registry).2)
      else some (.error .registryDropped, world) := by
  rw [Creation.acquire, registered]
  simp only [Script.acquire]
  rw [Handler.script_bind, Script.request, Handler.script_request, unbounded_acquire, World.acquire]
  split <;> rfl

theorem script_resolve (registered : creation.registry = some registry) (name : String) (world : World app) :
    (unbounded code).script (creation.resolve name) world =
      if world.isActive registry then
        (unbounded code (.request (.resolve registry name)) (world.grant registry).2).map
          (Prod.map (Except.mapError .bean) (·.release ⟨registry, world.fresh⟩))
      else some (.error .registryDropped, world) := by
  rw [Creation.resolve, Handler.script_bind, script_acquire registered]
  split
  · rw [Option.bind_some, Handler.script_bind, Script.holding, Handler.script_bind, Script.resolve,
      Script.request, Handler.script_request]
    cases unbounded code (.request (.resolve registry name)) (world.grant registry).2 with
    | none => rfl
    | some answer =>
      obtain ⟨outcome, after⟩ := answer
      rw [Option.bind_some, Handler.script_bind, Script.request, Handler.script_request, unbounded_request]
      cases outcome <;> rfl
  · rfl

end Creations

end BeanRegistry
