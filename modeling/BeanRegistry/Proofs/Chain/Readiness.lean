import BeanRegistry.Proofs.Chain.Forward

set_option autoImplicit false

namespace BeanRegistry

variable {app : Application} {code : Code app}

namespace ChainSetting

def target? : ChainSetting app → Option (Object app.Content)
  | .target object => some object
  | _ => none

def method? : ChainSetting app → Option Method
  | .method identity => some identity
  | _ => none

def parameters? : ChainSetting app → Option (List (Value app.Content))
  | .parameters values => some values
  | _ => none

def targetMethod? : ChainSetting app → Option app.Hook
  | .targetMethod hook => some hook
  | _ => none

def advice? : ChainSetting app → Option (Advice app.Hook)
  | .advice added => some added
  | _ => none

end ChainSetting

namespace Chain

-- The last value of each setting counts, and every advice.
def given (settings : List (ChainSetting app)) : Chain app where
  target := (settings.filterMap ChainSetting.target?).getLast?
  method := (settings.filterMap ChainSetting.method?).getLast?
  parameters := (settings.filterMap ChainSetting.parameters?).getLast?.getD []
  advices := settings.filterMap ChainSetting.advice?
  targetMethod := (settings.filterMap ChainSetting.targetMethod?).getLast?

theorem given_set (settings : List (ChainSetting app)) (setting : ChainSetting app) :
    (given settings).set setting = given (settings ++ [setting]) := by
  cases setting <;>
    simp [given, set, ChainSetting.target?, ChainSetting.method?, ChainSetting.parameters?,
      ChainSetting.targetMethod?, ChainSetting.advice?, List.getLast?_append]

theorem given_configure (settings more : List (ChainSetting app)) :
    (given settings).configure more = given (settings ++ more) := by
  induction more generalizing settings with
  | nil => simp [configure]
  | cons setting rest ih =>
    have next := ih (settings ++ [setting])
    rw [← given_set] at next
    simpa [configure] using next

def lacks (chain : Chain app) : ChainPiece → Bool
  | .target => chain.target.isNone
  | .method => chain.method.isNone
  | .enclosingType => chain.method.any fun method => method.enclosingType.isEmpty
  | .methodName => chain.method.any fun method => method.name.isEmpty
  | .returnType => chain.method.any fun method => method.returnType.isEmpty
  | .targetMethod => chain.targetMethod.isNone

def missing? (chain : Chain app) : Option ChainPiece :=
  [ChainPiece.target, .method, .enclosingType, .methodName, .returnType, .targetMethod].find? chain.lacks

theorem passage_missing {chain : Chain app} {piece : ChainPiece} (missing : chain.missing? = some piece)
    (identity : ChainId) : chain.passage identity = .error piece := by
  obtain ⟨target, method, parameters, advices, targetMethod⟩ := chain
  cases target with
  | none => simpa [missing?, lacks, passage] using missing
  | some target =>
    cases method with
    | none => simpa [missing?, lacks, passage] using missing
    | some method =>
      by_cases enclosing : method.enclosingType.isEmpty <;> by_cases named : method.name.isEmpty <;>
        by_cases returning : method.returnType.isEmpty <;> cases targetMethod <;>
          simp_all [missing?, lacks, passage, Method.missingPiece?]

theorem passage_complete {chain : Chain app} (complete : chain.missing? = none) (identity : ChainId) :
    ∃ target method targetMethod, chain.target = some target ∧ chain.method = some method ∧
      chain.targetMethod = some targetMethod ∧ chain.passage identity =
        .ok ⟨identity, ⟨target, method, chain.parameters⟩, chain.advices, targetMethod⟩ := by
  obtain ⟨target, method, parameters, advices, targetMethod⟩ := chain
  simp only [missing?, List.find?_eq_none, List.forall_mem_cons, lacks] at complete
  obtain ⟨target_set, method_set, enclosing, named, returning, targetMethod_set, _⟩ := complete
  cases target with
  | none => simp at target_set
  | some target =>
    cases method with
    | none => simp at method_set
    | some method =>
      cases targetMethod with
      | none => simp at targetMethod_set
      | some targetMethod =>
        refine ⟨target, method, targetMethod, rfl, rfl, rfl, ?_⟩
        simp_all [passage, Method.missingPiece?]

end Chain

inductive Handling (app : Application) where
  | configure (settings : List (ChainSetting app))
  | attempt

namespace Handling

def settings : Handling app → List (ChainSetting app)
  | .configure settings => settings
  | .attempt => []

def allSettings (handlings : List (Handling app)) : List (ChainSetting app) :=
  handlings.flatMap settings

def refusals : List (ChainSetting app) → List (Handling app) → List (Outcome app)
  | _, [] => []
  | made, .configure more :: rest => refusals (made ++ more) rest
  | made, .attempt :: rest =>
    ((Chain.given made).missing?.map fun piece => .error (.chain (.notConfigured piece))).toList ++
      refusals made rest

def Early (made : List (ChainSetting app)) (handlings : List (Handling app)) : Prop :=
  ∀ before after, handlings = before ++ .attempt :: after →
    (Chain.given (made ++ allSettings before)).missing?.isSome

section Early

variable {made : List (ChainSetting app)} {first : Handling app} {rest : List (Handling app)}

theorem early_nil : Early made [] :=
  fun _ _ none => absurd none (by simp)

theorem early_cons : Early made (first :: rest) ↔
    (first = .attempt → (Chain.given made).missing?.isSome) ∧ Early (made ++ first.settings) rest := by
  constructor
  · intro early
    constructor
    · rintro rfl
      simpa [allSettings] using early [] rest rfl
    · rintro before after rfl
      simpa [allSettings] using early (first :: before) after rfl
  · rintro ⟨here, later⟩ before after same
    cases before with
    | nil =>
      obtain ⟨rfl, rfl⟩ := List.cons.inj same
      simpa [allSettings] using here rfl
    | cons other before =>
      obtain ⟨rfl, rfl⟩ := List.cons.inj same
      simpa [allSettings] using later before after rfl

theorem Early.prior {earlier : List (Handling app)} (early : Early made (earlier ++ rest)) :
    Early made earlier := by
  rintro before after rfl
  exact early before (after ++ rest) (by simp)

end Early

end Handling

open Handling

def Script.prepare (chain : ChainId) : List (Handling app) → Script app (List (Outcome app))
  | [] => pure []
  | .configure settings :: rest => do
    request (.configureChain chain settings)
    prepare chain rest
  | .attempt :: rest => do
    let outcome ← drive chain
    let outcomes ← prepare chain rest
    pure (outcome :: outcomes)

section Added

variable (world : World app) (chain : Chain app)

theorem World.chain?_addChain :
    (world.addChain chain).2.chain? ⟨world.chains.size⟩ = some ⟨chain, .created⟩ := by
  simp [World.chain?, World.addChain]

theorem World.configure_addChain (settings : List (ChainSetting app)) :
    (world.addChain chain).2.mapChain ⟨world.chains.size⟩ (fun cell =>
      { cell with chain := cell.chain.configure settings }) =
        (world.addChain (chain.configure settings)).2 := by
  simp only [World.mapChain, World.addChain]
  congr 1
  apply Array.ext_getElem?
  intro position
  simp only [Array.getElem?_modify, Array.getElem?_push]
  split <;> split <;> simp_all

variable {chain}

theorem drive_incomplete {piece : ChainPiece} (missing : chain.missing? = some piece) :
    unbounded code (.request (.driveChain ⟨world.chains.size⟩)) (world.addChain chain).2 =
      some (.error (.chain (.notConfigured piece)), (world.addChain chain).2) := by
  rw [unbounded_request]
  exact driveChain_unready (world.chain?_addChain chain) rfl (Chain.passage_missing missing _)

theorem script_newChain {Result : Type} (next : ChainId → Script app Result) :
    (unbounded code).script (Script.request (.newChain chain) >>= next) world =
      (unbounded code).script (next ⟨world.chains.size⟩) (world.addChain chain).2 := by
  rw [Handler.script_bind, Script.request, script_request]
  rfl

end Added

theorem prepare_early (code : Code app) (world : World app) {made : List (ChainSetting app)}
    {handlings : List (Handling app)} (early : Early made handlings) :
    (unbounded code).script (Script.prepare ⟨world.chains.size⟩ handlings)
    (world.addChain (Chain.given made)).2 =
      some (refusals made handlings, (world.addChain (Chain.given (made ++ allSettings handlings))).2) := by
  induction handlings generalizing made with
  | nil =>
    simp only [allSettings, List.flatMap_nil, List.append_nil]
    rfl
  | cons first rest ih =>
    obtain ⟨here, later⟩ := early_cons.mp early
    have next := ih later
    cases first with
    | configure settings =>
      rw [Script.prepare, Handler.script_bind, Script.request, script_request]
      change (unbounded code).script (Script.prepare _ rest) (World.mapChain _ _ _) = _
      rw [World.configure_addChain, Chain.given_configure]
      simpa [Handling.settings, allSettings, refusals] using next
    | attempt =>
      obtain ⟨piece, missing⟩ := Option.isSome_iff_exists.mp (here rfl)
      rw [Handling.settings, List.append_nil] at next
      rw [Script.prepare, Handler.script_bind, Script.drive, Script.request, Handler.script_request,
        drive_incomplete world missing, Option.bind_some, Handler.script_bind, next]
      simp [allSettings, Handling.settings, refusals, missing]
      rfl

theorem early_starts_vanish (code : Code app) (world : World app) {handlings : List (Handling app)}
    (early : Early [] handlings) :
    let chain : ChainId := ⟨world.chains.size⟩
    let fresh (settings : List (ChainSetting app)) : World app := (world.addChain (Chain.given settings)).2
    (∀ before after, handlings = before ++ .attempt :: after → ∃ piece,
      (Chain.given (allSettings before)).missing? = some piece ∧
      (unbounded code).script (Script.prepare chain before) (fresh []) =
        some (refusals [] before, fresh (allSettings before)) ∧
      (fresh (allSettings before)).progress? chain = some .created ∧
      unbounded code (.request (.driveChain chain)) (fresh (allSettings before)) =
        some (.error (.chain (.notConfigured piece)), fresh (allSettings before))) ∧
    (∀ {Result : Type} (next : ChainId → Script app Result),
      (unbounded code).script (do
        let made ← Script.request (.newChain Chain.empty)
        let outcomes ← Script.prepare made handlings
        let result ← next made
        pure (outcomes, result)) world =
      ((unbounded code).script (do
        let made ← Script.request (.newChain (Chain.given (allSettings handlings)))
        next made) world).map (Prod.map (Prod.mk (refusals [] handlings)) id)) ∧
    ((Chain.given (allSettings handlings)).missing? = none → ∃ target method targetMethod,
      ((allSettings handlings).filterMap ChainSetting.target?).getLast? = some target ∧
      ((allSettings handlings).filterMap ChainSetting.method?).getLast? = some method ∧
      ((allSettings handlings).filterMap ChainSetting.targetMethod?).getLast? = some targetMethod ∧
      let parameters := ((allSettings handlings).filterMap ChainSetting.parameters?).getLast?.getD []
      let advices := (allSettings handlings).filterMap ChainSetting.advice?
      let passage : Passage app := ⟨chain, ⟨target, method, parameters⟩, advices, targetMethod⟩
      unbounded code (.request (.driveChain chain)) (fresh (allSettings handlings)) =
        passage.conduct (unbounded code) (passage.remaining code 0 advices)
          (fresh (allSettings handlings))) := by
  intro chain fresh
  refine ⟨?_, fun next => ?_, fun complete => ?_⟩
  · rintro before after rfl
    obtain ⟨piece, missing⟩ := Option.isSome_iff_exists.mp (early before after rfl)
    have created : (fresh (allSettings before)).progress? chain = some .created := by
      simp [World.progress?, fresh, chain, World.chain?_addChain]
    exact ⟨piece, missing, prepare_early code world early.prior, created, drive_incomplete world missing⟩
  · have prepared : (unbounded code).script (Script.prepare chain handlings) (world.addChain Chain.empty).2 =
        some (refusals [] handlings, fresh (allSettings handlings)) := prepare_early code world early
    rw [script_newChain, script_newChain, Handler.script_bind, prepared, Option.bind_some,
      Handler.script_bind]
    cases (unbounded code).script (next ⟨world.chains.size⟩) (fresh (allSettings handlings)) <;> rfl
  · obtain ⟨target, method, targetMethod, targeted, identified, ending, passes⟩ :=
      Chain.passage_complete complete chain
    exact ⟨target, method, targetMethod, targeted, identified, ending,
      drive_eq_conduct code (world.chain?_addChain _) rfl passes⟩

def Sample.handlings : List (Handling Sample.app) :=
  let passage := Sample.passage []
  let unnamed : Method := { passage.invocation.method with name := "" }
  [.attempt, .configure [.target passage.invocation.target, .method passage.invocation.method,
    .method unnamed],
    .attempt, .configure [.advice (.before .heed), .method passage.invocation.method], .attempt,
    .configure [.targetMethod .refuse, .advice (.interceptor .retry), .targetMethod .heed]]

theorem Sample.handlings_vanish :
    let given := Chain.given (allSettings Sample.handlings)
    let refused : List (Outcome Sample.app) :=
      [ChainPiece.target, .methodName, .targetMethod].map fun piece => .error (.chain (.notConfigured piece))
    Early [] Sample.handlings ∧ given =
      Sample.chain { Sample.passage [.before .heed, .interceptor .retry] with
        invocation := { (Sample.passage []).invocation with parameters := [] } } ∧
      (unbounded Sample.code).script (do
        let made ← Script.request (.newChain Chain.empty)
        let outcomes ← Script.prepare made Sample.handlings
        let result ← Script.drive made
        pure (outcomes, result)) (World.initial ()) =
      ((unbounded Sample.code).script (do
        let made ← Script.request (.newChain given)
        Script.drive made) (World.initial ())).map (Prod.map (Prod.mk refused) id) := by
  intro given refused
  have early : Early [] Sample.handlings := by
    simp only [Sample.handlings, early_cons, early_nil, reduceCtorEq, false_implies, true_and, and_true,
      forall_const]
    decide
  obtain ⟨_, alike, _⟩ := early_starts_vanish Sample.code (World.initial ()) early
  exact ⟨early, rfl, alike Script.drive⟩

end BeanRegistry
