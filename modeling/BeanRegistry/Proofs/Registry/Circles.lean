import BeanRegistry.Proofs.Factory.Creation
import BeanRegistry.Proofs.Registry.Standing
import BeanRegistry.Proofs.Run.Unbounded

set_option autoImplicit false

namespace BeanRegistry

open Relation

variable {app : Application} {code : Code app}

inductive Site.Answers {Result : Type} (site : Site app) (before : World app)
    (covered : World app → Prop) : Option Obstacle → Except Failure Result → World app → Prop where
  | ok {result : Result} {after : World app} (smooth : Smooth before after) (covers : covered after) :
      Answers site before covered none (.ok result) after
  | error {obstacle : Obstacle} {failure : Failure} {after : World app}
      (cause : failure.innermost = .bean (site.failure obstacle)) :
      Answers site before covered (some obstacle) (.error failure) after

theorem Site.Answers.mono {Result : Type} {site : Site app} {before after : World app}
    {covered other : World app → Prop} {obstacle : Option Obstacle} {outcome : Except Failure Result}
    (answers : site.Answers before covered obstacle outcome after)
    (weaker : ∀ {after}, covered after → other after) :
    site.Answers before other obstacle outcome after := by
  cases answers with
  | ok smooth covers => exact .ok smooth (weaker covers)
  | error cause => exact .error cause

theorem createBean_assembles {factory : FactoryId} {recipe : RecipeFactory app} {names : List String}
    (assembles : code.Assembles recipe.recipe names) (depth : Nat) (world : World app) :
    ∃ content : List (Object app.Content) → app.Content,
      createBean code (unbounded code) factory recipe depth world =
        ((unbounded code).script (recipe.creation.gather names)
          (world.note (.creating factory world.guards))).bind fun answer =>
            match answer with
            | (.error failure, after) => some (.error failure, after)
            | (.ok beans, after) =>
              some (.ok (after.addObject (content beans)).1,
                (after.addObject (content beans)).2.note (.followingUp factory after.guards)) := by
  obtain ⟨⟨content, creates⟩, follows⟩ := assembles
  refine ⟨content recipe.creation, ?_⟩
  unfold createBean
  rw [creates, Creation.assemble, Eval.noteGuards_bind, Eval.bind_apply, Handler.script_bind]
  cases (unbounded code).script (recipe.creation.gather names)
    (world.note (.creating factory world.guards)) with
  | none => rfl
  | some answer =>
    obtain ⟨gathered, after⟩ := answer
    cases gathered with
    | error failure => rfl
    | ok beans =>
      have made : carryOut code (unbounded code) (.newObject (content recipe.creation beans)) after =
          some (after.addObject (content recipe.creation beans)) := rfl
      simp only [Option.bind_some]
      rw [Handler.script_bind, Script.newObject, Script.request, script_request, made]
      simp only [Option.bind_some]
      change (Eval.noteGuards (.followingUp factory) >>= fun _ => _) _ = _
      rw [Eval.noteGuards_bind, follows]
      rfl

section Walks

variable {site : Site app} {owners : List Nat} {path : List FactoryId} {world : World app}

theorem resolve_unknown_gives {name : String} {covered : World app → Prop}
    (standing : Standing site owners path world) (missing : site.registry.factory? name = none) :
    (resolve code (unbounded code) site.identity name).Gives world fun outcome after =>
      Standing site owners path after ∧
        site.Answers world covered (some (.unknown name)) (outcome.mapError .bean) after := by
  refine ⟨.error (.notFound name), world, ?_, standing, .error ?_⟩
  · rw [resolve, Eval.get_bind, standing.registry, missing]
    rfl
  · simp [Failure.innermost, Failure.sources, BeanFailure.sources, Site.failure]

theorem resolve_known_gives {name : String} {factory : FactoryId} {covered : World app → Prop}
    {obstacle : Option Obstacle} (standing : Standing site owners path world)
    (found : site.registry.factory? name = some factory)
    (produced : (produce code (unbounded code) factory).Gives world fun outcome after =>
      Standing site owners path after ∧
        site.Answers world covered obstacle (outcome.mapError .bean) after) :
    (resolve code (unbounded code) site.identity name).Gives world fun outcome after =>
      Standing site owners path after ∧
        site.Answers world covered obstacle (outcome.mapError .bean) after := by
  obtain ⟨outcome, after, answered, inside, answers⟩ := produced
  rw [← standing.registry] at found
  rw [Eval.Gives, resolve_known found, answered]
  cases outcome with
  | error error =>
    refine ⟨_, _, rfl, inside, ?_⟩
    cases answers with
    | error cause => exact .error ((Failure.innermost_creationFailed name _).trans cause)
  | ok bean => exact ⟨_, _, rfl, inside, answers⟩

theorem produce_ready_gives {factory : FactoryId} {bean : Object app.Content}
    (standing : Standing site owners path world) (member : factory ∈ site.registry.factories)
    (ready : world.ready? factory = some bean) :
    (produce code (unbounded code) factory).Gives world fun outcome after =>
      Standing site owners path after ∧
        site.Answers world (site.Covers · factory) none (outcome.mapError .bean) after :=
  ⟨.ok bean, world, produce_ready ready, standing,
    .ok (.of_factories rfl ⟨[], rfl, nofun⟩) (standing.ready member ready).2⟩

theorem produce_circle_gives {factory : FactoryId} {covered : World app → Prop} (sound : site.Sound code)
    (standing : Standing site owners path world) (member : factory ∈ site.registry.factories)
    (asked : factory ∈ path) :
    (produce code (unbounded code) factory).Gives world fun outcome after =>
      Standing site owners path after ∧
        site.Answers world covered (some (.circle factory)) (outcome.mapError .bean) after := by
  obtain ⟨recipe, enrolled, _, _⟩ := sound.enrolled member
  obtain ⟨cached, known⟩ := standing.beans member enrolled
  have unready := standing.unready asked
  rw [World.ready?, known, Option.bind_some] at unready
  refine ⟨.error (.circularFactory recipe.displayName), world.refuse factory, ?_,
    standing.refuse factory, .error ?_⟩
  · rw [produce_known known, produceByRecipe_refused unready]
    rw [Guards.refusal?, standing.guards, if_pos (List.mem_append_left _ asked)]
    rfl
  · simp [Failure.innermost, Failure.sources, BeanFailure.sources, Site.failure, enrolled]

theorem produce_new_gives {factory : FactoryId} {obstacle : Option Obstacle} (sound : site.Sound code)
    (standing : Standing site owners path world) (member : factory ∈ site.registry.factories)
    (new : factory ∉ path) (unready : world.ready? factory = none)
    (grounded : obstacle = none → site.registry.Grounded site.needs factory)
    (gathered : ∀ {inside : World app} {creation : Creation},
      Standing site owners (factory :: path) inside → creation.registry = some site.identity →
        ((unbounded code).script (creation.gather (site.needs factory))).Gives inside
          fun outcome after => Standing site owners (factory :: path) after ∧
            site.Answers inside (site.CoversNames (site.needs factory)) obstacle outcome after) :
    (produce code (unbounded code) factory).Gives world fun outcome after =>
      Standing site owners path after ∧
        site.Answers world (site.Covers · factory) obstacle (outcome.mapError .bean) after := by
  obtain ⟨recipe, enrolled, registered, assembles⟩ := sound.enrolled member
  obtain ⟨cached, known⟩ := standing.beans member enrolled
  have empty : ({ recipe with cached } : RecipeFactory app).ready? = none := by
    rwa [World.ready?, known, Option.bind_some] at unready
  have bound : world.nestingBound { recipe with cached } = site.registry.nestingBound :=
    standing.nestingBound registered
  have admitted : world.guards.refusal? factory recipe.displayName
      (world.nestingBound { recipe with cached }) = none := by
    rw [bound, Guards.refusal?_eq_none_iff, standing.guards]
    exact ⟨List.not_mem_append new (sound.apart member), sound.bounded⟩
  have entered := (standing.enter unready).note (.creating factory (world.enter factory).guards)
  have entering : Smooth world
      ((world.enter factory).note (.creating factory (world.enter factory).guards)) := by
    refine .of_factories rfl ⟨[.creating factory _, .entered factory _], rfl, ?_⟩
    simp [Step.stage?]
  have belonging : ({ recipe with cached } : RecipeFactory app).creation.registry =
      some site.identity := registered
  obtain ⟨outcome, inner, gathering, inside, answers⟩ := gathered entered belonging
  have assembling : code.Assembles ({ recipe with cached } : RecipeFactory app).recipe
      (site.needs factory) := assembles
  obtain ⟨content, created⟩ := createBean_assembles assembling world.guards.depth (world.enter factory)
  rw [gathering] at created
  rw [Eval.Gives, produce_known known, produceByRecipe_entered empty admitted, created]
  cases answers with
  | error cause =>
    exact ⟨_, _, rfl, inside.leave false, .error ((Failure.innermost_unableToCreate _).trans cause)⟩
  | @ok beans _ smooth below =>
    let step : Step app := .followingUp factory inner.guards
    have assembled : Smooth inner ((inner.addObject (content beans)).2.note step) := by
      refine .of_factories rfl ⟨[step], rfl, ?_⟩
      simp [step, Step.stage?]
    have finished := (inside.addObject (content beans)).note step
    have covered (other : FactoryId) (needed : site.registry.Needs site.needs factory other) :
        site.Covers ((inner.addObject (content beans)).2.note step) other := by
      obtain ⟨name, among, leading⟩ := needed
      exact assembled.covers (below name among leading)
    obtain ⟨kept, keeping, stands, ending, covers⟩ := finished.finish new member enrolled (grounded rfl)
      covered (inner.addObject (content beans)).1
    refine ⟨.ok (inner.addObject (content beans)).1, kept.leave factory true, ?_, stands,
      .ok (((entering.trans smooth).trans assembled).trans ending) covers⟩
    simp only [Option.bind_some]
    rw [keeping]
    rfl

theorem gather_cons_gives {name : String} {rest : List String} {first others : Option Obstacle}
    {creation : Creation} (standing : Standing site owners path world)
    (registered : creation.registry = some site.identity)
    (resolved : ∀ {shares : List Nat} {inside : World app}, Standing site shares path inside →
      (resolve code (unbounded code) site.identity name).Gives inside fun outcome after =>
        Standing site shares path after ∧
          site.Answers inside (site.CoversNames [name]) first (outcome.mapError .bean) after)
    (gathered : first = none → ∀ {inside : World app}, Standing site owners path inside →
      ((unbounded code).script (creation.gather rest)).Gives inside fun outcome after =>
        Standing site owners path after ∧
          site.Answers inside (site.CoversNames rest) others outcome after) :
    ((unbounded code).script (creation.gather (name :: rest))).Gives world fun outcome after =>
      Standing site owners path after ∧
        site.Answers world (site.CoversNames (name :: rest)) (first.or others) outcome after := by
  obtain ⟨outcome, middle, answered, inside, answers⟩ := resolved standing.grant
  have released := inside.release standing.held standing.serials
  rw [Eval.Gives, Creation.gather, Handler.script_bind, script_resolve registered, if_pos standing.isActive,
    unbounded_resolve, answered]
  simp only [Option.map_some, Prod.map, Option.bind_some]
  generalize outcome.mapError Failure.bean = verdict at answers
  cases answers with
  | error cause => exact ⟨_, _, rfl, released, .error cause⟩
  | @ok bean _ smooth covers =>
    let owner : Owner := ⟨site.identity, world.fresh⟩
    have granting : Smooth world (world.grant site.identity).2 :=
      .of_factories rfl ⟨[.granted owner], rfl, by simp [Step.stage?]⟩
    have releasing : Smooth middle (middle.release owner) :=
      .of_factories rfl ⟨[.released owner], rfl, by simp [Step.stage?]⟩
    obtain ⟨found, last, gathering, stands, finds⟩ := gathered rfl released
    rw [Handler.script_bind, gathering]
    rw [Option.none_or]
    cases finds with
    | error cause => exact ⟨_, _, rfl, stands, .error cause⟩
    | ok ending covered =>
      refine ⟨_, _, rfl, stands, .ok (((granting.trans smooth).trans releasing).trans ending) ?_⟩
      intro asked among factory leading
      rcases List.mem_cons.mp among with rfl | among
      · exact (releasing.trans ending).covers (covers asked List.mem_cons_self leading)
      · exact covered asked among leading

theorem resolve_gives (sound : site.Sound code) {name : String}
    (leads : Registry.LeadTo site.registry site.needs path [name])
    (gathered : ∀ {factory}, site.registry.factory? name = some factory → factory ∉ path →
      ∀ {inside : World app} {creation : Creation}, Standing site owners (factory :: path) inside →
        creation.registry = some site.identity →
          ((unbounded code).script (creation.gather (site.needs factory))).Gives inside
            fun outcome after => Standing site owners (factory :: path) after ∧
              site.Answers inside (site.CoversNames (site.needs factory))
                (site.registry.firstObstacle site.needs (factory :: path) (site.needs factory))
                outcome after)
    (standing : Standing site owners path world) :
    (resolve code (unbounded code) site.identity name).Gives world fun outcome after =>
      Standing site owners path after ∧
        site.Answers world (site.CoversNames [name])
          (site.registry.firstObstacle site.needs path [name]) (outcome.mapError .bean) after := by
  have last : site.registry.firstObstacle site.needs path [] = none := by rw [Registry.firstObstacle]
  cases found : site.registry.factory? name with
  | none =>
    rw [Registry.firstObstacle_unknown site.needs found]
    exact resolve_unknown_gives standing found
  | some factory =>
    have member := Registry.mem_factories found
    by_cases asked : factory ∈ path
    · rw [Registry.firstObstacle_circle site.needs found asked]
      exact resolve_known_gives standing found (produce_circle_gives sound standing member asked)
    · have names {after : World app} (covers : site.Covers after factory) :
          site.CoversNames [name] after := by
        intro other among led leading
        obtain rfl := List.mem_singleton.mp among
        rw [found] at leading
        cases leading
        exact covers
      cases ready : world.ready? factory with
      | some bean =>
        have grounded := (standing.ready member ready).1
        have clear : site.registry.firstObstacle site.needs path [name] = none := by
          refine Registry.firstObstacle_of_grounded (fun other among => ?_) leads
          obtain rfl := List.mem_singleton.mp among
          exact ⟨factory, found, grounded⟩
        rw [clear]
        obtain ⟨outcome, after, answered, stands, answers⟩ :=
          resolve_known_gives standing found (produce_ready_gives standing member ready)
        exact ⟨outcome, after, answered, stands, answers.mono names⟩
      | none =>
        have unfolded : site.registry.firstObstacle site.needs path [name] = _ :=
          Registry.firstObstacle_new site.needs found asked
        rw [last, Option.or_none] at unfolded
        rw [unfolded]
        have grounded (clear : site.registry.firstObstacle site.needs (factory :: path)
            (site.needs factory) = none) : site.registry.Grounded site.needs factory := by
          rw [← unfolded] at clear
          obtain ⟨same, leading, ground⟩ :=
            Registry.grounded_of_firstObstacle clear name List.mem_cons_self
          rw [found] at leading
          cases leading
          exact ground
        obtain ⟨outcome, after, answered, stands, answers⟩ := resolve_known_gives standing found
          (produce_new_gives sound standing member asked ready grounded (gathered found asked))
        exact ⟨outcome, after, answered, stands, answers.mono names⟩

theorem gather_gives (sound : site.Sound code) (path : List FactoryId) (names : List String)
    (leads : Registry.LeadTo site.registry site.needs path names) {owners : List Nat}
    {creation : Creation} (registered : creation.registry = some site.identity) {world : World app}
    (standing : Standing site owners path world) :
    ((unbounded code).script (creation.gather names)).Gives world fun outcome after =>
      Standing site owners path after ∧
        site.Answers world (site.CoversNames names)
          (site.registry.firstObstacle site.needs path names) outcome after := by
  induction path, names using Registry.firstObstacle.induct site.registry site.needs
    generalizing owners creation world with
  | case1 path =>
    rw [Registry.firstObstacle]
    exact ⟨.ok [], world, rfl, standing,
      .ok (.of_factories rfl ⟨[], rfl, List.forall_mem_nil _⟩) (List.forall_mem_nil _)⟩
  | case2 path name rest missing =>
    rw [Registry.firstObstacle_cons]
    refine gather_cons_gives standing registered (resolve_gives sound leads.first ?_) ?_
    · intro factory found
      simp [missing] at found
    · intro clear
      simp [Registry.firstObstacle_unknown site.needs missing] at clear
  | case3 path name rest factory found asked =>
    rw [Registry.firstObstacle_cons]
    refine gather_cons_gives standing registered (resolve_gives sound leads.first ?_) ?_
    · intro other leading new
      rw [found] at leading
      cases leading
      exact absurd asked new
    · intro clear
      simp [Registry.firstObstacle_circle site.needs found asked] at clear
  | case4 path name rest factory found new obstacle met ih =>
    rw [Registry.firstObstacle_cons]
    refine gather_cons_gives standing registered (resolve_gives sound leads.first ?_) ?_
    · intro other leading _ inside creation stands known
      rw [found] at leading
      cases leading
      exact ih (leads.below found) known stands
    · intro clear
      simp [Registry.firstObstacle_new site.needs found new, met] at clear
  | case5 path name rest factory found new clear ih rest_ih =>
    rw [Registry.firstObstacle_cons]
    refine gather_cons_gives standing registered (resolve_gives sound leads.first ?_) ?_
    · intro other leading _ inside creation stands known
      rw [found] at leading
      cases leading
      exact ih (leads.below found) known stands
    · exact fun _ {inside} stands => rest_ih leads.rest registered stands

theorem resolve_walk (sound : site.Sound code) (standing : Standing site owners [] world)
    (name : String) :
    (resolve code (unbounded code) site.identity name).Gives world fun outcome after =>
      Standing site owners [] after ∧
        site.Answers world (site.CoversNames [name])
          (site.registry.firstObstacle site.needs [] [name]) (outcome.mapError .bean) after := by
  have unasked (names : List String) : Registry.LeadTo site.registry site.needs [] names := nofun
  refine resolve_gives sound (unasked [name]) ?_ standing
  intro factory found _ inside creation stands registered
  exact gather_gives sound _ _ ((unasked [name]).below found) registered stands

end Walks

end BeanRegistry
