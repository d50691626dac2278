import BeanRegistry.Proofs.Factory.Telling
import BeanRegistry.Proofs.Registry.Circles

set_option autoImplicit false

namespace BeanRegistry

open Relation

variable {app : Application} {code : Code app} {handle : Handler app}

-- None of the factories is producing or at home elsewhere, and without a registry only those that need no
-- others can have a bean.
structure Declarations.Unlearned (declarations : Declarations) (needs : FactoryId → List String)
    (world : World app) : Prop where
  claimed : world.guards.pendingDepth = none
  apart : ∀ factory ∈ world.guards.producing, factory ∉ declarations.beans.map Prod.snd
  once : (declarations.beans.map Prod.snd).Nodup
  unlearned : ∀ {name factory}, (name, factory) ∈ declarations.beans → ∃ recipe,
    world.recipeFactory? factory = some recipe ∧ (recipe.name = none ∨ recipe.name = some name) ∧
      recipe.registry = none ∧ (recipe.cached = none ∨ needs factory = [])

def World.introduced (world : World app) (identity : RegistryId) (name : String) (factory : FactoryId) :
    World app :=
  (((world.mapFactory factory fun learner => learner.learnName name).note
    (.toldName factory name)).mapFactory factory fun learner => learner.learnRegistry identity).note
      (.toldRegistry factory identity)

theorem World.recipeFactory?_introduced (world : World app) (identity : RegistryId) (name : String)
    (factory other : FactoryId) :
    (world.introduced identity name factory).recipeFactory? other =
      if factory = other then
        (world.recipeFactory? other).map fun learner => (learner.learnName name).learnRegistry identity
      else world.recipeFactory? other := by
  let told := (world.mapFactory factory fun learner => learner.learnName name).note
    (.toldName factory name)
  have first : told.recipeFactory? other = _ := world.recipeFactory?_mapFactory factory other _
  have second : (world.introduced identity name factory).recipeFactory? other = _ :=
    told.recipeFactory?_mapFactory factory other _
  rw [second, first]
  by_cases same : factory = other
  · simp only [same, if_true, Option.map_map]
    rfl
  · simp only [same, if_false]

theorem World.introduced_learning (world : World app) (identity : RegistryId) (name : String)
    (factory : FactoryId) : Learning world (world.introduced identity name factory) :=
  ⟨rfl, rfl, rfl, [_, _], rfl, by simp [Step.production?]⟩

theorem introduce_cons {world : World app} {factory : FactoryId} {recipe : RecipeFactory app}
    (known : world.recipeFactory? factory = some recipe) (identity : RegistryId) (name : String)
    (rest : List (String × FactoryId)) :
    introduce code handle identity ((name, factory) :: rest) world =
      introduce code handle identity rest (world.introduced identity name factory) := by
  let told := (world.mapFactory factory fun learner => learner.learnName name).note
    (.toldName factory name)
  have telling : (discard (tellName code handle factory name) : Eval app Unit) world = some ((), told) :=
    discard_eq (tellName_recipe known name)
  have learned : told.recipeFactory? factory = some (recipe.learnName name) := by
    have changed : told.recipeFactory? factory = _ := world.recipeFactory?_mapFactory factory factory _
    rw [changed, if_pos rfl, known]
    rfl
  have handing : (discard (tellRegistry code handle factory identity) : Eval app Unit) told =
      some ((), world.introduced identity name factory) :=
    discard_eq (tellRegistry_recipe learned identity)
  rw [introduce, Eval.bind_apply, telling, Option.bind_some, Eval.bind_apply, handing]
  rfl

theorem introduce_gives (identity : RegistryId) {beans : List (String × FactoryId)}
    (once : (beans.map Prod.snd).Nodup) {world : World app}
    (unlearned : ∀ {name factory}, (name, factory) ∈ beans → ∃ recipe,
      world.recipeFactory? factory = some recipe ∧
        (recipe.name = none ∨ recipe.name = some name) ∧ recipe.registry = none) :
    (introduce code handle identity beans).Gives world fun _ after =>
      Learning world after ∧
      (∀ {factory}, factory ∉ beans.map Prod.snd →
        after.recipeFactory? factory = world.recipeFactory? factory) ∧
      ∀ {name factory recipe}, (name, factory) ∈ beans → world.recipeFactory? factory = some recipe →
        after.recipeFactory? factory =
          some { recipe with name := some name, registry := some identity } := by
  induction beans generalizing world with
  | nil => exact ⟨(), world, rfl, .refl world, fun _ => rfl, fun member => by simp at member⟩
  | cons bean rest ih =>
    obtain ⟨name, factory⟩ := bean
    obtain ⟨recipe, known, named, free⟩ := unlearned List.mem_cons_self
    have knows := world.recipeFactory?_introduced identity name factory
    rw [List.map_cons, List.nodup_cons] at once
    have later {other : String} {next : FactoryId} (among : (other, next) ∈ rest) :
        (world.introduced identity name factory).recipeFactory? next = world.recipeFactory? next := by
      rw [knows, if_neg]
      rintro rfl
      exact once.1 (List.mem_map.mpr ⟨_, among, rfl⟩)
    have remaining {other : String} {next : FactoryId} (among : (other, next) ∈ rest) : ∃ recipe,
        (world.introduced identity name factory).recipeFactory? next = some recipe ∧
          (recipe.name = none ∨ recipe.name = some other) ∧ recipe.registry = none := by
      rw [later among]
      exact unlearned (List.mem_cons_of_mem _ among)
    obtain ⟨_, after, introduced, learning, others, learned⟩ := ih once.2 remaining
    refine ⟨(), after, ?_, (world.introduced_learning identity name factory).trans learning, ?_, ?_⟩
    · rw [introduce_cons known]
      exact introduced
    · intro other outside
      rw [List.map_cons, List.mem_cons, not_or] at outside
      rw [others outside.2, knows, if_neg (Ne.symm outside.1)]
    · intro other next former among before
      rcases List.mem_cons.mp among with same | among
      · cases same
        rw [known] at before
        cases before
        rw [others once.1, knows, if_pos rfl, known]
        rcases named with named | named <;>
          simp [RecipeFactory.learnName, RecipeFactory.learnRegistry, named, free]
      · rw [← later among] at before
        exact learned among before

def World.noteAliases (world : World app) (aliases : List Alias) : World app :=
  aliases.foldl (fun noted resolved => noted.note (.aliased resolved)) world

theorem noteAliases_run (aliases : List Alias) (world : World app) :
    (aliases.forM fun resolved => Eval.note (.aliased resolved) : Eval app Unit) world =
      some ((), world.noteAliases aliases) := by
  induction aliases generalizing world with
  | nil => rfl
  | cons resolved rest ih => exact ih (world.note (.aliased resolved))

theorem noteAliases_keeps (Kept : World app → World app → Prop)
    (trans : ∀ {first middle last}, Kept first middle → Kept middle last → Kept first last)
    (careful : ∀ {world after}, CarefulMove world after → Kept world after) (aliases : List Alias)
    (world : World app) : Kept world (world.noteAliases aliases) :=
  @Discipline.noteAliases app Unit (.keeping Kept trans) careful aliases world () _
    (noteAliases_run aliases world)

theorem noteAliases_eq (aliases : List Alias) (world : World app) :
    ∃ after, (aliases.forM fun resolved => Eval.note (.aliased resolved) : Eval app Unit) world =
        some ((), after) ∧ Learning world after ∧ after.factories = world.factories := by
  refine ⟨world.noteAliases aliases, noteAliases_run aliases world, ?_⟩
  refine List.foldlRecOn
    (motive := fun noted : World app => Learning world noted ∧ noted.factories = world.factories) aliases _
    ⟨.refl world, rfl⟩ fun noted so_far resolved _ => ?_
  have noting : Learning noted (noted.note (.aliased resolved)) :=
    ⟨rfl, rfl, rfl, [_], rfl, by simp [Step.production?]⟩
  exact ⟨so_far.1.trans noting, so_far.2⟩

theorem mem_indexAlias {table : List (String × FactoryId)} {resolved : Alias} {factory : FactoryId}
    (member : factory ∈ (indexAlias table resolved).map Prod.snd) : factory ∈ table.map Prod.snd := by
  unfold indexAlias at member
  split at member
  next found =>
    obtain ⟨before, after, split, _⟩ := List.lookup_eq_some_iff.mp found
    rw [List.map_append, List.mem_append] at member
    rcases member with old | same
    · exact old
    · obtain rfl : factory = _ := by simpa using same
      simp [split]
  next => exact member

theorem mem_declared {declarations : Declarations} {registry : Registry} {factory : FactoryId}
    (described : declarations.registry = .ok registry) (member : factory ∈ registry.factories) :
    factory ∈ declarations.beans.map Prod.snd := by
  have folded (aliases : List Alias) (table : List (String × FactoryId))
      (among : factory ∈ (aliases.foldl indexAlias table).map Prod.snd) :
      factory ∈ table.map Prod.snd := by
    induction aliases generalizing table with
    | nil => exact among
    | cons resolved rest ih => exact mem_indexAlias (ih (indexAlias table resolved) among)
  unfold Declarations.registry at described
  split at described
  next => cases described
  next =>
    split at described
    next => cases described
    next aliases _ =>
      cases described
      exact folded aliases declarations.beans member

theorem loadEagerly_gives {site : Site app} {owners : List Nat} (sound : site.Sound code)
    (names : List String) {world : World app} (standing : Standing site owners [] world) :
    (loadEagerly code (unbounded code) site.identity names).Gives world fun _ after =>
      Standing site owners [] after := by
  induction names generalizing world with
  | nil => exact ⟨.ok (), world, rfl, standing⟩
  | cons name rest ih =>
    obtain ⟨outcome, after, answered, stands, _⟩ := resolve_walk sound standing name
    rw [Eval.Gives, loadEagerly, Eval.bind_apply, answered, Option.bind_some]
    cases outcome with
    | error error => exact ⟨_, after, rfl, stands⟩
    | ok bean =>
      dsimp only
      rw [Eval.get_bind]
      cases isSingletonNamed after site.identity name with
      | error error => exact ⟨_, after, rfl, stands⟩
      | ok single =>
        cases single with
        | false => exact ⟨_, after, rfl, stands⟩
        | true => exact ih stands

structure Site.Of (site : Site app) (declarations : Declarations) (needs : FactoryId → List String)
    (code : Code app) : Prop where
  described : declarations.registry = .ok site.registry
  needs : site.needs = needs
  sound : site.Sound code
  named : ∀ {name factory}, (name, factory) ∈ declarations.beans →
    ∃ recipe, site.beans factory = some recipe ∧ recipe.displayName = name

theorem Site.standing_granted {site : Site app} {world : World app}
    (guards : world.guards = ⟨site.outer, none⟩)
    (unheld : world.registryCell? site.identity = some ⟨site.registry, []⟩)
    (beans : site.beans = world.recipeFactory?)
    (needless : ∀ {factory}, factory ∈ site.registry.factories →
      world.ready? factory = none ∨ site.needs factory = []) :
    Standing site [world.fresh] [] (world.grant site.identity).2 := by
  have same : SameFactories world (world.grant site.identity).2 := .of_eq rfl
  refine ⟨?_, List.cons_ne_nil _ _, ?_, guards, ?_, fun asked => ?_, ?_⟩
  · exact World.registryCell?_mapOwners unheld _
  · intro serial member
    obtain rfl := List.mem_singleton.mp member
    exact Nat.lt_succ_self _
  · intro factory recipe _ known
    rw [beans] at known
    exact ⟨recipe.cached, known⟩
  · simp at asked
  · intro factory bean member ready
    cases needless member with
    | inl empty =>
      rw [same.ready, empty] at ready
      cases ready
    | inr none =>
      have below (other : FactoryId) : ¬ site.registry.Needs site.needs factory other := by
        rintro ⟨name, among, _⟩
        simp [none] at among
      refine ⟨.intro (by simp [none]) fun other needed => absurd needed (below other), ?_⟩
      refine site.covers_of_below (fun other needed => absurd needed (below other)) fun _ => ?_
      simp [ready]

theorem build_eq {declarations : Declarations} {registry : Registry}
    (described : declarations.registry = .ok registry) (world : World app) :
    build code handle declarations world =
      (introduce code handle ⟨world.registries.size⟩ declarations.beans (world.addRegistry registry).2).bind
        fun introduced =>
          let noted := introduced.2.noteAliases registry.aliases
          let (owner, opened) := noted.grant ⟨world.registries.size⟩
          (loadEagerly code handle ⟨world.registries.size⟩ declarations.eager opened).map fun loaded =>
            match loaded with
            | (.error error, after) => (.error error, after.release owner)
            | (.ok _, after) => (.ok owner, after.note (.built registry.names.length registry.aliases.length
                declarations.eager.length)) := by
  let identity : RegistryId := ⟨world.registries.size⟩
  have opening : (modifyGet fun world => world.addRegistry registry : Eval app RegistryId) world =
      some (identity, (world.addRegistry registry).2) := rfl
  have granting (noted : World app) : (modifyGet fun world => world.grant identity : Eval app Owner) noted =
      some (noted.grant identity) := rfl
  unfold build
  simp only [described]
  rw [Eval.bind_apply, opening, Option.bind_some, Eval.bind_apply]
  refine congrArg _ (funext fun introduced => ?_)
  rw [Eval.bind_apply, noteAliases_run, Option.bind_some, Eval.bind_apply, granting, Option.bind_some,
    Eval.bind_apply]
  dsimp only
  generalize loadEagerly code handle identity declarations.eager _ = loading
  cases loading with
  | none => rfl
  | some loaded =>
    obtain ⟨outcome, after⟩ := loaded
    cases outcome <;> rfl

theorem build_ok {declarations : Declarations} {registry : Registry}
    {world middle noted built : World app} {owner : Owner}
    (described : declarations.registry = .ok registry)
    (introduced : introduce code handle ⟨world.registries.size⟩ declarations.beans
      (world.addRegistry registry).2 = some ((), middle))
    (noting : (registry.aliases.forM fun resolved => Eval.note (.aliased resolved) : Eval app Unit)
      middle = some ((), noted))
    (building : build code handle declarations world = some (.ok owner, built)) :
    owner = (noted.grant ⟨world.registries.size⟩).1 ∧ ∃ loaded step,
      loadEagerly code handle ⟨world.registries.size⟩ declarations.eager
        (noted.grant ⟨world.registries.size⟩).2 = some (.ok (), loaded) ∧ built = loaded.note step := by
  rw [noteAliases_run] at noting
  cases noting
  rw [build_eq described, introduced, Option.bind_some] at building
  obtain ⟨⟨outcome, loaded⟩, loading, rest⟩ := Option.map_eq_some_iff.mp building
  cases outcome with
  | error error => cases rest
  | ok _ =>
    cases rest
    exact ⟨rfl, loaded, _, loading, rfl⟩

theorem build_standing {declarations : Declarations} {needs : FactoryId → List String}
    {world built : World app} {owner : Owner} (unlearned : declarations.Unlearned needs world)
    (assembles : ∀ {name factory recipe}, (name, factory) ∈ declarations.beans →
      world.recipeFactory? factory = some recipe → code.Assembles recipe.recipe (needs factory))
    (building : build code (unbounded code) declarations world = some (.ok owner, built)) :
    ∃ site : Site app, site.identity = owner.registry ∧ site.outer = world.guards.producing ∧
      site.Of declarations needs code ∧ ∃ owners, Standing site owners [] built := by
  cases described : declarations.registry with
  | error fault =>
    simp only [build, described] at building
    cases building
  | ok registry =>
    let identity : RegistryId := ⟨world.registries.size⟩
    have strangers {name : String} {factory : FactoryId} (member : (name, factory) ∈ declarations.beans) :
        ∃ recipe, (world.addRegistry registry).2.recipeFactory? factory = some recipe ∧
          (recipe.name = none ∨ recipe.name = some name) ∧ recipe.registry = none := by
      obtain ⟨recipe, known, named, free, _⟩ := unlearned.unlearned member
      exact ⟨recipe, known, named, free⟩
    have introducing : (introduce code (unbounded code) identity declarations.beans).Gives
        (world.addRegistry registry).2 _ := introduce_gives identity unlearned.once strangers
    obtain ⟨_, middle, introduced, learning, _, learned⟩ := introducing
    obtain ⟨noted, noting, noticing, factories⟩ := noteAliases_eq registry.aliases middle
    obtain ⟨rfl, loaded, step, loading, rfl⟩ := build_ok described introduced noting building
    let site : Site app :=
      { identity, registry, needs, beans := noted.recipeFactory?, outer := world.guards.producing }
    have enrolled {name : String} {factory : FactoryId} (member : (name, factory) ∈ declarations.beans) :
        ∃ recipe, noted.recipeFactory? factory = some recipe ∧ recipe.name = some name ∧
          recipe.registry = some identity ∧ (recipe.cached = none ∨ needs factory = []) ∧
            code.Assembles recipe.recipe (needs factory) := by
      obtain ⟨recipe, known, _, _, needless⟩ := unlearned.unlearned member
      have follows := assembles member known
      rw [World.recipeFactory?_congr factories, learned member known]
      exact ⟨_, rfl, rfl, rfl, needless, follows⟩
    have declared {factory : FactoryId} (member : factory ∈ registry.factories) :
        ∃ name, (name, factory) ∈ declarations.beans := by
      obtain ⟨⟨name, _⟩, among, rfl⟩ := List.mem_map.mp (mem_declared described member)
      exact ⟨name, among⟩
    have sound : site.Sound code := by
      refine ⟨registry_nestingBound_pos described, fun {factory} member => ?_,
        fun {factory} member running => ?_⟩
      · obtain ⟨name, among⟩ := declared member
        obtain ⟨recipe, known, _, registered, _, follows⟩ := enrolled among
        exact ⟨recipe, known, registered, follows⟩
      · exact unlearned.apart factory running (mem_declared described member)
    have guards : noted.guards = ⟨world.guards.producing, none⟩ := by
      rw [← unlearned.claimed]
      exact noticing.guards.trans learning.guards
    have unheld : noted.registryCell? identity = some ⟨registry, []⟩ := by
      have registries : noted.registries = world.registries.push ⟨registry, []⟩ :=
        noticing.registries.trans learning.registries
      simp [World.registryCell?, registries, identity]
    have needless {factory : FactoryId} (member : factory ∈ registry.factories) :
        noted.ready? factory = none ∨ needs factory = [] := by
      obtain ⟨name, among⟩ := declared member
      obtain ⟨recipe, known, _, _, empty | none, _⟩ := enrolled among
      · rw [World.ready?, known, Option.bind_some, RecipeFactory.ready?, empty]
        exact .inl (by cases recipe.scope <;> rfl)
      · exact .inr none
    have standing : Standing site [noted.fresh] [] (noted.grant identity).2 :=
      site.standing_granted guards unheld rfl needless
    obtain ⟨_, after, answered, stands⟩ := loadEagerly_gives sound declarations.eager standing
    obtain rfl : after = loaded := by
      have same := answered.symm.trans loading
      simp only [Option.some.injEq, Prod.mk.injEq] at same
      exact same.2
    refine ⟨site, rfl, rfl, ⟨described, rfl, sound, ?_⟩, _, stands.note step⟩
    intro name factory member
    obtain ⟨recipe, known, named, _⟩ := enrolled member
    exact ⟨recipe, known, by simp [RecipeFactory.displayName, named]⟩

-- A singleton is ready, and it was created on the way if it was not ready before.
def CreatedIfNew (factory : FactoryId) (before after : World app) : Prop :=
  (after.ready? factory).isSome ∧ ∃ steps, after.journal = steps ++ before.journal ∧
    tally factory .creating steps = if (before.ready? factory).isSome then 0 else 1

theorem tally_failed {factory : FactoryId} {steps : List (Step app)}
    (smooth : ∀ step ∈ steps, step.stage? ≠ some .failed) : tally factory .failed steps = 0 := by
  unfold tally life
  refine List.count_eq_zero.mpr fun member => ?_
  obtain ⟨step, among, shown⟩ := List.mem_filterMap.mp member
  split at shown
  · exact smooth step among shown
  · cases shown

inductive Declarations.Reports (declarations : Declarations) : Obstacle → BeanFailure → Prop where
  | unknown (name : String) : Reports declarations (.unknown name) (.notFound name)
  | circle {name : String} {factory : FactoryId} (declared : (name, factory) ∈ declarations.beans) :
      Reports declarations (.circle factory) (.circularFactory name)

theorem Site.reports {site : Site app} {declarations : Declarations} {needs : FactoryId → List String}
    (of : site.Of declarations needs code) {name : String} {obstacle : Obstacle}
    (met : site.registry.firstObstacle site.needs [] [name] = some obstacle) :
    declarations.Reports obstacle (site.failure obstacle) := by
  cases obstacle with
  | unknown missing => exact .unknown missing
  | circle circular =>
    obtain ⟨_, _, factory, found, reached, _⟩ := Registry.firstObstacle_obstructs met nofun
    have member := Registry.reached_mem (Registry.mem_factories found) reached
    obtain ⟨⟨primary, bean⟩, declared, same⟩ := List.mem_map.mp (mem_declared of.described member)
    obtain rfl : bean = circular := same
    obtain ⟨recipe, enrolled, named⟩ := of.named declared
    simp only [Site.failure, enrolled, Option.map_some, Option.getD_some, named]
    exact .circle declared

theorem Standing.isSingleton {site : Site app} {owners : List Nat} {path : List FactoryId}
    {world : World app} {factory : FactoryId} (standing : Standing site owners path world)
    (sound : site.Sound code) (member : factory ∈ site.registry.factories)
    (single : world.scope? factory = some .singleton) : site.IsSingleton factory := by
  obtain ⟨recipe, enrolled, _, _⟩ := sound.enrolled member
  obtain ⟨cached, known⟩ := standing.beans member enrolled
  rw [World.scope?, known] at single
  exact ⟨recipe, enrolled, Option.some.inj single⟩

theorem createdIfNew {factory : FactoryId} {before after : World app} (smooth : Smooth before after)
    (undisturbed : Undisturbed before after) (outside : factory ∉ before.guards.producing)
    (single : before.scope? factory = some .singleton) (ready : (after.ready? factory).isSome) :
    CreatedIfNew factory before after := by
  obtain ⟨⟨steps, passing⟩, _⟩ := undisturbed
  obtain ⟨same, journal, unfailing⟩ := smooth.journal
  obtain rfl : steps = same := List.append_cancel_right (passing.journal.symm.trans journal)
  have admitted : after.Admits factory .singleton := by
    intro found kept
    rw [passing.scopes single] at kept
    exact (Option.some.inj kept).symm
  obtain ⟨bean, held⟩ := Option.isSome_iff_exists.mp ready
  have passed := passing.attempts outside admitted
  rw [World.rest_eq_settled held] at passed
  refine ⟨ready, steps, journal, ?_⟩
  cases found : before.ready? factory with
  | some _ =>
    rw [World.rest_eq_settled found] at passed
    rw [tally, Phase.through_settled passed]
    rfl
  | none =>
    rw [World.rest_eq_resting found] at passed
    obtain ⟨entries, creations, succeeded, _⟩ := Phase.through_ledger passed
    have failed : tally factory .failed steps = 0 := tally_failed unfailing
    have once : tally factory .succeeded steps = 1 := succeeded rfl
    simp only [Phase.running, Phase.unstarted, reduceCtorEq, if_false] at entries creations
    unfold tally at failed once ⊢
    simp only [Option.isSome_none, Bool.false_eq_true, if_false]
    omega

noncomputable def resolveAll (code : Code app) (registry : RegistryId) : List String → Eval app Unit
  | [] => pure ()
  | name :: rest => do
    discard (unbounded code (.request (.resolve registry name)))
    resolveAll code registry rest

theorem resolveAll_gives {site : Site app} {owners : List Nat} (sound : site.Sound code)
    (names : List String) {world : World app} (standing : Standing site owners [] world) :
    (resolveAll code site.identity names).Gives world fun _ after => Standing site owners [] after := by
  induction names generalizing world with
  | nil => exact ⟨(), world, rfl, standing⟩
  | cons name rest ih =>
    obtain ⟨outcome, after, answered, stands, _⟩ := resolve_walk sound standing name
    have asked : unbounded code (.request (.resolve site.identity name)) world =
        some (outcome, after) := by
      rw [unbounded_request]
      exact answered
    rw [Eval.Gives, resolveAll, Eval.bind_apply, discard_eq asked, Option.bind_some]
    exact ih stands

theorem Site.Answers.isOk_iff {Result : Type} {site : Site app} {before after : World app}
    {covered : World app → Prop} {obstacle : Option Obstacle} {outcome : Except BeanFailure Result}
    (answers : site.Answers before covered obstacle (outcome.mapError .bean) after) :
    outcome.isOk ↔ obstacle = none := by
  cases outcome <;> cases answers <;> simp [Except.isOk, Except.toBool]

theorem Standing.created {Result : Type} {site : Site app} {owners : List Nat} {before after : World app}
    {name : String} {obstacle : Option Obstacle} {outcome : Except BeanFailure Result}
    (standing : Standing site owners [] before) (sound : site.Sound code)
    (answers : site.Answers before (site.CoversNames [name]) obstacle (outcome.mapError .bean) after)
    (undisturbed : Undisturbed before after) (ok : outcome.isOk) {factory other : FactoryId}
    (found : site.registry.factory? name = some factory)
    (reached : ReflTransGen (site.registry.Needs site.needs) factory other)
    (single : before.scope? other = some .singleton) : CreatedIfNew other before after := by
  cases outcome with
  | error _ => cases ok
  | ok result =>
    cases answers with
    | ok smooth covers =>
      have member := Registry.reached_mem (Registry.mem_factories found) reached
      have kept := standing.isSingleton sound member single
      have ready := covers name List.mem_cons_self found other reached kept
      have outside : other ∉ before.guards.producing := by
        rw [standing.guards]
        exact sound.apart member
      exact createdIfNew smooth undisturbed outside single ready

theorem Site.Of.reported {Result : Type} {site : Site app} {declarations : Declarations}
    {needs : FactoryId → List String} {before after : World app} {covered : World app → Prop}
    {name : String} {error : BeanFailure} (of : site.Of declarations needs code)
    (answers : site.Answers before covered (site.registry.firstObstacle site.needs [] [name])
      (.error (.bean error) : Except Failure Result) after) :
    ∃ obstacle cause, site.registry.firstObstacle site.needs [] [name] = some obstacle ∧
      declarations.Reports obstacle cause ∧ (Failure.bean error).innermost = .bean cause := by
  cases met : site.registry.firstObstacle site.needs [] [name] with
  | none =>
    rw [met] at answers
    cases answers
  | some obstacle =>
    rw [met] at answers
    cases answers with
    | error cause => exact ⟨obstacle, _, rfl, site.reports of met, cause⟩

theorem resolve_decides_circles {declarations : Declarations} {needs : FactoryId → List String}
    {world built : World app} {owner : Owner} (unlearned : declarations.Unlearned needs world)
    (assembles : ∀ {name factory recipe}, (name, factory) ∈ declarations.beans →
      world.recipeFactory? factory = some recipe → code.Assembles recipe.recipe (needs factory))
    (building : unbounded code (.request (.build declarations)) world = some (.ok owner, built)) :
    ∃ registry, declarations.registry = .ok registry ∧ ∀ earlier : List String, ∃ now,
      resolveAll code owner.registry earlier built = some ((), now) ∧ now.guards = world.guards ∧
        ∀ name, ∃ outcome after,
          unbounded code (.request (.resolve owner.registry name)) now = some (outcome, after) ∧
          after.guards = world.guards ∧
          (outcome.isOk ↔ registry.Resolvable needs name) ∧
          (outcome.isOk → ∀ {factory other}, registry.factory? name = some factory →
            ReflTransGen (registry.Needs needs) factory other → now.scope? other = some .singleton →
              CreatedIfNew other now after) ∧
          ∀ error, outcome = .error error → ∃ obstacle cause,
            registry.firstObstacle needs [] [name] = some obstacle ∧
              declarations.Reports obstacle cause ∧ (Failure.bean error).innermost = .bean cause := by
  rw [unbounded_request] at building
  obtain ⟨site, same, outer, of, owners, standing⟩ := build_standing unlearned assembles building
  have guarded {owners : List Nat} {now : World app} (stands : Standing site owners [] now) :
      now.guards = world.guards := by
    rw [stands.guards, outer, ← unlearned.claimed]
    rfl
  obtain rfl := of.needs
  have sound := of.sound
  refine ⟨site.registry, of.described, fun earlier => ?_⟩
  rw [← same]
  obtain ⟨_, now, resolved, stands⟩ := resolveAll_gives sound earlier standing
  refine ⟨now, resolved, guarded stands, fun name => ?_⟩
  obtain ⟨outcome, after, answered, inside, answers⟩ := resolve_walk sound stands name
  have asked : unbounded code (.request (.resolve site.identity name)) now = some (outcome, after) := by
    rw [unbounded_request]
    exact answered
  refine ⟨outcome, after, asked, guarded inside, ?_, ?_, ?_⟩
  · rw [← Registry.firstObstacle_eq_none_iff]
    exact answers.isOk_iff
  · exact fun ok _ _ => stands.created sound answers (unbounded_undisturbed asked) ok
  · rintro error rfl
    exact of.reported answers

theorem sample_decides_circles :
    Sample.declarations.Unlearned Sample.needs Sample.furnished ∧
    ∃ owner built registry now outcome after,
      unbounded Sample.code (.request (.build Sample.declarations)) Sample.furnished =
        some (.ok owner, built) ∧
      Sample.declarations.registry = .ok registry ∧
      resolveAll Sample.code owner.registry ["maze"] built = some ((), now) ∧
      unbounded Sample.code (.request (.resolve owner.registry "house")) now = some (outcome, after) ∧
      (outcome.isOk ↔ registry.Resolvable Sample.needs "house") := by
  have listed {name : String} {factory : FactoryId}
      (member : (name, factory) ∈ Sample.declarations.beans) :
      ∃ recipe : RecipeFactory Sample.app, Sample.furnished.recipeFactory? factory = some recipe ∧
        recipe.name = none ∧ recipe.registry = none ∧ recipe.cached = none ∧
          recipe.recipe = Sample.needs factory := by
    simp only [Sample.declarations, Sample.recipes, List.map_cons, List.map_nil, List.zipIdx_cons,
      List.zipIdx_nil, List.mem_cons, List.not_mem_nil, or_false, Prod.mk.injEq] at member
    rcases member with ⟨-, rfl⟩ | ⟨-, rfl⟩ | ⟨-, rfl⟩ | ⟨-, rfl⟩ | ⟨-, rfl⟩ <;>
      exact ⟨_, rfl, rfl, rfl, rfl, rfl⟩
  have unlearned : Sample.declarations.Unlearned Sample.needs Sample.furnished := by
    refine ⟨rfl, List.forall_mem_nil _, by decide, fun member => ?_⟩
    obtain ⟨recipe, known, unnamed, free, empty, _⟩ := listed member
    exact ⟨recipe, known, .inl unnamed, free, .inl empty⟩
  have assembles {name : String} {factory : FactoryId} {recipe : RecipeFactory Sample.app}
      (member : (name, factory) ∈ Sample.declarations.beans)
      (known : Sample.furnished.recipeFactory? factory = some recipe) :
      Sample.code.Assembles recipe.recipe (Sample.needs factory) := by
    obtain ⟨same, found, _, _, _, listed⟩ := listed member
    rw [known] at found
    cases found
    exact listed ▸ ⟨⟨fun _ _ => (), fun _ => rfl⟩, fun _ _ => rfl⟩
  obtain ⟨owner, built, building⟩ : ∃ owner built,
      unbounded Sample.code (.request (.build Sample.declarations)) Sample.furnished =
        some (.ok owner, built) := by
    have succeeds : (perform Sample.code 4 (.request (.build Sample.declarations)) Sample.furnished).any
        (fun answer => answer.1.isOk) = true := by decide +kernel
    obtain ⟨⟨outcome, built⟩, performed, ok⟩ := (Option.any_eq_true _ _).mp succeeds
    cases outcome with
    | error _ => cases ok
    | ok owner => exact ⟨owner, built, unbounded_eq_some_iff.mpr ⟨4, performed⟩⟩
  obtain ⟨registry, described, resolves⟩ := resolve_decides_circles unlearned assembles building
  obtain ⟨now, resolved, _, answers⟩ := resolves ["maze"]
  obtain ⟨outcome, after, answered, _, decides, _⟩ := answers "house"
  exact ⟨unlearned, owner, built, registry, now, outcome, after, building, described, resolved, answered,
    decides⟩

end BeanRegistry
