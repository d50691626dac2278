import BeanRegistry.Proofs.Factory.Telling
import BeanRegistry.Proofs.Factory.Work
import BeanRegistry.Proofs.Sample

set_option autoImplicit false

namespace BeanRegistry

variable {app : Application} {code : Code app}

-- The registry is alive afterwards if it was, and the factory learns nothing that it did not know.
inductive Unwraps (code : Code app) (factory : FactoryId) (now : World app) (nested : FactoryId) :
    World app → Prop where
  | intro {recipe kept : RecipeFactory app} {scope : Scope} {inner : app.Recipe} {after told : World app}
      (known : now.recipeFactory? factory = some recipe)
      (makes : makeProduct code (unbounded code) factory recipe (now.enter factory) =
        some (.ok (.factory nested), after))
      (fresh : after.recipeFactory? nested = some (.ofRecipe scope inner))
      (unused : life nested after.journal = [])
      (still : after.recipeFactory? factory = some kept)
      (unnamed : recipe.name = none → kept.name = none)
      (homeless : recipe.registry = none → kept.registry = none)
      (alive : ∀ registry, recipe.registry = some registry →
        after.isActive registry = now.isActive registry)
      (lent : lendIdentity code (unbounded code) factory nested after = some ((), told)) :
      Unwraps code factory now nested (told.unwrapping factory nested now.guards.depth)

inductive Descent (code : Code app) :
    List FactoryId → FactoryId → World app → FactoryId → World app → Prop where
  | here (factory : FactoryId) (now : World app) : Descent code [] factory now factory now
  | down {levels : List FactoryId} {factory nested last : FactoryId} {now below deep : World app}
      (unwraps : Unwraps code factory now nested below)
      (rest : Descent code levels nested below last deep) :
      Descent code (factory :: levels) factory now last deep

def MakesBean (code : Code app) (factory : FactoryId) (now : World app) (bean : Object app.Content) :
    Prop :=
  ∃ recipe after, now.recipeFactory? factory = some recipe ∧
    makeProduct code (unbounded code) factory recipe (now.enter factory) = some (.ok (.bean bean), after)

structure Entering (name : String) (bound : Nat) (factory : FactoryId) (now : World app) : Prop where
  recipe : ∃ recipe, now.recipeFactory? factory = some recipe ∧ recipe.ready? = none ∧
    recipe.displayName = name ∧ now.nestingBound recipe = bound
  idle : factory ∉ now.guards.producing
  lively : ∀ running ∈ now.guards.producing, life running now.journal ≠ []

section Entering

variable {name : String} {bound : Nat} {factory : FactoryId} {recipe : RecipeFactory app}
  {now : World app}

theorem Entering.of_known (entering : Entering name bound factory now)
    (known : now.recipeFactory? factory = some recipe) :
    recipe.ready? = none ∧ recipe.displayName = name ∧ now.nestingBound recipe = bound := by
  obtain ⟨found, known_too, facts⟩ := entering.recipe
  obtain rfl : found = recipe := by simpa [known] using known_too.symm
  exact facts

theorem Entering.admitted (entering : Entering name bound factory now)
    (known : now.recipeFactory? factory = some recipe) (shallow : now.guards.depth < bound) :
    now.guards.refusal? factory recipe.displayName (now.nestingBound recipe) = none := by
  obtain ⟨_, _, bounded⟩ := entering.of_known known
  exact Guards.refusal?_eq_none_iff.mpr ⟨entering.idle, bounded ▸ shallow⟩

end Entering

structure Deeper (factory nested : FactoryId) (now below : World app) : Prop where
  guards : below.guards = ⟨factory :: now.guards.producing, some (now.guards.depth + 1)⟩
  persists : Persists now below
  unready : ∀ running ∈ factory :: now.guards.producing, now.ready? running = none →
    below.ready? running = none
  journal : ∃ steps, below.journal = steps ++ (now.enter factory).journal
  works : ∀ {levels}, factory ∈ levels → (∀ other ∈ levels, other = nested ∨
    other ∈ factory :: now.guards.producing ∨ life other below.journal = []) →
      Works levels (once factory) now below
  unused : life nested (now.enter factory).journal = []

theorem life_grown {factory : FactoryId} {early late : List (Step app)}
    (grown : ∃ steps, late = steps ++ early) (unused : life factory late = []) :
    life factory early = [] := by
  obtain ⟨steps, rfl⟩ := grown
  rw [life_append, List.append_eq_nil_iff] at unused
  exact unused.2

theorem RecipeFactory.Becomes.knows {early late : RecipeFactory app} (becomes : early.Becomes late)
    (unnamed : early.name = none → late.name = none)
    (homeless : early.registry = none → late.registry = none) :
    late.name = early.name ∧ late.registry = early.registry := by
  constructor
  · cases named : early.name with
    | none => exact unnamed named
    | some name => exact becomes.name name named
  · cases registered : early.registry with
    | none => exact homeless registered
    | some registry => exact becomes.registry registry registered

theorem nestingBound_persists {before after : World app} {early late : RecipeFactory app}
    (persists : Persists before after) (home : late.registry = early.registry)
    (alive : ∀ registry, early.registry = some registry →
      after.isActive registry = before.isActive registry) :
    after.nestingBound late = before.nestingBound early := by
  unfold World.nestingBound
  rw [home]
  cases registered : early.registry with
  | none => rfl
  | some registry =>
    dsimp only
    rw [alive registry registered]
    by_cases active : before.isActive registry
    · rw [if_pos active, if_pos active, persists.registry active]
    · rw [if_neg active, if_neg active]

namespace Unwraps

variable {factory nested : FactoryId} {now below : World app} {name : String} {bound : Nat}

theorem deeper (unwraps : Unwraps code factory now nested below) : Deeper factory nested now below := by
  cases unwraps with
  | @intro recipe kept scope inner after told known makes fresh unused still unnamed homeless alive lent =>
    obtain ⟨same, lending, learning, knows⟩ := lendIdentity_recipe code (unbounded code) still fresh
    obtain rfl : told = same := by simpa [lent] using lending
    let entered := now.enter factory
    let below := told.unwrapping factory nested now.guards.depth
    have made : Made factory entered after := makeProduct_made rfl makes
    have standing : told.guards = ⟨factory :: now.guards.producing, none⟩ :=
      learning.guards.trans made.guards
    have entering : Persists now entered := .of_eq (Nat.le_refl _) rfl rfl
    have unwrapping : Persists told below := .of_eq (Nat.le_refl _) rfl rfl
    obtain ⟨lent_steps, lent_journal, unproductive⟩ := learning.journal
    have later : below.journal = .unwrapping factory nested told.guards :: lent_steps ++ after.journal :=
      congrArg (_ :: ·) lent_journal
    refine ⟨?_, ?_, ?_, ?_, ?_, ?_⟩
    · change ({ told.guards with pendingDepth := some (now.guards.depth + 1) } : Guards) = _
      rw [standing]
    · exact (entering.trans made.persists).trans ((learning.persists_borrow fresh knows).trans unwrapping)
    · intro running member unready
      obtain ⟨⟨_, passing⟩, _⟩ :=
        lendIdentity_undisturbed (undisturbed_keeps code).unbounded_keeps lent
      have busy : running ∈ after.guards.producing := by rwa [made.guards]
      exact passing.unfinished busy (made.unready running member unready)
    · obtain ⟨steps, journal⟩ := made.grown
      exact ⟨_, later.trans (by rw [journal, List.append_assoc])⟩
    · intro levels own apart
      have enters : Works levels [] now entered := .idle ⟨[_], rfl, by simp [Step.work?]⟩
      have works := made.works own fun other member => by
        rcases apart other member with rfl | running | idle
        · exact .inr unused
        · exact .inl running
        · exact .inr (life_grown ⟨_, later⟩ idle)
      have lends : Works levels [] after below := by
        refine .idle ⟨_, later, fun step member => ?_⟩
        rcases List.mem_cons.mp member with rfl | member
        · rfl
        · exact Step.work?_eq_none (unproductive step member)
      simpa using (enters.trans works).trans lends
    · exact life_grown made.grown unused

theorem entering (unwraps : Unwraps code factory now nested below)
    (entering : Entering name bound factory now) : Entering name bound nested below := by
  have deeper := unwraps.deeper
  have lively (running : FactoryId) (member : running ∈ factory :: now.guards.producing) :
      life running (now.enter factory).journal ≠ [] := by
    rcases List.mem_cons.mp member with rfl | member
    · simp [World.enter, World.note, World.withGuards, life, Step.production?, Step.stage?]
    · exact fun unused => entering.lively running member (life_grown ⟨[_], rfl⟩ unused)
  refine ⟨?_, ?_, ?_⟩
  · cases unwraps with
    | @intro recipe kept scope inner after told known makes fresh unused still unnamed homeless alive lent =>
      obtain ⟨same, lending, learning, knows⟩ := lendIdentity_recipe code (unbounded code) still fresh
      obtain rfl : told = same := by simpa [lent] using lending
      obtain ⟨_, displayed, bounded⟩ := entering.of_known known
      have made : Made factory (now.enter factory) after := makeProduct_made rfl makes
      obtain ⟨late, found_late, becomes⟩ := made.persists.recipes known
      obtain rfl : late = kept := by simpa [still] using found_late.symm
      obtain ⟨named, home⟩ := becomes.knows unnamed homeless
      refine ⟨(RecipeFactory.ofRecipe scope inner).borrow late, (knows nested).trans (if_pos rfl),
        ?_, ?_, ?_⟩
      · cases scope <;> rfl
      · rw [← displayed]
        simp [RecipeFactory.displayName, RecipeFactory.borrow, RecipeFactory.ofRecipe, named]
      · rw [← bounded]
        refine nestingBound_persists deeper.persists home fun registry registered => ?_
        rw [← alive registry registered]
        simp [World.isActive, World.registryCell?, World.unwrapping, World.withGuards, World.note,
          learning.registries]
  · rw [deeper.guards]
    exact fun member => lively nested member deeper.unused
  · intro running member
    rw [deeper.guards] at member
    exact fun unused => lively running member (life_grown deeper.journal unused)

theorem produce (unwraps : Unwraps code factory now nested below)
    (entering : Entering name bound factory now) (shallow : now.guards.depth < bound)
    {outcome : Except BeanFailure (Object app.Content)} {answered : World app}
    (asked : unbounded code (.request (.produce nested)) below = some (outcome, answered)) :
    let claimed := answered.withGuards answered.guards.claim
    unbounded code (.request (.produce factory)) now =
      match outcome with
      | .error error =>
        some (.error (.unableToCreate (.bean error)), claimed.leave factory false)
      | .ok bean =>
        (keepBean factory bean claimed).bind fun kept => some (.ok bean, kept.2.leave factory true) := by
  cases unwraps with
  | @intro recipe kept scope inner after told known makes fresh unused still unnamed homeless alive lent =>
    have created : createBean code (unbounded code) factory recipe now.guards.depth
        (now.enter factory) =
          some (outcome.mapError .bean, answered.withGuards answered.guards.claim) := by
      rw [createBean_eq, Eval.bind_apply, makes, Option.bind_some]
      dsimp only [deliver]
      rw [Eval.bind_apply, unwrap_eq lent, asked]
      cases outcome <;> rfl
    rw [unbounded_produce, produce_known known,
      produceByRecipe_entered (entering.of_known known).1 (entering.admitted known shallow), created]
    cases outcome <;> rfl

end Unwraps

def Hold (factories : List FactoryId) (bean : Object app.Content) (world : World app) : Prop :=
  ∀ factory ∈ factories, world.scope? factory = some .singleton → world.ready? factory = some bean

theorem keepBean_holds {factory : FactoryId} {recipe : RecipeFactory app} {world : World app}
    (known : world.recipeFactory? factory = some recipe) (bean : Object app.Content)
    {factories : List FactoryId} (hold : Hold factories bean world) (levels : List FactoryId) :
    (keepBean factory bean).Gives world fun _ kept =>
      Works levels [] world kept ∧ Hold (factory :: factories) bean kept := by
  rw [Eval.Gives, keepBean_eq known]
  cases scope : recipe.scope with
  | prototype =>
    refine ⟨(), world, rfl, .idle ⟨[], rfl, nofun⟩, fun other member single => ?_⟩
    rcases List.mem_cons.mp member with rfl | member
    · simp [World.scope?, known, scope] at single
    · exact hold other member single
  | singleton =>
    refine ⟨(), _, rfl, .idle ⟨[.kept factory recipe.displayName], rfl, by simp [Step.work?]⟩,
      fun other member single => ?_⟩
    by_cases own : other = factory
    · rw [own]
      exact World.ready?_keep known scope bean
    · have among := (List.mem_cons.mp member).resolve_left own
      have single : world.scope? other = some .singleton := by
        rw [← world.scope?_mapFactory factory other (RecipeFactory.keep_scope · bean)]
        exact single
      have unchanged := world.ready?_mapFactory factory other fun keeper => keeper.keep bean
      rw [if_neg (Ne.symm own)] at unchanged
      exact unchanged.trans (hold other among single)

section Last

variable {factory : FactoryId} {now : World app} {name : String} {bound : Nat} {watched : List FactoryId}

theorem MakesBean.delivers {bean : Object app.Content} (makes : MakesBean code factory now bean)
    (entering : Entering name bound factory now) (shallow : now.guards.depth < bound)
    (own : factory ∈ watched)
    (apart : ∀ level ∈ watched, level = factory ∨ level ∈ now.guards.producing) :
    (unbounded code (.request (.produce factory))).Gives now fun outcome after => outcome = .ok bean ∧
      Works watched (once factory) now after ∧ Hold [factory] bean after := by
  obtain ⟨recipe, made, known, makes⟩ := makes
  have product : Made factory (now.enter factory) made := makeProduct_made rfl makes
  obtain ⟨late, still, _⟩ := product.persists.recipes known
  have nobody : Hold [] bean made := fun _ member => by cases member
  obtain ⟨_, kept, keeping, idle, hold⟩ := keepBean_holds still bean nobody watched
  have works := product.works own fun other member => by
    refine .inl ((apart other member).elim (fun same => ?_) (List.mem_cons_of_mem factory))
    exact same ▸ List.mem_cons_self
  refine ⟨.ok bean, kept.leave factory true, ?_, rfl, ?_, hold⟩
  · rw [unbounded_produce, produce_known known,
      produceByRecipe_entered (entering.of_known known).1 (entering.admitted known shallow),
      createBean_eq, Eval.bind_apply, makes]
    simp only [Option.bind_some, deliver]
    change Option.bind (keepBean factory bean made) _ = _
    rw [keeping]
    rfl
  · have all := ((Works.entered watched now factory).trans works).trans
      (idle.trans (.left watched kept factory true))
    simpa using all

theorem Entering.refused (code : Code app) (entering : Entering name bound factory now)
    (full : now.guards.depth = bound) :
    unbounded code (.request (.produce factory)) now =
        some (.error (.nestingTooDeep name bound), now.refuse factory) ∧
      (now.refuse factory).ready? factory = none := by
  obtain ⟨recipe, known, unready, displayed, bounded⟩ := entering.recipe
  have refusal : now.guards.refusal? factory recipe.displayName (now.nestingBound recipe) =
      some (.nestingTooDeep name bound) := by
    rw [displayed, bounded, Guards.refusal?, if_neg entering.idle, if_pos (Nat.le_of_eq full.symm)]
  constructor
  · rw [unbounded_produce, produce_known known, produceByRecipe_refused unready refusal]
  · change now.ready? factory = none
    simp [World.ready?, known, unready]

end Last

def BeanFailure.wrapped (error : BeanFailure) : Nat → BeanFailure
  | 0 => error
  | levels + 1 => .unableToCreate (.bean (error.wrapped levels))

namespace Descent

variable {levels : List FactoryId} {factory last : FactoryId} {now deep : World app} {name : String}
  {bound : Nat}

-- Nobody has asked for anything below the factory itself.
theorem unused (descent : Descent code levels factory now last deep) :
    ∀ level ∈ levels ++ [last], level = factory ∨ life level now.journal = [] := by
  induction descent with
  | here factory now => simp
  | @down levels factory nested last now below deep unwraps rest ih =>
    intro level member
    have deeper := unwraps.deeper
    have before {other : FactoryId} (unused : life other (now.enter factory).journal = []) :
        life other now.journal = [] := life_grown ⟨[_], rfl⟩ unused
    rcases List.mem_cons.mp member with rfl | member
    · exact .inl rfl
    · rcases ih level member with rfl | unused
      · exact .inr (before deeper.unused)
      · exact .inr (before (life_grown deeper.journal unused))

theorem works {nested : FactoryId} {below : World app} (unwraps : Unwraps code factory now nested below)
    (rest : Descent code levels nested below last deep) {watched : List FactoryId}
    (own : factory ∈ watched)
    (apart : ∀ level ∈ watched, level ∈ factory :: levels ++ [last] ∨ level ∈ now.guards.producing) :
    Works watched (once factory) now below := by
  refine unwraps.deeper.works own fun other member => ?_
  rcases apart other member with level | running
  · rcases List.mem_cons.mp level with rfl | level
    · exact .inr (.inl List.mem_cons_self)
    · exact (rest.unused other level).imp_right .inr
  · exact .inr (.inl (List.mem_cons_of_mem factory running))

theorem apart_below {nested : FactoryId} {below : World app}
    (unwraps : Unwraps code factory now nested below) {watched : List FactoryId}
    (apart : ∀ level ∈ watched, level ∈ factory :: levels ++ [last] ∨ level ∈ now.guards.producing) :
    ∀ level ∈ watched, level ∈ levels ++ [last] ∨ level ∈ below.guards.producing := by
  intro level member
  rw [unwraps.deeper.guards]
  rcases apart level member with level | running
  · rcases List.mem_cons.mp level with rfl | level
    · exact .inr List.mem_cons_self
    · exact .inl level
  · exact .inr (List.mem_cons_of_mem factory running)

theorem delivers (descent : Descent code levels factory now last deep)
    (entering : Entering name bound factory now) (room : now.guards.depth + levels.length < bound)
    {bean : Object app.Content} (makes : MakesBean code last deep bean) {watched : List FactoryId}
    (within : ∀ level ∈ levels ++ [last], level ∈ watched)
    (apart : ∀ level ∈ watched, level ∈ levels ++ [last] ∨ level ∈ now.guards.producing) :
    (unbounded code (.request (.produce factory))).Gives now fun outcome after => outcome = .ok bean ∧
      Works watched ((levels ++ [last]).flatMap once) now after ∧ Hold (levels ++ [last]) bean after := by
  induction descent with
  | here factory now =>
    obtain ⟨outcome, after, produced, same, works, hold⟩ := makes.delivers entering room
      (within factory List.mem_cons_self) fun level member =>
        (apart level member).imp_left List.mem_singleton.mp
    exact ⟨outcome, after, produced, same, by simpa using works, hold⟩
  | @down levels factory nested last now below deep unwraps rest ih =>
    have deeper := unwraps.deeper
    have depth : below.guards.depth = now.guards.depth + 1 := by rw [deeper.guards]; rfl
    rw [List.length_cons] at room
    obtain ⟨_, answered, asked, rfl, inner, hold⟩ := ih (unwraps.entering entering) (by omega) makes
      (fun level member => within level (List.mem_cons_of_mem factory member)) (apart_below unwraps apart)
    obtain ⟨recipe, known, _⟩ := entering.recipe
    obtain ⟨late, still, _⟩ := (deeper.persists.trans (unbounded_persists asked)).recipes known
    let claimed := answered.withGuards answered.guards.claim
    have still : claimed.recipeFactory? factory = some late := still
    obtain ⟨_, kept, keeping, idle, holds⟩ := keepBean_holds still bean hold watched
    have claims : Works watched [] answered claimed := .idle ⟨[], rfl, List.forall_mem_nil _⟩
    have leaves := Works.left watched kept factory true
    have outer := works unwraps rest (within factory List.mem_cons_self) apart
    refine ⟨.ok bean, kept.leave factory true, ?_, rfl, ?_, holds⟩
    · rw [unwraps.produce entering (by omega) asked]
      dsimp only
      rw [keeping]
      rfl
    · simpa using (outer.trans inner).trans ((claims.trans idle).trans leaves)

theorem refuses (descent : Descent code levels factory now last deep)
    (entering : Entering name bound factory now) (full : now.guards.depth + levels.length = bound)
    {watched : List FactoryId} (within : ∀ level ∈ levels ++ [last], level ∈ watched)
    (apart : ∀ level ∈ watched, level ∈ levels ++ [last] ∨ level ∈ now.guards.producing) :
    (unbounded code (.request (.produce factory))).Gives now fun outcome after =>
      outcome = .error ((BeanFailure.nestingTooDeep name bound).wrapped levels.length) ∧
        Works watched (levels.flatMap once) now after ∧
          ∀ level ∈ levels ++ [last], after.ready? level = none := by
  induction descent with
  | here factory now =>
    obtain ⟨refused, empty⟩ := Entering.refused code entering full
    refine ⟨_, _, refused, rfl, .idle ⟨[_], rfl, by simp [Step.work?]⟩, fun level member => ?_⟩
    exact List.mem_singleton.mp member ▸ empty
  | @down levels factory nested last now below deep unwraps rest ih =>
    have deeper := unwraps.deeper
    have depth : below.guards.depth = now.guards.depth + 1 := by rw [deeper.guards]; rfl
    rw [List.length_cons] at full
    obtain ⟨_, answered, asked, rfl, inner, empty⟩ := ih (unwraps.entering entering) (by omega)
      (fun level member => within level (List.mem_cons_of_mem factory member)) (apart_below unwraps apart)
    obtain ⟨recipe, known, unready, _⟩ := entering.recipe
    have own : answered.ready? factory = none := by
      obtain ⟨⟨_, passing⟩, _⟩ := (undisturbed_keeps code).unbounded_keeps _ _ _ _ asked
      have free : now.ready? factory = none := by simp [World.ready?, known, unready]
      refine passing.unfinished ?_ (deeper.unready factory List.mem_cons_self free)
      rw [deeper.guards]
      exact List.mem_cons_self
    have leaves : Works watched [] answered
        ((answered.withGuards answered.guards.claim).leave factory false) :=
      .idle ⟨[_], rfl, by simp [Step.work?]⟩
    have outer := works unwraps rest (within factory List.mem_cons_self) apart
    refine ⟨_, _, unwraps.produce entering (by omega) asked, rfl, ?_, fun level member => ?_⟩
    · simpa using (outer.trans inner).trans leaves
    · rcases List.mem_cons.mp member with rfl | member
      · exact own
      · exact empty level member

end Descent

section Dolls

variable {factory : FactoryId} {recipe : RecipeFactory Sample.toys} {inner : Sample.Doll}

theorem makeProduct_reveal {world middle : World Sample.toys} {product : Product Sample.toys}
    (reveals : (unbounded Sample.unpack).script (recipe.recipe.reveal recipe.creation)
      (world.note (.creating factory world.guards)) = some (.ok product, middle)) :
    makeProduct Sample.unpack (unbounded Sample.unpack) factory recipe world =
      some (.ok product, middle.note (.followingUp factory middle.guards)) := by
  rw [makeProduct, Eval.noteGuards_bind, Eval.bind_apply]
  change Option.bind ((unbounded Sample.unpack).script (recipe.recipe.reveal recipe.creation) _) _ = _
  rw [reveals]
  rfl

theorem solid_makesBean {now : World Sample.toys} (known : now.recipeFactory? factory = some recipe)
    (solid : recipe.recipe = .solid) : ∃ bean, MakesBean Sample.unpack factory now bean := by
  let noted := (now.enter factory).note (.creating factory (now.enter factory).guards)
  have reveals : (unbounded Sample.unpack).script (recipe.recipe.reveal recipe.creation) noted =
      some (.ok (.bean (noted.addObject ()).1), (noted.addObject ()).2) := by
    rw [solid, Sample.Doll.reveal, Handler.script_bind, Script.newObject, Script.request, script_request]
    rfl
  exact ⟨_, recipe, _, known, makeProduct_reveal reveals⟩

def World.Accounted (world : World app) : Prop :=
  ∀ step ∈ world.journal, ∀ factory, step.production? = some factory → factory.index < world.factories.size

theorem World.index_lt {world : World app} {factory : FactoryId} {recipe : RecipeFactory app}
    (known : world.recipeFactory? factory = some recipe) : factory.index < world.factories.size := by
  have found := recipeFactory?_eq_some_iff.mp known
  exact (Array.getElem?_eq_some_iff.mp found).1

theorem around_unwraps {now : World Sample.toys} (accounted : now.Accounted)
    (known : now.recipeFactory? factory = some recipe) (around : recipe.recipe = .around inner) :
    ∃ nested below, Unwraps Sample.unpack factory now nested below ∧ below.Accounted ∧
      ∃ borrower, below.recipeFactory? nested = some borrower ∧ borrower.recipe = inner := by
  let entered := now.enter factory
  let after := ((entered.note (.creating factory entered.guards)).addFactory
    (.recipe (.ofRecipe .singleton inner))).2.note (.followingUp factory entered.guards)
  have makes : makeProduct Sample.unpack (unbounded Sample.unpack) factory recipe entered =
      some (.ok (.factory ⟨now.factories.size⟩), after) := by
    refine makeProduct_reveal ?_
    rw [around, Sample.Doll.reveal, Handler.script_bind, Script.newFactory, Script.request, script_request]
    rfl
  have knows (other : FactoryId) : after.recipeFactory? other =
      if other.index = now.factories.size then some (.ofRecipe .singleton inner)
      else now.recipeFactory? other := entered.recipeFactory?_addFactory _ other
  have small := now.index_lt known
  have fresh := (knows ⟨now.factories.size⟩).trans (if_pos rfl)
  have still := (knows factory).trans (if_neg (by omega)) |>.trans known
  -- Every step so far is of a factory that was there before.
  have before : ∀ step ∈ after.journal, ∀ other, step.production? = some other →
      other.index < now.factories.size := by
    intro step member other shown
    simp only [after, entered, World.note, World.addFactory, World.enter, World.withGuards,
      List.mem_cons] at member
    rcases member with rfl | rfl | rfl | member
    · cases shown
      exact small
    · cases shown
      exact small
    · cases shown
      exact small
    · exact accounted step member other shown
  have unused : life ⟨now.factories.size⟩ after.journal = [] := by
    refine List.filterMap_eq_nil_iff.mpr fun step member => if_neg fun shown => ?_
    exact Nat.lt_irrefl _ (before step member _ shown)
  obtain ⟨told, lent, learning, learns⟩ :=
    lendIdentity_recipe Sample.unpack (unbounded Sample.unpack) still fresh
  have borrowed := (learns ⟨now.factories.size⟩).trans (if_pos rfl)
  refine ⟨_, _, .intro known makes fresh unused still id id (fun _ _ => rfl) lent, ?_, _, borrowed, rfl⟩
  intro step member other shown
  obtain ⟨steps, journal, unproductive⟩ := learning.journal
  have room : now.factories.size < told.factories.size := told.index_lt borrowed
  have before_room : other.index < now.factories.size := by
    rcases List.mem_cons.mp member with rfl | member
    · cases shown
      exact small
    · rw [journal] at member
      rcases List.mem_append.mp member with quiet | member
      · rw [unproductive step quiet] at shown
        cases shown
      · exact before step member other shown
  exact Nat.lt_trans before_room room

end Dolls

structure Yields (code : Code app) (factory : FactoryId) (now : World app)
    (outcome : Except BeanFailure (Object app.Content)) (after : World app) : Prop where
  produced : unbounded code (.request (.produce factory)) now = some (outcome, after)
  resolved : ∀ {registry name}, (now.registry registry).factory? name = some factory →
    unbounded code (.request (.resolve registry name)) now =
      some (outcome.mapError fun error => .creationFailed name (.bean error), after)

theorem Yields.of_produced {factory : FactoryId} {now after : World app}
    {outcome : Except BeanFailure (Object app.Content)}
    (produced : unbounded code (.request (.produce factory)) now = some (outcome, after)) :
    Yields code factory now outcome after := by
  refine ⟨produced, fun {registry name} found => ?_⟩
  rw [unbounded_produce] at produced
  rw [unbounded_resolve, resolve_known found, produced]
  cases outcome <;> rfl

theorem nesting_is_bounded (code : Code app) {factory : FactoryId} {recipe : RecipeFactory app}
    {now : World app} (known : now.recipeFactory? factory = some recipe) (unready : recipe.ready? = none)
    (outermost : now.guards = Guards.empty) :
    let bound := now.nestingBound recipe
    let shown := recipe.displayName
    (∀ name, recipe.name = some name → shown = name) ∧ (recipe.name = none → shown = "<unnamed>") ∧
    (∀ registry, recipe.registry = some registry → now.isActive registry = true →
      bound = (now.registry registry).nestingBound) ∧
    ((∀ registry, recipe.registry = some registry → now.isActive registry = false) → bound = 32) ∧
    ∀ {levels last deep}, Descent code levels factory now last deep →
      (levels.length < bound → ∀ bean, MakesBean code last deep bean → ∃ after,
        Yields code factory now (.ok bean) after ∧
          Works (levels ++ [last]) ((levels ++ [last]).flatMap once) now after ∧
            Hold (levels ++ [last]) bean after) ∧
      (levels.length = bound → ∃ after,
        Yields code factory now
          (.error ((BeanFailure.nestingTooDeep shown bound).wrapped bound)) after ∧
          Works (levels ++ [last]) (levels.flatMap once) now after ∧
            ∀ level ∈ levels ++ [last], after.ready? level = none) := by
  intro bound shown
  have entering : Entering shown bound factory now := by
    refine ⟨⟨recipe, known, unready, rfl, rfl⟩, ?_, ?_⟩ <;> simp [outermost, Guards.empty]
  have top : now.guards.depth = 0 := by rw [outermost]; rfl
  refine ⟨fun name named => ?_, fun unnamed => ?_, fun registry registered active => ?_, fun dropped => ?_,
    fun {levels last deep} descent => ⟨?_, ?_⟩⟩
  · simp [shown, RecipeFactory.displayName, named]
  · simp [shown, RecipeFactory.displayName, unnamed]
  · simp [bound, World.nestingBound, registered, active]
  · simp only [bound, World.nestingBound]
    cases registered : recipe.registry with
    | none => rfl
    | some registry => simp [dropped registry registered, defaultNestingBound]
  · intro room bean makes
    obtain ⟨_, after, produced, rfl, works, hold⟩ := descent.delivers entering (by omega) makes
      (fun _ member => member) fun _ member => .inl member
    exact ⟨after, .of_produced produced, works, hold⟩
  · intro full
    obtain ⟨_, after, produced, rfl, works, empty⟩ := descent.refuses entering (by omega)
      (fun _ member => member) fun _ member => .inl member
    rw [full] at produced
    exact ⟨after, .of_produced produced, works, empty⟩

-- Two dolls on a shelf that takes no more than two of them inside each other.
def Sample.toyBox : World Sample.toys :=
  let enlisted (name : String) (doll : Doll) : Factory Sample.toys :=
    .recipe { RecipeFactory.ofRecipe .singleton doll with name := some name, registry := some ⟨0⟩ }
  let names := [("large", ⟨0⟩), ("small", ⟨1⟩)]
  { World.initial () with
    factories := #[enlisted "large" (.around (.around .solid)), enlisted "small" (.around .solid)]
    registries :=
      #[⟨{ Registry.empty with names := ["large", "small"], table := names, nestingBound := 2 }, [0]⟩]
    fresh := 1 }

theorem dolls_nest_to_bound :
    (∃ bean after, unbounded Sample.unpack (.request (.resolve ⟨0⟩ "small")) Sample.toyBox =
      some (.ok bean, after)) ∧
    ∃ after, unbounded Sample.unpack (.request (.resolve ⟨0⟩ "large")) Sample.toyBox =
      some (.error (.creationFailed "large" (.bean (.unableToCreate (.bean (.unableToCreate
        (.bean (.nestingTooDeep "large" 2))))))), after) := by
  have accounted : Sample.toyBox.Accounted := fun _ member => by cases member
  constructor
  · have known : Sample.toyBox.recipeFactory? ⟨1⟩ = some _ := rfl
    obtain ⟨_, _, unwraps, _, _, found, solid⟩ := around_unwraps accounted known rfl
    obtain ⟨bean, makes⟩ := solid_makesBean found solid
    obtain ⟨_, _, _, _, nests⟩ := nesting_is_bounded Sample.unpack known rfl rfl
    obtain ⟨after, yields, _⟩ := (nests (.down unwraps (.here _ _))).1 (by decide) bean makes
    exact ⟨bean, after, yields.resolved rfl⟩
  · have known : Sample.toyBox.recipeFactory? ⟨0⟩ = some _ := rfl
    obtain ⟨_, _, unwraps, accounted, _, found, around⟩ := around_unwraps accounted known rfl
    obtain ⟨_, _, unwraps_too, _⟩ := around_unwraps accounted found around
    obtain ⟨_, _, _, _, nests⟩ := nesting_is_bounded Sample.unpack known rfl rfl
    obtain ⟨after, yields, _⟩ := (nests (.down unwraps (.down unwraps_too (.here _ _)))).2 rfl
    exact ⟨after, yields.resolved rfl⟩

end BeanRegistry
