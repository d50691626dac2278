import Mathlib.Data.Finset.Card
import BeanRegistry.Proofs.Factory.Bookkeeping
import BeanRegistry.Proofs.Registry.Built
import BeanRegistry.Proofs.Registry.Confined

set_option autoImplicit false

namespace BeanRegistry

variable {app : Application} {code : Code app}

namespace Registry

variable (registry : Registry) {path : List FactoryId} {factory : FactoryId} {depth : Nat}

def visited (path : List FactoryId) : Nat :=
  (registry.factories.toFinset ∩ path.toFinset).card

def capacity : Nat :=
  registry.factories.toFinset.card * registry.nestingBound

-- There is room below a path for every factory of the registry that is not on it.
def Roomy (path : List FactoryId) : Prop :=
  path.length ≤ registry.visited path * registry.nestingBound

structure Fits (path : List FactoryId) (depth : Nat) : Prop where
  shallow : depth < registry.nestingBound
  room : path.length + registry.nestingBound ≤
    registry.visited path * registry.nestingBound + depth + 1

variable {registry}

theorem visited_le_cons (registry : Registry) (factory : FactoryId) (path : List FactoryId) :
    registry.visited path ≤ registry.visited (factory :: path) := by
  refine Finset.card_le_card (Finset.inter_subset_inter_left ?_)
  simp [Finset.subset_insert]

theorem visited_new (known : factory ∈ registry.factories) (new : factory ∉ path) :
    registry.visited (factory :: path) = registry.visited path + 1 := by
  unfold visited
  rw [List.toFinset_cons, Finset.inter_insert_of_mem (by simpa using known)]
  exact Finset.card_insert_of_notMem (by simp [new])

theorem Roomy.length_le (roomy : registry.Roomy path) : path.length ≤ registry.capacity :=
  roomy.trans (Nat.mul_le_mul_right _ (Finset.card_le_card Finset.inter_subset_left))

theorem Roomy.nil : registry.Roomy [] :=
  Nat.zero_le _

theorem Fits.roomy (fits : registry.Fits path depth) : registry.Roomy path := by
  have shallow := fits.shallow
  have room := fits.room
  unfold Roomy
  omega

theorem Roomy.named (roomy : registry.Roomy path) (positive : 0 < registry.nestingBound)
    (known : factory ∈ registry.factories) (new : factory ∉ path) :
    registry.Fits (factory :: path) 0 := by
  unfold Roomy at roomy
  refine ⟨positive, ?_⟩
  rw [visited_new known new, Nat.add_mul, List.length_cons]
  omega

theorem Fits.nested (fits : registry.Fits path depth) (deeper : depth + 1 < registry.nestingBound)
    (factory : FactoryId) : registry.Fits (factory :: path) (depth + 1) := by
  have room := fits.room
  have more := Nat.mul_le_mul_right registry.nestingBound
    (visited_le_cons registry factory path)
  refine ⟨deeper, ?_⟩
  rw [List.length_cons]
  omega

end Registry

def ListsAtMost (most : Nat) (before after : World app) : Prop :=
  ∃ steps, after.journal = steps ++ before.journal ∧
    ∀ step ∈ steps, ∀ {guards}, step.guards? = some guards → guards.producing.length ≤ most

theorem ListsAtMost.trans {most : Nat} {first middle last : World app}
    (before : ListsAtMost most first middle) (rest : ListsAtMost most middle last) :
    ListsAtMost most first last :=
  journal_trans before rest

theorem ListsAtMost.of_unproductive (most : Nat) {before after : World app}
    (journal : ∃ steps, after.journal = steps ++ before.journal ∧
      ∀ step ∈ steps, step.production? = none) : ListsAtMost most before after := by
  obtain ⟨steps, grown, unproductive⟩ := journal
  refine ⟨steps, grown, fun step member guards shown => ?_⟩
  rw [Step.guards?_eq_none (unproductive step member)] at shown
  cases shown

namespace Host

section Moves

variable {host : Host app} {world after : World app} {factory : FactoryId}

variable (host)

structure Abides (before after : World app) : Prop extends Persists before after where
  held : before.isHeld host.share → after.isHeld host.share
  lists : ListsAtMost host.registry.capacity before after

variable {host}

theorem Abides.trans {first middle last : World app} (before : host.Abides first middle)
    (rest : host.Abides middle last) : host.Abides first last where
  toPersists := before.toPersists.trans rest.toPersists
  held holds := rest.held (before.held holds)
  lists := before.lists.trans rest.lists

theorem Abides.of_eq (fresh : after.fresh = world.fresh) (factories : after.factories = world.factories)
    (registries : after.registries = world.registries) (journal : after.journal = world.journal) :
    host.Abides world after where
  toPersists := .of_eq (Nat.le_of_eq fresh.symm) factories registries
  held := held_of_registries registries
  lists := .of_unproductive _ ⟨[], journal, List.forall_mem_nil _⟩

theorem Abides.refl (world : World app) : host.Abides world world :=
  .of_eq rfl rfl rfl rfl

theorem Abides.of_step {step : Step app} {shown : Guards} (fresh : after.fresh = world.fresh)
    (factories : after.factories = world.factories) (registries : after.registries = world.registries)
    (journal : after.journal = step :: world.journal) (shows : step.guards? = some shown)
    (few : shown.producing.length ≤ host.registry.capacity) : host.Abides world after where
  toPersists := .of_eq (Nat.le_of_eq fresh.symm) factories registries
  held := held_of_registries registries
  lists := by
    refine ⟨[step], journal, fun other member guards same => ?_⟩
    obtain rfl := List.mem_singleton.mp member
    obtain rfl : shown = guards := Option.some.inj (shows.symm.trans same)
    exact few

theorem Houses.abides (houses : host.Houses world) (abides : host.Abides world after) :
    host.Houses after :=
  houses.persists abides.toPersists (abides.held houses.held)

end Moves

variable (host : Host app)

-- Where an answer would not leave what others rely on, the name is not known.
noncomputable def resolver (code : Code app) : Resolver app := fun name world =>
  open Classical in
  if lasting : ∃ answer, unbounded code (.request (.resolve host.identity name)) world = some answer ∧
      host.Lasts world answer.2 then
    lasting.choose
  else (.error (.notFound name), world)

theorem Lasts.refl (world : World app) : host.Lasts world world where
  toPersists := .of_eq (Nat.le_refl _) rfl rfl
  guards := rfl
  held := id

theorem resolver_lawful (code : Code app) : (host.resolver code).Lawful code host where
  lasts name world := by
    unfold resolver
    split
    next lasting => exact lasting.choose_spec.2
    next => exact .refl host world
  agrees {name world answer} answered lasts := by
    have lasting : ∃ answer, unbounded code (.request (.resolve host.identity name)) world =
        some answer ∧ host.Lasts world answer.2 := ⟨answer, answered, lasts⟩
    rw [resolver, dif_pos lasting]
    exact Option.some.inj (lasting.choose_spec.1.symm.trans answered)

def Ends (code : Code app) (path : List FactoryId) : Prop :=
  ∀ factory world, host.Houses world → world.guards.producing = path →
    host.Enrols world factory →
      (factory ∉ path → world.guards.depth < host.registry.nestingBound →
        host.registry.Fits (factory :: path) world.guards.depth) →
      (produce code (unbounded code) factory).Gives world fun _ after => host.Abides world after

structure Inside (path : List FactoryId) (start now : World app) : Prop
    extends host.Houses now where
  guards : now.guards = ⟨path, none⟩
  persists : Persists start now
  lists : ListsAtMost host.registry.capacity start now

section Productions

variable {host : Host app} {path : List FactoryId} {start world after : World app}
  {factory : FactoryId} {recipe : RecipeFactory app} {depth : Nat}

theorem Inside.quiet (inside : host.Inside path start world) (persists : Persists world after)
    (quiet : Quiet world after) (held : after.isHeld host.share) :
    host.Inside path start after where
  toHouses := inside.toHouses.persists persists held
  guards := quiet.guards.trans inside.guards
  persists := inside.persists.trans persists
  lists := inside.lists.trans (.of_unproductive _ quiet.journal)

section Below

variable (confines : code.Confines host) (positive : 0 < host.registry.nestingBound)
  (ends : host.Ends code path) (roomy : host.registry.Roomy path)

include positive ends roomy

theorem resolve_ends (inside : host.Inside path start world) (name : String) :
    ∃ answer, unbounded code (.request (.resolve host.identity name)) world = some answer ∧
      host.Lasts world answer.2 ∧ host.Inside path start answer.2 := by
  cases found : host.registry.factory? name with
  | none =>
    refine ⟨(.error (.notFound name), world), ?_, .refl host world, inside⟩
    rw [unbounded_resolve, resolve, Eval.get_bind, inside.known, found]
    rfl
  | some factory =>
    have member := Registry.mem_factories found
    have shallow : world.guards.depth = 0 := by rw [inside.guards]; rfl
    obtain ⟨outcome, after, produced, abides⟩ := ends factory world inside.toHouses
      (congrArg Guards.producing inside.guards) (inside.beans factory member)
      fun new _ => by rw [shallow]; exact roomy.named positive member new
    have produced_by : unbounded code (.request (.produce factory)) world = some (outcome, after) := by
      rwa [unbounded_produce]
    have guards := (unbounded_undisturbed produced_by).restored.guards inside.guards
    have lasts : host.Lasts world after :=
      { abides.toPersists with guards := guards.trans inside.guards.symm, held := abides.held }
    have still : host.Inside path start after :=
      { inside.toHouses.abides abides with
        guards
        persists := inside.persists.trans abides.toPersists
        lists := inside.lists.trans abides.lists }
    rw [← inside.known] at found
    rw [unbounded_resolve, resolve_known found, produced]
    cases outcome with
    | error error => exact ⟨_, rfl, lasts, still⟩
    | ok bean => exact ⟨_, rfl, lasts, still⟩

theorem script_ends {Result : Type} {script : Script app Result} {holds : Result → World app → Prop}
    (houses : host.Houses world) (guards : world.guards = ⟨path, none⟩)
    (foretells : ∃ budget,
      ((performConfined code host (host.resolver code) budget).script script).Gives world
        fun result after => after.isHeld host.share ∧ holds result after) :
    ((unbounded code).script script).Gives world fun result after =>
      host.Abides world after ∧ after.guards = ⟨path, none⟩ ∧ holds result after := by
  obtain ⟨budget, foretold⟩ := foretells
  have inside : host.Inside path world world :=
    { houses with
      guards
      persists := .of_eq (Nat.le_refl _) rfl rfl
      lists := ⟨[], rfl, List.forall_mem_nil _⟩ }
  have held (result : Result) (after : World app) (ended : after.isHeld host.share ∧ holds result after) :
      after.isHeld host.share := ended.1
  obtain ⟨result, after, ran, still, held, ended⟩ := script_foretold Inside.quiet
    (host.resolver_lawful code) (fun name {world} inside => resolve_ends positive ends roomy inside name)
    houses.toRooted inside foretold held
  have abides : host.Abides world after :=
    { still.persists with held := fun _ => held, lists := still.lists }
  exact ⟨result, after, ran, abides, still.guards, ended⟩

include confines

theorem makeProduct_ends (houses : host.Houses world) (guards : world.guards = ⟨path, none⟩)
    (sound : host.Sound recipe.recipe) (registered : recipe.registry = some host.identity) :
    (makeProduct code (unbounded code) factory recipe).Gives world fun made after =>
      host.Abides world after ∧ after.guards = ⟨path, none⟩ ∧
        ∀ nested, made = .ok (.factory nested) → host.Takes after nested := by
  have lawful := host.resolver_lawful code
  have belonging : recipe.creation.registry = some host.identity := registered
  have noted {now : World app} (standing : now.guards = ⟨path, none⟩) (step : Step app)
      (shown : step.guards? = some now.guards) : host.Abides now (now.note step) :=
    .of_step rfl rfl rfl rfl shown (by rw [standing]; exact roomy.length_le)
  have creating := noted guards (.creating factory world.guards) rfl
  obtain ⟨created, middle, created_by, first, standing, takes⟩ := script_ends positive ends roomy
    (houses.abides creating) guards
    (confines.created lawful sound belonging (houses.abides creating))
  rw [Eval.Gives, makeProduct, Eval.noteGuards_bind, Eval.bind_apply, created_by, Option.bind_some]
  have so_far := creating.trans first
  cases created with
  | error failure => exact ⟨_, _, rfl, so_far, standing, by simp⟩
  | ok product =>
    have following := noted standing (.followingUp factory middle.guards) rfl
    have inside := (houses.abides so_far).abides following
    obtain ⟨followed, last, followed_by, second, stands, keeps⟩ := script_ends positive ends roomy
      inside standing (confines.followedUp lawful sound belonging inside)
    dsimp only
    rw [Eval.noteGuards_bind, Eval.bind_apply, followed_by, Option.bind_some]
    have abides := (so_far.trans following).trans second
    cases followed with
    | error failure => exact ⟨_, _, rfl, abides, stands, by simp⟩
    | ok _ =>
      refine ⟨_, _, rfl, abides, stands, fun nested made => ?_⟩
      cases made
      exact keeps nested rfl (takes nested rfl)

omit confines positive roomy in
-- What the unwrapping factory knows is enough to make the nested one a factory of the host.
theorem unwrap_ends {nested : FactoryId} (fits : host.registry.Fits path depth)
    (houses : host.Houses world) (guards : world.guards = ⟨path, none⟩)
    (enrols : host.Enrols world factory) (takes : host.Takes world nested) :
    (unwrap code (unbounded code) factory nested depth).Gives world fun _ after =>
      host.Abides world after ∧ after.guards = ⟨path, none⟩ := by
  obtain ⟨lender, known, _, registered⟩ := enrols
  obtain ⟨borrower, found, sound, free⟩ := takes
  obtain ⟨told, lent, learning, knows⟩ := lendIdentity_recipe code (unbounded code) known found
  have lending : host.Abides world told :=
    { learning.persists_borrow found knows with
      held := held_of_registries learning.registries
      lists := .of_unproductive _ learning.journal }
  have producing : told.guards.producing = path := by rw [learning.guards, guards]
  let asked := told.unwrapping factory nested depth
  have asking : host.Abides told asked :=
    .of_step rfl rfl rfl rfl rfl (producing ▸ fits.roomy.length_le)
  have belongs : host.Enrols asked nested := by
    have borrowed : asked.recipeFactory? nested = some (borrower.borrow lender) :=
      (knows nested).trans (if_pos rfl)
    refine ⟨_, borrowed, sound, ?_⟩
    cases own : borrower.registry with
    | none => simp [RecipeFactory.borrow, own, registered]
    | some registry => simp [RecipeFactory.borrow, own, free registry own]
  obtain ⟨outcome, after, produced, abides⟩ := ends nested asked
    ((houses.abides lending).abides asking) producing belongs fun _ deeper => fits.nested deeper nested
  have answered : unbounded code (.request (.produce nested)) asked = some (outcome, after) := by
    rwa [unbounded_produce]
  have restored := (unbounded_undisturbed answered).restored.1
  rw [Eval.Gives, unwrap_eq lent, answered]
  have claiming : host.Abides after (after.withGuards after.guards.claim) := .of_eq rfl rfl rfl rfl
  exact ⟨outcome, _, rfl, ((lending.trans asking).trans abides).trans claiming,
    Guards.ext (restored.trans producing) rfl⟩

omit roomy in
theorem createBean_ends (fits : host.registry.Fits path depth) (houses : host.Houses world)
    (guards : world.guards = ⟨path, none⟩) (known : world.recipeFactory? factory = some recipe)
    (sound : host.Sound recipe.recipe) (registered : recipe.registry = some host.identity) :
    (createBean code (unbounded code) factory recipe depth).Gives world fun _ after =>
      host.Abides world after ∧ after.guards = ⟨path, none⟩ := by
  obtain ⟨made, middle, making, abides, standing, takes⟩ := makeProduct_ends confines positive ends
    fits.roomy houses guards sound registered
  have enrols : host.Enrols world factory := ⟨recipe, known, sound, registered⟩
  rw [Eval.Gives, createBean_eq, Eval.bind_apply, making, Option.bind_some]
  cases made with
  | error failure => exact ⟨_, _, rfl, abides, standing⟩
  | ok product =>
    cases product with
    | bean bean => exact ⟨_, _, rfl, abides, standing⟩
    | factory nested =>
      obtain ⟨outcome, after, unwrapped, rest, stands⟩ := unwrap_ends ends fits
        (houses.abides abides) standing (enrols.persists abides.toPersists) (takes nested rfl)
      dsimp only [deliver]
      rw [Eval.bind_apply, unwrapped]
      cases outcome <;> exact ⟨_, _, rfl, abides.trans rest, stands⟩

end Below

theorem keepBean_ends (host : Host app) (known : world.recipeFactory? factory = some recipe)
    (bean : Object app.Content) :
    (keepBean factory bean).Gives world fun _ after =>
      host.Abides world after ∧ after.guards = world.guards := by
  rw [Eval.Gives, keepBean_eq known]
  cases recipe.scope with
  | prototype => exact ⟨(), world, rfl, .refl world, rfl⟩
  | singleton =>
    have keeping : Persists world (world.mapFactory factory fun keeper => keeper.keep bean) :=
      (PipelineMove.keep world bean).persists
    refine ⟨(), _, rfl, ⟨keeping.trans (.of_eq (Nat.le_refl _) rfl rfl), ?_, ?_⟩, rfl⟩
    · exact id
    · exact ⟨[.kept factory recipe.displayName], rfl, by simp [Step.guards?]⟩

theorem produce_ends (confines : code.Confines host) (positive : 0 < host.registry.nestingBound)
    (roomy : host.registry.Roomy path)
    (below : ∀ {inner : List FactoryId}, path.length < inner.length → host.registry.Roomy inner →
      host.Ends code inner) : host.Ends code path := by
  intro factory world houses producing enrols entering
  obtain ⟨recipe, known, sound, registered⟩ := enrols
  rw [Eval.Gives, produce_known known]
  cases ready : recipe.ready? with
  | some bean =>
    simp only [produceByRecipe, ready]
    exact ⟨_, _, rfl, .refl world⟩
  | none =>
    cases refusal : world.guards.refusal? factory recipe.displayName (world.nestingBound recipe) with
    | some error =>
      rw [produceByRecipe_refused ready refusal]
      exact ⟨_, _, rfl, .of_step rfl rfl rfl rfl rfl (producing ▸ roomy.length_le)⟩
    | none =>
      obtain ⟨new, shallow⟩ := Guards.refusal?_eq_none_iff.mp refusal
      rw [producing] at new
      rw [houses.nestingBound registered] at shallow
      have fits := entering new shallow
      have inner : (world.enter factory).guards = ⟨factory :: path, none⟩ := by
        rw [← producing]
        rfl
      have entered : host.Abides world (world.enter factory) :=
        .of_step rfl rfl rfl rfl rfl (congrArg Guards.producing inner ▸ fits.roomy.length_le)
      obtain ⟨made, middle, creating, abides, standing⟩ := createBean_ends confines positive
        (below (Nat.lt_succ_self _) fits.roomy) fits (houses.abides entered) inner known sound registered
      have so_far := entered.trans abides
      have leaving {now : World app} (stands : now.guards = ⟨factory :: path, none⟩) (succeeded : Bool) :
          host.Abides now (now.leave factory succeeded) :=
        .of_step rfl rfl rfl rfl rfl (by rw [stands]; exact roomy.length_le)
      rw [produceByRecipe_entered ready refusal, creating]
      cases made with
      | error failure => exact ⟨_, _, rfl, so_far.trans (leaving standing false)⟩
      | ok bean =>
        obtain ⟨late, found, _⟩ := abides.recipes known
        obtain ⟨_, kept, keeping, keeps, same⟩ := keepBean_ends host found bean
        simp only [Option.bind_some]
        rw [keeping]
        exact ⟨_, _, rfl, (so_far.trans keeps).trans (leaving (same.trans standing) true)⟩

-- By induction on the room that is left below the path.
theorem ends (confines : code.Confines host) (positive : 0 < host.registry.nestingBound)
    (roomy : host.registry.Roomy path) : host.Ends code path := by
  induction left : host.registry.capacity - path.length using Nat.strong_induction_on generalizing path with
  | _ left ih =>
    refine produce_ends confines positive roomy fun longer inner => ?_
    have short := inner.length_le
    exact ih _ (by omega) inner rfl

end Productions

end Host
end BeanRegistry
