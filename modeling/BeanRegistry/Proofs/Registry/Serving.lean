import Mathlib.Data.Finset.Card
import BeanRegistry.Proofs.Factory.Bookkeeping
import BeanRegistry.Proofs.Factory.Work
import BeanRegistry.Proofs.Registry.Built
import BeanRegistry.Proofs.Registry.Causes
import BeanRegistry.Proofs.Registry.Families

set_option autoImplicit false

namespace BeanRegistry.Family

open Relation

variable {app : Application} {code : Code app} {host : Host app} {family : Family} {registry : Registry}
  {world after : World app} {factory root : FactoryId}

def stock (family : Family) (world : World app) : Set FactoryId :=
  {factory | factory ∈ family.members ∧ (world.ready? factory).isSome}

theorem stock_congr (same : ∀ factory, after.ready? factory = world.ready? factory) :
    family.stock after = family.stock world := by
  simp only [stock, same]

structure Dwells (family : Family) (code : Code app) (host : Host app) (world : World app) : Prop
    extends host.Houses world where
  lodged : ∀ factory ∈ family.members, ∃ recipe, world.recipeFactory? factory = some recipe ∧
    recipe.scope = family.scope factory ∧
    code.Composes recipe.recipe (family.needs factory) (family.nested factory) ∧
      ∀ registry, recipe.registry = some registry → registry = host.identity
  sound : family.Sound host.registry (family.stock world)

namespace Dwells

variable (dwells : family.Dwells code host world)

include dwells

theorem of_factories (houses : host.Houses after) (factories : after.factories = world.factories) :
    family.Dwells code host after where
  toHouses := houses
  lodged := by
    simpa only [World.recipeFactory?_congr factories] using dwells.lodged
  sound := by
    rw [stock_congr (SameFactories.of_eq factories).ready]
    exact dwells.sound

theorem move (factories : after.factories = world.factories)
    (registries : after.registries = world.registries) (fresh : world.fresh ≤ after.fresh) :
    family.Dwells code host after :=
  dwells.of_factories (dwells.toHouses.persists (.of_eq fresh factories registries)
    (Host.held_of_registries registries dwells.held)) factories

theorem grant : family.Dwells code host (world.grant host.identity).2 :=
  dwells.of_factories dwells.toHouses.grant rfl

theorem release {serial : Nat} (other : serial ≠ host.share.serial) :
    family.Dwells code host (world.release ⟨host.identity, serial⟩) :=
  dwells.of_factories (dwells.toHouses.release other) rfl

theorem borrow {told : World app} {nested : FactoryId} {lender borrower : RecipeFactory app}
    (home : lender.registry = some host.identity) (learning : Learning world told)
    (found : world.recipeFactory? nested = some borrower)
    (knows : ∀ other, told.recipeFactory? other =
      if nested = other then some (borrower.borrow lender) else world.recipeFactory? other) :
    family.Dwells code host told ∧ family.stock told = family.stock world := by
  have ready (other : FactoryId) : told.ready? other = world.ready? other := by
    rw [World.ready?, World.ready?, knows]
    split
    next same =>
      rw [← same, found]
      rfl
    next => rfl
  have kept : family.stock told = family.stock world := stock_congr ready
  refine ⟨⟨dwells.toHouses.persists (learning.persists_borrow found knows)
    (Host.held_of_registries learning.registries dwells.held), fun other member => ?_, ?_⟩, kept⟩
  · obtain ⟨recipe, known, scope, composes, free⟩ := dwells.lodged other member
    rw [knows]
    split
    next same =>
      rw [← same, found] at known
      cases known
      refine ⟨_, rfl, scope, composes, fun registry registered => ?_⟩
      cases lodged : borrower.registry with
      | none =>
        simp only [RecipeFactory.borrow, lodged, home] at registered
        exact (Option.some.inj registered).symm
      | some other =>
        simp only [RecipeFactory.borrow, lodged] at registered
        cases registered
        exact free registry lodged
    next => exact ⟨recipe, known, scope, composes, free⟩
  · rw [kept]
    exact dwells.sound

theorem finish {recipe : RecipeFactory app} (member : factory ∈ family.members)
    (known : world.recipeFactory? factory = some recipe)
    (sound : family.Sound host.registry (family.stored factory (family.stock world)))
    (bean : Object app.Content) :
    ∃ kept, keepBean factory bean world = some ((), kept) ∧ family.Dwells code host kept ∧
      family.stock kept = family.stored factory (family.stock world) := by
  obtain ⟨own, same, scope, _⟩ := dwells.lodged factory member
  obtain rfl : own = recipe := Option.some.inj (same.symm.trans known)
  rw [keepBean_eq known bean]
  cases single : own.scope with
  | prototype =>
    refine ⟨world, rfl, dwells, Set.ext fun other => ?_⟩
    simp [stored, ← scope, single]
  | singleton =>
    have stocked : family.stock (world.mapFactory factory fun keeper => keeper.keep bean) =
        family.stored factory (family.stock world) := by
      refine Set.ext fun other => ?_
      simp only [stock, stored, Set.mem_ofPred_eq, ← scope, single, and_true, World.ready?_mapFactory]
      by_cases own : factory = other
      · subst own
        simp [known, member, RecipeFactory.keep, RecipeFactory.ready?, single]
      · simp [own, Ne.symm own]
    refine ⟨_, rfl, ⟨?_, fun other among => ?_, ?_⟩, stocked⟩
    · exact dwells.toHouses.persists (.trans (.of_mapFactory world factory fun recipe => .keep recipe bean)
        (.of_eq (Nat.le_refl _) rfl rfl)) (Host.held_of_registries rfl dwells.held)
    · obtain ⟨recipe, known, scope, composes, free⟩ := dwells.lodged other among
      change ∃ recipe, (world.mapFactory factory _).recipeFactory? other = some recipe ∧ _
      rw [World.recipeFactory?_mapFactory, known]
      split
      · refine ⟨recipe.keep bean, rfl, (recipe.keep_scope bean).trans scope, ?_, ?_⟩ <;>
          unfold RecipeFactory.keep <;> split <;> assumption
      · exact ⟨recipe, rfl, scope, composes, free⟩
    · change family.Sound host.registry (family.stock (world.mapFactory factory _))
      rw [stocked]
      exact sound

end Dwells

structure TooDeep (family : Family) (registry : Registry) (root : FactoryId) (failure : Failure) : Prop where
  cause : ∃ shown, failure.innermost = .bean (.nestingTooDeep shown registry.nestingBound)
  nests : family.NestsBelow registry registry.nestingBound root

theorem TooDeep.around {failure : Failure} (deep : family.TooDeep registry root failure) (layer : Layer) :
    family.TooDeep registry root (layer.around failure) := by
  obtain ⟨⟨shown, cause⟩, nests⟩ := deep
  refine ⟨⟨shown, ?_⟩, nests⟩
  cases layer with
  | creationFailed name => exact (Failure.innermost_creationFailed name failure).trans cause
  | unableToCreate => exact (Failure.innermost_unableToCreate failure).trans cause

inductive Judges (family : Family) (registry : Registry) (root : FactoryId) (stock : Set FactoryId)
    (names : List String) (last : Option (FactoryId × Nat)) {Result : Type} :
    Except Failure Result → Set FactoryId → Prop where
  | ok {result : Result} {after : Set FactoryId} (makes : family.Makes registry stock names last after) :
      Judges family registry root stock names last (.ok result) after
  | error {failure : Failure} {left : Set FactoryId}
      (lacks : ∀ after, ¬ family.Makes registry stock names last after)
      (fails : (∀ name ∈ names, family.Clear registry name) →
        (∀ factory depth, last = some (factory, depth) → family.Grounded registry factory) →
          family.TooDeep registry root failure) :
      Judges family registry root stock names last (.error failure) left

def Serves (family : Family) (code : Code app) (host : Host app) (root : FactoryId) (path : List FactoryId) :
    Prop :=
  ∀ {factory : FactoryId} {world : World app} {recipe : RecipeFactory app}, world.guards.producing = path →
    family.Visits host.registry root world.guards factory → family.Dwells code host world →
      world.recipeFactory? factory = some recipe → recipe.registry = some host.identity →
        (unbounded code (.request (.produce factory))).Gives world fun outcome after =>
          family.Dwells code host after ∧
            family.Judges host.registry root (family.stock world) [] (some (factory, world.guards.depth))
              (outcome.mapError .bean) (family.stock after)

section Asking

variable {path : List FactoryId} {name : String} (serves : family.Serves code host root path)

include serves

theorem resolve_gives (dwells : family.Dwells code host world) (guards : world.guards = ⟨path, none⟩)
    (visits : ∀ {other}, host.registry.factory? name = some other →
      family.Visits host.registry root ⟨path, none⟩ other) :
    (unbounded code (.request (.resolve host.identity name))).Gives world fun outcome after =>
      family.Dwells code host after ∧
        family.Judges host.registry root (family.stock world) [name] none (outcome.mapError .bean)
          (family.stock after) := by
  cases found : host.registry.factory? name with
  | none =>
    have missing : (world.registry host.identity).factory? name = none := by rw [dwells.known, found]
    refine ⟨_, world, resolve_unknown missing, dwells, .error (fun after makes => ?_) fun clear _ => ?_⟩
    · cases makes with
      | name known _ _ => simp [found] at known
    · obtain ⟨factory, known, _⟩ := clear name (by simp)
      simp [found] at known
  | some factory =>
    obtain ⟨recipe, known, _, registered⟩ := dwells.beans factory (Registry.mem_factories found)
    obtain ⟨outcome, after, produced, still, judged⟩ := serves (congrArg Guards.producing guards)
      (guards ▸ visits found) dwells known registered
    have led : (world.registry host.identity).factory? name = some factory := by rw [dwells.known, found]
    rw [guards] at judged
    cases outcome with
    | error error =>
      refine ⟨_, after, resolve_failed led produced, still, ?_⟩
      cases judged with
      | error lacks fails =>
        refine .error (fun after makes => ?_) fun clear _ => ?_
        · cases makes with
          | name same makes _ =>
            obtain rfl := Option.some.inj (found.symm.trans same)
            exact lacks _ makes
        · obtain ⟨other, same, grounded⟩ := clear name (by simp)
          obtain rfl := Option.some.inj (found.symm.trans same)
          refine TooDeep.around (fails (by simp) fun other depth same => ?_) (.creationFailed name)
          cases same
          exact grounded
    | ok bean =>
      cases judged with
      | ok makes =>
        refine ⟨.ok bean, after, ?_, still, .ok (.name found makes .nothing)⟩
        rw [unbounded_produce] at produced
        rw [unbounded_resolve, resolve_known led, produced]
        rfl

theorem gather_gives {creation : Creation} (registered : creation.registry = some host.identity)
    {names : List String} (dwells : family.Dwells code host world) (guards : world.guards = ⟨path, none⟩)
    (visits : ∀ name ∈ names, ∀ {other}, host.registry.factory? name = some other →
      family.Visits host.registry root ⟨path, none⟩ other) :
    ((unbounded code).script (creation.gather names)).Gives world fun outcome after =>
      family.Dwells code host after ∧ after.guards = ⟨path, none⟩ ∧
        family.Judges host.registry root (family.stock world) names none outcome (family.stock after) := by
  induction names generalizing world with
  | nil => exact ⟨.ok [], world, rfl, dwells, guards, .ok .nothing⟩
  | cons name rest ih =>
    obtain ⟨outcome, middle, resolved, still, judged⟩ :=
      resolve_gives serves dwells.grant guards (visits name List.mem_cons_self)
    have same : middle.guards = ⟨path, none⟩ := (unbounded_undisturbed resolved).restored.guards guards
    have other : world.fresh ≠ host.share.serial := (Nat.ne_of_lt dwells.old).symm
    have released := still.release other
    rw [Eval.Gives, Creation.gather, Handler.script_bind, script_asks registered dwells.active resolved,
      Option.bind_some]
    generalize outcome.mapError Failure.bean = verdict at judged
    cases judged with
    | @error failure _ lacks fails =>
      refine ⟨_, _, rfl, released, same, .error (fun after makes => ?_) fun clear _ => ?_⟩
      · cases makes with
        | name found makes _ => exact lacks _ (.name found makes .nothing)
      · exact fails (by simpa using clear name List.mem_cons_self) (by simp)
    | ok makes =>
      obtain ⟨gathered, after, gathers, last, kept, judged⟩ := ih released same fun other among =>
        visits other (List.mem_cons_of_mem name among)
      cases makes with
      | name found made nothing =>
        cases nothing
        dsimp only
        rw [Handler.script_bind, gathers]
        cases judged with
        | error lacks fails =>
          refine ⟨_, after, rfl, last, kept, .error (fun after makes => ?_) fun clear _ => ?_⟩
          · cases makes with
            | name known makes others =>
              obtain rfl := Option.some.inj (found.symm.trans known)
              obtain rfl := made.unique makes
              exact lacks _ others
          · exact fails (fun other among => clear other (List.mem_cons_of_mem name among)) (by simp)
        | ok others => exact ⟨_, after, rfl, last, kept, .ok (.name found made others)⟩

end Asking

theorem makeProduct_composes {recipe : RecipeFactory app} {names : List String} {nested : Option FactoryId}
    (composes : code.Composes recipe.recipe names nested) (factory : FactoryId) (world : World app) :
    ∃ content : List (Object app.Content) → app.Content,
      makeProduct code (unbounded code) factory recipe world =
      ((unbounded code).script (recipe.creation.gather names)
        (world.note (.creating factory world.guards))).bind fun answer =>
          match answer, nested with
          | (.error failure, after), _ => some (.error failure, after)
          | (.ok _, after), some inner =>
            some (.ok (.factory inner), after.note (.followingUp factory after.guards))
          | (.ok beans, after), none =>
            some (.ok (.bean (after.addObject (content beans)).1),
              (after.addObject (content beans)).2.note (.followingUp factory after.guards)) := by
  obtain ⟨⟨content, creates⟩, follows⟩ := composes
  refine ⟨content recipe.creation, ?_⟩
  unfold makeProduct
  rw [creates, Creation.compose, Eval.noteGuards_bind, Eval.bind_apply, Handler.script_bind]
  cases (unbounded code).script (recipe.creation.gather names)
    (world.note (.creating factory world.guards)) with
  | none => rfl
  | some answer =>
    obtain ⟨gathered, after⟩ := answer
    cases gathered with
    | error failure => rfl
    | ok beans =>
      cases nested with
      | some inner =>
        simp only [Option.bind_some]
        change (Eval.noteGuards (.followingUp factory) >>= fun _ => _) _ = _
        rw [Eval.noteGuards_bind, follows]
        rfl
      | none =>
        have made : carryOut code (unbounded code) (.newObject (content recipe.creation beans)) after =
            some (after.addObject (content recipe.creation beans)) := rfl
        simp only [Option.bind_some]
        rw [Handler.script_bind, Script.newObject, Script.request, script_request, made]
        simp only [Option.bind_some]
        change (Eval.noteGuards (.followingUp factory) >>= fun _ => _) _ = _
        rw [Eval.noteGuards_bind, follows]
        rfl

inductive Drafts (family : Family) (registry : Registry) (root factory : FactoryId) (stock : Set FactoryId) :
    Except Failure (Product app) → Set FactoryId → Prop where
  | error {failure : Failure} {left : Set FactoryId}
      (lacks : ∀ after, ¬ family.Makes registry stock (family.needs factory) none after)
      (fails : family.Grounded registry factory → family.TooDeep registry root failure) :
      Drafts family registry root factory stock (.error failure) left
  | ok {product : Product app} {after : Set FactoryId}
      (makes : family.Makes registry stock (family.needs factory) none after)
      (shape : ∀ inner, family.nested factory = some inner ↔ product = .factory inner) :
      Drafts family registry root factory stock (.ok product) after

section Producing

variable {path : List FactoryId} {recipe : RecipeFactory app} (closed : family.Closed host.registry)
  (serves : family.Serves code host root (factory :: path))

include closed serves

theorem makeProduct_gives
    (composes : code.Composes recipe.recipe (family.needs factory) (family.nested factory))
    (registered : recipe.registry = some host.identity) (dwells : family.Dwells code host world)
    {guards : Guards} (visits : family.Visits host.registry root guards factory)
    (same : guards.producing = path) (inside : world.guards = ⟨factory :: path, none⟩) :
    (makeProduct code (unbounded code) factory recipe).Gives world fun outcome after =>
      family.Dwells code host after ∧ after.guards = ⟨factory :: path, none⟩ ∧
        family.Drafts host.registry root factory (family.stock world) outcome (family.stock after) := by
  have creating : family.Dwells code host (world.note (.creating factory world.guards)) :=
    dwells.move rfl rfl (Nat.le_refl _)
  have named : ∀ name ∈ family.needs factory, ∀ {other}, host.registry.factory? name = some other →
      family.Visits host.registry root ⟨factory :: path, none⟩ other :=
    fun name among _ found => same ▸ visits.named closed among found
  have home : recipe.creation.registry = some host.identity := registered
  obtain ⟨outcome, after, gathered, still, kept, judged⟩ := gather_gives serves home creating inside named
  obtain ⟨content, makes⟩ := makeProduct_composes composes factory world
  rw [gathered, Option.bind_some] at makes
  rw [Eval.Gives, makes]
  cases judged with
  | error lacks fails =>
    exact ⟨_, after, rfl, still, kept, .error lacks fun grounded =>
      fails (fun name among => grounded.clear among) (by simp)⟩
  | ok makes =>
    cases nests : family.nested factory with
    | none =>
      refine ⟨_, _, rfl, still.move rfl rfl (Nat.le_succ _), kept, .ok makes fun inner => ?_⟩
      simp [nests]
    | some inner =>
      refine ⟨_, _, rfl, still.move rfl rfl (Nat.le_refl _), kept, .ok makes fun other => ?_⟩
      simp [nests]

-- A nested factory borrows the registry it may not know yet, and is served one level deeper.
theorem unwrap_gives {inner : FactoryId} (dwells : family.Dwells code host world)
    (known : world.recipeFactory? factory = some recipe) (registered : recipe.registry = some host.identity)
    {guards : Guards} (visits : family.Visits host.registry root guards factory)
    (same : guards.producing = path)
    (inside : world.guards = ⟨factory :: path, none⟩) (nests : family.nested factory = some inner) :
    (unwrap code (unbounded code) factory inner guards.depth).Gives world fun outcome after =>
      family.Dwells code host after ∧
        family.Judges host.registry root (family.stock world) [] (some (inner, guards.depth + 1))
          (outcome.mapError .bean) (family.stock after) := by
  obtain ⟨borrower, found, _, _, free⟩ := dwells.lodged inner (closed.nested visits.member nests)
  obtain ⟨told, lends, learning, knows⟩ := lendIdentity_recipe code (unbounded code) known found
  obtain ⟨lent, stocked⟩ := dwells.borrow registered learning found knows
  have below : family.Dwells code host (told.unwrapping factory inner guards.depth) :=
    lent.move rfl rfl (Nat.le_refl _)
  have deeper : (told.unwrapping factory inner guards.depth).guards =
      ⟨factory :: path, some (guards.depth + 1)⟩ := by
    change ({ told.guards with pendingDepth := _ } : Guards) = _
    rw [learning.guards, inside]
  have borrowed : (told.unwrapping factory inner guards.depth).recipeFactory? inner =
      some (borrower.borrow recipe) := (knows inner).trans (if_pos rfl)
  have home : (borrower.borrow recipe).registry = some host.identity := by
    cases lodged : borrower.registry with
    | none => simp [RecipeFactory.borrow, lodged, registered]
    | some other => simp [RecipeFactory.borrow, lodged, free other lodged]
  obtain ⟨outcome, after, produced, still, judged⟩ := serves (congrArg Guards.producing deeper)
    (deeper ▸ same ▸ visits.unwrapped closed nests) below borrowed home
  have unwrapped := unwrap_eq lends guards.depth
  rw [produced, Option.bind_some] at unwrapped
  change family.Judges _ _ (family.stock told) _ _ _ _ at judged
  rw [stocked, deeper] at judged
  exact ⟨outcome, after.withGuards after.guards.claim, unwrapped, still.move rfl rfl (Nat.le_refl _), judged⟩

theorem deliver_gives {outcome : Except Failure (Product app)} {stock : Set FactoryId}
    (dwells : family.Dwells code host world) (known : world.recipeFactory? factory = some recipe)
    (registered : recipe.registry = some host.identity) {guards : Guards}
    (visits : family.Visits host.registry root guards factory) (same : guards.producing = path)
    (inside : world.guards = ⟨factory :: path, none⟩)
    (drafts : family.Drafts host.registry root factory stock outcome (family.stock world)) :
    (deliver code (unbounded code) factory guards.depth outcome).Gives world fun outcome after =>
      family.Dwells code host after ∧
        family.Judges host.registry root stock (family.needs factory)
          ((family.nested factory).map fun inner => (inner, guards.depth + 1)) outcome
          (family.stock after) := by
  cases drafts with
  | error lacks fails =>
    refine ⟨_, world, rfl, dwells, .error (fun after makes => ?_) fun clear below =>
      fails (.of_clear clear ?_)⟩
    · cases nests : family.nested factory with
      | none =>
        rw [nests] at makes
        exact lacks after makes
      | some inner =>
        rw [nests] at makes
        obtain ⟨middle, gathered, _⟩ := makes_split.mp makes
        exact lacks middle gathered
    · exact fun inner nests => below inner (guards.depth + 1) (by simp [nests])
  | @ok product _ makes shape =>
    cases product with
    | bean bean =>
      have bare : family.nested factory = none :=
        Option.eq_none_iff_forall_ne_some.mpr fun inner nests => nomatch (shape inner).mp nests
      rw [bare]
      exact ⟨_, world, rfl, dwells, .ok makes⟩
    | factory inner =>
      have nests := (shape inner).mpr rfl
      obtain ⟨outcome, after, unwrapped, last, judged⟩ :=
        unwrap_gives closed serves dwells known registered visits same inside nests
      rw [Eval.Gives, deliver, Eval.bind_apply, unwrapped, nests]
      cases outcome with
      | error error =>
        cases judged with
        | error lacks fails =>
          refine ⟨_, _, rfl, last, .error (fun after makes_all => ?_) fun _ grounded => fails (by simp) ?_⟩
          · obtain ⟨middle, gathered, made⟩ := makes_split.mp makes_all
            obtain rfl := makes.unique gathered
            exact lacks _ made
          · intro other depth pair
            cases pair
            exact grounded inner _ rfl
      | ok bean =>
        cases judged with
        | ok made => exact ⟨_, _, rfl, last, .ok (makes_split.mpr ⟨_, makes, made⟩)⟩

theorem produce_new_gives (visits : family.Visits host.registry root world.guards factory)
    (same : world.guards.producing = path) (dwells : family.Dwells code host world)
    (registered : recipe.registry = some host.identity) (begins : Begins factory recipe world) :
    (unbounded code (.request (.produce factory))).Gives world fun outcome after =>
      family.Dwells code host after ∧
        family.Judges host.registry root (family.stock world) [] (some (factory, world.guards.depth))
          (outcome.mapError .bean) (family.stock after) := by
  have entered : family.Dwells code host (world.enter factory) := dwells.move rfl rfl (Nat.le_refl _)
  have inside : (world.enter factory).guards = ⟨factory :: path, none⟩ := same ▸ rfl
  have missing : factory ∉ family.stock world := by
    simp [stock, World.ready?, begins.known, begins.unready]
  have shallow := (Guards.refusal?_eq_none_iff.mp begins.admitted).2
  rw [dwells.nestingBound registered] at shallow
  obtain ⟨own, known, _, composes, _⟩ := dwells.lodged factory visits.member
  obtain rfl : own = recipe := Option.some.inj (known.symm.trans begins.known)
  obtain ⟨product, made, makes, still, kept, drafts⟩ :=
    makeProduct_gives closed serves composes registered entered visits same inside
  have persists := makeProduct_persists (persists_keeps code).unbounded_keeps makes
  obtain ⟨late, found, becomes⟩ :=
    persists.recipes (show (world.enter factory).recipeFactory? factory = _ from known)
  obtain ⟨outcome, after, delivers, last, judged⟩ :=
    deliver_gives closed serves still found (becomes.registry _ registered) visits same kept drafts
  change family.Judges _ _ (family.stock world) _ _ _ _ at judged
  rw [Eval.Gives, begins.produce_eq, Eval.bind_apply, makes, Option.bind_some, delivers]
  cases judged with
  | @error failure _ lacks fails =>
    refine ⟨_, _, rfl, last.move rfl rfl (Nat.le_refl _), .error (fun after makes => ?_) fun _ below => ?_⟩
    · cases makes with
      | ready ready => exact missing ready
      | new _ _ makes => exact lacks _ makes
    · have grounded := below factory _ rfl
      refine TooDeep.around (fails (fun name among => grounded.clear among) fun other depth pair => ?_)
        .unableToCreate
      obtain ⟨inner, nests, pair⟩ := Option.map_eq_some_iff.mp pair
      cases pair
      exact grounded.next (.nested nests)
  | @ok bean _ makes =>
    have makes := Makes.new missing shallow makes
    obtain ⟨_, stays, _⟩ := last.lodged factory visits.member
    obtain ⟨kept, keeps, dwelling, stocked⟩ :=
      last.finish visits.member stays (makes.made dwells.sound).sound bean
    refine ⟨.ok bean, kept.leave factory true, ?_, dwelling.move rfl rfl (Nat.le_refl _), .ok ?_⟩
    · rw [Option.bind_some]
      dsimp only
      rw [keeps]
      rfl
    · change family.Makes _ _ _ _ (family.stock kept)
      rwa [stocked]

end Producing

section Serving

variable {path : List FactoryId}

theorem ready_gives (visits : family.Visits host.registry root world.guards factory)
    (dwells : family.Dwells code host world) {bean : Object app.Content}
    (ready : world.ready? factory = some bean) :
    (unbounded code (.request (.produce factory))).Gives world fun outcome after =>
      family.Dwells code host after ∧
        family.Judges host.registry root (family.stock world) [] (some (factory, world.guards.depth))
          (outcome.mapError .bean) (family.stock after) := by
  refine ⟨.ok bean, world, ?_, dwells, .ok (.ready ⟨visits.member, by simp [ready]⟩)⟩
  rw [unbounded_produce, produce_ready ready]

theorem refused_gives {recipe : RecipeFactory app} {error : BeanFailure}
    (visits : family.Visits host.registry root world.guards factory) (dwells : family.Dwells code host world)
    (known : world.recipeFactory? factory = some recipe) (registered : recipe.registry = some host.identity)
    (unready : recipe.ready? = none)
    (refuses : world.guards.refusal? factory recipe.displayName (world.nestingBound recipe) = some error) :
    (unbounded code (.request (.produce factory))).Gives world fun outcome after =>
      family.Dwells code host after ∧
        family.Judges host.registry root (family.stock world) [] (some (factory, world.guards.depth))
          (outcome.mapError .bean) (family.stock after) := by
  refine ⟨.error error, world.refuse factory, ?_, dwells.move rfl rfl (Nat.le_refl _), ?_⟩
  · rw [unbounded_produce, produce_known known, produceByRecipe_refused unready refuses]
  · have missing : factory ∉ family.stock world := by simp [stock, World.ready?, known, unready]
    by_cases running : factory ∈ world.guards.producing
    · refine .error (fun after makes => ?_) fun _ grounded => ?_
      · have grounded := ((makes.made dwells.sound).last factory _ rfl).1
        exact visits.apart grounded running
      · exact absurd running (visits.apart (grounded factory _ rfl))
    · simp only [Guards.refusal?, if_neg running, dwells.nestingBound registered] at refuses
      split at refuses <;> cases refuses
      next full =>
        refine .error (fun after makes => ?_) fun _ _ => ⟨⟨recipe.displayName, ?_⟩, visits.deep full⟩
        · cases makes with
          | ready ready => exact missing ready
          | new _ shallow _ => exact absurd full (Nat.not_le.mpr shallow)
        · simp [Failure.innermost, Failure.sources, BeanFailure.sources]

theorem serves_of_inner (closed : family.Closed host.registry)
    (inner : ∀ factory ∈ family.members, factory ∉ path → family.Serves code host root (factory :: path)) :
    family.Serves code host root path := by
  intro factory world recipe same visits dwells known registered
  cases ready : world.ready? factory with
  | some bean => exact ready_gives visits dwells ready
  | none =>
    have unready : recipe.ready? = none := by
      rwa [World.ready?, known, Option.bind_some] at ready
    cases refuses : world.guards.refusal? factory recipe.displayName (world.nestingBound recipe) with
    | some error => exact refused_gives visits dwells known registered unready refuses
    | none =>
      have idle := (Guards.refusal?_eq_none_iff.mp refuses).1
      exact produce_new_gives closed (inner factory visits.member (same ▸ idle)) visits same dwells registered
        ⟨known, unready, refuses⟩

-- The members that are not producing yet become fewer on the way in.
theorem serves (closed : family.Closed host.registry) (path : List FactoryId) :
    family.Serves code host root path := by
  induction room : (family.members.toFinset \ path.toFinset).card using Nat.strong_induction_on
    generalizing path with
  | _ room ih =>
    refine serves_of_inner closed fun factory member new => ih _ ?_ _ rfl
    rw [← room, List.toFinset_cons, Finset.sdiff_insert]
    apply Finset.card_erase_lt_of_mem
    simp [member, new]

end Serving

end BeanRegistry.Family
