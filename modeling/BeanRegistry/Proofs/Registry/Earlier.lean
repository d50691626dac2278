import BeanRegistry.Proofs.Registry.Outermost
import BeanRegistry.Proofs.Registry.Serving

set_option autoImplicit false

namespace BeanRegistry

open Relation

variable {app : Application} {code : Code app} {handle : Handler app}

inductive Led (code : Code app) (declarations : Declarations) (world : World app) (owner : Owner) :
    World app → Prop where
  | built {eager : List String} {after : World app}
      (building : unbounded code (.request (.build { declarations with eager })) world =
        some (.ok owner, after)) :
      Led code declarations world owner after
  | resolved {now after : World app} {name : String} {outcome : Except BeanFailure (Object app.Content)}
      (led : Led code declarations world owner now)
      (resolving : unbounded code (.request (.resolve owner.registry name)) now = some (outcome, after)) :
      Led code declarations world owner after

theorem introducedAll_takes {host : Host app} {world : World app} {other : FactoryId}
    (takes : host.Takes world other) (beans : List (String × FactoryId)) :
    host.Takes (world.introducedAll host.identity beans) other :=
  List.foldlRecOn (motive := fun told => host.Takes told other) beans _ takes fun _ takes bean _ =>
    takes.introduced bean.1 bean.2

theorem introducedAll_enrols (code : Code app) {host : Host app} {world : World app}
    {beans : List (String × FactoryId)} (takes : ∀ factory ∈ beans.map Prod.snd, host.Takes world factory) :
    ∀ factory ∈ beans.map Prod.snd, host.Enrols (world.introducedAll host.identity beans) factory := by
  have known (factory : FactoryId) (member : factory ∈ beans.map Prod.snd) :
      (world.recipeFactory? factory).isSome := by
    obtain ⟨recipe, known, _⟩ := takes factory member
    exact Option.isSome_iff_exists.mpr ⟨recipe, known⟩
  have introducing : (introduce code (unbounded code) host.identity beans).Gives world _ :=
    host.introduce_enrols takes
  obtain ⟨_, after, introduced, _, enrols⟩ := introducing
  rw [introduce_eq code _ host.identity known] at introduced
  obtain rfl : _ = after := congrArg Prod.snd (Option.some.inj introduced)
  exact enrols

structure Family.Awaits (family : Family) (code : Code app) (declarations : Declarations)
    (world : World app) : Prop where
  claimed : world.guards.pendingDepth = none
  apart : ∀ factory ∈ world.guards.producing, factory ∉ family.members
  declared : ∀ factory ∈ declarations.beans.map Prod.snd, factory ∈ family.members
  nested : ∀ {factory inner}, factory ∈ family.members → family.nested factory = some inner →
    inner ∈ family.members
  lodged : ∀ factory ∈ family.members, ∃ recipe, world.recipeFactory? factory = some recipe ∧
    recipe.scope = family.scope factory ∧
    code.Composes recipe.recipe (family.needs factory) (family.nested factory) ∧ recipe.registry = none
  sound : ∀ registry, declarations.registry = .ok registry → family.Sound registry (family.stock world)

namespace Family

variable {family : Family} {declarations : Declarations} {registry : Registry} {host : Host app}
  {world built now after : World app} {owner : Owner}

theorem Awaits.closed (awaits : family.Awaits code declarations world)
    (described : declarations.registry = .ok registry) : family.Closed registry where
  registered member := awaits.declared _ (mem_declared described member)
  nested := awaits.nested

structure Rests (family : Family) (code : Code app) (host : Host app) (world : World app) : Prop
    extends family.Dwells code host world where
  guards : ∃ outer, world.guards = ⟨outer, none⟩ ∧ ∀ factory ∈ outer, factory ∉ family.members

structure Answers (family : Family) (registry : Registry) (name : String) (stock : Set FactoryId)
    (outcome : Except BeanFailure (Object app.Content)) : Prop where
  succeeds : outcome.isOk = true ↔ ∃ after, family.Makes registry stock [name] none after
  fails : ∀ error, outcome = .error error → family.Clear registry name →
    ∃ root, registry.factory? name = some root ∧ family.TooDeep registry root (.bean error)

theorem Rests.resolves (rests : family.Rests code host world) (closed : family.Closed host.registry)
    (name : String) : ∃ outcome after,
      unbounded code (.request (.resolve host.identity name)) world = some (outcome, after) ∧
        family.Rests code host after ∧ family.Answers host.registry name (family.stock world) outcome := by
  obtain ⟨outer, guards, apart⟩ := rests.guards
  cases found : host.registry.factory? name with
  | none =>
    have missing : (world.registry host.identity).factory? name = none := by rw [rests.known, found]
    refine ⟨_, world, resolve_unknown missing, rests, ⟨fun succeeds => (nomatch succeeds), ?_⟩,
      fun _ _ clear => ?_⟩
    · rintro ⟨after, makes⟩
      cases makes with
      | name known _ _ => simp [found] at known
    · obtain ⟨factory, known, _⟩ := clear
      simp [found] at known
  | some root =>
    have member := closed.registered (Registry.mem_factories found)
    have visits {other : FactoryId} (led : host.registry.factory? name = some other) :
        family.Visits host.registry root ⟨outer, none⟩ other := by
      obtain rfl : root = other := Option.some.inj (found.symm.trans led)
      exact ⟨member, fun running among own => absurd own (apart running among), root, .refl, .here⟩
    obtain ⟨outcome, after, resolved, dwells, judged⟩ :=
      resolve_gives (serves closed outer) rests.toDwells guards visits
    have still := (unbounded_undisturbed resolved).restored.guards guards
    refine ⟨outcome, after, resolved, ⟨dwells, outer, still, apart⟩, ?_⟩
    cases outcome with
    | ok bean =>
      cases judged with
      | ok makes => exact ⟨iff_of_true rfl ⟨_, makes⟩, nofun⟩
    | error error =>
      cases judged with
      | error lacks fails =>
        refine ⟨⟨fun succeeds => (nomatch succeeds), fun ⟨after, makes⟩ => absurd makes (lacks after)⟩, ?_⟩
        intro other same clear
        cases same
        exact ⟨root, found, fails (by simpa using clear) (by simp)⟩

theorem Rests.resolved (rests : family.Rests code host world) (closed : family.Closed host.registry)
    {name : String} {outcome : Except BeanFailure (Object app.Content)}
    (resolving : unbounded code (.request (.resolve host.identity name)) world = some (outcome, after)) :
    family.Rests code host after := by
  obtain ⟨_, _, resolved, still, _⟩ := rests.resolves closed name
  rw [resolving] at resolved
  cases resolved
  exact still

theorem Rests.loaded (rests : family.Rests code host world) (closed : family.Closed host.registry)
    {names : List String} {outcome : Except BeanFailure Unit}
    (loading : loadEagerly code (unbounded code) host.identity names world = some (outcome, after)) :
    family.Rests code host after := by
  induction names generalizing world with
  | nil =>
    cases loading
    exact rests
  | cons name rest ih =>
    obtain ⟨answer, middle, resolving, loading⟩ := Eval.bind_eq_some_iff.mp loading
    rw [← unbounded_resolve] at resolving
    have still := rests.resolved closed resolving
    cases answer with
    | error error =>
      cases loading
      exact still
    | ok bean =>
      dsimp only at loading
      rw [Eval.get_bind] at loading
      cases asked : isSingletonNamed middle host.identity name with
      | error error =>
        rw [asked] at loading
        cases loading
        exact still
      | ok single =>
        rw [asked] at loading
        cases single with
        | false =>
          cases loading
          exact still
        | true => exact ih still loading

theorem Awaits.dwells (awaits : family.Awaits code declarations world)
    (described : declarations.registry = .ok registry) {identity : RegistryId} {noted : World app}
    (same : identity = ⟨world.registries.size⟩)
    (registries : noted.registries = (world.addRegistry registry).2.registries)
    (factories : noted.factories =
      ((world.addRegistry registry).2.introducedAll identity declarations.beans).factories) :
    family.Dwells code ⟨(noted.grant identity).1, registry, fun _ => True⟩ (noted.grant identity).2 := by
  let host : Host app := ⟨(noted.grant identity).1, registry, fun _ => True⟩
  let told := (world.addRegistry registry).2.introducedAll identity declarations.beans
  have knows (factory : FactoryId) :
      (noted.grant identity).2.recipeFactory? factory = told.recipeFactory? factory :=
    World.recipeFactory?_congr factories factory
  have readies (factory : FactoryId) : (noted.grant identity).2.ready? factory = world.ready? factory := by
    rw [World.ready?, knows]
    exact introducedAll_ready? (world.addRegistry registry).2 declarations.beans factory
  have unheld : noted.registryCell? identity = some ⟨registry, []⟩ := by
    rw [World.registryCell?, registries, same]
    exact world.registryCell?_addRegistry registry
  have cell := World.registryCell?_mapOwners unheld (noted.fresh :: ·)
  change (noted.grant identity).2.registryCell? identity = _ at cell
  have takes (factory : FactoryId) (member : factory ∈ declarations.beans.map Prod.snd) :
      host.Takes (world.addRegistry registry).2 factory := by
    obtain ⟨recipe, known, _, _, free⟩ := awaits.lodged factory (awaits.declared factory member)
    exact ⟨recipe, known, trivial, by simp [free]⟩
  have enrols := introducedAll_enrols code takes
  refine ⟨⟨⟨Nat.lt_succ_self _, _, cell⟩, ?_, fun factory member => ?_⟩, fun factory member => ?_, ?_⟩
  · change World.isHeld _ ⟨identity, noted.fresh⟩ = true
    simp [World.isHeld, cell]
  · obtain ⟨recipe, found, sound, registered⟩ := enrols factory (mem_declared described member)
    exact ⟨recipe, (knows factory).trans found, sound, registered⟩
  · obtain ⟨recipe, found, scope, composes, free⟩ := awaits.lodged factory member
    have free : host.Takes (world.addRegistry registry).2 factory := ⟨recipe, found, trivial, by simp [free]⟩
    obtain ⟨late, stays, _, home⟩ := introducedAll_takes free declarations.beans
    obtain ⟨same, known, becomes⟩ :=
      (introducedAll_persists (world.addRegistry registry).2 identity declarations.beans).recipes found
    obtain rfl : same = late := Option.some.inj (known.symm.trans stays)
    exact ⟨same, (knows factory).trans known, becomes.scope.trans scope, becomes.recipe ▸ composes, home⟩
  · rw [stock_congr readies]
    exact awaits.sound registry described

theorem Awaits.rests (awaits : family.Awaits code declarations world)
    (described : declarations.registry = .ok registry)
    {eager : List String}
    (building : unbounded code (.request (.build { declarations with eager })) world =
      some (.ok owner, built)) :
    family.Rests code ⟨owner, registry, fun _ => True⟩ built := by
  rw [unbounded_request, carryOut] at building
  let identity : RegistryId := ⟨world.registries.size⟩
  let founded := (world.addRegistry registry).2
  have known (factory : FactoryId) (member : factory ∈ declarations.beans.map Prod.snd) :
      (founded.recipeFactory? factory).isSome := by
    obtain ⟨recipe, known, _⟩ := awaits.lodged factory (awaits.declared factory member)
    exact Option.isSome_iff_exists.mpr ⟨recipe, known⟩
  have introduced := introduce_eq code (unbounded code) identity known
  have introducing := introducedAll_learning founded identity declarations.beans
  obtain ⟨noted, noting, learning, factories⟩ := noteAliases_eq registry.aliases _
  have eagerly : Declarations.registry { declarations with eager } = .ok registry := described
  obtain ⟨rfl, loaded, step, loading, rfl⟩ := build_ok eagerly introduced noting building
  have guards : noted.guards = ⟨world.guards.producing, none⟩ := by
    rw [learning.guards, introducing.guards, ← awaits.claimed]
    rfl
  have dwells := awaits.dwells described (rfl : identity = _)
    (learning.registries.trans introducing.registries) factories
  have rests : family.Rests code _ _ := ⟨dwells, world.guards.producing, guards, awaits.apart⟩
  have last := rests.loaded (awaits.closed described) loading
  exact ⟨last.toDwells.move rfl rfl (Nat.le_refl _), last.guards⟩

theorem Awaits.led (awaits : family.Awaits code declarations world)
    (described : declarations.registry = .ok registry) (led : Led code declarations world owner now) :
    family.Rests code ⟨owner, registry, fun _ => True⟩ now := by
  induction led with
  | built building => exact awaits.rests described building
  | resolved _ resolving ih => exact ih.resolved (awaits.closed described) resolving

theorem stock_grows (undisturbed : Undisturbed world after) : family.stock world ⊆ family.stock after := by
  obtain ⟨⟨_, passing⟩, _⟩ := undisturbed
  rintro factory ⟨member, ready⟩
  obtain ⟨bean, found⟩ := Option.isSome_iff_exists.mp ready
  exact ⟨member, Option.isSome_iff_exists.mpr ⟨bean, passing.ready found⟩⟩

theorem Answers.clear {name : String} {stock : Set FactoryId}
    {outcome : Except BeanFailure (Object app.Content)}
    (answers : family.Answers registry name stock outcome) (sound : family.Sound registry stock)
    (succeeds : outcome.isOk = true) : family.Clear registry name := by
  obtain ⟨_, makes⟩ := answers.succeeds.mp succeeds
  obtain ⟨factory, found, grounded, _⟩ := (makes.made sound).names name (by simp)
  exact ⟨factory, found, grounded⟩

def Exceeds (family : Family) (declarations : Declarations) (name : String)
    (outcome : Except BeanFailure (Object app.Content)) : Prop :=
  ∃ error registry root, outcome = .error error ∧ declarations.registry = .ok registry ∧
    registry.factory? name = some root ∧ family.TooDeep registry root (.bean error)

theorem Answers.exceeds {name : String} {stock : Set FactoryId}
    {outcome : Except BeanFailure (Object app.Content)}
    (answers : family.Answers registry name stock outcome) (described : declarations.registry = .ok registry)
    (clear : family.Clear registry name) :
    outcome.isOk = true ∨ family.Exceeds declarations name outcome := by
  cases outcome with
  | ok bean => exact .inl rfl
  | error error =>
    obtain ⟨root, found, deep⟩ := answers.fails error rfl clear
    exact .inr ⟨error, registry, root, rfl, described, found, deep⟩

end Family

theorem Led.described {declarations : Declarations} {world now : World app} {owner : Owner}
    (led : Led code declarations world owner now) : ∃ registry, declarations.registry = .ok registry := by
  induction led with
  | built building =>
    obtain ⟨registry, described⟩ := build_described building
    exact ⟨registry, described⟩
  | resolved _ _ ih => exact ih

theorem earlier_resolving_only_stocks {family : Family} {declarations : Declarations}
    {world now later : World app} {owner holder : Owner} (awaits : family.Awaits code declarations world)
    (led : Led code declarations world owner now) (led_too : Led code declarations world holder later)
    (name : String) : ∃ outcome after other left,
      unbounded code (.request (.resolve owner.registry name)) now = some (outcome, after) ∧
      unbounded code (.request (.resolve holder.registry name)) later = some (other, left) ∧
      (outcome.isOk = true → other.isOk = true ∨ family.Exceeds declarations name other) ∧
      (other.isOk = true → outcome.isOk = true ∨ family.Exceeds declarations name outcome) ∧
      (family.stock now ⊆ family.stock later → outcome.isOk = true → other.isOk = true) ∧
      ∀ further outcome after, unbounded code (.request (.resolve owner.registry further)) now =
        some (outcome, after) → family.stock now ⊆ family.stock after := by
  obtain ⟨registry, described⟩ := led.described
  have closed := awaits.closed described
  have rests := awaits.led described led
  have rests_too := awaits.led described led_too
  obtain ⟨outcome, after, resolved, _, answers⟩ := rests.resolves closed name
  obtain ⟨other, left, resolved_too, _, answers_too⟩ := rests_too.resolves closed name
  refine ⟨outcome, after, other, left, resolved, resolved_too, fun succeeds => ?_, fun succeeds => ?_,
    fun more succeeds => ?_, fun _ _ _ resolving => Family.stock_grows (unbounded_undisturbed resolving)⟩
  · exact answers_too.exceeds described (answers.clear rests.sound succeeds)
  · exact answers.exceeds described (answers_too.clear rests_too.sound succeeds)
  · obtain ⟨_, makes⟩ := answers.succeeds.mp succeeds
    obtain ⟨most, makes_too, _⟩ := makes.monotone more rests_too.sound
    exact answers_too.succeeds.mpr ⟨most, makes_too⟩

def OrderDecides (code : Code app) (declarations : Declarations) (world : World app) (earlier name : String) :
    Prop :=
  ∃ owner built stocked,
    unbounded code (.request (.build declarations)) world = some (.ok owner, built) ∧
    (∃ error after,
      unbounded code (.request (.resolve owner.registry name)) built = some (.error error, after)) ∧
    (∃ bean, unbounded code (.request (.resolve owner.registry earlier)) built = some (.ok bean, stocked)) ∧
    ∃ bean after, unbounded code (.request (.resolve owner.registry name)) stocked = some (.ok bean, after)

theorem OrderDecides.of_runs {declarations : Declarations} {world : World app} {earlier name : String}
    (budget : Nat)
    (runs : (perform code budget (.request (.build declarations)) world).any (fun building =>
      building.1.toOption.any fun owner =>
        (perform code budget (.request (.resolve owner.registry name)) building.2).any (!·.1.isOk) &&
        (perform code budget (.request (.resolve owner.registry earlier)) building.2).any fun stocking =>
          stocking.1.isOk &&
          (perform code budget (.request (.resolve owner.registry name)) stocking.2).any (·.1.isOk)) = true) :
    OrderDecides code declarations world earlier name := by
  obtain ⟨made, built, building, runs⟩ := unbounded_of_any budget runs
  cases made with
  | error _ => cases runs
  | ok owner =>
    rw [Except.toOption, Option.any_some, Bool.and_eq_true] at runs
    obtain ⟨refused, after, asking, fails⟩ := unbounded_of_any budget runs.1
    obtain ⟨other, stocked, stocking, late⟩ := unbounded_of_any budget runs.2
    rw [Bool.and_eq_true] at late
    obtain ⟨bean, last, again, succeeds⟩ := unbounded_of_any budget late.2
    refine ⟨owner, built, stocked, building, ?_, ?_, ?_⟩
    · cases refused with
      | ok _ => cases fails
      | error error => exact ⟨error, after, asking⟩
    · cases other with
      | error _ => cases late.1
      | ok other => exact ⟨other, stocking⟩
    · cases bean with
      | error _ => cases succeeds
      | ok bean => exact ⟨bean, last, again⟩

namespace Sample

-- A case is what the pencil in it is, and the pencil is there on its own, too.
def pencilCase : World kits :=
  { World.initial () with
    factories := #[.recipe (.ofRecipe .singleton ⟨[], .ok (some ⟨1⟩)⟩),
      .recipe (.ofRecipe .singleton ⟨[], .ok none⟩)] }

def stationery : Declarations :=
  ((Declarations.empty.withBean "case" ⟨0⟩).withBean "pencil" ⟨1⟩).withNestingBound 1

def stationers : Family where
  members := [⟨0⟩, ⟨1⟩]
  scope _ := .singleton
  needs _ := []
  nested factory := if factory = ⟨0⟩ then some ⟨1⟩ else none

theorem furnish_composes (parts : List String) (nested : Option FactoryId) :
    furnish.Composes ⟨parts, .ok nested⟩ parts nested :=
  ⟨⟨fun _ _ => (), fun _ => rfl⟩, fun _ _ => rfl⟩

theorem stationers_await : stationers.Awaits furnish stationery pencilCase where
  claimed := rfl
  apart := List.forall_mem_nil _
  declared := by decide
  nested {factory inner} _ inside := by
    rw [stationers, Option.ite_none_right_eq_some] at inside
    simp [stationers, ← Option.some.inj inside.2]
  lodged := by
    rw [stationers, List.forall_mem_cons, List.forall_mem_singleton]
    exact ⟨⟨_, rfl, rfl, furnish_composes [] (some ⟨1⟩), rfl⟩, _, rfl, rfl, furnish_composes [] none, rfl⟩
  sound registry _ factory among := by
    have unready : ∀ factory ∈ stationers.members, pencilCase.ready? factory = none := by decide
    obtain ⟨member, ready⟩ := among
    simp [unready factory member] at ready

theorem case_needs_pencil : OrderDecides furnish stationery pencilCase "pencil" "case" :=
  .of_runs 3 (by decide +kernel)

-- A case at home elsewhere and a box share a pencil that knows no home yet and needs a lead from there.
def borrowedCase : World kits :=
  { World.initial () with
    factories := #[.recipe (enlisted "case" ⟨[], .ok (some ⟨2⟩)⟩),
      .recipe (.ofRecipe .singleton ⟨[], .ok (some ⟨2⟩)⟩),
      .recipe (.ofRecipe .singleton ⟨["lead"], .ok none⟩), .recipe (enlisted "lead" ⟨[], .ok none⟩)]
    registries := #[⟨⟨["case", "lead"], [], [("case", ⟨0⟩), ("lead", ⟨3⟩)], 2⟩, [0]⟩]
    fresh := 1 }

def desk : Declarations :=
  (Declarations.empty.withBean "case" ⟨0⟩).withBean "box" ⟨1⟩

-- The bound takes no pencil in a case, unless it was made on its own; and the box has its pencil where the
-- case, which is told of another registry, lent it.
theorem order_decides : stationers.Awaits furnish stationery pencilCase ∧
    OrderDecides furnish stationery pencilCase "pencil" "case" ∧
    OrderDecides furnish desk borrowedCase "case" "box" :=
  ⟨stationers_await, case_needs_pencil, .of_runs 9 (by decide +kernel)⟩

theorem case_exceeds : stationers.Awaits furnish stationery pencilCase ∧
    ∃ owner built stocked outcome after, Led furnish stationery pencilCase owner built ∧
      Led furnish stationery pencilCase owner stocked ∧
      unbounded furnish (.request (.resolve owner.registry "case")) built = some (outcome, after) ∧
      stationers.Exceeds stationery "case" outcome := by
  obtain ⟨owner, built, stocked, building, ⟨error, _, fails⟩, ⟨_, stocking⟩, _, _, late⟩ := case_needs_pencil
  have led : Led furnish stationery pencilCase owner built := @Led.built _ _ _ _ _ [] _ building
  have led_too := led.resolved stocking
  obtain ⟨outcome, after, other, left, resolved, again, _, disagree, _⟩ :=
    earlier_resolving_only_stocks stationers_await led led_too "case"
  refine ⟨stationers_await, owner, built, stocked, outcome, after, led, led_too, resolved, ?_⟩
  rw [late] at again
  rw [fails] at resolved
  cases again
  cases resolved
  exact (disagree rfl).resolve_left nofun

end Sample

end BeanRegistry
