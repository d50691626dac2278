import BeanRegistry.Proofs.Registry.Standing
import BeanRegistry.Proofs.Run.Persistence

set_option autoImplicit false

namespace BeanRegistry

variable {app : Application} {code : Code app}

-- A registry while somebody outside keeps a share in it, and the recipes that are in use there.
structure Host (app : Application) where
  share : Owner
  registry : Registry
  Sound : app.Recipe → Prop

abbrev Resolver (app : Application) : Type :=
  String → World app → Except BeanFailure (Object app.Content) × World app

namespace Host

variable (host : Host app)

def identity : RegistryId :=
  host.share.registry

def Takes (world : World app) (factory : FactoryId) : Prop :=
  ∃ recipe, world.recipeFactory? factory = some recipe ∧ host.Sound recipe.recipe ∧
    ∀ registry, recipe.registry = some registry → registry = host.identity

def Enrols (world : World app) (factory : FactoryId) : Prop :=
  ∃ recipe, world.recipeFactory? factory = some recipe ∧ host.Sound recipe.recipe ∧
    recipe.registry = some host.identity

structure Rooted (world : World app) : Prop where
  old : host.share.serial < world.fresh
  cell : ∃ owners, world.registryCell? host.identity = some ⟨host.registry, owners⟩

structure Houses (world : World app) : Prop extends Rooted host world where
  held : world.isHeld host.share
  beans : ∀ factory ∈ host.registry.factories, host.Enrols world factory

structure Lasts (before after : World app) : Prop extends Persists before after where
  guards : after.guards = before.guards
  held : before.isHeld host.share → after.isHeld host.share

end Host

structure Resolver.Lawful (resolver : Resolver app) (code : Code app) (host : Host app) : Prop where
  lasts : ∀ name world, host.Lasts world (resolver name world).2
  agrees : ∀ {name world answer},
    unbounded code (.request (.resolve host.identity name)) world = some answer →
      host.Lasts world answer.2 → resolver name world = answer

-- Leaves the resolving in the host to others, and answers nobody who asks for beans in any other way.
def confine (code : Code app) (host : Host app) (resolver : Resolver app) (handle : Handler app) :
    Handler app
  | .proceed passage position => proceedAt code handle passage position
  | .request (.resolve registry name) => fun world =>
    if registry = host.identity then some (resolver name world) else none
  | .request (.produce _) => fun _ => none
  | .request (.build _) => fun _ => none
  | .request operation => carryOut code handle operation

def performConfined (code : Code app) (host : Host app) (resolver : Resolver app) : Nat → Handler app
  | 0 => fun _ _ => none
  | budget + 1 => confine code host resolver (performConfined code host resolver budget)

-- A nested factory is made from a sound recipe, too, and is at home nowhere else.
structure Code.Confines (code : Code app) (host : Host app) : Prop where
  created : ∀ {resolver : Resolver app}, resolver.Lawful code host → ∀ {recipe creation world},
    host.Sound recipe → creation.registry = some host.identity → host.Houses world → ∃ budget,
      ((performConfined code host resolver budget).script (code.create recipe creation)).Gives world
        fun outcome after => after.isHeld host.share ∧
          ∀ nested, outcome = .ok (.factory nested) → host.Takes after nested
  followedUp : ∀ {resolver : Resolver app}, resolver.Lawful code host →
    ∀ {recipe product creation world}, host.Sound recipe → creation.registry = some host.identity →
      host.Houses world → ∃ budget,
        ((performConfined code host resolver budget).script
          (code.followUp recipe product creation)).Gives world fun _ after => after.isHeld host.share ∧
            ∀ nested, product = .factory nested → host.Takes world nested → host.Takes after nested

section Foretelling

variable {host : Host app} {world after : World app}

theorem Host.Rooted.persists (rooted : host.Rooted world) (persists : Persists world after) :
    host.Rooted after := by
  obtain ⟨owners, known⟩ := rooted.cell
  obtain ⟨shares, found, _⟩ := persists.cells known
  exact ⟨Nat.lt_of_lt_of_le rooted.old persists.fresh, shares, found⟩

theorem Host.Rooted.held (rooted : host.Rooted world) (persists : Persists world after)
    (holds : after.isHeld host.share) : world.isHeld host.share := by
  obtain ⟨owners, known⟩ := rooted.cell
  obtain ⟨shares, found, granted⟩ := persists.cells known
  have old := rooted.old
  rw [identity] at known found
  simp only [World.isHeld, found, List.contains_iff_mem] at holds
  simp only [World.isHeld, known, List.contains_iff_mem]
  rcases granted host.share.serial holds with among | fresh
  · exact among
  · omega

variable (host) (Inside : World app → Prop)

def Discipline.foretelling : Discipline app Bool where
  Allows world after := host.Rooted world → host.Rooted after ∧
    (after.isHeld host.share → world.isHeld host.share ∧ (Inside world → Inside after))
  Holds world answer := host.Rooted world → ∀ result after, answer true = some (result, after) →
    host.Rooted after ∧ (after.isHeld host.share → world.isHeld host.share ∧
      (Inside world → answer false = some (result, after) ∧ Inside after))
  step result allowed rooted := by
    rintro _ _ ⟨⟩
    obtain ⟨still, held⟩ := allowed rooted
    exact ⟨still, fun holds => ⟨(held holds).1, fun inside => ⟨rfl, (held holds).2 inside⟩⟩⟩
  bind start rest rooted := by
    intro other last answered
    obtain ⟨result, middle, foretold, answered⟩ := Eval.bind_eq_some_iff.mp answered
    obtain ⟨between, held⟩ := start rooted result middle foretold
    obtain ⟨still, held_on⟩ := rest result middle between other last answered
    refine ⟨still, fun holds => ?_⟩
    obtain ⟨halfway, comes⟩ := held_on holds
    obtain ⟨before, came⟩ := held halfway
    refine ⟨before, fun inside => ?_⟩
    obtain ⟨true_so_far, inside⟩ := came inside
    obtain ⟨true_on, inside⟩ := comes inside
    exact ⟨Eval.bind_eq_some_iff.mpr ⟨result, middle, true_so_far, true_on⟩, inside⟩

variable {host Inside} {resolver : Resolver app}
  (quietly : ∀ {world after}, Inside world → Persists world after → Quiet world after →
    after.isHeld host.share → Inside after)
  (lawful : resolver.Lawful code host)
  (resolves : ∀ name {world}, Inside world → ∃ answer,
    unbounded code (.request (.resolve host.identity name)) world = some answer ∧
      host.Lasts world answer.2 ∧ Inside answer.2)

include quietly

theorem foretelling_allows (persists : Persists world after) (quiet : Quiet world after) :
    (Discipline.foretelling host Inside).Allows world after :=
  fun rooted => ⟨rooted.persists persists, fun holds =>
    ⟨rooted.held persists holds, fun inside => quietly inside persists quiet holds⟩⟩

include lawful resolves

noncomputable def foretold (code : Code app) (host : Host app) (resolver : Resolver app) (budget : Nat) :
    Bool → Handler app
  | true => performConfined code host resolver budget
  | false => unbounded code

omit quietly lawful resolves in
theorem confine_aside {handle : Handler app} {operation : Operation app}
    (aside : operation.asksForBeans = false) :
    confine code host resolver handle (.request operation) = carryOut code handle operation := by
  cases operation <;> first | rfl | cases aside

omit quietly in
theorem foretold_resolve (handle : Handler app) (registry : RegistryId) (name : String) :
    (Discipline.foretelling host Inside).Holds world fun foretells =>
      match foretells with
      | true => confine code host resolver handle (.request (.resolve registry name)) world
      | false => unbounded code (.request (.resolve registry name)) world := by
  intro rooted outcome after answered
  change (if registry = host.identity then some (resolver name world) else none) = _ at answered
  split at answered
  next same =>
    subst same
    have lasts := lawful.lasts name world
    rw [Option.some.inj answered] at lasts
    refine ⟨rooted.persists lasts.toPersists, fun holds =>
      ⟨rooted.held lasts.toPersists holds, fun inside => ?_⟩⟩
    obtain ⟨answer, resolved, lasting, still⟩ := resolves name inside
    have same := lawful.agrees resolved lasting
    rw [Option.some.inj answered] at same
    rw [← same] at resolved still
    exact ⟨resolved, still⟩
  next => cases answered

theorem foretold_handles (budget : Nat) :
    (Discipline.foretelling host Inside).Handles (foretold code host resolver budget) := by
  induction budget with
  | zero => exact fun _ _ _ _ _ => nofun
  | succ budget ih =>
    have plain {world after : World app} (move : CarefulMove world after) :=
      foretelling_allows quietly move.plain.persists move.plain.quiet
    have chained {world after : World app} (move : ChainMove world after) :=
      foretelling_allows quietly move.persists move.quiet
    intro call world
    cases call with
    | proceed passage position =>
      have same : (fun foretells => foretold code host resolver (budget + 1) foretells
          (.proceed passage position) world) = fun foretells =>
            proceedAt code (foretold code host resolver budget foretells) passage position world := by
        funext foretells
        cases foretells with
        | true => rfl
        | false => exact congrFun (unbounded_proceed code passage position) world
      rw [same]
      exact Discipline.proceedAt_holds code plain ih.answers (fun passed => chained (.pass passage passed))
        position (ih (.proceed passage (position + 1))) world
    | request operation =>
      cases asks : operation.asksForBeans with
      | false =>
        have same : (fun foretells => foretold code host resolver (budget + 1) foretells
            (.request operation) world) = fun foretells =>
              carryOut code (foretold code host resolver budget foretells) operation world := by
          funext foretells
          cases foretells with
          | true => exact congrFun (confine_aside asks) world
          | false => exact congrFun (unbounded_request code operation) world
        rw [same]
        exact Discipline.carryOut_aside code plain ih.answers asks
          (Discipline.driveChain_holds plain chained fun passage => ih (.proceed passage 0)) world
      | true =>
        cases operation with
        | resolve registry name =>
          exact foretold_resolve lawful resolves (performConfined code host resolver budget) registry name
        | produce factory => exact fun _ _ _ answered => nomatch answered
        | build declarations => exact fun _ _ _ answered => nomatch answered
        | _ => cases asks

theorem script_foretold {Result : Type} {script : Script app Result} {budget : Nat}
    {holds : Result → World app → Prop} (rooted : host.Rooted world) (inside : Inside world)
    (foretells : ((performConfined code host resolver budget).script script).Gives world holds)
    (keeps : ∀ result after, holds result after → after.isHeld host.share) :
    ((unbounded code).script script).Gives world fun result after => Inside after ∧ holds result after := by
  have plain {world after : World app} (move : CarefulMove world after) :=
    foretelling_allows quietly move.plain.persists move.plain.quiet
  obtain ⟨result, after, foretold, held⟩ := foretells
  obtain ⟨_, comes⟩ := Discipline.script_holds plain
    (foretold_handles quietly lawful resolves budget).answers script world rooted result after foretold
  obtain ⟨_, true_of_it⟩ := comes (keeps result after held)
  obtain ⟨answered, still⟩ := true_of_it inside
  exact ⟨result, after, answered, still, held⟩

end Foretelling

namespace Host

variable {host : Host app} {world after : World app} {factory : FactoryId}

theorem Enrols.persists (enrols : host.Enrols world factory) (persists : Persists world after) :
    host.Enrols after factory := by
  obtain ⟨recipe, known, sound, registered⟩ := enrols
  obtain ⟨late, found, becomes⟩ := persists.recipes known
  exact ⟨late, found, becomes.recipe ▸ sound, becomes.registry _ registered⟩

theorem held_of_registries (registries : after.registries = world.registries)
    (held : world.isHeld host.share) : after.isHeld host.share := by
  simpa [World.isHeld, World.registryCell?, registries] using held

theorem Houses.persists (houses : host.Houses world) (persists : Persists world after)
    (held : after.isHeld host.share) : host.Houses after where
  toRooted := houses.toRooted.persists persists
  held := held
  beans factory member := (houses.beans factory member).persists persists

theorem Houses.known (houses : host.Houses world) : world.registry host.identity = host.registry := by
  obtain ⟨owners, known⟩ := houses.cell
  simp [World.registry, known]

theorem Houses.active (houses : host.Houses world) : world.isActive host.identity = true := by
  obtain ⟨owners, known⟩ := houses.cell
  have held := houses.held
  rw [identity] at known
  simp only [World.isHeld, known, List.contains_iff_mem] at held
  simp [World.isActive, identity, known, List.ne_nil_of_mem held]

theorem Houses.nestingBound {recipe : RecipeFactory app} (houses : host.Houses world)
    (registered : recipe.registry = some host.identity) :
    world.nestingBound recipe = host.registry.nestingBound := by
  simp [World.nestingBound, registered, houses.active, houses.known]

-- A new share does not stand in for the one that is kept.
theorem Houses.grant (houses : host.Houses world) : host.Houses (world.grant host.identity).2 := by
  obtain ⟨owners, known⟩ := houses.cell
  have held := houses.held
  rw [identity] at known
  refine houses.persists (PlainMove.grant world host.identity).persists ?_
  have granted := World.registryCell?_mapOwners known (world.fresh :: ·)
  change (world.grant host.share.registry).2.registryCell? host.share.registry = _ at granted
  simp only [World.isHeld, known, List.contains_iff_mem] at held
  simp [World.isHeld, identity, granted, held]

theorem Houses.release (houses : host.Houses world) {serial : Nat} (other : serial ≠ host.share.serial) :
    host.Houses (world.release ⟨host.identity, serial⟩) := by
  obtain ⟨owners, known⟩ := houses.cell
  have held := houses.held
  rw [identity] at known
  refine houses.persists (PlainMove.release world _).persists ?_
  have kept := World.registryCell?_mapOwners known (fun owners => owners.filter (· != serial))
  change (world.release ⟨host.share.registry, serial⟩).registryCell? host.share.registry = _ at kept
  simp only [World.isHeld, known, List.contains_iff_mem] at held
  simp [World.isHeld, identity, kept, held, Ne.symm other]

end Host

section Creations

theorem Creation.script_resolve {handle : Handler app} {creation : Creation} {registry : RegistryId}
    {owner : Owner} {name : String} {outcome : Except BeanFailure (Object app.Content)}
    {world acquired resolved released : World app} (registered : creation.registry = some registry)
    (acquires : handle (.request (.acquire registry)) world = some (some owner, acquired))
    (resolves : handle (.request (.resolve owner.registry name)) acquired = some (outcome, resolved))
    (releases : handle (.request (.release owner)) resolved = some ((), released)) :
    handle.script (creation.resolve name) world = some (outcome.mapError .bean, released) := by
  unfold Creation.resolve Creation.acquire
  rw [registered, Handler.script_bind]
  simp only [Script.acquire, Script.request]
  rw [Handler.script_bind, Handler.script_request, acquires]
  simp only [Option.bind_some]
  change (handle.script (Script.holding _ _ >>= _) _) = _
  rw [Handler.script_bind, Script.holding, Handler.script_bind, Script.resolve, Script.request,
    Handler.script_request, resolves]
  simp only [Option.bind_some]
  rw [Handler.script_bind, Script.request, Handler.script_request, releases]
  cases outcome <;> rfl

variable {host : Host app} {resolver : Resolver app} {creation : Creation} {world : World app}

theorem resolve_confined (lawful : resolver.Lawful code host)
    (registered : creation.registry = some host.identity) (houses : host.Houses world) (name : String) :
    ((performConfined code host resolver 1).script (creation.resolve name)).Gives world
      fun _ after => host.Houses after := by
  let handle := performConfined code host resolver 1
  let owner : Owner := ⟨host.identity, world.fresh⟩
  have acquired : handle (.request (.acquire host.identity)) world =
      some (some owner, (world.grant host.identity).2) := by
    change some (world.acquire host.identity) = _
    rw [World.acquire, if_pos houses.active]
    rfl
  have resolved : handle (.request (.resolve host.identity name)) (world.grant host.identity).2 =
      some (resolver name (world.grant host.identity).2) := if_pos rfl
  have lasts := lawful.lasts name (world.grant host.identity).2
  have still := houses.grant.persists lasts.toPersists (lasts.held houses.grant.held)
  have other : world.fresh ≠ host.share.serial := (Nat.ne_of_lt houses.old).symm
  exact ⟨_, _, creation.script_resolve registered acquired resolved rfl, still.release other⟩

theorem gather_confined (lawful : resolver.Lawful code host)
    (registered : creation.registry = some host.identity) (houses : host.Houses world)
    (names : List String) :
    ((performConfined code host resolver 1).script (creation.gather names)).Gives world
      fun _ after => host.Houses after := by
  induction names generalizing world with
  | nil => exact ⟨.ok [], world, rfl, houses⟩
  | cons name rest ih =>
    obtain ⟨outcome, middle, resolved, still⟩ := resolve_confined lawful registered houses name
    rw [Eval.Gives, Creation.gather, Handler.script_bind, resolved, Option.bind_some]
    cases outcome with
    | error failure => exact ⟨_, middle, rfl, still⟩
    | ok bean =>
      obtain ⟨beans, after, gathered, last⟩ := ih still
      dsimp only
      rw [Handler.script_bind, gathered]
      cases beans with
      | error failure => exact ⟨_, after, rfl, last⟩
      | ok beans => exact ⟨_, after, rfl, last⟩

end Creations

end BeanRegistry
