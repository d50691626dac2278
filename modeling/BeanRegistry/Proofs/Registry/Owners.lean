import BeanRegistry.Proofs.Registry.Bootstrap
import BeanRegistry.Proofs.Registry.Shares

set_option autoImplicit false

namespace BeanRegistry

variable {app : Application} {code : Code app}

def outstanding : List (Step app) → List Owner
  | [] => []
  | .granted owner :: before => owner :: outstanding before
  | .released owner :: before => (outstanding before).filter (· ≠ owner)
  | _ :: before => outstanding before

theorem outstanding_filter (journal : List (Step app)) :
    outstanding (journal.filter fun step => step.owner?.isSome) = outstanding journal := by
  induction journal with
  | nil => rfl
  | cons step before ih =>
    cases step with
    | granted owner => exact congrArg (owner :: ·) ih
    | released owner => exact congrArg (·.filter (· ≠ owner)) ih
    | _ => exact ih

theorem outstanding_books {world after : World app} (same : after.books = world.books) :
    outstanding after.journal = outstanding world.journal := by
  rw [← outstanding_filter after.journal, ← outstanding_filter world.journal]
  exact congrArg (outstanding ·.2) same

structure Accounted (world : World app) : Prop where
  held : ∀ owner, world.isHeld owner = true ↔ owner ∈ outstanding world.journal
  distinct : (outstanding world.journal).Nodup
  earlier : ∀ owner ∈ outstanding world.journal, owner.serial < world.fresh

def World.HasOwner (world : World app) (registry : RegistryId) : Prop :=
  ∃ owner ∈ outstanding world.journal, owner.registry = registry

namespace Accounted

variable {world after : World app} {registry : RegistryId}

theorem initial (memory : app.Memory) : Accounted (World.initial memory : World app) where
  held owner := by simp [World.isHeld, World.registryCell?, World.initial, outstanding]
  distinct := List.nodup_nil
  earlier _ member := nomatch member

theorem fresh (accounted : Accounted world) (registry : RegistryId) :
    ⟨registry, world.fresh⟩ ∉ outstanding world.journal :=
  fun member => Nat.lt_irrefl _ (accounted.earlier _ member)

theorem isActive_iff (accounted : Accounted world) (registry : RegistryId) :
    world.isActive registry = true ↔ world.HasOwner registry := by
  have held (serial : Nat) := accounted.held ⟨registry, serial⟩
  simp only [World.isHeld_eq] at held
  rw [World.isActive_eq]
  constructor
  · intro active
    obtain ⟨serials, found, some⟩ := (Option.any_eq_true _ _).mp active
    obtain ⟨serial, rest, split⟩ := List.exists_cons_of_ne_nil (show serials ≠ [] by simpa using some)
    exact ⟨⟨registry, serial⟩, (held serial).mp (by simp [found, split]), rfl⟩
  · rintro ⟨⟨_, serial⟩, member, rfl⟩
    obtain ⟨serials, found, among⟩ := (Option.any_eq_true _ _).mp ((held serial).mpr member)
    rw [found]
    simpa using List.ne_nil_of_mem (List.contains_iff_mem.mp among)

theorem grant (accounted : Accounted world) (known : (world.owners? registry).isSome) :
    Accounted (world.grant registry).2 where
  held owner := by
    obtain ⟨serials, found⟩ := Option.isSome_iff_exists.mp known
    obtain ⟨home, serial⟩ := owner
    have before := accounted.held ⟨home, serial⟩
    rw [World.isHeld_eq] at before
    have owners := ({ world with fresh := world.fresh + 1 }).owners?_mapOwners registry home
      (world.fresh :: ·)
    change (world.grant registry).2.owners? home = ite _ (Option.map _ (world.owners? home))
      (world.owners? home) at owners
    change _ ↔ _ ∈ Owner.mk registry world.fresh :: outstanding world.journal
    rw [World.isHeld_eq, owners, List.mem_cons, ← before]
    by_cases own : registry = home
    · subst own
      simp [found]
    · simp [own, Ne.symm own]
  distinct := List.nodup_cons.mpr ⟨accounted.fresh registry, accounted.distinct⟩
  earlier owner member := by
    rcases List.mem_cons.mp member with rfl | old
    · exact Nat.lt_succ_self _
    · exact Nat.lt_succ_of_lt (accounted.earlier owner old)

theorem release (accounted : Accounted world) (owner : Owner) : Accounted (world.release owner) where
  held other := by
    have before := accounted.held other
    rw [World.isHeld_eq] at before
    have owners := world.owners?_mapOwners owner.registry other.registry (·.filter (· != owner.serial))
    change (world.release owner).owners? other.registry = _ at owners
    change _ ↔ other ∈ (outstanding world.journal).filter (· ≠ owner)
    rw [World.isHeld_eq, owners, List.mem_filter, ← before]
    obtain ⟨home, serial⟩ := owner
    obtain ⟨registry, other⟩ := other
    by_cases own : home = registry
    · subst own
      cases world.owners? home <;> simp
    · simp [own, Ne.symm own]
  distinct := accounted.distinct.filter _
  earlier other member := accounted.earlier other (List.mem_of_mem_filter member)

end Accounted

theorem accounted_shareholding : @Shareholding app Accounted where
  aside {world after} same fresh accounted := by
    refine ⟨fun owner => ?_, ?_, ?_⟩
    · rw [outstanding_books same, World.isHeld_eq, World.owners?_books same, ← World.isHeld_eq]
      exact accounted.held owner
    · rw [outstanding_books same]
      exact accounted.distinct
    · rw [outstanding_books same]
      exact fun owner member => Nat.lt_of_lt_of_le (accounted.earlier owner member) fresh
  addRegistry {world} added accounted := by
    refine ⟨fun owner => ?_, accounted.distinct, accounted.earlier⟩
    have before := accounted.held owner
    rw [World.isHeld_eq] at before
    change _ ↔ owner ∈ outstanding world.journal
    rw [World.isHeld_eq, World.owners?_addRegistry, ← before]
    split
    next new => simp [new, World.owners?_new]
    next => rfl
  grant {world registry} alive accounted := by
    refine accounted.grant ?_
    rw [World.isActive_eq] at alive
    exact Option.isSome_of_any alive
  release owner accounted := accounted.release owner
  found {world noted registry} _ since accounted := by
    refine accounted.grant ?_
    obtain ⟨owners, known, _⟩ := since.cells (world.registryCell?_addRegistry registry)
    simp [World.owners?, known]

def Dormant (registry : RegistryId) (world : World app) : Prop :=
  world.owners? registry = some []

theorem Dormant.inactive {registry : RegistryId} {world : World app} (dormant : Dormant registry world) :
    world.isActive registry = false := by
  rw [World.isActive_eq, show world.owners? registry = some [] from dormant]
  rfl

theorem Dormant.apart {registry other : RegistryId} {world : World app} (dormant : Dormant registry world)
    (active : world.isActive other = true) : other ≠ registry := by
  rintro rfl
  rw [dormant.inactive] at active
  cases active

theorem Dormant.of_inactive {registry : RegistryId} {cell : RegistryCell} {world : World app}
    (known : world.registryCell? registry = some cell) (inactive : ¬ world.isActive registry = true) :
    Dormant registry world := by
  have owners : world.owners? registry = some cell.owners := by simp [World.owners?, known]
  rw [World.isActive_eq, owners] at inactive
  rw [Dormant, owners]
  simpa using inactive

theorem dormant_shareholding (registry : RegistryId) : @Shareholding app (Dormant registry) where
  aside same _ dormant := (World.owners?_books same registry).trans dormant
  addRegistry {world} added dormant := by
    rw [Dormant, World.owners?_addRegistry, if_neg, dormant]
    rintro rfl
    rw [Dormant, World.owners?_new] at dormant
    cases dormant
  grant {world other} alive dormant := by
    have owners := ({ world with fresh := world.fresh + 1 }).owners?_mapOwners other registry
      (world.fresh :: ·)
    exact (owners.trans (if_neg (dormant.apart alive))).trans dormant
  release {world} owner dormant := by
    refine (world.owners?_mapOwners owner.registry registry _).trans ?_
    rw [show world.owners? registry = some [] from dormant]
    split <;> rfl
  found {world noted added} dormant _ still := by
    have owners := ({ noted with fresh := noted.fresh + 1 }).owners?_mapOwners
      ⟨world.registries.size⟩ registry
      (noted.fresh :: ·)
    refine (owners.trans (if_neg ?_)).trans still
    rintro rfl
    rw [Dormant, World.owners?_new] at dormant
    cases dormant

theorem outstanding_append {owner : Owner} {steps before : List (Step app)}
    (granted : owner ∈ outstanding before) (kept : .released owner ∉ steps) :
    owner ∈ outstanding (steps ++ before) := by
  induction steps with
  | nil => exact granted
  | cons step rest ih =>
    rw [List.mem_cons, not_or] at kept
    have still := ih kept.2
    cases step with
    | granted other => exact List.mem_cons_of_mem other still
    | released other =>
      refine List.mem_filter.mpr ⟨still, decide_eq_true fun same => kept.1 ?_⟩
      rw [same]
    | _ => exact still

structure Grants (registry : RegistryId) (world : World app) (owner : Owner) (after : World app) : Prop where
  own : owner.registry = registry
  new : owner ∉ outstanding world.journal
  granted : outstanding after.journal = owner :: outstanding world.journal

theorem Accounted.grants {world : World app} (accounted : Accounted world) (registry : RegistryId) :
    Grants registry world ⟨registry, world.fresh⟩ (world.grant registry).2 :=
  ⟨rfl, accounted.fresh registry, rfl⟩

structure Owns (code : Code app) (declarations : Declarations) (registry : Registry) (world : World app) :
    Prop where
  built : ∀ {owner built}, unbounded code (.request (.build declarations)) world = some (.ok owner, built) →
    ∃ opened steps, opening code declarations registry world = some (owner, opened) ∧
      owner ∈ outstanding opened.journal ∧ built.journal = steps ++ opened.journal ∧
        (.released owner ∉ steps → owner ∈ outstanding built.journal)
  -- While its handles are handed out it has no owner, and they are not active.
  unborn : ∀ budget,
    introduce code (performWatched code (Dormant ⟨world.registries.size⟩) budget) ⟨world.registries.size⟩
        declarations.beans (world.addRegistry registry).2 =
      introduce code (perform code budget) ⟨world.registries.size⟩ declarations.beans
        (world.addRegistry registry).2 ∧
    ∀ told, introduce code (perform code budget) ⟨world.registries.size⟩ declarations.beans
        (world.addRegistry registry).2 = some ((), told) → Dormant ⟨world.registries.size⟩ told
  -- After its eager beans failed it is left to those who took a share of it meanwhile and have it still.
  failed : Accounted world → ∀ {error built},
    unbounded code (.request (.build declarations)) world = some (.error error, built) →
      ∃ own opened last, opening code declarations registry world = some (own, opened) ∧
        loadEagerly code (unbounded code) own.registry declarations.eager opened = some (.error error, last) ∧
        (built.isActive own.registry = true ↔
          ∃ share ∈ outstanding last.journal, share.registry = own.registry ∧ share ≠ own) ∧
        ((∀ share ∈ outstanding last.journal, share.registry = own.registry → share = own) →
          Dormant own.registry built)
  registered : ∀ {name factory before rest turn early outcome built now},
    declarations.beans = before ++ (name, factory) :: rest →
    introduce code (unbounded code) ⟨world.registries.size⟩ before (world.addRegistry registry).2 =
      some ((), turn) →
    turn.recipeFactory? factory = some early → early.registry = none →
    unbounded code (.request (.build declarations)) world = some (outcome, built) → Persists built now →
      ∃ recipe, now.recipeFactory? factory = some recipe ∧ recipe.registry = some ⟨world.registries.size⟩

structure Code.FollowsOwners (code : Code app) : Prop where
  initial : ∀ memory, Accounted (World.initial memory : World app)
  accounted : ∀ {world : World app}, Accounted world → ∀ {Result : Type} budget (script : Script app Result),
    world.runWatched code Accounted budget script = world.run code budget script ∧
      ∀ result after, world.run code budget script = some (result, after) → Accounted after
  active : ∀ {world : World app}, Accounted world → ∀ registry,
    world.isActive registry = true ↔ world.HasOwner registry
  acquired : ∀ {world : World app} {registry}, Accounted world → world.HasOwner registry → ∃ owner after,
    unbounded code (.request (.acquire registry)) world = some (some owner, after) ∧
      Grants registry world owner after
  refused : ∀ {world : World app} {registry}, Accounted world → ¬ world.HasOwner registry →
    unbounded code (.request (.acquire registry)) world = some (none, world)
  shared : ∀ {world : World app} {owner}, Accounted world → owner ∈ outstanding world.journal → ∃ other after,
    unbounded code (.request (.share owner)) world = some (other, after) ∧
      Grants owner.registry world other after
  released : ∀ (world : World app) owner, ∃ after,
    unbounded code (.request (.release owner)) world = some ((), after) ∧
      outstanding after.journal = (outstanding world.journal).filter (· ≠ owner)
  builds : ∀ {declarations registry}, declarations.registry = .ok registry → ∀ world : World app,
    Owns code declarations registry world
  handed : ∀ {world : World app} {factory recipe} registry, world.recipeFactory? factory = some recipe →
    ∃ after, unbounded code (.request (.tellRegistry factory registry)) world = some (true, after) ∧
      outstanding after.journal = outstanding world.journal ∧
        ∀ other, after.isActive other = world.isActive other
  lent : ∀ {world : World app} {factory nested lender borrower}, world.recipeFactory? factory = some lender →
    world.recipeFactory? nested = some borrower → ∃ after,
      lendIdentity code (unbounded code) factory nested world = some ((), after) ∧
        outstanding after.journal = outstanding world.journal ∧
          ∀ other, after.isActive other = world.isActive other
  ended : ∀ {world : World app} {registry cell}, Accounted world → world.registryCell? registry = some cell →
    ¬ world.HasOwner registry → Dormant registry world
  dormant : ∀ {world : World app} {registry}, Dormant registry world → world.isActive registry = false ∧
    ∀ {Result : Type} budget (script : Script app Result),
      world.runWatched code (Dormant registry) budget script = world.run code budget script ∧
        ∀ result after, world.run code budget script = some (result, after) → Dormant registry after
  dropped : ∀ {world : World app} {factory recipe registry}, Dormant registry world →
    world.recipeFactory? factory = some recipe → recipe.registry = some registry →
      (∀ bean, recipe.ready? = some bean →
        unbounded code (.request (.produce factory)) world = some (.ok bean, world)) ∧
      ∀ now : World app, Dormant registry now →
        (unbounded code).script recipe.creation.acquire now = some (.error .registryDropped, now) ∧
          ∀ name, (unbounded code).script (recipe.creation.resolve name) now =
            some (.error .registryDropped, now)

section Building

variable {declarations : Declarations} {registry : Registry} {world built : World app} {owner : Owner}
  (described : declarations.registry = .ok registry)

include described

theorem build_ok_owns
    (building : unbounded code (.request (.build declarations)) world = some (.ok owner, built)) :
    ∃ opened steps, opening code declarations registry world = some (owner, opened) ∧
      owner ∈ outstanding opened.journal ∧ built.journal = steps ++ opened.journal ∧
        (.released owner ∉ steps → owner ∈ outstanding built.journal) := by
  obtain ⟨other, opened, loaded, last, opens, loading, same⟩ := (build_opens described).mp building
  cases loaded with
  | error error => cases same
  | ok _ =>
    cases same
    obtain ⟨told, _, granted⟩ := opening_eq_some_iff.mp opens
    have member : owner ∈ outstanding opened.journal := by
      cases granted
      exact List.mem_cons_self
    obtain ⟨steps, grown⟩ := (loadEagerly_keeps (stays_keeps code) loading).journal
    refine ⟨opened, .built _ _ _ :: steps, opens, member, congrArg (_ :: ·) grown, fun unreleased => ?_⟩
    have still : owner ∈ outstanding last.journal := by
      rw [grown]
      exact outstanding_append member fun among => unreleased (List.mem_cons_of_mem _ among)
    exact still

theorem build_error_owns (accounted : Accounted world) {error : BeanFailure}
    (building : unbounded code (.request (.build declarations)) world = some (.error error, built)) :
    ∃ own opened last, opening code declarations registry world = some (own, opened) ∧
      loadEagerly code (unbounded code) own.registry declarations.eager opened = some (.error error, last) ∧
      (built.isActive own.registry = true ↔
        ∃ share ∈ outstanding last.journal, share.registry = own.registry ∧ share ≠ own) ∧
      ((∀ share ∈ outstanding last.journal, share.registry = own.registry → share = own) →
        Dormant own.registry built) := by
  obtain ⟨own, opened, loaded, last, opens, loading, same⟩ := (build_opens described).mp building
  cases loaded with
  | ok _ => cases same
  | error error =>
    cases same
    have active := (accounted_shareholding.unbounded accounted building).isActive_iff own.registry
    have decides : (last.release own).isActive own.registry = true ↔
        ∃ share ∈ outstanding last.journal, share.registry = own.registry ∧ share ≠ own := by
      refine active.trans ?_
      change (∃ share ∈ (outstanding last.journal).filter (· ≠ own), _) ↔ _
      simp only [List.mem_filter, decide_eq_true_eq, and_assoc, and_comm]
    refine ⟨own, opened, last, opens, loading, decides, fun returned => ?_⟩
    let keeps := persists_keeps code
    obtain ⟨_, owners, founded, _⟩ := opening_persists described opens
    obtain ⟨_, known, _⟩ :=
      (keeps.trans (loadEagerly_keeps keeps loading) (keeps.plain (.release last own))).cells founded
    refine .of_inactive known fun alive => ?_
    obtain ⟨share, among, home, other⟩ := decides.mp alive
    exact other (returned share among home)

omit described in
theorem introduce_unborn (code : Code app) (world : World app) (budget : Nat) :
    introduce code (performWatched code (Dormant ⟨world.registries.size⟩) budget) ⟨world.registries.size⟩
        declarations.beans (world.addRegistry registry).2 =
      introduce code (perform code budget) ⟨world.registries.size⟩ declarations.beans
        (world.addRegistry registry).2 ∧
    ∀ told, introduce code (perform code budget) ⟨world.registries.size⟩ declarations.beans
        (world.addRegistry registry).2 = some ((), told) → Dormant ⟨world.registries.size⟩ told := by
  have watches := (dormant_shareholding ⟨world.registries.size⟩).watches code
  have new : Dormant ⟨world.registries.size⟩ (world.addRegistry registry).2 := by
    rw [Dormant, World.owners?_addRegistry, if_pos rfl]
  obtain ⟨same, kept⟩ := Discipline.introduce_holds code watches.careful (watches.both_hold id budget).1
    ⟨world.registries.size⟩ declarations.beans _ new
  exact ⟨same, fun told introduced => (kept () told introduced).1⟩

theorem registered_stays {name : String} {factory : FactoryId} {before rest : List (String × FactoryId)}
    {turn now : World app} {early : RecipeFactory app} {outcome : Except BeanFailure Owner}
    (split : declarations.beans = before ++ (name, factory) :: rest)
    (earlier : introduce code (unbounded code) ⟨world.registries.size⟩ before (world.addRegistry registry).2 =
      some ((), turn))
    (known : turn.recipeFactory? factory = some early) (homeless : early.registry = none)
    (building : unbounded code (.request (.build declarations)) world = some (outcome, built))
    (since : Persists built now) :
    ∃ recipe, now.recipeFactory? factory = some recipe ∧ recipe.registry = some ⟨world.registries.size⟩ := by
  obtain ⟨told, introduced, reached, _⟩ := build_introduces described building
  rw [split, introduce_append, Eval.bind_apply, earlier, Option.bind_some] at introduced
  obtain ⟨learned, found, _, housed⟩ := introduce_told known introduced
  obtain ⟨recipe, still, becomes⟩ := (reached.persists.trans since).recipes found
  rw [homeless] at housed
  exact ⟨recipe, still, becomes.registry _ housed⟩

theorem owns (world : World app) : Owns code declarations registry world where
  built := build_ok_owns described
  unborn := introduce_unborn code world
  failed accounted := build_error_owns described accounted
  registered := registered_stays described

end Building

theorem handles_follow_owners (code : Code app) : code.FollowsOwners where
  initial := Accounted.initial
  accounted known _ budget script := by
    obtain ⟨same, kept⟩ := (accounted_shareholding.watches code).run_watched known budget script
    exact ⟨same, fun result after ran => (kept result after ran).1⟩
  active := Accounted.isActive_iff
  acquired {world registry} known owned := by
    refine ⟨_, _, ?_, known.grants registry⟩
    rw [unbounded_acquire, World.acquire, if_pos ((known.isActive_iff registry).mpr owned)]
    rfl
  refused {world registry} known ownerless := by
    rw [unbounded_acquire, World.acquire, if_neg ((known.isActive_iff registry).not.mpr ownerless)]
  shared {world owner} known member := by
    refine ⟨_, _, ?_, known.grants owner.registry⟩
    rw [unbounded_request]
    change some (world.share owner) = _
    rw [World.share, if_pos ((known.held owner).mpr member)]
    rfl
  released world owner := ⟨world.release owner, by rw [unbounded_request]; rfl, rfl⟩
  builds described world := owns described world
  handed {world factory recipe} registry known := by
    have telling := congrFun (unbounded_request code (.tellRegistry factory registry)) world
    exact ⟨_, telling.trans (tellRegistry_recipe known registry), rfl, fun other => rfl⟩
  lent known found := by
    obtain ⟨after, lent, same⟩ := lendIdentity_books known found
    refine ⟨after, lent, outstanding_books same, fun other => ?_⟩
    rw [World.isActive_eq, World.isActive_eq, World.owners?_books same]
  ended known found ownerless := .of_inactive found ((known.isActive_iff _).not.mpr ownerless)
  dormant {world registry} dormant := by
    refine ⟨dormant.inactive, fun budget script => ?_⟩
    obtain ⟨same, kept⟩ := ((dormant_shareholding registry).watches code).run_watched dormant budget script
    exact ⟨same, fun result after ran => (kept result after ran).1⟩
  dropped {world factory recipe registry} dormant known housed := by
    refine ⟨fun bean ready => ?_, fun now still => ?_⟩
    · rw [unbounded_produce]
      exact produce_ready (by rw [World.ready?, known, Option.bind_some, ready])
    · have unused : ¬ now.isActive registry = true := by simp [still.inactive]
      constructor
      · rw [script_acquire housed, if_neg unused]
      · exact fun name => by rw [script_resolve housed, if_neg unused]

def Sample.switchOff : Script Sample.kits (Option RegistryId) := do
  match ← Script.request (.build Sample.lamps) with
  | .error _ => pure none
  | .ok owner => do
    Script.request (.release owner)
    pure (some owner.registry)

theorem Sample.lamps_go_out : Accounted Sample.lampShop ∧ ∃ after recipe,
    Sample.lampShop.run Sample.furnish 8 Sample.switchOff = some (some ⟨0⟩, after) ∧ Dormant ⟨0⟩ after ∧
      unbounded Sample.furnish (.request (.acquire ⟨0⟩)) after = some (none, after) ∧
      after.recipeFactory? ⟨0⟩ = some recipe ∧
      (unbounded Sample.furnish).script recipe.creation.acquire after =
        some (.error .registryDropped, after) := by
  have follows := handles_follow_owners Sample.furnish
  have unowned : Sample.lampShop.books = (World.initial () : World Sample.kits).books := rfl
  have shop := accounted_shareholding.aside unowned (Nat.le_refl _) (follows.initial ())
  have ends : (Sample.lampShop.run Sample.furnish 8 Sample.switchOff).any (fun answer =>
      answer.1 = some ⟨0⟩ ∧ outstanding answer.2.journal = [] ∧ (answer.2.registryCell? ⟨0⟩).isSome ∧
        (answer.2.recipeFactory? ⟨0⟩).any (·.registry = some ⟨0⟩)) = true := by decide +kernel
  obtain ⟨⟨answer, after⟩, ran, checks⟩ := (Option.any_eq_true _ _).mp ends
  obtain ⟨rfl, returned, founded, housed⟩ := of_decide_eq_true checks
  obtain ⟨cell, found⟩ := Option.isSome_iff_exists.mp founded
  obtain ⟨recipe, known, home⟩ := (Option.any_eq_true _ _).mp housed
  have accounted := (follows.accounted shop 8 Sample.switchOff).2 _ after ran
  have ownerless : ¬ after.HasOwner ⟨0⟩ := by simp [World.HasOwner, returned]
  have dormant := follows.ended accounted found ownerless
  have dropped := (follows.dropped dormant known (of_decide_eq_true home)).2 after dormant
  exact ⟨shop, after, recipe, ran, dormant, follows.refused accounted ownerless, known, dropped.1⟩

end BeanRegistry
