import Mathlib.Data.Set.Insert
import Mathlib.Logic.Relation
import BeanRegistry.Factory.Basic
import BeanRegistry.Proofs.Registry.References

set_option autoImplicit false

namespace BeanRegistry

open Relation

-- Factories with the names they ask for and the factories they leave their beans to.
structure Family where
  members : List FactoryId
  scope : FactoryId → Scope
  needs : FactoryId → List String
  nested : FactoryId → Option FactoryId

namespace Family

variable (family : Family) (registry : Registry)

inductive Leads (factory other : FactoryId) : Prop where
  | name {name : String} (among : name ∈ family.needs factory) (found : registry.factory? name = some other)
  | nested (inside : family.nested factory = some other)

inductive Grounded : FactoryId → Prop where
  | intro {factory : FactoryId} (known : ∀ name ∈ family.needs factory, (registry.factory? name).isSome)
      (below : ∀ other, family.Leads registry factory other → Grounded other) : Grounded factory

def Clear (name : String) : Prop :=
  ∃ factory, registry.factory? name = some factory ∧ family.Grounded registry factory

inductive Nests (outermost : FactoryId) : Nat → FactoryId → Prop where
  | here : Nests outermost 0 outermost
  | deeper {depth : Nat} {factory inner : FactoryId} (nests : Nests outermost depth factory)
      (inside : family.nested factory = some inner) : Nests outermost (depth + 1) inner

def NestsBelow (depth : Nat) (factory : FactoryId) : Prop :=
  ∃ outermost innermost, ReflTransGen (family.Leads registry) factory outermost ∧
    family.Nests outermost depth innermost

structure Closed : Prop where
  registered : ∀ {factory}, factory ∈ registry.factories → factory ∈ family.members
  nested : ∀ {factory inner}, factory ∈ family.members → family.nested factory = some inner →
    inner ∈ family.members

variable {family registry} {factory : FactoryId}

theorem Grounded.of_clear (clear : ∀ name ∈ family.needs factory, family.Clear registry name)
    (inside : ∀ inner, family.nested factory = some inner → family.Grounded registry inner) :
    family.Grounded registry factory := by
  refine .intro (fun name among => ?_) fun other leads => ?_
  · obtain ⟨other, found, _⟩ := clear name among
    simp [found]
  · cases leads with
    | name among found =>
      obtain ⟨known, same, grounded⟩ := clear _ among
      rw [found] at same
      exact Option.some.inj same ▸ grounded
    | nested inside_it => exact inside other inside_it

theorem Grounded.next (grounded : family.Grounded registry factory) {other : FactoryId}
    (leads : family.Leads registry factory other) : family.Grounded registry other := by
  cases grounded with
  | intro _ below => exact below other leads

theorem Grounded.clear (grounded : family.Grounded registry factory) {name : String}
    (among : name ∈ family.needs factory) : family.Clear registry name := by
  cases grounded with
  | intro known below =>
    obtain ⟨other, found⟩ := Option.isSome_iff_exists.mp (known name among)
    exact ⟨other, found, below other (.name among found)⟩

theorem Grounded.acyclic (grounded : family.Grounded registry factory) :
    ¬ TransGen (family.Leads registry) factory factory := by
  induction grounded with
  | intro _ _ ih =>
    intro returns
    obtain ⟨other, leads, back⟩ := TransGen.head'_iff.mp returns
    exact ih other leads (.tail' back leads)

theorem Nests.shallower {outermost : FactoryId} {depth least : Nat}
    (nests : family.Nests outermost depth factory) (deep : least ≤ depth) :
    ∃ inner, family.Nests outermost least inner := by
  induction nests with
  | here =>
    obtain rfl : least = 0 := Nat.le_zero.mp deep
    exact ⟨_, .here⟩
  | @deeper depth factory inner nests inside ih =>
    by_cases same : least = depth + 1
    · exact same ▸ ⟨inner, nests.deeper inside⟩
    · exact ih (by omega)

theorem Nests.reaches {outermost : FactoryId} {depth : Nat} (nests : family.Nests outermost depth factory) :
    ReflTransGen (family.Leads registry) outermost factory := by
  induction nests with
  | here => exact .refl
  | deeper _ inside ih => exact ih.tail (.nested inside)

theorem Closed.leads (closed : family.Closed registry) {other : FactoryId} (member : factory ∈ family.members)
    (leads : family.Leads registry factory other) : other ∈ family.members := by
  cases leads with
  | name _ found => exact closed.registered (Registry.mem_factories found)
  | nested inside => exact closed.nested member inside

structure Visits (family : Family) (registry : Registry) (root : FactoryId) (guards : Guards)
    (factory : FactoryId) : Prop where
  member : factory ∈ family.members
  above : ∀ running ∈ guards.producing, running ∈ family.members →
    TransGen (family.Leads registry) running factory
  nests : ∃ outermost, ReflTransGen (family.Leads registry) root outermost ∧
    family.Nests outermost guards.depth factory

namespace Visits

variable {root : FactoryId} {guards : Guards} (visits : family.Visits registry root guards factory)

include visits

theorem reaches : ReflTransGen (family.Leads registry) root factory := by
  obtain ⟨outermost, reaches, nests⟩ := visits.nests
  exact reaches.trans nests.reaches

theorem apart (grounded : family.Grounded registry factory) : factory ∉ guards.producing :=
  fun running => grounded.acyclic (visits.above factory running visits.member)

theorem deep (full : registry.nestingBound ≤ guards.depth) :
    family.NestsBelow registry registry.nestingBound root := by
  obtain ⟨outermost, reaches, nests⟩ := visits.nests
  obtain ⟨inner, shallower⟩ := nests.shallower full
  exact ⟨outermost, inner, reaches, shallower⟩

theorem above_next {other : FactoryId} (leads : family.Leads registry factory other) :
    ∀ running ∈ factory :: guards.producing, running ∈ family.members →
      TransGen (family.Leads registry) running other := by
  intro running among member
  rcases List.mem_cons.mp among with rfl | among
  · exact .single leads
  · exact (visits.above running among member).tail leads

theorem named (closed : family.Closed registry) {name : String} {other : FactoryId}
    (among : name ∈ family.needs factory) (found : registry.factory? name = some other) :
    family.Visits registry root ⟨factory :: guards.producing, none⟩ other where
  member := closed.leads visits.member (.name among found)
  above := visits.above_next (.name among found)
  nests := ⟨other, visits.reaches.tail (.name among found), .here⟩

theorem unwrapped (closed : family.Closed registry) {inner : FactoryId}
    (inside : family.nested factory = some inner) :
    family.Visits registry root ⟨factory :: guards.producing, some (guards.depth + 1)⟩ inner where
  member := closed.nested visits.member inside
  above := visits.above_next (.nested inside)
  nests := by
    obtain ⟨outermost, reaches, nests⟩ := visits.nests
    exact ⟨outermost, reaches, nests.deeper inside⟩

end Visits

def Covers (family : Family) (registry : Registry) (stock : Set FactoryId) (factory : FactoryId) : Prop :=
  ∀ other, ReflTransGen (family.Leads registry) factory other → family.scope other = .singleton →
    other ∈ stock

def Sound (family : Family) (registry : Registry) (stock : Set FactoryId) : Prop :=
  ∀ factory ∈ stock, family.Grounded registry factory ∧ family.Covers registry stock factory

def stored (family : Family) (factory : FactoryId) (stock : Set FactoryId) : Set FactoryId :=
  {other | other ∈ stock ∨ other = factory ∧ family.scope factory = .singleton}

inductive Makes (family : Family) (registry : Registry) :
    Set FactoryId → List String → Option (FactoryId × Nat) → Set FactoryId → Prop where
  | nothing {stock : Set FactoryId} : Makes family registry stock [] none stock
  | ready {stock : Set FactoryId} {factory : FactoryId} {depth : Nat} (ready : factory ∈ stock) :
      Makes family registry stock [] (some (factory, depth)) stock
  | new {stock after : Set FactoryId} {factory : FactoryId} {depth : Nat} (missing : factory ∉ stock)
      (shallow : depth < registry.nestingBound)
      (makes : Makes family registry stock (family.needs factory)
        ((family.nested factory).map fun inner => (inner, depth + 1)) after) :
      Makes family registry stock [] (some (factory, depth)) (family.stored factory after)
  | name {stock middle after : Set FactoryId} {name : String} {names : List String} {factory : FactoryId}
      {last : Option (FactoryId × Nat)} (found : registry.factory? name = some factory)
      (makes : Makes family registry stock [] (some (factory, 0)) middle)
      (rest : Makes family registry middle names last after) :
      Makes family registry stock (name :: names) last after

section Making

variable {stock middle after larger : Set FactoryId} {names : List String} {last : Option (FactoryId × Nat)}

theorem Makes.unique {other : Set FactoryId} (makes : family.Makes registry stock names last after)
    (again : family.Makes registry stock names last other) : other = after := by
  induction makes generalizing other with
  | nothing =>
    cases again
    rfl
  | ready ready =>
    cases again with
    | ready => rfl
    | new missing => exact absurd ready missing
  | new missing _ _ ih =>
    cases again with
    | ready ready => exact absurd ready missing
    | new _ _ again => rw [ih again]
  | name found _ _ first rest =>
    cases again with
    | name same makes others =>
      obtain rfl := Option.some.inj (found.symm.trans same)
      obtain rfl := first makes
      exact rest others

theorem makes_split {factory : FactoryId} {depth : Nat} :
    family.Makes registry stock names (some (factory, depth)) after ↔
      ∃ middle, family.Makes registry stock names none middle ∧
        family.Makes registry middle [] (some (factory, depth)) after := by
  constructor
  · induction names generalizing stock with
    | nil => exact fun makes => ⟨stock, .nothing, makes⟩
    | cons name rest ih =>
      intro makes
      cases makes with
      | name found makes others =>
        obtain ⟨middle, gathered, made⟩ := ih others
        exact ⟨middle, .name found makes gathered, made⟩
  · rintro ⟨middle, gathered, made⟩
    induction names generalizing stock with
    | nil =>
      cases gathered
      exact made
    | cons name rest ih =>
      cases gathered with
      | name found makes others => exact .name found makes (ih others)

theorem subset_stored (family : Family) (factory : FactoryId) (stock : Set FactoryId) :
    stock ⊆ family.stored factory stock :=
  fun _ member => .inl member

theorem Makes.grows (makes : family.Makes registry stock names last after) : stock ⊆ after := by
  induction makes with
  | nothing => exact subset_rfl
  | ready _ => exact subset_rfl
  | new _ _ _ ih => exact ih.trans (subset_stored family _ _)
  | name _ _ _ first rest => exact first.trans rest

theorem Covers.grows (covers : family.Covers registry stock factory) (more : stock ⊆ larger) :
    family.Covers registry larger factory :=
  fun other reaches single => more (covers other reaches single)

theorem Covers.next (covers : family.Covers registry stock factory) {other : FactoryId}
    (leads : family.Leads registry factory other) : family.Covers registry stock other :=
  fun last reaches single => covers last (.head leads reaches) single

structure Made (family : Family) (registry : Registry) (names : List String) (last : Option (FactoryId × Nat))
    (stock : Set FactoryId) : Prop where
  sound : family.Sound registry stock
  names : ∀ name ∈ names, ∃ factory, registry.factory? name = some factory ∧
    family.Grounded registry factory ∧ family.Covers registry stock factory
  last : ∀ factory depth, last = some (factory, depth) →
    family.Grounded registry factory ∧ family.Covers registry stock factory

theorem Made.next {depth : Nat} (made : family.Made registry (family.needs factory)
    ((family.nested factory).map fun inner => (inner, depth)) stock) {other : FactoryId}
    (leads : family.Leads registry factory other) :
    family.Grounded registry other ∧ family.Covers registry stock other := by
  cases leads with
  | name among found =>
    obtain ⟨known, same, grounded, covers⟩ := made.names _ among
    obtain rfl := Option.some.inj (found.symm.trans same)
    exact ⟨grounded, covers⟩
  | nested inside => exact made.last other depth (by simp [inside])

theorem Made.stored {depth : Nat} (made : family.Made registry (family.needs factory)
    ((family.nested factory).map fun inner => (inner, depth)) stock) :
    family.Grounded registry factory ∧ family.Covers registry (family.stored factory stock) factory := by
  constructor
  · refine .intro (fun name among => ?_) fun other leads => (made.next leads).1
    obtain ⟨other, found, _⟩ := made.names name among
    simp [found]
  · intro other reaches single
    rcases ReflTransGen.cases_head reaches with rfl | ⟨next, leads, rest⟩
    · exact .inr ⟨rfl, single⟩
    · exact .inl ((made.next leads).2 other rest single)

theorem Makes.made (makes : family.Makes registry stock names last after)
    (sound : family.Sound registry stock) : family.Made registry names last after := by
  induction makes with
  | nothing => exact ⟨sound, by simp, by simp⟩
  | ready ready =>
    refine ⟨sound, by simp, fun other depth same => ?_⟩
    cases same
    exact sound _ ready
  | @new stock after factory depth missing shallow makes ih =>
    have made := ih sound
    have own := made.stored
    refine ⟨fun other among => ?_, by simp, fun other depth same => ?_⟩
    · rcases among with among | ⟨rfl, _⟩
      · exact (made.sound other among).imp_right fun covers => covers.grows (subset_stored family _ _)
      · exact own
    · cases same
      exact own
  | name found makes rest first others =>
    have made := others (first sound).sound
    refine ⟨made.sound, List.forall_mem_cons.mpr ⟨?_, made.names⟩, made.last⟩
    obtain ⟨grounded, covers⟩ := (first sound).last _ _ rfl
    exact ⟨_, found, grounded, covers.grows rest.grows⟩

theorem Makes.within (makes : family.Makes registry stock names last after) (more : stock ⊆ larger)
    (named : ∀ name ∈ names, ∀ factory, registry.factory? name = some factory →
      family.Covers registry larger factory)
    (ending : ∀ factory depth, last = some (factory, depth) → family.Covers registry larger factory) :
    after ⊆ larger := by
  induction makes generalizing larger with
  | nothing => exact more
  | ready _ => exact more
  | @new stock after factory depth _ _ _ ih =>
    have covers := ending factory depth rfl
    have inner : after ⊆ larger := by
      refine ih more (fun name among other found => covers.next (.name among found))
        fun other deeper same => ?_
      obtain ⟨inner, inside, pair⟩ := Option.map_eq_some_iff.mp same
      cases pair
      exact covers.next (.nested inside)
    rintro other (among | ⟨rfl, single⟩)
    · exact inner among
    · exact covers other .refl single
  | @name _ _ _ name _ factory _ found _ _ first rest =>
    rw [List.forall_mem_cons] at named
    refine rest (first more (by simp) fun other depth same => ?_) named.2 ending
    cases same
    exact named.1 factory found

theorem Makes.monotone (makes : family.Makes registry stock names last after) (more : stock ⊆ larger)
    (sound : family.Sound registry larger) :
    ∃ most, family.Makes registry larger names last most ∧ after ⊆ most := by
  induction makes generalizing larger with
  | nothing => exact ⟨larger, .nothing, more⟩
  | ready ready => exact ⟨larger, .ready (more ready), more⟩
  | @new stock after factory depth missing shallow makes ih =>
    by_cases among : factory ∈ larger
    · refine ⟨larger, .ready among, (Makes.new missing shallow makes).within more (by simp)
        fun other depth same => ?_⟩
      cases same
      exact (sound factory among).2
    · obtain ⟨most, made, fewer⟩ := ih more sound
      refine ⟨_, .new among shallow made, ?_⟩
      rintro other (member | own)
      · exact .inl (fewer member)
      · exact .inr own
  | name found _ _ first rest =>
    obtain ⟨middle, made, fewer⟩ := first more sound
    obtain ⟨most, makes, fewest⟩ := rest fewer (made.made sound).sound
    exact ⟨most, .name found made makes, fewest⟩

end Making

end Family

end BeanRegistry
