import Mathlib.Logic.Relation
import BeanRegistry.Registry.Table

set_option autoImplicit false

namespace BeanRegistry

open Relation

inductive Obstacle where
  | unknown (name : String)
  | circle (factory : FactoryId)
  deriving DecidableEq, Repr

namespace Registry

variable (registry : Registry) (needs : FactoryId → List String)

def factories : List FactoryId :=
  registry.table.map Prod.snd

variable {registry} in
theorem mem_factories {name : String} {factory : FactoryId}
    (found : registry.factory? name = some factory) : factory ∈ registry.factories := by
  obtain ⟨before, after, split, _⟩ := List.lookup_eq_some_iff.mp found
  simp [factories, split]

def unvisited (path : List FactoryId) : Nat :=
  registry.factories.countP fun factory => decide (factory ∉ path)

theorem unvisited_lt {path : List FactoryId} {factory : FactoryId}
    (known : factory ∈ registry.factories) (new : factory ∉ path) :
    registry.unvisited (factory :: path) < registry.unvisited path := by
  unfold unvisited
  generalize registry.factories = factories at known
  have fewer (rest : List FactoryId) :
      rest.countP (fun visited => decide (visited ∉ factory :: path)) ≤
        rest.countP fun visited => decide (visited ∉ path) := by
    refine List.countP_mono_left fun visited _ away => ?_
    simp only [List.mem_cons, not_or, decide_eq_true_eq] at away ⊢
    exact away.2
  obtain ⟨before, after, rfl⟩ := List.append_of_mem known
  have counted : (decide (factory ∉ factory :: path)) = false ∧ (decide (factory ∉ path)) = true := by
    simp [new]
  rw [List.countP_append, List.countP_append, List.countP_cons, List.countP_cons, counted.1, counted.2]
  have first := fewer before
  have last := fewer after
  simp only [Bool.false_eq_true, if_false, if_true]
  omega

-- The beans on the path are being asked already, the innermost first.
def firstObstacle (path : List FactoryId) : List String → Option Obstacle
  | [] => none
  | name :: rest =>
    match _found : registry.factory? name with
    | none => some (.unknown name)
    | some factory =>
      if factory ∈ path then some (.circle factory)
      else
        match firstObstacle (factory :: path) (needs factory) with
        | some obstacle => some obstacle
        | none => firstObstacle path rest
termination_by names => (registry.unvisited path, names.length)
decreasing_by
  · exact Prod.Lex.left _ _ (registry.unvisited_lt (mem_factories ‹_›) ‹_›)
  · exact Prod.Lex.right _ (Nat.lt_succ_self _)

section

variable {registry} {path : List FactoryId} {name : String} {rest : List String} {factory : FactoryId}

theorem firstObstacle_unknown (missing : registry.factory? name = none) :
    registry.firstObstacle needs path (name :: rest) = some (.unknown name) := by
  rw [firstObstacle]
  split
  next => rfl
  next _ found => simp [missing] at found

theorem firstObstacle_circle (found : registry.factory? name = some factory)
    (asked : factory ∈ path) :
    registry.firstObstacle needs path (name :: rest) = some (.circle factory) := by
  rw [firstObstacle]
  split
  next missing => simp [found] at missing
  next same =>
    rw [found] at same
    cases same
    rw [if_pos asked]

theorem firstObstacle_new (found : registry.factory? name = some factory) (new : factory ∉ path) :
    registry.firstObstacle needs path (name :: rest) =
      (registry.firstObstacle needs (factory :: path) (needs factory)).or
        (registry.firstObstacle needs path rest) := by
  rw [firstObstacle]
  split
  next missing => simp [found] at missing
  next same =>
    rw [found] at same
    cases same
    rw [if_neg new]
    cases registry.firstObstacle needs (factory :: path) (needs factory) <;> rfl

theorem firstObstacle_cons :
    registry.firstObstacle needs path (name :: rest) =
      (registry.firstObstacle needs path [name]).or (registry.firstObstacle needs path rest) := by
  have last : registry.firstObstacle needs path [] = none := by rw [firstObstacle]
  cases found : registry.factory? name with
  | none =>
    rw [firstObstacle_unknown needs found, firstObstacle_unknown needs found, Option.some_or]
  | some factory =>
    by_cases asked : factory ∈ path
    · rw [firstObstacle_circle needs found asked, firstObstacle_circle needs found asked, Option.some_or]
    · rw [firstObstacle_new needs found asked, firstObstacle_new needs found asked, last, Option.or_none]

end

def Needs (factory other : FactoryId) : Prop :=
  ∃ name ∈ needs factory, registry.factory? name = some other

def Resolvable (name : String) : Prop :=
  ∃ factory, registry.factory? name = some factory ∧
    ∀ other, ReflTransGen (registry.Needs needs) factory other →
      (∀ needed ∈ needs other, (registry.factory? needed).isSome) ∧
        ¬ TransGen (registry.Needs needs) other other

inductive Grounded : FactoryId → Prop where
  | intro {factory : FactoryId} (known : ∀ name ∈ needs factory, (registry.factory? name).isSome)
      (below : ∀ other, registry.Needs needs factory other → Grounded other) : Grounded factory

variable {registry needs}

theorem reached_mem {factory other : FactoryId} (member : factory ∈ registry.factories)
    (reached : ReflTransGen (registry.Needs needs) factory other) : other ∈ registry.factories := by
  rcases ReflTransGen.cases_tail reached with rfl | ⟨_, _, _, _, leading⟩
  · exact member
  · exact mem_factories leading

theorem Grounded.reached {factory other : FactoryId} (grounded : registry.Grounded needs factory)
    (reached : ReflTransGen (registry.Needs needs) factory other) :
    registry.Grounded needs other := by
  induction reached with
  | refl => exact grounded
  | tail _ needed ih =>
    cases ih with
    | intro _ below => exact below _ needed

theorem Grounded.acyclic {factory : FactoryId} (grounded : registry.Grounded needs factory) :
    ¬ TransGen (registry.Needs needs) factory factory := by
  induction grounded with
  | intro _ _ ih =>
    intro circle
    obtain ⟨other, needed, back⟩ := TransGen.head'_iff.mp circle
    exact ih other needed (TransGen.tail' back needed)

def LeadTo (registry : Registry) (needs : FactoryId → List String) (path : List FactoryId)
    (names : List String) : Prop :=
  ∀ asked ∈ path, ∀ name ∈ names, ∀ {factory}, registry.factory? name = some factory →
    TransGen (registry.Needs needs) asked factory

theorem LeadTo.first {path : List FactoryId} {name : String} {rest : List String}
    (leads : LeadTo registry needs path (name :: rest)) : LeadTo registry needs path [name] := by
  intro asked member needed among factory found
  obtain rfl := List.mem_singleton.mp among
  exact leads asked member needed List.mem_cons_self found

theorem LeadTo.rest {path : List FactoryId} {name : String} {rest : List String}
    (leads : LeadTo registry needs path (name :: rest)) : LeadTo registry needs path rest :=
  fun asked member needed among => leads asked member needed (List.mem_cons_of_mem name among)

theorem LeadTo.below {path : List FactoryId} {name : String} {rest : List String} {factory : FactoryId}
    (leads : LeadTo registry needs path (name :: rest)) (found : registry.factory? name = some factory) :
    LeadTo registry needs (factory :: path) (needs factory) := by
  intro asked member needed among other leading
  have last : registry.Needs needs factory other := ⟨needed, among, leading⟩
  rcases List.mem_cons.mp member with rfl | member
  · exact .single last
  · exact .tail (leads asked member name List.mem_cons_self found) last

theorem firstObstacle_of_grounded {path : List FactoryId} {names : List String}
    (grounded : ∀ name ∈ names, ∃ factory, registry.factory? name = some factory ∧
      registry.Grounded needs factory)
    (leads : LeadTo registry needs path names) : registry.firstObstacle needs path names = none := by
  induction path, names using firstObstacle.induct registry needs with
  | case1 path => rw [firstObstacle]
  | case2 path name rest missing =>
    obtain ⟨factory, found, _⟩ := grounded name List.mem_cons_self
    simp [missing] at found
  | case3 path name rest factory found asked =>
    obtain ⟨same, known, ground⟩ := grounded name List.mem_cons_self
    rw [found] at known
    cases known
    exact absurd (leads factory asked name List.mem_cons_self found) ground.acyclic
  | case4 path name rest factory found new obstacle met ih =>
    obtain ⟨same, known, ground⟩ := grounded name List.mem_cons_self
    rw [found] at known
    cases known
    cases ground with
    | intro known below =>
      have clear := ih ?_ (leads.below found)
      · simp [clear] at met
      · intro needed among
        obtain ⟨other, leading⟩ := Option.isSome_iff_exists.mp (known needed among)
        exact ⟨other, leading, below other ⟨needed, among, leading⟩⟩
  | case5 path name rest factory found new clear ih rest_ih =>
    rw [firstObstacle_new needs found new, clear, Option.none_or]
    exact rest_ih (fun needed among => grounded needed (List.mem_cons_of_mem name among)) leads.rest

theorem grounded_of_firstObstacle {path : List FactoryId} {names : List String}
    (clear : registry.firstObstacle needs path names = none) :
    ∀ name ∈ names, ∃ factory, registry.factory? name = some factory ∧
      registry.Grounded needs factory := by
  induction path, names using firstObstacle.induct registry needs with
  | case1 path => nofun
  | case2 path name rest missing =>
    rw [firstObstacle_unknown needs missing] at clear
    cases clear
  | case3 path name rest factory found asked =>
    rw [firstObstacle_circle needs found asked] at clear
    cases clear
  | case4 path name rest factory found new obstacle met ih =>
    rw [firstObstacle_new needs found new, met] at clear
    cases clear
  | case5 path name rest factory found new below ih rest_ih =>
    rw [firstObstacle_new needs found new, below, Option.none_or] at clear
    intro needed among
    rcases List.mem_cons.mp among with rfl | among
    · have grounded := ih below
      refine ⟨factory, found, .intro (fun name member => ?_) fun other needed => ?_⟩
      · obtain ⟨other, leading, _⟩ := grounded name member
        simp [leading]
      · obtain ⟨name, member, leading⟩ := needed
        obtain ⟨same, known, ground⟩ := grounded name member
        rw [leading] at known
        cases known
        exact ground
    · exact rest_ih clear needed among

def Obstructs (registry : Registry) (needs : FactoryId → List String) (name : String) :
    Obstacle → Prop
  | .unknown missing => registry.factory? missing = none ∧
      (missing = name ∨ ∃ factory other, registry.factory? name = some factory ∧
        ReflTransGen (registry.Needs needs) factory other ∧ missing ∈ needs other)
  | .circle circular => ∃ factory, registry.factory? name = some factory ∧
      ReflTransGen (registry.Needs needs) factory circular ∧
        TransGen (registry.Needs needs) circular circular

theorem Obstructs.above {name needed : String} {factory : FactoryId} {obstacle : Obstacle}
    (found : registry.factory? name = some factory) (among : needed ∈ needs factory)
    (obstructs : Obstructs registry needs needed obstacle) :
    Obstructs registry needs name obstacle := by
  cases obstacle with
  | unknown missing =>
    obtain ⟨absent, rfl | ⟨other, last, leading, reached, member⟩⟩ := obstructs
    · exact ⟨absent, .inr ⟨factory, factory, found, .refl, among⟩⟩
    · exact ⟨absent, .inr ⟨factory, last, found, .head ⟨needed, among, leading⟩ reached, member⟩⟩
  | circle circular =>
    obtain ⟨other, leading, reached, circle⟩ := obstructs
    exact ⟨factory, found, .head ⟨needed, among, leading⟩ reached, circle⟩

theorem firstObstacle_obstructs {path : List FactoryId} {names : List String} {obstacle : Obstacle}
    (met : registry.firstObstacle needs path names = some obstacle)
    (leads : LeadTo registry needs path names) :
    ∃ name ∈ names, Obstructs registry needs name obstacle := by
  induction path, names using firstObstacle.induct registry needs with
  | case1 path => simp [firstObstacle] at met
  | case2 path name rest missing =>
    rw [firstObstacle_unknown needs missing] at met
    cases met
    exact ⟨name, List.mem_cons_self, missing, .inl rfl⟩
  | case3 path name rest factory found asked =>
    rw [firstObstacle_circle needs found asked] at met
    cases met
    exact ⟨name, List.mem_cons_self, factory, found, .refl,
      leads factory asked name List.mem_cons_self found⟩
  | case4 path name rest factory found new first below ih =>
    rw [firstObstacle_new needs found new, below] at met
    cases met
    obtain ⟨needed, among, obstructs⟩ := ih below (leads.below found)
    exact ⟨name, List.mem_cons_self, obstructs.above found among⟩
  | case5 path name rest factory found new clear ih rest_ih =>
    rw [firstObstacle_new needs found new, clear, Option.none_or] at met
    obtain ⟨needed, among, obstructs⟩ := rest_ih met leads.rest
    exact ⟨needed, List.mem_cons_of_mem name among, obstructs⟩

theorem firstObstacle_eq_none_iff (name : String) :
    registry.firstObstacle needs [] [name] = none ↔ registry.Resolvable needs name := by
  constructor
  · intro clear
    obtain ⟨factory, found, grounded⟩ := grounded_of_firstObstacle clear name List.mem_cons_self
    refine ⟨factory, found, fun other reached => ?_⟩
    have ground := grounded.reached reached
    refine ⟨?_, ground.acyclic⟩
    cases ground with
    | intro known _ => exact known
  · rintro ⟨factory, found, sound⟩
    cases met : registry.firstObstacle needs [] [name] with
    | none => rfl
    | some obstacle =>
      obtain ⟨same, member, obstructs⟩ := firstObstacle_obstructs met nofun
      obtain rfl := List.mem_singleton.mp member
      cases obstacle with
      | unknown missing =>
        obtain ⟨absent, rfl | ⟨first, last, leading, reached, among⟩⟩ := obstructs
        · simp [absent] at found
        · rw [found] at leading
          cases leading
          have known := (sound last reached).1 missing among
          simp [absent] at known
      | circle circular =>
        obtain ⟨first, leading, reached, circle⟩ := obstructs
        rw [found] at leading
        cases leading
        exact absurd circle (sound circular reached).2

end Registry
end BeanRegistry
