import Mathlib.Data.List.Induction
import Mathlib.Data.List.Nodup
import BeanRegistry.Config.Settings
import BeanRegistry.Proofs.Registry.Founding
import BeanRegistry.Proofs.Sample

set_option autoImplicit false

namespace BeanRegistry

variable {app : Application} {code : Code app}

inductive Declarations.Collected (code : Code app) : Declarations → Prop where
  | empty : Collected code .empty
  | register {declarations extended : Declarations} {name : String} {factory : FactoryId}
      {world after : World app} (collected : Collected code declarations)
      (registered : unbounded code (.request (.register declarations name factory)) world =
        some (.ok extended, after)) : Collected code extended
  | alias {declarations : Declarations} (collected : Collected code declarations) (name bean : String) :
      Collected code (declarations.withAlias name bean)
  | aliases {declarations extended : Declarations} {text : String}
      (collected : Collected code declarations) (read : declarations.withAliases text = .ok extended) :
      Collected code extended
  | eager {declarations : Declarations} (collected : Collected code declarations) (name : String) :
      Collected code (declarations.withEager name)
  | eagerBeans {declarations : Declarations} (collected : Collected code declarations) (text : String) :
      Collected code (declarations.withEagerBeans text)
  | nestingBound {declarations : Declarations} (collected : Collected code declarations) (bound : Nat) :
      Collected code (declarations.withNestingBound bound)
  | settings {declarations extended : Declarations} {settings : Settings}
      (collected : Collected code declarations)
      (applied : declarations.withSettings settings = .ok extended) : Collected code extended

def Declarations.names (declarations : Declarations) : List String :=
  declarations.beans.map Prod.fst

namespace Alias

structure FitsAfter (names : List String) (earlier : List Alias) (declared : Alias) : Prop where
  sides : declared.name ≠ "" ∧ declared.bean ≠ ""
  free : declared.name ∉ names ∧ declared.name ∉ earlier.map Alias.name
  known : declared.bean ∈ names ∨ declared.bean ∈ earlier.map Alias.name

def Fitting (names : List String) (aliases : List Alias) : Prop :=
  ∀ before declared after, aliases = before ++ declared :: after → declared.FitsAfter names before

-- A missing side goes before a name that is taken.
def fault (names : List String) (earlier : List Alias) (declared : Alias) : Misconfiguration :=
  if declared.name = "" ∨ declared.bean = "" then
    .aliasEmptySide (declared.name ++ "=" ++ declared.bean)
  else if declared.name ∈ names ∨ declared.name ∈ earlier.map Alias.name then
    .aliasShadows declared.name
  else .aliasUnknownBean declared.name declared.bean

def FirstFault (names : List String) (aliases : List Alias) (fault : Misconfiguration) : Prop :=
  ∃ before declared after, aliases = before ++ declared :: after ∧ Fitting names before ∧
    ¬ declared.FitsAfter names before ∧ fault = declared.fault names before

-- The newest alias is given first.
def follow : List Alias → String → String
  | [], name => name
  | newest :: earlier, name => follow earlier (if newest.name = name then newest.bean else name)

variable {names : List String} {aliases : List Alias} {declared : Alias}

theorem fitting_concat : Fitting names (aliases ++ [declared]) ↔
    Fitting names aliases ∧ declared.FitsAfter names aliases := by
  constructor
  · intro fitting
    refine ⟨fun before other after split => ?_, fitting aliases declared [] rfl⟩
    exact fitting before other (after ++ [declared]) (by simp [split])
  · rintro ⟨fitting, fits⟩ before other after split
    rcases List.eq_nil_or_concat after with rfl | ⟨rest, last, rfl⟩
    · obtain ⟨rfl, same⟩ := List.append_inj' split rfl
      obtain rfl : declared = other := by simpa using same
      exact fits
    · rw [List.concat_eq_append, ← List.cons_append, ← List.append_assoc] at split
      obtain ⟨rfl, _⟩ := List.append_inj' split rfl
      exact fitting before other rest rfl

theorem Fitting.apart (fitting : Fitting names aliases) {name : String} (primary : name ∈ names) :
    name ∉ aliases.map Alias.name := by
  intro member
  obtain ⟨declared, among, rfl⟩ := List.mem_map.mp member
  obtain ⟨before, after, split⟩ := List.append_of_mem among
  exact (fitting before declared after split).free.1 primary

theorem Fitting.nodup (fitting : Fitting names aliases) : (aliases.map Alias.name).Nodup := by
  induction aliases using List.reverseRecOn with
  | nil => simp
  | append_singleton earlier declared ih =>
    obtain ⟨fitting, fits⟩ := fitting_concat.mp fitting
    simpa [List.nodup_append] using ⟨ih fitting, by simpa using fits.free.2⟩

theorem follow_apart {name : String} (apart : name ∉ aliases.map Alias.name) :
    follow aliases name = name := by
  induction aliases with
  | nil => rfl
  | cons newest earlier ih =>
    rw [List.map_cons, List.mem_cons, not_or] at apart
    rw [follow, if_neg (Ne.symm apart.1), ih apart.2]

theorem Fitting.follow_primary (fitting : Fitting names aliases) {name : String} (primary : name ∈ names) :
    follow aliases.reverse name = name := by
  apply follow_apart
  simpa using fitting.apart primary

theorem Fitting.follow_mem (fitting : Fitting names aliases) {name : String}
    (known : name ∈ names ∨ name ∈ aliases.map Alias.name) : follow aliases.reverse name ∈ names := by
  induction aliases using List.reverseRecOn generalizing name with
  | nil => simpa [follow] using known
  | append_singleton earlier declared ih =>
    obtain ⟨fitting, fits⟩ := fitting_concat.mp fitting
    rw [List.reverse_append, List.reverse_singleton, List.singleton_append, follow]
    by_cases same : declared.name = name
    · rw [if_pos same]
      exact ih fitting fits.known
    · rw [if_neg same]
      apply ih fitting
      simpa [Ne.symm same] using known

def settle (aliases : List Alias) : List Alias :=
  aliases.map fun declared => { declared with bean := follow aliases.reverse declared.name }

theorem settle_names (aliases : List Alias) : (settle aliases).map Alias.name = aliases.map Alias.name := by
  simp [settle, Function.comp_def]

theorem settle_concat (fits : declared.FitsAfter names aliases) :
    settle (aliases ++ [declared]) =
      settle aliases ++ [{ declared with bean := follow aliases.reverse declared.bean }] := by
  have earlier (other : Alias) (member : other ∈ aliases) : declared.name ≠ other.name :=
    fun same => fits.free.2 (same ▸ List.mem_map_of_mem member)
  simp only [settle, List.map_append, List.map_cons, List.map_nil, List.reverse_append,
    List.reverse_singleton, List.singleton_append, follow, if_true]
  congr 1
  exact List.map_congr_left fun other member => by rw [if_neg (earlier other member)]

theorem settle_find? (aliases : List Alias) (name : String) :
    ((settle aliases).find? fun known => known.name == name).map Alias.bean =
      if name ∈ aliases.map Alias.name then some (follow aliases.reverse name) else none := by
  rw [settle, List.find?_map, Option.map_map]
  change (aliases.find? fun known => known.name == name).map
    (fun known => follow aliases.reverse known.name) = _
  cases found : aliases.find? fun known => known.name == name with
  | none =>
    have away : name ∉ aliases.map Alias.name := by simpa using found
    simp [away]
  | some known =>
    have named : known.name = name := by simpa using List.find?_some found
    have among := List.mem_map_of_mem (f := Alias.name) (List.mem_of_find?_eq_some found)
    rw [← named, if_pos among]
    rfl

section Resolving

variable {isBean : String → Bool} (primary : ∀ name, isBean name = true ↔ name ∈ names)

include primary

theorem aliasTarget_fits (fitting : Fitting names aliases) (fits : declared.FitsAfter names aliases) :
    aliasTarget isBean (settle aliases) declared = .ok (follow aliases.reverse declared.bean) := by
  have taken : isBean declared.name = false := by
    rw [Bool.eq_false_iff, ne_eq, primary]
    exact fits.free.1
  simp only [aliasTarget, settle_find?, String.isEmpty_iff, fits.sides.1, fits.sides.2, taken,
    if_neg fits.free.2, Bool.or_eq_true, or_self, Option.isSome_none, Bool.false_eq_true, if_false]
  by_cases bean : declared.bean ∈ names
  · rw [if_pos ((primary _).mpr bean), fitting.follow_primary bean]
  · have unlisted : ¬ isBean declared.bean = true := mt (primary _).mp bean
    rw [if_neg unlisted, if_pos (fits.known.resolve_left bean)]

theorem aliasTarget_fault (misfit : ¬ declared.FitsAfter names aliases) :
    aliasTarget isBean (settle aliases) declared = .error (declared.fault names aliases) := by
  simp only [aliasTarget, fault, settle_find?, String.isEmpty_iff, Bool.or_eq_true, primary]
  by_cases empty : declared.name = "" ∨ declared.bean = ""
  · rw [if_pos empty, if_pos empty]
  · rw [if_neg empty, if_neg empty]
    by_cases taken : declared.name ∈ names ∨ declared.name ∈ aliases.map Alias.name
    · rw [if_pos taken, if_pos]
      exact taken.imp_right fun member => by rw [if_pos member]; rfl
    · have unknown : ¬ (declared.bean ∈ names ∨ declared.bean ∈ aliases.map Alias.name) :=
        fun known => misfit ⟨not_or.mp empty, not_or.mp taken, known⟩
      rw [not_or] at taken unknown
      simp only [taken.1, taken.2, unknown.1, unknown.2, if_false, Option.isSome_none, Bool.false_eq_true,
        or_self]

theorem resolveAliases_append (fitting : Fitting names aliases) (rest : List Alias) :
    resolveAliases isBean [] (aliases ++ rest) = resolveAliases isBean (settle aliases) rest := by
  induction aliases using List.reverseRecOn generalizing rest with
  | nil => rfl
  | append_singleton earlier declared ih =>
    obtain ⟨fitting, fits⟩ := fitting_concat.mp fitting
    rw [List.append_assoc, List.singleton_append, ih fitting, resolveAliases,
      aliasTarget_fits primary fitting fits, settle_concat fits]

theorem resolveAliases_fitting (fitting : Fitting names aliases) :
    resolveAliases isBean [] aliases = .ok (settle aliases) := by
  have whole := resolveAliases_append primary fitting []
  rwa [List.append_nil] at whole

theorem resolveAliases_fault {fault : Misconfiguration} (first : FirstFault names aliases fault) :
    resolveAliases isBean [] aliases = .error fault := by
  obtain ⟨before, declared, after, rfl, fitting, misfit, rfl⟩ := first
  rw [resolveAliases_append primary fitting, resolveAliases, aliasTarget_fault primary misfit]

omit primary in
theorem fitting_or_fault (names : List String) (aliases : List Alias) :
    Fitting names aliases ∨ ∃ fault, FirstFault names aliases fault := by
  induction aliases using List.reverseRecOn with
  | nil => exact .inl (by simp [Fitting])
  | append_singleton earlier declared ih =>
    rcases ih with fitting | ⟨fault, before, misfit, after, rfl, first⟩
    · by_cases fits : declared.FitsAfter names earlier
      · exact .inl (fitting_concat.mpr ⟨fitting, fits⟩)
      · exact .inr ⟨_, earlier, declared, [], rfl, fitting, fits, rfl⟩
    · exact .inr ⟨fault, before, misfit, after ++ [declared], by simp, first⟩

theorem resolveAliases_eq_ok_iff {resolved : List Alias} :
    resolveAliases isBean [] aliases = .ok resolved ↔ Fitting names aliases ∧ resolved = settle aliases := by
  constructor
  · intro resolves
    rcases fitting_or_fault names aliases with fitting | ⟨fault, first⟩
    · rw [resolveAliases_fitting primary fitting] at resolves
      exact ⟨fitting, (Except.ok.inj resolves).symm⟩
    · simp [resolveAliases_fault primary first] at resolves
  · rintro ⟨fitting, rfl⟩
    exact resolveAliases_fitting primary fitting

theorem resolveAliases_eq_error_iff {fault : Misconfiguration} :
    resolveAliases isBean [] aliases = .error fault ↔ FirstFault names aliases fault := by
  constructor
  · intro fails
    rcases fitting_or_fault names aliases with fitting | ⟨other, first⟩
    · simp [resolveAliases_fitting primary fitting] at fails
    · rw [resolveAliases_fault primary first] at fails
      exact Except.error.inj fails ▸ first
  · exact resolveAliases_fault primary

end Resolving

end Alias

namespace Declarations

variable {declarations : Declarations}

theorem isBean_iff (declarations : Declarations) (name : String) :
    declarations.isBean name = true ↔ name ∈ declarations.names := by
  simp [isBean, names, List.lookup_isSome_iff]

theorem lookup_of_mem (once : declarations.names.Nodup) {name : String} {factory : FactoryId}
    (member : (name, factory) ∈ declarations.beans) : declarations.beans.lookup name = some factory := by
  obtain ⟨before, after, split⟩ := List.append_of_mem member
  refine List.lookup_eq_some_iff.mpr ⟨before, after, split, fun other among => ?_⟩
  simp only [names, split, List.map_append, List.map_cons, List.nodup_append] at once
  have apart := once.2.2 other.1 (List.mem_map_of_mem among) name List.mem_cons_self
  simpa using apart.symm

theorem lookup_of_not_mem {name : String} (unknown : name ∉ declarations.names) :
    declarations.beans.lookup name = none := by
  rwa [← isBean_iff, isBean, Bool.not_eq_true, Option.isSome_eq_false_iff, Option.isNone_iff_eq_none]
    at unknown

theorem register_ok {handle : Handler app} {extended : Declarations} {name : String} {factory : FactoryId}
    {world after : World app}
    (registered : register code handle declarations name factory world = some (.ok extended, after)) :
    declarations.admits name = .ok () ∧ extended = declarations.withBean name factory := by
  unfold register at registered
  cases admitted : declarations.admits name with
  | error fault =>
    rw [admitted] at registered
    cases registered
  | ok _ =>
    rw [admitted] at registered
    obtain ⟨_, _, _, registered⟩ := Eval.bind_eq_some_iff.mp registered
    cases registered
    exact ⟨rfl, rfl⟩

theorem withAliases_beans {extended : Declarations} {text : String}
    (read : declarations.withAliases text = .ok extended) : extended.beans = declarations.beans := by
  unfold withAliases at read
  split at read <;> cases read
  rfl

theorem Collected.nodup (collected : declarations.Collected code) : declarations.names.Nodup := by
  induction collected with
  | empty => simp [names, Declarations.empty]
  | @register declarations extended name factory _ _ _ registered ih =>
    rw [unbounded_request] at registered
    obtain ⟨admitted, rfl⟩ := register_ok registered
    have new : name ∉ declarations.names := by
      rw [← isBean_iff, isBean]
      intro known
      simp only [admits, known, if_true] at admitted
      split at admitted <;> cases admitted
    simpa [names, withBean, List.concat_eq_append] using ih.concat new
  | aliases _ read ih => rwa [names, withAliases_beans read]
  | settings _ applied ih =>
    unfold withSettings at applied
    split at applied <;> cases applied
    next read => rwa [names, withEagerBeans, withNestingBound, withAliases_beans read]
  | _ => assumption

end Declarations

section Tables

variable {table : List (String × FactoryId)} {order : List Alias} {names : List String}

theorem indexAlias_lookup {resolved : Alias} (known : (table.lookup resolved.bean).isSome) (name : String) :
    (indexAlias table resolved).lookup name =
      (table.lookup name).or (if resolved.name == name then table.lookup resolved.bean else none) := by
  obtain ⟨factory, found⟩ := Option.isSome_iff_exists.mp known
  simp only [indexAlias, found, List.lookup_append, List.lookup_cons, List.lookup_nil]
  by_cases same : resolved.name = name
  · simp [same]
  · have apart : (name == resolved.name) = false := by simpa using Ne.symm same
    simp [same, apart]

-- Whatever is entered, the first entry of a name counts.
theorem lookup_indexed (known : ∀ resolved ∈ order, (table.lookup resolved.bean).isSome) (name : String) :
    (order.foldl indexAlias table).lookup name =
      (table.lookup name).or
        (((order.find? fun resolved => resolved.name == name).map Alias.bean).bind fun bean =>
          table.lookup bean) := by
  induction order using List.reverseRecOn generalizing name with
  | nil => simp
  | append_singleton before last ih =>
    have known_before (resolved : Alias) (member : resolved ∈ before) :
        (table.lookup resolved.bean).isSome := known resolved (List.mem_append_left _ member)
    obtain ⟨factory, found⟩ := Option.isSome_iff_exists.mp (known last (by simp))
    have same : (before.foldl indexAlias table).lookup last.bean = table.lookup last.bean := by
      rw [ih known_before, found, Option.some_or]
    rw [List.foldl_concat, indexAlias_lookup (by simp [same, found]), ih known_before, same,
      List.find?_append, Option.or_assoc]
    cases entered : before.find? fun resolved => resolved.name == name with
    | none => by_cases own : last.name = name <;> simp [own]
    | some first =>
      have first_known := known_before first (List.mem_of_find?_eq_some entered)
      obtain ⟨target, leads⟩ := Option.isSome_iff_exists.mp first_known
      simp [leads]

theorem find?_name_perm {other : List Alias} (once : (order.map Alias.name).Nodup)
    (perm : other.Perm order) (name : String) :
    (other.find? fun resolved => resolved.name == name) =
      order.find? fun resolved => resolved.name == name := by
  have distinct : (other.map Alias.name).Nodup := (perm.map Alias.name).nodup_iff.mpr once
  cases found : other.find? fun resolved => resolved.name == name with
  | none =>
    refine (List.find?_eq_none.mpr fun resolved member => ?_).symm
    exact List.find?_eq_none.mp found resolved (perm.mem_iff.mpr member)
  | some resolved =>
    have among := perm.mem_iff.mp (List.mem_of_find?_eq_some found)
    have named : resolved.name = name := by simpa using List.find?_some found
    obtain ⟨first, first_found⟩ : ∃ first, (order.find? fun known => known.name == name) = some first :=
      Option.isSome_iff_exists.mp (List.find?_isSome.mpr ⟨resolved, among, by simpa using named⟩)
    have first_named : first.name = name := by simpa using List.find?_some first_found
    have same : first.name = resolved.name := first_named.trans named.symm
    rw [first_found, List.inj_on_of_nodup_map once (List.mem_of_find?_eq_some first_found) among same]

end Tables

namespace Declarations

variable {declarations : Declarations} {registry : Registry}

structure Tabulated (declarations : Declarations) (registry : Registry) : Prop where
  names : registry.names = declarations.names ∧ registry.names.Nodup
  target : ∀ name, registry.aliasTarget? name =
    if name ∈ declarations.aliases.map Alias.name then some (Alias.follow declarations.aliases.reverse name)
    else none
  primary : ∀ name target, registry.aliasTarget? name = some target →
    target ∈ declarations.names ∧ registry.aliasTarget? target = none
  contains : ∀ name, registry.contains name = true ↔
    name ∈ declarations.names ∨ name ∈ declarations.aliases.map Alias.name
  bean : ∀ name factory, (name, factory) ∈ declarations.beans → registry.factory? name = some factory
  aliased : ∀ name target, registry.aliasTarget? name = some target →
    ∃ factory, (target, factory) ∈ declarations.beans ∧ registry.factory? name = some factory
  -- In any order of the aliases each one finds its factory, and no entry is there before it.
  entered : ∀ order : List Alias, order.Perm registry.aliases → ∀ before resolved after,
    order = before ++ resolved :: after →
      ((before.foldl indexAlias declarations.beans).lookup resolved.bean).isSome ∧
        (before.foldl indexAlias declarations.beans).lookup resolved.name = none
  unordered : ∀ order : List Alias, order.Perm registry.aliases → ∀ name,
    (order.foldl indexAlias declarations.beans).lookup name = registry.factory? name

theorem registry_ok (described : declarations.registry = .ok registry) :
    Alias.Fitting declarations.names declarations.aliases ∧
      registry = ⟨declarations.names, Alias.settle declarations.aliases,
        (Alias.settle declarations.aliases).foldl indexAlias declarations.beans,
        declarations.nestingBound⟩ := by
  unfold Declarations.registry at described
  split at described
  · cases described
  · split at described <;> cases described
    next resolves =>
      obtain ⟨fitting, rfl⟩ := (Alias.resolveAliases_eq_ok_iff declarations.isBean_iff).mp resolves
      exact ⟨fitting, rfl⟩

theorem settled_known (fitting : Alias.Fitting declarations.names declarations.aliases) {resolved : Alias}
    (among : resolved ∈ Alias.settle declarations.aliases) :
    (declarations.beans.lookup resolved.bean).isSome := by
  obtain ⟨declared, member, rfl⟩ := List.mem_map.mp among
  apply (declarations.isBean_iff _).mpr
  exact fitting.follow_mem (.inr (List.mem_map_of_mem member))

theorem lookup_settled (fitting : Alias.Fitting declarations.names declarations.aliases) (name : String) :
    ((Alias.settle declarations.aliases).foldl indexAlias declarations.beans).lookup name =
      declarations.beans.lookup (Alias.follow declarations.aliases.reverse name) := by
  have led := Alias.settle_find? declarations.aliases name
  rw [lookup_indexed fun resolved among => settled_known fitting among, led]
  by_cases primary : name ∈ declarations.names
  · obtain ⟨factory, found⟩ := Option.isSome_iff_exists.mp ((declarations.isBean_iff name).mpr primary)
    rw [fitting.follow_primary primary, found, Option.some_or]
  · have missing : declarations.beans.lookup name = none := lookup_of_not_mem primary
    by_cases known : name ∈ declarations.aliases.map Alias.name
    · simp [missing, known]
    · rw [Alias.follow_apart (by simpa using known)]
      simp [missing, known]

theorem Tabulated.of_registry (once : declarations.names.Nodup)
    (described : declarations.registry = .ok registry) : declarations.Tabulated registry := by
  obtain ⟨fitting, rfl⟩ := registry_ok described
  have distinct : ((Alias.settle declarations.aliases).map Alias.name).Nodup :=
    (Alias.settle_names declarations.aliases) ▸ fitting.nodup
  have known {order : List Alias} (perm : order.Perm (Alias.settle declarations.aliases)) :
      ∀ resolved ∈ order, (declarations.beans.lookup resolved.bean).isSome :=
    fun resolved member => settled_known fitting (perm.mem_iff.mp member)
  constructor
  case names => exact ⟨rfl, once⟩
  case target => exact Alias.settle_find? declarations.aliases
  case primary =>
    intro name target leads
    simp only [Registry.aliasTarget?, Alias.settle_find?] at leads ⊢
    split at leads <;> cases leads
    next among =>
      have leads := fitting.follow_mem (.inr among)
      exact ⟨leads, if_neg (fitting.apart leads)⟩
  case contains =>
    intro name
    rw [Registry.contains, Registry.factory?, lookup_settled fitting]
    refine (declarations.isBean_iff _).trans ⟨fun member => ?_, fitting.follow_mem⟩
    by_cases known : name ∈ declarations.aliases.map Alias.name
    · exact .inr known
    · rw [Alias.follow_apart (by simpa using known)] at member
      exact .inl member
  case bean =>
    intro name factory member
    rw [Registry.factory?, lookup_settled fitting, fitting.follow_primary (List.mem_map_of_mem member)]
    exact lookup_of_mem once member
  case aliased =>
    intro name target leads
    simp only [Registry.aliasTarget?, Alias.settle_find?] at leads
    split at leads <;> cases leads
    next among =>
      obtain ⟨⟨_, factory⟩, member, same⟩ := List.mem_map.mp (fitting.follow_mem (.inr among))
      rw [← same]
      refine ⟨factory, member, ?_⟩
      rw [Registry.factory?, lookup_settled fitting, ← same]
      exact lookup_of_mem once member
  case entered =>
    rintro order perm before resolved after rfl
    have known_before (other : Alias) (among : other ∈ before) :
        (declarations.beans.lookup other.bean).isSome := known perm other (List.mem_append_left _ among)
    obtain ⟨factory, found⟩ := Option.isSome_iff_exists.mp (known perm resolved (by simp))
    have apart : resolved.name ∉ before.map Alias.name := by
      have all : ((before ++ resolved :: after).map Alias.name).Nodup :=
        (perm.map Alias.name).nodup_iff.mpr distinct
      rw [List.map_append, List.map_cons, List.nodup_append] at all
      exact fun member => all.2.2 _ member _ List.mem_cons_self rfl
    have free : resolved.name ∉ declarations.names := by
      intro primary
      apply fitting.apart primary
      rw [← Alias.settle_names]
      exact List.mem_map_of_mem (perm.mem_iff.mp (by simp))
    have absent : (before.find? fun other => other.name == resolved.name) = none := by
      simpa using apart
    simp [lookup_indexed known_before, found, absent, lookup_of_not_mem free]
  case unordered =>
    intro order perm name
    rw [Registry.factory?, lookup_indexed (known perm), lookup_indexed (known (.refl _)),
      find?_name_perm distinct perm]

theorem registry_error_iff {fault : Misconfiguration} : declarations.registry = .error fault ↔
    declarations.nestingBound = 0 ∧ fault = .zeroNesting ∨
      declarations.nestingBound ≠ 0 ∧ Alias.FirstFault declarations.names declarations.aliases fault := by
  by_cases unbounded : declarations.nestingBound = 0
  · simp [Declarations.registry, unbounded, eq_comm]
  · rw [Declarations.registry, if_neg unbounded, ← Alias.resolveAliases_eq_error_iff declarations.isBean_iff]
    cases resolveAliases declarations.isBean [] declarations.aliases <;> simp [unbounded]

theorem registry_error (bounded : declarations.nestingBound ≠ 0) {fault : Misconfiguration}
    (first : Alias.FirstFault declarations.names declarations.aliases fault) :
    declarations.registry = .error fault :=
  registry_error_iff.mpr (.inr ⟨bounded, first⟩)

theorem Collected.tabulated (collected : declarations.Collected code) :
    ((∃ resolved, resolveAliases declarations.isBean [] declarations.aliases = .ok resolved) ↔
      Alias.Fitting declarations.names declarations.aliases) ∧
    (∀ fault, resolveAliases declarations.isBean [] declarations.aliases = .error fault ↔
      Alias.FirstFault declarations.names declarations.aliases fault) ∧
    (declarations.nestingBound ≠ 0 → ∀ fault,
      Alias.FirstFault declarations.names declarations.aliases fault → ∀ world : World app,
        unbounded code (.request (.build declarations)) world =
          some (.error (.invalidConfiguration fault), world)) ∧
    (∀ registry, declarations.registry = .ok registry → declarations.Tabulated registry) ∧
    ∀ (world built now : World app) owner,
      unbounded code (.request (.build declarations)) world = some (.ok owner, built) →
        Reaches built now → declarations.Tabulated (now.registry owner.registry) := by
  refine ⟨⟨fun ⟨resolved, resolves⟩ => ?_, fun fitting => ?_⟩, fun fault => ?_,
    fun bounded fault first world => ?_, fun registry described => ?_,
    fun world built now owner building reaches => ?_⟩
  · exact ((Alias.resolveAliases_eq_ok_iff declarations.isBean_iff).mp resolves).1
  · exact ⟨_, Alias.resolveAliases_fitting declarations.isBean_iff fitting⟩
  · exact Alias.resolveAliases_eq_error_iff declarations.isBean_iff
  · rw [unbounded_request, carryOut]
    simp only [build, registry_error bounded first]
    rfl
  · exact .of_registry collected.nodup described
  · exact .of_registry collected.nodup (build_registry building reaches.persists)

end Declarations

-- The pane is declared before the glass it is made of, and the window after it.
def Sample.glazing : Declarations :=
  ((Declarations.empty.withAlias "pane" "glass").withBean "glass" ⟨3⟩).withAlias "window" "pane"

theorem Sample.glazing_tabulated : Sample.glazing.Collected Sample.code ∧
    ∃ registry, Sample.glazing.registry = .ok registry ∧ Sample.glazing.Tabulated registry := by
  have panes : (Declarations.empty.withAlias "pane" "glass").Collected Sample.code :=
    Declarations.Collected.empty.alias "pane" "glass"
  obtain ⟨after, registered⟩ : ∃ after, unbounded Sample.code
      (.request (.register (Declarations.empty.withAlias "pane" "glass") "glass" ⟨3⟩)) Sample.furnished =
        some (.ok ((Declarations.empty.withAlias "pane" "glass").withBean "glass" ⟨3⟩), after) := by
    rw [unbounded_request]
    exact ⟨_, rfl⟩
  have collected : Sample.glazing.Collected Sample.code := (panes.register registered).alias "window" "pane"
  exact ⟨collected, _, rfl, collected.tabulated.2.2.2.1 _ rfl⟩

end BeanRegistry
