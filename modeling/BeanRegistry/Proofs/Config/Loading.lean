import BeanRegistry.Config.Settings
import BeanRegistry.Proofs.Registry.Bootstrap
import BeanRegistry.Proofs.Text.AliasLists

set_option autoImplicit false

namespace BeanRegistry

namespace Settings

open Config

def fallbacks : List (String × Datum) :=
  [("aliases", .text default.aliases), ("eager_beans", .text default.eagerBeans),
    ("max_factory_nesting", .whole default.nestingBound)]

-- The last variable for a key is the one that sets it.
def Sets (readers : Readers) (environment : List (String × String)) (key : String) (datum : Datum) : Prop :=
  ∃ before entry after, environment = before ++ entry :: after ∧
    readers.ofVariable entry.1 entry.2 = some (key, datum) ∧
    ∀ later ∈ after, ∀ other, readers.ofVariable later.1 later.2 ≠ some (key, other)

def Unset (readers : Readers) (environment : List (String × String)) (key : String) : Prop :=
  ∀ entry ∈ environment, ∀ other, readers.ofVariable entry.1 entry.2 ≠ some (key, other)

inductive Wins (readers : Readers) (environment : List (String × String)) (held : Source) (key : String) :
    Datum → Prop where
  | environment {datum : Datum} (set : Sets readers environment key datum) :
      Wins readers environment held key datum
  | document {datum : Datum} (unset : Unset readers environment key) (found : held key = some datum) :
      Wins readers environment held key datum
  | fallback {datum : Datum} (unset : Unset readers environment key) (absent : held key = none)
      (declared : fallbacks.lookup key = some datum) : Wins readers environment held key datum

-- No document gives nothing for any key, and a malformed one is no source at all.
def Holds (readers : Readers) : Option String → Source → Prop
  | none, held => held = fun _ => none
  | some content, held => readers.ofDocument content = some held

structure Won (readers : Readers) (environment : List (String × String)) (held : Source)
    (settings : Settings) : Prop where
  aliases : Wins readers environment held "aliases" (.text settings.aliases)
  eagerBeans : Wins readers environment held "eager_beans" (.text settings.eagerBeans)
  nestingBound : Wins readers environment held "max_factory_nesting" (.whole settings.nestingBound)

variable {readers : Readers} {document : Option String} {environment : List (String × String)} {held : Source}
  {key : String} {datum : Datum} {settings : Settings}

section Winning

theorem ofEnvironment_eq_some_iff : ofEnvironment readers environment key = some datum ↔
    Sets readers environment key datum := by
  rw [ofEnvironment, List.lookup_eq_some_iff]
  constructor
  · rintro ⟨newer, older, split, apart⟩
    rw [List.reverse_eq_iff, List.reverse_append, List.reverse_cons, List.append_assoc, List.singleton_append,
      List.filterMap_eq_append_iff] at split
    obtain ⟨early, late, rfl, _, split⟩ := split
    obtain ⟨middle, entry, after, rfl, _, set, rest⟩ := List.filterMap_eq_cons_iff.mp split
    refine ⟨early ++ middle, entry, after, by simp, set, fun later member other sets => ?_⟩
    have among : (key, other) ∈ newer := by
      rw [← List.mem_reverse, ← rest]
      exact List.mem_filterMap.mpr ⟨later, member, sets⟩
    simpa using apart _ among
  · rintro ⟨before, entry, after, rfl, set, last⟩
    refine ⟨_, _, by rw [List.filterMap_append, List.filterMap_cons, set, List.reverse_append,
      List.reverse_cons, List.append_assoc, List.singleton_append], fun found member => ?_⟩
    obtain ⟨later, among, sets⟩ := List.mem_filterMap.mp (List.mem_reverse.mp member)
    rw [bne_iff_ne]
    rintro rfl
    exact last later among found.2 sets

theorem ofEnvironment_eq_none_iff : ofEnvironment readers environment key = none ↔
    Unset readers environment key := by
  rw [ofEnvironment, List.lookup_eq_none_iff]
  constructor
  · intro apart entry member other sets
    simpa using apart (key, other) (List.mem_reverse.mpr (List.mem_filterMap.mpr ⟨entry, member, sets⟩))
  · intro unset found member
    obtain ⟨entry, among, sets⟩ := List.mem_filterMap.mp (List.mem_reverse.mp member)
    rw [bne_iff_ne]
    rintro rfl
    exact unset entry among found.2 sets

def layers (readers : Readers) (environment : List (String × String)) (held : Source) : List Source :=
  [ofEnvironment readers environment, held]

theorem winner_layers : winner (layers readers environment held) key =
    (ofEnvironment readers environment key).or (held key) := by
  simp only [winner, layers, List.findSome?_cons, List.findSome?_nil]
  cases ofEnvironment readers environment key <;> cases held key <;> rfl

theorem wins_iff : Wins readers environment held key datum ↔
    (winner (layers readers environment held) key).or (fallbacks.lookup key) = some datum := by
  rw [winner_layers]
  cases set : ofEnvironment readers environment key with
  | some other =>
    constructor
    · rintro (⟨sets⟩ | ⟨unset, _⟩ | ⟨unset, _, _⟩)
      · exact set.symm.trans (ofEnvironment_eq_some_iff.mpr sets)
      all_goals cases set.symm.trans (ofEnvironment_eq_none_iff.mpr unset)
    · rintro ⟨⟩
      exact .environment (ofEnvironment_eq_some_iff.mp set)
  | none =>
    have unset := ofEnvironment_eq_none_iff.mp set
    cases given : held key with
    | some other =>
      constructor
      · rintro (⟨sets⟩ | ⟨_, found⟩ | ⟨_, absent, _⟩)
        · cases set.symm.trans (ofEnvironment_eq_some_iff.mpr sets)
        · cases given.symm.trans found
          rfl
        · cases given.symm.trans absent
      · rintro ⟨⟩
        exact .document unset given
    | none =>
      constructor
      · rintro (⟨sets⟩ | ⟨_, found⟩ | ⟨_, _, declared⟩)
        · cases set.symm.trans (ofEnvironment_eq_some_iff.mpr sets)
        · cases given.symm.trans found
        · exact declared
      · exact .fallback unset given

end Winning

section Extracting

variable {sources : List Source}

def textIn (key : String) : Datum → Except Misconfiguration String
  | .text content => .ok content
  | _ => .error (.wrongType key)

def countIn (key : String) : Datum → Except Misconfiguration Nat
  | .whole value => if 0 ≤ value then .ok value.toNat else .error (.wrongType key)
  | _ => .error (.wrongType key)

theorem textOf_eq (fallback : String) :
    textOf sources key fallback = textIn key ((winner sources key).getD (.text fallback)) := by
  unfold textOf
  rcases winner sources key with _ | (_ | _ | _ | _ | _ | _ | _) <;> rfl

theorem countOf_eq (fallback : Nat) :
    countOf sources key fallback = countIn key ((winner sources key).getD (.whole fallback)) := by
  unfold countOf
  rcases winner sources key with _ | (_ | _ | _ | _ | _ | _ | _)
  case none => simp [countIn]
  all_goals rfl

theorem textIn_eq_ok_iff {content : String} : textIn key datum = .ok content ↔ datum = .text content := by
  cases datum <;> simp [textIn]

theorem countIn_eq_ok_iff {count : Nat} : countIn key datum = .ok count ↔ datum = .whole count := by
  cases datum with
  | whole value =>
    rw [countIn, Datum.whole.injEq]
    by_cases natural : 0 ≤ value
    next =>
      rw [if_pos natural, Except.ok.injEq]
      omega
    next =>
      simp only [natural, if_false, reduceCtorEq, false_iff]
      omega
  | _ => simp [countIn]

theorem textOf_eq_ok_iff {fallback content : String} : textOf sources key fallback = .ok content ↔
    (winner sources key).or (some (.text fallback)) = some (.text content) := by
  rw [textOf_eq, textIn_eq_ok_iff, Option.or_some, Option.some_inj]

theorem countOf_eq_ok_iff {fallback count : Nat} : countOf sources key fallback = .ok count ↔
    (winner sources key).or (some (.whole fallback)) = some (.whole count) := by
  rw [countOf_eq, countIn_eq_ok_iff, Option.or_some, Option.some_inj]

theorem extract_eq_ok_iff : extract sources = .ok settings ↔
    textOf sources "aliases" default.aliases = .ok settings.aliases ∧
      textOf sources "eager_beans" default.eagerBeans = .ok settings.eagerBeans ∧
      countOf sources "max_factory_nesting" default.nestingBound = .ok settings.nestingBound := by
  unfold extract
  cases textOf sources "aliases" default.aliases with
  | error fault => simp [bind, Except.bind]
  | ok aliases =>
    cases textOf sources "eager_beans" default.eagerBeans with
    | error fault => simp [bind, Except.bind]
    | ok eagerBeans =>
      cases countOf sources "max_factory_nesting" default.nestingBound with
      | error fault => simp [bind, Except.bind]
      | ok nestingBound =>
        cases settings
        simp [bind, Except.bind, pure, Except.pure]

theorem extract_layers : extract (layers readers environment held) = .ok settings ↔
    Won readers environment held settings := by
  rw [extract_eq_ok_iff, textOf_eq_ok_iff, textOf_eq_ok_iff, countOf_eq_ok_iff]
  constructor
  · rintro ⟨aliases, eagerBeans, nestingBound⟩
    exact ⟨wins_iff.mpr aliases, wins_iff.mpr eagerBeans, wins_iff.mpr nestingBound⟩
  · rintro ⟨aliases, eagerBeans, nestingBound⟩
    exact ⟨wins_iff.mp aliases, wins_iff.mp eagerBeans, wins_iff.mp nestingBound⟩

theorem validate_eq_ok_iff {checked : Settings} : settings.validate = .ok checked ↔
    checked = settings ∧ 1 ≤ settings.nestingBound ∧ ∃ pairs, settings.aliasList = .ok pairs := by
  unfold validate
  by_cases zero : settings.nestingBound = 0
  next => simp [zero]
  next =>
    have positive : 1 ≤ settings.nestingBound := by omega
    rw [if_neg zero]
    cases settings.aliasList <;> simp [positive, eq_comm]

theorem load_holds (holds : Holds readers document held) :
    readers.load document environment = (extract (layers readers environment held)).bind validate := by
  cases document with
  | some content =>
    rw [Readers.load, show readers.ofDocument content = some held from holds]
    rfl
  | none =>
    cases holds
    have winners : winner [ofEnvironment readers environment] =
        winner (layers readers environment fun _ => none) := by
      funext key
      rw [winner_layers, winner, List.findSome?_singleton]
      simp
    simp only [Readers.load, extract, textOf, countOf, winners]

theorem load_eq_ok_iff : readers.load document environment = .ok settings ↔
    ∃ held, Holds readers document held ∧ Won readers environment held settings ∧ 1 ≤ settings.nestingBound ∧
      ∃ pairs, settings.aliasList = .ok pairs := by
  constructor
  · intro loaded
    obtain ⟨held, holds⟩ : ∃ held, Holds readers document held := by
      cases document with
      | none => exact ⟨_, rfl⟩
      | some content =>
        cases read : readers.ofDocument content with
        | none => simp [Readers.load, read] at loaded
        | some held => exact ⟨held, read⟩
    rw [load_holds holds] at loaded
    cases extracted : extract (layers readers environment held) with
    | error fault => simp [extracted, Except.bind] at loaded
    | ok found =>
      rw [extracted] at loaded
      obtain ⟨rfl, valid⟩ := validate_eq_ok_iff.mp loaded
      exact ⟨held, holds, extract_layers.mp extracted, valid⟩
  · rintro ⟨held, holds, won, valid⟩
    rw [load_holds holds, extract_layers.mpr won]
    exact validate_eq_ok_iff.mpr ⟨rfl, valid⟩

theorem lookup_fallbacks (declared : (key, datum) ∈ fallbacks) : fallbacks.lookup key = some datum := by
  simp only [fallbacks, List.mem_cons, List.not_mem_nil, or_false, Prod.mk.injEq] at declared
  rcases declared with ⟨rfl, rfl⟩ | ⟨rfl, rfl⟩ | ⟨rfl, rfl⟩ <;> rfl

-- A source that does not win is not looked at, whatever it holds.
theorem load_congr {other : Option String} {elsewhere : List (String × String)} {others : Source}
    (holds : Holds readers document held) (otherHolds : Holds readers other others)
    (same : ∀ key ∈ fallbacks.map Prod.fst, ∀ datum,
      Wins readers environment held key datum ↔ Wins readers elsewhere others key datum) :
    readers.load document environment = readers.load other elsewhere := by
  have winning (key : String) (fallback : Datum) (declared : (key, fallback) ∈ fallbacks) :
      (winner (layers readers environment held) key).getD fallback =
        (winner (layers readers elsewhere others) key).getD fallback := by
    have agree : (winner (layers readers environment held) key).or (fallbacks.lookup key) =
        (winner (layers readers elsewhere others) key).or (fallbacks.lookup key) := by
      apply Option.ext
      intro datum
      rw [← wins_iff, ← wins_iff, same key (List.mem_map_of_mem declared) datum]
    rwa [lookup_fallbacks declared, Option.or_some, Option.or_some, Option.some_inj] at agree
  rw [load_holds holds, load_holds otherHolds, extract, extract]
  simp only [textOf_eq, countOf_eq]
  rw [winning "aliases" _ (by decide), winning "eager_beans" _ (by decide),
    winning "max_factory_nesting" _ (by decide)]

end Extracting

def declare (settings : Settings) (pairs : List Alias) (declarations : Declarations) : Declarations :=
  let aliased := pairs.foldl (fun collected pair => collected.withAlias pair.name pair.bean) declarations
  (settings.eagerNames.foldl Declarations.withEager aliased).withNestingBound settings.nestingBound

section Declaring

variable {declarations : Declarations} {pairs : List Alias}

theorem foldl_withAlias (declarations : Declarations) (pairs : List Alias) :
    pairs.foldl (fun collected pair => collected.withAlias pair.name pair.bean) declarations =
      { declarations with aliases := declarations.aliases ++ pairs } := by
  induction pairs generalizing declarations with
  | nil => simp
  | cons pair rest ih =>
    rw [List.foldl_cons, ih, Declarations.withAlias]
    simp

theorem foldl_withEager (declarations : Declarations) (names : List String) :
    names.foldl Declarations.withEager declarations =
      { declarations with eager := declarations.eager ++ names } := by
  induction names generalizing declarations with
  | nil => simp
  | cons name rest ih => simp [ih, Declarations.withEager]

theorem declare_eq (settings : Settings) (pairs : List Alias) (declarations : Declarations) :
    settings.declare pairs declarations =
      { declarations with
        aliases := declarations.aliases ++ pairs
        eager := declarations.eager ++ settings.eagerNames
        nestingBound := settings.nestingBound } := by
  rw [declare, foldl_withAlias, foldl_withEager]
  rfl

theorem withSettings_eq (read : settings.aliasList = .ok pairs) :
    declarations.withSettings settings = .ok (settings.declare pairs declarations) := by
  rw [Declarations.withSettings, Declarations.withAliases_ok read, declare_eq]
  rfl

end Declaring

end Settings

section Building

variable {app : Application} {code : Code app} {home : RegistryId} {name : String} {world after : World app}
  {declarations : Declarations} {fault : Misconfiguration}

theorem resolve_not_misconfigured :
    unbounded code (.request (.resolve home name)) world ≠
      some (.error (.invalidConfiguration fault), after) := by
  intro resolves
  cases found : (world.registry home).factory? name with
  | none =>
    rw [resolve_unknown found] at resolves
    cases resolves
  | some factory =>
    obtain ⟨source, same, _⟩ := resolve_error found resolves
    cases same

theorem build_undescribed (undescribed : declarations.registry = .error fault) :
    unbounded code (.request (.build declarations)) world =
      some (.error (.invalidConfiguration fault), world) := by
  rw [unbounded_request, carryOut]
  simp only [build, undescribed]
  rfl

-- Only what was declared, or an eager bean that is no singleton, is reported as a misconfiguration.
theorem build_misconfigured
    (building : unbounded code (.request (.build declarations)) world =
      some (.error (.invalidConfiguration fault), after)) :
    declarations.registry = .error fault ∨ ∃ name ∈ declarations.eager, fault = .eagerPrototype name := by
  cases described : declarations.registry with
  | error other =>
    rw [build_undescribed described] at building
    cases building
    exact .inl rfl
  | ok registry =>
    obtain ⟨_, _, _, name, _, _, _, _, split, _, failing, _⟩ := (bootstraps described).fails.mp building
    cases failing with
    | fails resolves => exact absurd resolves resolve_not_misconfigured
    | prototype _ _ => exact .inr ⟨name, by simp [split], rfl⟩

end Building

inductive Misconfiguration.Malformed : Misconfiguration → Prop where
  | bound : Malformed .zeroNesting
  | unpaired (entry : String) : Malformed (.aliasWithoutBean entry)
  | oneSided (entry : String) : Malformed (.aliasEmptySide entry)

theorem Alias.fault_malformed {names : List String} {earlier : List Alias} {declared : Alias}
    (malformed : (declared.fault names earlier).Malformed) :
    (declared.name = "" ∨ declared.bean = "") ∧
      declared.fault names earlier = .aliasEmptySide (declared.name ++ "=" ++ declared.bean) := by
  unfold Alias.fault at malformed ⊢
  split at malformed
  next lacks => exact ⟨lacks, if_pos lacks⟩
  next =>
    split at malformed <;> cases malformed

theorem Settings.declare_malformed {app : Application} {code : Code app} {world after : World app}
    {settings : Settings} {pairs : List Alias} {declarations : Declarations} {fault : Misconfiguration}
    (read : settings.aliasList = .ok pairs) (positive : 1 ≤ settings.nestingBound)
    (malformed : fault.Malformed)
    (building : unbounded code (.request (.build (settings.declare pairs declarations))) world =
      some (.error (.invalidConfiguration fault), after)) :
    ∃ pair ∈ declarations.aliases, (pair.name = "" ∨ pair.bean = "") ∧
      fault = .aliasEmptySide (pair.name ++ "=" ++ pair.bean) := by
  rcases build_misconfigured building with undescribed | ⟨name, _, rfl⟩
  · rw [declare_eq] at undescribed
    rcases Declarations.registry_error_iff.mp undescribed with ⟨zero, _⟩ | ⟨_, first⟩
    · exact absurd zero (Nat.one_le_iff_ne_zero.mp positive)
    · obtain ⟨before, declared, rest, split, _, _, rfl⟩ := first
      obtain ⟨lacks, reported⟩ := Alias.fault_malformed malformed
      have among : declared ∈ declarations.aliases ++ pairs := by
        rw [show declarations.aliases ++ pairs = before ++ declared :: rest from split]
        simp
      rcases List.mem_append.mp among with member | member
      · exact ⟨declared, member, lacks, reported⟩
      · have listed := NameList.listed_of_aliases read declared member
        rcases lacks with unnamed | unmeant
        · exact absurd (by simp [unnamed]) listed.name.present
        · exact absurd (by simp [unmeant]) listed.bean.present
  · cases malformed

theorem Settings.loaded_settings_apply {app : Application} (code : Code app) (readers : Readers)
    (document : Option String) (environment : List (String × String)) (settings : Settings) :
    (readers.load document environment = .ok settings ↔
      ∃ held, Holds readers document held ∧ Won readers environment held settings ∧
        1 ≤ settings.nestingBound ∧ ∃ pairs, settings.aliasList = .ok pairs) ∧
    (∀ other elsewhere held others, Holds readers document held → Holds readers other others →
      (∀ key ∈ fallbacks.map Prod.fst, ∀ datum,
        Wins readers environment held key datum ↔ Wins readers elsewhere others key datum) →
      readers.load document environment = readers.load other elsewhere) ∧
    (readers.load document environment = .ok settings → ∃ pairs, settings.aliasList = .ok pairs ∧
      ∀ declarations : Declarations,
        declarations.withSettings settings = .ok (settings.declare pairs declarations) ∧
        ∀ (world after : World app) fault, fault.Malformed →
          unbounded code (.request (.build (settings.declare pairs declarations))) world =
              some (.error (.invalidConfiguration fault), after) →
            ∃ pair ∈ declarations.aliases, (pair.name = "" ∨ pair.bean = "") ∧
              fault = .aliasEmptySide (pair.name ++ "=" ++ pair.bean)) := by
  refine ⟨load_eq_ok_iff, fun _ _ _ _ holds otherHolds same => load_congr holds otherHolds same,
    fun loaded => ?_⟩
  obtain ⟨_, _, _, positive, pairs, read⟩ := load_eq_ok_iff.mp loaded
  exact ⟨pairs, read, fun declarations => ⟨withSettings_eq read, fun world after fault malformed building =>
    declare_malformed read positive malformed building⟩⟩

-- The document's bad aliases and its bound of zero lose against the environment.
theorem Settings.lights_apply :
    let document := "aliases = \"oops\"\nmax_factory_nesting = 0\neager_beans = \"lamp\""
    let environment := [("AOP_CTX_ALIASES", "light=lamp"), ("AOP_CTX_MAX_FACTORY_NESTING", "8")]
    let settings : Settings := ⟨"light=lamp", "lamp", 8⟩
    load (some document) environment = .ok settings ∧
      ∃ pairs, settings.aliasList = .ok pairs ∧
        ∀ fault : Misconfiguration, fault.Malformed → ∀ after,
          unbounded Sample.furnish (.request (.build (settings.declare pairs Sample.lamps))) Sample.lampShop ≠
            some (.error (.invalidConfiguration fault), after) := by
  intro document environment settings
  have found : (load (some document) environment).toOption = some settings := by decide +kernel
  have loaded : load (some document) environment = .ok settings := by
    cases outcome : load (some document) environment with
    | error fault =>
      rw [outcome] at found
      cases found
    | ok other =>
      rw [outcome] at found
      exact congrArg Except.ok (Option.some.inj found)
  obtain ⟨pairs, read, applies⟩ :=
    (loaded_settings_apply Sample.furnish standardReaders (some document) environment settings).2.2 loaded
  refine ⟨loaded, pairs, read, fun fault malformed after building => ?_⟩
  obtain ⟨pair, member, _⟩ := (applies Sample.lamps).2 _ _ fault malformed building
  exact absurd member List.not_mem_nil

-- An alias without a name that was declared before stays a fault.
theorem Settings.nameless_alias_stays :
    let declarations := Sample.lamps.withAlias "" "lamp"
    ∃ settings extended, load (some "aliases = \"light=lamp\"") [] = .ok settings ∧
      declarations.withSettings settings = .ok extended ∧
      unbounded Sample.furnish (.request (.build extended)) Sample.lampShop =
        some (.error (.invalidConfiguration (.aliasEmptySide "=lamp")), Sample.lampShop) := by
  intro declarations
  have found : (load (some "aliases = \"light=lamp\"") []).toOption = some ⟨"light=lamp", "", 32⟩ := by
    decide +kernel
  cases loaded : load (some "aliases = \"light=lamp\"") [] with
  | error fault =>
    rw [loaded] at found
    cases found
  | ok settings =>
    rw [loaded] at found
    cases found
    exact ⟨_, _, rfl, rfl, build_undescribed (by rfl)⟩

end BeanRegistry
