import BeanRegistry.Proofs.Text.Names

set_option autoImplicit false

namespace BeanRegistry

open Text NameList

-- The bean's name may hold equals signs, the alias's own may not.
structure Alias.IsListed (pair : Alias) : Prop where
  name : IsEntry pair.name.toList
  single : '=' ∉ pair.name.toList
  bean : IsEntry pair.bean.toList

namespace NameList

structure Sides (piece left right : List Char) : Prop where
  split : piece = left ++ '=' :: right
  first : '=' ∉ left

def IsPair (piece : List Char) : Prop :=
  ∃ left right, Sides piece left right ∧ ¬ Blank left ∧ ¬ Blank right

structure GivesSide (side : List Char) (name : String) : Prop where
  present : name ≠ ""
  pads : Pads side name.toList
  trimmed : Trimmed name.toList

def GivesAlias (piece : List Char) (pair : Alias) : Prop :=
  ∃ left right, Sides piece left right ∧ GivesSide left pair.name ∧ GivesSide right pair.bean

def Writes (piece : List Char) (pair : Alias) : Prop :=
  ∃ left right, piece = left ++ '=' :: right ∧ Pads left pair.name.toList ∧ Pads right pair.bean.toList

inductive IsReported (piece : List Char) : Misconfiguration → Prop where
  | unpaired {entry : String} (single : '=' ∉ piece) (pads : Pads piece entry.toList)
      (trimmed : Trimmed entry.toList) : IsReported piece (.aliasWithoutBean entry)
  | oneSided {left right : List Char} {entry : String} (sides : Sides piece left right)
      (lacks : Blank left ∨ Blank right) (pads : Pads piece entry.toList) (trimmed : Trimmed entry.toList) :
      IsReported piece (.aliasEmptySide entry)

inductive FirstReported : List (List Char) → Misconfiguration → Prop where
  | here {piece : List Char} {rest : List (List Char)} {fault : Misconfiguration} (present : ¬ Blank piece)
      (reported : IsReported piece fault) : FirstReported (piece :: rest) fault
  | later {piece : List Char} {rest : List (List Char)} {fault : Misconfiguration}
      (passes : Blank piece ∨ IsPair piece) (first : FirstReported rest fault) :
      FirstReported (piece :: rest) fault

variable {piece left right : List Char} {parts : List (List Char)} {pair : Alias} {pairs : List Alias}
  {fault : Misconfiguration}

section Pieces

theorem cutAtFirst_sides : cutAtFirst '=' piece = some (left, right) ↔ Sides piece left right :=
  cutAtFirst_eq_some_iff.trans ⟨fun ⟨split, first⟩ => ⟨split, first⟩, fun ⟨split, first⟩ => ⟨split, first⟩⟩

theorem equals_solid : '=' ∉ whiteSpace := by
  decide

theorem Sides.present (sides : Sides piece left right) : ¬ Blank piece := by
  intro blank
  have member : '=' ∈ piece := by simp [sides.split]
  exact equals_solid (blank '=' member)

theorem unpaired_or_sides (piece : List Char) : '=' ∉ piece ∨ ∃ left right, Sides piece left right := by
  cases cut : cutAtFirst '=' piece with
  | none => exact .inl (cutAtFirst_eq_none_iff.mp cut)
  | some sides => exact .inr ⟨sides.1, sides.2, cutAtFirst_sides.mp cut⟩

theorem entryAlias_unpaired (single : '=' ∉ piece) :
    entryAlias (trim piece) = .error (.aliasWithoutBean (String.ofList (trim piece))) := by
  have cut := cutAtFirst_trim equals_solid piece
  rw [cutAtFirst_eq_none_iff.mpr single, Option.map_none, Option.map_eq_none_iff] at cut
  rw [entryAlias, cut]

theorem entryAlias_sides (sides : Sides piece left right) :
    entryAlias (trim piece) =
      if (trim left).isEmpty || (trim right).isEmpty then
        .error (.aliasEmptySide (String.ofList (trim piece)))
      else .ok { name := String.ofList (trim left), bean := String.ofList (trim right) } := by
  have cut := cutAtFirst_trim equals_solid piece
  rw [cutAtFirst_sides.mpr sides, Option.map_some] at cut
  obtain ⟨⟨_, _⟩, found, same⟩ := Option.map_eq_some_iff.mp cut
  obtain ⟨lefts, rights⟩ := Prod.mk.inj same
  rw [entryAlias, found]
  simp only [lefts, rights]

theorem entryAlias_oneSided (sides : Sides piece left right) (lacks : Blank left ∨ Blank right) :
    entryAlias (trim piece) = .error (.aliasEmptySide (String.ofList (trim piece))) := by
  rw [entryAlias_sides sides, if_pos]
  simpa [trim_eq_nil_iff] using lacks

theorem entryAlias_paired (sides : Sides piece left right) (lefts : ¬ Blank left) (rights : ¬ Blank right) :
    entryAlias (trim piece) =
      .ok { name := String.ofList (trim left), bean := String.ofList (trim right) } := by
  rw [entryAlias_sides sides, if_neg]
  simpa [trim_eq_nil_iff] using ⟨lefts, rights⟩

theorem ofList_trim_iff {name : String} :
    String.ofList (trim piece) = name ↔ Pads piece name.toList ∧ Trimmed name.toList := by
  rw [← trim_eq_iff]
  constructor
  · rintro rfl
    exact String.toList_ofList.symm
  · exact fun trims => trims ▸ String.ofList_toList

theorem givesSide_iff {name : String} :
    GivesSide piece name ↔ ¬ Blank piece ∧ String.ofList (trim piece) = name := by
  rw [ofList_trim_iff]
  constructor
  · rintro ⟨present, pads, trimmed⟩
    refine ⟨fun blank => present ?_, pads, trimmed⟩
    rw [← ofList_trim_iff.mpr ⟨pads, trimmed⟩, trim_eq_nil_iff.mpr blank, String.ofList_nil]
  · rintro ⟨present, pads, trimmed⟩
    refine ⟨?_, pads, trimmed⟩
    rintro rfl
    exact present (trim_eq_nil_iff.mp (trim_eq_iff.mpr ⟨pads, trimmed⟩))

theorem isPair_iff : IsPair piece ↔ ∃ pair, GivesAlias piece pair := by
  constructor
  · rintro ⟨left, right, sides, lefts, rights⟩
    exact ⟨⟨_, _⟩, left, right, sides, givesSide_iff.mpr ⟨lefts, rfl⟩, givesSide_iff.mpr ⟨rights, rfl⟩⟩
  · rintro ⟨pair, left, right, sides, name, bean⟩
    exact ⟨left, right, sides, (givesSide_iff.mp name).1, (givesSide_iff.mp bean).1⟩

theorem givesAlias_iff : GivesAlias piece pair ↔ ¬ Blank piece ∧ entryAlias (trim piece) = .ok pair := by
  constructor
  · rintro ⟨left, right, sides, name, bean⟩
    obtain ⟨lefts, named⟩ := givesSide_iff.mp name
    obtain ⟨rights, meant⟩ := givesSide_iff.mp bean
    exact ⟨sides.present, by rw [entryAlias_paired sides lefts rights, named, meant]⟩
  · rintro ⟨_, read⟩
    rcases unpaired_or_sides piece with single | ⟨left, right, sides⟩
    · rw [entryAlias_unpaired single] at read
      cases read
    · by_cases lacks : Blank left ∨ Blank right
      · rw [entryAlias_oneSided sides lacks] at read
        cases read
      · rw [not_or] at lacks
        rw [entryAlias_paired sides lacks.1 lacks.2] at read
        cases read
        exact ⟨left, right, sides, givesSide_iff.mpr ⟨lacks.1, rfl⟩, givesSide_iff.mpr ⟨lacks.2, rfl⟩⟩

theorem isReported_iff : IsReported piece fault ↔ entryAlias (trim piece) = .error fault := by
  constructor
  · rintro (⟨single, pads, trimmed⟩ | ⟨sides, lacks, pads, trimmed⟩)
    · rw [entryAlias_unpaired single, ofList_trim_iff.mpr ⟨pads, trimmed⟩]
    · rw [entryAlias_oneSided sides lacks, ofList_trim_iff.mpr ⟨pads, trimmed⟩]
  · intro failed
    obtain ⟨pads, trimmed⟩ := ofList_trim_iff.mp (Eq.refl (String.ofList (trim piece)))
    rcases unpaired_or_sides piece with single | ⟨left, right, sides⟩
    · rw [entryAlias_unpaired single] at failed
      cases failed
      exact .unpaired single pads trimmed
    · by_cases lacks : Blank left ∨ Blank right
      · rw [entryAlias_oneSided sides lacks] at failed
        cases failed
        exact .oneSided sides lacks pads trimmed
      · rw [not_or] at lacks
        rw [entryAlias_paired sides lacks.1 lacks.2] at failed
        cases failed

end Pieces

section Reading

theorem aliases_eq_ok_iff {text : String} :
    aliases text = .ok pairs ↔ Lists GivesAlias (pieces ',' text.toList) pairs := by
  refine aliasesOf_eq_ok_iff.trans (lists_iff ?_).symm
  exact fun piece _ pair => givesAlias_iff

theorem exists_lists_iff : (∃ pairs, Lists GivesAlias parts pairs) ↔
    ∀ piece ∈ parts, ¬ Blank piece → IsPair piece := by
  induction parts with
  | nil => simpa using ⟨[], .done⟩
  | cons piece rest ih =>
    rw [List.forall_mem_cons, ← ih]
    constructor
    · rintro ⟨pairs, _ | ⟨blank, rest⟩ | ⟨given, rest⟩⟩
      · exact ⟨absurd blank, _, rest⟩
      · exact ⟨fun _ => isPair_iff.mpr ⟨_, given⟩, _, rest⟩
    · rintro ⟨paired, pairs, rest⟩
      by_cases blank : Blank piece
      · exact ⟨pairs, .blank blank rest⟩
      · obtain ⟨pair, given⟩ := isPair_iff.mp (paired blank)
        exact ⟨pair :: pairs, .item given rest⟩

theorem aliasesOf_eq_error_iff : aliasesOf (trimmedEntries parts) = .error fault ↔
    FirstReported parts fault := by
  induction parts with
  | nil =>
    constructor
    · rintro ⟨⟩
    · rintro ⟨⟩
  | cons piece rest ih =>
    by_cases blank : Blank piece
    next =>
      rw [trimmedEntries_blank blank, ih]
      constructor
      · exact .later (.inl blank)
      · rintro (⟨present, _⟩ | ⟨_, first⟩)
        · exact absurd blank present
        · exact first
    next =>
      rw [trimmedEntries_present blank, aliasesOf]
      cases head : entryAlias (trim piece) with
      | error other =>
        have unpaired : ¬ IsPair piece := by
          intro paired
          obtain ⟨pair, given⟩ := isPair_iff.mp paired
          cases head.symm.trans (givesAlias_iff.mp given).2
        constructor
        · intro same
          cases same
          exact .here blank (isReported_iff.mpr head)
        · rintro (⟨_, reported⟩ | ⟨passes, _⟩)
          · cases head.symm.trans (isReported_iff.mp reported)
            rfl
          · exact absurd passes (not_or.mpr ⟨blank, unpaired⟩)
      | ok pair =>
        have paired : IsPair piece := isPair_iff.mpr ⟨pair, givesAlias_iff.mpr ⟨blank, head⟩⟩
        have passed : FirstReported (piece :: rest) fault ↔ FirstReported rest fault := by
          constructor
          · rintro (⟨_, reported⟩ | ⟨_, first⟩)
            · cases head.symm.trans (isReported_iff.mp reported)
            · exact first
          · exact .later (.inr paired)
        rw [passed, ← ih]
        cases aliasesOf (trimmedEntries rest) <;> simp

theorem GivesAlias.isListed (given : GivesAlias piece pair) (uncut : ',' ∉ piece) : pair.IsListed := by
  obtain ⟨left, right, sides, name, bean⟩ := given
  have within {side : List Char} {text : String} (gives : GivesSide side text) :
      ∀ character ∈ text.toList, character ∈ side := by
    obtain ⟨before, after, _, _, padded⟩ := gives.pads
    intro character member
    rw [padded]
    exact List.mem_append_left after (List.mem_append_right before member)
  have free : ',' ∉ left ∧ ',' ∉ right := by
    rw [sides.split] at uncut
    simpa using uncut
  refine ⟨⟨?_, fun comma => free.1 (within name _ comma), name.trimmed⟩,
    fun equals => sides.first (within name _ equals),
    ⟨?_, fun comma => free.2 (within bean _ comma), bean.trimmed⟩⟩
  · simpa using name.present
  · simpa using bean.present

theorem listed_of_aliases {text : String} (read : aliases text = .ok pairs) : ∀ pair ∈ pairs, pair.IsListed :=
  (aliases_eq_ok_iff.mp read).all fun _ member _ given => given.isListed (free_of_mem_pieces member)

end Reading

section Writing

theorem not_mem_pads {separator : Char} {text inner : List Char} (pads : Pads text inner)
    (solid : separator ∉ whiteSpace) (free : separator ∉ inner) : separator ∉ text := by
  obtain ⟨before, after, leads, ends, rfl⟩ := pads
  have outside {blanks : List Char} (blank : Blank blanks) : separator ∉ blanks :=
    fun member => solid (blank separator member)
  simp [outside leads, outside ends, free]

theorem Writes.gives (writes : Writes piece pair) (listed : pair.IsListed) : GivesAlias piece pair := by
  obtain ⟨left, right, split, name, bean⟩ := writes
  refine ⟨left, right, ⟨split, not_mem_pads name equals_solid listed.single⟩, ⟨?_, name, listed.name.trimmed⟩,
    ⟨?_, bean, listed.bean.trimmed⟩⟩
  · simpa using listed.name.present
  · simpa using listed.bean.present

theorem Writes.uncut (writes : Writes piece pair) (listed : pair.IsListed) : ',' ∉ piece := by
  obtain ⟨left, right, rfl, name, bean⟩ := writes
  have solid : ',' ∉ whiteSpace := by decide
  simp [not_mem_pads name solid listed.name.uncut, not_mem_pads bean solid listed.bean.uncut]

theorem written_uncut (written : Lists Writes parts pairs) (listed : ∀ pair ∈ pairs, pair.IsListed) :
    ∀ piece ∈ parts, ',' ∉ piece := by
  induction written with
  | done => simp
  | blank blank _ ih =>
    refine List.forall_mem_cons.mpr ⟨fun comma => ?_, ih listed⟩
    exact absurd (blank ',' comma) (by decide)
  | item writes _ ih =>
    rw [List.forall_mem_cons] at listed
    exact List.forall_mem_cons.mpr ⟨writes.uncut listed.1, ih listed.2⟩

theorem aliases_of_written (written : Lists Writes parts pairs) (listed : ∀ pair ∈ pairs, pair.IsListed) :
    aliases (String.ofList ([','].intercalate parts)) = .ok pairs := by
  cases parts with
  | nil =>
    cases written
    rfl
  | cons piece rest =>
    have cuts : Cuts ',' ([','].intercalate (piece :: rest)) (piece :: rest) :=
      ⟨List.cons_ne_nil piece rest, written_uncut written listed, rfl⟩
    rw [aliases_eq_ok_iff, String.toList_ofList, cuts.pieces_eq]
    exact written.imp fun piece _ pair member writes => writes.gives (listed pair member)

end Writing

theorem aliases_follow_grammar (text : String) :
    let tokens := pieces ',' text.toList
    Cuts ',' text.toList tokens ∧
    ((∃ pairs, aliases text = .ok pairs) ↔ ∀ token ∈ tokens, ¬ Blank token → IsPair token) ∧
    (∀ pairs, aliases text = .ok pairs ↔ Lists GivesAlias tokens pairs) ∧
    (∀ fault, aliases text = .error fault ↔ FirstReported tokens fault) ∧
    (∀ pairs, aliases text = .ok pairs → ∀ pair ∈ pairs, pair.IsListed) ∧
    (∀ pairs, (∀ pair ∈ pairs, pair.IsListed) → ∀ parts, Lists Writes parts pairs →
      aliases (String.ofList ([','].intercalate parts)) = .ok pairs) := by
  intro tokens
  refine ⟨cuts_pieces ',' text.toList, ?_, fun pairs => aliases_eq_ok_iff,
    fun fault => aliasesOf_eq_error_iff,
    fun pairs read => listed_of_aliases read,
    fun pairs listed parts written => aliases_of_written written listed⟩
  simp only [aliases_eq_ok_iff]
  exact exists_lists_iff

-- Blanks of several kinds, an empty piece and a bean whose name holds an equals sign.
theorem panes_follow_grammar :
    let pairs : List Alias := [⟨"pane", "glass"⟩, ⟨"light", "a=b"⟩, ⟨"pane", "glass"⟩]
    let parts := ["\t\u3000pane = glass".toList, [], "light=a=b\u2028".toList, "pane=glass".toList]
    (∀ pair ∈ pairs, pair.IsListed) ∧ Lists Writes parts pairs ∧
      aliases (String.ofList ([','].intercalate parts)) = .ok pairs := by
  intro pairs parts
  have listed : ∀ pair ∈ pairs, pair.IsListed := by
    simp only [pairs, List.forall_mem_cons, List.not_mem_nil, false_imp_iff, implies_true, and_true]
    refine ⟨?_, ?_, ?_⟩ <;>
      exact ⟨⟨by decide, by decide, by decide⟩, by decide, ⟨by decide, by decide, by decide⟩⟩
  have written : Lists Writes parts pairs := by
    refine .item ⟨"\t\u3000pane ".toList, " glass".toList, by decide, ?_, ?_⟩ (.blank (by decide)
      (.item ⟨"light".toList, "a=b\u2028".toList, by decide, ?_, ?_⟩
        (.item ⟨"pane".toList, "glass".toList, by decide, ?_, ?_⟩ .done)))
    · exact ⟨"\t\u3000".toList, " ".toList, by decide, by decide, by decide⟩
    · exact ⟨" ".toList, [], by decide, by decide, by decide⟩
    · exact ⟨[], [], by decide, by decide, by decide⟩
    · exact ⟨[], "\u2028".toList, by decide, by decide, by decide⟩
    · exact ⟨[], [], by decide, by decide, by decide⟩
    · exact ⟨[], [], by decide, by decide, by decide⟩
  exact ⟨listed, written, (aliases_follow_grammar "").2.2.2.2.2 pairs listed parts written⟩

end NameList

end BeanRegistry
