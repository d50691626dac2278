import Mathlib.Data.List.TakeWhile
import Mathlib.Data.List.Basic
import BeanRegistry.Text.Blank
import BeanRegistry.Text.Pieces

set_option autoImplicit false

namespace BeanRegistry.Text

def whiteSpace : List Char :=
  ['\t', '\n', '\x0b', '\x0c', '\r', ' ', '\u0085', '\u00a0', '\u1680', '\u2000', '\u2001', '\u2002',
    '\u2003', '\u2004', '\u2005', '\u2006', '\u2007', '\u2008', '\u2009', '\u200a', '\u2028', '\u2029',
    '\u202f', '\u205f', '\u3000']

def Blank (text : List Char) : Prop :=
  ∀ character ∈ text, character ∈ whiteSpace

instance (text : List Char) : Decidable (Blank text) :=
  List.decidableBAll (· ∈ whiteSpace) text

structure Trimmed (text : List Char) : Prop where
  first : ∀ character ∈ text.head?, character ∉ whiteSpace
  last : ∀ character ∈ text.getLast?, character ∉ whiteSpace

def Pads (text inner : List Char) : Prop :=
  ∃ before after, Blank before ∧ Blank after ∧ text = before ++ inner ++ after

structure Cuts (separator : Char) (text : List Char) (parts : List (List Char)) : Prop where
  present : parts ≠ []
  free : ∀ part ∈ parts, separator ∉ part
  whole : [separator].intercalate parts = text

section Trimming

variable {text inner before after rest : List Char}

@[simp] theorem isBlank_iff (character : Char) : isBlank character = true ↔ character ∈ whiteSpace := by
  have codes : whiteSpace.map Char.toNat = (List.range' 9 5 ++ [32, 133, 160, 5760]) ++
      (List.range' 8192 11 ++ [8232, 8233, 8239, 8287, 12288]) := by decide
  have injective : Function.Injective Char.toNat := fun _ _ => Char.toNat_inj.mp
  rw [← List.mem_map_of_injective injective, codes]
  simp only [isBlank, blankRanges, List.any_cons, List.any_nil, Bool.or_eq_true, Bool.and_eq_true,
    decide_eq_true_eq, Bool.false_eq_true, List.mem_append, List.mem_range'_1, List.mem_cons,
    List.not_mem_nil, or_false]
  omega

theorem trimmed_iff : Trimmed text ↔ text.head?.all (!isBlank ·) = true ∧
    text.getLast?.all (!isBlank ·) = true := by
  have solid (edge? : Option Char) :
      edge?.all (!isBlank ·) = true ↔ ∀ character ∈ edge?, character ∉ whiteSpace := by
    cases edge? <;> simp [← Bool.not_eq_true]
  rw [solid, solid]
  exact ⟨fun trimmed => ⟨trimmed.first, trimmed.last⟩, fun ⟨first, last⟩ => ⟨first, last⟩⟩

instance (text : List Char) : Decidable (Trimmed text) :=
  decidable_of_iff _ trimmed_iff.symm

theorem Blank.append (leads : Blank before) (ends : Blank after) : Blank (before ++ after) := by
  intro character member
  exact (List.mem_append.mp member).elim (leads character) (ends character)

theorem Blank.reverse (blank : Blank text) : Blank text.reverse :=
  fun character member => blank character (List.mem_reverse.mp member)

theorem trimStart_blank (blank : Blank before) : trimStart (before ++ rest) = trimStart rest :=
  List.dropWhile_append_of_pos fun character member => (isBlank_iff character).mpr (blank character member)

theorem trimStart_start (start : ∀ first ∈ text.head?, first ∉ whiteSpace) : trimStart text = text := by
  cases text with
  | nil => rfl
  | cons first rest => exact List.dropWhile_cons_of_neg (mt (isBlank_iff first).mp (start first rfl))

theorem trimStart_head (text : List Char) : ∀ first ∈ (trimStart text).head?, first ∉ whiteSpace := by
  intro first found
  have stopped := List.head?_dropWhile_not isBlank text
  rw [trimStart] at found
  rw [Option.mem_def.mp found] at stopped
  rw [← isBlank_iff, stopped]
  exact Bool.false_ne_true

theorem trimStart_drops (text : List Char) : ∃ before, Blank before ∧ text = before ++ trimStart text :=
  ⟨text.takeWhile isBlank, fun character member => (isBlank_iff character).mp (List.mem_takeWhile_imp member),
    List.takeWhile_append_dropWhile.symm⟩

theorem trimEnd_drops (text : List Char) : ∃ after, Blank after ∧ text = trimEnd text ++ after := by
  obtain ⟨before, blank, split⟩ := trimStart_drops text.reverse
  refine ⟨before.reverse, blank.reverse, ?_⟩
  rw [trimEnd, ← List.reverse_append, ← split, List.reverse_reverse]

theorem pads_trim (text : List Char) : Pads text (trim text) := by
  obtain ⟨before, leads, start⟩ := trimStart_drops text
  obtain ⟨after, ends, rest⟩ := trimEnd_drops (trimStart text)
  refine ⟨before, after, leads, ends, ?_⟩
  rw [List.append_assoc, trim, ← rest, ← start]

theorem trimmed_trim (text : List Char) : Trimmed (trim text) where
  first character found := by
    obtain ⟨after, _, split⟩ := trimEnd_drops (trimStart text)
    apply trimStart_head text character
    rw [split, List.head?_append]
    exact Option.or_eq_some_iff.mpr (.inl found)
  last character found := by
    rw [trim, trimEnd, List.getLast?_reverse] at found
    exact trimStart_head _ character found

theorem trim_of_pads (pads : Pads text inner) (trimmed : Trimmed inner) : trim text = inner := by
  obtain ⟨before, after, leads, ends, rfl⟩ := pads
  rw [trim, List.append_assoc, trimStart_blank leads]
  cases inner with
  | nil =>
    have nothing : trimStart (after ++ []) = [] := trimStart_blank ends
    rw [List.nil_append, ← List.append_nil after, nothing]
    rfl
  | cons first rest =>
    have start : trimStart (first :: rest ++ after) = first :: rest ++ after :=
      trimStart_start fun _ found => trimmed.first _ found
    have stop : trimStart (first :: rest).reverse = (first :: rest).reverse :=
      trimStart_start fun _ found => trimmed.last _ (List.head?_reverse ▸ found)
    rw [start, trimEnd, List.reverse_append, trimStart_blank ends.reverse, stop, List.reverse_reverse]

theorem trim_eq_iff : trim text = inner ↔ Pads text inner ∧ Trimmed inner := by
  constructor
  · rintro rfl
    exact ⟨pads_trim text, trimmed_trim text⟩
  · exact fun ⟨pads, trimmed⟩ => trim_of_pads pads trimmed

theorem trim_trimmed (trimmed : Trimmed text) : trim text = text :=
  trim_of_pads ⟨[], [], by simp [Blank], by simp [Blank], by simp⟩ trimmed

theorem trim_blank_append (leads : Blank before) (text : List Char) : trim (before ++ text) = trim text := by
  rw [trim, trimStart_blank leads, trim]

theorem trim_append_blank (ends : Blank after) (text : List Char) : trim (text ++ after) = trim text := by
  obtain ⟨before, behind, leads, follows, padded⟩ := pads_trim text
  refine trim_of_pads ⟨before, behind ++ after, leads, follows.append ends, ?_⟩ (trimmed_trim text)
  rw [← List.append_assoc, ← padded]

theorem trim_eq_nil_iff : trim text = [] ↔ Blank text := by
  constructor
  · intro nothing
    obtain ⟨before, after, leads, ends, split⟩ := pads_trim text
    rw [nothing, List.append_nil] at split
    rw [split]
    exact Blank.append leads ends
  · intro blank
    refine trim_of_pads ⟨text, [], blank, by simp [Blank], by simp⟩ ⟨by simp, by simp⟩

end Trimming

section Cutting

variable {separator : Char} {text left right : List Char} {texts parts : List (List Char)}

theorem join_eq_intercalate (separator : Char) (texts : List (List Char)) :
    join separator texts = [separator].intercalate texts := by
  induction texts with
  | nil => rfl
  | cons text rest ih =>
    cases rest with
    | nil => simp [join]
    | cons next others => rw [join, ih, List.intercalate_cons_cons]; simp

theorem pieces_append (separator : Char) (left right : List Char) :
    pieces separator (left ++ separator :: right) = pieces separator left ++ pieces separator right := by
  induction left with
  | nil => simp [pieces]
  | cons character rest ih =>
    by_cases same : character = separator
    next => simp [pieces, same, ih]
    next =>
      rw [List.cons_append, pieces, if_neg same, pieces, if_neg same, ih]
      cases found : pieces separator rest with
      | nil => exact absurd found (pieces_ne_nil separator rest)
      | cons piece others => rfl

theorem pieces_free (free : separator ∉ text) : pieces separator text = [text] := by
  induction text with
  | nil => rfl
  | cons character rest ih =>
    rw [List.mem_cons, not_or] at free
    rw [pieces, if_neg (Ne.symm free.1), ih free.2]

theorem free_of_mem_pieces {piece : List Char} (member : piece ∈ pieces separator text) :
    separator ∉ piece := by
  induction text generalizing piece with
  | nil => simp_all [pieces]
  | cons character rest ih =>
    by_cases same : character = separator
    next =>
      rw [pieces, if_pos same, List.mem_cons] at member
      rcases member with rfl | member
      · exact List.not_mem_nil
      · exact ih member
    next =>
      rw [pieces, if_neg same] at member
      cases found : pieces separator rest with
      | nil => exact absurd found (pieces_ne_nil separator rest)
      | cons head others =>
        rw [found] at member ih
        rcases List.mem_cons.mp member with rfl | member
        · exact List.not_mem_cons_of_ne_of_not_mem (Ne.symm same) (ih List.mem_cons_self)
        · exact ih (List.mem_cons_of_mem head member)

theorem pieces_join (present : texts ≠ []) :
    pieces separator (join separator texts) = texts.flatMap (pieces separator) := by
  induction texts with
  | nil => exact absurd rfl present
  | cons text rest ih =>
    cases rest with
    | nil => simp [join]
    | cons next others =>
      rw [join, pieces_append, ih (List.cons_ne_nil next others), List.flatMap_cons (x := text)]

theorem Cuts.pieces_eq (cuts : Cuts separator text parts) : pieces separator text = parts := by
  rw [← cuts.whole, ← join_eq_intercalate, pieces_join cuts.present,
    List.flatMap_congr fun part member => pieces_free (cuts.free part member), List.flatMap_singleton']

theorem cuts_pieces (separator : Char) (text : List Char) : Cuts separator text (pieces separator text) where
  present := pieces_ne_nil separator text
  free _ member := free_of_mem_pieces member
  whole := (join_eq_intercalate separator _).symm.trans (join_pieces separator text)

theorem cutAtFirst_eq_none_iff : cutAtFirst separator text = none ↔ separator ∉ text := by
  induction text with
  | nil => simp [cutAtFirst]
  | cons character rest ih =>
    by_cases same : character = separator
    next => simp [cutAtFirst, same]
    next => simp [cutAtFirst, same, Ne.symm same, ih]

theorem cutAtFirst_eq_some_iff : cutAtFirst separator text = some (left, right) ↔
    text = left ++ separator :: right ∧ separator ∉ left := by
  induction text generalizing left with
  | nil => simp [cutAtFirst]
  | cons character rest ih =>
    by_cases same : character = separator
    next =>
      cases left with
      | nil => simp [cutAtFirst, same]
      | cons first others => simp +contextual [cutAtFirst, same, eq_comm]
    next =>
      rw [cutAtFirst, if_neg same, Option.map_eq_some_iff]
      cases left with
      | nil => simp [same]
      | cons first others =>
        constructor
        · rintro ⟨⟨_, _⟩, found, shown⟩
          cases shown
          obtain ⟨rfl, free⟩ := ih.mp found
          exact ⟨rfl, List.not_mem_cons_of_ne_of_not_mem (Ne.symm same) free⟩
        · rintro ⟨shown, free⟩
          obtain ⟨rfl, rfl⟩ := List.cons.inj shown
          exact ⟨(others, right), ih.mpr ⟨rfl, List.not_mem_of_not_mem_cons free⟩, rfl⟩

theorem cutAtFirst_trim (solid : separator ∉ whiteSpace) (text : List Char) :
    (cutAtFirst separator (trim text)).map (Prod.map trim trim) =
      (cutAtFirst separator text).map (Prod.map trim trim) := by
  obtain ⟨before, after, leads, ends, padded⟩ := pads_trim text
  have outside {blanks : List Char} (blank : Blank blanks) : separator ∉ blanks :=
    fun member => solid (blank separator member)
  cases found : cutAtFirst separator (trim text) with
  | none =>
    have absent : separator ∉ text := by
      rw [padded]
      simp [outside leads, outside ends, cutAtFirst_eq_none_iff.mp found]
    rw [cutAtFirst_eq_none_iff.mpr absent]
  | some sides =>
    obtain ⟨left, right⟩ := sides
    obtain ⟨split, free⟩ := cutAtFirst_eq_some_iff.mp found
    have cut : cutAtFirst separator text = some (before ++ left, right ++ after) := by
      refine cutAtFirst_eq_some_iff.mpr ⟨?_, by simp [outside leads, free]⟩
      rw [padded, split]
      simp
    rw [cut]
    simp [trim_blank_append leads, trim_append_blank ends]

end Cutting

end BeanRegistry.Text
