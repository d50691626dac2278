import Mathlib.Data.List.Forall2
import BeanRegistry.Proofs.Text.Cutting
import BeanRegistry.Registry.Table

set_option autoImplicit false

namespace BeanRegistry

open Text

namespace NameList

structure IsEntry (entry : List Char) : Prop where
  present : entry ≠ []
  uncut : ',' ∉ entry
  trimmed : Trimmed entry

inductive Lists {Item : Type} (gives : List Char → Item → Prop) : List (List Char) → List Item → Prop where
  | done : Lists gives [] []
  | blank {piece : List Char} {pieces : List (List Char)} {items : List Item} (blank : Blank piece)
      (rest : Lists gives pieces items) : Lists gives (piece :: pieces) items
  | item {piece : List Char} {item : Item} {pieces : List (List Char)} {items : List Item}
      (given : gives piece item) (rest : Lists gives pieces items) :
      Lists gives (piece :: pieces) (item :: items)

def GivesName (piece : List Char) (name : String) : Prop :=
  IsEntry name.toList ∧ Pads piece name.toList

variable {text entry piece : List Char} {parts : List (List Char)}

def trimmedEntries (parts : List (List Char)) : List (List Char) :=
  (parts.map trim).filter fun entry => !entry.isEmpty

theorem trimmedEntries_blank (blank : Blank piece) :
    trimmedEntries (piece :: parts) = trimmedEntries parts := by
  simp [trimmedEntries, trim_eq_nil_iff.mpr blank]

theorem trimmedEntries_present (present : ¬ Blank piece) :
    trimmedEntries (piece :: parts) = trim piece :: trimmedEntries parts := by
  simp [trimmedEntries, trim_eq_nil_iff, present]

theorem lists_iff {Item : Type} {gives reads : List Char → Item → Prop} {items : List Item}
    (agree : ∀ piece ∈ parts, ∀ item, gives piece item ↔ ¬ Blank piece ∧ reads (trim piece) item) :
    Lists gives parts items ↔ List.Forall₂ reads (trimmedEntries parts) items := by
  induction parts generalizing items with
  | nil =>
    constructor
    · rintro ⟨⟩
      exact .nil
    · rintro ⟨⟩
      exact .done
  | cons piece rest ih =>
    have step {items : List Item} := @ih items fun piece member => agree piece (List.mem_cons_of_mem _ member)
    by_cases blank : Blank piece
    next =>
      rw [trimmedEntries_blank blank, ← step]
      constructor
      · rintro (_ | ⟨_, rest⟩ | ⟨given, _⟩)
        · exact rest
        · exact absurd blank ((agree piece List.mem_cons_self _).mp given).1
      · exact .blank blank
    next =>
      rw [trimmedEntries_present blank]
      constructor
      · rintro (_ | ⟨skipped, _⟩ | ⟨given, rest⟩)
        · exact absurd skipped blank
        · exact .cons ((agree piece List.mem_cons_self _).mp given).2 (step.mp rest)
      · rintro (_ | ⟨read, rest⟩)
        exact .item ((agree piece List.mem_cons_self _).mpr ⟨blank, read⟩) (step.mpr rest)

theorem Lists.imp {Item : Type} {gives reads : List Char → Item → Prop} {items : List Item}
    (lists : Lists gives parts items) (agree : ∀ piece ∈ parts, ∀ item ∈ items, gives piece item →
      reads piece item) :
    Lists reads parts items := by
  induction lists with
  | done => exact .done
  | blank blank _ ih =>
    exact .blank blank (ih fun piece member => agree piece (List.mem_cons_of_mem _ member))
  | item given _ ih =>
    refine .item (agree _ List.mem_cons_self _ List.mem_cons_self given)
      (ih fun piece member item among => ?_)
    exact agree piece (List.mem_cons_of_mem _ member) item (List.mem_cons_of_mem _ among)

theorem Lists.all {Item : Type} {gives : List Char → Item → Prop} {Holds : Item → Prop} {items : List Item}
    (lists : Lists gives parts items) (holds : ∀ piece ∈ parts, ∀ item, gives piece item → Holds item) :
    ∀ item ∈ items, Holds item := by
  induction lists with
  | done => simp
  | blank _ _ ih => exact ih fun piece member => holds piece (List.mem_cons_of_mem _ member)
  | item given _ ih =>
    refine List.forall_mem_cons.mpr ⟨holds _ List.mem_cons_self _ given, ?_⟩
    exact ih fun piece member => holds piece (List.mem_cons_of_mem _ member)

section Entries

theorem entries_append (left right : List Char) :
    entries (left ++ ',' :: right) = entries left ++ entries right := by
  simp [entries, pieces_append]

theorem entries_join (texts : List (List Char)) : entries (join ',' texts) = texts.flatMap entries := by
  cases texts with
  | nil => rfl
  | cons text rest =>
    rw [entries, pieces_join (List.cons_ne_nil text rest), List.map_flatMap, List.filter_flatMap]
    rfl

theorem isEntry_trim (uncut : ',' ∉ piece) (present : ¬ Blank piece) : IsEntry (trim piece) := by
  refine ⟨mt trim_eq_nil_iff.mp present, fun comma => uncut ?_, trimmed_trim piece⟩
  obtain ⟨before, after, _, _, padded⟩ := pads_trim piece
  rw [padded]
  exact List.mem_append_left after (List.mem_append_right before comma)

theorem entries_entry (isEntry : IsEntry entry) : entries entry = [entry] := by
  simp [entries, pieces_free isEntry.uncut, trim_trimmed isEntry.trimmed, isEntry.present]

theorem entries_join_entries (all : ∀ entry ∈ parts, IsEntry entry) : entries (join ',' parts) = parts := by
  rw [entries_join, List.flatMap_congr fun entry member => entries_entry (all entry member),
    List.flatMap_singleton']

theorem givesName_iff (uncut : ',' ∉ piece) {name : String} :
    GivesName piece name ↔ ¬ Blank piece ∧ trim piece = name.toList := by
  constructor
  · rintro ⟨isEntry, pads⟩
    have trims := trim_of_pads pads isEntry.trimmed
    refine ⟨fun blank => isEntry.present ?_, trims⟩
    rw [← trims, trim_eq_nil_iff.mpr blank]
  · rintro ⟨present, trims⟩
    rw [GivesName, ← trims]
    exact ⟨isEntry_trim uncut present, pads_trim piece⟩

end Entries

section Names

theorem toList_render (texts : List String) : (render texts).toList = join ',' (texts.map String.toList) := by
  rw [render, String.toList_ofList]

theorem render_eq_intercalate (texts : List String) : render texts = ",".intercalate texts := by
  apply String.toList_injective
  rw [toList_render, String.toList_intercalate, join_eq_intercalate]
  rfl

theorem names_append (left right : String) : names (left ++ "," ++ right) = names left ++ names right := by
  rw [names, String.toList_append, String.toList_append, List.append_assoc]
  exact (congrArg _ (entries_append left.toList right.toList)).trans List.map_append

theorem names_render (texts : List String) : names (render texts) = texts.flatMap names := by
  rw [names, toList_render, entries_join, List.flatMap_map, List.map_flatMap]
  rfl

theorem names_render_entries {list : List String} (all : ∀ name ∈ list, IsEntry name.toList) :
    names (render list) = list := by
  have entries : ∀ entry ∈ list.map String.toList, IsEntry entry := by simpa using all
  rw [names, toList_render, entries_join_entries entries, List.map_map]
  simp [Function.comp_def]

theorem lists_names (text : String) : Lists GivesName (pieces ',' text.toList) (names text) := by
  have read : List.Forall₂ (fun entry name => entry = name.toList) (entries text.toList) (names text) := by
    rw [names, List.forall₂_map_right_iff, List.forall₂_same]
    exact fun entry _ => String.toList_ofList.symm
  refine (lists_iff ?_).mpr read
  exact fun piece member name => givesName_iff (free_of_mem_pieces member)

theorem isEntry_of_mem_names {text name : String} (member : name ∈ names text) : IsEntry name.toList :=
  (lists_names text).all (fun _ _ _ given => given.1) name member

end Names

section Aliases

variable {fault : Misconfiguration} {before rest : List (List Char)} {pairs : List Alias}
  {first : String} {others : List String}

theorem aliasesOf_eq_ok_iff : aliasesOf rest = .ok pairs ↔
    List.Forall₂ (fun entry pair => entryAlias entry = .ok pair) rest pairs := by
  induction rest generalizing pairs with
  | nil => cases pairs <;> simp [aliasesOf]
  | cons entry rest ih =>
    cases head : entryAlias entry with
    | error fault => cases pairs <;> simp [aliasesOf, head]
    | ok pair =>
      cases tail : aliasesOf rest with
      | error fault => cases pairs <;> simp [aliasesOf, head, tail, ← ih]
      | ok others => cases pairs <;> simp [aliasesOf, head, tail, ← ih]

theorem aliasesOf_ok (found : aliasesOf before = .ok pairs) :
    aliasesOf (before ++ rest) = (aliasesOf rest).map (pairs ++ ·) := by
  rw [aliasesOf_eq_ok_iff] at found
  induction found with
  | nil => cases read : aliasesOf rest <;> simp [read, Except.map]
  | cons read _ ih =>
    rw [List.cons_append, aliasesOf, read, ih]
    cases aliasesOf rest <;> rfl

theorem aliasesOf_error (failed : aliasesOf before = .error fault) :
    aliasesOf (before ++ rest) = .error fault := by
  induction before with
  | nil => cases failed
  | cons entry others ih =>
    rw [aliasesOf] at failed
    rw [List.cons_append, aliasesOf]
    cases head : entryAlias entry with
    | error other => simpa [head] using failed
    | ok pair =>
      cases middle : aliasesOf others with
      | error other =>
        simp only [head, middle] at failed
        rw [ih (middle.trans failed)]
      | ok list => simp [head, middle] at failed

theorem aliases_render (texts : List String) :
    aliases (render texts) = aliasesOf (texts.flatMap fun text => entries text.toList) := by
  rw [aliases, toList_render, entries_join, List.flatMap_map]

theorem aliases_cons_ok (read : aliases first = .ok pairs) :
    aliases (render (first :: others)) = (aliases (render others)).map (pairs ++ ·) := by
  rw [aliases_render, aliases_render, List.flatMap_cons, aliasesOf_ok read]

theorem aliases_cons_error (failed : aliases first = .error fault) :
    aliases (render (first :: others)) = .error fault := by
  rw [aliases_render, List.flatMap_cons, aliasesOf_error failed]

theorem aliases_first_error {earlier : List String}
    (read : ∀ text ∈ earlier, ∃ pairs, aliases text = .ok pairs)
    (failed : aliases first = .error fault) :
    aliases (render (earlier ++ first :: others)) = .error fault := by
  induction earlier with
  | nil => exact aliases_cons_error failed
  | cons text rest ih =>
    obtain ⟨pairs, found⟩ := read text List.mem_cons_self
    rw [List.cons_append, aliases_cons_ok found,
      ih fun text member => read text (List.mem_cons_of_mem _ member)]
    rfl

end Aliases

end NameList

namespace Declarations

variable {declarations : Declarations} {text : String}

theorem withAliases_ok {pairs : List Alias} (read : NameList.aliases text = .ok pairs) :
    declarations.withAliases text = .ok { declarations with aliases := declarations.aliases ++ pairs } := by
  rw [withAliases, read]

theorem withAliases_error {fault : Misconfiguration} (failed : NameList.aliases text = .error fault) :
    declarations.withAliases text = .error (.invalidConfiguration fault) := by
  rw [withAliases, failed]

theorem foldl_withEagerBeans (declarations : Declarations) (texts : List String) :
    texts.foldl withEagerBeans declarations = declarations.withEagerBeans (NameList.render texts) := by
  rw [withEagerBeans, NameList.names_render]
  induction texts generalizing declarations with
  | nil => simp
  | cons text rest ih => simp [withEagerBeans, ih]

theorem foldlM_withAliases (declarations : Declarations) (texts : List String) :
    texts.foldlM withAliases declarations = declarations.withAliases (NameList.render texts) := by
  induction texts generalizing declarations with
  | nil =>
    have nothing : NameList.aliases (NameList.render []) = .ok [] := rfl
    rw [withAliases_ok nothing, List.append_nil]
    rfl
  | cons text rest ih =>
    rw [List.foldlM_cons]
    cases read : NameList.aliases text with
    | error fault =>
      rw [withAliases_error read, withAliases_error (NameList.aliases_cons_error read)]
      rfl
    | ok pairs =>
      rw [withAliases_ok read]
      refine (ih _).trans ?_
      rw [withAliases, withAliases, NameList.aliases_cons_ok read]
      cases NameList.aliases (NameList.render rest) with
      | error fault => rfl
      | ok others => simp [Except.map]

end Declarations

theorem NameList.names_lossless (text : String) :
    Cuts ',' text.toList (pieces ',' text.toList) ∧
    Lists GivesName (pieces ',' text.toList) (names text) ∧
    (∀ name ∈ names text, IsEntry name.toList) ∧
    (∀ list : List String, (∀ name ∈ list, IsEntry name.toList) → names (render list) = list) ∧
    names (render (names text)) = names text ∧
    (∀ left right : String, names (left ++ "," ++ right) = names left ++ names right) ∧
    (∀ texts : List String, render texts = ",".intercalate texts ∧ ∀ declarations : Declarations,
      texts.foldl Declarations.withEagerBeans declarations = declarations.withEagerBeans (render texts) ∧
      texts.foldlM Declarations.withAliases declarations = declarations.withAliases (render texts)) ∧
    (∀ (earlier : List String) (failing : String) (later : List String) (fault : Misconfiguration),
      (∀ text ∈ earlier, ∃ pairs, aliases text = .ok pairs) → aliases failing = .error fault →
        ∀ declarations : Declarations, declarations.withAliases (render (earlier ++ failing :: later)) =
          .error (.invalidConfiguration fault)) := by
  refine ⟨cuts_pieces ',' text.toList, lists_names text, fun name member => isEntry_of_mem_names member,
    fun list all => names_render_entries all,
    names_render_entries fun name member => isEntry_of_mem_names member,
    names_append, fun texts => ⟨render_eq_intercalate texts, fun declarations => ?_⟩, ?_⟩
  · exact ⟨declarations.foldl_withEagerBeans texts, declarations.foldlM_withAliases texts⟩
  · intro earlier failing later fault read failed declarations
    exact Declarations.withAliases_error (aliases_first_error read failed)

theorem NameList.lamps_read_back :
    (∀ name ∈ ["lamp", "lamp shade"], IsEntry name.toList) ∧
      names (render ["lamp", "lamp shade"]) = ["lamp", "lamp shade"] ∧
      aliases "pane = glass" = .ok [⟨"pane", "glass"⟩] ∧ aliases "lamp" = .error (.aliasWithoutBean "lamp") ∧
      Declarations.empty.withAliases (render ["pane = glass", "lamp", "=wick"]) =
        .error (.invalidConfiguration (.aliasWithoutBean "lamp")) := by
  have all : ∀ name ∈ ["lamp", "lamp shade"], IsEntry name.toList := by
    simp only [List.forall_mem_cons, List.not_mem_nil, false_imp_iff, implies_true, and_true]
    exact ⟨⟨by decide, by decide, by decide⟩, ⟨by decide, by decide, by decide⟩⟩
  have read : aliases "pane = glass" = .ok [⟨"pane", "glass"⟩] := rfl
  have failed : aliases "lamp" = .error (.aliasWithoutBean "lamp") := rfl
  obtain ⟨_, _, _, back, _, _, _, first⟩ := names_lossless ""
  refine ⟨all, back _ all, read, failed, first ["pane = glass"] "lamp" ["=wick"] _ ?_ failed .empty⟩
  simpa using ⟨_, read⟩

end BeanRegistry
