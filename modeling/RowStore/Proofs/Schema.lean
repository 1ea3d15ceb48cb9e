import Mathlib.Data.List.TakeDrop
import Mathlib.Data.List.TakeWhile
import RowStore.Proofs.OrderedMap
import RowStore.Proofs.Text.Occurrence
import RowStore.Table

/-!
Schemas and their written form.

Definitions are read back if their columns and tags are words, except that a comma at the end of a
column would form a separator with the space in front of a tag. Whatever text a schema is read from,
its columns are words or empty, and each of them stands where it is first defined with the tag that
it is last defined with.
-/

namespace RowStore

namespace Text

structure IsWord (text : String) : Prop where
  nonempty : text ≠ ""
  not_blank : ∀ c ∈ text.toList, isBlank c = false

instance (text : String) : Decidable (IsWord text) :=
  decidable_of_iff (text ≠ "" ∧ (text.toList.all fun c => !isBlank c) = true)
    ⟨fun ⟨hnonempty, hall⟩ => ⟨hnonempty, by simpa using hall⟩,
      fun hword => ⟨hword.nonempty, by simpa using hword.not_blank⟩⟩

namespace IsWord

variable {word : String} (hword : IsWord word)

include hword

theorem not_mem {c : Char} (hblank : isBlank c = true) : c ∉ word.toList := fun hmem => by
  rw [hword.not_blank c hmem] at hblank
  contradiction

theorem exists_cons : ∃ c rest, word.toList = c :: rest ∧ isBlank c = false := by
  cases htext : word.toList with
  | nil => exact absurd (String.toList_eq_nil_iff.mp htext) hword.nonempty
  | cons c rest => exact ⟨c, rest, rfl, hword.not_blank c (htext ▸ List.mem_cons_self)⟩

/-- A word ends at a blank or with the text. -/
theorem nextWord_append {rest : List Char} (hrest : ∀ c ∈ rest.head?, isBlank c = true) :
    nextWord (word.toList ++ rest) = (word.toList, rest) := by
  obtain ⟨c, more, htext, hc⟩ := hword.exists_cons
  have hall : ∀ c ∈ word.toList, (!isBlank c) = true := fun c hmem => by
    rw [hword.not_blank c hmem, Bool.not_false]
  have hfront : (word.toList ++ rest).dropWhile isBlank = word.toList ++ rest := by
    rw [htext, List.cons_append, List.dropWhile_cons_of_neg (by simp [hc])]
  rw [nextWord, hfront, List.span_eq_takeWhile_dropWhile, List.takeWhile_append_of_pos hall,
    List.dropWhile_append_of_pos hall]
  cases rest with
  | nil => simp
  | cons d rest =>
      have hd : isBlank d = true := hrest d rfl
      simp [hd]

theorem nextWord_eq : nextWord word.toList = (word.toList, []) := by
  simpa using @nextWord_append word hword [] (by simp)

end IsWord

theorem nextWord_cons_of_blank {c : Char} (hblank : isBlank c = true) (text : List Char) :
    nextWord (c :: text) = nextWord text := by
  rw [nextWord, List.dropWhile_cons_of_pos hblank, nextWord]

theorem not_blank_of_mem_nextWord {text : List Char} {c : Char} (hmem : c ∈ (nextWord text).1) :
    isBlank c = false := by
  rw [nextWord, List.span_eq_takeWhile_dropWhile] at hmem
  simpa using List.mem_takeWhile_imp hmem

end Text

namespace Schema

open Text

def written : String × Option String → String
  | (column, none) => column
  | (column, some tag) => column ++ " " ++ tag

/-- Texts that a definition can be made of. -/
structure IsDefinition (definition : String × Option String) : Prop where
  column : IsWord definition.1
  tag : ∀ tag ∈ definition.2, IsWord tag
  no_comma : definition.2 ≠ none → ¬ ",".toList <:+ definition.1.toList

instance (definition : String × Option String) : Decidable (IsDefinition definition) :=
  decidable_of_iff (IsWord definition.1 ∧ (∀ tag ∈ definition.2, IsWord tag) ∧
      (definition.2 ≠ none → ¬ ",".toList <:+ definition.1.toList))
    ⟨fun ⟨hcolumn, htag, hcomma⟩ => ⟨hcolumn, htag, hcomma⟩,
      fun hdefinition => ⟨hdefinition.column, hdefinition.tag, hdefinition.no_comma⟩⟩

namespace IsDefinition

variable {definition : String × Option String} (hdefinition : IsDefinition definition)

include hdefinition

theorem define_written : define (written definition) = definition := by
  obtain ⟨column, _ | tag⟩ := definition
  · have hcolumn : nextWord column.toList = (column.toList, []) := hdefinition.column.nextWord_eq
    simp [define, written, hcolumn]
  · have hword : IsWord tag := hdefinition.tag tag rfl
    have hspace : isBlank ' ' = true := by decide
    have htagged : (written (column, some tag)).toList = column.toList ++ ' ' :: tag.toList := by
      simp [written]
    have hcolumn : nextWord (column.toList ++ ' ' :: tag.toList) =
        (column.toList, ' ' :: tag.toList) :=
      hdefinition.column.nextWord_append (by simp [hspace])
    have htag : nextWord (' ' :: tag.toList) = (tag.toList, []) := by
      rw [nextWord_cons_of_blank hspace, hword.nextWord_eq]
    simp [define, htagged, hcolumn, htag, hword.nonempty]

theorem not_mem_written {c : Char} (hblank : isBlank c = true) (hspace : c ≠ ' ') :
    c ∉ (written definition).toList := by
  obtain ⟨column, _ | tag⟩ := definition
  · exact hdefinition.column.not_mem hblank
  · simp [written, hdefinition.column.not_mem hblank, (hdefinition.tag tag rfl).not_mem hblank,
      hspace]

theorem no_separator_written : ¬ ", ".toList <:+: (written definition).toList := by
  have hspace : isBlank ' ' = true := by decide
  obtain ⟨column, _ | tag⟩ := definition
  · exact fun hfound => hdefinition.column.not_mem hspace (hfound.subset (by decide))
  · rintro ⟨before, after, hfound⟩
    have htagged : column.toList ++ ' ' :: tag.toList = (before ++ [',']) ++ ' ' :: after := by
      simpa [written] using hfound.symm
    obtain ⟨between, hbefore, htag⟩ :=
      append_eq_append_cons (hdefinition.column.not_mem hspace) htagged
    -- The tag has no space, so the one behind the comma is the one in front of the tag.
    cases between with
    | nil =>
        refine hdefinition.no_comma (Option.some_ne_none tag) ⟨before, ?_⟩
        simpa using hbefore
    | cons d between =>
        obtain ⟨-, htag⟩ := List.cons_eq_cons.mp htag
        refine (hdefinition.tag tag rfl).not_mem hspace ?_
        simp [htag]

theorem written_ne_empty : written definition ≠ "" := by
  obtain ⟨column, _ | tag⟩ := definition
  · exact hdefinition.column.nonempty
  · simp [written]

end IsDefinition

section Written

variable {definitions : List (String × Option String)} (hdefinitions : definitions ≠ [])
  (hwords : ∀ definition ∈ definitions, IsDefinition definition)

include hdefinitions hwords

theorem items_written :
    items (joinItems (definitions.map written)) = definitions.map written := by
  refine items_joinItems (by simpa using hdefinitions) fun item hitem => ?_
  obtain ⟨definition, hdefinition, rfl⟩ := List.mem_map.mp hitem
  exact (hwords definition hdefinition).no_separator_written

theorem entries_written (hdistinct : (definitions.map Prod.fst).Nodup) :
    (ofText (joinItems (definitions.map written))).entries = definitions := by
  have hread : (definitions.map written).map define = definitions := by
    rw [List.map_map]
    exact (List.map_congr_left fun definition hdefinition =>
      (hwords definition hdefinition).define_written).trans (List.map_id definitions)
  rw [ofText, items_written hdefinitions hwords, hread, OrderedMap.entries_ofList hdistinct]

end Written

/-! Any text. -/

theorem keys_ofText (text : String) :
    (ofText text).keys = ((items text).map fun definition => (define definition).1).eraseDups := by
  rw [ofText, OrderedMap.keys_ofList, List.map_map]
  rfl

theorem not_blank_of_mem_define {definition : String} {c : Char}
    (hmem : c ∈ (define definition).1.toList) : isBlank c = false := by
  rw [define, String.toList_ofList] at hmem
  exact not_blank_of_mem_nextWord hmem

theorem not_blank_of_mem_keys {text column : String} (hcolumn : column ∈ (ofText text).keys) :
    ∀ c ∈ column.toList, isBlank c = false := by
  rw [keys_ofText, List.mem_eraseDups] at hcolumn
  obtain ⟨definition, -, rfl⟩ := List.mem_map.mp hcolumn
  exact fun c => not_blank_of_mem_define

theorem get?_ofText {text definition : String} {before after : List String}
    (hitems : items text = before ++ definition :: after)
    (hlast : ∀ later ∈ after, (define later).1 ≠ (define definition).1) :
    (ofText text).get? (define definition).1 = some (define definition).2 := by
  rw [ofText, hitems, List.map_append, List.map_cons]
  refine OrderedMap.get?_ofList_append_cons fun hmem => ?_
  rw [List.map_map] at hmem
  obtain ⟨later, hlater, hsame⟩ := List.mem_map.mp hmem
  exact hlast later hlater hsame

end Schema

end RowStore
