import RowStore.Filter
import RowStore.Proofs.Text.Occurrence

/-!
How clauses are read.

A clause is cut at the first separator, and what follows it up to the next one is the value. Since
the separator ends in the space that it begins with, a column that ends in all but this space would
have the separator begin sooner.
-/

namespace RowStore.Filter

open Text

theorem toList_equation (column value : String) :
    (column ++ " = " ++ value).toList = column.toList ++ (" = ".toList ++ value.toList) := by
  rw [String.toList_append, String.toList_append, List.append_assoc]

theorem clear_column_iff {column text : List Char} :
    Clear " = ".toList column (" = ".toList ++ text) ↔
      ¬ " = ".toList <:+: column ∧ ¬ " =".toList <:+ column := by
  rw [clear_separator_iff (by decide)]
  refine and_congr_right fun _ => ⟨fun hborder => hborder _ [' '] ?_, ?_⟩
  · exact ⟨by decide, by decide, by decide, ['=', ' '], by decide⟩
  · rintro hend back border ⟨hback, hborder, hends, hbegins⟩
    rcases back with _ | ⟨a, _ | ⟨b, _ | ⟨c, back⟩⟩⟩
    · contradiction
    · obtain ⟨-, rfl⟩ : ' ' = a ∧ ['=', ' '] = border := List.cons_eq_cons.mp hends
      exact absurd hbegins (by decide)
    · obtain ⟨rfl, rfl, -⟩ : ' ' = a ∧ '=' = b ∧ [' '] = border := by simpa using hends
      exact hend
    · simp at hends
      exact absurd hends.2.2.2.2 hborder

theorem ofText_of_no_separator {clause : String} (habsent : ¬ " = ".toList <:+: clause.toList) :
    ofText clause = ⟨clause, none⟩ := by
  rw [ofText, pieces_of_no_separator (by decide) habsent]
  simp

theorem ofClause?_some {clause : String} (hclause : clause ≠ "") :
    ofClause? (some clause) = some (ofText clause) :=
  if_neg hclause

theorem ofClause?_of_absent {clause : Option String} (hclause : clause ∈ [none, some ""]) :
    ofClause? clause = none := by
  rcases List.mem_cons.mp hclause with rfl | hempty
  · rfl
  · obtain rfl := List.mem_singleton.mp hempty
    rfl

/-- A clause with the separator, cut where the separator first occurs. -/
structure Cut (clause column value : String) (rest : List Char) (more : List (List Char)) :
    Prop where
  ofText_eq : ofText clause = ⟨column, some value⟩
  toList_eq : clause.toList = column.toList ++ (" = ".toList ++ rest)
  clear : Clear " = ".toList column.toList (" = ".toList ++ rest)
  pieces_rest : pieces " = ".toList rest = value.toList :: more

theorem exists_cut {clause : String} (hoccurs : " = ".toList <:+: clause.toList) :
    ∃ column value rest more, Cut clause column value rest more := by
  have hstring (text : List Char) : ∃ string : String, text = string.toList :=
    ⟨String.ofList text, String.toList_ofList.symm⟩
  obtain ⟨column, rest, hclause, hclear⟩ := exists_clear_front hoccurs
  obtain ⟨value, more, hrest⟩ :=
    List.exists_cons_of_ne_nil (@pieces_ne_nil " = ".toList (by decide) rest)
  obtain ⟨column, rfl⟩ := hstring column
  obtain ⟨value, rfl⟩ := hstring value
  refine ⟨column, value, rest, more, ?_, hclause, hclear, hrest⟩
  rw [ofText, hclause, pieces_append (by decide) hclear, hrest]
  simp

namespace Cut

variable {clause column value : String} {rest : List Char} {more : List (List Char)}

theorem column_no_separator (hcut : Cut clause column value rest more) :
    ¬ " = ".toList <:+: column.toList :=
  hcut.clear.no_separator (by decide)

theorem value_no_separator (hcut : Cut clause column value rest more) :
    ¬ " = ".toList <:+: value.toList :=
  no_separator_of_mem_pieces (by decide) (hcut.pieces_rest ▸ List.mem_cons_self)

theorem toList_prefix (hcut : Cut clause column value rest more) :
    (column ++ " = " ++ value).toList <+: clause.toList := by
  rw [toList_equation, hcut.toList_eq, List.prefix_append_right_inj, List.prefix_append_right_inj]
  exact prefix_of_pieces_eq_cons (by decide) hcut.pieces_rest

theorem length_column_le (hcut : Cut clause column value rest more) {before after : String}
    (hbefore : clause = before ++ " = " ++ after) : column.length ≤ before.length := by
  have hsame : column.toList ++ (" = ".toList ++ rest) =
      before.toList ++ (" = ".toList ++ after.toList) := by
    rw [← hcut.toList_eq, hbefore, toList_equation]
  simpa only [String.length_toList] using hcut.clear.length_le hsame

theorem eq_iff_length_pieces (hcut : Cut clause column value rest more) :
    column ++ " = " ++ value = clause ↔ (pieces " = ".toList clause.toList).length = 2 := by
  have hpieces : pieces " = ".toList clause.toList = column.toList :: value.toList :: more := by
    rw [hcut.toList_eq, pieces_append (by decide) hcut.clear, hcut.pieces_rest]
  rw [← String.toList_inj, toList_equation, hcut.toList_eq, List.append_cancel_left_eq,
    List.append_cancel_left_eq, ← hcut.toList_eq, hpieces]
  constructor
  · intro hrest
    have hsingle := pieces_of_no_separator (by decide) hcut.value_no_separator
    rw [hrest, hcut.pieces_rest] at hsingle
    rw [hsingle]
    rfl
  · intro hlength
    obtain rfl : more = [] := by simpa using hlength
    exact ((pieces_eq_singleton_iff (by decide)).mp hcut.pieces_rest).1

end Cut

theorem ofText_eq_iff {column value : String} :
    ofText (column ++ " = " ++ value) = ⟨column, some value⟩ ↔
      ¬ " = ".toList <:+: column.toList ∧ ¬ " =".toList <:+ column.toList ∧
        ¬ " = ".toList <:+: value.toList := by
  have hclause := toList_equation column value
  constructor
  · intro hread
    have hoccurs : " = ".toList <:+: (column ++ " = " ++ value).toList :=
      ⟨column.toList, value.toList, by rw [hclause, List.append_assoc]⟩
    obtain ⟨front, first, rest, more, hcut⟩ := exists_cut hoccurs
    obtain ⟨rfl, rfl⟩ : front = column ∧ first = value := by simpa [hcut.ofText_eq] using hread
    obtain ⟨hcolumn, hend⟩ := clear_column_iff.mp hcut.clear
    exact ⟨hcolumn, hend, hcut.value_no_separator⟩
  · rintro ⟨hcolumn, hend, hvalue⟩
    rw [ofText, hclause, pieces_append (by decide) (clear_column_iff.mpr ⟨hcolumn, hend⟩),
      pieces_of_no_separator (by decide) hvalue]
    simp

/-- An equation is read as its two sides unless the separator occurs in one of them or begins in
the column. Any clause without the separator is a column without a value; another one begins with
an equation of the column in front of the first separator, and is no more than this equation if it
has one separator only. -/
theorem ofText_exact :
    (∀ column value : String, ofText (column ++ " = " ++ value) = ⟨column, some value⟩ ↔
      ¬ " = ".toList <:+: column.toList ∧ ¬ " =".toList <:+ column.toList ∧
        ¬ " = ".toList <:+: value.toList) ∧
    ∀ clause : String,
      ((ofText clause).value = none ↔ ¬ " = ".toList <:+: clause.toList) ∧
      ((ofText clause).value = none → (ofText clause).column = clause) ∧
      ∀ value, (ofText clause).value = some value →
        let column := (ofText clause).column
        (column ++ " = " ++ value).toList <+: clause.toList ∧
        ¬ " = ".toList <:+: column.toList ∧ ¬ " = ".toList <:+: value.toList ∧
        (∀ before after, clause = before ++ " = " ++ after → column.length ≤ before.length) ∧
        (column ++ " = " ++ value = clause ↔
          (pieces " = ".toList clause.toList).length = 2) := by
  refine ⟨fun _ _ => ofText_eq_iff, fun clause => ?_⟩
  by_cases hoccurs : " = ".toList <:+: clause.toList
  · obtain ⟨column, value, rest, more, hcut⟩ := exists_cut hoccurs
    rw [hcut.ofText_eq]
    refine ⟨iff_of_false (Option.some_ne_none _) (not_not_intro hoccurs),
      fun hnone => absurd hnone (Option.some_ne_none _), fun other hvalue => ?_⟩
    obtain rfl := Option.some.inj hvalue
    exact ⟨hcut.toList_prefix, hcut.column_no_separator, hcut.value_no_separator,
      fun _ _ => hcut.length_column_le, hcut.eq_iff_length_pieces⟩
  · rw [ofText_of_no_separator hoccurs]
    exact ⟨iff_of_true rfl hoccurs, fun _ => rfl, fun _ hvalue => by contradiction⟩

end RowStore.Filter
