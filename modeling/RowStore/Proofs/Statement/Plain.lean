import RowStore.Proofs.Filter
import RowStore.Proofs.Row
import RowStore.Proofs.Statement.RoundTrip

namespace RowStore

open Text

structure IsPlain (token : String) : Prop where
  nonempty : token ≠ ""
  plain : ∀ c ∈ token.toList, c ≠ '\n' ∧ c ≠ ',' ∧ c ≠ '=' ∧ c ≠ '(' ∧ c ≠ ')'

namespace IsPlain

variable {token : String}

theorem newline_not_mem (hplain : IsPlain token) : '\n' ∉ token.toList :=
  fun hmem => (hplain.plain _ hmem).1 rfl

theorem comma_not_mem (hplain : IsPlain token) : ',' ∉ token.toList :=
  fun hmem => (hplain.plain _ hmem).2.1 rfl

theorem equals_not_mem (hplain : IsPlain token) : '=' ∉ token.toList :=
  fun hmem => (hplain.plain _ hmem).2.2.1 rfl

theorem closing_not_mem (hplain : IsPlain token) : ')' ∉ token.toList :=
  fun hmem => (hplain.plain _ hmem).2.2.2.2 rfl

theorem isOperand (hplain : IsPlain token) : Statement.IsOperand token :=
  ⟨hplain.nonempty, hplain.newline_not_mem⟩

end IsPlain

/-! Lists of plain texts. -/

section Lists

variable {tokens : List String} (hplain : ∀ token ∈ tokens, IsPlain token)

include hplain

theorem items_of_plain (htokens : tokens ≠ []) : items (joinItems tokens) = tokens :=
  items_joinItems htokens fun token htoken hfound =>
    (hplain token htoken).comma_not_mem (hfound.subset (by decide))

theorem isOperand_joinItems_of_plain (htokens : tokens ≠ []) :
    Statement.IsOperand (joinItems tokens) :=
  Statement.isOperand_joinItems htokens fun token htoken => (hplain token htoken).isOperand

theorem closing_not_mem_joinItems : ')' ∉ (joinItems tokens).toList :=
  not_mem_joinItems (by decide) fun token htoken => (hplain token htoken).closing_not_mem

end Lists

/-! Rows with plain columns and values. -/

section Cells

variable {cells : List (String × String)}

variable (hcells : cells ≠ []) (hplain : ∀ cell ∈ cells, IsPlain cell.1 ∧ IsPlain cell.2)

include hplain in
theorem isPlain_columns : ∀ token ∈ cells.map Prod.fst, IsPlain token := by
  intro token htoken
  obtain ⟨cell, hcell, rfl⟩ := List.mem_map.mp htoken
  exact (hplain cell hcell).1

include hplain in
theorem isPlain_values : ∀ token ∈ cells.map Prod.snd, IsPlain token := by
  intro token htoken
  obtain ⟨cell, hcell, rfl⟩ := List.mem_map.mp htoken
  exact (hplain cell hcell).2

include hcells hplain

theorem Row.entries_of_plain (hdistinct : (cells.map Prod.fst).Nodup) :
    (Row.ofText (joinItems (cells.map Prod.fst)) (joinItems (cells.map Prod.snd))).entries =
      cells.map fun cell => (cell.1, some cell.2) := by
  have hcolumns := items_of_plain (isPlain_columns hplain) (by simpa using hcells)
  have hvalues := items_of_plain (isPlain_values hplain) (by simpa using hcells)
  rw [Row.ofText, hcolumns, hvalues, Row.pair_map]
  refine OrderedMap.entries_ofList ?_
  rw [List.map_map]
  exact hdistinct

theorem Statement.parse_insert_of_plain {name : String} (hname : IsName name) :
    let insertion : Statement :=
      .insert name (joinItems (cells.map Prod.fst)) (joinItems (cells.map Prod.snd))
    parse insertion.render = some insertion := by
  have hcolumns := isOperand_joinItems_of_plain (isPlain_columns hplain) (by simpa using hcells)
  have hvalues := isOperand_joinItems_of_plain (isPlain_values hplain) (by simpa using hcells)
  refine (parse_render_insert_iff hname hcolumns hvalues).mpr fun hfound => ?_
  have hclosing : ')' ∈ (joinItems (cells.map Prod.snd)).toList :=
    List.dropLast_subset _ (hfound.subset (by decide))
  exact closing_not_mem_joinItems (isPlain_values hplain) hclosing

end Cells

/-! Filters of a plain column and a plain value. -/

section Filters

variable {column value : String} (hcolumn : IsPlain column) (hvalue : IsPlain value)

include hcolumn hvalue

theorem Filter.ofText_of_plain :
    Filter.ofText (column ++ " = " ++ value) = ⟨column, some value⟩ :=
  ofText_eq_iff.mpr ⟨fun hfound => hcolumn.equals_not_mem (hfound.subset (by decide)),
    fun hfound => hcolumn.equals_not_mem (hfound.subset (by decide)),
    fun hfound => hvalue.equals_not_mem (hfound.subset (by decide))⟩

theorem isOperand_filter : Statement.IsOperand (column ++ " = " ++ value) where
  nonempty := by simp
  one_line := by
    simp [hcolumn.newline_not_mem, hvalue.newline_not_mem]

theorem Statement.parse_delete_of_plain {name : String} (hname : IsName name) :
    let deletion : Statement := .delete name (some (column ++ " = " ++ value))
    parse deletion.render = some deletion := by
  refine parse_render_delete hname ?_
  rintro operand hoperand
  obtain rfl := Option.some.inj hoperand
  exact isOperand_filter hcolumn hvalue

theorem Statement.parse_select_of_plain {projection name : String}
    (hprojection : IsOperand projection) (hname : IsName name) (hfrom : name ≠ "from")
    (hsource : ¬ " from ".toList <:+: (" " ++ (column ++ " = " ++ value)).toList) :
    let selection : Statement := .select projection name (some (column ++ " = " ++ value))
    parse selection.render = some selection := by
  refine (parse_render_select_iff hprojection hname (isOperand_filter hcolumn hvalue)).mpr
    ⟨?_, fun hnamed => hfrom hnamed.1⟩
  rintro ⟨other, inner, -, -, hsuffix⟩
  refine hsource (List.IsInfix.trans ⟨[], ?_⟩ hsuffix.isInfix)
  exact ⟨(other ++ renderClause inner).toList, by simp⟩

end Filters

end RowStore
