import RowStore.Proofs.Text.Pieces

/-!
Where a separator occurs in a text, and what that makes of the pieces.

A text is cut at the first occurrence, and what follows is cut again. So no piece holds the
separator, the pieces join to the text, and a list is found again in its written form if none of
its items holds the separator of lists.
-/

namespace RowStore.Text

variable {separator piece behind front rest text : List Char}

/-! Clear pieces and occurrences. -/

theorem Clear.no_separator (hseparator : separator ≠ []) (hclear : Clear separator piece behind) :
    ¬ separator <:+: piece := by
  rintro ⟨before, after, rfl⟩
  have hback : separator ++ after <:+ before ++ separator ++ after :=
    ⟨before, (List.append_assoc ..).symm⟩
  have hnone := hclear _ hback (by simp [hseparator])
  rw [List.append_assoc, after?_eq_some_iff.mpr rfl] at hnone
  contradiction

theorem clear_nil_iff (hseparator : separator ≠ []) :
    Clear separator piece [] ↔ ¬ separator <:+: piece := by
  refine ⟨Clear.no_separator hseparator, fun habsent back hback _ => ?_⟩
  cases hafter : after? separator (back ++ []) with
  | none => rfl
  | some after =>
      have hsame : back = separator ++ after := by simpa using after?_eq_some_iff.mp hafter
      have hfound : separator <:+: back := ⟨[], after, hsame.symm⟩
      exact absurd (hfound.trans hback.isInfix) habsent

/-- Two occurrences of a separator overlap in a border: the one ends in it, and the other begins
with it. -/
structure IsBorder (back border separator : List Char) : Prop where
  back_nonempty : back ≠ []
  border_nonempty : border ≠ []
  ends : separator = back ++ border
  begins : border <+: separator

/-- In a piece with the separator behind it, an occurrence begins that lies in the piece, or that
overlaps with the separator. -/
theorem clear_separator_iff (hseparator : separator ≠ []) :
    Clear separator piece (separator ++ text) ↔
      ¬ separator <:+: piece ∧
        ∀ back border, IsBorder back border separator → ¬ back <:+ piece := by
  constructor
  · intro hclear
    refine ⟨hclear.no_separator hseparator, ?_⟩
    rintro back border ⟨hback, -, hends, rest, hborder⟩ hsuffix
    have hsome : after? separator (back ++ (separator ++ text)) = some (rest ++ text) := by
      refine after?_eq_some_iff.mpr ?_
      calc back ++ (separator ++ text) = back ++ (border ++ rest ++ text) := by rw [hborder]
        _ = separator ++ (rest ++ text) := by simp [hends]
    rw [hclear back hsuffix hback] at hsome
    contradiction
  · rintro ⟨habsent, hborder⟩ back hsuffix hback
    cases hafter : after? separator (back ++ (separator ++ text)) with
    | none => rfl
    | some after =>
        have hinside : ¬ separator <+: back := fun hfound =>
          habsent (hfound.isInfix.trans hsuffix.isInfix)
        rcases List.append_eq_append_iff.mp (after?_eq_some_iff.mp hafter) with
          ⟨border, hends, hrest⟩ | ⟨more, hmore, -⟩
        · have hnonempty : border ≠ [] := by
            rintro rfl
            exact hinside ⟨[], by simpa using hends⟩
          have hbegins : border <+: separator := by
            refine List.prefix_of_prefix_length_le ⟨after, hrest.symm⟩ ⟨text, rfl⟩ ?_
            rw [hends, List.length_append]
            exact Nat.le_add_left ..
          exact absurd hsuffix (hborder back border ⟨hback, hnonempty, hends, hbegins⟩)
        · exact absurd ⟨more, hmore.symm⟩ hinside

/-! The first occurrence. -/

theorem exists_clear_front (hoccurs : separator <:+: text) :
    ∃ front rest, text = front ++ (separator ++ rest) ∧
      Clear separator front (separator ++ rest) := by
  induction text with
  | nil => exact ⟨[], [], by simpa using hoccurs, .nil⟩
  | cons c text ih =>
      cases hafter : after? separator (c :: text) with
      | some rest =>
          have htext : c :: text = separator ++ rest := after?_eq_some_iff.mp hafter
          exact ⟨[], rest, htext, .nil⟩
      | none =>
          have htail : separator <:+: text := by
            refine (List.infix_cons_iff.mp hoccurs).resolve_left ?_
            rintro ⟨rest, hrest⟩
            rw [after?_eq_some_iff.mpr hrest.symm] at hafter
            contradiction
          obtain ⟨front, rest, rfl, hclear⟩ := ih htail
          exact ⟨c :: front, rest, rfl, hclear.cons hafter⟩

theorem Clear.length_le {before after : List Char}
    (hclear : Clear separator front (separator ++ rest))
    (hsame : front ++ (separator ++ rest) = before ++ (separator ++ after)) :
    front.length ≤ before.length := by
  rcases List.append_eq_append_iff.mp hsame with ⟨more, hbefore, -⟩ | ⟨more, hfront, hafter⟩
  · simp [hbefore]
  · cases more with
    | nil => simp [hfront]
    | cons c more =>
        have hnone := hclear (c :: more) ⟨before, hfront.symm⟩ (List.cons_ne_nil _ _)
        rw [← hafter, after?_eq_some_iff.mpr rfl] at hnone
        contradiction

/-! The pieces of any text. -/

/-- A text either lacks the separator or is cut at its first occurrence. -/
theorem pieces_induction {motive : List Char → Prop} (hseparator : separator ≠ [])
    (single : ∀ text, ¬ separator <:+: text → motive text)
    (cut : ∀ front rest, Clear separator front (separator ++ rest) → motive rest →
      motive (front ++ (separator ++ rest)))
    (text : List Char) : motive text := by
  by_cases hoccurs : separator <:+: text
  · obtain ⟨front, rest, htext, hclear⟩ := exists_clear_front hoccurs
    rw [htext]
    exact cut front rest hclear (pieces_induction hseparator single cut rest)
  · exact single text hoccurs
termination_by text.length
decreasing_by
  have hpositive := List.length_pos_iff.mpr hseparator
  have hlength := congrArg List.length htext
  simp only [List.length_append] at hlength
  omega

section Pieces

variable (hseparator : separator ≠ [])

include hseparator

theorem pieces_of_no_separator (habsent : ¬ separator <:+: text) : pieces separator text = [text] :=
  pieces_of_clear ((clear_nil_iff hseparator).mpr habsent)

theorem pieces_ne_nil (text : List Char) : pieces separator text ≠ [] := by
  induction text using pieces_induction hseparator with
  | single text habsent => simp [pieces_of_no_separator hseparator habsent]
  | cut front rest hclear _ => simp [pieces_append hseparator hclear]

theorem join_pieces (text : List Char) : join separator (pieces separator text) = text := by
  induction text using pieces_induction hseparator with
  | single text habsent => rw [pieces_of_no_separator hseparator habsent, join_singleton]
  | cut front rest hclear ih =>
      rw [pieces_append hseparator hclear, join_cons _ _ (pieces_ne_nil hseparator rest), ih,
        List.append_assoc]

theorem no_separator_of_mem_pieces (hpiece : piece ∈ pieces separator text) :
    ¬ separator <:+: piece := by
  induction text using pieces_induction hseparator with
  | single text habsent =>
      rw [pieces_of_no_separator hseparator habsent, List.mem_singleton] at hpiece
      exact hpiece ▸ habsent
  | cut front rest hclear ih =>
      rw [pieces_append hseparator hclear, List.mem_cons] at hpiece
      rcases hpiece with rfl | hpiece
      · exact hclear.no_separator hseparator
      · exact ih hpiece

theorem prefix_of_pieces_eq_cons {more : List (List Char)}
    (hpieces : pieces separator text = piece :: more) : piece <+: text := by
  have htext := join_pieces hseparator text
  rw [hpieces] at htext
  cases more with
  | nil => exact ⟨[], by simpa using htext⟩
  | cons next more =>
      rw [join, List.append_assoc] at htext
      exact ⟨_, htext⟩

theorem pieces_eq_singleton_iff :
    pieces separator text = [piece] ↔ piece = text ∧ ¬ separator <:+: text := by
  constructor
  · intro hpieces
    have htext := join_pieces hseparator text
    rw [hpieces, join_singleton] at htext
    refine ⟨htext, ?_⟩
    rw [← htext]
    exact no_separator_of_mem_pieces hseparator (hpieces ▸ List.mem_singleton.mpr rfl)
  · rintro ⟨rfl, habsent⟩
    exact pieces_of_no_separator hseparator habsent

end Pieces

/-! The items of a list. -/

theorem clear_item_iff {item text : List Char} :
    Clear ", ".toList item (", ".toList ++ text) ↔ ¬ ", ".toList <:+: item := by
  rw [clear_separator_iff (by decide), and_iff_left_iff_imp]
  rintro - back border ⟨hback, hborder, hends, hbegins⟩
  -- The comma is not a space, so no part of the separator is both its end and its front.
  rcases back with _ | ⟨a, _ | ⟨b, back⟩⟩
  · contradiction
  · obtain ⟨-, rfl⟩ : ',' = a ∧ [' '] = border := List.cons_eq_cons.mp hends
    exact absurd hbegins (by decide)
  · simp at hends
    exact absurd hends.2.2.2 hborder

theorem items_joinItems {list : List String} (hlist : list ≠ [])
    (hitems : ∀ item ∈ list, ¬ ", ".toList <:+: item.toList) : items (joinItems list) = list := by
  have hpieces : pieces ", ".toList (join ", ".toList (list.map String.toList)) =
      list.map String.toList := by
    refine pieces_join (by decide) (by simpa using hlist) fun piece hpiece => ?_
    obtain ⟨item, hitem, rfl⟩ := List.mem_map.mp hpiece
    exact ⟨(clear_nil_iff (by decide)).mpr (hitems item hitem),
      fun _ => clear_item_iff.mpr (hitems item hitem)⟩
  calc items (joinItems list)
      = (pieces ", ".toList (join ", ".toList (list.map String.toList))).map String.ofList :=
        congrArg (fun text => (pieces ", ".toList text).map String.ofList) String.toList_ofList
    _ = (list.map String.toList).map String.ofList := congrArg _ hpieces
    _ = list := by simp [Function.comp_def]

theorem items_ne_nil (text : String) : items text ≠ [] := by
  intro hnil
  exact pieces_ne_nil (by decide) text.toList (List.map_eq_nil_iff.mp hnil)

theorem no_separator_of_mem_items {text item : String} (hitem : item ∈ items text) :
    ¬ ", ".toList <:+: item.toList := by
  obtain ⟨piece, hpiece, rfl⟩ := List.mem_map.mp hitem
  have hsame : (String.ofList piece).toList = piece := String.toList_ofList
  rw [hsame]
  exact no_separator_of_mem_pieces (by decide) hpiece

theorem joinItems_items (text : String) : joinItems (items text) = text := by
  have hpieces : (items text).map String.toList = pieces ", ".toList text.toList := by
    simp [items, Function.comp_def]
  rw [joinItems, hpieces, join_pieces (by decide), String.ofList_toList]

/-- The items of any text join to the text, and there is always one; no item holds the separator. A
list is found again in its written form if and only if it has an item and none of its items holds
the separator: the separator does not begin with its own end, so none is formed where an item
meets one. -/
theorem items_exact :
    (∀ text : String, items text ≠ [] ∧
      (∀ item ∈ items text, ¬ ", ".toList <:+: item.toList) ∧ joinItems (items text) = text) ∧
    ∀ list : List String, items (joinItems list) = list ↔
      list ≠ [] ∧ ∀ item ∈ list, ¬ ", ".toList <:+: item.toList := by
  constructor
  · intro text
    exact ⟨items_ne_nil text, fun _ => no_separator_of_mem_items, joinItems_items text⟩
  · intro list
    constructor
    · intro hread
      rw [← hread]
      exact ⟨items_ne_nil _, fun _ => no_separator_of_mem_items⟩
    · rintro ⟨hlist, hitems⟩
      exact items_joinItems hlist hitems

end RowStore.Text
