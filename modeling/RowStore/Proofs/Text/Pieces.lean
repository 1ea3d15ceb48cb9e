import RowStore.Text.Listing

namespace RowStore.Text

theorem append_eq_append_cons {front rest before after : List Char} {c : Char} (hc : c ∉ front)
    (h : front ++ rest = before ++ c :: after) :
    ∃ between, before = front ++ between ∧ rest = between ++ c :: after := by
  rcases List.append_eq_append_iff.mp h with ⟨between, hbefore, hrest⟩ | ⟨between, hfront, hafter⟩
  · exact ⟨between, hbefore, hrest⟩
  · cases between with
    | nil =>
        rw [List.append_nil] at hfront
        exact ⟨[], by rw [hfront, List.append_nil], hafter.symm⟩
    | cons d between =>
        obtain ⟨rfl, -⟩ := List.cons_eq_cons.mp hafter
        exact absurd (by simp [hfront]) hc

/-- No occurrence of a separator begins inside a piece with the text behind it. -/
def Clear (separator piece behind : List Char) : Prop :=
  ∀ back, back <:+ piece → back ≠ [] → after? separator (back ++ behind) = none

namespace Clear

variable {separator piece behind : List Char}

theorem nil : Clear separator [] behind := fun _ hback hnonempty =>
  absurd (List.suffix_nil.mp hback) hnonempty

theorem cons {c : Char} (hhead : after? separator (c :: (piece ++ behind)) = none)
    (hclear : Clear separator piece behind) : Clear separator (c :: piece) behind := by
  intro back hback hnonempty
  rcases List.suffix_cons_iff.mp hback with rfl | hback
  · exact hhead
  · exact hclear back hback hnonempty

theorem head {c : Char} (hclear : Clear separator (c :: piece) behind) :
    after? separator (c :: (piece ++ behind)) = none :=
  hclear (c :: piece) List.suffix_rfl (List.cons_ne_nil _ _)

theorem tail {c : Char} (hclear : Clear separator (c :: piece) behind) :
    Clear separator piece behind :=
  fun back hback => hclear back (hback.trans (List.suffix_cons ..))

end Clear

/-! Cutting. -/

theorem piecesAfter_length (separator front text : List Char) :
    piecesAfter separator front.length (front ++ text) = piecesAfter separator 0 text := by
  induction front with
  | nil => rfl
  | cons c front ih => exact ih

theorem pieces_cons {separator text : List Char} {c : Char}
    (hnone : after? separator (c :: text) = none) :
    pieces separator (c :: text) = consFirst c (pieces separator text) := by
  rw [pieces, piecesAfter, hnone]
  rfl

theorem pieces_separator {separator : List Char} (hseparator : separator ≠ [])
    (text : List Char) : pieces separator (separator ++ text) = [] :: pieces separator text := by
  cases separator with
  | nil => exact absurd rfl hseparator
  | cons c separator =>
      have hafter : after? (c :: separator) (c :: (separator ++ text)) = some text :=
        after?_eq_some_iff.mpr rfl
      rw [List.cons_append, pieces, piecesAfter, hafter]
      exact congrArg _ (piecesAfter_length ..)

theorem pieces_of_clear {separator piece : List Char} (hclear : Clear separator piece []) :
    pieces separator piece = [piece] := by
  induction piece with
  | nil => rfl
  | cons c piece ih =>
      have hhead := hclear.head
      rw [List.append_nil] at hhead
      rw [pieces_cons hhead, ih hclear.tail]
      rfl

theorem pieces_append {separator piece text : List Char} (hseparator : separator ≠ [])
    (hclear : Clear separator piece (separator ++ text)) :
    pieces separator (piece ++ (separator ++ text)) = piece :: pieces separator text := by
  induction piece with
  | nil => exact pieces_separator hseparator text
  | cons c piece ih =>
      rw [List.cons_append, pieces_cons hclear.head, ih hclear.tail]
      rfl

theorem pieces_join {separator : List Char} {list : List (List Char)}
    (hseparator : separator ≠ []) (hlist : list ≠ [])
    (hclear : ∀ piece ∈ list, Clear separator piece [] ∧
      ∀ text, Clear separator piece (separator ++ text)) :
    pieces separator (join separator list) = list := by
  induction list with
  | nil => exact absurd rfl hlist
  | cons piece list ih =>
      have hpiece := hclear piece List.mem_cons_self
      cases list with
      | nil => exact pieces_of_clear hpiece.1
      | cons next list =>
          have hrest := ih (List.cons_ne_nil _ _) fun other hother =>
            hclear other (List.mem_cons_of_mem _ hother)
          rw [join, List.append_assoc, pieces_append hseparator (hpiece.2 _), hrest]

theorem mem_join {separator : List Char} {list : List (List Char)} {c : Char}
    (hmem : c ∈ join separator list) : c ∈ separator ∨ ∃ piece ∈ list, c ∈ piece := by
  induction list with
  | nil => simp at hmem
  | cons piece list ih =>
      cases list with
      | nil => exact .inr ⟨piece, List.mem_cons_self, hmem⟩
      | cons next list =>
          rw [join_cons _ _ (List.cons_ne_nil _ _), List.append_assoc, List.mem_append,
            List.mem_append] at hmem
          rcases hmem with hpiece | hseparator | hrest
          · exact .inr ⟨piece, List.mem_cons_self, hpiece⟩
          · exact .inl hseparator
          · exact (ih hrest).imp_right fun ⟨other, hother, hc⟩ =>
              ⟨other, List.mem_cons_of_mem _ hother, hc⟩

theorem not_mem_joinItems {list : List String} {c : Char} (hseparator : c ∉ ", ".toList)
    (hc : ∀ item ∈ list, c ∉ item.toList) : c ∉ (joinItems list).toList := by
  intro hmem
  have hjoin : c ∈ join ", ".toList (list.map String.toList) :=
    String.toList_ofList.subst (motive := fun text => c ∈ text) hmem
  rcases mem_join hjoin with hfound | ⟨piece, hpiece, hfound⟩
  · exact hseparator hfound
  · obtain ⟨item, hitem, rfl⟩ := List.mem_map.mp hpiece
    exact hc item hitem hfound

end RowStore.Text
