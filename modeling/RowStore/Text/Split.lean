/-!
Cutting a text at a separator, and joining the pieces again.

The separator is sought from the left, and the search goes on behind each occurrence found, so
occurrences never overlap. A text without the separator is its own only piece.
-/

namespace RowStore.Text

def after? : (lead text : List Char) → Option (List Char)
  | [], text => some text
  | _ :: _, [] => none
  | l :: lead, c :: text => if l = c then after? lead text else none

@[simp] theorem after?_nil (text : List Char) : after? [] text = some text := by
  cases text <;> rfl

theorem after?_eq_some_iff {lead text rest : List Char} :
    after? lead text = some rest ↔ text = lead ++ rest := by
  induction lead generalizing text with
  | nil => simp
  | cons l lead ih =>
    cases text with
    | nil => simp [after?]
    | cons c text =>
      by_cases h : l = c
      · simp [after?, h, ih]
      · simp [after?, h, Ne.symm h]

def consFirst (c : Char) : List (List Char) → List (List Char)
  | [] => [[c]]
  | piece :: pieces => (c :: piece) :: pieces

/-- The pieces of a text of which the first `skip` characters still belong to a separator. -/
def piecesAfter (separator : List Char) : (skip : Nat) → List Char → List (List Char)
  | _, [] => [[]]
  | skip + 1, _ :: text => piecesAfter separator skip text
  | 0, c :: text =>
      match after? separator (c :: text) with
      | some _ => [] :: piecesAfter separator (separator.length - 1) text
      | none => consFirst c (piecesAfter separator 0 text)

/-- The pieces of a text between the occurrences of a nonempty separator. -/
def pieces (separator text : List Char) : List (List Char) :=
  piecesAfter separator 0 text

def join (separator : List Char) : List (List Char) → List Char
  | [] => []
  | [piece] => piece
  | piece :: next :: pieces => piece ++ separator ++ join separator (next :: pieces)

@[simp] theorem pieces_nil (separator : List Char) : pieces separator [] = [[]] := rfl

@[simp] theorem join_nil (separator : List Char) : join separator [] = [] := rfl

@[simp] theorem join_singleton (separator piece : List Char) :
    join separator [piece] = piece := rfl

theorem join_cons (separator piece : List Char) {pieces : List (List Char)} (h : pieces ≠ []) :
    join separator (piece :: pieces) = piece ++ separator ++ join separator pieces := by
  cases pieces with
  | nil => exact absurd rfl h
  | cons next pieces => rfl

end RowStore.Text
