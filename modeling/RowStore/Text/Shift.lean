namespace RowStore.Text

/-- Every `step`-th letter from `first` to `last`, and how far away its counterpart is. -/
structure Shift where
  first : Nat
  last : Nat
  step : Nat
  distance : Int
  deriving DecidableEq

def Shift.covers (shift : Shift) (point : Nat) : Bool :=
  shift.first ≤ point && point ≤ shift.last && (point - shift.first) % shift.step == 0

/-- The counterpart of a letter that one of the shifts covers; any other stays what it is. -/
def shifted (shifts : List Shift) (point : Nat) : Nat :=
  match shifts.find? (·.covers point) with
  | some shift => (point + shift.distance).toNat
  | none => point

example : shifted [⟨0x61, 0x7A, 1, -32⟩] 'b'.toNat = 'B'.toNat := by decide

end RowStore.Text
