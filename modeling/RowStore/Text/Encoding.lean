namespace RowStore.Text

def isHighSurrogate (unit : Nat) : Bool := 0xD800 ≤ unit && unit < 0xDC00

def isLowSurrogate (unit : Nat) : Bool := 0xDC00 ≤ unit && unit < 0xE000

/-- The code points that a sequence of units writes. A surrogate without its partner stays. -/
def joinUnits : List Nat → List Nat
  | [] => []
  | [unit] => [unit]
  | unit :: next :: units =>
      if isHighSurrogate unit && isLowSurrogate next then
        (0x10000 + (unit - 0xD800) * 0x400 + (next - 0xDC00)) :: joinUnits units
      else unit :: joinUnits (next :: units)

/-- The text of code points, unless a surrogate is among them. -/
def ofPoints? (points : List Nat) : Option String :=
  if points.any fun point => isHighSurrogate point || isLowSurrogate point then none
  else some (String.ofList (points.map Char.ofNat))

example : ofPoints? (joinUnits [0xD83D, 0xDE00]) = some "😀" := by decide

example : ofPoints? (joinUnits [0xDE00, 0xD83D]) = none := by decide

end RowStore.Text
