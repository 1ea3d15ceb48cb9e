import RowStore.Decimal.Numeral
import RowStore.Text.Hex
import RowStore.Text.Split

namespace RowStore.Client.Address

def isByte (text : List Char) : Bool :=
  text ≠ [] && text.all Char.isDigit && text.length ≤ 3 &&
    (text.head? ≠ some '0' || text = ['0']) && Numeral.value text < 0x100

def isFourBytes (text : List Char) : Bool :=
  let bytes := Text.pieces ['.'] text
  bytes.length == 4 && bytes.all isByte

def isGroup (text : List Char) : Bool :=
  text ≠ [] && text.length ≤ 4 && text.all fun c => (Text.hexDigit? c).isSome

def groups? (text : List Char) : Option (List (List Char)) :=
  let groups := Text.pieces [':'] text
  match groups.getLast? with
  | some last =>
      if '.' ∈ last then
        if isFourBytes last then some (groups.dropLast ++ [['0'], ['0']]) else none
      else some groups
  | none => none

/-- The number of groups on one side of those that are left out. There may be none, and then the
colon on that side has nothing beside it. -/
def sideLength? (side : List (List Char)) : Option Nat :=
  if side = [[]] then some 0 else if side.all isGroup then some side.length else none

def isElided (front back : List (List Char)) : Bool :=
  match sideLength? front, sideLength? back with
  | some before, some after => before + after < 8
  | _, _ => false

/-- Groups are left out where nothing stands between two colons, which is not at the ends. -/
def isEightGroups (groups : List (List Char)) : Bool :=
  match groups with
  | [] => false
  | first :: rest =>
      let inner := rest.dropLast
      if [] ∈ inner then
        let (front, back) := rest.span (· ≠ [])
        isElided (first :: front) back.tail
      else groups.length == 8 && groups.all isGroup

def isZone : List Char → Bool
  | [] => true
  | _ :: zone => zone ≠ [] && '%' ∉ zone

def isInGroups (text : List Char) : Bool :=
  let (address, zone) := text.span (· ≠ '%')
  isZone zone && (groups? address).any isEightGroups

example : isFourBytes "127.0.0.1".toList = true := by decide

example : isInGroups "::ffff:1.2.3.4%eth0".toList = true := by decide

example : isInGroups "1::2::3".toList = false := by decide

end RowStore.Client.Address
