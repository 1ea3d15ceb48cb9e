import RowStore.Decimal.Shortest
import RowStore.OrderedMap

/-!
Values of the data format that requests, settings and journal entries share.

Whole numbers are kept apart from reals. The members of an object keep their order. What is read may
hold a surrogate that stands alone, in a text or in the name of a member; such a text is torn.
-/

namespace RowStore

inductive Json
  | null
  | bool (value : Bool)
  | int (value : Int)
  | real (value : Binary64)
  | string (value : String)
  | torn (points : List Nat)
  | list (items : List Json)
  | object (members : List (String × Json))
  | tornObject (members : List (String × Json)) (others : List (List Nat × Json))

namespace Json

instance : Inhabited Json := ⟨null⟩

/-- The members of an object whose names are not torn. -/
def members? : Json → Option (List (String × Json))
  | object members | tornObject members _ => some members
  | _ => none

def member? (name : String) (value : Json) : Option Json :=
  value.members?.bind (entryValue? name)

/-- Nothing, no, zero and what is empty do not hold. -/
def isTruthy : Json → Bool
  | null | string "" | torn [] | list [] | object [] | tornObject [] [] => false
  | bool value => value
  | int value => value ≠ 0
  | real value => value.compare? .zero ≠ some .eq
  | _ => true

mutual

/-- Whether something holds of a value and of all values in it. -/
def every (holds : Json → Bool) : Json → Bool
  | list items => holds (list items) && everyItem holds items
  | object members => holds (object members) && everyMember holds members
  | tornObject members others =>
      holds (tornObject members others) && everyMember holds members && everyOther holds others
  | value => holds value

def everyItem (holds : Json → Bool) : List Json → Bool
  | [] => true
  | item :: items => item.every holds && everyItem holds items

def everyMember (holds : Json → Bool) : List (String × Json) → Bool
  | [] => true
  | (_, value) :: members => value.every holds && everyMember holds members

def everyOther (holds : Json → Bool) : List (List Nat × Json) → Bool
  | [] => true
  | (_, value) :: members => value.every holds && everyOther holds members

end

/-- Numbers that are not finite can only be read. -/
def isFinite : Json → Bool := every fun
  | real value => value.isFinite
  | _ => true

def isWhole : Json → Bool := every fun
  | torn _ | tornObject .. => false
  | _ => true

mutual

def height : Json → Nat
  | list items => heightOfItems items + 1
  | object members => heightOfMembers members + 1
  | tornObject members others => max (heightOfMembers members) (heightOfOthers others) + 1
  | _ => 0

def heightOfItems : List Json → Nat
  | [] => 0
  | item :: items => max item.height (heightOfItems items)

def heightOfMembers : List (String × Json) → Nat
  | [] => 0
  | (_, value) :: members => max value.height (heightOfMembers members)

def heightOfOthers : List (List Nat × Json) → Nat
  | [] => 0
  | (_, value) :: members => max value.height (heightOfOthers members)

end

end Json

end RowStore
