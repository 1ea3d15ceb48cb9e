import RowStore.Decimal.Binary64

namespace RowStore.Numeral

def value (digits : List Char) : Nat :=
  digits.foldl (fun number c => 10 * number + (c.toNat - '0'.toNat)) 0

def maxDigits : Nat := 4300

def digits (text : List Char) : List Char × List Char :=
  (text.takeWhile Char.isDigit, text.dropWhile Char.isDigit)

/-- A minus or plus sign at the front of a text: whether it is a minus, and what follows. -/
def sign : List Char → Bool × List Char
  | '-' :: text => (true, text)
  | '+' :: text => (false, text)
  | text => (false, text)

def fraction? : List Char → Option (List Char × List Char)
  | '.' :: text => if (digits text).1 = [] then none else some (digits text)
  | _ => none

def exponent? : List Char → Option (Int × List Char)
  | [] => none
  | c :: text =>
      if (c = 'e' || c = 'E') && (digits (sign text).2).1 ≠ [] then
        some (Binary64.signed (sign text).1 (value (digits (sign text).2).1),
          (digits (sign text).2).2)
      else none

def toBinary64 (negative : Bool) (whole part : List Char) (exponent : Int) : Binary64 :=
  Binary64.ofDecimal negative (value (whole ++ part)) (exponent - part.length)

end RowStore.Numeral
