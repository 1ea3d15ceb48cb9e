import RowStore.Decimal.Numeral
import RowStore.Text.Blank
import RowStore.Text.Split

namespace RowStore.Validation

/-- Blank characters other than the information separators. -/
def isMargin (c : Char) : Bool :=
  Text.isBlank c && !(0x1C ≤ c.toNat && c.toNat ≤ 0x1F)

def trim (text : List Char) : List Char :=
  ((text.dropWhile isMargin).reverse.dropWhile isMargin).reverse

/-- A text without its underscores, each of which must stand alone inside it. -/
def ungrouped? (text : List Char) : Option (List Char) :=
  let groups := Text.pieces ['_'] text
  if groups.any (·.isEmpty) then none else some groups.flatten

inductive Misnumbered
  | malformed
  | overlong
  deriving DecidableEq

/-- What follows leading zeros, the last character of which is at hand. They end at a digit or a
minus. They end at a point as well, but then the last character stays. -/
def afterZeros? (last : Char) : List Char → Option (List Char)
  | [] => some [last]
  | c :: text =>
      if c = '0' || c = '_' then afterZeros? c text
      else if c.isDigit || c = '-' then some (c :: text)
      else if c = '.' then some (last :: c :: text)
      else none

def withoutZeros? : List Char → Option (List Char)
  | '0' :: text => afterZeros? '0' text
  | c :: text => if c.isDigit then some (c :: text) else none
  | [] => none

def withoutFraction (text : List Char) : List Char :=
  match text.dropWhile (· ≠ '.') with
  | _ :: zeros =>
      if zeros ≠ [] && zeros.all (· = '0') then text.takeWhile (· ≠ '.') else text
  | [] => text

/-- A numeral of digits alone that does not begin with a zero, unless it is zero. One that is too
long is not looked at to its end. -/
def numeral (negative : Bool) (text : List Char) : Except Misnumbered Int :=
  let (digits, rest) := Numeral.digits text
  if digits = [] then .error .malformed
  else if text.head? = some '0' then if text = ['0'] then .ok 0 else .error .malformed
  else if Numeral.maxDigits < digits.length then .error .overlong
  else if rest = [] then .ok (Binary64.signed negative (Numeral.value digits))
  else .error .malformed

def plainInteger : List Char → Except Misnumbered Int
  | '-' :: text => numeral true text
  | text => numeral false text

/-- A numeral without a plus, without zeros in front and behind a point, and without underscores.
A minus may stand in front of the whole text or behind its leading zeros, but not at both places. -/
def simplified? (text : List Char) : Option (List Char) := do
  let (negative, body) := Numeral.sign text
  let plain := withoutFraction (← withoutZeros? body)
  let digits := (ungrouped? plain).getD plain
  if negative then if digits.head? = some '-' then none else some ('-' :: digits)
  else some digits

/-- Only a text that is not a numeral as it stands is trimmed and simplified. One that is then too
long is malformed. -/
def integer (text : List Char) : Except Misnumbered Int :=
  match plainInteger text with
  | .error .malformed =>
      match (simplified? (trim text)).map plainInteger with
      | some (.ok number) => .ok number
      | _ => .error .malformed
  | result => result

def digitsAfterPoint : List Char → List Char × List Char
  | '.' :: text => Numeral.digits text
  | text => ([], text)

def decimal? (negative : Bool) (text : List Char) : Option Binary64 :=
  let (whole, rest) := Numeral.digits text
  let (part, rest) := digitsAfterPoint rest
  if whole = [] && part = [] then none
  else if rest = [] then some (Numeral.toBinary64 negative whole part 0)
  else
    match Numeral.exponent? rest with
    | some (exponent, []) => some (Numeral.toBinary64 negative whole part exponent)
    | _ => none

def plainReal? (text : List Char) : Option Binary64 :=
  let (negative, body) := Numeral.sign text
  let word := String.ofList (body.map Char.toLower)
  if word = "inf" || word = "infinity" then some (.infinite negative)
  else if word = "nan" then some .undefined
  else decimal? negative body

/-- Only a text that is not a number as it stands is read without its underscores. -/
def real? (text : List Char) : Option Binary64 :=
  (plainReal? (trim text)).or ((ungrouped? text).bind plainReal?)

example : (integer " +1_0.00 ".toList).toOption = some 10 := by decide

example : (integer "0-1".toList).toOption = some (-1) := by decide

example : (integer "1e1".toList).toOption = none := by decide

end RowStore.Validation
