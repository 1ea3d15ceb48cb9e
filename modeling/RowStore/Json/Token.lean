import RowStore.Decimal.Numeral
import RowStore.Json.Basic
import RowStore.Text.Encoding
import RowStore.Text.Hex
import RowStore.Text.Split

/-!
The tokens of a value's text.

Each token knows its place, which is the number of characters from its start to the end of the
text. The names `NaN`, `Infinity` and `-Infinity` are read as numbers. Nothing is read behind a
text that is at fault or a character that begins no token. A whole number has a greatest length.
-/

namespace RowStore.Json

namespace Token

def unit? (a b c d : Char) : Option Nat := do
  return (← Text.hexByte? a b) * 256 + (← Text.hexByte? c d)

def escape? : Char → Option Char
  | '"' => some '"'
  | '\\' => some '\\'
  | '/' => some '/'
  | 'b' => some '\x08'
  | 'f' => some '\x0C'
  | 'n' => some '\n'
  | 'r' => some '\r'
  | 't' => some '\t'
  | _ => none

def consUnit (unit : Nat) :
    Except Nat (List Nat × List Char) → Except Nat (List Nat × List Char)
  | .ok (units, rest) => .ok (unit :: units, rest)
  | .error left => .error left

/-- The units up to the closing quote, and what follows it. A text without a closing quote is at
fault at its opening quote, which is `opening` characters from the end. An escape of four digits
needs a character behind it. -/
def quoted (opening : Nat) : List Char → Except Nat (List Nat × List Char)
  | [] => .error opening
  | '"' :: rest => .ok ([], rest)
  | ['\\'] => .error opening
  | '\\' :: 'u' :: a :: b :: c :: d :: next :: rest =>
      match unit? a b c d with
      | none => .error (rest.length + 6)
      | some unit => consUnit unit (quoted opening (next :: rest))
  | '\\' :: 'u' :: rest => .error (rest.length + 1)
  | '\\' :: letter :: rest =>
      match escape? letter with
      | none => .error (rest.length + 2)
      | some c => consUnit c.toNat (quoted opening rest)
  | c :: rest =>
      if c.toNat < 0x20 then .error (rest.length + 1)
      else consUnit c.toNat (quoted opening rest)

def whole? : List Char → Option (List Char × List Char)
  | '0' :: rest => some (['0'], rest)
  | text => if (Numeral.digits text).1 = [] then none else some (Numeral.digits text)

inductive Shape
  | mark (c : Char)
  | value (json : Json)
  | string (points : List Nat)
  | overlong
  | broken (left : Nat)
  | stray

def integer (negative : Bool) (digits : List Char) : Shape :=
  if Numeral.maxDigits < digits.length then .overlong
  else .value (.int (Binary64.signed negative (Numeral.value digits)))

def unsigned? (negative : Bool) (text : List Char) : Option (Shape × List Char) := do
  let (whole, rest) ← whole? text
  match Numeral.fraction? rest with
  | none =>
      match Numeral.exponent? rest with
      | none => return (integer negative whole, rest)
      | some (exponent, rest) =>
          return (.value (.real (Numeral.toBinary64 negative whole [] exponent)), rest)
  | some (part, rest) =>
      let (exponent, rest) := (Numeral.exponent? rest).getD (0, rest)
      return (.value (.real (Numeral.toBinary64 negative whole part exponent)), rest)

def number? : List Char → Option (Shape × List Char)
  | '-' :: text => unsigned? true text
  | text => unsigned? false text

def names : List (String × Json) :=
  [("null", .null), ("true", .bool true), ("false", .bool false), ("NaN", .real .undefined),
   ("Infinity", .real (.infinite false)), ("-Infinity", .real (.infinite true))]

def named? (text : List Char) : Option (Shape × List Char) :=
  names.findSome? fun (name, json) =>
    (Text.after? name.toList text).map fun rest => (.value json, rest)

def isSpace (c : Char) : Bool := c = ' ' || c = '\t' || c = '\n' || c = '\r'

def marks : List Char := ['[', ']', '\x7b', '\x7d', ',', ':']

end Token

structure Token where
  left : Nat
  shape : Token.Shape

namespace Token

/-- The tokens of a text of `left` characters, the first `skip` of which belong to a token before
it. -/
def scanFrom : (left skip : Nat) → List Char → List Token
  | _, _, [] => []
  | left, skip + 1, _ :: text => scanFrom (left - 1) skip text
  | left, 0, c :: text =>
      if isSpace c then scanFrom (left - 1) 0 text
      else if c ∈ marks then ⟨left, .mark c⟩ :: scanFrom (left - 1) 0 text
      else if c = '"' then
        match quoted left text with
        | .error fault => [⟨left, .broken fault⟩]
        | .ok (units, rest) =>
            ⟨left, .string (Text.joinUnits units)⟩ ::
              scanFrom (left - 1) (text.length - rest.length) text
      else
        match (named? (c :: text)).or (number? (c :: text)) with
        | none => [⟨left, .stray⟩]
        | some (shape, rest) =>
            ⟨left, shape⟩ :: scanFrom (left - 1) (text.length - rest.length) text

def scan (text : List Char) : List Token := scanFrom text.length 0 text

end Token

end RowStore.Json
