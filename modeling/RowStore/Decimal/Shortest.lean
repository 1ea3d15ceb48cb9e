import RowStore.Decimal.Binary64

/-!
The shortest decimal text of a binary floating-point number.

A number stands for the interval of the reals that round to it, ends included when its mantissa is
even. Its decimal is the one with the fewest digits in that interval, and of those the nearest.
-/

namespace RowStore

/-- `digits * 10 ^ exponent`. -/
structure Decimal where
  digits : Nat
  exponent : Int
  deriving DecidableEq

namespace Decimal

open Binary64 (twos tens)

/-- `digits * 10 ^ exponent` against `mantissa * 2 ^ power`. -/
def compareBinary (decimal : Decimal) (mantissa : Nat) (power : Int) : Ordering :=
  compare (decimal.digits * tens decimal.exponent * twos (-power))
    (mantissa * twos power * tens (-decimal.exponent))

/-- Whether a decimal rounds to the positive number `mantissa * 2 ^ power`. The gap below a power
of two is half the gap above it, except below the least normal number. -/
def readsAs (decimal : Decimal) (mantissa : Nat) (power : Int) : Bool :=
  let narrow := mantissa = twos 52 && -1074 < power
  let below := if narrow then 1 else 2
  let low := decimal.compareBinary (4 * mantissa - below) (power - 2)
  let high := decimal.compareBinary (4 * mantissa + 2) (power - 2)
  let even := mantissa % 2 = 0
  (low == .gt || even && low == .eq) && (high == .lt || even && high == .eq)

/-- The number of digits before the point of a positive number `mantissa * 2 ^ power`, or minus
the number of zeros behind the point. -/
def magnitude (mantissa : Nat) (power : Int) : Int :=
  (Nat.toDigits 10 (mantissa * twos power * tens 400 / twos (-power))).length - 400

/-- The decimal with a given exponent next to a positive number, if it reads as that number: the
nearer of the two neighbours, and of two equally near ones the even one. -/
def neighbour? (mantissa : Nat) (power exponent : Int) : Option Decimal :=
  let number := mantissa * twos power * tens (-exponent)
  let divisor := twos (-power) * tens exponent
  let lower : Decimal := ⟨number / divisor, exponent⟩
  let upper : Decimal := ⟨number / divisor + 1, exponent⟩
  let nearest : Decimal := ⟨Binary64.roundedQuotient number divisor, exponent⟩
  let readable := fun decimal => readsAs decimal mantissa power
  if readable nearest then some nearest else [lower, upper].find? readable

/-- The first hit on the grids of `tried + 1`, `tried + 2`, … digits, else the exact value. -/
def search (mantissa : Nat) (power size : Int) : (left tried : Nat) → Decimal
  | 0, _ => ⟨mantissa * twos power * Nat.pow 5 (-power).toNat, min power 0⟩
  | left + 1, tried =>
      match neighbour? mantissa power (size - (tried + 1)) with
      | some decimal => decimal
      | none => search mantissa power size left (tried + 1)

def shortest (mantissa : Nat) (power : Int) : Decimal :=
  search mantissa power (magnitude mantissa power) 17 0

def placed (decimal : Decimal) : List Char × Int :=
  let written := Nat.toDigits 10 decimal.digits
  let kept := (written.reverse.dropWhile (· = '0')).reverse
  (kept, written.length + decimal.exponent)

/-- Positional when the point falls among or near the digits, with at least one digit on each side
of it; otherwise with an exponent of at least two digits. -/
def layout (digits : List Char) (point : Int) : List Char :=
  if -4 < point && point ≤ 16 then
    if point ≤ 0 then '0' :: '.' :: (List.replicate (-point).toNat '0' ++ digits)
    else
      let whole := digits.take point.toNat
      let part := digits.drop point.toNat
      whole ++ List.replicate (point.toNat - digits.length) '0' ++
        '.' :: (if part = [] then ['0'] else part)
  else
    let part := digits.drop 1
    let size := Nat.toDigits 10 (point - 1).natAbs
    digits.take 1 ++ (if part = [] then [] else '.' :: part) ++
      'e' :: (if point - 1 < 0 then '-' else '+') ::
        (if size.length < 2 then '0' :: size else size)

end Decimal

namespace Binary64

def text : Binary64 → String
  | undefined => "nan"
  | infinite negative => if negative then "-inf" else "inf"
  | finite negative mantissa exponent =>
      let sign := if negative then "-" else ""
      if mantissa = 0 then sign ++ "0.0"
      else
        let (digits, point) := (Decimal.shortest mantissa exponent).placed
        sign ++ String.ofList (Decimal.layout digits point)

end Binary64

end RowStore
