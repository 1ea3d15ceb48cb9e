/-!
Binary floating-point numbers of double width, as exact values.

A finite number is `mantissa * 2 ^ exponent` with its sign. Zero is built with exponent zero; every
other number is built with a mantissa below `2 ^ 53` and the least exponent, not below `-1074`, that
allows it. So each number has one representation.
-/

namespace RowStore

inductive Binary64
  | finite (negative : Bool) (mantissa : Nat) (exponent : Int)
  | infinite (negative : Bool)
  | undefined
  deriving DecidableEq

namespace Binary64

def zero : Binary64 := finite false 0 0

instance : Inhabited Binary64 := ⟨zero⟩

/-- The quotient rounded to the nearest whole number, a half to the even one. -/
def roundedQuotient (number divisor : Nat) : Nat :=
  let quotient := number / divisor
  let twice := 2 * (number % divisor)
  if twice < divisor then quotient
  else if divisor < twice then quotient + 1
  else quotient + quotient % 2

def twos (exponent : Int) : Nat := Nat.pow 2 exponent.toNat

def tens (exponent : Int) : Nat := Nat.pow 10 exponent.toNat

/-- `number / (divisor * 2 ^ exponent)` as a fraction of whole numbers. -/
def scaled (number divisor : Nat) (exponent : Int) : Nat × Nat :=
  (number * twos (-exponent), divisor * twos exponent)

/-- The least exponent that leaves a fraction a mantissa of at most 53 bits. -/
def exponentOf (number divisor : Nat) : Int :=
  let guess : Int := (number.log2 : Int) - (divisor.log2 : Int) - 52
  let fraction := scaled number divisor guess
  max (if fraction.1 / fraction.2 < twos 52 then guess - 1 else guess) (-1074)

def ofFraction (negative : Bool) (number divisor : Nat) : Binary64 :=
  if number = 0 then finite negative 0 0
  else
    let exponent := exponentOf number divisor
    let fraction := scaled number divisor exponent
    let mantissa := roundedQuotient fraction.1 fraction.2
    let carried := mantissa = twos 53
    let exponent := if carried then exponent + 1 else exponent
    let mantissa := if carried then twos 52 else mantissa
    if exponent ≤ 971 then finite negative mantissa exponent else infinite negative

/-- The number nearest to `digits * 10 ^ exponent`. Beyond `10 ^ 310` every number rounds to
infinity, and below `10 ^ (-330)` to zero. -/
def ofDecimal (negative : Bool) (digits : Nat) (exponent : Int) : Binary64 :=
  let size : Int := (Nat.toDigits 10 digits).length + exponent
  if digits = 0 || size < -330 then finite negative 0 0
  else if 310 < size then infinite negative
  else ofFraction negative (digits * tens exponent) (tens (-exponent))

def ofInt (number : Int) : Binary64 :=
  ofDecimal (number < 0) number.natAbs 0

def signed (negative : Bool) (mantissa : Nat) : Int :=
  if negative then -(mantissa : Int) else mantissa

def compare? : Binary64 → Binary64 → Option Ordering
  | undefined, _ | _, undefined => none
  | infinite first, infinite second => some (compare second first)
  | infinite negative, finite .. => some (if negative then .lt else .gt)
  | finite .., infinite negative => some (if negative then .gt else .lt)
  | finite sign mantissa exponent, finite sign' mantissa' exponent' =>
      let least := min exponent exponent'
      some (compare (signed sign (mantissa * twos (exponent - least)))
        (signed sign' (mantissa' * twos (exponent' - least))))

/-- Strictly less; false of an undefined number. -/
def below (first second : Binary64) : Bool := first.compare? second == some .lt

/-- Greater or equal; false of an undefined number. -/
def atLeast (first second : Binary64) : Bool :=
  match first.compare? second with
  | some .gt | some .eq => true
  | _ => false

def toInt? : Binary64 → Option Int
  | finite negative mantissa exponent =>
      let divisor := twos (-exponent)
      if mantissa % divisor = 0 then
        some (signed negative (mantissa / divisor * twos exponent))
      else none
  | _ => none

def isFinite : Binary64 → Bool
  | finite .. => true
  | _ => false

example : below (ofDecimal true 5 (-1)) zero = true := by decide

example : below (ofDecimal true 0 0) zero = false := by decide

end Binary64

end RowStore
