/-!
Labels of any characters as texts of ASCII letters, digits and hyphens.

The characters of ASCII come first, and a hyphen closes them. Numbers follow that say, for one other
character after another in rising order, how far it is from the last one, where the places in the
text count as well. A number has its lowest digit first, and ends with a digit below a threshold;
the thresholds adapt to the numbers so far.
-/

namespace RowStore.Client.Domain.Punycode

def base : Nat := 36

def digit? (c : Char) : Option Nat :=
  if 'a' ≤ c && c ≤ 'z' then some (c.toNat - 'a'.toNat)
  else if 'A' ≤ c && c ≤ 'Z' then some (c.toNat - 'A'.toNat)
  else if c.isDigit then some (c.toNat - '0'.toNat + 26)
  else none

def digitChar (digit : Nat) : Char :=
  if digit < 26 then Char.ofNat ('a'.toNat + digit) else Char.ofNat ('0'.toNat + (digit - 26))

def threshold (place bias : Nat) : Nat := max 1 (min 26 (base * (place + 1) - bias))

theorem one_le_threshold (place bias : Nat) : 1 ≤ threshold place bias :=
  Nat.le_max_left ..

/-- How often a number is scaled down until it is small, and what is then left of it. -/
def scaled (number : Nat) : Nat × Nat :=
  if 455 < number then
    let (times, rest) := scaled (number / 35)
    (times + 1, rest)
  else (0, number)
termination_by number
decreasing_by exact Nat.div_lt_self (by omega) (by omega)

def firstBias : Nat := 72

/-- The bias after a number for a text that now has a certain length. The first number is taken to
be far larger than those after it. -/
def adapted (number length : Nat) (first : Bool) : Nat :=
  let damped := if first then number / 700 else number / 2
  let (times, rest) := scaled (damped + damped / length)
  base * times + base * rest / (rest + 38)

def number? (bias : Nat) : (place weight : Nat) → List Char → Option (Nat × List Char)
  | _, _, [] => none
  | place, weight, c :: text => do
      let digit ← digit? c
      let least := threshold place bias
      if digit < least then return (digit * weight, text)
      let (number, rest) ← number? bias (place + 1) (weight * (base - least)) text
      return (digit * weight + number, rest)

theorem length_of_number? {bias place weight number : Nat} {text rest : List Char}
    (h : number? bias place weight text = some (number, rest)) : rest.length < text.length := by
  induction text generalizing place weight number with
  | nil => simp [number?] at h
  | cons c text ih =>
    simp only [number?, Option.bind_eq_bind, Option.bind_eq_some_iff, Option.pure_def] at h
    obtain ⟨digit, -, h⟩ := h
    split at h
    · simp only [Option.some.injEq, Prod.mk.injEq] at h
      simp [h.2]
    · simp only [Option.bind_eq_some_iff, Option.some.injEq, Prod.mk.injEq] at h
      obtain ⟨⟨_, _⟩, hnumber, -, rfl⟩ := h
      exact Nat.lt_succ_of_lt (ih hnumber)

def lastPoint : Nat := 0x10FFFF

def insertFrom (bias point place : Nat) (first : Bool) (label : List Nat) (text : List Char) :
    Option (List Nat) :=
  if text = [] then some label
  else
    match _h : number? bias 0 1 text with
    | none => none
    | some (number, rest) =>
        let length := label.length + 1
        let next := point + (place + number) / length
        let target := (place + number) % length
        if lastPoint < next then none
        else
          insertFrom (adapted number length first) next (target + 1) false
            (label.take target ++ next :: label.drop target) rest
termination_by text.length
decreasing_by exact length_of_number? _h

def decode? (text : List Char) : Option (List Nat) :=
  let (after, upTo) := text.reverse.span (· ≠ '-')
  insertFrom firstBias 0x80 0 true (upTo.reverse.dropLast.map Char.toNat) after.reverse

def digits (bias place number : Nat) : List Char :=
  let least := threshold place bias
  if number < least then [digitChar number]
  else
    digitChar (least + (number - least) % (base - least)) ::
      digits bias (place + 1) ((number - least) / (base - least))
termination_by number
decreasing_by
  have := one_le_threshold place bias
  exact Nat.lt_of_le_of_lt (Nat.div_le_self ..) (by omega)

/-- What is written so far, how far the next character is from the last one written, and how many
characters of the label are written. -/
structure Progress where
  text : List Char
  distance : Nat
  bias : Nat
  written : Nat
  first : Bool

def Progress.pass (point : Nat) (progress : Progress) (other : Nat) : Progress :=
  if other < point then { progress with distance := progress.distance + 1 }
  else if other = point then
    { text := progress.text ++ digits progress.bias 0 progress.distance
      distance := 0
      bias := adapted progress.distance (progress.written + 1) progress.first
      written := progress.written + 1
      first := false }
  else progress

def Progress.write (label : List Nat) (previous point : Nat) (progress : Progress) : Progress :=
  let moved :=
    { progress with
      distance := progress.distance + (point - previous) * (progress.written + 1) }
  let passed := label.foldl (Progress.pass point) moved
  { passed with distance := passed.distance + 1 }

def isBasic (point : Nat) : Bool := point < 0x80

def insertOnce (point : Nat) : List Nat → List Nat
  | [] => [point]
  | other :: points =>
      if point < other then point :: other :: points
      else if point = other then other :: points
      else other :: insertOnce point points

def encode (label : List Nat) : List Char :=
  let basic := (label.filter isBasic).map Char.ofNat
  let others := (label.filter (!isBasic ·)).foldr insertOnce []
  let start : Progress :=
    { text := if basic = [] then [] else basic ++ ['-']
      distance := 0
      bias := firstBias
      written := basic.length
      first := true }
  (others.foldl
    (fun (previous, progress) point => (point + 1, progress.write label previous point))
    (0x80, start)).2.text

end RowStore.Client.Domain.Punycode
