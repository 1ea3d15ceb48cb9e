import Mathlib.Algebra.Group.Nat.Defs
import RowStore.Text.Quoted

/-!
Quoted texts, read back from the front.

What stands for a character tells by its own first characters where it ends, and none of it begins
with the quotes. So a quoted text ends at the first quotes behind it that no backslash takes up, and
can be told from what follows. All of it is printable, whatever the text holds.
-/

namespace RowStore.Text

/-! Numbers by their digits. -/

theorem hexDigit?_digitChar : ∀ digit < 16, hexDigit? (Nat.digitChar digit) = some digit := by
  decide

theorem isPrintable_digitChar : ∀ digit < 16, isPrintable (Nat.digitChar digit) = true := by
  decide

def hexValue (digits : List Char) : Nat :=
  digits.foldl (fun number c => 16 * number + (hexDigit? c).getD 0) 0

theorem hexValue_concat (digits : List Char) (c : Char) :
    hexValue (digits ++ [c]) = 16 * hexValue digits + (hexDigit? c).getD 0 := by
  simp [hexValue]

theorem hexValue_hexDigits {width number : Nat} (hbound : number < 16 ^ width) :
    hexValue (hexDigits width number) = number := by
  induction width generalizing number with
  | zero =>
      have hzero : number = 0 := by omega
      rw [hzero]
      rfl
  | succ width ih =>
      have hfront : number / 16 < 16 ^ width := by
        rw [Nat.pow_succ] at hbound
        omega
      rw [hexDigits, hexValue_concat, ih hfront, hexDigit?_digitChar _ (Nat.mod_lt _ (by decide)),
        Option.getD_some]
      exact Nat.div_add_mod number 16

theorem exists_digit_of_mem_hexDigits {width number : Nat} {c : Char}
    (hmem : c ∈ hexDigits width number) : ∃ digit < 16, c = Nat.digitChar digit := by
  induction width generalizing number with
  | zero => exact absurd hmem List.not_mem_nil
  | succ width ih =>
      rcases List.mem_append.mp hmem with hfront | hlast
      · exact ih hfront
      · exact ⟨number % 16, Nat.mod_lt _ (by decide), List.mem_singleton.mp hlast⟩

/-! What stands for one character. -/

def IsQuotes (c : Char) : Prop := c = '\'' ∨ c = '"'

instance (c : Char) : Decidable (IsQuotes c) := inferInstanceAs (Decidable (_ ∨ _))

theorem isQuotes_quoteFor (text : List Char) : IsQuotes (quoteFor text) := by
  unfold quoteFor
  split
  · exact .inr rfl
  · exact .inl rfl

def digitsBehind? (letter : Char) : Option Nat :=
  if letter = 'x' then some 2
  else if letter = 'u' then some 4
  else if letter = 'U' then some 8
  else none

def escapedBy (letter : Char) : Char :=
  if letter = 'n' then '\n'
  else if letter = 'r' then '\r'
  else if letter = 't' then '\t'
  else letter

/-- What may stand for a character: a letter for it, the character itself, or its number. -/
inductive Escape (quotes c : Char) : List Char → Prop
  | letter (letter : Char) (hletter : digitsBehind? letter = none) (hstands : escapedBy letter = c)
      (hprintable : isPrintable letter = true) : Escape quotes c ['\\', letter]
  | plain (hquotes : c ≠ quotes) (hbackslash : c ≠ '\\') (hprintable : isPrintable c = true) :
      Escape quotes c [c]
  | number (letter : Char) (width : Nat) (hletter : digitsBehind? letter = some width)
      (hbound : c.toNat < 16 ^ width) (hprintable : isPrintable letter = true) :
      Escape quotes c ('\\' :: letter :: hexDigits width c.toNat)

theorem escape_escaped {quotes : Char} (hquotes : IsQuotes quotes) (c : Char) :
    Escape quotes c (escaped quotes c) := by
  unfold escaped
  split
  next hself =>
    have hc : c = '\'' ∨ c = '"' ∨ c = '\\' := by
      rcases hself with rfl | rfl
      · exact hquotes.imp_right .inl
      · exact .inr (.inr rfl)
    rcases hc with rfl | rfl | rfl <;> exact .letter _ (by decide) rfl (by decide)
  next hself =>
    rw [not_or] at hself
    split
    next hc => exact .letter _ (by decide) hc.symm (by decide)
    split
    next hc => exact .letter _ (by decide) hc.symm (by decide)
    split
    next hc => exact .letter _ (by decide) hc.symm (by decide)
    split
    next hprintable => exact .plain hself.1 hself.2 hprintable
    split
    next hbound => exact .number _ _ rfl hbound (by decide)
    split
    next hbound => exact .number _ _ rfl hbound (by decide)
    next => exact .number _ _ rfl c.val.toNat_lt (by decide)

namespace Escape

variable {quotes c : Char} {front : List Char} (hescape : Escape quotes c front)

include hescape

theorem append_ne_cons (hquotes : IsQuotes quotes) (rest more : List Char) :
    front ++ rest ≠ quotes :: more := by
  intro h
  cases hescape with
  | plain hne => exact hne (List.cons_eq_cons.mp h).1
  | letter | number =>
      have hbackslash := (List.cons_eq_cons.mp h).1
      rcases hquotes with rfl | rfl <;> contradiction

theorem isPrintable_of_mem {d : Char} (hmem : d ∈ front) : isPrintable d = true := by
  cases hescape with
  | letter letter _ _ hprintable =>
      rcases List.mem_cons.mp hmem with rfl | hmem
      · rfl
      · obtain rfl := List.mem_singleton.mp hmem
        exact hprintable
  | plain _ _ hprintable =>
      obtain rfl := List.mem_singleton.mp hmem
      exact hprintable
  | number letter width _ _ hprintable =>
      rcases List.mem_cons.mp hmem with rfl | hmem
      · rfl
      rcases List.mem_cons.mp hmem with rfl | hmem
      · exact hprintable
      obtain ⟨digit, hdigit, rfl⟩ := exists_digit_of_mem_hexDigits hmem
      exact isPrintable_digitChar digit hdigit

end Escape

/-- The character that the front of a text stands for in quotes, and what follows that front. -/
def unescaped? : List Char → Option (Char × List Char)
  | [] => none
  | '\\' :: letter :: rest =>
      match digitsBehind? letter with
      | some width => some (Char.ofNat (hexValue (rest.take width)), rest.drop width)
      | none => some (escapedBy letter, rest)
  | c :: rest => some (c, rest)

theorem unescaped?_of_ne {c : Char} (hc : c ≠ '\\') (rest : List Char) :
    unescaped? (c :: rest) = some (c, rest) := by
  unfold unescaped?
  split
  next => contradiction
  next heq => exact absurd (List.cons_eq_cons.mp heq).1 hc
  next heq =>
    obtain ⟨rfl, rfl⟩ := List.cons_eq_cons.mp heq
    rfl

theorem Escape.unescaped?_append {quotes c : Char} {front : List Char}
    (hescape : Escape quotes c front) (rest : List Char) :
    unescaped? (front ++ rest) = some (c, rest) := by
  cases hescape with
  | letter letter hletter hstands => simp [unescaped?, hletter, hstands]
  | plain _ hbackslash => exact unescaped?_of_ne hbackslash rest
  | number letter width hletter hbound =>
      have hlength := length_hexDigits width c.toNat
      simp only [List.cons_append, unescaped?, hletter, List.take_left' hlength,
        List.drop_left' hlength, hexValue_hexDigits hbound, Char.ofNat_toNat]

theorem escaped_append_inj {quotes c d : Char} {rest more : List Char} (hquotes : IsQuotes quotes)
    (h : escaped quotes c ++ rest = escaped quotes d ++ more) : c = d ∧ rest = more := by
  have hread := congrArg unescaped? h
  rw [(escape_escaped hquotes c).unescaped?_append, (escape_escaped hquotes d).unescaped?_append]
    at hread
  exact Prod.mk.inj (Option.some.inj hread)

/-! Whole texts. -/

theorem flatMap_escaped_inj {quotes : Char} {first second rest more : List Char}
    (hquotes : IsQuotes quotes)
    (h : first.flatMap (escaped quotes) ++ quotes :: rest =
      second.flatMap (escaped quotes) ++ quotes :: more) : first = second ∧ rest = more := by
  -- Only quotes that stand for nothing end a text, so neither text ends before the other.
  induction first generalizing second with
  | nil =>
      cases second with
      | nil => exact ⟨rfl, (List.cons_eq_cons.mp h).2⟩
      | cons d second =>
          rw [List.flatMap_cons, List.append_assoc] at h
          exact absurd h.symm ((escape_escaped hquotes d).append_ne_cons hquotes _ _)
  | cons c first ih =>
      rw [List.flatMap_cons, List.append_assoc] at h
      cases second with
      | nil => exact absurd h ((escape_escaped hquotes c).append_ne_cons hquotes _ _)
      | cons d second =>
          rw [List.flatMap_cons, List.append_assoc] at h
          obtain ⟨rfl, htail⟩ := escaped_append_inj hquotes h
          obtain ⟨rfl, hrest⟩ := ih htail
          exact ⟨rfl, hrest⟩

theorem quoted_append_inj {first second rest more : List Char}
    (h : quoted first ++ rest = quoted second ++ more) : first = second ∧ rest = more := by
  rw [quoted, quoted, List.cons_append, List.cons_append, List.append_assoc,
    List.append_assoc] at h
  obtain ⟨hquotes, hbody⟩ := List.cons_eq_cons.mp h
  rw [hquotes] at hbody
  exact flatMap_escaped_inj (isQuotes_quoteFor second) hbody

theorem quoted_append_ne_cons {c : Char} (hc : ¬ IsQuotes c) (text rest more : List Char) :
    quoted text ++ rest ≠ c :: more := by
  intro h
  obtain ⟨rfl, -⟩ := List.cons_eq_cons.mp h
  exact hc (isQuotes_quoteFor text)

theorem isPrintable_of_mem_quoted {text : List Char} {c : Char} (hmem : c ∈ quoted text) :
    isPrintable c = true := by
  have hquotes := isQuotes_quoteFor text
  have hprintable : isPrintable (quoteFor text) = true := by
    rcases hquotes with h | h <;> rw [h] <;> rfl
  rcases List.mem_cons.mp hmem with rfl | hmem
  · exact hprintable
  rcases List.mem_append.mp hmem with hbody | hend
  · obtain ⟨d, -, hd⟩ := List.mem_flatMap.mp hbody
    exact (escape_escaped hquotes d).isPrintable_of_mem hd
  · obtain rfl := List.mem_singleton.mp hend
    exact hprintable

end RowStore.Text
