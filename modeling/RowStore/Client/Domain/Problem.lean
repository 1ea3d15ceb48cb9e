import RowStore.Text.Encoding
import RowStore.Text.Quoted

namespace RowStore.Client.Domain

abbrev Label := List Nat

namespace Label

def escapedPoint (mark : Char) (point : Nat) : List Char :=
  if Text.isHighSurrogate point || Text.isLowSurrogate point then
    '\\' :: 'u' :: Text.hexDigits 4 point
  else Text.escaped mark (Char.ofNat point)

def quoted (label : Label) : String :=
  let mark := Text.quoteFor (label.map Char.ofNat)
  String.ofList (mark :: (label.flatMap (escapedPoint mark) ++ [mark]))

def pointName (point : Nat) : String :=
  let width := if point < 0x10000 then 4 else if point < 0x100000 then 5 else 6
  "U+" ++ String.ofList ((Text.hexDigits width point).map Char.toUpper)

end Label

/-- Positions count from one. -/
inductive Problem
  | emptyName
  | longName
  | emptyLabel
  | longLabel
  | notComposed
  | hyphensInside
  | hyphenAtEnd
  | markFirst
  | unjudgedJoiner (label : Label) (position point : Nat)
  | misplacedJoiner (label : Label) (position point : Nat)
  | misplacedSign (label : Label) (position point : Nat)
  | barred (label : Label) (position point : Nat)
  | directionUnknown (label : Label) (position : Nat)
  | undirected (label : Label)
  | leftward (position : Nat)
  | rightward (position : Nat)
  | mixedDigits
  | undirectedEnd
  | nothingCoded
  | hyphenCodedLast
  | unreadable
  | otherwiseCoded
  deriving DecidableEq

namespace Problem

def title : Problem → String
  | misplacedJoiner .. | misplacedSign .. => "InvalidCodepointContext"
  | barred .. => "InvalidCodepoint"
  | directionUnknown .. | undirected _ | leftward _ | rightward _ | mixedDigits | undirectedEnd =>
      "IDNABidiError"
  | _ => "IDNAError"

def message : Problem → String
  | emptyName => "Empty domain"
  | longName => "Domain too long"
  | emptyLabel => "Empty Label"
  | longLabel => "Label too long"
  | notComposed => "Label must be in Normalization Form C"
  | hyphensInside => "Label has disallowed hyphens in 3rd and 4th position"
  | hyphenAtEnd => "Label must not start or end with a hyphen"
  | markFirst => "Label begins with an illegal combining character"
  | unjudgedJoiner label position point =>
      "Unknown codepoint adjacent to joiner " ++ Label.pointName point ++ " at position " ++
        toString position ++ " in " ++ label.quoted
  | misplacedJoiner label position point =>
      "Joiner " ++ Label.pointName point ++ " not allowed at position " ++ toString position ++
        " in " ++ label.quoted
  | misplacedSign label position point =>
      "Codepoint " ++ Label.pointName point ++ " not allowed at position " ++ toString position ++
        " in " ++ label.quoted
  | barred label position point =>
      "Codepoint " ++ Label.pointName point ++ " at position " ++ toString position ++ " of " ++
        label.quoted ++ " not allowed"
  | directionUnknown label position =>
      "Unknown directionality in label " ++ label.quoted ++ " at position " ++ toString position
  | undirected label =>
      "First codepoint in label " ++ label.quoted ++ " must be directionality L, R or AL"
  | leftward position =>
      "Invalid direction for codepoint at position " ++ toString position ++
        " in a left-to-right label"
  | rightward position =>
      "Invalid direction for codepoint at position " ++ toString position ++
        " in a right-to-left label"
  | mixedDigits => "Can not mix numeral types in a right-to-left label"
  | undirectedEnd => "Label ends with illegal codepoint directionality"
  | nothingCoded => "Malformed A-label, no Punycode eligible content found"
  | hyphenCodedLast => "A-label must not end with a hyphen"
  | unreadable => "Invalid A-label"
  | otherwiseCoded => "A-label is not the canonical Punycode encoding of its U-label"

end Problem

end RowStore.Client.Domain
