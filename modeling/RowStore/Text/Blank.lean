import RowStore.Text.Ranges

/-!
White space, and the words of a text that it separates.

The blank characters are those with the bidirectional type of white space, of a segment or
paragraph separator, or of category Zs. The information separators U+001C to U+001F are among
them; the zero-width space and the byte order mark are not.
-/

namespace RowStore.Text

def blankRanges : List (Nat × Nat) :=
  [(0x09, 0x0D), (0x1C, 0x20), (0x85, 0x85), (0xA0, 0xA0), (0x1680, 0x1680), (0x2000, 0x200A),
   (0x2028, 0x2029), (0x202F, 0x202F), (0x205F, 0x205F), (0x3000, 0x3000)]

def isBlank (c : Char) : Bool := within blankRanges c.toNat

/-- The first word of a text, which is empty if the text is blank, and what follows it. -/
def nextWord (text : List Char) : List Char × List Char :=
  (text.dropWhile isBlank).span fun c => !isBlank c

@[simp] theorem nextWord_nil : nextWord [] = ([], []) := rfl

end RowStore.Text
