import RowStore.Text.Hex
import RowStore.Text.Printable

/-!
The quoted form of a text: one line, in quotes, with every character that would end the line, end
the quotes or not show written as an escape.

Single quotes enclose a text, unless it holds single quotes and no double ones.
-/

namespace RowStore.Text

def escaped (quote c : Char) : List Char :=
  if c = quote ∨ c = '\\' then ['\\', c]
  else if c = '\n' then ['\\', 'n']
  else if c = '\r' then ['\\', 'r']
  else if c = '\t' then ['\\', 't']
  else if isPrintable c then [c]
  else if c.toNat < 0x100 then '\\' :: 'x' :: hexDigits 2 c.toNat
  else if c.toNat < 0x10000 then '\\' :: 'u' :: hexDigits 4 c.toNat
  else '\\' :: 'U' :: hexDigits 8 c.toNat

def quoteFor (text : List Char) : Char :=
  if '\'' ∈ text ∧ '"' ∉ text then '"' else '\''

def quoted (text : List Char) : List Char :=
  quoteFor text :: (text.flatMap (escaped (quoteFor text)) ++ [quoteFor text])

@[simp] theorem quoted_nil : quoted [] = ['\'', '\''] := rfl

end RowStore.Text

namespace RowStore

def quote (text : String) : String :=
  String.ofList (Text.quoted text.toList)

example : quote "a'b" = "\"a'b\"" := by decide

example : quote "a\n\"'\\" = "'a\\n\"\\'\\\\'" := by decide

end RowStore
