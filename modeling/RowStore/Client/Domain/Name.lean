import RowStore.Client.Domain.Direction
import RowStore.Client.Domain.Joining
import RowStore.Client.Domain.Punycode
import RowStore.Client.Text.Composition
import RowStore.Text.Split

namespace RowStore.Client.Domain

namespace Label

def checkPoint (label : Label) (before : List Nat) (point : Nat) (after : List Nat) :
    Except Problem Unit :=
  let position := before.length + 1
  if isFree point then .ok ()
  else if point = joiner || point = nonJoiner then
    if before.head?.any isNameless then .error (.unjudgedJoiner label position point)
    else if joinerFits point before after then .ok ()
    else .error (.misplacedJoiner label position point)
  else if isSign point then
    if signFits point before after then .ok () else .error (.misplacedSign label position point)
  else .error (.barred label position point)

def checkPoints (label : Label) (before : List Nat) : List Nat → Except Problem Unit
  | [] => .ok ()
  | point :: after => do
      label.checkPoint before point after
      label.checkPoints (point :: before) after

def hyphen : Nat := '-'.toNat

def check (label : Label) : Except Problem Unit := do
  if label = [] then throw .emptyLabel
  if !Text.isComposed label then throw .notComposed
  if (label.drop 2).take 2 = [hyphen, hyphen] then throw .hyphensInside
  if label.head? = some hyphen || label.getLast? = some hyphen then throw .hyphenAtEnd
  if label.head?.any Text.isMark then throw .markFirst
  label.checkPoints [] label
  label.checkDirections

def ofText (text : List Char) : Label := text.map Char.toNat

def codeMark : List Char := ['x', 'n', '-', '-']

/-- The label that a text of ASCII is or stands for. No other text stands for the same label. -/
def read (text : List Char) : Except Problem Label := do
  match Text.after? codeMark text with
  | none =>
      check (ofText text)
      return ofText text
  | some coded =>
      if coded = [] then throw .nothingCoded
      if coded.getLast? = some '-' then throw .hyphenCodedLast
      match Punycode.decode? coded with
      | none => throw .unreadable
      | some label =>
          if Punycode.encode label ≠ coded then throw .otherwiseCoded
          check label
          return label

def maxLength : Nat := 63

def write (text : List Char) : Except Problem (List Char) := do
  if maxLength < text.length then throw .longLabel
  let written ←
    if text.all fun c => Punycode.isBasic c.toNat then
      let _ ← read text
      pure text
    else
      check (ofText text)
      pure (codeMark ++ Punycode.encode (ofText text))
  if maxLength < written.length then throw .longLabel
  return written

end Label

namespace Name

/-- The full stop, and those of Chinese and Japanese. -/
def dots : List Char := ['.', '\u3002', '\uFF0E', '\uFF61']

def pieces : List Char → List (List Char)
  | [] => [[]]
  | c :: text => if c ∈ dots then [] :: pieces text else Text.consFirst c (pieces text)

def labels (name : List Char) : Except Problem (List (List Char)) :=
  let texts := pieces name
  if name = [] then .error .emptyName
  else if texts.getLast? = some [] then .ok texts.dropLast
  else .ok texts

def maxLength : Nat := 253

/-- A dot may follow a name of the greatest length. A longer name is not looked at. -/
def read (name : List Char) : Except Problem (List Label) := do
  if maxLength + 1 < name.length then throw .longName
  (← labels name).mapM Label.read

def write (name : List Char) : Except Problem (List Char) := do
  let texts ← labels name
  let written := Text.join ['.'] (← texts.mapM Label.write)
  if maxLength < written.length then throw .longName
  return written

end Name

end RowStore.Client.Domain
