import RowStore.Statement.Basic
import RowStore.Text.Split

/-!
Reading a statement from its text.

The text has to be the written form of the statement, character for character. A name is a run of
the letters a to z, and the other operands are any nonempty texts of one line. Where a text can be
cut in more than one way, the first operand that is not a name is as long as possible.
-/

namespace RowStore.Statement

def isNameLetter (c : Char) : Bool := 'a' ≤ c && c ≤ 'z'

/-- The name at the front of a text, and what follows it. -/
def name? (text : List Char) : Option (List Char × List Char) :=
  if text.takeWhile isNameLetter = [] then none
  else some (text.takeWhile isNameLetter, text.dropWhile isNameLetter)

/-- The longest nonempty front of a text whose rest is read by `tail?`. -/
def longest? (tail? : List Char → Option α) : List Char → Option (List Char × α)
  | [] => none
  | c :: text =>
      match longest? tail? text with
      | some (front, read) => some (c :: front, read)
      | none => (tail? text).map fun read => ([c], read)

def operand? : List Char → Option (List Char)
  | [] => none
  | text => some text

/-- A nonempty text before a closing parenthesis at the end. -/
def closed? (text : List Char) : Option (List Char) :=
  if text.getLast? = some ')' then operand? text.dropLast else none

def clause? : List Char → Option (Option (List Char))
  | [] => some none
  | text => do return some (← operand? (← Text.after? " where ".toList text))

def createTable? (text : List Char) : Option Statement := do
  let (name, rest) ← name? (← Text.after? "create table ".toList text)
  let definitions ← closed? (← Text.after? " (".toList rest)
  return createTable (String.ofList name) (String.ofList definitions)

def insert? (text : List Char) : Option Statement := do
  let (name, rest) ← name? (← Text.after? "insert into ".toList text)
  let (columns, values) ←
    longest? (fun rest => do closed? (← Text.after? ") values (".toList rest))
      (← Text.after? " (".toList rest)
  return insert (String.ofList name) (String.ofList columns) (String.ofList values)

def source? (text : List Char) : Option (List Char × Option (List Char)) := do
  let (name, rest) ← name? text
  return (name, ← clause? rest)

def select? (text : List Char) : Option Statement := do
  let (columns, name, clause) ←
    longest? (fun rest => do source? (← Text.after? " from ".toList rest))
      (← Text.after? "select ".toList text)
  return select (String.ofList columns) (String.ofList name) (clause.map String.ofList)

def delete? (text : List Char) : Option Statement := do
  let (name, clause) ← source? (← Text.after? "delete from ".toList text)
  return delete (String.ofList name) (clause.map String.ofList)

def parse (text : String) : Option Statement :=
  let characters := text.toList
  if '\n' ∈ characters then none
  else
    createTable? characters <|> insert? characters <|> select? characters <|> delete? characters

example : parse "select a from b from c where d = e" =
    some (select "a from b" "c" (some "d = e")) := by decide

end RowStore.Statement
