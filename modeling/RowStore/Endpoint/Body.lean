import RowStore.Json.Reader
import RowStore.Validation.Basic

namespace RowStore.Endpoint

open Validation

/-- A body that is declared to be of the data format is given as a value, as a text, or is no text
at all. Any other body is plain, and may be a text. One without content is absent. -/
inductive Body
  | absent
  | value (json : Json)
  | text (characters : List Char)
  | unreadable
  | plain (content : Option String)

structure Complaint where
  issue : Issue
  value : Json

/-- A body that cannot be parsed for a reason other than its form has no issues. -/
inductive Defect
  | unparsable
  | faulty (complaints : List Complaint)
  | unrepeatable

namespace Body

def place : String := "body"

def missing : Defect := .faulty [⟨⟨[place], .missing⟩, .null⟩]

def read (depth : Nat) : Body → Except Defect Json
  | absent => .error missing
  | value json => .ok json
  | text characters =>
      match Json.read depth characters with
      | .ok json => .ok json
      | .error (.unexpected position) =>
          .error (.faulty [⟨⟨[place, toString position], .notJson⟩, .object []⟩])
      | .error _ => .error .unparsable
  | unreadable => .error .unparsable
  | plain (some content) => .ok (.string content)
  | plain none => .error .unrepeatable

def field (depth : Nat) (body : Body) (name : String)
    (check : List String → Json → Gathered Complaint α) : Except Defect α := do
  let value ← body.read depth
  match value.members? with
  | some members =>
      match entryValue? name members with
      | none => .error (.faulty [⟨⟨[place, name], .missing⟩, value⟩])
      | some member => (check [place, name] member).mapError .faulty
  | none => .error (.faulty [⟨⟨[place], .notBody⟩, value⟩])

end Body

def checkText (place : List String) (value : Json) : Gathered Complaint String :=
  (Rule.text value).mapError fun fault => [⟨⟨place, fault⟩, value⟩]

def checkTextsFrom (place : List String) (position : Nat) :
    List Json → Gathered Complaint (List String)
  | [] => .ok []
  | item :: items =>
      ((checkText (place ++ [toString position]) item).both
        (checkTextsFrom place (position + 1) items)).map fun (text, texts) => text :: texts

def checkTexts (place : List String) : Json → Gathered Complaint (List String)
  | .list items => checkTextsFrom place 0 items
  | value => .error [⟨⟨place, .notList⟩, value⟩]

end RowStore.Endpoint
