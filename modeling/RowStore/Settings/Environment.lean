import RowStore.Json.Reader
import RowStore.Settings.Basic
import RowStore.Text.Case

/-!
Settings from environment variables.

A variable gives one field, or a whole section as an object; single fields win over the object.
Letters of either case name the same variable and the same field. Names that mean nothing are
ignored.
-/

namespace RowStore.Settings

/-- Variables, and how deep an object that one of them holds may be nested where they are read. -/
structure Environment where
  entries : List (String × String)
  depth : Nat

/-- Variables by their names in small letters; of two with one name the later is taken. -/
def assignments (environment : List (String × String)) : OrderedMap String String :=
  OrderedMap.ofList (environment.map fun (name, value) => (Text.inSmallLetters name, value))

def variableName (part : Section) : String := Service.name ++ "_" ++ part.name

def fieldSeparator : String := "__"

/-- Adds what one variable says about a field, whose path is what the name has behind that of the
section. A path of more than one part makes the field an object, unless it is a text already. -/
def addField (fields : OrderedMap String Json) (path : List String) (value : String) :
    OrderedMap String Json :=
  match path with
  | [] => fields
  | [name] => fields.put name (.string value)
  | name :: _ :: _ =>
      match fields.get? name with
      | some (.string _) => fields
      | _ => fields.put name (.object [])

def pathAfter? (lead name : String) : Option (List String) :=
  (Text.after? lead.toList name.toList).map fun rest =>
    (Text.pieces fieldSeparator.toList rest).map String.ofList

def singleFields (assignments : OrderedMap String String) (part : Section) :
    OrderedMap String Json :=
  assignments.entries.foldl
    (fun fields (name, value) =>
      match pathAfter? (variableName part ++ fieldSeparator) name with
      | none => fields
      | some path => addField fields path value)
    .empty

def renamed (part : Section) (fields : List (String × Json)) : List (String × Json) :=
  (OrderedMap.ofList (fields.map fun (name, value) =>
    let known := part.fieldNames.find? fun known => known = Text.inSmallLetters name
    (known.getD name, value))).entries

inductive Flaw
  | holdsNull
  | equalsInName
  | noName
  deriving DecidableEq

namespace Flaw

def title : Flaw → String
  | holdsNull | equalsInName => "ValueError"
  | noName => "OSError"

def message : Flaw → String
  | holdsNull => "embedded null byte"
  | equalsInName => "illegal environment variable name"
  | noName => "[Errno 22] Invalid argument"

def ofVariable? : String × String → Option Flaw
  | (name, value) =>
      if '\x00' ∈ name.toList ++ value.toList then some holdsNull
      else if '=' ∈ name.toList then some equalsInName
      else if name = "" then some noName
      else none

end Flaw

inductive Error
  | flawed (flaw : Flaw)
  | unreadable (part : Section)
  | tooDeep (nest : Json.Nest)
  | invalid (issues : List Validation.Issue)
  deriving DecidableEq

def tooDeepMessage (nest : Json.Nest) : String :=
  let name := match nest with
    | .list => "array"
    | .object => "object"
  "maximum recursion depth exceeded while decoding a JSON " ++ name ++ " from a unicode string"

def unreadableMessage (part : Section) : String :=
  "error parsing value for field \"" ++ part.name ++ "\" from source \"EnvSettingsSource\""

/-- What the variables give for a section, whose object may be nested as deep as the surroundings
allow. A section that is given as null is not given at all. -/
def sectionValue (depth : Nat) (assignments : OrderedMap String String) (part : Section) :
    Except Error (Option Json) :=
  let single := (singleFields assignments part).entries
  match assignments.get? (variableName part) with
  | none => .ok (if single = [] then none else some (.object (renamed part single)))
  | some text =>
      match Json.read depth text.toList with
      | .error (.tooDeep nest) => .error (.tooDeep nest)
      | .error _ => .error (.unreadable part)
      | .ok .null => .ok none
      | .ok value =>
          match value.members? with
          | some fields =>
              let merged :=
                single.foldl (fun fields (name, value) => putEntry name value fields) fields
              .ok (some (.object (renamed part merged)))
          | none => .ok (some value)

/-- The first section that cannot be read is the error, before any field is looked at. -/
def ofAssignments (depth : Nat) (assignments : OrderedMap String String) :
    Except Error Settings := do
  let execution ← sectionValue depth assignments .execution
  let server ← sectionValue depth assignments .server
  let observability ← sectionValue depth assignments .observability
  (ofSections fun
    | .execution => execution
    | .server => server
    | .observability => observability).mapError .invalid

def ofEnvironment (environment : Environment) : Except Error Settings :=
  match environment.entries.findSome? Flaw.ofVariable? with
  | some flaw => .error (.flawed flaw)
  | none => ofAssignments environment.depth (assignments environment.entries)

structure Cache where
  kept : Option Settings := none

/-- The settings, and whether they are the ones kept from an earlier reading. -/
def Cache.read (cache : Cache) (environment : Environment) :
    Except Error (Settings × Bool) × Cache :=
  match cache.kept with
  | some settings => (.ok (settings, true), cache)
  | none =>
      match ofEnvironment environment with
      | .error error => (.error error, cache)
      | .ok settings => (.ok (settings, false), ⟨some settings⟩)

end RowStore.Settings
