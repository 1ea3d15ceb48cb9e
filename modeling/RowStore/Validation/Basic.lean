import RowStore.Json.Basic
import RowStore.Validation.Numbers

/-!
Rules for values that come from outside, and the issues of values that break them.

The rules are lenient: where a text, a number or a truth value can only mean one thing of the type
that is asked for, it is taken for that.
-/

namespace RowStore.Validation

inductive Fault
  | missing
  | notText
  | unreadableText
  | notList
  | notBody
  | notSection (title : String)
  | notJson
  | notInteger
  | unreadableInteger
  | oversizedInteger
  | fractionalInteger
  | notFinite
  | notReal
  | unreadableReal
  | notTruth
  | unreadableTruth
  | notAmong (choices : List String)
  | tooSmall (least : Int)
  | tooLarge (greatest : Int)
  deriving DecidableEq

namespace Fault

def code : Fault → String
  | missing => "missing"
  | notText => "string_type"
  | unreadableText => "string_unicode"
  | notList => "list_type"
  | notBody => "model_attributes_type"
  | notSection _ => "model_type"
  | notJson => "json_invalid"
  | notInteger => "int_type"
  | unreadableInteger => "int_parsing"
  | oversizedInteger => "int_parsing_size"
  | fractionalInteger => "int_from_float"
  | notFinite => "finite_number"
  | notReal => "float_type"
  | unreadableReal => "float_parsing"
  | notTruth => "bool_type"
  | unreadableTruth => "bool_parsing"
  | notAmong _ => "literal_error"
  | tooSmall _ => "greater_than_equal"
  | tooLarge _ => "less_than_equal"

def alternatives : List String → String
  | [] => ""
  | [choice] => "'" ++ choice ++ "'"
  | [choice, last] => "'" ++ choice ++ "' or '" ++ last ++ "'"
  | choice :: choices => "'" ++ choice ++ "', " ++ alternatives choices

def message : Fault → String
  | missing => "Field required"
  | notText => "Input should be a valid string"
  | unreadableText =>
      "Input should be a valid string, unable to parse raw data as a unicode string"
  | notList => "Input should be a valid list"
  | notBody => "Input should be a valid dictionary or object to extract fields from"
  | notSection title => "Input should be a valid dictionary or instance of " ++ title
  | notJson => "JSON decode error"
  | notInteger => "Input should be a valid integer"
  | unreadableInteger => "Input should be a valid integer, unable to parse string as an integer"
  | oversizedInteger => "Unable to parse input string as an integer, exceeded maximum size"
  | fractionalInteger => "Input should be a valid integer, got a number with a fractional part"
  | notFinite => "Input should be a finite number"
  | notReal => "Input should be a valid number"
  | unreadableReal => "Input should be a valid number, unable to parse string as a number"
  | notTruth => "Input should be a valid boolean"
  | unreadableTruth => "Input should be a valid boolean, unable to interpret input"
  | notAmong choices => "Input should be " ++ alternatives choices
  | tooSmall least => "Input should be greater than or equal to " ++ toString least
  | tooLarge greatest => "Input should be less than or equal to " ++ toString greatest

end Fault

structure Issue where
  place : List String
  fault : Fault
  deriving DecidableEq

def Issue.inside (name : String) (issue : Issue) : Issue :=
  { issue with place := name :: issue.place }

/-- What a check comes to when it looks for everything that is wrong. -/
abbrev Gathered (ε α : Type) := Except (List ε) α

namespace Gathered

def both : Gathered ε α → Gathered ε β → Gathered ε (α × β)
  | .ok first, .ok second => .ok (first, second)
  | .error issues, .ok _ => .error issues
  | .ok _, .error issues => .error issues
  | .error issues, .error more => .error (issues ++ more)

end Gathered

abbrev Checked (α : Type) := Gathered Issue α

def Checked.inside (name : String) (checked : Checked α) : Checked α :=
  checked.mapError fun issues => issues.map (Issue.inside name)

abbrev Rule (α : Type) := Json → Except Fault α

namespace Rule

def text : Rule String
  | .string text => .ok text
  | .torn _ => .error .unreadableText
  | _ => .error .notText

def optional (rule : Rule α) : Rule (Option α)
  | .null => .ok none
  | value => (rule value).map some

def bound : Int := 9223372036854775808

def integer : Rule Int
  | .int number => .ok number
  | .bool value => .ok (if value then 1 else 0)
  | .real number =>
      if number.isFinite then
        match number.toInt? with
        | some number =>
            if -bound < number && number < bound then .ok number else .error .oversizedInteger
        | none => .error .fractionalInteger
      else .error .notFinite
  | .string text =>
      match Validation.integer text.toList with
      | .ok number => .ok number
      | .error .overlong => .error .oversizedInteger
      | .error .malformed => .error .unreadableInteger
  | .torn _ => .error .unreadableText
  | _ => .error .notInteger

def integerWithin (least greatest : Int) : Rule Int := fun value => do
  let number ← integer value
  if greatest < number then .error (.tooLarge greatest)
  else if number < least then .error (.tooSmall least)
  else .ok number

def real : Rule Binary64
  | .real number => .ok number
  | .int number =>
      let nearest := Binary64.ofInt number
      if nearest.isFinite then .ok nearest else .error .notReal
  | .bool value => .ok (.ofInt (if value then 1 else 0))
  | .string text =>
      match real? text.toList with
      | some number => .ok number
      | none => .error .unreadableReal
  | .torn _ => .error .unreadableText
  | _ => .error .notReal

def realFrom (least : Int) : Rule Binary64 := fun value => do
  let number ← real value
  if number.atLeast (.ofInt least) then .ok number else .error (.tooSmall least)

def truthTexts : List String := ["true", "1", "yes", "on", "y", "t"]

def falsehoodTexts : List String := ["false", "0", "no", "off", "n", "f"]

def truthOfInt (number : Int) : Except Fault Bool :=
  if number = 1 then .ok true else if number = 0 then .ok false else .error .unreadableTruth

def truth : Rule Bool
  | .bool value => .ok value
  | .int number =>
      if -bound ≤ number && number < bound then truthOfInt number else .error .notTruth
  | .real number =>
      match number.toInt? with
      | some number =>
          if -bound < number && number < bound then truthOfInt number else .error .notTruth
      | none => .error .notTruth
  | .string text =>
      let word := String.ofList (text.toList.map Char.toLower)
      if word ∈ truthTexts then .ok true
      else if word ∈ falsehoodTexts then .ok false
      else .error .unreadableTruth
  | .torn _ => .error .unreadableText
  | _ => .error .notTruth

def choice (choices : List (String × α)) : Rule α := fun value =>
  let chosen := match value with
    | .string text => entryValue? text choices
    | _ => none
  match chosen with
  | some chosen => .ok chosen
  | none => .error (.notAmong (choices.map Prod.fst))

end Rule

def field (fields : List (String × Json)) (name : String) (rule : Rule α) (default : α) :
    Checked α :=
  match entryValue? name fields with
  | none => .ok default
  | some value => (rule value).mapError fun fault => [⟨[name], fault⟩]

end RowStore.Validation
