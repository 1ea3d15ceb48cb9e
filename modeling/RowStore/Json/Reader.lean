import RowStore.Json.Token

/-!
Reading a value from its tokens, with a stack of the lists and objects that are still open.

A member name that occurs twice keeps its first place and takes its last value. How many lists and
objects may be open at once is left to the surroundings.
-/

namespace RowStore.Json

inductive Nest
  | list
  | object
  deriving DecidableEq

/-- Why a text cannot be read. Only a fault of its form has a position. -/
inductive Fault
  | unexpected (position : Nat)
  | overlong
  | tooDeep (nest : Nest)
  deriving DecidableEq

/-- The members of an object, apart from those whose names are torn. -/
structure Members where
  named : List (String × Json) := []
  others : List (List Nat × Json) := []

namespace Members

def put (name : List Nat) (value : Json) (members : Members) : Members :=
  match Text.ofPoints? name with
  | some name => { members with named := putEntry name value members.named }
  | none => { members with others := putEntry name value members.others }

def object (members : Members) : Json :=
  if members.others.isEmpty then .object members.named
  else .tornObject members.named members.others

end Members

def ofPoints (points : List Nat) : Json :=
  match Text.ofPoints? points with
  | some text => .string text
  | none => .torn points

namespace Reader

inductive Refusal
  | misplaced
  | broken (left : Nat)
  | overlong
  | tooDeep (nest : Nest)

/-- The fault of a text of `length` characters whose token with `left` characters is refused: a
misplaced token is at fault where it begins. -/
def Refusal.fault (length left : Nat) : Refusal → Fault
  | misplaced => .unexpected (length - left)
  | broken inside => .unexpected (length - inside)
  | overlong => .overlong
  | tooDeep nest => .tooDeep nest

/-- A list with the items read so far, or an object with the members read so far and the name of
the one whose value is being read. -/
inductive Frame
  | list (items : List Json)
  | object (members : Members) (name : List Nat)

/-- What comes next. A list or an object that has just been opened may be closed at once. -/
inductive State
  | value (opened : Bool) (frames : List Frame)
  | member (opened : Bool) (members : Members) (frames : List Frame)
  | colon (members : Members) (name : List Nat) (frames : List Frame)
  | complete (json : Json) (frames : List Frame)

def closeList : List Frame → Option State
  | .list items :: frames => some (.complete (.list items) frames)
  | _ => none

def opening (depth : Nat) (nest : Nest) (frames : List Frame) (state : State) :
    Except Refusal State :=
  if frames.length < depth then .ok state else .error (.tooDeep nest)

def expectValue (depth : Nat) (opened : Bool) (frames : List Frame) :
    Token.Shape → Except Refusal State
  | .mark '[' => opening depth .list frames (.value true (.list [] :: frames))
  | .mark '\x7b' => opening depth .object frames (.member true {} frames)
  | .mark ']' =>
      match closeList frames with
      | some state => if opened then .ok state else .error .misplaced
      | none => .error .misplaced
  | .value json => .ok (.complete json frames)
  | .string points => .ok (.complete (ofPoints points) frames)
  | .overlong => .error .overlong
  | .broken left => .error (.broken left)
  | _ => .error .misplaced

def expectName (opened : Bool) (members : Members) (frames : List Frame) :
    Token.Shape → Except Refusal State
  | .string name => .ok (.colon members name frames)
  | .mark '\x7d' => if opened then .ok (.complete members.object frames) else .error .misplaced
  | .broken left => .error (.broken left)
  | _ => .error .misplaced

def expectColon (members : Members) (name : List Nat) (frames : List Frame) :
    Token.Shape → Except Refusal State
  | .mark ':' => .ok (.value false (.object members name :: frames))
  | _ => .error .misplaced

/-- Behind a complete value the innermost open list or object goes on or is closed. -/
def expectMore (json : Json) : List Frame → Token.Shape → Except Refusal State
  | .list items :: frames, .mark ',' => .ok (.value false (.list (items ++ [json]) :: frames))
  | .list items :: frames, .mark ']' => .ok (.complete (.list (items ++ [json])) frames)
  | .object members name :: frames, .mark ',' =>
      .ok (.member false (members.put name json) frames)
  | .object members name :: frames, .mark '\x7d' =>
      .ok (.complete (members.put name json).object frames)
  | _, _ => .error .misplaced

def State.next (depth : Nat) : State → Token.Shape → Except Refusal State
  | .value opened frames => expectValue depth opened frames
  | .member opened members frames => expectName opened members frames
  | .colon members name frames => expectColon members name frames
  | .complete json frames => expectMore json frames

def State.step (depth length : Nat) (state : State) (token : Token) : Except Fault State :=
  (state.next depth token.shape).mapError fun refusal => refusal.fault length token.left

def State.result? : State → Option Json
  | .complete json [] => some json
  | _ => none

end Reader

def read (depth : Nat) (text : List Char) : Except Fault Json :=
  match (Token.scan text).foldlM (Reader.State.step depth text.length) (.value false []) with
  | .error fault => .error fault
  | .ok state =>
      match state.result? with
      | none => .error (.unexpected text.length)
      | some json => .ok json

end RowStore.Json
