import RowStore.Database.Host
import RowStore.Endpoint.Body
import RowStore.Endpoint.Schema

/-!
The service's endpoints for requests over the web.

The body of a request is checked before anything else is looked at; only the health of the service
can be asked for while the database is stopped. To some requests there is no answer: what they raise
goes on to whoever serves the application.
-/

namespace RowStore.Endpoint

open Validation

/-- How deep the values may be nested that are read and that are written. -/
structure Limits where
  reading : Nat
  writing : Nat

/-- A request as it arrives, and what the surroundings make of it: how deep values may be nested,
and which faults the waits for its statements raise. -/
structure Request where
  method : String
  target : List Char
  body : Body := .absent
  limits : Limits
  faults : Nat → Option Fault := fun _ => none

def Request.submission (request : Request) (position : Nat) (text : String) : Submission :=
  { text := text, fault := request.faults position }

def Request.submissions (request : Request) (texts : List String) : List Submission :=
  texts.mapIdx request.submission

structure Executed where
  success : Bool
  message : String
  rows : Option (List Row)
  deriving DecidableEq

inductive Response
  | health (healthy : Bool)
  | stats (stats : Database.Stats)
  | tables (snapshot : List (String × Table))
  | executed (executed : Executed)
  | batch (executed : List Executed)
  | schema
  | page
  | redirect (target : List Char)
  | invalid (issues : List Issue)
  | unparsable
  | unavailable (refusal : Refusal)
  | notFound
  | methodNotAllowed
  deriving DecidableEq

namespace Response

def status : Response → Nat
  | health _ | stats _ | tables _ | executed _ | batch _ | schema | page => 200
  | redirect _ => 307
  | unparsable => 400
  | invalid _ => 422
  | unavailable _ => 503
  | notFound => 404
  | methodNotAllowed => 405

def detail? : Response → Option String
  | unparsable => some "There was an error parsing the body"
  | unavailable refusal => some refusal.message
  | notFound => some "Not Found"
  | methodNotAllowed => some "Method Not Allowed"
  | _ => none

end Response

def healthName (healthy : Bool) : String := if healthy then "healthy" else "unhealthy"

inductive Mishap
  | interrupted (fault : RowStore.Fault)
  | tooDeep
  | unwritableNumber
  | unencodableText
  | undecodableText
  deriving DecidableEq

/-- Only a failure of the statement itself is an answer. -/
def Executed.ofOutcome : Outcome → Except Mishap Executed
  | .ok rows => .ok ⟨true, "OK", rows⟩
  | .error (.interrupted fault) => .error (.interrupted fault)
  | .error failure => .ok ⟨false, failure.message, none⟩

/-- Why values cannot be part of an answer. -/
def unwritable? (limits : Limits) (values : List Json) : Option Mishap :=
  if values.any fun value => limits.writing < value.height then some .tooDeep
  else if values.any fun value => !value.isFinite then some .unwritableNumber
  else if values.any fun value => !value.isWhole then some .unencodableText
  else none

/-- The answer to a defective body repeats the values that have an issue. -/
def Defect.response (limits : Limits) : Defect → Except Mishap Response
  | unparsable => .ok .unparsable
  | faulty complaints =>
      match unwritable? limits (complaints.map (·.value)) with
      | some mishap => .error mishap
      | none => .ok (.invalid (complaints.map (·.issue)))
  | unrepeatable => .error .undecodableText

def whenStarted (host : Host) (answer : Host → Except Mishap Response × Host) :
    Except Mishap Response × Host :=
  if host.database.started then answer host else (.ok (.unavailable .notStarted), host)

def execute (host : Host) (submission : Submission) : Except Mishap Response × Host :=
  whenStarted host fun host =>
    let (outcome, next) := host.drain.perform submission
    ((Executed.ofOutcome outcome).map .executed, next)

/-- All the statements are run, even if there is no answer to one of them. -/
def executeBatch (host : Host) (submissions : List Submission) : Except Mishap Response × Host :=
  whenStarted host fun host =>
    let (outcomes, next) := host.drain.performAll submissions
    ((outcomes.mapM Executed.ofOutcome).map .batch, next)

def answer (host : Host) (request : Request) : Route → Except Mishap Response × Host
  | .health => (.ok (.health host.database.started), host)
  | .stats => whenStarted host fun host => (.ok (.stats host.stats), host)
  | .tables => whenStarted host fun host => (.ok (.tables host.snapshot), host)
  | .execute =>
      match request.body.field request.limits.reading "statement" checkText with
      | .error defect => (defect.response request.limits, host)
      | .ok text => execute host (request.submission 0 text)
  | .executeBatch =>
      match request.body.field request.limits.reading "statements" checkTexts with
      | .error defect => (defect.response request.limits, host)
      | .ok texts => executeBatch host (request.submissions texts)
  | .schema => (.ok .schema, host)
  | .manual | .authorization | .reference => (.ok .page, host)

/-- A target that leads to a route but for slashes at its end is redirected there. -/
def handle (host : Host) (request : Request) : Except Mishap Response × Host :=
  match Route.ofTarget? request.target with
  | some route =>
      if request.method ∈ route.methods then answer host request route
      else (.ok .methodNotAllowed, host)
  | none =>
      let plain := Route.withoutSlashes request.target
      (.ok (if (Route.ofTarget? plain).isSome then .redirect plain else .notFound), host)

inductive Call
  | request (request : Request)
  | start
  | stop

inductive Reaction
  | response (response : Response)
  | switched (answer : Except Refusal Unit)

def step (host : Host) : Call → Except Mishap Reaction × Host
  | .request request => ((handle host request).1.map .response, (handle host request).2)
  | .start => (.ok (.switched host.start.1), host.start.2)
  | .stop => (.ok (.switched host.stop.1), host.stop.2)

def run (host : Host) : List Call → List (Except Mishap Reaction) × Host
  | [] => ([], host)
  | call :: calls =>
      let (reaction, next) := step host call
      let (reactions, last) := run next calls
      (reaction :: reactions, last)

@[simp] theorem run_nil (host : Host) : run host [] = ([], host) := rfl

@[simp] theorem run_cons (host : Host) (call : Call) (calls : List Call) :
    run host (call :: calls) =
      ((step host call).1 :: (run (step host call).2 calls).1,
        (run (step host call).2 calls).2) := rfl

end RowStore.Endpoint
