import RowStore.Json.Basic
import RowStore.Text.Case

/-!
The journal: events with bound values.

An event sets out with the values of its logger, its own values and its name. On its way the context
adds what is missing, the level is written over, the thread is added if it is missing, and the time
is written over. At the end the mark of a fault in flight is taken out.
-/

namespace RowStore.Journal

inductive Level
  | debug
  | info
  | warning
  | error
  | critical
  deriving DecidableEq

namespace Level

def all : List Level := [debug, info, warning, error, critical]

def name : Level → String
  | debug => "debug"
  | info => "info"
  | warning => "warning"
  | error => "error"
  | critical => "critical"

def title : Level → String
  | debug => "DEBUG"
  | info => "INFO"
  | warning => "WARNING"
  | error => "ERROR"
  | critical => "CRITICAL"

def severity : Level → Nat
  | debug => 10
  | info => 20
  | warning => 30
  | error => 40
  | critical => 50

/-- The least severity that a threshold lets through. A threshold is named by a level, by another
name for one, or by the name for no threshold, in letters of either case. -/
def threshold? (name : String) : Option Nat :=
  let title := Text.inCapitals name
  if title = "NOTSET" then some 0
  else if title = "WARN" then some warning.severity
  else if title = "FATAL" then some critical.severity
  else (all.find? fun level => level.title = title).map severity

example : threshold? "wArN" = some 30 := by decide

end Level

abbrev Bindings := OrderedMap String Json

/-- An event, and the text of the fault that is in flight where it is emitted, as it would be
reported. An exceptional event asks for that report unless its values say otherwise. -/
structure Event where
  level : Level
  name : String
  values : List (String × Json) := []
  exceptional : Bool := false
  inFlight : Option String := none

namespace Event

def passes (threshold : Nat) (event : Event) : Bool := threshold ≤ event.level.severity

def marked (event : Event) : Bindings :=
  if event.exceptional then (OrderedMap.ofList event.values).putNew "exc_info" (.bool true)
  else .ofList event.values

def carried (event : Event) (context logger : Bindings) : Bindings :=
  (context.putAll logger.entries).putAll event.marked.entries

def report? (event : Event) (context logger : Bindings) : Option String :=
  if ((event.carried context logger).get? "exc_info").any Json.isTruthy then event.inFlight
  else none

def line (event : Event) (context logger : Bindings) (thread time : String) : Bindings :=
  let named := (event.carried context logger).put "event" (.string event.name)
  let levelled := named.put "level" (.string event.level.name)
  let placed := levelled.putNew "thread" (.string thread)
  let timed := placed.put "timestamp" (.string time)
  let unmarked := timed.filterKeys fun name => name ≠ "exc_info"
  match event.report? context logger with
  | none => unmarked
  | some report => unmarked.put "exception" (.string report)

end Event

/-- A line without its time, as the members of one object, in the order of their names. -/
def untimed (line : Bindings) : List (String × Json) :=
  sortByKey (line.filterKeys fun name => name ≠ "timestamp").entries

/-- A line that is kept: what it binds besides the name and the level of its event. -/
structure Entry where
  level : Level
  event : String
  bindings : Bindings

def ownNames : List String := ["event", "level", "timestamp"]

def Event.entry (event : Event) (context logger : Bindings) (thread : String) : Entry :=
  { level := event.level
    event := event.name
    bindings := (event.line context logger thread "").filterKeys fun name => name ∉ ownNames }

namespace Entry

def members (entry : Entry) : List (String × Json) :=
  sortByKey (("event", .string entry.event) :: ("level", .string entry.level.name) ::
    entry.bindings.entries)

def passes (threshold : Nat) (entry : Entry) : Bool := threshold ≤ entry.level.severity

end Entry

end RowStore.Journal
