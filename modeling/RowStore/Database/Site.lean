import RowStore.Journal.Context
import RowStore.Metrics.Basic
import RowStore.Statement.Parser
import RowStore.Trace.Recorder

namespace RowStore

/-- The tables, and the measurements of the work on them. -/
structure Store where
  catalog : Catalog := .empty
  metrics : Metrics := .empty
  deriving DecidableEq

namespace Store

def change (store : Store) (statement : Statement) : Except Failure Reply × Store :=
  let (reply, catalog) := store.catalog.step statement
  (reply, { store with catalog := catalog })

def refresh (store : Store) (statement : Statement) : Except Failure Reply → Store
  | .error _ => store
  | .ok _ =>
      if statement.kind = .select then store
      else { store with metrics := store.metrics.refresh store.catalog }

def dispatch (store : Store) (statement : Statement) : Except Failure Reply × Store :=
  let (reply, changed) := store.change statement
  (reply, changed.refresh statement reply)

def record (store : Store) (kind : Option Statement.Kind) (status : Status) : Store :=
  { store with metrics := store.metrics.record kind status }

end Store

/-- What a statement comes to: its failure, or the rows that it selected if it selects. -/
abbrev Outcome := Except Failure (Option (List Row))

def Reply.rows? : Reply → Option (List Row)
  | .selected rows => some rows
  | _ => none

def Outcome.ofReply (text : String) : Except Failure Reply → Outcome
  | .error failure => .error (failure.stamp text)
  | .ok reply => .ok reply.rows?

/-- Settled outcomes are those of submitted statements that nobody has collected yet. -/
structure Site where
  store : Store := {}
  journal : List Journal.Entry := []
  recorder : Trace.Recorder := {}
  settled : List Outcome := []

namespace Site

open Journal

def workerThread : String := Service.name ++ "_0"

def mainThread : String := "MainThread"

def announce (site : Site) (event : Event) : Site :=
  { site with journal := site.journal ++ [event.entry .empty .empty mainThread] }

def write (site : Site) (text : String) (events : List Event) : Site :=
  let context := Scope.enter { statement := text } .empty
  { site with
    journal := site.journal ++ events.map fun event => event.entry context .empty workerThread }

end Site

namespace Statement

open Journal

def changeEvents (statement : Statement) : Reply → List Event
  | .created replaced columns =>
      [{ level := .debug
         name := if replaced then "table_replaced" else "table_created"
         values :=
          [("table", .string statement.table), ("columns", .list (columns.map .string))] }]
  | .removed count =>
      [{ level := .debug
         name := "rows_deleted"
         values := [("table", .string statement.table), ("removed", .int count)] }]
  | _ => []

def executedEvent (kind : Kind) : Event :=
  { level := .debug, name := "statement_executed", values := [("kind", .string kind.name)] }

def failedEvent (kind : Kind) (failure : Failure) : Event :=
  { level := .warning
    name := "statement_failed"
    values := [("kind", .string kind.name), ("error", .string failure.message)] }

def rejectedEvent : Event := { level := .warning, name := "statement_rejected" }

end Statement

end RowStore
