import RowStore.Catalog

/-!
Measurements of the work on a store.

Statements are counted by kind and outcome, and their latencies by kind; a text that is no statement
is of unknown kind. The gauges hold the numbers of tables and rows as of their last refresh.
-/

namespace RowStore

inductive Status
  | success
  | error
  deriving DecidableEq

namespace Status

def name : Status → String
  | success => "success"
  | error => "error"

end Status

def kindName : Option Statement.Kind → String
  | none => "unknown"
  | some kind => kind.name

def OrderedMap.bump [DecidableEq κ] (counts : OrderedMap κ Nat) (key : κ) : OrderedMap κ Nat :=
  counts.put key ((counts.get? key).getD 0 + 1)

structure Metrics where
  version : Option String := none
  statements : OrderedMap (Option Statement.Kind × Status) Nat := .empty
  latencies : OrderedMap (Option Statement.Kind) Nat := .empty
  tables : Nat := 0
  rows : OrderedMap String Nat := .empty
  deriving DecidableEq

namespace Metrics

def empty : Metrics := {}

def record (metrics : Metrics) (kind : Option Statement.Kind) (status : Status) : Metrics :=
  { metrics with
    statements := metrics.statements.bump (kind, status)
    latencies := metrics.latencies.bump kind }

/-! A record in its two parts. -/

def count (metrics : Metrics) (kind : Option Statement.Kind) (status : Status) : Metrics :=
  { metrics with statements := metrics.statements.bump (kind, status) }

def observe (metrics : Metrics) (kind : Option Statement.Kind) : Metrics :=
  { metrics with latencies := metrics.latencies.bump kind }

/-- Sets the gauges to the numbers of a catalog. Gauges of tables that it lacks stay. -/
def refresh (metrics : Metrics) (catalog : Catalog) : Metrics :=
  { metrics with
    tables := catalog.tableCount
    rows := metrics.rows.putAll catalog.counts }

def counted (metrics : Metrics) (kind : Option Statement.Kind) (status : Status) : Nat :=
  (metrics.statements.get? (kind, status)).getD 0

def observed (metrics : Metrics) (kind : Option Statement.Kind) : Nat :=
  (metrics.latencies.get? kind).getD 0

theorem counted_record (metrics : Metrics) (kind other : Option Statement.Kind)
    (status otherStatus : Status) :
    (metrics.record kind status).counted other otherStatus =
      metrics.counted other otherStatus +
        if (other, otherStatus) = (kind, status) then 1 else 0 := by
  simp only [counted, record, OrderedMap.bump, OrderedMap.get?_put]
  split <;> simp_all

theorem observed_record (metrics : Metrics) (kind other : Option Statement.Kind)
    (status : Status) :
    (metrics.record kind status).observed other =
      metrics.observed other + if other = kind then 1 else 0 := by
  simp only [observed, record, OrderedMap.bump, OrderedMap.get?_put]
  split <;> simp_all

end Metrics

end RowStore
