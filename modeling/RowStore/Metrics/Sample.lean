import RowStore.Metrics.Basic
import RowStore.Service

namespace RowStore.Metrics

structure Sample where
  name : String
  labels : List (String × String)
  value : Nat
  deriving DecidableEq

def sortedKinds : List (Option Statement.Kind) :=
  [some .createTable, some .delete, some .insert, some .select, none]

def sortedStatuses : List Status := [.error, .success]

def infoSample (metrics : Metrics) : Sample :=
  { name := Service.name ++ "_info"
    labels := metrics.version.toList.map fun version => ("version", version)
    value := 1 }

def rowSamples (metrics : Metrics) : List Sample :=
  (sortByKey metrics.rows.entries).map fun (table, count) =>
    { name := Service.name ++ "_rows", labels := [("table", table)], value := count }

def latencySamples (metrics : Metrics) : List Sample :=
  sortedKinds.filterMap fun kind =>
    (metrics.latencies.get? kind).map fun count =>
      { name := Service.name ++ "_statement_latency_seconds_count"
        labels := [("kind", kindName kind)]
        value := count }

def statementSamples (metrics : Metrics) : List Sample :=
  sortedKinds.flatMap fun kind =>
    sortedStatuses.filterMap fun status =>
      (metrics.statements.get? (kind, status)).map fun count =>
        { name := Service.name ++ "_statements_total"
          labels := [("kind", kindName kind), ("status", status.name)]
          value := count }

def tableSample (metrics : Metrics) : Sample :=
  { name := Service.name ++ "_tables", labels := [], value := metrics.tables }

/-- Every sample; those of counters and of row gauges exist once they are touched. -/
def samples (metrics : Metrics) : List Sample :=
  metrics.infoSample :: (metrics.rowSamples ++ metrics.latencySamples ++
    metrics.statementSamples ++ [metrics.tableSample])

end RowStore.Metrics
