import RowStore.Trace.Span

namespace RowStore.Trace

/-- Numbers the spans in the order in which they begin, and keeps the finished ones in the order in
which they end. -/
structure Recorder where
  next : Nat := 0
  current : Option Nat := none
  finished : List Span := []

namespace Recorder

def enter (recorder : Recorder) : Recorder :=
  { recorder with next := recorder.next + 1, current := some recorder.next }

def span (recorder : Recorder) (name : String) (attributes : List (String × Json))
    (fault : Option Fault) : Span :=
  { id := recorder.next
    parent := recorder.current
    name := name
    attributes := attributes
    status := fault
    events := fault.toList }

def exit (recorder : Recorder) (span : Span) : Recorder :=
  { recorder with current := span.parent, finished := recorder.finished ++ [span] }

end Recorder

def Kit.ofRecorder {σ : Type} (recorder : σ → Recorder) (change : (Recorder → Recorder) → σ → σ)
    (keep : List (String × Json) → List (String × Json)) : Kit σ where
  within fault name attributes work state :=
    let (result, inner) := work (change Recorder.enter state)
    let span := (recorder state).span name (keep attributes) (Fault.ofResult? fault result)
    (result, change (fun recorder => recorder.exit span) inner)
  current state := (recorder state).current
  issued state := (List.range (recorder state).next).reverse
  finished state := (recorder state).finished
  keep := keep

end RowStore.Trace
