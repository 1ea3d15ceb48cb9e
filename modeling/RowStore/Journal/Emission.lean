import RowStore.Journal.Context

namespace RowStore.Journal

/-- What is left to the kit that loggers are made with: which event a call emits, if it emits one,
what it accepts, and how it writes an entry. What it refuses ends everything. -/
structure Kit (κ ε α : Type) where
  event? : κ → Option Event
  bind : List (String × Json) → Except ε Unit
  enter : Scope → Except ε Unit
  call : κ → Except ε Unit
  write : Entry → Except ε (List α)

/-- A logger: the values that are bound to it, the thread that it is used in, and the least severity
that it lets through. -/
structure Logger where
  values : List (String × Json)
  thread : String
  threshold : Nat

namespace Logger

variable {κ ε α : Type} (logger : Logger)

def emit (kit : Kit κ ε α) (event : Event) (context : Bindings) : Except ε (List α) :=
  if event.passes logger.threshold then
    kit.write (event.entry context (.ofList logger.values) logger.thread)
  else .ok []

def perform (kit : Kit κ ε α) : Act κ → Except ε (List α)
  | .enter scope => (kit.enter scope).map fun _ => []
  | .call call context => do
      kit.call call
      match kit.event? call with
      | none => return []
      | some event => logger.emit kit event context

def run (kit : Kit κ ε α) (scopes : List Scope) (calls : List κ) : Except ε (List α) := do
  kit.bind logger.values
  let written ← (acts calls scopes .empty).1.mapM (logger.perform kit)
  return written.flatten

end Logger

end RowStore.Journal
