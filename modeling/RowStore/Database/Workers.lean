import RowStore.Database.Basic

/-!
Workers of a serialized database: they take turns at one store, in small steps that may interleave
in any order.

A worker takes the oldest ticket, parses its text and waits for the lock. With the lock it works out
what the statement makes of the tables that it finds, puts the new tables in their place, and sets
the gauges to the numbers that it reads off. Then it gives the lock back, counts the statement and
settles the ticket. A reader needs the lock too, and looks at one table after another.
-/

namespace RowStore

/-- A submission with its number in the order of submissions. -/
structure Ticket extends Submission where
  number : Nat
  deriving DecidableEq

def Outcome.status : Outcome → Status
  | .ok _ => .success
  | .error _ => .error

namespace Workers

/-- A ticket whose text is a statement. -/
structure Task where
  ticket : Ticket
  statement : Statement
  parsed : Statement.parse ticket.text = some statement

namespace Task

def outcome (task : Task) (reply : Except Failure Reply) : Outcome :=
  .ofReply task.ticket.text reply

/-- Whether the gauges have to follow a statement with this reply. -/
def changes (task : Task) : Except Failure Reply → Bool
  | .error _ => false
  | .ok _ => task.statement.kind ≠ .select

end Task

/-- Where a worker is. It holds the lock from `admitted` to `refreshed`. -/
inductive Phase
  | idle
  | taken (ticket : Ticket)
  | rejected (ticket : Ticket) (unparsed : Statement.parse ticket.text = none)
  | parsed (task : Task)
  | admitted (task : Task)
  | computed (task : Task) (reply : Except Failure Reply) (next : Catalog)
  | changed (task : Task) (reply : Except Failure Reply)
  | surveyed (task : Task) (reply : Except Failure Reply) (seen : Catalog)
  | refreshed (task : Task) (reply : Except Failure Reply)
  | released (task : Task) (reply : Except Failure Reply)
  | measured (ticket : Ticket) (outcome : Outcome)
  | counted (ticket : Ticket) (outcome : Outcome)

def Phase.ofTicket (ticket : Ticket) : Phase :=
  match h : Statement.parse ticket.text with
  | none => .rejected ticket h
  | some statement => .parsed ⟨ticket, statement, h⟩

inductive Inquiry
  | snapshot
  | stats

inductive Reading
  | dump (tables : List (String × Table))
  | tally (tables : Nat) (rows : List (String × Nat))

def Inquiry.reading (seen : List (String × Table)) : Inquiry → Reading
  | .snapshot => .dump seen
  | .stats => .tally seen.length (seen.map fun entry => (entry.1, entry.2.rows.length))

/-- A reader with the names that it has still to look up. -/
structure View where
  inquiry : Inquiry
  pending : List String
  seen : List (String × Table) := []

inductive Holder
  | worker (index : Nat)
  | reader (view : View)

/-- What workers and readers share. The tasks stand in the order in which they got the lock, and a
reading comes with the number of tasks that got it before. -/
structure Shared where
  store : Store := {}
  total : Nat := 0
  failed : Nat := 0
  queue : List Ticket := []
  holder : Option Holder := none
  admitted : List Task := []
  settled : List (Ticket × Outcome) := []
  readings : List (Nat × Reading) := []

/-- What a reader does: it gets the lock, looks at the next table, gives the lock back. -/
inductive Glance
  | enter (inquiry : Inquiry)
  | look
  | leave

namespace Shared

def measure (shared : Shared) (kind : Option Statement.Kind) (outcome : Outcome) : Shared :=
  { shared with store := shared.store.record kind outcome.status }

def count (shared : Shared) (outcome : Outcome) : Shared :=
  { shared with
    total := shared.total + 1
    failed := shared.failed + (if outcome.status = .error then 1 else 0) }

/-- The next step of a worker, unless it has to wait. -/
def work? (execution : Execution) (index : Nat) (shared : Shared) :
    Phase → Option (Phase × Shared)
  | .idle =>
      match shared.queue with
      | [] => none
      | ticket :: queue => some (.taken ticket, { shared with queue := queue })
  | .taken ticket =>
      match execution.fault? ticket.toSubmission with
      | some fault => some (.counted ticket (.error (.interrupted fault)), shared)
      | none => some (.ofTicket ticket, shared)
  | .rejected ticket _ =>
      let outcome : Outcome := .error (.malformed ticket.text)
      some (.measured ticket outcome, shared.measure none outcome)
  | .parsed task =>
      match shared.holder with
      | some _ => none
      | none =>
          some (.admitted task,
            { shared with
              holder := some (.worker index)
              admitted := shared.admitted ++ [task] })
  | .admitted task =>
      let (reply, next) := shared.store.catalog.step task.statement
      some (.computed task reply next, shared)
  | .computed task reply next =>
      some (.changed task reply, { shared with store := { shared.store with catalog := next } })
  | .changed task reply =>
      if task.changes reply then some (.surveyed task reply shared.store.catalog, shared)
      else some (.refreshed task reply, shared)
  | .surveyed task reply seen =>
      let metrics := shared.store.metrics.refresh seen
      some (.refreshed task reply,
        { shared with store := { shared.store with metrics := metrics } })
  | .refreshed task reply => some (.released task reply, { shared with holder := none })
  | .released task reply =>
      some (.measured task.ticket (task.outcome reply),
        shared.measure (some task.statement.kind) (task.outcome reply))
  | .measured ticket outcome => some (.counted ticket outcome, shared.count outcome)
  | .counted ticket outcome =>
      some (.idle, { shared with settled := shared.settled ++ [(ticket, outcome)] })

def read? (shared : Shared) : Glance → Option Shared
  | .enter inquiry =>
      match shared.holder with
      | some _ => none
      | none =>
          let view : View := { inquiry := inquiry, pending := shared.store.catalog.names }
          some { shared with holder := some (.reader view) }
  | .look =>
      match shared.holder with
      | some (.reader ⟨inquiry, name :: pending, seen⟩) =>
          let found := (shared.store.catalog.table? name).map fun table => (name, table)
          let view : View := ⟨inquiry, pending, seen ++ found.toList⟩
          some { shared with holder := some (.reader view) }
      | _ => none
  | .leave =>
      match shared.holder with
      | some (.reader ⟨inquiry, [], seen⟩) =>
          let reading := (shared.admitted.length, inquiry.reading seen)
          some { shared with holder := none, readings := shared.readings ++ [reading] }
      | _ => none

end Shared

inductive Move
  | work (index : Nat)
  | read (glance : Glance)

end Workers

open Workers in
structure Workers where
  execution : Execution
  serialized : execution.serialized = true
  shared : Shared
  phases : List Phase

namespace Workers

def numbered (first : Nat) : List Submission → List Ticket
  | [] => []
  | submission :: submissions => ⟨submission, first⟩ :: numbered (first + 1) submissions

def start (store : Store) (database : Database)
    (hserialized : database.execution.serialized = true) (submissions : List Submission) :
    Workers :=
  { execution := database.execution
    serialized := hserialized
    shared :=
      { store := store
        total := database.total
        failed := database.failed
        queue := numbered 0 submissions }
    phases := List.replicate database.execution.workers.toNat .idle }

/-- The workers after a move, unless it cannot be made now. -/
def move? (workers : Workers) : Move → Option Workers
  | .work index =>
      workers.phases[index]?.bind fun phase =>
        (workers.shared.work? workers.execution index phase).map fun (next, shared) =>
          { workers with shared := shared, phases := workers.phases.set index next }
  | .read glance =>
      (workers.shared.read? glance).map fun shared => { workers with shared := shared }

def run? (workers : Workers) : List Move → Option Workers
  | [] => some workers
  | move :: moves => (workers.move? move).bind fun next => next.run? moves

end Workers

end RowStore
