import RowStore.Database.Fleet
import RowStore.Database.Workers

/-!
All workers of the databases that share a store, at work at the same time.

A worker takes the oldest text in the queue of its database and carries it out. It counts the text
in the measurements, notes the latency there, counts the text in the database and settles it.
Between any two of these steps other workers may take theirs.
-/

namespace RowStore

def Statement.kind? (text : String) : Option Kind := (parse text).map kind

/-- What a database has run, and what it came to. -/
structure Deed where
  database : Nat
  submission : Submission
  outcome : Outcome

abbrev Deed.text (deed : Deed) : String := deed.submission.text

def Database.count (database : Database) (status : Status) : Database :=
  { database with
    total := database.total + 1
    failed := database.failed + (if status = .error then 1 else 0) }

namespace Store

def answer (store : Store) (text : String) : Outcome × Store :=
  match Statement.parse text with
  | none => (.error (.malformed text), store)
  | some statement =>
      let (reply, next) := store.dispatch statement
      (.ofReply text reply, next)

def measure (store : Store) (change : Metrics → Metrics) : Store :=
  { store with metrics := change store.metrics }

/-- Workers that do not take turns may leave anything in the tables and in the gauges. -/
def disturb (store : Store) (catalog : Catalog) (tables : Nat) (rows : OrderedMap String Nat) :
    Store :=
  { catalog := catalog
    metrics := { store.metrics with tables := tables, rows := rows } }

end Store

namespace Crew

/-- Where a worker is. -/
inductive Stage
  | idle
  | taken (submission : Submission)
  | answered (submission : Submission) (outcome : Outcome)
  | counted (submission : Submission) (outcome : Outcome)
  | observed (submission : Submission) (outcome : Outcome)
  | posted (submission : Submission) (outcome : Outcome)

def Stage.submission? : Stage → Option Submission
  | .idle => none
  | .taken submission | .answered submission _ | .counted submission _
  | .observed submission _ | .posted submission _ => some submission

structure Worker where
  employer : Nat
  stage : Stage := .idle

/-- What all workers share. What was submitted is dropped, and is no deed, if its wait is
interrupted. -/
structure Shared where
  store : Store
  databases : List Database
  accepted : List (Nat × Submission) := []
  dropped : List (Nat × Submission) := []
  deeds : List Deed := []

namespace Shared

def assign (shared : Shared) (index : Nat) (database : Database) : Shared :=
  { shared with databases := shared.databases.set index database }

def measure (shared : Shared) (change : Metrics → Metrics) : Shared :=
  { shared with store := shared.store.measure change }

/-- The next step of a worker of a database, unless there is nothing to do. -/
def work? (shared : Shared) (employer : Nat) (database : Database) :
    Stage → Option (Stage × Shared)
  | .idle =>
      match database.queue with
      | [] => none
      | submission :: queue =>
          some (.taken submission, shared.assign employer { database with queue := queue })
  | .taken submission =>
      match database.execution.fault? submission with
      | some _ =>
          some (.idle, { shared with dropped := shared.dropped ++ [(employer, submission)] })
      | none =>
          let (outcome, store) := shared.store.answer submission.text
          some (.answered submission outcome, { shared with store := store })
  | .answered submission outcome =>
      some (.counted submission outcome,
        shared.measure fun metrics =>
          metrics.count (Statement.kind? submission.text) outcome.status)
  | .counted submission outcome =>
      some (.observed submission outcome,
        shared.measure fun metrics => metrics.observe (Statement.kind? submission.text))
  | .observed submission outcome =>
      some (.posted submission outcome, shared.assign employer (database.count outcome.status))
  | .posted submission outcome =>
      some (.idle, { shared with deeds := shared.deeds ++ [⟨employer, submission, outcome⟩] })

end Shared

inductive Move
  | start (index : Nat)
  | stop (index : Nat)
  | submit (index : Nat) (submission : Submission)
  | work (worker : Nat)
  | disturb (catalog : Catalog) (tables : Nat) (rows : OrderedMap String Nat)

end Crew

open Crew in
structure Crew where
  shared : Shared
  workers : List Worker

namespace Crew

def gather (store : Store) (databases : List Database) : Crew :=
  { shared := { store := store, databases := databases }
    workers := databases.zipIdx.flatMap fun (database, index) =>
      List.replicate database.execution.workers.toNat { employer := index } }

def rests (crew : Crew) (index : Nat) : Bool :=
  crew.workers.all fun worker => worker.employer ≠ index || worker.stage.submission? = none

/-- The crew after a move, unless it cannot be made now. What a database refuses has no effect. A
database that stops waits for its workers. -/
def move? (crew : Crew) : Move → Option Crew
  | .start index =>
      crew.shared.databases[index]?.map fun database =>
        if database.started then crew
        else { crew with shared := crew.shared.assign index { database with started := true } }
  | .stop index =>
      crew.shared.databases[index]?.bind fun database =>
        if database.started then
          if database.queue = [] && crew.rests index then
            some { crew with shared := crew.shared.assign index { database with started := false } }
          else none
        else some crew
  | .submit index submission =>
      crew.shared.databases[index]?.map fun database =>
        if database.started then
          let queued := { database with queue := database.queue ++ [submission] }
          { crew with
            shared :=
              { crew.shared.assign index queued with
                accepted := crew.shared.accepted ++ [(index, submission)] } }
        else crew
  | .work index =>
      crew.workers[index]?.bind fun worker =>
        crew.shared.databases[worker.employer]?.bind fun database =>
          (crew.shared.work? worker.employer database worker.stage).map fun (stage, shared) =>
            { shared := shared
              workers := crew.workers.set index { worker with stage := stage } }
  | .disturb catalog tables rows =>
      some { crew with
        shared := { crew.shared with store := crew.shared.store.disturb catalog tables rows } }

def run? (crew : Crew) : List Move → Option Crew
  | [] => some crew
  | move :: moves => (crew.move? move).bind fun next => next.run? moves

end Crew

end RowStore
