import RowStore.Proofs.Workers.Step

/-!
Quantities that no step of a worker changes.

What leaves the queue is with one worker until it is settled, so tickets are neither lost nor
doubled. What the counters hold is what is settled, and what some worker is about to settle.
-/

namespace RowStore

namespace Workers

/-- A quantity to which both what is shared and each worker contribute. -/
structure Ledger where
  shared : Shared → Int
  phase : Phase → Int

namespace Ledger

def held (ledger : Ledger) : List Phase → Int
  | [] => 0
  | phase :: phases => ledger.phase phase + held ledger phases

def total (ledger : Ledger) (workers : Workers) : Int :=
  ledger.shared workers.shared + ledger.held workers.phases

structure Balanced (ledger : Ledger) (execution : Execution) : Prop where
  works : ∀ {index : Nat} {phase next : Phase} {shared after : Shared},
    Works execution index phase shared next after → phase.Waited execution →
      ledger.shared after + ledger.phase next = ledger.shared shared + ledger.phase phase
  reads : ∀ {shared after : Shared}, Reads shared after →
    ledger.shared after = ledger.shared shared

variable {ledger : Ledger}

theorem held_set (ledger : Ledger) {phases : List Phase} {index : Nat} {phase : Phase}
    (next : Phase) (hphase : phases[index]? = some phase) :
    ledger.held (phases.set index next) + ledger.phase phase =
      ledger.held phases + ledger.phase next := by
  induction phases generalizing index with
  | nil => contradiction
  | cons head phases ih =>
      cases index with
      | zero =>
          cases hphase
          rw [List.set_cons_zero, held, held]
          omega
      | succ index =>
          have hphases := ih hphase
          rw [List.set_cons_succ, held, held]
          omega

theorem held_eq_zero {phases : List Phase}
    (hzero : ∀ phase ∈ phases, ledger.phase phase = 0) : ledger.held phases = 0 := by
  induction phases with
  | nil => rfl
  | cons head phases ih =>
      rw [held, hzero head List.mem_cons_self,
        ih fun phase hmem => hzero phase (List.mem_cons_of_mem _ hmem), Int.add_zero]

theorem Balanced.move {workers after : Workers} (hbalanced : ledger.Balanced workers.execution)
    (hwaited : workers.Waited) (hmoves : Moves workers after) :
    ledger.total after = ledger.total workers := by
  cases hmoves with
  | read hreads => rw [total, total, hbalanced.reads hreads]
  | @work index phase next shared hphase hworks =>
      have hshared := hbalanced.works hworks (hwaited phase (List.mem_of_getElem? hphase))
      have hheld := ledger.held_set next hphase
      simp only [total]
      omega

theorem Balanced.run {workers after : Workers} {moves : List Move}
    (hbalanced : ledger.Balanced workers.execution) (hwaited : workers.Waited)
    (hrun : workers.run? moves = some after) : ledger.total after = ledger.total workers := by
  refine (run_induction (fun reached => reached.execution = workers.execution ∧
    reached.Waited ∧ ledger.total reached = ledger.total workers) ?_ hrun ⟨rfl, hwaited, rfl⟩).2.2
  rintro former next hmoves ⟨hexecution, hformer, htotal⟩
  refine ⟨hmoves.execution_eq.trans hexecution, hformer.move hmoves, ?_⟩
  rw [← htotal]
  exact Balanced.move (hexecution ▸ hbalanced) hformer hmoves

theorem total_of_idle {workers : Workers} (hzero : ledger.phase .idle = 0)
    (hidle : ∀ phase ∈ workers.phases, phase = .idle) :
    ledger.total workers = ledger.shared workers.shared := by
  rw [total, held_eq_zero fun phase hmem => by rw [hidle phase hmem, hzero], Int.add_zero]

end Ledger

end Workers

def Ticket.kind? (ticket : Ticket) : Option Statement.Kind :=
  (Statement.parse ticket.text).map Statement.kind

/-- Whether a ticket comes to be carried out: its wait returns, and its text is a statement. -/
def Execution.executes (execution : Execution) (ticket : Ticket) : Bool :=
  (execution.fault? ticket.toSubmission).isNone && ticket.kind?.isSome

namespace Workers

theorem Task.kind?_ticket (task : Task) : task.ticket.kind? = some task.statement.kind := by
  rw [Ticket.kind?, task.parsed, Option.map_some]

theorem kind?_of_unparsed {ticket : Ticket} (hparse : Statement.parse ticket.text = none) :
    ticket.kind? = none := by
  rw [Ticket.kind?, hparse, Option.map_none]

namespace Phase

def ticket? : Phase → Option Ticket
  | .idle => none
  | .taken ticket | .rejected ticket _ | .measured ticket _ | .counted ticket _ => some ticket
  | .parsed task | .admitted task | .computed task .. | .changed task _ | .surveyed task ..
  | .refreshed task _ | .released task _ => some task.ticket

theorem eq_idle_iff {phase : Phase} : phase = .idle ↔ phase.ticket? = none := by
  cases phase <;> simp [ticket?]

instance (phase : Phase) : Decidable (phase = .idle) := decidable_of_iff _ eq_idle_iff.symm

/-- The ticket that a worker is busy with, once it has got the lock for it. -/
def executed? (execution : Execution) : Phase → Option Ticket
  | .idle | .taken _ | .rejected .. | .parsed _ => none
  | .admitted task | .computed task .. | .changed task _ | .surveyed task ..
  | .refreshed task _ | .released task _ => some task.ticket
  | .measured ticket _ | .counted ticket _ =>
      if execution.executes ticket then some ticket else none

/-- What a worker is about to settle, once it stands in the measurements. -/
def measured? : Phase → Option (Ticket × Outcome)
  | .measured ticket outcome | .counted ticket outcome => some (ticket, outcome)
  | _ => none

def counted? : Phase → Option (Ticket × Outcome)
  | .counted ticket outcome => some (ticket, outcome)
  | _ => none

end Phase

namespace Ledger

/-- How often a ticket is in the queue, with a worker, or settled. -/
def submissions (ticket : Ticket) : Ledger where
  shared := fun shared => shared.queue.count ticket + (shared.settled.map Prod.fst).count ticket
  phase := fun phase => phase.ticket?.toList.count ticket

/-- How often a ticket has been settled as a statement or is about to be, less how often it got the
lock. -/
def executions (execution : Execution) (ticket : Ticket) : Ledger where
  shared := fun shared =>
    ((shared.settled.map Prod.fst).filter execution.executes).count ticket -
      (shared.admitted.map Task.ticket).count ticket
  phase := fun phase => (phase.executed? execution).toList.count ticket

/-- How much is settled or about to be, less what the measurements hold. -/
def measurements (counter : Metrics → Nat) (chosen : Ticket × Outcome → Bool) : Ledger where
  shared := fun shared => shared.settled.countP chosen - counter shared.store.metrics
  phase := fun phase => phase.measured?.toList.countP chosen

def counts (counter : Nat → Nat → Nat) (chosen : Ticket × Outcome → Bool) : Ledger where
  shared := fun shared => shared.settled.countP chosen - counter shared.total shared.failed
  phase := fun phase => phase.counted?.toList.countP chosen

variable {execution : Execution}

theorem balanced_submissions (ticket : Ticket) : (submissions ticket).Balanced execution where
  reads := fun hreads => by cases hreads <;> rfl
  works := fun hworks _ => by
    cases hworks with
    | take hqueue =>
        simp only [submissions, Phase.ticket?, hqueue, Option.toList, List.count_cons,
          List.count_nil]
        omega
    | settle settled outcome =>
        simp only [submissions, Phase.ticket?, List.map_append, List.map_cons, List.map_nil,
          List.count_append, Option.toList, List.count_nil]
        omega
    | _ => rfl

theorem balanced_executions (ticket : Ticket) :
    (executions execution ticket).Balanced execution where
  reads := fun hreads => by cases hreads <;> rfl
  works := fun hworks hwaited => by
    cases hworks with
    | interrupt hfault => simp [executions, Phase.executed?, Execution.executes, hfault]
    | measureRejection hparse =>
        simp [executions, Phase.executed?, Execution.executes, kind?_of_unparsed hparse,
          Shared.measure]
    | lock task hfree =>
        simp only [executions, Phase.executed?, List.map_append, List.map_cons, List.map_nil,
          List.count_append, Option.toList, List.count_nil]
        omega
    | measure task reply =>
        have hreturned : execution.fault? task.ticket.toSubmission = none := hwaited
        simp [executions, Phase.executed?, Execution.executes, hreturned, Task.kind?_ticket,
          Shared.measure]
    | settle settled outcome =>
        by_cases hexecutes : execution.executes settled = true
        · simp [executions, Phase.executed?, hexecutes]
          omega
        · simp [executions, Phase.executed?, hexecutes]
    | _ => rfl

section Chosen

variable {chosen : Ticket × Outcome → Bool}
  (hdropped : ∀ ticket outcome,
    chosen (ticket, outcome) = true → execution.fault? ticket.toSubmission = none)
include hdropped

theorem countP_of_fault {ticket : Ticket} {fault : Fault}
    (hfault : execution.fault? ticket.toSubmission = some fault) (outcome : Outcome) :
    [(ticket, outcome)].countP chosen = 0 := by
  rw [List.countP_singleton, if_neg]
  intro hchosen
  cases hfault.symm.trans (hdropped ticket outcome hchosen)

theorem balanced_measurements {counter : Metrics → Nat}
    (hrefresh : ∀ metrics catalog, counter (metrics.refresh catalog) = counter metrics)
    (hrecord : ∀ metrics ticket outcome, execution.fault? ticket.toSubmission = none →
      counter (metrics.record ticket.kind? (Outcome.status outcome)) =
        counter metrics + if chosen (ticket, outcome) then 1 else 0) :
    (measurements counter chosen).Balanced execution where
  reads := fun hreads => by cases hreads <;> rfl
  works := fun hworks hwaited => by
    cases hworks with
    | interrupt hfault =>
        simp only [measurements, Phase.measured?, Option.toList, List.countP_nil,
          countP_of_fault hdropped hfault]
    | @measureRejection _ ticket hparse =>
        rw [← kind?_of_unparsed hparse]
        simp only [measurements, Phase.measured?, Shared.measure, Store.record,
          hrecord _ ticket _ hwaited, Option.toList, List.countP_singleton, List.countP_nil]
        omega
    | refresh task reply seen => simp [measurements, Phase.measured?, hrefresh]
    | measure task reply =>
        rw [← Task.kind?_ticket]
        simp only [measurements, Phase.measured?, Shared.measure, Store.record,
          hrecord _ task.ticket _ hwaited, Option.toList, List.countP_singleton, List.countP_nil]
        omega
    | settle settled outcome =>
        simp only [measurements, Phase.measured?, List.countP_append, Option.toList,
          List.countP_nil]
        omega
    | _ => rfl

theorem balanced_counts {counter : Nat → Nat → Nat}
    (hcount : ∀ total failed ticket outcome, execution.fault? ticket.toSubmission = none →
      counter (total + 1) (failed + if Outcome.status outcome = .error then 1 else 0) =
        counter total failed + if chosen (ticket, outcome) then 1 else 0) :
    (counts counter chosen).Balanced execution where
  reads := fun hreads => by cases hreads <;> rfl
  works := fun hworks hwaited => by
    cases hworks with
    | interrupt hfault =>
        simp only [counts, Phase.counted?, Option.toList, List.countP_nil,
          countP_of_fault hdropped hfault]
    | count ticket outcome =>
        simp only [counts, Phase.counted?, Shared.count, hcount _ _ ticket outcome hwaited,
          Option.toList, List.countP_singleton, List.countP_nil]
        omega
    | settle settled outcome =>
        simp only [counts, Phase.counted?, List.countP_append, Option.toList, List.countP_nil]
        omega
    | _ => rfl

end Chosen

theorem balanced_counted (execution : Execution) (kind : Option Statement.Kind)
    (status : Status) :
    (measurements (fun metrics => metrics.counted kind status) fun entry =>
      execution.fault? entry.1.toSubmission = none ∧
        (kind, status) = (entry.1.kind?, entry.2.status)).Balanced execution := by
  refine balanced_measurements (fun _ _ hchosen => (of_decide_eq_true hchosen).1)
    (fun _ _ => rfl) fun metrics ticket outcome hreturned => ?_
  rw [Metrics.counted_record]
  simp only [decide_eq_true_eq, hreturned, true_and]

theorem balanced_observed (execution : Execution) (kind : Option Statement.Kind) :
    (measurements (fun metrics => metrics.observed kind) fun entry =>
      execution.fault? entry.1.toSubmission = none ∧ kind = entry.1.kind?).Balanced execution := by
  refine balanced_measurements (fun _ _ hchosen => (of_decide_eq_true hchosen).1)
    (fun _ _ => rfl) fun metrics ticket outcome hreturned => ?_
  rw [Metrics.observed_record]
  simp only [decide_eq_true_eq, hreturned, true_and]

theorem balanced_total (execution : Execution) :
    (counts (fun total _ => total) fun entry =>
      execution.fault? entry.1.toSubmission = none).Balanced execution := by
  refine balanced_counts (fun _ _ hchosen => of_decide_eq_true hchosen) fun _ _ _ _ hreturned => ?_
  simp only [decide_eq_true_eq, hreturned, if_true]

theorem balanced_failed (execution : Execution) :
    (counts (fun _ failed => failed) fun entry =>
      execution.fault? entry.1.toSubmission = none ∧
        entry.2.status = .error).Balanced execution := by
  refine balanced_counts (fun _ _ hchosen => (of_decide_eq_true hchosen).1)
    fun _ _ _ _ hreturned => ?_
  simp only [decide_eq_true_eq, hreturned, true_and]

end Ledger

/-- Every ticket has been taken, and every worker is done with what it took. -/
def Done (workers : Workers) : Prop :=
  workers.shared.queue = [] ∧ ∀ phase ∈ workers.phases, phase = .idle

instance (workers : Workers) : Decidable workers.Done := inferInstanceAs (Decidable (_ ∧ _))

section Done

variable {store : Store} {database : Database}
  {hserialized : database.execution.serialized = true} {submissions : List Submission}
  {moves : List Move} {workers : Workers}

theorem Done.balance {ledger : Ledger} (hdone : workers.Done)
    (hrun : (start store database hserialized submissions).run? moves = some workers)
    (hbalanced : ledger.Balanced database.execution) (hzero : ledger.phase .idle = 0) :
    ledger.shared workers.shared =
      ledger.shared (start store database hserialized submissions).shared := by
  rw [← Ledger.total_of_idle hzero hdone.2,
    ← Ledger.total_of_idle hzero fun phase hmem => List.eq_of_mem_replicate hmem]
  exact hbalanced.run (waited_start store database hserialized submissions) hrun

theorem Done.settled_perm (hdone : workers.Done)
    (hrun : (start store database hserialized submissions).run? moves = some workers) :
    (workers.shared.settled.map Prod.fst).Perm (numbered 0 submissions) := by
  rw [List.perm_iff_count]
  intro ticket
  have hbalance := hdone.balance hrun (Ledger.balanced_submissions ticket) rfl
  simp only [Ledger.submissions, start, hdone.1, List.count_nil, List.map_nil] at hbalance
  omega

theorem Done.admitted_perm (hdone : workers.Done)
    (hrun : (start store database hserialized submissions).run? moves = some workers) :
    (workers.shared.admitted.map Task.ticket).Perm
      ((numbered 0 submissions).filter database.execution.executes) := by
  refine List.Perm.trans ?_ ((hdone.settled_perm hrun).filter _)
  rw [List.perm_iff_count]
  intro ticket
  have hbalance := hdone.balance hrun (Ledger.balanced_executions ticket) rfl
  simp only [Ledger.executions, start, List.count_nil, List.map_nil, List.filter_nil] at hbalance
  omega

theorem Done.measured {counter : Metrics → Nat} {chosen : Ticket × Outcome → Bool}
    (hdone : workers.Done)
    (hrun : (start store database hserialized submissions).run? moves = some workers)
    (hbalanced : (Ledger.measurements counter chosen).Balanced database.execution) :
    counter workers.shared.store.metrics =
      counter store.metrics + workers.shared.settled.countP chosen := by
  have hbalance := hdone.balance hrun hbalanced rfl
  simp only [Ledger.measurements, start, List.countP_nil] at hbalance
  omega

theorem Done.counted {counter : Nat → Nat → Nat} {chosen : Ticket × Outcome → Bool}
    (hdone : workers.Done)
    (hrun : (start store database hserialized submissions).run? moves = some workers)
    (hbalanced : (Ledger.counts counter chosen).Balanced database.execution) :
    counter workers.shared.total workers.shared.failed =
      counter database.total database.failed + workers.shared.settled.countP chosen := by
  have hbalance := hdone.balance hrun hbalanced rfl
  simp only [Ledger.counts, start, List.countP_nil] at hbalance
  omega

end Done

end Workers

end RowStore
