import RowStore.Database.Host
import RowStore.Proofs.Workers.Progress
import RowStore.Proofs.Workers.Sequence

namespace RowStore

namespace Host

def tally (host : Host) : Store × Nat × Nat :=
  (host.site.store, host.database.total, host.database.failed)

theorem tally_conclude (host : Host) (text : String) (statement : Statement)
    (reply : Except Failure Reply) :
    (host.conclude text statement reply).tally =
      (host.record (some statement.kind) (Outcome.ofReply text reply).status).tally := by
  cases reply <;> rfl

theorem tally_carryOut (host : Host) (text : String) (statement : Statement) :
    let (reply, store) := host.site.store.dispatch statement
    let status := (Outcome.ofReply text reply).status
    (host.carryOut text statement).2.tally =
      (store.record (some statement.kind) status, host.database.total + 1,
        host.database.failed + if status = .error then 1 else 0) := by
  rw [carryOut_eq]
  exact tally_conclude (host.applied statement) ..

theorem execution_conclude (host : Host) (text : String) (statement : Statement)
    (reply : Except Failure Reply) :
    (host.conclude text statement reply).database.execution = host.database.execution := by
  cases reply <;> rfl

theorem execution_perform (host : Host) (submission : Submission) :
    (host.perform submission).2.database.execution = host.database.execution := by
  unfold perform
  split
  · rfl
  · split
    · rfl
    · rw [carryOut_eq]
      exact execution_conclude ..

end Host

namespace Workers

def Shared.tally (shared : Shared) : Store × Nat × Nat :=
  (shared.store, shared.total, shared.failed)

theorem tally_eq_iff {shared : Shared} {host : Host} :
    shared.tally = host.tally ↔
      shared.store = host.site.store ∧ shared.total = host.database.total ∧
        shared.failed = host.database.failed := by
  simp only [Shared.tally, Host.tally, Prod.mk.injEq]

def alone {execution : Execution} (hserialized : execution.serialized = true) (shared : Shared)
    (phase : Phase) : Workers :=
  { execution := execution, serialized := hserialized, shared := shared, phases := [phase] }

inductive Runs (execution : Execution) : Phase → Shared → Phase → Shared → Prop
  | refl {phase : Phase} {shared : Shared} : Runs execution phase shared phase shared
  | head {phase next last : Phase} {shared between after : Shared}
      (hworks : Works execution 0 phase shared next between)
      (hruns : Runs execution next between last after) : Runs execution phase shared last after

section Runs

variable {execution : Execution} {phase next last : Phase} {shared between after : Shared}

theorem Runs.trans (hfirst : Runs execution phase shared next between)
    (hsecond : Runs execution next between last after) :
    Runs execution phase shared last after := by
  induction hfirst with
  | refl => exact hsecond
  | head hworks _ ih => exact .head hworks (ih hsecond)

theorem Runs.exists_run? (hserialized : execution.serialized = true)
    (hruns : Runs execution phase shared last after) :
    ∃ moves, (alone hserialized shared phase).run? moves =
      some (alone hserialized after last) := by
  induction hruns with
  | refl => exact ⟨[], rfl⟩
  | @head phase next last shared between after hworks hruns ih =>
      obtain ⟨moves, hmoves⟩ := ih
      have hmove : (alone hserialized shared phase).move? (.work 0) =
          some (alone hserialized between next) := by
        change ((shared.work? execution 0 phase).map _) = _
        rw [work?_of_works hworks]
        rfl
      exact ⟨.work 0 :: moves, by rw [run?, hmove, Option.bind_some, hmoves]⟩

theorem runs_turn (execution : Execution) (task : Task) (shared : Shared)
    (hfree : shared.holder = none) :
    Runs execution (.parsed task) shared
      (.released task (shared.store.dispatch task.statement).1)
      { shared with
        store := (shared.store.dispatch task.statement).2
        holder := none
        admitted := shared.admitted ++ [task] } := by
  cases hchanges : task.changes (shared.store.catalog.step task.statement).1 with
  | true =>
      rw [Store.dispatch_of_changes hchanges]
      exact .head (.lock task hfree) (.head (.compute task) (.head (.change ..)
        (.head (.survey hchanges) (.head (.refresh ..) (.head (.release ..) .refl)))))
  | false =>
      rw [Store.dispatch_of_not_changes hchanges]
      refine .head (.lock task hfree) (.head (.compute task) (.head (.change ..)
        (.head (.pass hchanges) (.head (.release ..) ?_))))
      rw [Catalog.step_eq_of_not_changes hchanges]
      exact .refl

end Runs

/-- A worker has carried out a ticket from the queue as a host carries out its text. -/
structure Carried (host : Host) (ticket : Ticket) (shared after : Shared) : Prop where
  tally : after.tally = (host.perform ticket.toSubmission).2.tally
  holder : after.holder = shared.holder
  queue : after.queue = shared.queue.tail
  settled : after.settled = shared.settled ++ [(ticket, (host.perform ticket.toSubmission).1)]

section Carried

variable {host : Host} {shared : Shared} {ticket : Ticket} {queue : List Ticket}

theorem carried_of_fault {fault : Fault} (htally : shared.tally = host.tally)
    (hqueue : shared.queue = ticket :: queue)
    (hfault : host.database.execution.fault? ticket.toSubmission = some fault) :
    ∃ after, Runs host.database.execution .idle shared .idle after ∧
      Carried host ticket shared after := by
  have hperform := Host.perform_of_fault hfault
  refine ⟨_, .head (.take hqueue) (.head (.interrupt hfault) (.head (.settle ..) .refl)), ?_⟩
  exact
    { tally := by rw [hperform]; exact htally
      holder := rfl
      queue := by rw [hqueue]; rfl
      settled := by rw [hperform] }

theorem carried_of_unparsed (htally : shared.tally = host.tally)
    (hqueue : shared.queue = ticket :: queue)
    (hreturned : host.database.execution.fault? ticket.toSubmission = none)
    (hparse : Statement.parse ticket.text = none) :
    ∃ after, Runs host.database.execution .idle shared .idle after ∧
      Carried host ticket shared after := by
  have hperform := Host.perform_of_unparsed hreturned hparse
  obtain ⟨hstore, htotal, hfailed⟩ := tally_eq_iff.mp htally
  refine ⟨_, .head (.take hqueue) (.head (.reject hreturned hparse)
    (.head (.measureRejection hparse) (.head (.count ..) (.head (.settle ..) .refl)))), ?_⟩
  exact
    { tally := by
        rw [hperform]
        change (shared.store.record none .error, shared.total + 1, shared.failed + 1) = _
        rw [hstore, htotal, hfailed]
        rfl
      holder := rfl
      queue := by rw [hqueue]; rfl
      settled := by rw [hperform]; rfl }

theorem carried_of_parse {statement : Statement} (htally : shared.tally = host.tally)
    (hfree : shared.holder = none) (hqueue : shared.queue = ticket :: queue)
    (hreturned : host.database.execution.fault? ticket.toSubmission = none)
    (hparse : Statement.parse ticket.text = some statement) :
    ∃ after, Runs host.database.execution .idle shared .idle after ∧
      Carried host ticket shared after := by
  have hperform := Host.perform_of_parse hreturned hparse
  obtain ⟨hstore, htotal, hfailed⟩ := tally_eq_iff.mp htally
  let task : Task := ⟨ticket, statement, hparse⟩
  have hturn := runs_turn host.database.execution task { shared with queue := queue } hfree
  refine ⟨_, .head (.take hqueue) (.head (.parse task hreturned) (hturn.trans
    (.head (.measure ..) (.head (.count ..) (.head (.settle ..) .refl))))), ?_⟩
  exact
    { tally := by
        rw [hperform, Host.tally_carryOut, ← hstore, ← htotal, ← hfailed]
        rfl
      holder := hfree.symm
      queue := by rw [hqueue]; rfl
      settled := by rw [hperform, Host.outcome_carryOut, ← hstore]; rfl }

theorem exists_carried (htally : shared.tally = host.tally) (hfree : shared.holder = none)
    (hqueue : shared.queue = ticket :: queue) :
    ∃ after, Runs host.database.execution .idle shared .idle after ∧
      Carried host ticket shared after := by
  cases hfault : host.database.execution.fault? ticket.toSubmission with
  | some fault => exact carried_of_fault htally hqueue hfault
  | none =>
      cases hparse : Statement.parse ticket.text with
      | none => exact carried_of_unparsed htally hqueue hfault hparse
      | some statement => exact carried_of_parse htally hfree hqueue hfault hparse

theorem exists_performAll (htally : shared.tally = host.tally) (hfree : shared.holder = none)
    {tickets : List Ticket} (hqueue : shared.queue = tickets) :
    ∃ after, Runs host.database.execution .idle shared .idle after ∧ after.queue = [] ∧
      after.tally = (host.performAll (tickets.map Ticket.toSubmission)).2.tally ∧
      after.settled.map Prod.snd =
        shared.settled.map Prod.snd ++ (host.performAll (tickets.map Ticket.toSubmission)).1 := by
  induction tickets generalizing host shared with
  | nil => exact ⟨shared, .refl, hqueue, htally, by simp⟩
  | cons ticket tickets ih =>
      obtain ⟨between, hfirst, hcarried⟩ := exists_carried htally hfree hqueue
      obtain ⟨after, hsecond, hempty, hafter, hsettled⟩ := ih hcarried.tally
        (hcarried.holder.trans hfree) (hcarried.queue.trans (by rw [hqueue]; rfl))
      rw [Host.execution_perform] at hsecond
      refine ⟨after, hfirst.trans hsecond, hempty, hafter, ?_⟩
      rw [hsettled, hcarried.settled, List.map_append, List.append_assoc]
      rfl

end Carried

/-- What a host makes of submissions, a worker that is alone can make of them. -/
theorem run_alone (host : Host) (submissions : List Submission)
    (hserialized : host.database.execution.serialized = true)
    (hworkers : host.database.execution.workers = 1) :
    ∃ moves workers,
      (start host.site.store host.database hserialized submissions).run? moves = some workers ∧
      workers.Done ∧ workers.shared.tally = (host.performAll submissions).2.tally ∧
      workers.shared.settled.map Prod.snd = (host.performAll submissions).1 := by
  let shared := (start host.site.store host.database hserialized submissions).shared
  have hstarted : shared.tally = host.tally := rfl
  obtain ⟨after, hruns, hqueue, htally, hsettled⟩ := exists_performAll hstarted rfl rfl
  obtain ⟨moves, hmoves⟩ := hruns.exists_run? hserialized
  have hstart : start host.site.store host.database hserialized submissions =
      alone hserialized shared .idle := by
    simp only [start, hworkers]
    rfl
  have hsubmissions : shared.queue.map Ticket.toSubmission = submissions :=
    map_toSubmission_numbered 0 submissions
  rw [hsubmissions] at htally hsettled
  refine ⟨moves, _, hstart ▸ hmoves, ⟨hqueue, ?_⟩, htally, hsettled⟩
  intro phase hmem
  exact List.mem_singleton.mp hmem

end Workers

end RowStore
