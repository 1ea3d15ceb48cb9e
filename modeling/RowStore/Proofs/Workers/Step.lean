import RowStore.Database.Workers

namespace RowStore.Workers

theorem map_toSubmission_numbered (first : Nat) (submissions : List Submission) :
    (numbered first submissions).map Ticket.toSubmission = submissions := by
  induction submissions generalizing first with
  | nil => rfl
  | cons submission submissions ih => rw [numbered, List.map_cons, ih]

/-- The steps of the worker of an index: from a phase to the next, and what becomes of what is
shared. -/
inductive Works (execution : Execution) (index : Nat) : Phase → Shared → Phase → Shared → Prop
  | take {shared : Shared} {ticket : Ticket} {queue : List Ticket}
      (hqueue : shared.queue = ticket :: queue) :
      Works execution index .idle shared (.taken ticket) { shared with queue := queue }
  | interrupt {shared : Shared} {ticket : Ticket} {fault : Fault}
      (hfault : execution.fault? ticket.toSubmission = some fault) :
      Works execution index (.taken ticket) shared
        (.counted ticket (.error (.interrupted fault))) shared
  | reject {shared : Shared} {ticket : Ticket}
      (hreturned : execution.fault? ticket.toSubmission = none)
      (hparse : Statement.parse ticket.text = none) :
      Works execution index (.taken ticket) shared (.rejected ticket hparse) shared
  | parse {shared : Shared} (task : Task)
      (hreturned : execution.fault? task.ticket.toSubmission = none) :
      Works execution index (.taken task.ticket) shared (.parsed task) shared
  | measureRejection {shared : Shared} {ticket : Ticket}
      (hparse : Statement.parse ticket.text = none) :
      Works execution index (.rejected ticket hparse) shared
        (.measured ticket (.error (.malformed ticket.text)))
        (shared.measure none (.error (.malformed ticket.text)))
  | lock {shared : Shared} (task : Task) (hfree : shared.holder = none) :
      Works execution index (.parsed task) shared (.admitted task)
        { shared with
          holder := some (.worker index)
          admitted := shared.admitted ++ [task] }
  | compute {shared : Shared} (task : Task) :
      Works execution index (.admitted task) shared
        (.computed task (shared.store.catalog.step task.statement).1
          (shared.store.catalog.step task.statement).2) shared
  | change {shared : Shared} (task : Task) (reply : Except Failure Reply) (next : Catalog) :
      Works execution index (.computed task reply next) shared (.changed task reply)
        { shared with store := { shared.store with catalog := next } }
  | survey {shared : Shared} {task : Task} {reply : Except Failure Reply}
      (hchanges : task.changes reply = true) :
      Works execution index (.changed task reply) shared
        (.surveyed task reply shared.store.catalog) shared
  | pass {shared : Shared} {task : Task} {reply : Except Failure Reply}
      (hchanges : task.changes reply = false) :
      Works execution index (.changed task reply) shared (.refreshed task reply) shared
  | refresh {shared : Shared} (task : Task) (reply : Except Failure Reply) (seen : Catalog) :
      Works execution index (.surveyed task reply seen) shared (.refreshed task reply)
        { shared with
          store := { shared.store with metrics := shared.store.metrics.refresh seen } }
  | release {shared : Shared} (task : Task) (reply : Except Failure Reply) :
      Works execution index (.refreshed task reply) shared (.released task reply)
        { shared with holder := none }
  | measure {shared : Shared} (task : Task) (reply : Except Failure Reply) :
      Works execution index (.released task reply) shared
        (.measured task.ticket (task.outcome reply))
        (shared.measure (some task.statement.kind) (task.outcome reply))
  | count {shared : Shared} (ticket : Ticket) (outcome : Outcome) :
      Works execution index (.measured ticket outcome) shared (.counted ticket outcome)
        (shared.count outcome)
  | settle {shared : Shared} (ticket : Ticket) (outcome : Outcome) :
      Works execution index (.counted ticket outcome) shared .idle
        { shared with settled := shared.settled ++ [(ticket, outcome)] }

theorem works_ofTicket {execution : Execution} (index : Nat) (shared : Shared) (ticket : Ticket)
    (hreturned : execution.fault? ticket.toSubmission = none) :
    Works execution index (.taken ticket) shared (.ofTicket ticket) shared := by
  unfold Phase.ofTicket
  split
  next hparse => exact .reject hreturned hparse
  next statement hparse => exact .parse ⟨ticket, statement, hparse⟩ hreturned

theorem works_of_work? {execution : Execution} {index : Nat} {phase next : Phase}
    {shared after : Shared} (hwork : shared.work? execution index phase = some (next, after)) :
    Works execution index phase shared next after := by
  cases phase with
  | idle =>
      simp only [Shared.work?] at hwork
      split at hwork
      next => contradiction
      next ticket queue hqueue => cases hwork; exact .take hqueue
  | taken ticket =>
      simp only [Shared.work?] at hwork
      split at hwork
      next fault hfault => cases hwork; exact .interrupt hfault
      next hreturned => cases hwork; exact works_ofTicket index shared ticket hreturned
  | rejected ticket hparse => cases hwork; exact .measureRejection hparse
  | parsed task =>
      simp only [Shared.work?] at hwork
      split at hwork
      next => contradiction
      next hfree => cases hwork; exact .lock task hfree
  | admitted task => cases hwork; exact .compute task
  | computed task reply next => cases hwork; exact .change task reply next
  | changed task reply =>
      simp only [Shared.work?] at hwork
      split at hwork
      next hchanges => cases hwork; exact .survey hchanges
      next hchanges => cases hwork; exact .pass (Bool.eq_false_iff.mpr hchanges)
  | surveyed task reply seen => cases hwork; exact .refresh task reply seen
  | refreshed task reply => cases hwork; exact .release task reply
  | released task reply => cases hwork; exact .measure task reply
  | measured ticket outcome => cases hwork; exact .count ticket outcome
  | counted ticket outcome => cases hwork; exact .settle ticket outcome

inductive Reads : Shared → Shared → Prop
  | enter {shared : Shared} (inquiry : Inquiry) (hfree : shared.holder = none) :
      Reads shared
        { shared with holder := some (.reader ⟨inquiry, shared.store.catalog.names, []⟩) }
  | look {shared : Shared} {inquiry : Inquiry} {name : String} {pending : List String}
      {seen : List (String × Table)}
      (hholder : shared.holder = some (.reader ⟨inquiry, name :: pending, seen⟩)) :
      Reads shared
        { shared with
          holder :=
            some (.reader ⟨inquiry, pending,
              seen ++ ((shared.store.catalog.table? name).map (Prod.mk name)).toList⟩) }
  | leave {shared : Shared} {inquiry : Inquiry} {seen : List (String × Table)}
      (hholder : shared.holder = some (.reader ⟨inquiry, [], seen⟩)) :
      Reads shared
        { shared with
          holder := none
          readings := shared.readings ++ [(shared.admitted.length, inquiry.reading seen)] }

theorem reads_of_read? {glance : Glance} {shared after : Shared}
    (hread : shared.read? glance = some after) : Reads shared after := by
  cases glance with
  | enter inquiry =>
      simp only [Shared.read?] at hread
      split at hread
      next => contradiction
      next hfree => cases hread; exact .enter inquiry hfree
  | look =>
      simp only [Shared.read?] at hread
      split at hread
      next inquiry name pending seen hholder => cases hread; exact .look hholder
      next => contradiction
  | leave =>
      simp only [Shared.read?] at hread
      split at hread
      next inquiry seen hholder => cases hread; exact .leave hholder
      next => contradiction

inductive Moves : Workers → Workers → Prop
  | work {workers : Workers} {index : Nat} {phase next : Phase} {shared : Shared}
      (hphase : workers.phases[index]? = some phase)
      (hworks : Works workers.execution index phase workers.shared next shared) :
      Moves workers
        { workers with shared := shared, phases := workers.phases.set index next }
  | read {workers : Workers} {shared : Shared} (hreads : Reads workers.shared shared) :
      Moves workers { workers with shared := shared }

theorem moves_of_move? {workers after : Workers} {move : Move}
    (hmove : workers.move? move = some after) : Moves workers after := by
  cases move with
  | work index =>
      obtain ⟨phase, hphase, hnext⟩ := Option.bind_eq_some_iff.mp hmove
      obtain ⟨⟨next, shared⟩, hwork, rfl⟩ := Option.map_eq_some_iff.mp hnext
      exact .work hphase (works_of_work? hwork)
  | read glance =>
      obtain ⟨shared, hread, rfl⟩ := Option.map_eq_some_iff.mp hmove
      exact .read (reads_of_read? hread)

theorem run_induction (Holds : Workers → Prop) {workers after : Workers} {moves : List Move}
    (hmoves : ∀ {workers after : Workers}, Moves workers after → Holds workers → Holds after)
    (hrun : workers.run? moves = some after) (hholds : Holds workers) : Holds after := by
  induction moves generalizing workers with
  | nil =>
      cases hrun
      exact hholds
  | cons move moves ih =>
      obtain ⟨next, hmove, hrest⟩ := Option.bind_eq_some_iff.mp hrun
      exact ih hrest (hmoves (moves_of_move? hmove) hholds)

theorem Moves.execution_eq {workers after : Workers} (hmoves : Moves workers after) :
    after.execution = workers.execution := by
  cases hmoves <;> rfl

theorem execution_run {workers after : Workers} {moves : List Move}
    (hrun : workers.run? moves = some after) : after.execution = workers.execution :=
  run_induction (fun reached => reached.execution = workers.execution)
    (fun hmoves hformer => hmoves.execution_eq.trans hformer) hrun rfl

def Phase.inside : Phase → Bool
  | .admitted _ | .computed .. | .changed .. | .surveyed .. | .refreshed .. => true
  | .idle | .taken _ | .rejected .. | .parsed _ | .released .. | .measured .. | .counted .. =>
      false

/-- Whoever looks at a text, or has counted it, has waited for it. -/
def Phase.Waited (execution : Execution) : Phase → Prop
  | .idle | .taken _ | .counted .. => True
  | .rejected ticket _ | .measured ticket _ => execution.fault? ticket.toSubmission = none
  | .parsed task | .admitted task | .computed task .. | .changed task _ | .surveyed task ..
  | .refreshed task _ | .released task _ => execution.fault? task.ticket.toSubmission = none

section Works

variable {execution : Execution} {index : Nat} {phase next : Phase} {shared after : Shared}

theorem Works.waited (hworks : Works execution index phase shared next after)
    (hwaited : phase.Waited execution) : next.Waited execution := by
  cases hworks with
  | take | interrupt | count | settle => trivial
  | reject hreturned | parse _ hreturned => exact hreturned
  | _ => exact hwaited

theorem Works.holder (hworks : Works execution index phase shared next after) :
    after.holder =
      if phase.inside = next.inside then shared.holder
      else if next.inside then some (.worker index) else none := by
  cases hworks <;> rfl

theorem Works.free (hworks : Works execution index phase shared next after)
    (hphase : phase.inside = false) (hnext : next.inside = true) : shared.holder = none := by
  cases hworks with
  | lock task hfree => exact hfree
  | _ => simp_all [Phase.inside]

theorem Works.admitted_extends (hworks : Works execution index phase shared next after) :
    shared.admitted <+: after.admitted := by
  cases hworks with
  | lock task hfree => exact List.prefix_append ..
  | _ => exact List.prefix_refl _

end Works

theorem Reads.holder_ne {shared after : Shared} (hreads : Reads shared after) (index : Nat) :
    shared.holder ≠ some (.worker index) ∧ after.holder ≠ some (.worker index) := by
  cases hreads with
  | enter inquiry hfree => simp [hfree]
  | look hholder => simp [hholder]
  | leave hholder => simp [hholder]

def Exclusive (workers : Workers) : Prop :=
  ∀ index, workers.shared.holder = some (.worker index) ↔
    (workers.phases[index]?.map Phase.inside) = some true

theorem exclusive_start (store : Store) (database : Database)
    (hserialized : database.execution.serialized = true) (submissions : List Submission) :
    (start store database hserialized submissions).Exclusive := by
  intro index
  simp only [start, List.getElem?_replicate, reduceCtorEq, false_iff]
  split <;> simp [Phase.inside]

theorem Exclusive.inside {workers : Workers} (hexclusive : workers.Exclusive) {index : Nat}
    {phase : Phase} (hphase : workers.phases[index]? = some phase) :
    workers.shared.holder = some (.worker index) ↔ phase.inside = true := by
  rw [hexclusive, hphase, Option.map_some, Option.some.injEq]

theorem Exclusive.move {workers after : Workers} (hexclusive : workers.Exclusive)
    (hmoves : Moves workers after) : after.Exclusive := by
  intro other
  cases hmoves with
  | read hreads =>
      have hworker := hreads.holder_ne other
      exact iff_of_false hworker.2 (mt (hexclusive other).mpr hworker.1)
  | @work index phase next shared hphase hworks =>
      have hindex := (List.getElem?_eq_some_iff.mp hphase).1
      have hinside := hexclusive.inside hphase
      by_cases hother : other = index
      · subst hother
        simp only [List.getElem?_set_self hindex, Option.map_some, Option.some.injEq]
        rw [hworks.holder]
        split
        next hsame => rw [hinside, hsame]
        next => cases next.inside <;> simp
      · rw [List.getElem?_set_ne (Ne.symm hother), ← hexclusive other]
        simp only [hworks.holder]
        split
        next => rfl
        next hdiffer =>
          -- The worker that comes found the lock free; the one that goes held it itself.
          cases hnext : next.inside with
          | true =>
              have hphase : phase.inside = false := by simpa [hnext] using hdiffer
              simp [hworks.free hphase hnext, Ne.symm hother]
          | false =>
              have hphase : phase.inside = true := by simpa [hnext] using hdiffer
              simp [hinside.mpr hphase, Ne.symm hother]

def Waited (workers : Workers) : Prop :=
  ∀ phase ∈ workers.phases, phase.Waited workers.execution

theorem waited_start (store : Store) (database : Database)
    (hserialized : database.execution.serialized = true) (submissions : List Submission) :
    (start store database hserialized submissions).Waited := by
  intro phase hphase
  rw [List.eq_of_mem_replicate hphase]
  trivial

theorem Waited.move {workers after : Workers} (hwaited : workers.Waited)
    (hmoves : Moves workers after) : after.Waited := by
  cases hmoves with
  | read hreads => exact hwaited
  | @work index phase next shared hphase hworks =>
      intro other hother
      rcases List.mem_or_eq_of_mem_set hother with hold | rfl
      · exact hwaited other hold
      · exact hworks.waited (hwaited phase (List.mem_of_getElem? hphase))

end RowStore.Workers
