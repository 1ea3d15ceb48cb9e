import RowStore.Proofs.Workers.Sequence
import RowStore.Proofs.Workers.Step

namespace RowStore

/-- What only the holder of the lock touches: the tables and the gauges. -/
def Store.guarded (store : Store) : Catalog × Nat × OrderedMap String Nat :=
  (store.catalog, store.metrics.tables, store.metrics.rows)

theorem Store.guarded_eq_iff {first second : Store} :
    first.guarded = second.guarded ↔
      first.catalog = second.catalog ∧ first.metrics.tables = second.metrics.tables ∧
        first.metrics.rows = second.metrics.rows := by
  simp only [guarded, Prod.mk.injEq]

theorem Store.catalog_of_guarded {first second : Store} (h : first.guarded = second.guarded) :
    first.catalog = second.catalog := (guarded_eq_iff.mp h).1

theorem Store.guarded_change {first second : Store} (h : first.guarded = second.guarded)
    (statement : Statement) :
    (first.change statement).2.guarded = (second.change statement).2.guarded := by
  obtain ⟨hcatalog, htables, hrows⟩ := guarded_eq_iff.mp h
  simp only [guarded, change, hcatalog, htables, hrows]

theorem Store.guarded_refresh {first second : Store} (h : first.guarded = second.guarded)
    (statement : Statement) (reply : Except Failure Reply) :
    (first.refresh statement reply).guarded = (second.refresh statement reply).guarded := by
  obtain ⟨hcatalog, htables, hrows⟩ := guarded_eq_iff.mp h
  cases reply with
  | error failure => exact h
  | ok reply =>
      simp only [refresh]
      split
      next => exact h
      next => simp only [guarded, Metrics.refresh, hcatalog, hrows]

namespace Workers

/-- How an outcome is accounted for: its wait was interrupted, its text is no statement, or it is a
reply in the sequence of tasks. -/
inductive Justified (execution : Execution) (catalog : Catalog) (tasks : List Task) :
    Ticket → Outcome → Prop
  | interrupted {ticket : Ticket} {fault : Fault}
      (hfault : execution.fault? ticket.toSubmission = some fault) :
      Justified execution catalog tasks ticket (.error (.interrupted fault))
  | rejected {ticket : Ticket} (hreturned : execution.fault? ticket.toSubmission = none)
      (hparse : Statement.parse ticket.text = none) :
      Justified execution catalog tasks ticket (.error (.malformed ticket.text))
  | replied {task : Task} {reply : Except Failure Reply}
      (hreturned : execution.fault? task.ticket.toSubmission = none)
      (hreply : (task, reply) ∈ catalog.replies tasks) :
      Justified execution catalog tasks task.ticket (task.outcome reply)

theorem Justified.mono {execution : Execution} {catalog : Catalog} {first second : List Task}
    {ticket : Ticket} {outcome : Outcome}
    (hjustified : Justified execution catalog first ticket outcome)
    (hextends : first <+: second) : Justified execution catalog second ticket outcome := by
  cases hjustified with
  | interrupted hfault => exact .interrupted hfault
  | rejected hreturned hparse => exact .rejected hreturned hparse
  | replied hreturned hreply =>
      exact .replied hreturned (Catalog.mem_replies_of_extends hextends hreply)

theorem mem_replies_concat (origin : Store) (tasks : List Task) (task : Task) :
    (task, ((origin.after tasks).catalog.step task.statement).1) ∈
      origin.catalog.replies (tasks ++ [task]) := by
  rw [Catalog.replies_append, ← Store.catalog_after]
  exact List.mem_append_right _ List.mem_cons_self

/-- What a worker in a phase relies on. With the lock, it knows how far its task has brought the
store from where the earlier tasks had left it. -/
def Phase.Holds (execution : Execution) (origin : Store) (shared : Shared) : Phase → Prop
  | .idle | .taken _ | .rejected .. | .parsed _ => True
  | .admitted task =>
      ∃ earlier, shared.admitted = earlier ++ [task] ∧
        shared.store.guarded = (origin.after earlier).guarded
  | .computed task reply next =>
      ∃ earlier, shared.admitted = earlier ++ [task] ∧
        shared.store.guarded = (origin.after earlier).guarded ∧
        (origin.after earlier).catalog.step task.statement = (reply, next)
  | .changed task reply =>
      ∃ earlier, shared.admitted = earlier ++ [task] ∧
        shared.store.guarded = ((origin.after earlier).change task.statement).2.guarded ∧
        ((origin.after earlier).catalog.step task.statement).1 = reply
  | .surveyed task reply seen =>
      ∃ earlier, shared.admitted = earlier ++ [task] ∧
        shared.store.guarded = ((origin.after earlier).change task.statement).2.guarded ∧
        ((origin.after earlier).catalog.step task.statement).1 = reply ∧
        task.changes reply = true ∧ seen = shared.store.catalog
  | .refreshed task reply =>
      (task, reply) ∈ origin.catalog.replies shared.admitted ∧
        shared.store.guarded = (origin.after shared.admitted).guarded
  | .released task reply => (task, reply) ∈ origin.catalog.replies shared.admitted
  | .measured ticket outcome | .counted ticket outcome =>
      Justified execution origin.catalog shared.admitted ticket outcome

section Works

variable {execution : Execution} {index : Nat} {phase next : Phase} {origin : Store}
  {shared after : Shared}

theorem Phase.Holds.congr (hholds : phase.Holds execution origin shared)
    (hadmitted : after.admitted = shared.admitted)
    (hguarded : after.store.guarded = shared.store.guarded) :
    phase.Holds execution origin after := by
  have hcatalog := Store.catalog_of_guarded hguarded
  cases phase with
  | idle | taken | rejected | parsed => trivial
  | _ => simpa only [Holds, hadmitted, hguarded, hcatalog] using hholds

/-! Outside, a worker neither relies on what the lock guards nor touches it. -/

theorem Phase.Holds.mono (hholds : phase.Holds execution origin shared)
    (houtside : phase.inside = false)
    (hextends : shared.admitted <+: after.admitted) : phase.Holds execution origin after := by
  cases phase with
  | idle | taken | rejected | parsed => trivial
  | released task reply => exact Catalog.mem_replies_of_extends hextends hholds
  | measured ticket outcome | counted ticket outcome => exact Justified.mono hholds hextends
  | admitted | computed | changed | surveyed | refreshed => contradiction

theorem Works.frame (hworks : Works execution index phase shared next after)
    (hphase : phase.inside = false) (hnext : next.inside = false) :
    after.holder = shared.holder ∧ after.admitted = shared.admitted ∧
      after.store.guarded = shared.store.guarded := by
  cases hworks with
  | lock | compute | change | survey | pass | refresh | release => contradiction
  | _ => exact ⟨rfl, rfl, rfl⟩

variable (execution) in
theorem holds_refreshed {earlier : List Task} {task : Task} {reply : Except Failure Reply}
    (hadmitted : shared.admitted = earlier ++ [task])
    (hguarded : shared.store.guarded =
      ((origin.after earlier).change task.statement).2.guarded)
    (hreply : ((origin.after earlier).catalog.step task.statement).1 = reply) :
    (Phase.refreshed task reply).Holds execution origin
      { shared with store := shared.store.refresh task.statement reply } := by
  subst hreply
  refine ⟨hadmitted ▸ mem_replies_concat origin earlier task, ?_⟩
  simp only [hadmitted, Store.after_concat]
  exact Store.guarded_refresh hguarded ..

theorem Works.holds (hworks : Works execution index phase shared next after)
    (hwaited : phase.Waited execution) (hholds : phase.Holds execution origin shared)
    (hfree : shared.holder = none →
      shared.store.guarded = (origin.after shared.admitted).guarded) :
    next.Holds execution origin after := by
  cases hworks with
  | take | reject | parse | settle => trivial
  | interrupt hfault => exact .interrupted hfault
  | measureRejection hparse => exact .rejected hwaited hparse
  | lock task hholder => exact ⟨shared.admitted, rfl, hfree hholder⟩
  | compute task =>
      obtain ⟨earlier, hadmitted, hguarded⟩ := hholds
      rw [Store.catalog_of_guarded hguarded]
      exact ⟨earlier, hadmitted, hguarded, rfl⟩
  | change task reply next =>
      obtain ⟨earlier, hadmitted, hguarded, hstep⟩ := hholds
      have hchange := Store.guarded_change hguarded task.statement
      refine ⟨earlier, hadmitted, hchange ▸ ?_, congrArg Prod.fst hstep⟩
      simp only [Store.guarded, Store.change, Store.catalog_of_guarded hguarded, hstep]
  | survey hchanges =>
      obtain ⟨earlier, hadmitted, hguarded, hreply⟩ := hholds
      exact ⟨earlier, hadmitted, hguarded, hreply, hchanges, rfl⟩
  | pass hchanges =>
      obtain ⟨earlier, hadmitted, hguarded, hreply⟩ := hholds
      have hrefreshed := holds_refreshed execution hadmitted hguarded hreply
      rw [Store.refresh_eq, if_neg (Bool.eq_false_iff.mp hchanges)] at hrefreshed
      exact hrefreshed
  | refresh task reply seen =>
      obtain ⟨earlier, hadmitted, hguarded, hreply, hchanges, rfl⟩ := hholds
      have hrefreshed := holds_refreshed execution hadmitted hguarded hreply
      rw [Store.refresh_eq, if_pos hchanges] at hrefreshed
      exact hrefreshed
  | release task reply => exact hholds.1
  | measure task reply => exact .replied hwaited hholds
  | count ticket outcome => exact hholds

theorem Works.holds_released (hworks : Works execution index phase shared next after)
    (hholds : phase.Holds execution origin shared) (hphase : phase.inside = true)
    (hnext : next.inside = false) :
    after.store.guarded = (origin.after after.admitted).guarded := by
  cases hworks with
  | release task reply => exact hholds.2
  | _ => contradiction

theorem Works.settled (hworks : Works execution index phase shared next after)
    {ticket : Ticket} {outcome : Outcome} (hmem : (ticket, outcome) ∈ after.settled) :
    (ticket, outcome) ∈ shared.settled ∨ phase = .counted ticket outcome := by
  cases hworks with
  | settle other result =>
      rcases List.mem_append.mp hmem with hmem | hmem
      · exact .inl hmem
      · cases List.mem_singleton.mp hmem
        exact .inr rfl
  | _ => exact .inl hmem

theorem Works.readings (hworks : Works execution index phase shared next after) :
    after.readings = shared.readings := by
  cases hworks <;> rfl

end Works

end Workers

end RowStore
