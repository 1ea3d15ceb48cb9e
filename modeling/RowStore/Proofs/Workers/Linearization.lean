import RowStore.Proofs.Catalog.History
import RowStore.Proofs.Workers.Ledger
import RowStore.Proofs.Workers.Views

namespace RowStore

def Ticket.inserted? (name : String) (ticket : Ticket) : Option Row :=
  (Statement.parse ticket.text).bind (Statement.inserted? name)

namespace Workers

/-- What holds of workers that have settled all that was submitted. -/
structure Completed (store : Store) (database : Database) (submissions : List Submission)
    (workers : Workers) : Prop where
  catalog : workers.shared.store.catalog =
    (store.catalog.run (workers.shared.admitted.map Task.statement)).2
  settled : (workers.shared.settled.map Prod.fst).Perm (numbered 0 submissions)
  executed : (workers.shared.admitted.map Task.ticket).Perm
    ((numbered 0 submissions).filter database.execution.executes)
  total : workers.shared.total =
    database.total + (database.execution.awaited submissions).length
  failed : workers.shared.failed =
    database.failed + workers.shared.settled.countP fun entry =>
      database.execution.fault? entry.1.toSubmission = none ∧ entry.2.status = .error
  counted : ∀ kind status, workers.shared.store.metrics.counted kind status =
    store.metrics.counted kind status +
      workers.shared.settled.countP fun entry =>
        database.execution.fault? entry.1.toSubmission = none ∧
          (kind, status) = (entry.1.kind?, entry.2.status)
  observed : ∀ kind, workers.shared.store.metrics.observed kind =
    store.metrics.observed kind +
      workers.shared.settled.countP fun entry =>
        database.execution.fault? entry.1.toSubmission = none ∧ kind = entry.1.kind?
  gauges : store.Exact → workers.shared.store.Exact
  refreshed :
    (∃ task reply, (task, reply) ∈ store.catalog.replies workers.shared.admitted ∧
      task.changes reply = true) →
    workers.shared.store.metrics.Tracks workers.shared.store.catalog
  others : ∀ name, workers.shared.store.catalog.table? name = none →
    workers.shared.store.metrics.rows.get? name = store.metrics.rows.get? name
  inserts :
    let texts := database.execution.awaited submissions
    (∀ text ∈ texts, ∃ name columns values,
      Statement.parse text = some (.insert name columns values)) →
    workers.shared.store.catalog.names = store.catalog.names ∧
      ∀ name table, store.catalog.table? name = some table →
        ∃ added, added.Perm
            (texts.filterMap fun text => (Statement.parse text).bind (Statement.inserted? name)) ∧
          workers.shared.store.catalog.table? name =
            some { table with rows := table.rows ++ added }

section Completed

variable {store : Store} {database : Database}
  {hserialized : database.execution.serialized = true} {submissions : List Submission}
  {moves : List Move} {workers : Workers}

theorem Exclusive.free (hexclusive : workers.Exclusive) (hdone : workers.Done) (index : Nat) :
    workers.shared.holder ≠ some (.worker index) := by
  intro hholder
  obtain ⟨phase, hphase, hinside⟩ := Option.map_eq_some_iff.mp ((hexclusive index).mp hholder)
  rw [hdone.2 phase (List.mem_of_getElem? hphase)] at hinside
  contradiction

theorem awaited_eq_numbered (execution : Execution) (submissions : List Submission) :
    execution.awaited submissions =
      ((numbered 0 submissions).filter fun ticket =>
        (execution.fault? ticket.toSubmission).isNone).map fun ticket => ticket.text := by
  rw [Execution.awaited, ← map_toSubmission_numbered 0 submissions, List.filter_map, List.map_map,
    map_toSubmission_numbered]
  rfl

theorem perm_inserted {tasks : List Task} (name : String)
    (hperm : (tasks.map Task.ticket).Perm
      ((numbered 0 submissions).filter database.execution.executes)) :
    ((tasks.map Task.statement).filterMap (Statement.inserted? name)).Perm
      ((database.execution.awaited submissions).filterMap fun text =>
        (Statement.parse text).bind (Statement.inserted? name)) := by
  have htask : Statement.inserted? name ∘ Task.statement =
      Ticket.inserted? name ∘ Task.ticket := by
    funext task
    simp [Ticket.inserted?, task.parsed]
  have hticket : (fun ticket : Ticket =>
      if database.execution.executes ticket then ticket.inserted? name else none) =
        fun ticket => if (database.execution.fault? ticket.toSubmission).isNone
          then ticket.inserted? name else none := by
    funext ticket
    cases hparse : Statement.parse ticket.text <;>
      simp [Execution.executes, Ticket.inserted?, Ticket.kind?, hparse]
  have hinserted := hperm.filterMap (Ticket.inserted? name)
  rw [List.filterMap_map, List.filterMap_filter, hticket, ← List.filterMap_filter] at hinserted
  rw [List.filterMap_map, htask, awaited_eq_numbered, List.filterMap_map]
  exact hinserted

theorem kind_admitted (hdone : workers.Done)
    (hrun : (start store database hserialized submissions).run? moves = some workers)
    (hinserts : ∀ text ∈ database.execution.awaited submissions, ∃ name columns values,
      Statement.parse text = some (.insert name columns values)) :
    ∀ statement ∈ workers.shared.admitted.map Task.statement, statement.kind = .insert := by
  intro statement hstatement
  obtain ⟨task, htask, rfl⟩ := List.mem_map.mp hstatement
  have hticket := (hdone.admitted_perm hrun).mem_iff.mp (List.mem_map_of_mem htask)
  obtain ⟨hmem, hexecutes⟩ := List.mem_filter.mp hticket
  have hreturned := (Bool.and_eq_true_iff.mp hexecutes).1
  have htext : task.ticket.text ∈ database.execution.awaited submissions := by
    rw [awaited_eq_numbered]
    exact List.mem_map_of_mem (List.mem_filter.mpr ⟨hmem, hreturned⟩)
  obtain ⟨name, columns, values, hparse⟩ := hinserts _ htext
  rw [Option.some.inj (task.parsed.symm.trans hparse)]
  rfl

theorem total_completed (hdone : workers.Done)
    (hrun : (start store database hserialized submissions).run? moves = some workers) :
    workers.shared.total =
      database.total + (database.execution.awaited submissions).length := by
  have hcount := (hdone.settled_perm hrun).countP_eq fun ticket =>
    (database.execution.fault? ticket.toSubmission).isNone
  rw [List.countP_map] at hcount
  rw [hdone.counted hrun (Ledger.balanced_total _), awaited_eq_numbered, List.length_map,
    ← List.countP_eq_length_filter, ← hcount]
  refine congrArg _ (List.countP_congr fun entry _ => ?_)
  rw [decide_eq_true_iff]
  exact Option.isNone_iff_eq_none.symm

theorem Done.completed (hdone : workers.Done)
    (hrun : (start store database hserialized submissions).run? moves = some workers) :
    Completed store database submissions workers := by
  have hsound := (sound_start store database hserialized submissions).run hrun
  have hguarded := hsound.between (hsound.exclusive.free hdone)
  obtain ⟨hcatalog, htables, hrows⟩ := Store.guarded_eq_iff.mp hguarded
  have hexecuted := hdone.admitted_perm hrun
  have hsequence := Store.catalog_after store workers.shared.admitted
  exact
    { catalog := hcatalog.trans hsequence
      settled := hdone.settled_perm hrun
      executed := hexecuted
      total := total_completed hdone hrun
      failed := hdone.counted hrun (Ledger.balanced_failed _)
      counted := fun kind status => hdone.measured hrun (Ledger.balanced_counted _ kind status)
      observed := fun kind => hdone.measured hrun (Ledger.balanced_observed _ kind)
      gauges := fun hexact => (exact_after hexact workers.shared.admitted).of_guarded hguarded
      refreshed := fun hchanged => by
        have hafter := Store.tracks_after (.inr hchanged)
        exact ⟨htables.trans (hcatalog ▸ hafter.tables), fun name table htable =>
          hrows ▸ hafter.rows name table (hcatalog ▸ htable)⟩
      others := fun name hnone => by
        rw [hcatalog] at hnone
        rw [hrows]
        exact (Store.get?_rows_after hnone).2
      inserts := fun hinserts => by
        have hkind := kind_admitted hdone hrun hinserts
        rw [hcatalog, hsequence]
        refine ⟨Catalog.names_run_of_inserts hkind, fun name table htable => ?_⟩
        exact ⟨_, perm_inserted name hexecuted, Catalog.table?_run_of_inserts hkind htable⟩ }

end Completed

/-- Whatever the interleaving: while no worker holds the lock, the tables are what the tasks make of
them one after another; every settled outcome is one of that sequence, and every reading shows one
of its states. In the end each text whose wait returned has been carried out and counted once. -/
theorem linearizable (store : Store) (database : Database) (submissions : List Submission)
    (moves : List Move) (workers : Workers)
    (hserialized : database.execution.serialized = true)
    (hrun : (start store database hserialized submissions).run? moves = some workers) :
    ((∀ index, workers.shared.holder ≠ some (.worker index)) →
      workers.shared.store.catalog =
        (store.catalog.run (workers.shared.admitted.map Task.statement)).2) ∧
    (∀ ticket outcome, (ticket, outcome) ∈ workers.shared.settled →
      Justified database.execution store.catalog workers.shared.admitted ticket outcome) ∧
    (∀ count reading, (count, reading) ∈ workers.shared.readings →
      count ≤ workers.shared.admitted.length ∧
        Reading.Shows
          (store.catalog.run ((workers.shared.admitted.take count).map Task.statement)).2
          reading) ∧
    (workers.Done → Completed store database submissions workers) := by
  have hsound := (sound_start store database hserialized submissions).run hrun
  refine ⟨?_, ?_, ?_, fun hdone => hdone.completed hrun⟩
  · intro hfree
    rw [← Store.catalog_after]
    exact Store.catalog_of_guarded (hsound.between hfree)
  · rw [← show workers.execution = database.execution from execution_run hrun]
    exact hsound.settled
  · intro count reading hmem
    rw [← Store.catalog_after]
    exact hsound.readings count reading hmem

/-- An insertion that gets the lock before the creation that was submitted first, and readings in
the midst of it. -/
theorem linearizable_out_of_order :
    let database : Database := { execution := { workers := 3, serialized := true } }
    let submissions : List Submission :=
      ["create table t (a b)", "insert into t (a) values (1)", "nonsense", "select a from t"]
    let moves : List Move :=
      [.work 0, .work 1, .work 1, .work 1, .work 0, .work 2, .work 1, .work 2, .work 1, .work 1,
        .work 1, .work 2, .read (.enter .stats), .work 2, .read .leave, .work 0, .work 0, .work 1,
        .work 1, .work 0, .work 0, .work 2, .work 0, .work 0, .work 1, .read (.enter .snapshot),
        .work 1, .work 0, .read .look, .work 0, .work 0, .read .leave, .work 1, .work 1, .work 1,
        .work 1, .work 1, .work 1, .work 1, .work 1, .work 1]
    Database.create database.execution = .ok database ∧
      ∃ workers, (start {} database rfl submissions).run? moves = some workers ∧ workers.Done ∧
        workers.shared.admitted.map (fun task => task.ticket.number) = [1, 0, 3] ∧
        workers.shared.store.Exact ∧ Completed {} database submissions workers := by
  intro database submissions moves
  have hrun : ((start {} database rfl submissions).run? moves).any fun workers => workers.Done ∧
      workers.shared.admitted.map (fun task => task.ticket.number) = [1, 0, 3] := by
    decide +kernel
  obtain ⟨workers, hworkers, hdone⟩ := (Option.any_eq_true ..).mp hrun
  obtain ⟨hdone, hadmitted⟩ := of_decide_eq_true hdone
  obtain ⟨-, -, -, hcompleted⟩ := linearizable {} database submissions moves workers rfl hworkers
  have hcompleted := hcompleted hdone
  have hgauges := hcompleted.gauges (Store.exact_new none)
  exact ⟨by decide, workers, hworkers, hdone, hadmitted, hgauges, hcompleted⟩

/-- A statement whose wait is interrupted is settled although it was neither carried out nor
counted. -/
theorem interrupted_wait_not_executed :
    let execution : Execution :=
      { delay := Binary64.ofDecimal false 1 10, workers := 4, serialized := true }
    let database : Database := { execution := execution }
    let fault : Fault := ⟨"OverflowError", "timestamp too large to convert to C _PyTime_t"⟩
    let submissions : List Submission := [{ text := "create table t (a b)", fault := some fault }]
    Database.create execution = .ok database ∧
      ∃ workers,
        (start {} database rfl submissions).run? [.work 0, .work 0, .work 0] = some workers ∧
        workers.Done ∧ workers.shared.settled.map Prod.snd = [.error (.interrupted fault)] ∧
        workers.shared.admitted.map Task.statement = [] ∧ workers.shared.total = 0 ∧
        workers.shared.store.catalog = Catalog.empty := by
  intro execution database fault submissions
  let workers : Workers :=
    { execution := execution
      serialized := rfl
      shared := { settled := submissions.map fun submission =>
        (⟨submission, 0⟩, .error (.interrupted fault)) }
      phases := List.replicate 4 .idle }
  exact ⟨rfl, workers, rfl, ⟨rfl, fun _ => List.eq_of_mem_replicate⟩, rfl, rfl, rfl, rfl⟩

end Workers

end RowStore
