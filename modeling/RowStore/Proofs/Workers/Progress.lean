import RowStore.Proofs.Workers.Ledger

namespace RowStore

namespace Workers

theorem ofTicket_of_parse {ticket : Ticket} {statement : Statement}
    (hparse : Statement.parse ticket.text = some statement) :
    Phase.ofTicket ticket = .parsed ⟨ticket, statement, hparse⟩ := by
  unfold Phase.ofTicket
  split
  next hnone => cases hnone.symm.trans hparse
  next other hother =>
    cases hother.symm.trans hparse
    rfl

theorem ofTicket_of_unparsed {ticket : Ticket} (hparse : Statement.parse ticket.text = none) :
    Phase.ofTicket ticket = .rejected ticket hparse := by
  unfold Phase.ofTicket
  split
  next => rfl
  next other hother => cases hother.symm.trans hparse

section Works

variable {execution : Execution} {index : Nat} {phase next : Phase} {shared after : Shared}

theorem work?_of_works (hworks : Works execution index phase shared next after) :
    shared.work? execution index phase = some (next, after) := by
  cases hworks with
  | take hqueue => simp only [Shared.work?, hqueue]
  | interrupt hfault => simp only [Shared.work?, hfault]
  | reject hreturned hparse => simp only [Shared.work?, hreturned, ofTicket_of_unparsed hparse]
  | parse task hreturned => simp only [Shared.work?, hreturned, ofTicket_of_parse task.parsed]
  | lock task hfree => simp only [Shared.work?, hfree]
  | survey hchanges => simp only [Shared.work?, hchanges, if_true]
  | pass hchanges => simp [Shared.work?, hchanges]
  | _ => rfl

theorem exists_works (execution : Execution) (index : Nat)
    (hbusy : phase ≠ .idle ∨ shared.queue ≠ [])
    (hlock : phase.inside = true ∨ shared.holder = none) :
    ∃ next after, Works execution index phase shared next after := by
  cases phase with
  | idle =>
      cases hqueue : shared.queue with
      | nil => simp [hqueue] at hbusy
      | cons ticket queue => exact ⟨_, _, .take hqueue⟩
  | taken ticket =>
      cases hfault : execution.fault? ticket.toSubmission with
      | some fault => exact ⟨_, _, .interrupt hfault⟩
      | none => exact ⟨_, _, works_ofTicket index shared ticket hfault⟩
  | rejected ticket hparse => exact ⟨_, _, .measureRejection hparse⟩
  | parsed task => exact ⟨_, _, .lock task (hlock.resolve_left Bool.false_ne_true)⟩
  | admitted task => exact ⟨_, _, .compute task⟩
  | computed task reply next => exact ⟨_, _, .change task reply next⟩
  | changed task reply =>
      cases hchanges : task.changes reply with
      | true => exact ⟨_, _, .survey hchanges⟩
      | false => exact ⟨_, _, .pass hchanges⟩
  | surveyed task reply seen => exact ⟨_, _, .refresh task reply seen⟩
  | refreshed task reply => exact ⟨_, _, .release task reply⟩
  | released task reply => exact ⟨_, _, .measure task reply⟩
  | measured ticket outcome => exact ⟨_, _, .count ticket outcome⟩
  | counted ticket outcome => exact ⟨_, _, .settle ticket outcome⟩

end Works

/-- How many steps a worker makes at most before it is idle again. -/
def Phase.todo : Phase → Nat
  | .idle => 0
  | .taken _ => 10
  | .rejected .. => 3
  | .parsed _ => 9
  | .admitted _ => 8
  | .computed .. => 7
  | .changed .. => 6
  | .surveyed .. => 5
  | .refreshed .. => 4
  | .released .. => 3
  | .measured .. => 2
  | .counted .. => 1

def Holder.todo : Option Holder → Nat
  | some (.reader view) => view.pending.length + 1
  | _ => 0

def todo : Ledger where
  shared := fun shared => 11 * shared.queue.length + Holder.todo shared.holder
  phase := fun phase => phase.todo

theorem Works.todo_lt {execution : Execution} {index : Nat} {phase next : Phase}
    {shared after : Shared} (hworks : Works execution index phase shared next after) :
    todo.shared after + todo.phase next < todo.shared shared + todo.phase phase := by
  cases hworks with
  | take hqueue =>
      simp only [todo, Phase.todo, hqueue, List.length_cons]
      omega
  | lock task hfree =>
      simp only [todo, Phase.todo, hfree, Holder.todo]
      omega
  | release task reply =>
      simp only [todo, Phase.todo, Holder.todo]
      omega
  | _ =>
      simp only [todo, Phase.todo, Shared.measure, Shared.count]
      omega

theorem todo_nonneg (workers : Workers) : 0 ≤ todo.total workers := by
  have hheld : 0 ≤ todo.held workers.phases := by
    induction workers.phases with
    | nil => exact Int.le_refl 0
    | cons phase phases ih =>
        have hphase : 0 ≤ todo.phase phase := Int.natCast_nonneg _
        rw [Ledger.held]
        omega
  have hshared : 0 ≤ todo.shared workers.shared := by
    simp only [todo]
    omega
  rw [Ledger.total]
  omega

theorem exists_read {shared : Shared} {view : View}
    (hholder : shared.holder = some (.reader view)) :
    ∃ glance after, shared.read? glance = some after ∧
      todo.shared after < todo.shared shared := by
  obtain ⟨inquiry, pending, seen⟩ := view
  cases pending with
  | nil =>
      refine ⟨.leave, _, by simp only [Shared.read?, hholder]; rfl, ?_⟩
      simp only [todo, hholder, Holder.todo]
      omega
  | cons name pending =>
      refine ⟨.look, _, by simp only [Shared.read?, hholder]; rfl, ?_⟩
      simp only [todo, hholder, Holder.todo, List.length_cons]
      omega

theorem exists_move_of_works {workers : Workers} {index : Nat} {phase : Phase}
    (hphase : workers.phases[index]? = some phase)
    (hbusy : phase ≠ .idle ∨ workers.shared.queue ≠ [])
    (hlock : phase.inside = true ∨ workers.shared.holder = none) :
    ∃ move after, workers.move? move = some after ∧ todo.total after < todo.total workers := by
  obtain ⟨next, shared, hworks⟩ := exists_works workers.execution index hbusy hlock
  refine ⟨.work index, { workers with shared := shared, phases := workers.phases.set index next },
    ?_, ?_⟩
  · simp only [move?, hphase, Option.bind_some, work?_of_works hworks, Option.map_some]
  · have hheld := todo.held_set next hphase
    have hless := hworks.todo_lt
    simp only [Ledger.total]
    omega

theorem Exclusive.exists_move {workers : Workers} (hexclusive : workers.Exclusive)
    (hworkers : workers.phases ≠ []) (hdone : ¬ workers.Done) :
    ∃ move after, workers.move? move = some after ∧ todo.total after < todo.total workers := by
  cases hholder : workers.shared.holder with
  | none =>
      by_cases hidle : ∀ phase ∈ workers.phases, phase = .idle
      · have hqueue : workers.shared.queue ≠ [] := fun hqueue => hdone ⟨hqueue, hidle⟩
        obtain ⟨phase, hphase⟩ := List.getElem?_of_mem (List.head_mem hworkers)
        exact exists_move_of_works hphase (.inr hqueue) (.inr hholder)
      · obtain ⟨phase, hphase⟩ := Classical.not_forall.mp hidle
        obtain ⟨hmem, hbusy⟩ := Classical.not_imp.mp hphase
        obtain ⟨index, hphase⟩ := List.getElem?_of_mem hmem
        exact exists_move_of_works hphase (.inl hbusy) (.inr hholder)
  | some holder =>
      cases holder with
      | worker index =>
          obtain ⟨phase, hphase, hinside⟩ :=
            Option.map_eq_some_iff.mp ((hexclusive index).mp hholder)
          refine exists_move_of_works hphase (.inl fun hidle => ?_) (.inl hinside)
          rw [hidle] at hinside
          contradiction
      | reader view =>
          obtain ⟨glance, shared, hread, hless⟩ := exists_read hholder
          refine ⟨.read glance, { workers with shared := shared }, ?_, ?_⟩
          · simp only [move?, hread, Option.map_some]
          · simp only [Ledger.total]
            omega

theorem Moves.phases_ne_nil {workers after : Workers} (hmoves : Moves workers after)
    (hworkers : workers.phases ≠ []) : after.phases ≠ [] := by
  cases hmoves with
  | read hreads => exact hworkers
  | work hphase hworks => simpa using hworkers

theorem Exclusive.exists_done {workers : Workers} (hexclusive : workers.Exclusive)
    (hworkers : workers.phases ≠ []) :
    ∃ moves after, workers.run? moves = some after ∧ after.Done := by
  by_cases hdone : workers.Done
  · exact ⟨[], workers, rfl, hdone⟩
  · obtain ⟨move, next, hmove, hless⟩ := hexclusive.exists_move hworkers hdone
    have hmoves := moves_of_move? hmove
    obtain ⟨moves, after, hrun, hafter⟩ :=
      (hexclusive.move hmoves).exists_done (hmoves.phases_ne_nil hworkers)
    refine ⟨move :: moves, after, ?_, hafter⟩
    rw [run?, hmove, Option.bind_some, hrun]
termination_by (todo.total workers).toNat
decreasing_by
  have hnonneg := todo_nonneg next
  omega

theorem run?_append {workers next : Workers} {first : List Move} (second : List Move)
    (hfirst : workers.run? first = some next) :
    workers.run? (first ++ second) = next.run? second := by
  induction first generalizing workers with
  | nil =>
      cases hfirst
      rfl
  | cons move first ih =>
      obtain ⟨reached, hmove, hrest⟩ := Option.bind_eq_some_iff.mp hfirst
      rw [List.cons_append, run?, hmove, Option.bind_some, ih hrest]

/-- No interleaving keeps a database with a worker from settling all that was submitted. -/
theorem run_exists_done {store : Store} {database : Database}
    {hserialized : database.execution.serialized = true} {submissions : List Submission}
    {moves : List Move} {workers : Workers} (hworkers : 1 ≤ database.execution.workers)
    (hrun : (start store database hserialized submissions).run? moves = some workers) :
    ∃ more after, (start store database hserialized submissions).run? (moves ++ more) = some after ∧
      after.Done := by
  have hreached := run_induction (fun reached => reached.Exclusive ∧ reached.phases ≠ [])
    (fun hmoves hreached => ⟨hreached.1.move hmoves, hmoves.phases_ne_nil hreached.2⟩) hrun
  have hworker : (start store database hserialized submissions).phases ≠ [] := by
    simp only [start, ne_eq, List.replicate_eq_nil_iff]
    omega
  obtain ⟨hexclusive, hphases⟩ :=
    hreached ⟨exclusive_start store database hserialized submissions, hworker⟩
  obtain ⟨more, after, hmore, hdone⟩ := hexclusive.exists_done hphases
  exact ⟨more, after, (run?_append more hrun).trans hmore, hdone⟩

end Workers

end RowStore
