import RowStore.Database.Crew

namespace RowStore.Crew

inductive Works (employer : Nat) (database : Database) : Stage → Shared → Stage → Shared → Prop
  | take {shared : Shared} {submission : Submission} {queue : List Submission}
      (hqueue : database.queue = submission :: queue) :
      Works employer database .idle shared (.taken submission)
        (shared.assign employer { database with queue := queue })
  | drop {shared : Shared} {submission : Submission} {fault : Fault}
      (hfault : database.execution.fault? submission = some fault) :
      Works employer database (.taken submission) shared .idle
        { shared with dropped := shared.dropped ++ [(employer, submission)] }
  | answer {shared : Shared} (submission : Submission)
      (hreturned : database.execution.fault? submission = none) :
      Works employer database (.taken submission) shared
        (.answered submission (shared.store.answer submission.text).1)
        { shared with store := (shared.store.answer submission.text).2 }
  | count {shared : Shared} (submission : Submission) (outcome : Outcome) :
      Works employer database (.answered submission outcome) shared (.counted submission outcome)
        (shared.measure fun metrics =>
          metrics.count (Statement.kind? submission.text) outcome.status)
  | observe {shared : Shared} (submission : Submission) (outcome : Outcome) :
      Works employer database (.counted submission outcome) shared (.observed submission outcome)
        (shared.measure fun metrics => metrics.observe (Statement.kind? submission.text))
  | post {shared : Shared} (submission : Submission) (outcome : Outcome) :
      Works employer database (.observed submission outcome) shared (.posted submission outcome)
        (shared.assign employer (database.count outcome.status))
  | settle {shared : Shared} (submission : Submission) (outcome : Outcome) :
      Works employer database (.posted submission outcome) shared .idle
        { shared with deeds := shared.deeds ++ [⟨employer, submission, outcome⟩] }

theorem works_iff {employer : Nat} {database : Database} {stage next : Stage}
    {shared after : Shared} :
    Works employer database stage shared next after ↔
      shared.work? employer database stage = some (next, after) := by
  constructor
  · intro hworks
    cases hworks with
    | take hqueue => simp only [Shared.work?, hqueue]
    | drop hfault => simp only [Shared.work?, hfault]
    | answer submission hreturned => simp only [Shared.work?, hreturned]
    | count | observe | post | settle => rfl
  · intro hwork
    cases stage with
    | idle =>
        simp only [Shared.work?] at hwork
        split at hwork
        next => contradiction
        next submission queue hqueue => cases hwork; exact .take hqueue
    | taken submission =>
        simp only [Shared.work?] at hwork
        split at hwork
        next fault hfault => cases hwork; exact .drop hfault
        next hreturned => cases hwork; exact .answer submission hreturned
    | answered submission outcome => cases hwork; exact .count submission outcome
    | counted submission outcome => cases hwork; exact .observe submission outcome
    | observed submission outcome => cases hwork; exact .post submission outcome
    | posted submission outcome => cases hwork; exact .settle submission outcome

inductive Adjusts : Shared → Shared → Prop
  | refuse {shared : Shared} : Adjusts shared shared
  | switch {shared : Shared} {index : Nat} {database : Database}
      (hmember : shared.databases[index]? = some database) (started : Bool) :
      Adjusts shared (shared.assign index { database with started := started })
  | submit {shared : Shared} {index : Nat} {database : Database}
      (hmember : shared.databases[index]? = some database) (submission : Submission) :
      Adjusts shared
        { shared.assign index { database with queue := database.queue ++ [submission] } with
          accepted := shared.accepted ++ [(index, submission)] }
  | disturb {shared : Shared} (catalog : Catalog) (tables : Nat) (rows : OrderedMap String Nat) :
      Adjusts shared { shared with store := shared.store.disturb catalog tables rows }

inductive Moves : Crew → Crew → Prop
  | work {crew : Crew} {index : Nat} {worker : Worker} {database : Database} {stage : Stage}
      {shared : Shared} (hworker : crew.workers[index]? = some worker)
      (hmember : crew.shared.databases[worker.employer]? = some database)
      (hworks : Works worker.employer database worker.stage crew.shared stage shared) :
      Moves crew
        { shared := shared
          workers := crew.workers.set index { worker with stage := stage } }
  | adjust {crew : Crew} {shared : Shared} (hadjusts : Adjusts crew.shared shared) :
      Moves crew { crew with shared := shared }

theorem moves_of_move? {crew after : Crew} {move : Move} (hmove : crew.move? move = some after) :
    Moves crew after := by
  cases move with
  | start index =>
      obtain ⟨database, hmember, rfl⟩ := Option.map_eq_some_iff.mp hmove
      split
      next => exact .adjust .refuse
      next => exact .adjust (.switch hmember true)
  | stop index =>
      obtain ⟨database, hmember, hstop⟩ := Option.bind_eq_some_iff.mp hmove
      split at hstop
      next =>
        split at hstop
        next => cases hstop; exact .adjust (.switch hmember false)
        next => contradiction
      next => cases hstop; exact .adjust .refuse
  | submit index submission =>
      obtain ⟨database, hmember, rfl⟩ := Option.map_eq_some_iff.mp hmove
      split
      next => exact .adjust (.submit hmember submission)
      next => exact .adjust .refuse
  | work index =>
      obtain ⟨worker, hworker, hdatabase⟩ := Option.bind_eq_some_iff.mp hmove
      obtain ⟨database, hmember, hnext⟩ := Option.bind_eq_some_iff.mp hdatabase
      obtain ⟨⟨stage, shared⟩, hwork, rfl⟩ := Option.map_eq_some_iff.mp hnext
      exact .work hworker hmember (works_iff.mpr hwork)
  | disturb catalog tables rows =>
      cases hmove
      exact .adjust (.disturb catalog tables rows)

theorem run_induction (Holds : Crew → Prop) {crew after : Crew} {moves : List Move}
    (hmoves : ∀ {crew after : Crew}, Moves crew after → Holds crew → Holds after)
    (hrun : crew.run? moves = some after) (hholds : Holds crew) : Holds after := by
  induction moves generalizing crew with
  | nil =>
      cases hrun
      exact hholds
  | cons move moves ih =>
      obtain ⟨next, hmove, hrest⟩ := Option.bind_eq_some_iff.mp hrun
      exact ih hrest (hmoves (moves_of_move? hmove) hholds)

theorem Stage.submission?_eq_none_iff {stage : Stage} :
    stage.submission? = none ↔ stage = .idle := by
  cases stage <;> simp [submission?]

def Resting (crew : Crew) : Prop := ∀ worker ∈ crew.workers, worker.stage = .idle

theorem mem_workers_gather {store : Store} {databases : List Database} {worker : Worker} :
    worker ∈ (gather store databases).workers ↔
      ∃ database, databases[worker.employer]? = some database ∧
        0 < database.execution.workers ∧ worker.stage = .idle := by
  obtain ⟨employer, stage⟩ := worker
  simp only [gather, List.mem_flatMap, Prod.exists, List.mem_zipIdx_iff_getElem?,
    List.mem_replicate, Worker.mk.injEq]
  constructor
  · rintro ⟨database, index, hmember, hpositive, rfl, hidle⟩
    exact ⟨database, hmember, by omega, hidle⟩
  · rintro ⟨database, hmember, hpositive, hidle⟩
    exact ⟨database, employer, hmember, by omega, rfl, hidle⟩

theorem resting_gather (store : Store) (databases : List Database) :
    (gather store databases).Resting := by
  intro worker hworker
  obtain ⟨-, -, -, hidle⟩ := mem_workers_gather.mp hworker
  exact hidle

end RowStore.Crew
