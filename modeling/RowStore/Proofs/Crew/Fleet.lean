import RowStore.Proofs.Crew.Step
import RowStore.Proofs.Database.Sharing

namespace RowStore.Crew

open Database

theorem run?_append (crew : Crew) (first second : List Move) :
    crew.run? (first ++ second) = (crew.run? first).bind fun next => next.run? second := by
  induction first generalizing crew with
  | nil => rfl
  | cons move first ih =>
      simp only [List.cons_append, run?, Option.bind_assoc]
      exact Option.bind_congr fun next _ => ih next

inductive Runs (employer : Nat) : Stage → Shared → Stage → Shared → Prop
  | refl {stage : Stage} {shared : Shared} : Runs employer stage shared stage shared
  | head {stage next last : Stage} {shared between after : Shared} {database : Database}
      (hmember : shared.databases[employer]? = some database)
      (hworks : Works employer database stage shared next between)
      (hruns : Runs employer next between last after) : Runs employer stage shared last after

section Runs

variable {employer : Nat}

theorem Runs.exists_run? {stage last : Stage} {shared after : Shared}
    (hruns : Runs employer stage shared last after) {workers : List Worker} {index : Nat}
    (hworker : workers[index]? = some ⟨employer, stage⟩) :
    ∃ moves, (Crew.mk shared workers).run? moves =
      some ⟨after, workers.set index ⟨employer, last⟩⟩ := by
  have hindex := (List.getElem?_eq_some_iff.mp hworker).1
  induction hruns generalizing workers with
  | refl =>
      obtain ⟨_, hget⟩ := List.getElem?_eq_some_iff.mp hworker
      exact ⟨[], by rw [run?, ← hget, List.set_getElem_self]⟩
  | @head stage next last shared between after database hmember hworks hruns ih =>
      obtain ⟨moves, hmoves⟩ := @ih (workers.set index ⟨employer, next⟩)
        (List.getElem?_set_self hindex) (by rwa [List.length_set])
      have hmove : (Crew.mk shared workers).move? (.work index) =
          some ⟨between, workers.set index ⟨employer, next⟩⟩ := by
        simp only [move?, hworker, hmember, works_iff.mp hworks, Option.bind_some, Option.map_some]
      refine ⟨.work index :: moves, ?_⟩
      rw [run?, hmove, Option.bind_some, hmoves, List.set_set]

variable {shared : Shared} {database : Database} {submission : Submission}
  {queue : List Submission}

theorem member_assign (hmember : shared.databases[employer]? = some database)
    (after : Database) : (shared.assign employer after).databases[employer]? = some after :=
  List.getElem?_set_self (List.getElem?_eq_some_iff.mp hmember).1

theorem runs_drop (hmember : shared.databases[employer]? = some database)
    (hqueue : database.queue = submission :: queue) {fault : Fault}
    (hfault : database.execution.fault? submission = some fault) :
    Runs employer .idle shared .idle
      { shared.assign employer { database with queue := queue } with
        dropped := shared.dropped ++ [(employer, submission)] } :=
  .head hmember (.take hqueue) (.head (member_assign hmember _) (.drop hfault) .refl)

theorem runs_carry (hmember : shared.databases[employer]? = some database)
    (hqueue : database.queue = submission :: queue)
    (hreturned : database.execution.fault? submission = none) :
    let answered := shared.store.answer submission.text
    let status := answered.1.status
    Runs employer .idle shared .idle
      { shared.assign employer ({ database with queue := queue }.count status) with
        store := answered.2.record (Statement.kind? submission.text) status
        deeds := shared.deeds ++ [⟨employer, submission, answered.1⟩] } := by
  intro answered status
  have hqueued := member_assign hmember { database with queue := queue }
  have hrun : Runs employer .idle shared .idle _ :=
    .head hmember (.take hqueue) (.head hqueued (.answer submission hreturned)
      (.head hqueued (.count ..) (.head hqueued (.observe ..) (.head hqueued (.post ..)
        (.head (member_assign hqueued _) (.settle ..) .refl)))))
  simp only [Shared.assign, Shared.measure, List.set_set] at hrun
  exact hrun

end Runs

theorem workers_pos_of_create {execution : Execution} {database : Database}
    (hcreate : Database.create execution = .ok database) : 0 < database.execution.workers := by
  unfold Database.create at hcreate
  split at hcreate
  next => contradiction
  next hfit =>
    cases hcreate
    unfold Execution.unfit? at hfit
    split at hfit
    next => contradiction
    next =>
      split at hfit
      next => contradiction
      next hworkers =>
        dsimp only
        omega

def Staffed (crew : Crew) : Prop :=
  ∀ index < crew.shared.databases.length, ∃ worker ∈ crew.workers, worker.employer = index

theorem staffed_gather {store : Store} {databases : List Database}
    (hcreated : Created databases) : (gather store databases).Staffed := by
  intro index hindex
  have hmember : databases[index]? = some databases[index] := List.getElem?_eq_getElem hindex
  obtain ⟨execution, hcreate⟩ := hcreated _ (List.getElem_mem hindex)
  exact ⟨⟨index, .idle⟩,
    mem_workers_gather.mpr ⟨_, hmember, workers_pos_of_create hcreate, rfl⟩, rfl⟩

theorem rests_of_resting {crew : Crew} (hresting : crew.Resting) (index : Nat) :
    crew.rests index = true := by
  rw [rests, List.all_eq_true]
  intro worker hworker
  simp [hresting worker hworker, Stage.submission?]

theorem Runs.exists_run?_of_resting {crew : Crew} {index : Nat} {after : Shared}
    (hruns : Runs index .idle crew.shared .idle after) (hresting : crew.Resting)
    (hstaffed : crew.Staffed) (hindex : index < crew.shared.databases.length) :
    ∃ moves, crew.run? moves = some { crew with shared := after } := by
  obtain ⟨worker, hworker, rfl⟩ := hstaffed index hindex
  obtain ⟨place, hplace, hget⟩ := List.getElem_of_mem hworker
  have hidle : crew.workers[place]? = some ⟨worker.employer, .idle⟩ := by
    rw [List.getElem?_eq_getElem hplace, hget, ← hresting worker hworker]
  obtain ⟨moves, hmoves⟩ := hruns.exists_run? hidle
  refine ⟨moves, hmoves.trans ?_⟩
  obtain ⟨_, hplaced⟩ := List.getElem?_eq_some_iff.mp hidle
  rw [← hplaced, List.set_getElem_self]

theorem exists_run?_of_advance {crew : Crew} {store : Store} {databases : List Database}
    {done : List Deed} (hresting : crew.Resting) (hstaffed : crew.Staffed)
    (hadvance : Fleet.Advance (crew.shared.store, crew.shared.databases) done (store, databases)) :
    ∃ moves accepted dropped, crew.run? moves = some
      { shared :=
          { store := store
            databases := databases
            accepted := accepted
            dropped := dropped
            deeds := crew.shared.deeds ++ done }
        workers := crew.workers } := by
  cases hadvance with
  | @member _ _ _ index database after _ hmember hadvance =>
      have hindex := (List.getElem?_eq_some_iff.mp hmember).1
      cases hadvance with
      | start hstopped =>
          refine ⟨[.start index], crew.shared.accepted, crew.shared.dropped, ?_⟩
          simp [run?, move?, hmember, hstopped, Shared.assign]
      | stop hstarted hidle =>
          refine ⟨[.stop index], crew.shared.accepted, crew.shared.dropped, ?_⟩
          simp [run?, move?, hmember, hstarted, hidle, rests_of_resting hresting, Shared.assign]
      | submit hstarted submission =>
          refine ⟨[.submit index submission], crew.shared.accepted ++ [(index, submission)],
            crew.shared.dropped, ?_⟩
          simp [run?, move?, hmember, hstarted, Shared.assign]
      | drop hqueue hfault =>
          obtain ⟨moves, hmoves⟩ :=
            (runs_drop hmember hqueue hfault).exists_run?_of_resting hresting hstaffed hindex
          rw [List.append_nil]
          exact ⟨moves, _, _, hmoves⟩
      | carry hqueue hreturned hanswer =>
          obtain ⟨moves, hmoves⟩ :=
            (runs_carry hmember hqueue hreturned).exists_run?_of_resting hresting hstaffed hindex
          rw [hanswer] at hmoves
          exact ⟨moves, _, _, hmoves⟩

theorem exists_run?_of_advances {first last : Store × List Database} {done : List Deed}
    (hadvances : Fleet.Advances first done last) {crew : Crew} (hresting : crew.Resting)
    (hstaffed : crew.Staffed) (hfirst : (crew.shared.store, crew.shared.databases) = first) :
    ∃ moves accepted dropped, crew.run? moves = some
      { shared :=
          { store := last.1
            databases := last.2
            accepted := accepted
            dropped := dropped
            deeds := crew.shared.deeds ++ done }
        workers := crew.workers } := by
  induction hadvances generalizing crew with
  | refl =>
      subst hfirst
      exact ⟨[], crew.shared.accepted, crew.shared.dropped, by rw [List.append_nil]; rfl⟩
  | @head first next last done rest hadvance hadvances ih =>
      subst hfirst
      obtain ⟨moves, accepted, dropped, hmoves⟩ :=
        exists_run?_of_advance hresting hstaffed hadvance
      have hlength : next.2.length = crew.shared.databases.length := by
        cases hadvance with
        | member hmember hadvance => exact List.length_set
      obtain ⟨others, acceptedLast, droppedLast, hothers⟩ := @ih
        { shared := ⟨next.1, next.2, accepted, dropped, crew.shared.deeds ++ done⟩
          workers := crew.workers }
        hresting (fun index hindex => hstaffed index (hlength ▸ hindex)) rfl
      refine ⟨moves ++ others, acceptedLast, droppedLast, ?_⟩
      rw [run?_append, hmoves, Option.bind_some, hothers, List.append_assoc]

/-- A crew can do what a fleet does, with the same deeds. -/
theorem exists_run?_of_fleet {site : Site} {databases : List Database}
    (hcreated : Created databases) (actions : List (Nat × Action)) :
    let fleet := Fleet.mk site databases
    ∃ moves crew, (gather site.store databases).run? moves = some crew ∧ crew.Resting ∧
      crew.shared.store = (fleet.run actions).2.site.store ∧
      crew.shared.databases = (fleet.run actions).2.databases ∧
      crew.shared.deeds = fleet.deeds actions := by
  intro fleet
  have hadvances := @Fleet.advances_run fleet hcreated.orderly actions
  obtain ⟨moves, accepted, dropped, hmoves⟩ := exists_run?_of_advances hadvances
    (resting_gather site.store databases) (staffed_gather hcreated) rfl
  exact ⟨moves, _, hmoves, resting_gather site.store databases, rfl, rfl, rfl⟩

end RowStore.Crew
