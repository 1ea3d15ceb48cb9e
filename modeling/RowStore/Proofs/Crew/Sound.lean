import RowStore.Proofs.Crew.Ledger
import RowStore.Proofs.Database.Advance
import RowStore.Proofs.Database.Verdict

namespace RowStore

/-- The wait for a text has returned, and this outcome is what the text comes to on some tables. -/
def Deed.Sound (executions : List Execution) (deed : Deed) : Prop :=
  ∃ execution catalog, executions[deed.database]? = some execution ∧
    execution.fault? deed.submission = none ∧ (Catalog.interpret catalog deed.text).1 = deed.outcome

def Deed.failed (deed : Deed) : Bool := deed.outcome.status = .error

def Deed.malformed (deed : Deed) : Bool :=
  match deed.outcome with
  | .error (.malformed _) => true
  | _ => false

theorem Deed.Sound.malformed_iff {executions : List Execution} {deed : Deed}
    (hsound : deed.Sound executions) :
    deed.malformed = true ↔ Statement.kind? deed.text = none := by
  obtain ⟨-, catalog, -, -, houtcome⟩ := hsound
  rw [Statement.kind?, Option.map_eq_none_iff]
  constructor
  · intro hmalformed
    unfold malformed at hmalformed
    split at hmalformed
    next text hfailure =>
      rw [hfailure] at houtcome
      rcases Catalog.interpret_error_iff.mp houtcome with ⟨hparse, -⟩ | ⟨_, -, -, -, hunknown⟩
      · exact hparse
      · contradiction
    next => contradiction
  · intro hparse
    rw [malformed, ← houtcome, Catalog.interpret_error_iff.mpr (.inl ⟨hparse, rfl⟩)]

theorem Deed.failed_of_malformed {deed : Deed} (hmalformed : deed.malformed = true) :
    deed.failed = true := by
  unfold malformed at hmalformed
  split at hmalformed
  next hfailure => simp [failed, hfailure, Outcome.status]
  next => contradiction

namespace Crew

structure Shared.Sound (executions : List Execution) (shared : Shared) : Prop where
  executions_eq : shared.databases.map Database.execution = executions
  deeds : ∀ deed ∈ shared.deeds, deed.Sound executions
  dropped : ∀ order ∈ shared.dropped,
    ∃ execution fault, executions[order.1]? = some execution ∧
      execution.fault? order.2 = some fault
  positive : shared.store.metrics.Positive

def Stage.Sound (executions : List Execution) (employer : Nat) (stage : Stage) : Prop :=
  ∀ deed, stage.answered? employer = some deed → deed.Sound executions

section Sound

variable {executions : List Execution} {shared after : Shared} {employer : Nat}
  {database : Database} {stage next : Stage}

theorem Shared.Sound.assign (hsound : shared.Sound executions) {index : Nat}
    (hmember : shared.databases[index]? = some database) {changed : Database}
    (hsame : changed.execution = database.execution) :
    (shared.assign index changed).Sound executions where
  executions_eq := by
    obtain ⟨hindex, rfl⟩ := List.getElem?_eq_some_iff.mp hmember
    rw [← hsound.executions_eq, Shared.assign, List.map_set, hsame,
      ← List.getElem_map Database.execution, List.set_getElem_self]
    rwa [List.length_map]
  deeds := hsound.deeds
  dropped := hsound.dropped
  positive := hsound.positive

theorem Shared.Sound.execution (hsound : shared.Sound executions)
    (hmember : shared.databases[employer]? = some database) :
    executions[employer]? = some database.execution := by
  rw [← hsound.executions_eq, List.getElem?_map, hmember, Option.map_some]

theorem Adjusts.sound (hadjusts : Adjusts shared after) (hsound : shared.Sound executions) :
    after.Sound executions := by
  cases hadjusts with
  | refuse => exact hsound
  | switch hmember started => exact hsound.assign hmember rfl
  | @submit index database hmember submission =>
      have hassigned : (shared.assign index
          { database with queue := database.queue ++ [submission] }).Sound executions :=
        hsound.assign hmember rfl
      exact { hassigned with }
  | disturb catalog tables rows => exact { hsound with positive := hsound.positive }

theorem Works.sound (hmember : shared.databases[employer]? = some database)
    (hworks : Works employer database stage shared next after) (hsound : shared.Sound executions)
    (hstage : stage.Sound executions employer) :
    after.Sound executions ∧ next.Sound executions employer := by
  cases hworks with
  | take hqueue => exact ⟨hsound.assign hmember rfl, nofun⟩
  | drop hfault =>
      refine ⟨{ hsound with dropped := ?_ }, nofun⟩
      intro order horder
      rcases List.mem_append.mp horder with hold | hnew
      · exact hsound.dropped order hold
      · cases List.mem_singleton.mp hnew
        exact ⟨_, _, hsound.execution hmember, hfault⟩
  | answer submission hreturned =>
      constructor
      · refine { hsound with positive := ?_ }
        intro kind status
        rw [(shared.store.counters_answer submission.text).1]
        exact hsound.positive kind status
      · rintro deed ⟨⟩
        exact ⟨_, shared.store.catalog, hsound.execution hmember, hreturned,
          (shared.store.interpret_answer submission.text).symm⟩
  | count submission outcome =>
      exact ⟨{ hsound with positive := hsound.positive.count _ _ }, hstage⟩
  | observe submission outcome => exact ⟨{ hsound with positive := hsound.positive }, hstage⟩
  | post submission outcome => exact ⟨hsound.assign hmember rfl, hstage⟩
  | settle submission outcome =>
      refine ⟨{ hsound with deeds := ?_ }, nofun⟩
      intro deed hdeed
      rcases List.mem_append.mp hdeed with hold | hnew
      · exact hsound.deeds deed hold
      · exact List.mem_singleton.mp hnew ▸ hstage _ rfl

end Sound

structure Sound (executions : List Execution) (crew : Crew) : Prop where
  shared : crew.shared.Sound executions
  workers : ∀ worker ∈ crew.workers, worker.stage.Sound executions worker.employer

theorem Sound.move {executions : List Execution} {crew after : Crew}
    (hsound : crew.Sound executions) (hmoves : Moves crew after) : after.Sound executions := by
  cases hmoves with
  | adjust hadjusts => exact ⟨hadjusts.sound hsound.shared, hsound.workers⟩
  | @work index worker database stage shared hworker hmember hworks =>
      have hstage := hsound.workers worker (List.mem_of_getElem? hworker)
      obtain ⟨hshared, hnext⟩ := hworks.sound hmember hsound.shared hstage
      refine ⟨hshared, fun other hother => ?_⟩
      rcases List.mem_or_eq_of_mem_set hother with hold | rfl
      · exact hsound.workers other hold
      · exact hnext

theorem sound_gather {store : Store} (databases : List Database)
    (hfresh : store.metrics.statements = .empty) :
    (gather store databases).Sound (databases.map Database.execution) where
  shared :=
    { executions_eq := rfl
      deeds := nofun
      dropped := nofun
      positive := fun kind status count hget => by
        rw [show (gather store databases).shared.store.metrics.statements = _ from hfresh] at hget
        contradiction }
  workers := fun worker hworker => by
    rw [resting_gather store databases worker hworker]
    exact nofun

theorem sound_of_run {store : Store} {databases : List Database} {moves : List Move} {crew : Crew}
    (hfresh : store.metrics.statements = .empty)
    (hrun : (gather store databases).run? moves = some crew) :
    crew.Sound (databases.map Database.execution) :=
  run_induction (fun reached => reached.Sound (databases.map Database.execution))
    (fun hmoves hsound => hsound.move hmoves) hrun (sound_gather databases hfresh)

end Crew

end RowStore
