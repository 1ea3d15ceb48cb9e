import Mathlib.Algebra.BigOperators.Group.List.Basic
import Mathlib.Algebra.Ring.Int.Defs
import Mathlib.Data.List.Count
import RowStore.Proofs.Crew.Step
import RowStore.Proofs.Database.Gauges
import RowStore.Proofs.Samples

namespace RowStore

theorem sum_map_set {α M : Type} [AddCommMonoid M] (f : α → M) {list : List α} {index : Nat}
    {old : α} (new : α) (hold : list[index]? = some old) :
    ((list.set index new).map f).sum + f old = (list.map f).sum + f new := by
  induction list generalizing index with
  | nil => contradiction
  | cons head list ih =>
      cases index with
      | zero =>
          cases hold
          rw [List.set_cons_zero, List.map_cons, List.map_cons, List.sum_cons, List.sum_cons,
            add_right_comm, add_comm (f new), add_right_comm]
      | succ index =>
          rw [List.set_cons_succ, List.map_cons, List.map_cons, List.sum_cons, List.sum_cons,
            add_assoc, ih hold, add_assoc]

namespace Store

theorem counters_dispatch (store : Store) (statement : Statement) :
    (store.dispatch statement).2.metrics.statements = store.metrics.statements ∧
      (store.dispatch statement).2.metrics.latencies = store.metrics.latencies := by
  unfold dispatch
  simp only [change]
  cases (store.catalog.step statement).1 with
  | error failure => exact ⟨rfl, rfl⟩
  | ok reply =>
      simp only [refresh]
      split <;> exact ⟨rfl, rfl⟩

theorem counters_answer (store : Store) (text : String) :
    (store.answer text).2.metrics.statements = store.metrics.statements ∧
      (store.answer text).2.metrics.latencies = store.metrics.latencies := by
  unfold answer
  cases Statement.parse text with
  | none => exact ⟨rfl, rfl⟩
  | some statement => exact store.counters_dispatch statement

end Store

def Deed.order (deed : Deed) : Nat × Submission := (deed.database, deed.submission)

namespace Crew

namespace Stage

variable (employer : Nat)

/-! The deed that a worker is at, from each of its steps on. -/

def answered? : Stage → Option Deed
  | .idle | .taken _ => none
  | .answered submission outcome | .counted submission outcome | .observed submission outcome
  | .posted submission outcome => some ⟨employer, submission, outcome⟩

def counted? : Stage → Option Deed
  | .idle | .taken _ | .answered .. => none
  | .counted submission outcome | .observed submission outcome | .posted submission outcome =>
      some ⟨employer, submission, outcome⟩

def observed? : Stage → Option Deed
  | .idle | .taken _ | .answered .. | .counted .. => none
  | .observed submission outcome | .posted submission outcome =>
      some ⟨employer, submission, outcome⟩

def posted? : Stage → Option Deed
  | .idle | .taken _ | .answered .. | .counted .. | .observed .. => none
  | .posted submission outcome => some ⟨employer, submission, outcome⟩

end Stage

/-- A quantity to which both what is shared and each worker contribute. -/
structure Ledger where
  shared : Shared → Int
  stage : Nat → Stage → Int

namespace Ledger

def total (ledger : Ledger) (crew : Crew) : Int :=
  ledger.shared crew.shared +
    (crew.workers.map fun worker => ledger.stage worker.employer worker.stage).sum

structure Balanced (ledger : Ledger) : Prop where
  works : ∀ {employer : Nat} {database : Database} {stage next : Stage} {shared after : Shared},
    shared.databases[employer]? = some database →
      Works employer database stage shared next after →
      ledger.shared after + ledger.stage employer next =
        ledger.shared shared + ledger.stage employer stage
  adjusts : ∀ {shared after : Shared}, Adjusts shared after →
    ledger.shared after = ledger.shared shared

variable {ledger : Ledger}

theorem Balanced.move {crew after : Crew} (hbalanced : ledger.Balanced)
    (hmoves : Moves crew after) : ledger.total after = ledger.total crew := by
  cases hmoves with
  | @work index worker database stage shared hworker hmember hworks =>
      have hshared := hbalanced.works hmember hworks
      have hworkers := sum_map_set
        (fun worker : Worker => ledger.stage worker.employer worker.stage)
        { worker with stage := stage } hworker
      dsimp only [total] at hworkers ⊢
      omega
  | adjust hadjusts => simp only [total, hbalanced.adjusts hadjusts]

theorem Balanced.run {crew after : Crew} {moves : List Move} (hbalanced : ledger.Balanced)
    (hrun : crew.run? moves = some after) : ledger.total after = ledger.total crew := by
  refine run_induction (fun reached => ledger.total reached = ledger.total crew) ?_ hrun rfl
  rintro former next hmoves hformer
  rw [← hformer]
  exact hbalanced.move hmoves

theorem total_of_resting {crew : Crew} (hidle : ∀ employer, ledger.stage employer .idle = 0)
    (hresting : crew.Resting) : ledger.total crew = ledger.shared crew.shared := by
  rw [total, List.map_congr_left fun worker hworker => by rw [hresting worker hworker, hidle]]
  simp

theorem Balanced.settled {store : Store} {databases : List Database} {moves : List Move}
    {crew : Crew} (hbalanced : ledger.Balanced)
    (hidle : ∀ employer, ledger.stage employer .idle = 0)
    (hrun : (gather store databases).run? moves = some crew) (hresting : crew.Resting) :
    ledger.shared crew.shared = ledger.shared (gather store databases).shared := by
  rw [← total_of_resting hidle hresting, ← total_of_resting hidle (resting_gather store databases)]
  exact hbalanced.run hrun

/-- The deeds that are settled or past a step, less what a counter holds. -/
def deeds (counter : Shared → Nat) (passed : Nat → Stage → Option Deed) (chosen : Deed → Bool) :
    Ledger where
  shared := fun shared => shared.deeds.countP chosen - counter shared
  stage := fun employer stage => (passed employer stage).toList.countP chosen

variable {chosen : Deed → Bool}

theorem balanced_counted (counter : OrderedMap (Option Statement.Kind × Status) Nat → Nat)
    (hcount : ∀ (metrics : Metrics) (deed : Deed),
      counter (metrics.count (Statement.kind? deed.text) deed.outcome.status).statements =
        counter metrics.statements + if chosen deed then 1 else 0) :
    (deeds (fun shared => counter shared.store.metrics.statements) Stage.counted?
      chosen).Balanced where
  adjusts := fun hadjusts => by cases hadjusts <;> rfl
  works := fun {employer _ _ _ shared _} _ hworks => by
    cases hworks with
    | answer submission =>
        simp [deeds, Stage.counted?, (shared.store.counters_answer submission.text).1]
    | count submission outcome =>
        have hcounted := hcount shared.store.metrics ⟨employer, submission, outcome⟩
        simp only [deeds, Stage.counted?, Shared.measure, Store.measure, hcounted, Option.toList,
          List.countP_singleton, List.countP_nil]
        omega
    | settle submission outcome =>
        simp only [deeds, Stage.counted?, List.countP_append, Option.toList, List.countP_nil]
        omega
    | _ => rfl

theorem balanced_observed (counter : OrderedMap (Option Statement.Kind) Nat → Nat)
    (hobserve : ∀ (metrics : Metrics) (deed : Deed),
      counter (metrics.observe (Statement.kind? deed.text)).latencies =
        counter metrics.latencies + if chosen deed then 1 else 0) :
    (deeds (fun shared => counter shared.store.metrics.latencies) Stage.observed?
      chosen).Balanced where
  adjusts := fun hadjusts => by cases hadjusts <;> rfl
  works := fun {employer _ _ _ shared _} _ hworks => by
    cases hworks with
    | answer submission =>
        simp [deeds, Stage.observed?, (shared.store.counters_answer submission.text).2]
    | observe submission outcome =>
        have hobserved := hobserve shared.store.metrics ⟨employer, submission, outcome⟩
        simp only [deeds, Stage.observed?, Shared.measure, Store.measure, hobserved,
          Option.toList, List.countP_singleton, List.countP_nil]
        omega
    | settle submission outcome =>
        simp only [deeds, Stage.observed?, List.countP_append, Option.toList, List.countP_nil]
        omega
    | _ => rfl

/-- A counter over the databases to which each contributes what it has counted itself. -/
structure Weighs (counter : List Database → Nat) (weight : Nat → Nat → Nat → Nat) : Prop where
  set : ∀ {databases : List Database} {index : Nat} {database : Database} (after : Database),
    databases[index]? = some database →
      counter (databases.set index after) + weight index database.total database.failed =
        counter databases + weight index after.total after.failed

theorem Weighs.keep {counter : List Database → Nat} {weight : Nat → Nat → Nat → Nat}
    {databases : List Database} {index : Nat} {database : Database}
    (hweighs : Weighs counter weight) (hmember : databases[index]? = some database)
    (started : Bool) (queue : List Submission) :
    counter (databases.set index { database with started := started, queue := queue }) =
      counter databases := by
  have hset := hweighs.set { database with started := started, queue := queue } hmember
  dsimp only at hset
  omega

theorem balanced_posted {counter : List Database → Nat} {weight : Nat → Nat → Nat → Nat}
    (hweighs : Weighs counter weight)
    (hcount : ∀ (total failed : Nat) (deed : Deed),
      weight deed.database (total + 1) (failed + if deed.outcome.status = .error then 1 else 0) =
        weight deed.database total failed + if chosen deed then 1 else 0) :
    (deeds (fun shared => counter shared.databases) Stage.posted? chosen).Balanced where
  adjusts := fun hadjusts => by
    cases hadjusts with
    | switch hmember started =>
        simp only [deeds, Shared.assign, hweighs.keep hmember started]
    | submit hmember submission => simp only [deeds, Shared.assign, hweighs.keep hmember]
    | refuse | disturb => rfl
  works := fun {employer database _ _ shared _} hmember hworks => by
    cases hworks with
    | take hqueue => simp only [deeds, Stage.posted?, Shared.assign, hweighs.keep hmember]
    | post submission outcome =>
        have hset := hweighs.set (database.count outcome.status) hmember
        have hcounted := hcount database.total database.failed ⟨employer, submission, outcome⟩
        simp only [Database.count, deeds, Stage.posted?, Shared.assign, Option.toList,
          List.countP_singleton, List.countP_nil] at hset hcounted ⊢
        omega
    | settle submission outcome =>
        simp only [deeds, Stage.posted?, List.countP_append, Option.toList, List.countP_nil]
        omega
    | _ => rfl

section Counters

variable (index : Nat) (pick : Nat → Nat → Nat)

theorem weighs_at :
    Weighs (fun databases => databases[index]?.elim 0 fun database =>
        pick database.total database.failed)
      fun other total failed => if other = index then pick total failed else 0 where
  set := fun {databases other database} after hmember => by
    obtain ⟨hother, rfl⟩ := List.getElem?_eq_some_iff.mp hmember
    by_cases hindex : other = index
    · subst hindex
      simp [hother, Nat.add_comm]
    · simp [hindex]

theorem weighs_sum :
    Weighs (fun databases => (databases.map fun database =>
        pick database.total database.failed).sum)
      fun _ => pick where
  set := fun after hmember =>
    sum_map_set (fun database : Database => pick database.total database.failed) after hmember

end Counters

end Ledger

def Shared.waiting (shared : Shared) (order : Nat × Submission) : Nat :=
  shared.databases[order.1]?.elim 0 fun database => database.queue.count order.2

theorem count_map_prodMk (index : Nat) (submissions : List Submission) (order : Nat × Submission) :
    (submissions.map (Prod.mk index)).count order =
      if order.1 = index then submissions.count order.2 else 0 := by
  obtain ⟨other, submission⟩ := order
  by_cases hother : other = index
  · subst hother
    rw [if_pos rfl, List.count_map_of_injective _ _ fun _ _ hpair => (Prod.mk.inj hpair).2]
  · rw [if_neg hother, List.count_eq_zero]
    simp [Ne.symm hother]

theorem Shared.waiting_assign {shared : Shared} {index : Nat} {database : Database}
    (hmember : shared.databases[index]? = some database) (after : Database)
    (order : Nat × Submission) :
    (shared.assign index after).waiting order + (database.queue.map (Prod.mk index)).count order =
      shared.waiting order + (after.queue.map (Prod.mk index)).count order := by
  obtain ⟨hindex, rfl⟩ := List.getElem?_eq_some_iff.mp hmember
  rw [count_map_prodMk, count_map_prodMk]
  by_cases hother : order.1 = index
  · simp [waiting, assign, hother, hindex, Nat.add_comm]
  · simp [waiting, assign, hother, Ne.symm hother]

namespace Ledger

/-- How often something was accepted, less how often it is queued, with a worker, run or dropped. -/
def submissions (order : Nat × Submission) : Ledger where
  shared := fun shared =>
    (shared.accepted.count order : Int) - shared.waiting order -
      (shared.deeds.map Deed.order).count order - shared.dropped.count order
  stage := fun employer stage =>
    -((stage.submission?.map (Prod.mk employer)).toList.count order : Int)

theorem balanced_submissions (order : Nat × Submission) : (submissions order).Balanced where
  adjusts := fun hadjusts => by
    cases hadjusts with
    | refuse | disturb => rfl
    | @switch index database hmember started =>
        have hwaiting :=
          Shared.waiting_assign hmember { database with started := started } order
        simp only [submissions, Shared.assign] at hwaiting ⊢
        omega
    | @submit index database hmember submission =>
        have hwaiting := Shared.waiting_assign hmember
          { database with queue := database.queue ++ [submission] } order
        simp only [submissions, Shared.assign, Shared.waiting, List.map_append, List.count_append,
          List.map_cons, List.map_nil] at hwaiting ⊢
        omega
  works := fun {employer database _ _ shared _} hmember hworks => by
    cases hworks with
    | @take _ submission queue hqueue =>
        have hwaiting :=
          Shared.waiting_assign hmember { database with queue := queue } order
        simp only [submissions, Shared.assign, Stage.submission?, Option.map_some, Option.map_none,
          Option.toList, hqueue, List.map_cons, List.count_cons, List.count_nil] at hwaiting ⊢
        omega
    | drop hfault =>
        simp only [submissions, Stage.submission?, Shared.waiting, Option.map_some, Option.map_none,
          Option.toList, List.count_append, List.count_nil]
        omega
    | post submission outcome =>
        have hwaiting := Shared.waiting_assign hmember (database.count outcome.status) order
        simp only [submissions, Shared.assign, Stage.submission?, Database.count] at hwaiting ⊢
        omega
    | settle submission outcome =>
        simp only [submissions, Stage.submission?, Shared.waiting, Option.map_some, Option.map_none,
          Option.toList, List.map_append, List.map_cons, List.map_nil, Deed.order,
          List.count_append, List.count_nil]
        omega
    | _ => rfl

end Ledger

end Crew

end RowStore
