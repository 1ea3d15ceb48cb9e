import RowStore.Proofs.Crew.Fleet
import RowStore.Proofs.Crew.Sound

namespace RowStore

open Database

/-- The counters tell what some databases have run on a store that they share. -/
structure Accounts (store : Store) (databases : List Database) (deeds : List Deed) : Prop where
  ran : ∀ deed ∈ deeds, ∃ database catalog, databases[deed.database]? = some database ∧
    database.execution.fault? deed.submission = none ∧
    (Catalog.interpret catalog deed.text).1 = deed.outcome
  total : ∀ index database, databases[index]? = some database →
    database.total = deeds.countP fun deed => deed.database = index
  failed : ∀ index database, databases[index]? = some database →
    database.failed = deeds.countP fun deed => deed.database = index ∧ deed.failed
  failed_le_total : ∀ database ∈ databases, database.failed ≤ database.total
  statements : ∀ kind status, store.metrics.counted kind status = deeds.countP fun deed =>
    (kind, status) = (Statement.kind? deed.text, deed.outcome.status)
  sum_total : (store.metrics.statementSamples.map Metrics.Sample.value).sum =
    (databases.map Database.total).sum
  sum_failed :
    ((store.metrics.statementSamples.filter Metrics.Sample.failed).map Metrics.Sample.value).sum =
      (databases.map Database.failed).sum
  latencies : ∀ kind, store.metrics.observed kind =
    store.metrics.counted kind .success + store.metrics.counted kind .error
  unknown : store.metrics.counted none .error = deeds.countP Deed.malformed
  unknown_not_success : ∀ sample ∈ store.metrics.statementSamples,
    ("kind", "unknown") ∈ sample.labels → ("status", "success") ∉ sample.labels

def Store.Fresh (store : Store) : Prop :=
  store.metrics.statements = .empty ∧ store.metrics.latencies = .empty

namespace Crew

section Resting

variable {store : Store} {databases : List Database} {moves : List Move} {crew : Crew}

theorem counter_eq {counter : Shared → Nat} {passed : Nat → Stage → Option Deed}
    {chosen : Deed → Bool} (hrun : (gather store databases).run? moves = some crew)
    (hresting : crew.Resting) (hbalanced : (Ledger.deeds counter passed chosen).Balanced)
    (hidle : ∀ employer, passed employer .idle = none)
    (hzero : counter (gather store databases).shared = 0) :
    counter crew.shared = crew.shared.deeds.countP chosen := by
  have hsettled := hbalanced.settled (fun employer => by simp [Ledger.deeds, hidle]) hrun hresting
  simp only [Ledger.deeds, hzero, show (gather store databases).shared.deeds = [] from rfl,
    List.countP_nil] at hsettled
  omega

variable (hfresh : store.Fresh) (hrun : (gather store databases).run? moves = some crew)
  (hresting : crew.Resting)

include hfresh hrun hresting

theorem counted_eq (kind : Option Statement.Kind) (status : Status) :
    crew.shared.store.metrics.counted kind status = crew.shared.deeds.countP fun deed =>
      (kind, status) = (Statement.kind? deed.text, deed.outcome.status) :=
  counter_eq hrun hresting
    (Ledger.balanced_counted (fun statements => (statements.get? (kind, status)).getD 0)
      fun metrics deed => by
        simp only [decide_eq_true_eq]
        exact metrics.counted_count _ kind _ status)
    (fun _ => rfl) (by simp only [gather, hfresh.1]; rfl)

theorem observed_eq (kind : Option Statement.Kind) :
    crew.shared.store.metrics.observed kind = crew.shared.deeds.countP fun deed =>
      kind = Statement.kind? deed.text :=
  counter_eq hrun hresting
    (Ledger.balanced_observed (fun latencies => (latencies.get? kind).getD 0)
      fun metrics deed => by
        simp only [decide_eq_true_eq]
        exact metrics.observed_observe _ kind)
    (fun _ => rfl) (by simp only [gather, hfresh.2]; rfl)

theorem sampled_eq (keep : Metrics.Sample → Bool) (chosen : Status → Bool)
    (hkeep : ∀ kind status count, keep ⟨Service.name ++ "_statements_total",
      [("kind", kindName kind), ("status", status.name)], count⟩ = chosen status) :
    crew.shared.store.metrics.sampled keep =
      crew.shared.deeds.countP fun deed => chosen deed.outcome.status :=
  counter_eq hrun hresting
    (Ledger.balanced_counted (fun statements => Metrics.sampled keep { statements := statements })
      fun metrics deed => Metrics.sampled_count metrics hkeep _ _)
    (fun _ => rfl) (by simp only [gather, hfresh.1]; rfl)

end Resting

/-- A counter of a database, picked from both, counts the chosen deeds. -/
structure Picks (pick : Nat → Nat → Nat) (chosen : Deed → Bool) : Prop where
  zero : pick 0 0 = 0
  count : ∀ (total failed : Nat) (deed : Deed),
    pick (total + 1) (failed + if deed.outcome.status = .error then 1 else 0) =
      pick total failed + if chosen deed then 1 else 0

theorem picks_total : Picks (fun total _ => total) fun _ => true := ⟨rfl, fun _ _ _ => rfl⟩

theorem picks_failed : Picks (fun _ failed => failed) Deed.failed where
  zero := rfl
  count := fun _ _ deed => by simp only [Deed.failed, decide_eq_true_eq]

section Picks

variable {store : Store} {databases : List Database} {moves : List Move} {crew : Crew}
  {pick : Nat → Nat → Nat} {chosen : Deed → Bool} (hpicks : Picks pick chosen)
  (hcreated : Created databases)

include hpicks hcreated

theorem Picks.created : ∀ database ∈ databases, pick database.total database.failed = 0 := by
  intro database hdatabase
  rw [hcreated.eq hdatabase]
  exact hpicks.zero

variable (hrun : (gather store databases).run? moves = some crew) (hresting : crew.Resting)

include hrun hresting

theorem Picks.at {index : Nat} {database : Database}
    (hmember : crew.shared.databases[index]? = some database) :
    pick database.total database.failed =
      crew.shared.deeds.countP fun deed => deed.database = index ∧ chosen deed := by
  have hzero : (databases[index]?.elim 0 fun database =>
      pick database.total database.failed) = 0 := by
    cases hget : databases[index]? with
    | none => rfl
    | some other => exact hpicks.created hcreated other (List.mem_of_getElem? hget)
  have hcounter : (crew.shared.databases[index]?.elim 0 fun database =>
      pick database.total database.failed) =
        crew.shared.deeds.countP fun deed => deed.database = index ∧ chosen deed :=
    counter_eq hrun hresting
      (Ledger.balanced_posted (Ledger.weighs_at index pick) fun total failed deed => by
        by_cases hindex : deed.database = index <;> simp [hindex, hpicks.count])
      (fun _ => rfl) hzero
  rwa [hmember] at hcounter

theorem Picks.sum :
    (crew.shared.databases.map fun database => pick database.total database.failed).sum =
      crew.shared.deeds.countP chosen :=
  counter_eq hrun hresting
    (Ledger.balanced_posted (Ledger.weighs_sum pick) hpicks.count) (fun _ => rfl)
    (List.sum_eq_zero fun number hnumber => by
      obtain ⟨database, hdatabase, rfl⟩ := List.mem_map.mp hnumber
      exact hpicks.created hcreated database hdatabase)

end Picks

section Deeds

variable {executions : List Execution} {deeds : List Deed}

theorem countP_kind (kind : Option Statement.Kind) (deeds : List Deed) :
    (deeds.countP fun deed => kind = Statement.kind? deed.text) =
      (deeds.countP fun deed =>
        (kind, Status.success) = (Statement.kind? deed.text, deed.outcome.status)) +
      deeds.countP fun deed =>
        (kind, Status.error) = (Statement.kind? deed.text, deed.outcome.status) := by
  induction deeds with
  | nil => rfl
  | cons deed deeds ih =>
      simp only [List.countP_cons, ih, decide_eq_true_eq, Prod.mk.injEq]
      cases deed.outcome.status <;> simp <;> omega

theorem countP_unknown (hsound : ∀ deed ∈ deeds, deed.Sound executions) :
    (deeds.countP fun deed =>
      (none, Status.error) = (Statement.kind? deed.text, deed.outcome.status)) =
      deeds.countP Deed.malformed := by
  apply List.countP_congr
  intro deed hdeed
  have hmalformed := (hsound deed hdeed).malformed_iff
  simp only [decide_eq_true_eq, Prod.mk.injEq]
  constructor
  · rintro ⟨hkind, -⟩
    exact hmalformed.mpr hkind.symm
  · intro h
    exact ⟨(hmalformed.mp h).symm, (of_decide_eq_true (deed.failed_of_malformed h)).symm⟩

theorem countP_unknown_success (hsound : ∀ deed ∈ deeds, deed.Sound executions) :
    (deeds.countP fun deed =>
      (none, Status.success) = (Statement.kind? deed.text, deed.outcome.status)) = 0 := by
  rw [List.countP_eq_zero]
  intro deed hdeed hsuccess
  simp only [decide_eq_true_eq, Prod.mk.injEq] at hsuccess
  have hfailed := deed.failed_of_malformed ((hsound deed hdeed).malformed_iff.mpr hsuccess.1.symm)
  rw [Deed.failed, ← hsuccess.2] at hfailed
  contradiction

end Deeds

theorem failed_sample (kind : Option Statement.Kind) (status : Status) (count : Nat) :
    Metrics.Sample.failed ⟨Service.name ++ "_statements_total",
      [("kind", kindName kind), ("status", status.name)], count⟩ = decide (status = .error) := by
  cases status <;> simp [Metrics.Sample.failed, Status.name]

theorem accounts_of_resting {store : Store} {databases : List Database} {moves : List Move}
    {crew : Crew} (hfresh : store.Fresh) (hcreated : Created databases)
    (hrun : (gather store databases).run? moves = some crew) (hresting : crew.Resting) :
    Accounts crew.shared.store crew.shared.databases crew.shared.deeds := by
  have hsound := (sound_of_run hfresh.1 hrun).shared
  have hcounted := counted_eq hfresh hrun hresting
  have htotal : ∀ index database, crew.shared.databases[index]? = some database →
      database.total = crew.shared.deeds.countP fun deed => deed.database = index := by
    intro index database hmember
    simpa using picks_total.at hcreated hrun hresting hmember
  have hfailed : ∀ index database, crew.shared.databases[index]? = some database →
      database.failed = crew.shared.deeds.countP fun deed =>
        deed.database = index ∧ deed.failed :=
    fun index database hmember => picks_failed.at hcreated hrun hresting hmember
  constructor
  case total => exact htotal
  case failed => exact hfailed
  case statements => exact hcounted
  case ran =>
    intro deed hdeed
    obtain ⟨execution, catalog, hget, hreturned, houtcome⟩ := hsound.deeds deed hdeed
    rw [← hsound.executions_eq, List.getElem?_map] at hget
    obtain ⟨database, hmember, rfl⟩ := Option.map_eq_some_iff.mp hget
    exact ⟨database, catalog, hmember, hreturned, houtcome⟩
  case failed_le_total =>
    intro database hdatabase
    obtain ⟨index, hmember⟩ := List.mem_iff_getElem?.mp hdatabase
    rw [htotal index database hmember, hfailed index database hmember]
    exact List.countP_mono_left fun deed _ hboth => by simp_all
  case sum_total =>
    have hsampled := sampled_eq hfresh hrun hresting (fun _ => true) (fun _ => true)
      fun _ _ _ => rfl
    rw [picks_total.sum hcreated hrun hresting]
    simpa [Metrics.sampled] using hsampled
  case sum_failed =>
    rw [picks_failed.sum hcreated hrun hresting]
    exact sampled_eq hfresh hrun hresting _ (· = .error) failed_sample
  case latencies =>
    intro kind
    rw [observed_eq hfresh hrun hresting, hcounted, hcounted]
    exact countP_kind kind _
  case unknown => rw [hcounted, countP_unknown hsound.deeds]
  case unknown_not_success =>
    intro sample hsample
    exact hsound.positive.unknown_not_success
      (by rw [hcounted, countP_unknown_success hsound.deeds]) hsample

/-- What has become of all that databases accepted: it is queued, or run once, or dropped since its
wait was interrupted. -/
structure Shared.Traced (shared : Shared) : Prop where
  accepted : ∀ order, shared.accepted.count order =
    shared.waiting order + (shared.deeds.map Deed.order).count order + shared.dropped.count order
  dropped : ∀ order ∈ shared.dropped, ∃ database fault,
    shared.databases[order.1]? = some database ∧ database.execution.fault? order.2 = some fault

theorem traced_of_resting {store : Store} {databases : List Database} {moves : List Move}
    {crew : Crew} (hfresh : store.Fresh) (hcreated : Created databases)
    (hrun : (gather store databases).run? moves = some crew) (hresting : crew.Resting) :
    crew.shared.Traced where
  accepted := fun order => by
    have hsettled := (Ledger.balanced_submissions order).settled (fun _ => rfl) hrun hresting
    have hwaiting : (gather store databases).shared.waiting order = 0 := by
      rw [Shared.waiting, show (gather store databases).shared.databases = databases from rfl]
      cases hget : databases[order.1]? with
      | none => rfl
      | some database =>
          rw [hcreated.eq (List.mem_of_getElem? hget)]
          rfl
    simp only [Ledger.submissions, hwaiting] at hsettled
    simp only [gather, List.count_nil, List.map_nil] at hsettled
    omega
  dropped := fun order horder => by
    have hsound := (sound_of_run hfresh.1 hrun).shared
    obtain ⟨execution, fault, hget, hfault⟩ := hsound.dropped order horder
    rw [← hsound.executions_eq, List.getElem?_map] at hget
    obtain ⟨database, hmember, rfl⟩ := Option.map_eq_some_iff.mp hget
    exact ⟨database, fault, hmember, hfault⟩

/-- The workers of databases that share a store keep exact accounts of what they run, in whatever
order they take their steps. So do databases that are told what to do one action after another, and
what they refuse is no deed. -/
theorem statements_accounted :
    (∀ (store : Store) (databases : List Database) (moves : List Move) (crew : Crew),
      store.Fresh → Created databases →
      (gather store databases).run? moves = some crew → crew.Resting →
      Accounts crew.shared.store crew.shared.databases crew.shared.deeds ∧
        crew.shared.Traced) ∧
    (∀ (site : Site) (databases : List Database) (actions : List (Nat × Action)),
      site.store.Fresh → Created databases →
      let fleet := Fleet.mk site databases
      let last := (fleet.run actions).2
      Accounts last.site.store last.databases (fleet.deeds actions)) ∧
    ∀ (host : Host) (action : Action) (refusal : Refusal) (index : Nat),
      (host.step action).1 = .error (.refused refusal) →
      (host.step action).2 = host ∧ host.deeds index action = [] := by
  refine ⟨?_, ?_, ?_⟩
  · intro store databases moves crew hfresh hcreated hrun hresting
    exact ⟨accounts_of_resting hfresh hcreated hrun hresting,
      traced_of_resting hfresh hcreated hrun hresting⟩
  · intro site databases actions hfresh hcreated fleet last
    obtain ⟨moves, crew, hrun, hresting, hstore, hdatabases, hdeeds⟩ :=
      exists_run?_of_fleet hcreated actions
    have haccounts := accounts_of_resting hfresh hcreated hrun hresting
    rwa [hstore, hdatabases, hdeeds] at haccounts
  · intro host action refusal index hrefused
    exact Host.step_of_refused hrefused index

/-- Two workers of one database and one of another, with their steps mixed. An insertion comes too
early, and a text is refused before the start. A third database is interrupted in a wait. -/
theorem statements_accounted_of_mixed :
    let waiting : Execution := { delay := Binary64.ofDecimal false 1 10 }
    let late : Submission := { text := "nonsense", fault := some ⟨"OverflowError", "too large"⟩ }
    let databases : List Database :=
      [{ execution := { workers := 2 } }, {}, { execution := waiting }]
    let moves : List Move :=
      [.submit 0 "select a from t", .start 0, .start 1, .submit 0 "create table t (a b)",
        .submit 0 "nonsense", .submit 1 "insert into t (a) values (1)", .work 0, .work 1, .work 2,
        .work 2, .work 1, .work 0, .work 1, .work 2, .work 0, .work 0, .work 1, .work 2, .work 2,
        .work 1, .work 0, .work 0, .work 1, .work 2, .stop 1, .start 2, .submit 2 late,
        .work 3, .work 3]
    let actions : List (Nat × Action) :=
      [(0, .execute "delete from t"), (0, .start), (0, .submit "nonsense"),
        (1, .session ["create table t (a b)", "select a from u", "delete from t"]), (0, .stop)]
    let last := ((Fleet.mk {} databases).run actions).2
    ({} : Store).Fresh ∧ Created databases ∧
      (∃ crew, (gather {} databases).run? moves = some crew ∧ crew.Resting ∧
        Accounts crew.shared.store crew.shared.databases crew.shared.deeds ∧
        crew.shared.Traced ∧ crew.shared.databases.map Database.total = [2, 1, 0] ∧
        crew.shared.databases.map Database.failed = [1, 1, 0] ∧
        crew.shared.dropped = [(2, late)]) ∧
      Accounts last.site.store last.databases ((Fleet.mk {} databases).deeds actions) ∧
      last.databases.map Database.total = [1, 2, 0] ∧
      ((Host.mk {} {}).step (.execute "delete from t")).2 = Host.mk {} {} := by
  intro waiting late databases moves actions last
  obtain ⟨hcrew, hfleet, hrefused⟩ := statements_accounted
  have hfresh : ({} : Store).Fresh := ⟨rfl, rfl⟩
  have hcreated : Created databases := by
    simp only [Created, databases, List.forall_mem_cons]
    exact ⟨⟨{ workers := 2 }, rfl⟩, ⟨{}, rfl⟩, ⟨waiting, rfl⟩, nofun⟩
  have hmoves : ((gather {} databases).run? moves).any fun crew =>
      (crew.workers.all fun worker => worker.stage.submission? = none) &&
        crew.shared.databases.map Database.total = [2, 1, 0] &&
        crew.shared.databases.map Database.failed = [1, 1, 0] &&
        crew.shared.dropped = [(2, late)] := by
    decide +kernel
  obtain ⟨crew, hrun, hreached⟩ := (Option.any_eq_true ..).mp hmoves
  simp only [Bool.and_eq_true, decide_eq_true_eq, List.all_eq_true] at hreached
  obtain ⟨⟨⟨hidle, htotal⟩, hfailed⟩, hdropped⟩ := hreached
  have hresting : crew.Resting := fun worker hworker =>
    Stage.submission?_eq_none_iff.mp (hidle worker hworker)
  obtain ⟨haccounts, htraced⟩ := hcrew {} databases moves crew hfresh hcreated hrun hresting
  exact ⟨hfresh, hcreated, ⟨crew, hrun, hresting, haccounts, htraced, htotal, hfailed, hdropped⟩,
    hfleet {} databases actions hfresh hcreated, by decide +kernel,
    (hrefused _ _ .notStarted 0 rfl).1⟩

end Crew

end RowStore
