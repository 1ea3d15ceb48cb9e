import RowStore.Proofs.Database.Views
import RowStore.Proofs.Workers.Invariant

namespace RowStore

open Database

theorem Store.Exact.of_guarded {first second : Store} (hexact : second.Exact)
    (hguarded : first.guarded = second.guarded) : first.Exact := by
  obtain ⟨hcatalog, htables, hrows⟩ := Store.guarded_eq_iff.mp hguarded
  refine ⟨?_, fun name => ?_⟩
  · rw [htables, hcatalog]
    exact hexact.tables
  · rw [hrows, hcatalog]
    exact hexact.rows name

namespace Workers

theorem exact_after {store : Store} (hexact : store.Exact) (tasks : List Task) :
    (store.after tasks).Exact := by
  induction tasks generalizing store with
  | nil => exact hexact
  | cons task tasks ih => exact ih (hexact.dispatch task.statement)

theorem exact_of_run {store : Store} {database : Database}
    {hserialized : database.execution.serialized = true} {submissions : List Submission}
    {moves : List Move} {workers : Workers} (hexact : store.Exact)
    (hrun : (start store database hserialized submissions).run? moves = some workers)
    (houtside : ∀ phase ∈ workers.phases, phase.inside = false) : workers.shared.store.Exact := by
  have hsound := (sound_start store database hserialized submissions).run hrun
  refine (exact_after hexact workers.shared.admitted).of_guarded (hsound.between ?_)
  intro index hholder
  obtain ⟨phase, hphase, hinside⟩ :=
    Option.map_eq_some_iff.mp ((hsound.exclusive index).mp hholder)
  rw [houtside phase (List.mem_of_getElem? hphase)] at hinside
  contradiction

/-- The stores that serialized databases reach from a new store, batch after batch, while none of
their workers is at it. -/
inductive Reached : Store → Prop
  | new (version : Option String) : Reached { metrics := { version := version } }
  | batch {store : Store} {database : Database}
      {hserialized : database.execution.serialized = true} {submissions : List Submission}
      {moves : List Move} {workers : Workers} (hreached : Reached store)
      (hrun : (start store database hserialized submissions).run? moves = some workers)
      (houtside : ∀ phase ∈ workers.phases, phase.inside = false) :
      Reached workers.shared.store

theorem Reached.exact {store : Store} (hreached : Reached store) : store.Exact := by
  induction hreached with
  | new version => exact Store.exact_new version
  | batch _ hrun houtside ih => exact exact_of_run ih hrun houtside

end Workers

/-- From a new store on, its views agree: after every course of actions on databases that share it,
and in every interleaving of the workers of a serialized database while none of them is at it. -/
theorem Store.views_agree :
    (∀ (site : Site) (version : Option String) (databases : List Database)
        (actions : List (Nat × Action)),
      site.store = { metrics := { version := version } } →
      Created databases → ((Fleet.mk site databases).run actions).2.site.store.Coherent) ∧
    ∀ store : Store, Workers.Reached store → store.Coherent := by
  constructor
  · intro site version databases actions hnew hcreated
    have hadvances := @Fleet.advances_run ⟨site, databases⟩ hcreated.orderly actions
    have hexact : site.store.Exact := by
      rw [hnew]
      exact Store.exact_new version
    exact (Fleet.exact_of_advances hadvances hexact).coherent
  · intro store hreached
    exact hreached.exact.coherent

/-- Two databases that share a store, one of them restarted, and a batch for two workers. -/
theorem Store.views_agree_after_sharing :
    let databases : List Database := [{}, { execution := { workers := 2 } }]
    let actions : List (Nat × Action) :=
      [(0, .start), (0, .execute "create table t (a b)"), (1, .execute "delete from t"),
        (1, .start), (1, .execute "insert into t (a) values (1)"), (0, .stop),
        (1, .execute "insert into u (a) values (1)"), (0, .start), (0, .execute "select a from t")]
    let store := ((Fleet.mk {} databases).run actions).2.site.store
    Created databases ∧
      store.Coherent ∧ store.metrics.tables = 1 ∧ store.metrics.rows.entries = [("t", 1)] ∧
      ∃ reached : Store, Workers.Reached reached ∧ reached.Coherent ∧
        reached.metrics.rows.entries = [("t", 0)] := by
  intro databases actions store
  obtain ⟨hfleet, hworkers⟩ := Store.views_agree
  have hcreated : Created databases := by
    simp only [Created, databases, List.forall_mem_cons]
    exact ⟨⟨{}, rfl⟩, ⟨{ workers := 2 }, rfl⟩, nofun⟩
  let serialized : Database := { execution := { workers := 2, serialized := true } }
  let moves : List Workers.Move := .work 1 :: List.replicate 11 (.work 0)
  have hmoves : ((Workers.start {} serialized rfl ["nonsense", "create table t (a b)"]).run?
      moves).any fun workers => (workers.phases.all fun phase => !phase.inside) &&
        workers.shared.store.metrics.rows.entries = [("t", 0)] := by
    decide +kernel
  obtain ⟨workers, hrun, hreached⟩ := (Option.any_eq_true ..).mp hmoves
  obtain ⟨hphases, hrows⟩ := Bool.and_eq_true_iff.mp hreached
  have houtside : ∀ phase ∈ workers.phases, phase.inside = false := fun phase hphase => by
    simpa using List.all_eq_true.mp hphases phase hphase
  have hworked := Workers.Reached.batch (.new none) hrun houtside
  exact ⟨hcreated, hfleet {} none databases actions rfl hcreated, by decide +kernel,
    by decide +kernel, _, hworked, hworkers _ hworked, of_decide_eq_true hrows⟩

end RowStore
