import Mathlib.Algebra.GroupWithZero.Nat
import RowStore.Metrics.Sample
import RowStore.Proofs.Database.Gauges
import RowStore.Proofs.Database.Sharing

/-!
All views of a store show the same tables.

The gauges follow successful changes only. They are never out of date, as nothing else changes a
number, and no name is ever taken out of the catalog.
-/

namespace RowStore

open Database

/-- The gauges show the numbers of a catalog, and nothing besides. -/
structure Metrics.Exact (metrics : Metrics) (catalog : Catalog) : Prop where
  tables : metrics.tables = catalog.tableCount
  rows : ∀ name, metrics.rows.get? name =
    (catalog.table? name).map fun table => table.rows.length

namespace Store

abbrev Exact (store : Store) : Prop := store.metrics.Exact store.catalog

theorem exact_new (version : Option String) :
    Store.Exact { metrics := { version := version } } where
  tables := rfl
  rows := fun _ => rfl

theorem Exact.record {store : Store} (hexact : store.Exact) (kind : Option Statement.Kind)
    (status : Status) : (store.record kind status).Exact where
  tables := hexact.tables
  rows := hexact.rows

theorem dispatch_of_changed {store : Store} {statement : Statement} {reply : Reply}
    (hreply : (store.dispatch statement).1 = .ok reply) (hkind : statement.kind ≠ .select) :
    (store.dispatch statement).2 =
      { catalog := (store.catalog.step statement).2
        metrics := store.metrics.refresh (store.catalog.step statement).2 } := by
  rw [reply_dispatch] at hreply
  simp only [dispatch, change, hreply, refresh, hkind, if_false]

theorem Exact.dispatch {store : Store} (hexact : store.Exact) (statement : Statement) :
    (store.dispatch statement).2.Exact := by
  cases hreply : (store.dispatch statement).1 with
  | error failure => rwa [dispatch_of_error hreply]
  | ok reply =>
      by_cases hkind : statement.kind = .select
      · rwa [dispatch_of_select hkind]
      · rw [dispatch_of_changed hreply hkind]
        refine ⟨rfl, fun name => ?_⟩
        rw [Metrics.get?_rows_refresh]
        cases htable : (store.catalog.step statement).2.table? name with
        | some table => rfl
        | none =>
            -- A name without a table never had one, so it has no gauge that could be left over.
            rw [hexact.rows name, Catalog.table?_eq_none_of_step htable]
            rfl

theorem Exact.answer {store : Store} (hexact : store.Exact) (text : String) :
    (store.answer text).2.Exact := by
  cases hparse : Statement.parse text with
  | none => simpa only [Store.answer, hparse] using hexact
  | some statement => simpa only [Store.answer, hparse] using hexact.dispatch statement

/-- The views of a store: the snapshot, the samples of the gauges, and the numbers that databases
and the catalog give. -/
structure Coherent (store : Store) : Prop where
  tables : store.metrics.tableSample.value = store.catalog.snapshot.length
  rows : store.metrics.rowSamples.Perm
    (store.catalog.snapshot.map fun entry =>
      { name := "memdb_rows", labels := [("table", entry.1)], value := entry.2.rows.length })
  names : (store.catalog.snapshot.map Prod.fst).Nodup
  stats : ∀ host : Host, host.site.store = store →
    host.snapshot = store.catalog.snapshot ∧
      host.stats.tables = host.snapshot.length ∧
      host.stats.rows = host.snapshot.map fun entry => (entry.1, entry.2.rows.length)
  totalRows : store.catalog.totalRows =
    (store.catalog.snapshot.map fun entry => entry.2.rows.length).sum

theorem Exact.perm_rows {store : Store} (hexact : store.Exact) :
    store.metrics.rows.entries.Perm store.catalog.counts :=
  perm_of_entryValue? store.metrics.rows.nodup store.catalog.nodup_counts fun name => by
    rw [Catalog.entryValue?_counts]
    exact hexact.rows name

theorem Exact.coherent {store : Store} (hexact : store.Exact) : store.Coherent where
  tables := hexact.tables
  rows := by
    have hsorted := (perm_sortByKey store.metrics.rows.entries).trans hexact.perm_rows
    have hsamples := hsorted.map fun entry : String × Nat =>
      ({ name := "memdb_rows", labels := [("table", entry.1)], value := entry.2 } : Metrics.Sample)
    rw [Catalog.counts_eq, List.map_map] at hsamples
    exact hsamples
  names := store.catalog.tables.nodup
  stats := by
    rintro host rfl
    exact ⟨rfl, rfl, rfl⟩
  totalRows := by
    rw [Catalog.totalRows, Catalog.counts_eq, List.map_map]
    rfl

end Store

theorem Fleet.exact_of_advances {first second : Store × List Database} {done : List Deed}
    (hadvances : Fleet.Advances first done second) (hexact : first.1.Exact) : second.1.Exact := by
  refine hadvances.invariant (fun state => state.1.Exact) ?_ hexact
  rintro former next steps ⟨-, hadvance⟩ hformer
  cases hadvance with
  | start | stop | submit | drop => exact hformer
  | @carry store next database submission queue outcome hqueue hreturned hanswer =>
      have hnext := Store.Exact.answer hformer submission.text
      rw [hanswer] at hnext
      exact hnext.record ..

end RowStore
