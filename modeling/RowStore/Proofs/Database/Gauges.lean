import RowStore.Database.Site
import RowStore.Proofs.Catalog.Step

namespace RowStore

namespace Catalog

theorem counts_eq (catalog : Catalog) :
    catalog.counts =
      catalog.tables.entries.map fun entry => (entry.1, entry.2.rows.length) := rfl

theorem nodup_counts (catalog : Catalog) : (catalog.counts.map Prod.fst).Nodup := by
  rw [counts_eq, List.map_map]
  exact catalog.tables.nodup

theorem entryValue?_counts (catalog : Catalog) (name : String) :
    entryValue? name catalog.counts =
      (catalog.table? name).map fun table => table.rows.length :=
  entryValue?_map fun table : Table => table.rows.length

theorem filterMap_table? (catalog : Catalog) :
    catalog.names.filterMap (fun name => (catalog.table? name).map (Prod.mk name)) =
      catalog.snapshot :=
  filterMap_entryValue? catalog.tables.nodup

end Catalog

namespace Metrics

structure Tracks (metrics : Metrics) (catalog : Catalog) : Prop where
  tables : metrics.tables = catalog.tableCount
  rows : ∀ name table, catalog.table? name = some table →
    metrics.rows.get? name = some table.rows.length

theorem get?_rows_refresh (metrics : Metrics) (catalog : Catalog) (name : String) :
    (metrics.refresh catalog).rows.get? name =
      ((catalog.table? name).map fun table => table.rows.length).or
        (metrics.rows.get? name) := by
  rw [← Catalog.entryValue?_counts]
  exact OrderedMap.get?_putAll catalog.nodup_counts name

theorem tracks_refresh (metrics : Metrics) (catalog : Catalog) :
    (metrics.refresh catalog).Tracks catalog where
  tables := rfl
  rows := fun name table htable => by rw [get?_rows_refresh, htable]; rfl

end Metrics

namespace Store

@[simp] theorem catalog_refresh (store : Store) (statement : Statement)
    (reply : Except Failure Reply) : (store.refresh statement reply).catalog = store.catalog := by
  cases reply with
  | error failure => rfl
  | ok reply => simp only [refresh]; split <;> rfl

@[simp] theorem reply_dispatch (store : Store) (statement : Statement) :
    (store.dispatch statement).1 = (store.catalog.step statement).1 := rfl

@[simp] theorem catalog_dispatch (store : Store) (statement : Statement) :
    (store.dispatch statement).2.catalog = (store.catalog.step statement).2 := by
  simp [dispatch, change]

theorem dispatch_of_error {store : Store} {statement : Statement} {failure : Failure}
    (hfailure : (store.dispatch statement).1 = .error failure) :
    (store.dispatch statement).2 = store := by
  rw [reply_dispatch] at hfailure
  simp only [dispatch, change, hfailure, refresh, Catalog.step_of_error hfailure]

theorem dispatch_of_select {store : Store} {statement : Statement}
    (hkind : statement.kind = .select) : (store.dispatch statement).2 = store := by
  simp only [dispatch, change, Catalog.step_of_select hkind]
  cases (store.catalog.step statement).1 with
  | error failure => rfl
  | ok reply => simp only [refresh, hkind, if_true]

end Store

end RowStore
