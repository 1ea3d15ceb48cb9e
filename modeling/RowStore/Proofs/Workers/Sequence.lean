import RowStore.Database.Workers
import RowStore.Proofs.Catalog.Step
import RowStore.Proofs.Database.Gauges

namespace RowStore

open Workers

namespace Catalog

def replies (catalog : Catalog) (tasks : List Task) : List (Task × Except Failure Reply) :=
  tasks.zip (catalog.run (tasks.map Task.statement)).1

@[simp] theorem replies_nil (catalog : Catalog) : catalog.replies [] = [] := rfl

@[simp] theorem replies_cons (catalog : Catalog) (task : Task) (tasks : List Task) :
    catalog.replies (task :: tasks) =
      (task, (catalog.step task.statement).1) ::
        (catalog.step task.statement).2.replies tasks := rfl

theorem replies_append (catalog : Catalog) (first second : List Task) :
    catalog.replies (first ++ second) =
      catalog.replies first ++
        (catalog.run (first.map Task.statement)).2.replies second := by
  induction first generalizing catalog with
  | nil => rfl
  | cons task first ih =>
      rw [List.cons_append, replies_cons, ih, replies_cons, List.cons_append]
      rfl

theorem mem_replies_of_extends {catalog : Catalog} {first second : List Task}
    {replied : Task × Except Failure Reply} (hextends : first <+: second)
    (hreplied : replied ∈ catalog.replies first) : replied ∈ catalog.replies second := by
  obtain ⟨rest, rfl⟩ := hextends
  rw [replies_append]
  exact List.mem_append_left _ hreplied

theorem step_eq_of_not_changes {catalog : Catalog} {task : Task}
    (hchanges : task.changes (catalog.step task.statement).1 = false) :
    (catalog.step task.statement).2 = catalog := by
  cases hreply : (catalog.step task.statement).1 with
  | error failure => exact step_of_error hreply
  | ok reply =>
      rw [hreply] at hchanges
      have hkind : task.statement.kind = .select := by simpa [Task.changes] using hchanges
      exact step_of_select hkind

end Catalog

namespace Store

def after (store : Store) (tasks : List Task) : Store :=
  tasks.foldl (fun store task => (store.dispatch task.statement).2) store

@[simp] theorem after_nil (store : Store) : store.after [] = store := rfl

@[simp] theorem after_cons (store : Store) (task : Task) (tasks : List Task) :
    store.after (task :: tasks) = (store.dispatch task.statement).2.after tasks := rfl

theorem after_concat (store : Store) (tasks : List Task) (task : Task) :
    store.after (tasks ++ [task]) = ((store.after tasks).dispatch task.statement).2 := by
  rw [after, List.foldl_append]
  rfl

theorem catalog_after (store : Store) (tasks : List Task) :
    (store.after tasks).catalog = (store.catalog.run (tasks.map Task.statement)).2 := by
  induction tasks generalizing store with
  | nil => rfl
  | cons task tasks ih => rw [after_cons, ih, catalog_dispatch]; rfl

theorem refresh_eq (store : Store) (task : Task) (reply : Except Failure Reply) :
    store.refresh task.statement reply =
      if task.changes reply then { store with metrics := store.metrics.refresh store.catalog }
      else store := by
  cases reply with
  | error failure => rfl
  | ok reply =>
      by_cases hkind : task.statement.kind = .select <;> simp [refresh, Task.changes, hkind]

theorem dispatch_of_changes {store : Store} {task : Task}
    (hchanges : task.changes (store.catalog.step task.statement).1 = true) :
    (store.dispatch task.statement).2 =
      { catalog := (store.catalog.step task.statement).2
        metrics := store.metrics.refresh (store.catalog.step task.statement).2 } := by
  simp only [dispatch, change, refresh_eq, hchanges, if_true]

theorem dispatch_of_not_changes {store : Store} {task : Task}
    (hchanges : task.changes (store.catalog.step task.statement).1 = false) :
    (store.dispatch task.statement).2 = store := by
  simp only [dispatch, change, refresh_eq, hchanges, Bool.false_eq_true, if_false,
    Catalog.step_eq_of_not_changes hchanges]

/-- The gauges show the tables in the end if they did so at first, or if some task changed
something. -/
theorem tracks_after {store : Store} {tasks : List Task}
    (htracks : store.metrics.Tracks store.catalog ∨
      ∃ task reply, (task, reply) ∈ store.catalog.replies tasks ∧ task.changes reply = true) :
    (store.after tasks).metrics.Tracks (store.after tasks).catalog := by
  induction tasks generalizing store with
  | nil => simpa using htracks
  | cons task tasks ih =>
      rw [after_cons]
      apply ih
      cases hchanges : task.changes (store.catalog.step task.statement).1 with
      | true =>
          rw [dispatch_of_changes hchanges]
          exact .inl (Metrics.tracks_refresh ..)
      | false =>
          rw [dispatch_of_not_changes hchanges]
          rcases htracks with htracks | ⟨other, reply, hmem, hother⟩
          · exact .inl htracks
          · rw [Catalog.replies_cons, Catalog.step_eq_of_not_changes hchanges,
              List.mem_cons] at hmem
            rcases hmem with hhead | hmem
            · cases hhead
              simp [hchanges] at hother
            · exact .inr ⟨other, reply, hmem, hother⟩

theorem get?_rows_after {store : Store} {tasks : List Task} {name : String}
    (hnone : (store.after tasks).catalog.table? name = none) :
    store.catalog.table? name = none ∧
      (store.after tasks).metrics.rows.get? name = store.metrics.rows.get? name := by
  induction tasks generalizing store with
  | nil => exact ⟨hnone, rfl⟩
  | cons task tasks ih =>
      rw [after_cons] at hnone ⊢
      obtain ⟨htable, hrows⟩ := ih hnone
      rw [catalog_dispatch] at htable
      refine ⟨Catalog.table?_eq_none_of_step htable, hrows.trans ?_⟩
      cases hchanges : task.changes (store.catalog.step task.statement).1 with
      | true =>
          rw [dispatch_of_changes hchanges, Metrics.get?_rows_refresh, htable]
          rfl
      | false => rw [dispatch_of_not_changes hchanges]

end Store

end RowStore
