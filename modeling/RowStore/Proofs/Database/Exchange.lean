import RowStore.Proofs.Catalog.Locality
import RowStore.Proofs.Database.Views

/-!
Two texts about different tables may change places.

Stores that hold the same under every name, in whatever order, answer alike and show the same
samples. Two statements about different tables lead to such stores in either order.
-/

namespace RowStore

open Database

/-- Measurements that hold the same, in whatever order. -/
structure Metrics.Alike (first second : Metrics) : Prop where
  version : first.version = second.version
  statements : first.statements.Alike second.statements
  latencies : first.latencies.Alike second.latencies
  tables : first.tables = second.tables
  rows : first.rows.Alike second.rows

structure Store.Alike (first second : Store) : Prop where
  catalog : first.catalog.Alike second.catalog
  metrics : first.metrics.Alike second.metrics

section Bump

variable {κ : Type} [DecidableEq κ] {first second : OrderedMap κ Nat}

theorem OrderedMap.Alike.bump (halike : first.Alike second) (key : κ) :
    (first.bump key).Alike (second.bump key) := by
  rw [OrderedMap.bump, OrderedMap.bump, halike key]
  exact halike.put key _

theorem OrderedMap.Alike.bump_bump (counts : OrderedMap κ Nat) (key other : κ) :
    ((counts.bump key).bump other).Alike ((counts.bump other).bump key) := by
  by_cases hne : key = other
  · subst hne
    exact .refl _
  · simp only [OrderedMap.bump, OrderedMap.get?_put, hne, Ne.symm hne, if_false]
    exact .put_comm counts hne _ _

end Bump

namespace Metrics.Alike

variable {first second third : Metrics} {catalog former latter : Catalog}

theorem refl (metrics : Metrics) : metrics.Alike metrics where
  version := rfl
  statements := .refl _
  latencies := .refl _
  tables := rfl
  rows := .refl _

theorem trans (hfirst : first.Alike second) (hsecond : second.Alike third) :
    first.Alike third where
  version := hfirst.version.trans hsecond.version
  statements := hfirst.statements.trans hsecond.statements
  latencies := hfirst.latencies.trans hsecond.latencies
  tables := hfirst.tables.trans hsecond.tables
  rows := hfirst.rows.trans hsecond.rows

theorem symm (halike : first.Alike second) : second.Alike first where
  version := halike.version.symm
  statements := halike.statements.symm
  latencies := halike.latencies.symm
  tables := halike.tables.symm
  rows := halike.rows.symm

theorem record (halike : first.Alike second) (kind : Option Statement.Kind) (status : Status) :
    (first.record kind status).Alike (second.record kind status) where
  version := halike.version
  statements := halike.statements.bump _
  latencies := halike.latencies.bump _
  tables := halike.tables
  rows := halike.rows

theorem record_record (metrics : Metrics) (kind other : Option Statement.Kind)
    (status otherStatus : Status) :
    ((metrics.record kind status).record other otherStatus).Alike
      ((metrics.record other otherStatus).record kind status) where
  version := rfl
  statements := .bump_bump _ _ _
  latencies := .bump_bump _ _ _
  tables := rfl
  rows := .refl _

theorem refresh (halike : first.Alike second) (hcatalog : former.Alike latter) :
    (first.refresh former).Alike (second.refresh latter) where
  version := halike.version
  statements := halike.statements
  latencies := halike.latencies
  tables := hcatalog.tableCount
  rows := fun name => by
    rw [get?_rows_refresh, get?_rows_refresh, hcatalog.table?, halike.rows name]

/-- What is refreshed in between leaves no trace, as no name that it set is gone afterwards. -/
theorem refresh_refresh (metrics : Metrics)
    (hkept : ∀ name, catalog.table? name = none → former.table? name = none) :
    ((metrics.refresh former).refresh catalog).Alike (metrics.refresh catalog) where
  version := rfl
  statements := .refl _
  latencies := .refl _
  tables := rfl
  rows := fun name => by
    rw [get?_rows_refresh, get?_rows_refresh, get?_rows_refresh]
    cases htable : catalog.table? name with
    | some table => rfl
    | none => rw [hkept name htable]; rfl

theorem samples (halike : first.Alike second) : first.samples = second.samples := by
  have hrows : first.rowSamples = second.rowSamples := by
    rw [rowSamples, rowSamples, sortByKey_eq_of_perm first.rows.nodup halike.rows.perm]
  have hlatencies : first.latencySamples = second.latencySamples := by
    simp only [latencySamples, halike.latencies _]
  have hstatements : first.statementSamples = second.statementSamples := by
    simp only [statementSamples, halike.statements _]
  rw [Metrics.samples, Metrics.samples, hrows, hlatencies, hstatements, infoSample, infoSample,
    halike.version, tableSample, tableSample, halike.tables]

end Metrics.Alike

namespace Store

variable {store first second third : Store} {statement other : Statement}

theorem Alike.refl (store : Store) : store.Alike store := ⟨.refl _, .refl _⟩

theorem Alike.trans (hfirst : first.Alike second) (hsecond : second.Alike third) :
    first.Alike third :=
  ⟨hfirst.catalog.trans hsecond.catalog, hfirst.metrics.trans hsecond.metrics⟩

theorem Alike.record (halike : first.Alike second) (kind : Option Statement.Kind)
    (status : Status) : (first.record kind status).Alike (second.record kind status) :=
  ⟨halike.catalog, halike.metrics.record kind status⟩

theorem Alike.reply_dispatch (halike : first.Alike second) (statement : Statement) :
    (first.dispatch statement).1 = (second.dispatch statement).1 :=
  halike.catalog.reply_step statement

theorem Alike.dispatch (halike : first.Alike second) (statement : Statement) :
    (first.dispatch statement).2.Alike (second.dispatch statement).2 := by
  have hreply := halike.reply_dispatch statement
  cases hfirst : (first.dispatch statement).1 with
  | error failure =>
      rwa [dispatch_of_error hfirst, dispatch_of_error (hreply.symm.trans hfirst)]
  | ok reply =>
      by_cases hkind : statement.kind = .select
      · rwa [dispatch_of_select hkind, dispatch_of_select hkind]
      · rw [dispatch_of_changed hfirst hkind,
          dispatch_of_changed (hreply.symm.trans hfirst) hkind]
        have hcatalog := halike.catalog.step statement
        exact ⟨hcatalog, halike.metrics.refresh hcatalog⟩

theorem Alike.answer (halike : first.Alike second) (text : String) :
    (first.answer text).1 = (second.answer text).1 ∧
      (first.answer text).2.Alike (second.answer text).2 := by
  cases hparse : Statement.parse text with
  | none =>
      simp only [Store.answer, hparse]
      exact ⟨trivial, halike⟩
  | some statement =>
      simp only [Store.answer, hparse, halike.reply_dispatch]
      exact ⟨trivial, halike.dispatch statement⟩

theorem dispatch_record (store : Store) (statement : Statement) (kind : Option Statement.Kind)
    (status : Status) :
    (store.record kind status).dispatch statement =
      ((store.dispatch statement).1, (store.dispatch statement).2.record kind status) := by
  refine Prod.ext rfl ?_
  simp only [dispatch, change, refresh, record]
  cases (store.catalog.step statement).1 with
  | error failure => rfl
  | ok reply => dsimp only; split <;> rfl

theorem dispatch_eq_or (store : Store) (statement : Statement) :
    (∀ other : Store, (other.dispatch statement).1 = (store.dispatch statement).1 →
      (other.dispatch statement).2 = other) ∨
    ∃ reply, (store.dispatch statement).1 = .ok reply ∧ statement.kind ≠ .select := by
  cases hreply : (store.dispatch statement).1 with
  | error failure => exact .inl fun other hother => dispatch_of_error hother
  | ok reply =>
      by_cases hkind : statement.kind = .select
      · exact .inl fun other _ => dispatch_of_select hkind
      · exact .inr ⟨reply, rfl, hkind⟩

theorem reply_dispatch_dispatch (hne : other.table ≠ statement.table) (store : Store) :
    ((store.dispatch statement).2.dispatch other).1 = (store.dispatch other).1 := by
  rw [reply_dispatch, catalog_dispatch, Catalog.reply_step_step hne]
  rfl

theorem alike_dispatch_dispatch (hne : statement.table ≠ other.table) (store : Store) :
    ((store.dispatch statement).2.dispatch other).2.Alike
      ((store.dispatch other).2.dispatch statement).2 := by
  have hother := reply_dispatch_dispatch hne.symm store
  have hstatement := reply_dispatch_dispatch hne store
  rcases dispatch_eq_or store statement with hidle | ⟨reply, hreply, hkind⟩
  · rw [hidle store rfl, hidle _ hstatement]
    exact .refl _
  rcases dispatch_eq_or store other with hidle | ⟨otherReply, hotherReply, hotherKind⟩
  · rw [hidle store rfl, hidle _ hother]
    exact .refl _
  rw [dispatch_of_changed (hother.trans hotherReply) hotherKind,
    dispatch_of_changed (hstatement.trans hreply) hkind]
  simp only [dispatch_of_changed hreply hkind, dispatch_of_changed hotherReply hotherKind]
  have hcatalog := Catalog.alike_step_step hne store.catalog
  have hfirst := Metrics.Alike.refresh_refresh store.metrics
    fun name => @Catalog.table?_eq_none_of_step (store.catalog.step statement).2 other name
  have hsecond := Metrics.Alike.refresh_refresh store.metrics
    fun name => @Catalog.table?_eq_none_of_step (store.catalog.step other).2 statement name
  exact ⟨hcatalog, hfirst.trans (((Metrics.Alike.refl store.metrics).refresh hcatalog).trans
    hsecond.symm)⟩

end Store

end RowStore
