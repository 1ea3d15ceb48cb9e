import RowStore.Proofs.Catalog.Step

/-!
Tables do not interfere.

A statement sees and changes its own table only. So a part of the catalog can be watched by itself,
and two statements about different tables come to the same in either order; only the order of the
tables tells which came first, and only if both are new.
-/

namespace RowStore

namespace Catalog

variable {catalog first second : Catalog} {chosen : String → Bool} {statement other : Statement}

def within (catalog : Catalog) (chosen : String → Bool) : Catalog :=
  ⟨catalog.tables.filterKeys chosen⟩

theorem table?_within (catalog : Catalog) (chosen : String → Bool) (name : String) :
    (catalog.within chosen).table? name = if chosen name then catalog.table? name else none :=
  OrderedMap.get?_filterKeys ..

theorem within_put (catalog : Catalog) (chosen : String → Bool) (name : String) (table : Table) :
    (catalog.put name table).within chosen =
      if chosen name then (catalog.within chosen).put name table else catalog.within chosen := by
  rw [within, put, OrderedMap.filterKeys_put]
  split <;> rfl

/-- A statement about a chosen table needs the chosen tables only. -/
theorem step_within (hchosen : chosen statement.table = true) (catalog : Catalog) :
    (catalog.within chosen).step statement =
      ((catalog.step statement).1, (catalog.step statement).2.within chosen) := by
  have htable : (catalog.within chosen).table? statement.table =
      catalog.table? statement.table := by
    rw [table?_within, if_pos hchosen]
  rw [step_eq, step_eq, htable]
  cases statement.effect (catalog.table? statement.table) with
  | none => rfl
  | some table => rw [Option.elim_some, Option.elim_some, within_put, if_pos hchosen]

theorem within_step_of_other (hother : chosen statement.table = false) (catalog : Catalog) :
    (catalog.step statement).2.within chosen = catalog.within chosen := by
  rw [step_eq]
  cases statement.effect (catalog.table? statement.table) with
  | none => rfl
  | some table => rw [Option.elim_some, within_put, hother, if_neg Bool.false_ne_true]

/-! Catalogs that hold the same tables, in whatever order. -/

abbrev Alike (first second : Catalog) : Prop := first.tables.Alike second.tables

theorem Alike.table? (halike : first.Alike second) (name : String) :
    first.table? name = second.table? name := halike name

theorem Alike.reply_step (halike : first.Alike second) (statement : Statement) :
    (first.step statement).1 = (second.step statement).1 := by
  rw [Catalog.reply_step, Catalog.reply_step, halike.table?]

theorem Alike.step (halike : first.Alike second) (statement : Statement) :
    (first.step statement).2.Alike (second.step statement).2 := fun name => by
  change (first.step statement).2.table? name = (second.step statement).2.table? name
  rw [table?_step, table?_step, halike.table?]

theorem Alike.tableCount (halike : first.Alike second) : first.tableCount = second.tableCount :=
  halike.perm.length_eq

theorem Alike.snapshot_eq (halike : first.Alike second) (hnames : first.names = second.names) :
    first.snapshot = second.snapshot := by
  rw [snapshot, snapshot, halike.eq_of_keys hnames]

/-! Two statements about different tables. -/

theorem reply_step_step (hne : other.table ≠ statement.table) (catalog : Catalog) :
    ((catalog.step statement).2.step other).1 = (catalog.step other).1 := by
  rw [reply_step, reply_step, table?_step, if_neg hne]

theorem alike_step_step (hne : statement.table ≠ other.table) (catalog : Catalog) :
    ((catalog.step statement).2.step other).2.Alike
      ((catalog.step other).2.step statement).2 := fun name => by
  change ((catalog.step statement).2.step other).2.table? name =
    ((catalog.step other).2.step statement).2.table? name
  simp only [table?_step]
  by_cases hname : name = statement.table
  · rw [if_pos hname, if_pos hname, if_neg (hname ▸ hne), if_neg (hname ▸ hne)]
  · rw [if_neg hname, if_neg hname]

theorem names_step_congr (hnames : first.names = second.names) (statement : Statement) :
    (first.step statement).2.names = (second.step statement).2.names := by
  rw [names_step, names_step, hnames]

theorem mem_names_step {name : String} (hmem : name ∈ catalog.names) (statement : Statement) :
    name ∈ (catalog.step statement).2.names := by
  rw [names_step]
  split
  · exact hmem
  · split
    · exact hmem
    · exact List.mem_append_left _ hmem

def IsNew (catalog : Catalog) (statement : Statement) : Prop :=
  ∃ name definitions, statement = .createTable name definitions ∧ name ∉ catalog.names

theorem names_step_of_not_isNew (hnew : ¬ catalog.IsNew statement) :
    (catalog.step statement).2.names = catalog.names := by
  rw [names_step]
  split
  next => rfl
  next name hcreated =>
    obtain ⟨definitions, rfl⟩ := Statement.created?_eq_some_iff.mp hcreated
    refine if_pos ?_
    by_contra hmem
    exact hnew ⟨name, definitions, rfl, hmem⟩

theorem not_isNew_step (hnew : ¬ catalog.IsNew statement) (other : Statement) :
    ¬ (catalog.step other).2.IsNew statement := by
  rintro ⟨name, definitions, rfl, hmem⟩
  exact hnew ⟨name, definitions, rfl, fun hold => hmem (mem_names_step hold other)⟩

theorem names_step_step (hnew : ¬ (catalog.IsNew statement ∧ catalog.IsNew other)) :
    ((catalog.step statement).2.step other).2.names =
      ((catalog.step other).2.step statement).2.names := by
  by_cases hstatement : catalog.IsNew statement
  · have hother : ¬ catalog.IsNew other := fun h => hnew ⟨hstatement, h⟩
    rw [names_step_of_not_isNew (not_isNew_step hother statement),
      names_step_congr (names_step_of_not_isNew hother)]
  · rw [names_step_of_not_isNew (not_isNew_step hstatement other),
      names_step_congr (names_step_of_not_isNew hstatement)]

end Catalog

end RowStore
