import RowStore.Proofs.Database.Lifecycle
import RowStore.Proofs.Database.Retrieval
import RowStore.Proofs.Schema

namespace RowStore

open Database

namespace Statement

def creation (name : String) (definitions : List (String × Option String)) : Statement :=
  .createTable name (Text.joinItems (definitions.map Schema.written))

theorem parse_render_creation {name : String} (hname : IsName name)
    {definitions : List (String × Option String)} (hdefinitions : definitions ≠ [])
    (hwords : ∀ definition ∈ definitions, Schema.IsDefinition definition) :
    parse (creation name definitions).render = some (creation name definitions) := by
  refine parse_render_createTable hname ?_
  refine isOperand_joinItems (by simpa using hdefinitions) fun item hitem => ?_
  obtain ⟨definition, hdefinition, rfl⟩ := List.mem_map.mp hitem
  have hword := hwords definition hdefinition
  exact ⟨hword.written_ne_empty, hword.not_mem_written (by decide) (by decide)⟩

end Statement

namespace Host

variable {host : Host}

theorem step_execute_render (hstarted : host.core.started = true) {statement : Statement}
    (hread : Statement.parse statement.render = some statement) :
    let stepped := host.drain.core.catalog.step statement
    (host.step (.execute statement.render)).1 =
        (Outcome.ofReply statement.render stepped.1).answer ∧
      (host.step (.execute statement.render)).2.core.catalog = stepped.2 := by
  intro stepped
  have hall : ∀ other ∈ [statement], Statement.parse other.render = some other := by
    simpa using hread
  obtain ⟨hanswers, hcatalog⟩ := run_execute_render hstarted hall (List.cons_ne_nil _ _)
  exact ⟨List.singleton_inj.mp hanswers, hcatalog⟩

/-- A creation that is written with some columns and tags. A started database runs it behind what
was submitted before, and it leaves a table of these columns and tags without rows, and all others
as they are; where it would wait without end it fails. A stopped database refuses it. Whatever text
a table is created with, no column of it has a blank in it, and each stands where it is first
defined, with the tag that it is last defined with. -/
theorem execute_creation :
    (∀ (host : Host) (name : String) (definitions : List (String × Option String)),
      Statement.IsName name → definitions ≠ [] → (definitions.map Prod.fst).Nodup →
      (∀ definition ∈ definitions, Schema.IsDefinition definition) →
      let text := "create table " ++ name ++ " (" ++
        Text.joinItems (definitions.map Schema.written) ++ ")"
      let answer := (host.step (.execute text)).1
      let next := (host.step (.execute text)).2
      (host.database.started = true →
        answer = .ok (.result none) ∧
        ∃ table, table.columns.entries = definitions ∧ table.rows = [] ∧
          ∀ other, next.site.store.catalog.table? other =
            if other = name then some table else host.drain.site.store.catalog.table? other) ∧
      (host.database.started = false →
        host.step (.execute text) = (.error (.refused .notStarted), host))) ∧
    ∀ (catalog : Catalog) (name text : String),
      ∃ columns, (catalog.step (.createTable name text)).2.table? name = some ⟨columns, []⟩ ∧
        columns.keys.Nodup ∧
        (∀ column ∈ columns.keys, ∀ c ∈ column.toList, Text.isBlank c = false) ∧
        columns.keys =
          ((Text.items text).map fun definition => (Schema.define definition).1).eraseDups ∧
        ∀ before definition after, Text.items text = before ++ definition :: after →
          (∀ later ∈ after, (Schema.define later).1 ≠ (Schema.define definition).1) →
          columns.get? (Schema.define definition).1 = some (Schema.define definition).2 := by
  refine ⟨fun host name definitions hname hdefinitions hdistinct hwords => ?_,
    fun catalog name text => ?_⟩
  · intro text answer next
    have hread := Statement.parse_render_creation hname hdefinitions hwords
    refine ⟨fun hstarted => ?_, fun hstopped => ?_⟩
    · obtain ⟨hanswer, hcatalog⟩ := step_execute_render hstarted hread
      refine ⟨hanswer, Table.create (Text.joinItems (definitions.map Schema.written)),
        Schema.entries_written hdefinitions hwords hdistinct, rfl, fun other => ?_⟩
      exact (congrArg (Catalog.table? · other) hcatalog).trans (Catalog.table?_put ..)
    · exact ((step_while_stopped hstopped).2.1 text).1
  · refine ⟨Schema.ofText text, ?_, (Schema.ofText text).nodup,
      fun _ => Schema.not_blank_of_mem_keys, Schema.keys_ofText text,
      fun _ _ _ => Schema.get?_ofText⟩
    rw [Catalog.table?_step, Statement.table, if_pos rfl]
    rfl

/-- Commas, a bracket and a definition that is still queued. A column without a tag may end in a
comma. -/
theorem execute_creation_of_commas :
    let host := (({} : Host).run [.start, .submit "create table t (a)"]).2
    let definitions := [("a,b", some ",,"), ("c,", none), ("d)", some "(e")]
    let stepped := host.step (.execute "create table t (a,b ,,, c,, d) (e)")
    host.site.store.catalog.table? "t" = none ∧
      stepped.1 = .ok (.result none) ∧
      ∃ table, stepped.2.site.store.catalog.table? "t" = some table ∧
        table.columns.entries = definitions ∧ table.rows = [] := by
  intro host definitions stepped
  have hwords : ∀ definition ∈ definitions, Schema.IsDefinition definition := by decide +kernel
  have htext : "create table " ++ "t" ++ " (" ++
      Text.joinItems (definitions.map Schema.written) ++ ")" =
        "create table t (a,b ,,, c,, d) (e)" := by decide +kernel
  have hcreation := execute_creation.1 host "t" definitions ⟨by decide, by simp⟩ (by decide)
    (by decide) hwords
  rw [htext] at hcreation
  obtain ⟨hanswer, table, hcolumns, hrows, htables⟩ := hcreation.1 rfl
  have hnone : host.site.store.catalog.table? "t" = none := by decide +kernel
  exact ⟨hnone, hanswer, table, (htables "t").trans (if_pos rfl), hcolumns, hrows⟩

/-- A stopped database creates nothing. -/
theorem creation_refused_while_stopped :
    let text := "create table t (" ++ Text.joinItems ([("a", some "b")].map Schema.written) ++ ")"
    let stepped := ({} : Host).step (.execute text)
    Schema.IsDefinition ("a", some "b") ∧ Database.create {} = .ok {} ∧
      stepped.1 = .error (.refused .notStarted) ∧ stepped.2.site.store.catalog.table? "t" = none :=
  ⟨by decide, rfl, rfl, rfl⟩

end Host

end RowStore
