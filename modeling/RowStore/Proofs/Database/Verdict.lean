import RowStore.Proofs.Catalog.History
import RowStore.Proofs.Database.Paths

namespace RowStore

open Database

namespace Catalog

theorem step_error_iff {catalog : Catalog} {statement : Statement} {failure : Failure} :
    (catalog.step statement).1 = .error failure ↔
      statement.kind ≠ .createTable ∧ catalog.table? statement.table = none ∧
        failure = .unknownTable statement.table none := by
  rw [reply_step]
  cases statement with
  | createTable name definitions => simp [Statement.reply, Statement.kind]
  | insert name | select _ name | delete name =>
      cases htable : catalog.table? name <;>
        simp [Statement.reply, missing, Statement.kind, Statement.table, htable, eq_comm]

theorem table?_run_eq_none_iff {statements : List Statement} {name : String} :
    (empty.run statements).2.table? name = none ↔
      ∀ definitions, .createTable name definitions ∉ statements := by
  rw [← Option.not_isSome_iff_eq_none, isSome_table?_run]
  simp only [Statement.created?_eq_some_iff]
  constructor
  · intro hnone definitions hmem
    exact hnone (.inr ⟨_, hmem, definitions, rfl⟩)
  · rintro hnone (hempty | ⟨_, hmem, definitions, rfl⟩)
    · contradiction
    · exact hnone definitions hmem

/-- Texts that are no statements do not matter for the tables. -/
theorem catalog_run_interpret (catalog : Catalog) (texts : List String) :
    (interpret.run catalog texts).2 = (catalog.run (texts.filterMap Statement.parse)).2 := by
  induction texts generalizing catalog with
  | nil => rfl
  | cons text texts ih =>
      rw [Evaluator.run_cons, ih]
      cases hparse : Statement.parse text with
      | none => simp only [interpret, hparse, List.filterMap_cons]
      | some statement =>
          rw [interpret_of_parse hparse, List.filterMap_cons, hparse]
          rfl

theorem interpret_error_iff {catalog : Catalog} {text : String} {failure : Failure} :
    (interpret catalog text).1 = .error failure ↔
      (Statement.parse text = none ∧ failure = .malformed text) ∨
        ∃ statement, Statement.parse text = some statement ∧ statement.kind ≠ .createTable ∧
          catalog.table? statement.table = none ∧
          failure = .unknownTable statement.table (some text) := by
  cases hparse : Statement.parse text with
  | none => simp [interpret, hparse, eq_comm]
  | some statement =>
      simp only [reduceCtorEq, false_and, false_or, Option.some.injEq, exists_eq_left']
      rw [interpret_of_parse hparse]
      cases hreply : (catalog.step statement).1 with
      | ok reply =>
          constructor
          · intro hfailure
            contradiction
          · rintro ⟨hkind, hnone, -⟩
            rw [step_error_iff.mpr ⟨hkind, hnone, rfl⟩] at hreply
            contradiction
      | error missing =>
          obtain ⟨hkind, hnone, rfl⟩ := step_error_iff.mp hreply
          constructor
          · intro hfailure
            cases hfailure
            exact ⟨hkind, hnone, rfl⟩
          · rintro ⟨-, -, rfl⟩
            rfl

end Catalog

theorem Evaluator.getElem?_run {α : Type} (evaluate : Evaluator α) (catalog : Catalog)
    (inputs : List α) (index : Nat) :
    (evaluate.run catalog inputs).1[index]? =
      inputs[index]?.map fun input =>
        (evaluate (evaluate.run catalog (inputs.take index)).2 input).1 := by
  induction inputs generalizing catalog index with
  | nil => rfl
  | cons input inputs ih =>
      cases index with
      | zero => rfl
      | succ index => exact ih (evaluate catalog input).2 index

def Statement.Creates (name text : String) : Prop :=
  ∃ definitions, parse text = some (createTable name definitions)

theorem Catalog.mem_names_run_iff {origin : Catalog} {texts : List String} {name : String} :
    name ∈ (interpret.run origin texts).2.names ↔
      name ∈ origin.names ∨ ∃ text ∈ texts, Statement.Creates name text := by
  rw [catalog_run_interpret, mem_names_iff, mem_names_iff, isSome_table?_run]
  simp only [List.mem_filterMap, Statement.created?_eq_some_iff, Statement.Creates]
  constructor
  · rintro (hold | ⟨_, ⟨text, htext, hparse⟩, definitions, rfl⟩)
    · exact .inl hold
    · exact .inr ⟨text, htext, definitions, hparse⟩
  · rintro (hold | ⟨text, htext, definitions, hparse⟩)
    · exact .inl hold
    · exact .inr ⟨_, ⟨text, htext, hparse⟩, definitions, rfl⟩

/-- What a text comes to after earlier texts: the two ways to fail, and no other. -/
structure Outcome.Decided (earlier : List String) (text : String) (outcome : Outcome) : Prop where
  malformed_iff : outcome = .error (.malformed text) ↔ Statement.parse text = none
  unknownTable_iff : ∀ name, outcome = .error (.unknownTable name (some text)) ↔
    ∃ statement, Statement.parse text = some statement ∧ statement.kind ≠ .createTable ∧
      statement.table = name ∧ ∀ other ∈ earlier, ¬ Statement.Creates name other
  succeeds_or_fails : (∃ rows, outcome = .ok rows) ∨ ∃ failure, outcome = .error failure ∧
    failure.statement = some text ∧
    (failure = .malformed text ∧ failure.message = "Syntax error: " ++ text ∨
      ∃ name, failure = .unknownTable name (some text) ∧
        failure.message = "Unknown table: " ++ name)

theorem Statement.not_mem_parsed_iff {name : String} {texts : List String} :
    (∀ definitions, .createTable name definitions ∉ texts.filterMap parse) ↔
      ∀ other ∈ texts, ¬ Creates name other := by
  simp only [List.mem_filterMap, not_exists, not_and, Creates]
  exact ⟨fun h other hother definitions => h definitions other hother,
    fun h definitions other hother => h other hother definitions⟩

theorem Catalog.decided_interpret (earlier : List String) (text : String) :
    Outcome.Decided earlier text (interpret (interpret.run empty earlier).2 text).1 := by
  have hnone : ∀ name, (interpret.run empty earlier).2.table? name = none ↔
      ∀ other ∈ earlier, ¬ Statement.Creates name other := fun name => by
    rw [catalog_run_interpret, table?_run_eq_none_iff, Statement.not_mem_parsed_iff]
  constructor
  · simp [interpret_error_iff]
  · intro name
    simp only [interpret_error_iff, reduceCtorEq, and_false, false_or, Failure.unknownTable.injEq,
      and_true, hnone]
    constructor
    · rintro ⟨statement, hparse, hkind, htable, rfl⟩
      exact ⟨statement, hparse, hkind, rfl, htable⟩
    · rintro ⟨statement, hparse, hkind, rfl, htable⟩
      exact ⟨statement, hparse, hkind, htable, rfl⟩
  · cases houtcome : (interpret (interpret.run empty earlier).2 text).1 with
    | ok rows => exact .inl ⟨rows, rfl⟩
    | error failure =>
        right
        rcases interpret_error_iff.mp houtcome with ⟨-, rfl⟩ | ⟨statement, -, -, -, rfl⟩
        · exact ⟨_, rfl, rfl, .inl ⟨rfl, rfl⟩⟩
        · exact ⟨_, rfl, rfl, .inr ⟨_, rfl, rfl⟩⟩

theorem Catalog.decided_step (earlier : List Statement) (statement : Statement) :
    let reply := ((empty.run earlier).2.step statement).1
    (∀ name, reply = .error (.unknownTable name none) ↔
      statement.kind ≠ .createTable ∧ statement.table = name ∧
        ∀ definitions, .createTable name definitions ∉ earlier) ∧
      ((∃ result, reply = .ok result) ∨ ∃ name, reply = .error (.unknownTable name none)) := by
  intro reply
  constructor
  · intro name
    simp only [reply, step_error_iff, table?_run_eq_none_iff, Failure.unknownTable.injEq, and_true]
    constructor
    · rintro ⟨hkind, htable, rfl⟩
      exact ⟨hkind, rfl, htable⟩
    · rintro ⟨hkind, rfl, htable⟩
      exact ⟨hkind, htable, rfl⟩
  · cases hreply : reply with
    | ok result => exact .inl ⟨result, rfl⟩
    | error failure =>
        obtain ⟨-, -, rfl⟩ := step_error_iff.mp hreply
        exact .inr ⟨_, rfl⟩

namespace Host

theorem core_start_created {site : Site} {execution : Execution} {database : Database}
    (hcreate : Database.create execution = .ok database) :
    (Host.mk site database).start.2.core =
      { execution := execution
        started := true
        queue := []
        catalog := site.store.catalog
        settled := site.settled } := by
  obtain rfl := eq_of_create hcreate
  rfl

/-- A started database with one worker and no tables at first: whether and how a text fails is
decided by it and the texts before it, whichever way they are submitted; so is the failure of a
statement in a catalog, which does not tell the text. A text whose wait is interrupted fails with
what interrupts it, and decides nothing. -/
theorem failure_decided_by_history (site : Site) {delay : Binary64} {serialized : Bool}
    {database : Database}
    (hcreate : Database.create { delay := delay, workers := 1, serialized := serialized } =
      .ok database)
    (hnew : site.store.catalog = .empty) (submissions : List Submission)
    (statements : List Statement) :
    let execution : Execution := { delay := delay, workers := 1, serialized := serialized }
    let host := (Host.mk site database).start.2
    let outcomes := (host.performAll submissions).1
    (host.run (submissions.map .execute)).1 = outcomes.map Outcome.answer ∧
    (host.run (submissions.map .submit ++ [.collect])).1 =
      submissions.map (fun _ => .ok .done) ++ [.ok (.outcomes (site.settled ++ outcomes))] ∧
    (host.run [.executeMany submissions]).1 = [(Outcome.results outcomes).map .results] ∧
    (∀ (index : Nat) (submission : Submission), submissions[index]? = some submission →
      ∃ outcome : Outcome, outcomes[index]? = some outcome ∧
        match execution.fault? submission with
        | some fault => outcome = .error (.interrupted fault)
        | none =>
            outcome.Decided (execution.awaited (submissions.take index)) submission.text) ∧
    ∀ (index : Nat) (statement : Statement), statements[index]? = some statement →
      ∃ reply, (Catalog.empty.run statements).1[index]? = some reply ∧
        (∀ name, reply = .error (.unknownTable name none) ↔
          statement.kind ≠ .createTable ∧ statement.table = name ∧
            ∀ definitions, .createTable name definitions ∉ statements.take index) ∧
        ((∃ result, reply = .ok result) ∨ ∃ name, reply = .error (.unknownTable name none)) := by
  intro execution host outcomes
  have hcore : host.core = _ := core_start_created hcreate
  have hstarted : host.core.started = true := by rw [hcore]
  have hidle : host.core.queue = [] := by rw [hcore]
  have hsettled : host.core.settled = site.settled := by rw [hcore]
  have houtcomes : outcomes = (execution.evaluator.run .empty submissions).1 := by
    rw [show outcomes = _ from (host.performAll_eq submissions).1, hcore, hnew]
  have hexecute := (run_execute hstarted submissions).1
  rw [drain_of_idle hidle] at hexecute
  refine ⟨hexecute, ?_, run_executeMany hstarted hidle submissions, ?_, ?_⟩
  · rw [← hsettled]
    exact run_submit_collect hstarted hidle submissions
  · intro index submission hsubmission
    refine ⟨_, by rw [houtcomes, Evaluator.getElem?_run, hsubmission, Option.map_some], ?_⟩
    cases hfault : execution.fault? submission with
    | some fault => rw [Execution.evaluator_of_fault hfault]
    | none =>
        rw [Execution.evaluator_of_returned hfault, Execution.catalog_run_evaluator]
        exact Catalog.decided_interpret _ submission.text
  · intro index statement hstatement
    exact ⟨_, by rw [Catalog.getElem?_run, hstatement, Option.map_some],
      Catalog.decided_step _ statement⟩

/-- An insertion fails although its table is created later, and a deletion in between does not. -/
theorem failure_decided_by_later_creation :
    let texts : List Submission :=
      ["insert into t (a) values (1)", "create table t (a b)", "delete from t", "drop table t"]
    let statements : List Statement := [.delete "t" none, .createTable "t" "a b"]
    Database.create { delay := .zero, workers := 1, serialized := false } = .ok {} ∧
      (∃ outcome : Outcome,
        (({} : Host).start.2.performAll texts).1[0]? = some outcome ∧
          outcome.Decided [] texts[0].text ∧
          outcome = .error (.unknownTable "t" (some "insert into t (a) values (1)"))) ∧
      (∃ outcome : Outcome,
        (({} : Host).start.2.performAll texts).1[2]? = some outcome ∧
          outcome.Decided ((texts.take 2).map Submission.text) texts[2].text ∧ outcome = .ok none) ∧
      (Catalog.empty.run statements).1[0]? = some (.error (.unknownTable "t" none)) := by
  intro texts statements
  have hcreate : Database.create { delay := .zero, workers := 1, serialized := false } = .ok {} :=
    rfl
  obtain ⟨-, -, -, hdecided, hcatalog⟩ :=
    failure_decided_by_history {} hcreate rfl texts statements
  obtain ⟨first, hfirst, hearly⟩ := hdecided 0 texts[0] rfl
  obtain ⟨third, hthird, hlate⟩ := hdecided 2 texts[2] rfl
  obtain ⟨reply, hreply, hunknown, -⟩ := hcatalog 0 (.delete "t" none) rfl
  refine ⟨hcreate, ⟨first, hfirst, hearly, ?_⟩, ⟨third, hthird, hlate, ?_⟩, ?_⟩
  · have hparse : Statement.parse texts[0].text = some (.insert "t" "a" "1") := by decide +kernel
    exact (hearly.unknownTable_iff "t").mpr ⟨_, hparse, by decide, rfl, by simp⟩
  · exact Option.some.inj (hthird.symm.trans rfl)
  · rw [hreply, (hunknown "t").mpr ⟨by decide, rfl, by simp⟩]

/-- A creation whose wait is interrupted fails, in neither of the two ways. -/
theorem interrupted_wait_not_decided :
    let execution : Execution := { delay := Binary64.ofDecimal false 1 10 }
    let text := "create table t (a b)"
    let fault : Fault :=
      { title := "OverflowError"
        message := "timestamp too large to convert to C _PyTime_t" }
    let submission : Submission := { text := text, fault := some fault }
    Database.create execution = .ok { execution := execution } ∧
      let host := (Host.mk {} { execution := execution }).start.2
      (host.run [.execute submission]).1 = [.error (.failed (.interrupted fault))] ∧
        ∃ outcome : Outcome, (host.performAll [submission]).1[0]? = some outcome ∧
          ¬ outcome.Decided [] text := by
  intro execution text fault submission
  refine ⟨rfl, rfl, .error (.interrupted fault), rfl, fun hdecided => ?_⟩
  rcases hdecided.succeeds_or_fails with ⟨rows, hrows⟩ | ⟨failure, hfailure, hstatement, -⟩
  · contradiction
  · cases hfailure
    contradiction

end Host

end RowStore
