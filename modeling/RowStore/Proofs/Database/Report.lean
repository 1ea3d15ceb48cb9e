import RowStore.Database.Crew
import RowStore.Proofs.Database.Verdict

namespace RowStore

open Database Journal

namespace Journal

/-- A line that the worker writes while it runs a text. -/
def line (text : String) (level : Level) (event : String) (values : List (String × Json)) :
    Entry :=
  { level := level
    event := event
    bindings :=
      .ofList (("statement", .string text) :: values ++ [("thread", .string "memdb_0")]) }

def executedLine (text : String) (kind : Statement.Kind) : Entry :=
  line text .debug "statement_executed" [("kind", .string kind.name)]

def Entry.fromWorker (entry : Entry) : Bool :=
  match entry.bindings.get? "thread" with
  | some (.string thread) => thread = "memdb_0"
  | _ => false

def Entry.tellsFailure (entry : Entry) : Bool :=
  entry.event = "statement_rejected" || entry.event = "statement_failed"

def Entry.tellsSuccess (entry : Entry) : Bool := entry.event = "statement_executed"

end Journal

def Catalog.after (origin : Catalog) (texts : List String) : Catalog :=
  (interpret.run origin texts).2

def Catalog.failures (origin : Catalog) (texts : List String) : Nat :=
  (interpret.run origin texts).1.countP fun outcome => outcome.status = .error

theorem Catalog.failures_append (origin : Catalog) (texts : List String) (text : String) :
    failures origin (texts ++ [text]) =
      failures origin texts +
        if (interpret (origin.after texts) text).1.status = .error then 1 else 0 := by
  rw [failures, Evaluator.run_append, List.countP_append]
  refine congrArg _ (List.countP_singleton.trans ?_)
  simp only [decide_eq_true_eq]
  rfl

namespace Trace

def Recorder.after (recorder : Recorder) (spans : List Span) : Recorder :=
  { recorder with
    next := recorder.next + spans.length
    finished := recorder.finished ++ spans }

@[simp] theorem Recorder.after_nil (recorder : Recorder) : recorder.after [] = recorder := by
  rw [after, List.append_nil]
  rfl

theorem Recorder.after_append (recorder : Recorder) (first second : List Span) :
    recorder.after (first ++ second) = (recorder.after first).after second := by
  simp [after, Nat.add_assoc]

def Span.ofOutcome? (id : Nat) (parent : Option Nat) (text : String) (outcome : Outcome) :
    Option Span :=
  (Statement.parse text).map fun statement =>
    let fault := outcome.failure?.map fun failure => ⟨failure.title, failure.message⟩
    { id := id
      parent := parent
      name := "memdb." ++ statement.kind.name
      attributes :=
        [("memdb.statement.kind", .string statement.kind.name), ("memdb.statement", .string text)]
      status := fault
      events := fault.toList }

/-- The spans of the texts that are statements, numbered in their order. -/
def spans (first : Nat) (parent : Option Nat) (origin : Catalog) (texts : List String) :
    List Span :=
  (((texts.zip (Catalog.interpret.run origin texts).1).filter fun told =>
    (Statement.parse told.1).isSome).zipIdx first).filterMap fun (told, id) =>
      Span.ofOutcome? id parent told.1 told.2

theorem length_spans (first : Nat) (parent : Option Nat) (origin : Catalog) (texts : List String) :
    (spans first parent origin texts).length =
      ((texts.zip (Catalog.interpret.run origin texts).1).filter fun told =>
        (Statement.parse told.1).isSome).length := by
  rw [spans, List.length_filterMap_eq_countP, List.countP_eq_length.mpr, List.length_zipIdx]
  rintro ⟨told, id⟩ htold
  have hparse := (List.mem_filter.mp (List.fst_mem_of_mem_zipIdx htold)).2
  simpa [Span.ofOutcome?] using hparse

theorem spans_append (first : Nat) (parent : Option Nat) (origin : Catalog) (texts : List String)
    (text : String) :
    spans first parent origin (texts ++ [text]) =
      spans first parent origin texts ++
        (Span.ofOutcome? (first + (spans first parent origin texts).length) parent text
          (Catalog.interpret (origin.after texts) text).1).toList := by
  rw [length_spans, spans, Evaluator.run_append, List.zip_append (Evaluator.length_run ..).symm,
    List.filter_append, List.zipIdx_append, List.filterMap_append]
  refine congrArg _ ?_
  cases hparse : Statement.parse text with
  | none => simp [Evaluator.run, Span.ofOutcome?, hparse]
  | some statement => simp [Evaluator.run, Span.ofOutcome?, hparse, Catalog.after]

end Trace

/-- The lines about a text that is run after earlier ones, by what it comes to. -/
inductive Journal.Block (origin : Catalog) (earlier : List String) (text : String) :
    Outcome → List Entry → Prop
  | rejected (hparse : Statement.parse text = none) :
      Block origin earlier text (.error (.malformed text))
        [line text .warning "statement_rejected" []]
  | failed {statement : Statement} (hparse : Statement.parse text = some statement) :
      Block origin earlier text (.error (.unknownTable statement.table (some text)))
        [line text .warning "statement_failed"
          [("kind", .string statement.kind.name),
            ("error", .string ("Unknown table: " ++ statement.table))]]
  | created {name definitions : String}
      (hparse : Statement.parse text = some (.createTable name definitions))
      (hnew : ¬ (name ∈ origin.names ∨ ∃ other ∈ earlier, Statement.Creates name other)) :
      Block origin earlier text (.ok none)
        [line text .debug "table_created"
            [("table", .string name),
              ("columns", .list ((Schema.ofText definitions).keys.map .string))],
          executedLine text .createTable]
  | replaced {name definitions : String}
      (hparse : Statement.parse text = some (.createTable name definitions))
      (hold : name ∈ origin.names ∨ ∃ other ∈ earlier, Statement.Creates name other) :
      Block origin earlier text (.ok none)
        [line text .debug "table_replaced"
            [("table", .string name),
              ("columns", .list ((Schema.ofText definitions).keys.map .string))],
          executedLine text .createTable]
  | inserted {name columns values : String}
      (hparse : Statement.parse text = some (.insert name columns values)) :
      Block origin earlier text (.ok none) [executedLine text .insert]
  | selected {columns name : String} {clause : Option String} {rows : List Row}
      (hparse : Statement.parse text = some (.select columns name clause)) :
      Block origin earlier text (.ok (some rows)) [executedLine text .select]
  | deleted {name : String} {clause : Option String} {table : Table}
      (hparse : Statement.parse text = some (.delete name clause))
      (htable : (origin.after earlier).table? name = some table) :
      Block origin earlier text (.ok none)
        [line text .debug "rows_deleted"
            [("table", .string name),
              ("removed", .int (table.rows.filter (strikes clause)).length)],
          executedLine text .delete]

/-- The lines about texts that are run one after another, block by block. -/
inductive Journal.Blocks (origin : Catalog) : List String → List Entry → Prop
  | nil : Blocks origin [] []
  | snoc {texts : List String} {text : String} {lines block : List Entry}
      (hlines : Blocks origin texts lines)
      (hblock : Block origin texts text (Catalog.interpret (origin.after texts) text).1 block) :
      Blocks origin (texts ++ [text]) (lines ++ block)

namespace Journal

variable {origin : Catalog} {earlier texts : List String} {text : String} {outcome : Outcome}
  {block lines : List Entry}

theorem Block.counts (hblock : Block origin earlier text outcome block) :
    block.countP Entry.tellsFailure = (if outcome.status = .error then 1 else 0) ∧
      block.countP Entry.tellsFailure + block.countP Entry.tellsSuccess = 1 := by
  cases hblock <;> exact ⟨rfl, rfl⟩

theorem Block.filter_fromWorker (hblock : Block origin earlier text outcome block) :
    block.filter Entry.fromWorker = block := by
  cases hblock <;> rfl

theorem Blocks.counts (hlines : Blocks origin texts lines) :
    lines.countP Entry.tellsFailure = Catalog.failures origin texts ∧
      lines.countP Entry.tellsFailure + lines.countP Entry.tellsSuccess = texts.length := by
  induction hlines with
  | nil => exact ⟨rfl, rfl⟩
  | snoc hlines hblock ih =>
      obtain ⟨hfailure, htold⟩ := hblock.counts
      simp only [List.countP_append, List.length_append, List.length_singleton,
        Catalog.failures_append]
      omega

def workerEntry (text : String) (event : Event) : Entry :=
  event.entry (Scope.enter { statement := text } .empty) .empty Site.workerThread

/-! What is written about a text is a block. -/

variable {statement : Statement}

theorem Block.of_rejected (hparse : Statement.parse text = none) :
    Block origin earlier text (.error (.malformed text))
      [workerEntry text Statement.rejectedEvent] :=
  .rejected hparse

theorem Block.of_failed {failure : Failure} (hparse : Statement.parse text = some statement)
    (hfailure : ((origin.after earlier).step statement).1 = .error failure) :
    Block origin earlier text (.error (failure.stamp text))
      [workerEntry text (Statement.failedEvent statement.kind failure)] := by
  obtain ⟨-, -, rfl⟩ := Catalog.step_error_iff.mp hfailure
  exact .failed hparse

theorem Block.of_executed {reply : Reply} (hparse : Statement.parse text = some statement)
    (hreply : ((origin.after earlier).step statement).1 = .ok reply) :
    Block origin earlier text (.ok reply.rows?)
      ((statement.changeEvents reply).map (workerEntry text) ++
        [workerEntry text (Statement.executedEvent statement.kind)]) := by
  rw [Catalog.reply_step] at hreply
  cases statement with
  | createTable name definitions =>
      obtain rfl := Except.ok.inj hreply
      by_cases hold : name ∈ origin.names ∨ ∃ other ∈ earlier, Statement.Creates name other
      · have hsome : ((origin.after earlier).table? name).isSome = true :=
          Catalog.mem_names_iff.mp (Catalog.mem_names_run_iff.mpr hold)
        simp only [Statement.table, hsome]
        exact .replaced hparse hold
      · have hnone : ((origin.after earlier).table? name).isSome = false := by
          rw [← Catalog.mem_names_run_iff, Catalog.mem_names_iff] at hold
          exact Bool.eq_false_iff.mpr hold
        simp only [Statement.table, hnone]
        exact .created hparse hold
  | insert name columns values =>
      cases htable : (origin.after earlier).table? name with
      | none => simp [Statement.table, htable, Statement.reply] at hreply
      | some table =>
          simp only [Statement.table, htable, Statement.reply, Except.ok.injEq] at hreply
          subst hreply
          exact .inserted hparse
  | select columns name clause =>
      cases htable : (origin.after earlier).table? name with
      | none => simp [Statement.table, htable, Statement.reply] at hreply
      | some table =>
          simp only [Statement.table, htable, Statement.reply, Except.ok.injEq] at hreply
          subst hreply
          exact .selected hparse
  | delete name clause =>
      cases htable : (origin.after earlier).table? name with
      | none => simp [Statement.table, htable, Statement.reply] at hreply
      | some table =>
          simp only [Statement.table, htable, Statement.reply, Except.ok.injEq,
            Table.erase_ofClause?, length_filter_strikes] at hreply
          subst hreply
          exact .deleted hparse htable

end Journal

end RowStore
