import RowStore.Journal.Emission
import RowStore.Proofs.Journal.Line
import RowStore.Proofs.Journal.Scope
import RowStore.Proofs.Results

namespace RowStore.Journal

variable {κ ε α : Type}

namespace Kit

/-- The kit with which each entry is written as one object. -/
def ofObjects (kit : Kit κ ε α) : Kit κ ε (List (String × Json)) :=
  { event? := kit.event?
    bind := kit.bind
    enter := kit.enter
    call := kit.call
    write := fun entry => .ok [entry.members] }

/-- A kit refuses neither the values of a logger, nor a scope, nor a call. -/
structure Accepts (kit : Kit κ ε α) (values : List (String × Json)) (scopes : List Scope)
    (calls : List κ) : Prop where
  bind : kit.bind values = .ok ()
  enter : ∀ scope ∈ scopes, kit.enter scope = .ok ()
  call : ∀ call ∈ calls, kit.call call = .ok ()

end Kit

/-- The lines of events that are emitted in one context: those of the events that pass. -/
def Logger.linesIn (logger : Logger) (events : List Event) (context : Bindings) :
    List (List (String × Json)) :=
  (events.filter (·.passes logger.threshold)).map fun event =>
    (event.entry context (.ofList logger.values) logger.thread).members

namespace Act

def Accepted (kit : Kit κ ε α) : Act κ → Prop
  | .enter scope => kit.enter scope = .ok ()
  | .call made _ => kit.call made = .ok ()

def lines (kit : Kit κ ε α) (logger : Logger) : Act κ → List (List (String × Json))
  | .enter _ => []
  | .call made context => logger.linesIn (kit.event? made).toList context

end Act

section Running

variable {kit : Kit κ ε α} {logger : Logger}

theorem emit_ofObjects (event : Event) (context : Bindings) :
    logger.emit kit.ofObjects event context = .ok (logger.linesIn [event] context) := by
  cases hpasses : event.passes logger.threshold <;>
    simp [Logger.emit, Logger.linesIn, hpasses, Kit.ofObjects]

theorem perform_eq_ok_iff {act : Act κ} {written : List (List (String × Json))} :
    logger.perform kit.ofObjects act = .ok written ↔
      act.Accepted kit ∧ written = act.lines kit logger := by
  have hok (lines : List (List (String × Json))) :
      (Except.ok lines : Except ε _) = .ok written ↔ written = lines :=
    ⟨fun h => (Except.ok.inj h).symm, fun h => congrArg _ h.symm⟩
  cases act with
  | enter scope =>
      refine map_eq_ok_iff.trans ⟨?_, ?_⟩
      · rintro ⟨⟨⟩, haccepted, rfl⟩
        exact ⟨haccepted, rfl⟩
      · rintro ⟨haccepted, rfl⟩
        exact ⟨(), haccepted, rfl⟩
  | call made context =>
      rw [Logger.perform, then_eq_ok_iff]
      refine and_congr_right' ?_
      rw [Act.lines, show kit.ofObjects.event? made = kit.event? made from rfl]
      cases kit.event? made with
      | none => exact hok []
      | some event =>
          simp only [emit_ofObjects]
          exact hok _

theorem accepted_acts_iff (calls : List κ) (scopes : List Scope) (context : Bindings) :
    (∀ act ∈ (acts calls scopes context).1, act.Accepted kit) ↔
      (∀ call ∈ calls, kit.call call = .ok ()) ∧ ∀ scope ∈ scopes, kit.enter scope = .ok () := by
  have hcalls (context : Bindings) :
      (∀ act ∈ calls.map fun call => Act.call call context, act.Accepted kit) ↔
        ∀ call ∈ calls, kit.call call = .ok () :=
    List.forall_mem_map
  induction scopes generalizing context with
  | nil => simp only [acts, hcalls, List.not_mem_nil, false_imp_iff, implies_true, and_true]
  | cons scope scopes ih =>
      have hscope : (Act.enter scope : Act κ).Accepted kit ↔ kit.enter scope = .ok () := Iff.rfl
      simp only [acts, List.forall_mem_append, List.forall_mem_cons, hcalls, hscope, ih]
      constructor
      · rintro ⟨⟨hcall, hscope, -, hscopes⟩, -⟩
        exact ⟨hcall, hscope, hscopes⟩
      · rintro ⟨hcall, hscope, hscopes⟩
        exact ⟨⟨hcall, hscope, hcall, hscopes⟩, hcall⟩

theorem run_eq_ok_iff {scopes : List Scope} {calls : List κ}
    {written : List (List (String × Json))} :
    logger.run kit.ofObjects scopes calls = .ok written ↔
      kit.Accepts logger.values scopes calls ∧
        written = (acts calls scopes .empty).1.flatMap fun act => act.lines kit logger := by
  rw [Logger.run, then_eq_ok_iff, bind_eq_ok_iff, List.flatMap_def]
  constructor
  · rintro ⟨hbind, lines, hlines, hwritten⟩
    obtain ⟨hacts, rfl⟩ := (mapM_eq_ok_iff fun _ _ _ => perform_eq_ok_iff).mp hlines
    obtain ⟨hcall, henter⟩ := (accepted_acts_iff calls scopes .empty).mp hacts
    exact ⟨⟨hbind, henter, hcall⟩, (Except.ok.inj hwritten).symm⟩
  · rintro ⟨⟨hbind, henter, hcall⟩, rfl⟩
    have hacts := (accepted_acts_iff calls scopes .empty).mpr ⟨hcall, henter⟩
    exact ⟨hbind, _, (mapM_eq_ok_iff fun _ _ _ => perform_eq_ok_iff).mpr ⟨hacts, rfl⟩, rfl⟩

theorem flatMap_lines_madeIn (calls : List κ) (context : Bindings) :
    ((madeIn calls context).flatMap fun made =>
        logger.linesIn (kit.event? made.1).toList made.2) =
      logger.linesIn (calls.filterMap kit.event?) context := by
  rw [madeIn, List.flatMap_map, List.filterMap_eq_flatMap_toList, Logger.linesIn,
    List.filter_flatMap, List.map_flatMap]
  rfl

theorem flatMap_lines_acts {calls : List κ} {contexts : List Bindings} {performed : List (Act κ)}
    (hmade : made performed = contexts.flatMap (madeIn calls)) :
    (performed.flatMap fun act => act.lines kit logger) =
      (contexts.map (logger.linesIn (calls.filterMap kit.event?))).flatten := by
  have hlines : (performed.flatMap fun act => act.lines kit logger) =
      (made performed).flatMap fun made => logger.linesIn (kit.event? made.1).toList made.2 := by
    rw [made, List.filterMap_eq_flatMap_toList, List.flatMap_assoc]
    refine List.flatMap_congr fun act _ => ?_
    cases act <;> simp [Act.lines, Act.call?]
  rw [hlines, hmade, List.flatMap_assoc, ← List.flatMap_def]
  exact List.flatMap_congr fun context _ => flatMap_lines_madeIn calls context

theorem map_linesIn_of_alike {events : List Event} {first second : List Bindings}
    (halike : List.Forall₂ OrderedMap.Alike first second) :
    first.map (logger.linesIn events) = second.map (logger.linesIn events) := by
  induction halike with
  | nil => rfl
  | cons halike _ ih =>
      rw [List.map_cons, List.map_cons, ih, Logger.linesIn, Logger.linesIn]
      congr 2
      funext event
      exact event.members_entry_congr _ _ halike

end Running

/-- Calls in nested scopes, each of them made on the way in and on the way out. Unless one is
refused, they write their events in blocks that read the same in both directions, as the contexts on
the way out bind what those at the same depth on the way in do. On a line a value comes from the
event, else from the logger, else from the innermost scope that binds it; what the line says of
itself and the report of a fault in flight are written over it. -/
theorem nested_lines (kit : Kit κ ε α) (logger : Logger) (scopes : List Scope) (calls : List κ) :
    let events := calls.filterMap kit.event?
    let context (depth : Nat) := entered .empty (scopes.take depth)
    let block (depth : Nat) := (events.filter (·.passes logger.threshold)).map fun event =>
      (event.entry (context depth) (.ofList logger.values) logger.thread).members
    let outer := (List.range scopes.length).map block
    (∀ written, logger.run kit.ofObjects scopes calls = .ok written ↔
      kit.Accepts logger.values scopes calls ∧
        written = (outer ++ block scopes.length :: outer.reverse).flatten) ∧
    (∃ outward, made (acts calls scopes .empty).1 =
        (((List.range (scopes.length + 1)).map context) ++ outward).flatMap (madeIn calls) ∧
      List.Forall₂ OrderedMap.Alike outward ((List.range scopes.length).map context).reverse ∧
      (acts calls scopes .empty).2.Alike .empty) ∧
    ∀ (event : Event) (depth : Nat) (time : String),
      let line := event.line (context depth) (.ofList logger.values) logger.thread time
      let source? (name : String) :=
        ((event.value? name).or ((OrderedMap.ofList logger.values).get? name)).or
          ((scopes.take depth).reverse.findSome? fun scope => scope.value? name)
      let report? := if (source? "exc_info").any Json.isTruthy then event.inFlight else none
      (event.entry (context depth) (.ofList logger.values) logger.thread).members =
          untimed line ∧
        ∀ name, line.get? name =
          (if name = "exception" then report?.map .string else none).or
            (if name = "event" then some (.string event.name)
            else if name = "level" then some (.string event.level.name)
            else if name = "timestamp" then some (.string time)
            else if name = "exc_info" then none
            else (source? name).or
              (if name = "thread" then some (.string logger.thread) else none)) := by
  intro events context block outer
  obtain ⟨hafter, outward, halike, hmade⟩ := exists_outward calls scopes .empty
  have hinnermost : context scopes.length = entered .empty scopes :=
    congrArg (entered .empty) List.take_length
  have houter : (Journal.outer .empty scopes).map (logger.linesIn events) = outer := List.map_map
  refine ⟨fun written => ?_, ⟨outward, ?_, halike, hafter⟩, fun event depth time => ?_⟩
  · have hblocks : (Journal.outer .empty scopes ++ entered .empty scopes :: outward).map
        (logger.linesIn events) = outer ++ block scopes.length :: outer.reverse := by
      rw [List.map_append, List.map_cons, map_linesIn_of_alike halike, List.map_reverse, houter,
        ← hinnermost]
      rfl
    rw [run_eq_ok_iff, flatMap_lines_acts hmade, hblocks]
  · rw [hmade, List.range_succ, List.map_append, List.append_assoc, List.map_singleton,
      hinnermost]
    rfl
  · have hsource (name : String) :
        event.source? (context depth) (.ofList logger.values) name =
          ((event.value? name).or ((OrderedMap.ofList logger.values).get? name)).or
            ((scopes.take depth).reverse.findSome? fun scope => scope.value? name) := by
      rw [Event.source?, get?_entered, OrderedMap.get?_empty, Option.or_none]
    refine ⟨event.members_entry .., fun name => ?_⟩
    rw [Event.get?_line, Event.report?_eq, hsource, hsource]

/-- An event that asks for the fault in flight does not keep its mark, nor its own exception. -/
theorem line_of_report :
    let event : Event :=
      { level := .error, name := "e", inFlight := some "report"
        values := [("exc_info", .bool true), ("exception", .string "own")] }
    let line := event.line .empty .empty "MainThread" ""
    event.value? "exc_info" = some (.bool true) ∧ line.get? "exc_info" = none ∧
      event.value? "exception" = some (.string "own") ∧
      line.get? "exception" = some (.string "report") :=
  ⟨rfl, rfl, rfl, rfl⟩

end RowStore.Journal
