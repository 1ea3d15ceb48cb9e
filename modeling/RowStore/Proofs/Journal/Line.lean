import RowStore.Journal.Basic
import RowStore.Proofs.OrderedMap

namespace RowStore.Journal

theorem untimed_congr {line other : Bindings} (halike : line.Alike other) :
    untimed line = untimed other := by
  refine sortByKey_eq_of_perm (OrderedMap.nodup _) (OrderedMap.Alike.perm fun name => ?_)
  rw [OrderedMap.get?_filterKeys, OrderedMap.get?_filterKeys, halike name]

namespace Event

def value? (event : Event) (name : String) : Option Json := event.marked.get? name

variable (event : Event) (context logger : Bindings) (thread time name : String)

/-- The sources of a value, the first one that has it counts. -/
def source? : Option Json :=
  ((event.value? name).or (logger.get? name)).or (context.get? name)

theorem get?_carried :
    (event.carried context logger).get? name = event.source? context logger name := by
  rw [carried, OrderedMap.get?_putAll_eq_or, OrderedMap.get?_putAll_eq_or,
    OrderedMap.ofList_entries, OrderedMap.ofList_entries, ← Option.or_assoc]
  rfl

theorem report?_eq :
    event.report? context logger =
      if (event.source? context logger "exc_info").any Json.isTruthy then event.inFlight
      else none := by
  rw [report?, get?_carried]

/-- A line shows a value that nothing is written over. -/
theorem get?_line :
    (event.line context logger thread time).get? name =
      (if name = "exception" then (event.report? context logger).map .string else none).or
        (if name = "event" then some (.string event.name)
        else if name = "level" then some (.string event.level.name)
        else if name = "timestamp" then some (.string time)
        else if name = "exc_info" then none
        else (event.source? context logger name).or
          (if name = "thread" then some (.string thread) else none)) := by
  have hunmarked : ((((((event.carried context logger).put "event" (.string event.name)).put
      "level" (.string event.level.name)).putNew "thread" (.string thread)).put "timestamp"
      (.string time)).filterKeys fun name => name ≠ "exc_info").get? name =
        if name = "event" then some (.string event.name)
        else if name = "level" then some (.string event.level.name)
        else if name = "timestamp" then some (.string time)
        else if name = "exc_info" then none
        else (event.source? context logger name).or
          (if name = "thread" then some (.string thread) else none) := by
    rw [OrderedMap.get?_filterKeys, OrderedMap.get?_put, OrderedMap.get?_putNew,
      OrderedMap.get?_put, OrderedMap.get?_put, get?_carried]
    by_cases hevent : name = "event"
    · subst hevent
      rfl
    by_cases hlevel : name = "level"
    · subst hlevel
      rfl
    by_cases htime : name = "timestamp"
    · subst htime
      rfl
    by_cases hmark : name = "exc_info"
    · subst hmark
      rfl
    simp only [hevent, hlevel, htime, hmark, if_false, ne_eq, not_false_eq_true, decide_true,
      if_true]
  rw [line]
  cases event.report? context logger with
  | none => simpa using hunmarked
  | some report =>
      rw [OrderedMap.get?_put, hunmarked]
      by_cases hname : name = "exception" <;> simp [hname]

theorem get?_entry :
    (event.entry context logger thread).bindings.get? name =
      if name ∈ ownNames then none else (event.line context logger thread time).get? name := by
  rw [entry, OrderedMap.get?_filterKeys, get?_line, get?_line]
  by_cases hown : name ∈ ownNames
  · simp [hown]
  · have htime : name ≠ "timestamp" := fun h => hown (h ▸ by decide)
    simp [hown, htime]

theorem members_entry :
    (event.entry context logger thread).members =
      untimed (event.line context logger thread time) := by
  have hfree (name : String) (hown : name ∈ ownNames) :
      name ∉ (event.entry context logger thread).bindings.keys := by
    rw [← OrderedMap.isSome_get?_iff, get?_entry event context logger thread time, if_pos hown]
    exact Bool.false_ne_true
  have hnodup : ((("event", .string event.name) :: ("level", .string event.level.name) ::
      (event.entry context logger thread).bindings.entries).map Prod.fst).Nodup := by
    simp only [List.map_cons, List.nodup_cons, List.mem_cons, not_or]
    exact ⟨⟨by decide, hfree _ (by decide)⟩, hfree _ (by decide), OrderedMap.nodup _⟩
  refine sortByKey_eq_of_perm hnodup
    (perm_of_entryValue? hnodup (OrderedMap.nodup _) fun name => ?_)
  rw [entryValue?, entryValue?]
  change (if "event" = name then _ else if "level" = name then _ else
    (event.entry context logger thread).bindings.get? name) = OrderedMap.get? _ name
  rw [get?_entry event context logger thread time, OrderedMap.get?_filterKeys, get?_line]
  by_cases hevent : name = "event"
  · subst hevent
    rfl
  by_cases hlevel : name = "level"
  · subst hlevel
    rfl
  by_cases htime : name = "timestamp"
  · subst htime
    rfl
  simp [ownNames, hevent, hlevel, htime, Ne.symm hevent, Ne.symm hlevel]

/-- It counts what is bound in the context, and not in which order. -/
theorem members_entry_congr {context other : Bindings} (halike : context.Alike other) :
    (event.entry context logger thread).members = (event.entry other logger thread).members := by
  have hsource (name : String) :
      event.source? context logger name = event.source? other logger name := by
    rw [source?, source?, halike name]
  rw [members_entry event context logger thread "", members_entry event other logger thread ""]
  refine untimed_congr fun name => ?_
  rw [get?_line, get?_line, report?_eq, report?_eq, hsource, hsource]

end Event

end RowStore.Journal
