import RowStore.Metrics.Exposure
import RowStore.Proofs.Database.Advance

/-!
Which sets of measurements a process registers, and which of them counts a statement.

The registries are told from the actions and their answers alone: a set-up that succeeds registers a
set, and so does the first use of the measurements if nothing is registered by then. While no set is
current, none is in the common registry, so a use never meets an occupied registry.
-/

namespace RowStore

open Database

structure Metrics.CountsOnce (before after : Metrics) (kind : Option Statement.Kind)
    (status : Status) : Prop where
  version : after.version = before.version
  counted : ∀ other otherStatus, after.counted other otherStatus =
    before.counted other otherStatus + if (other, otherStatus) = (kind, status) then 1 else 0
  observed : ∀ other, after.observed other =
    before.observed other + if other = kind then 1 else 0

theorem Metrics.countsOnce_record (metrics : Metrics) (kind : Option Statement.Kind)
    (status : Status) : metrics.CountsOnce (metrics.record kind status) kind status where
  version := rfl
  counted := fun _ _ => counted_record ..
  observed := fun _ => observed_record ..

theorem Store.countsOnce_answer (store : Store) (text : String) (kind : Option Statement.Kind)
    (status : Status) :
    store.metrics.CountsOnce ((store.answer text).2.record kind status).metrics kind status := by
  have hgauges : ∃ tables rows, (store.answer text).2.metrics =
      { store.metrics with tables := tables, rows := rows } := by
    cases hparse : Statement.parse text with
    | none =>
        simp only [answer, hparse]
        exact ⟨_, _, rfl⟩
    | some statement =>
        simp only [answer, hparse, dispatch, change, refresh]
        split
        · exact ⟨_, _, rfl⟩
        · split
          · exact ⟨_, _, rfl⟩
          · exact ⟨_, _, rfl⟩
  obtain ⟨tables, rows, hmetrics⟩ := hgauges
  have hcounts := (store.answer text).2.metrics.countsOnce_record kind status
  rw [hmetrics] at hcounts
  rw [record, hmetrics]
  exact ⟨hcounts.version, hcounts.counted, hcounts.observed⟩

namespace Exposure

variable {exposure : Exposure} {registry other : Registry}

@[simp] theorem metrics?_setMetrics (exposure : Exposure) (registry other : Registry)
    (metrics : Metrics) :
    (exposure.setMetrics registry metrics).metrics? other =
      if other = registry then some metrics else exposure.metrics? other := by
  cases registry <;> cases other <;> rfl

@[simp] theorem current_setMetrics (exposure : Exposure) (registry : Registry)
    (metrics : Metrics) : (exposure.setMetrics registry metrics).current = exposure.current := by
  cases registry <;> rfl

@[simp] theorem served_setMetrics (exposure : Exposure) (registry : Registry)
    (metrics : Metrics) : (exposure.setMetrics registry metrics).served = exposure.served := by
  cases registry <;> rfl

/-! What each action does. -/

theorem step_setUp_of_held {metrics : Metrics} (hheld : exposure.metrics? registry = some metrics)
    (port : Int) : exposure.step (.setUp registry port) = (.error .occupied, exposure) := by
  simp [step, setUp, register, hheld, Except.map]

theorem step_setUp_of_free (hfree : exposure.metrics? registry = none) (port : Int) :
    exposure.step (.setUp registry port) =
      (.ok (.metrics registry),
        { exposure.setMetrics registry { version := some Service.version } with
          current := some registry
          served := exposure.served ++ [(port, registry)] }) := by
  simp [step, setUp, register, hfree, Except.map]

/-- An exposure with a set that is current: a bare one in the common registry, if none was. -/
def ready (exposure : Exposure) : Exposure :=
  match exposure.current with
  | some _ => exposure
  | none => { exposure with common := some .empty, current := some .common }

theorem ready_of_some (hcurrent : exposure.current = some registry) :
    exposure.ready = exposure := by
  simp only [ready, hcurrent]

theorem ready_of_none (hcurrent : exposure.current = none) :
    exposure.ready = { exposure with common := some .empty, current := some .common } := by
  simp only [ready, hcurrent]

theorem current_ready (exposure : Exposure) :
    exposure.ready.current = some (exposure.current.getD .common) := by
  cases hcurrent : exposure.current with
  | some registry => rw [ready_of_some hcurrent, hcurrent, Option.getD_some]
  | none => rw [ready_of_none hcurrent, Option.getD_none]

theorem served_ready (exposure : Exposure) : exposure.ready.served = exposure.served := by
  cases hcurrent : exposure.current with
  | some registry => rw [ready_of_some hcurrent]
  | none => rw [ready_of_none hcurrent]

/-- While nothing is current, nothing is in the common registry. -/
def Sound (exposure : Exposure) : Prop :=
  exposure.current = none → exposure.common = none

theorem metrics?_ready_current (hsound : exposure.Sound)
    (hcurrent : exposure.current.getD .common = registry) :
    (exposure.ready.metrics? registry).getD .empty =
      (exposure.metrics? registry).getD .empty := by
  subst hcurrent
  cases hcurrent : exposure.current with
  | some registry => rw [ready_of_some hcurrent]
  | none =>
      have hcommon : exposure.metrics? .common = none := hsound hcurrent
      rw [ready_of_none hcurrent, Option.getD_none, hcommon]
      rfl

theorem metrics?_ready_of_ne (hother : other ≠ exposure.current.getD .common) :
    exposure.ready.metrics? other = exposure.metrics? other := by
  cases hcurrent : exposure.current with
  | some registry => rw [ready_of_some hcurrent]
  | none =>
      rw [hcurrent, Option.getD_none] at hother
      rw [ready_of_none hcurrent]
      cases other with
      | own => rfl
      | common => contradiction

theorem obtainCurrent_of_sound (hsound : exposure.Sound) :
    exposure.obtainCurrent = .ok (exposure.current.getD .common, exposure.ready) := by
  cases hcurrent : exposure.current with
  | some registry => simp [obtainCurrent, ready, hcurrent]
  | none =>
      simp [obtainCurrent, ready, hcurrent, register, metrics?, setMetrics, hsound hcurrent,
        Except.map]

theorem step_obtain_of_sound (hsound : exposure.Sound) :
    exposure.step .obtain = (.ok (.metrics (exposure.current.getD .common)), exposure.ready) := by
  simp only [step, obtainCurrent_of_sound hsound]

def used (metrics : Metrics) (text : String) : Metrics :=
  let fresh : Host := { site := { store := { metrics := metrics } } }
  (fresh.start.2.execute text).2.site.store.metrics

theorem execute_new (metrics : Metrics) (text : String) :
    let fresh : Host := { site := { store := { metrics := metrics } } }
    let outcome := (Catalog.interpret .empty text).1
    (fresh.start.2.execute text).1 = outcome.mapError .failed ∧
      metrics.CountsOnce (used metrics text) (Statement.kind? text) outcome.status := by
  intro fresh outcome
  have hexecute : fresh.start.2.execute text =
      ((fresh.start.2.perform text).1.mapError .failed, (fresh.start.2.perform text).2) := rfl
  have hreturned : fresh.start.2.core.execution.fault? text = none := Execution.fault?_plain ..
  have houtcome : (fresh.start.2.perform text).1 = outcome := by
    rw [(fresh.start.2.perform_eq text).1, Execution.evaluator_of_returned hreturned]
    rfl
  have hstatus : (fresh.site.store.answer text).1 = outcome := Store.interpret_answer ..
  have hused : used metrics text =
      ((fresh.site.store.answer text).2.record (Statement.kind? text) outcome.status).metrics := by
    rw [← hstatus]
    exact congrArg (fun desk => desk.1.metrics) (Host.desk_perform hreturned)
  rw [hexecute, houtcome, hused]
  exact ⟨rfl, fresh.site.store.countsOnce_answer text _ _⟩

theorem step_execute_of_sound (hsound : exposure.Sound)
    (hcurrent : exposure.current.getD .common = registry) (text : String) :
    exposure.step (.execute text) =
      (.ok (.result ((Catalog.interpret .empty text).1.mapError .failed)),
        exposure.ready.setMetrics registry
          (used ((exposure.metrics? registry).getD .empty) text)) := by
  simp only [step, execute, obtainCurrent_of_sound hsound, Except.map, hcurrent]
  rw [(execute_new _ text).1, ← metrics?_ready_current hsound hcurrent]
  rfl

/-! The registries of a history. -/

abbrev History := List (Action × Except Duplicate Answer)

/-- The sets that an action registers, after those that are registered already. -/
def registeredBy (earlier : List Registry) : Action × Except Duplicate Answer → List Registry
  | (.setUp registry _, .ok _) => [registry]
  | (.setUp .., .error _) => []
  | (.obtain, _) | (.execute _, _) => if earlier = [] then [.common] else []

def registered (history : History) : List Registry :=
  history.foldl (fun earlier entry => earlier ++ registeredBy earlier entry) []

def setUpBy? : Action × Except Duplicate Answer → Option Registry
  | (.setUp registry _, .ok _) => some registry
  | _ => none

def latest? (history : History) : Option Registry :=
  (history.filterMap setUpBy?).getLast?

variable {history : History} {entry : Action × Except Duplicate Answer}

theorem registered_append (history : History) (entry : Action × Except Duplicate Answer) :
    registered (history ++ [entry]) =
      registered history ++ registeredBy (registered history) entry := by
  simp [registered]

theorem latest?_append (history : History) (entry : Action × Except Duplicate Answer) :
    latest? (history ++ [entry]) = (setUpBy? entry).or (latest? history) := by
  cases hentry : setUpBy? entry <;> simp [latest?, hentry]

/-- An exposure that a history has led to. -/
structure Follows (exposure : Exposure) (history : History) : Prop where
  nodup : (registered history).Nodup
  held_iff : ∀ registry,
    (exposure.metrics? registry).isSome = true ↔ registry ∈ registered history
  current_eq : exposure.current =
    if registered history = [] then none else some ((latest? history).getD .common)
  current_mem : ∀ registry ∈ exposure.current, registry ∈ registered history
  latest?_eq : registered history = [] → latest? history = none

namespace Follows

theorem initial : ({} : Exposure).Follows [] where
  nodup := .nil
  held_iff := fun registry => by cases registry <;> simp [metrics?, registered]
  current_eq := rfl
  current_mem := by simp
  latest?_eq := fun _ => rfl

theorem free (hfollows : exposure.Follows history) (hnew : registry ∉ registered history) :
    exposure.metrics? registry = none := by
  rw [← hfollows.held_iff] at hnew
  exact Option.not_isSome_iff_eq_none.mp hnew

theorem held (hfollows : exposure.Follows history) (hmem : registry ∈ registered history) :
    ∃ metrics, exposure.metrics? registry = some metrics :=
  Option.isSome_iff_exists.mp ((hfollows.held_iff registry).mpr hmem)

theorem sound (hfollows : exposure.Follows history) : exposure.Sound := by
  intro hcurrent
  -- Every set that is made becomes current, so none was made while none is current.
  have hempty : registered history = [] := by
    have hcurrent' := hfollows.current_eq
    rw [hcurrent] at hcurrent'
    split at hcurrent'
    · assumption
    · contradiction
  exact @free _ .common _ hfollows (by simp [hempty])

theorem getD_current (hfollows : exposure.Follows history) :
    exposure.current.getD .common = (latest? history).getD .common := by
  rw [hfollows.current_eq]
  split
  next hempty => rw [hfollows.latest?_eq hempty]
  next => rfl

theorem current_of_empty (hfollows : exposure.Follows history) (hempty : registered history = []) :
    exposure.current = none := by
  rw [hfollows.current_eq, if_pos hempty]

theorem current_of_nonempty (hfollows : exposure.Follows history)
    (hnonempty : registered history ≠ []) :
    exposure.current = some ((latest? history).getD .common) := by
  rw [hfollows.current_eq, if_neg hnonempty]

theorem ready_eq (hfollows : exposure.Follows history) :
    exposure.ready =
      if registered history = [] then
        { exposure with common := some .empty, current := some .common }
      else exposure := by
  by_cases hempty : registered history = []
  · rw [if_pos hempty, ready_of_none (hfollows.current_of_empty hempty)]
  · rw [if_neg hempty, ready_of_some (hfollows.current_of_nonempty hempty)]

theorem append_of_idle (hfollows : exposure.Follows history)
    (hidle : registeredBy (registered history) entry = []) (hsetUp : setUpBy? entry = none) :
    exposure.Follows (history ++ [entry]) := by
  have hregistered : registered (history ++ [entry]) = registered history := by
    rw [registered_append, hidle, List.append_nil]
  have hlatest : latest? (history ++ [entry]) = latest? history := by
    rw [latest?_append, hsetUp, Option.none_or]
  constructor
  · rw [hregistered]
    exact hfollows.nodup
  · rw [hregistered]
    exact hfollows.held_iff
  · rw [hregistered, hlatest]
    exact hfollows.current_eq
  · rw [hregistered]
    exact hfollows.current_mem
  · rw [hregistered, hlatest]
    exact hfollows.latest?_eq

theorem append_of_setUp (hfollows : exposure.Follows history)
    (hnew : registry ∉ registered history) (port : Int) (answer : Answer) (metrics : Metrics) :
    Follows
      { exposure.setMetrics registry metrics with
        current := some registry
        served := exposure.served ++ [(port, registry)] }
      (history ++ [(.setUp registry port, .ok answer)]) := by
  have hregistered : registered (history ++ [(.setUp registry port, .ok answer)]) =
      registered history ++ [registry] := registered_append ..
  have hlatest : latest? (history ++ [(.setUp registry port, .ok answer)]) = some registry := by
    rw [latest?_append, setUpBy?, Option.some_or]
  constructor
  · rw [hregistered, ← List.concat_eq_append]
    exact hfollows.nodup.concat hnew
  · intro other
    rw [hregistered, List.mem_append, List.mem_singleton, ← hfollows.held_iff]
    change ((exposure.setMetrics registry metrics).metrics? other).isSome = true ↔ _
    rw [metrics?_setMetrics]
    split <;> simp [*]
  · simp [hregistered, hlatest]
  · simp [hregistered]
  · simp [hregistered]

/-- A use registers a set in the common registry if nothing is registered before it. -/
theorem append_of_use (hfollows : exposure.Follows history)
    (huse : registeredBy (registered history) entry =
      if registered history = [] then [.common] else [])
    (hsetUp : setUpBy? entry = none) : exposure.ready.Follows (history ++ [entry]) := by
  by_cases hempty : registered history = []
  · have hregistered : registered (history ++ [entry]) = [.common] := by
      rw [registered_append, huse, hempty]
      rfl
    have hlatest : latest? (history ++ [entry]) = none := by
      rw [latest?_append, hsetUp, Option.none_or, hfollows.latest?_eq hempty]
    rw [hfollows.ready_eq, if_pos hempty]
    constructor
    · simp [hregistered]
    · intro other
      have hother := hfollows.held_iff other
      rw [hempty] at hother
      rw [hregistered]
      cases other with
      | own => simpa [metrics?] using hother
      | common => simp [metrics?]
    · rw [hregistered, hlatest]
      rfl
    · simp [hregistered]
    · simp [hregistered]
  · rw [hfollows.ready_eq, if_neg hempty]
    exact hfollows.append_of_idle (by rw [huse, if_neg hempty]) hsetUp

theorem setMetrics (hfollows : exposure.Follows history) (hmem : registry ∈ registered history)
    (metrics : Metrics) : (exposure.setMetrics registry metrics).Follows history where
  nodup := hfollows.nodup
  held_iff := by
    intro other
    rw [metrics?_setMetrics]
    split
    next hother =>
      subst hother
      simpa using hmem
    next => exact hfollows.held_iff other
  current_eq := by
    rw [current_setMetrics]
    exact hfollows.current_eq
  current_mem := by
    rw [current_setMetrics]
    exact hfollows.current_mem
  latest?_eq := hfollows.latest?_eq

theorem step (hfollows : exposure.Follows history) (action : Action) :
    (exposure.step action).2.Follows (history ++ [(action, (exposure.step action).1)]) := by
  cases action with
  | setUp registry port =>
      by_cases hmem : registry ∈ registered history
      · obtain ⟨metrics, hheld⟩ := hfollows.held hmem
        rw [step_setUp_of_held hheld]
        exact hfollows.append_of_idle rfl rfl
      · rw [step_setUp_of_free (hfollows.free hmem)]
        exact hfollows.append_of_setUp hmem port _ _
  | obtain =>
      rw [step_obtain_of_sound hfollows.sound]
      exact hfollows.append_of_use rfl rfl
  | execute text =>
      rw [step_execute_of_sound hfollows.sound rfl]
      have hready := @append_of_use _ _
        (.execute text, .ok (.result ((Catalog.interpret .empty text).1.mapError .failed)))
        hfollows rfl rfl
      exact hready.setMetrics (hready.current_mem _ exposure.current_ready) _

theorem run (hfollows : exposure.Follows history) (actions : List Action) :
    (exposure.run actions).2.Follows (history ++ actions.zip (exposure.run actions).1) := by
  induction actions generalizing exposure history with
  | nil =>
      rw [List.zip_nil_left, List.append_nil]
      exact hfollows
  | cons action actions ih =>
      have hnext := ih (hfollows.step action)
      rw [List.append_assoc] at hnext
      exact hnext

end Follows

/-- What holds after any run, and what every action comes to there. A registry is given one set at
most, and a set-up succeeds if its registry was not given one; if it fails, nothing changes. The set
that is obtained is that of the latest successful set-up; if there was none, it is one in the common
registry, made by the first use. This set counts a statement once, and the other set stays as it
is. -/
theorem run_registers_once (actions : List Action) :
    let ran := ({} : Exposure).run actions
    let exposure := ran.2
    let registered := registered (actions.zip ran.1)
    let current := (latest? (actions.zip ran.1)).getD .common
    registered.Nodup ∧
      (∀ registry, (exposure.metrics? registry).isSome = true ↔ registry ∈ registered) ∧
      (∀ registry port,
        if registry ∈ registered then
          exposure.step (.setUp registry port) = (.error .occupied, exposure)
        else
          ∃ next, exposure.step (.setUp registry port) = (.ok (.metrics registry), next) ∧
            next.metrics? registry = some { version := some Service.version } ∧
            (∀ other, other ≠ registry → next.metrics? other = exposure.metrics? other) ∧
            next.current = some registry ∧
            next.served = exposure.served ++ [(port, registry)]) ∧
      exposure.step .obtain =
        (.ok (.metrics current),
          if registered = [] then
            { exposure with common := some .empty, current := some .common }
          else exposure) ∧
      ∀ text,
        let outcome := (Catalog.interpret .empty text).1
        let before := (exposure.metrics? current).getD .empty
        ∃ next after,
          exposure.step (.execute text) = (.ok (.result (outcome.mapError .failed)), next) ∧
            next.metrics? current = some after ∧
            before.CountsOnce after (Statement.kind? text) outcome.status ∧
            (∀ other, other ≠ current → next.metrics? other = exposure.metrics? other) ∧
            next.current = some current ∧ next.served = exposure.served := by
  intro ran exposure registered current
  have hfollows : exposure.Follows (actions.zip ran.1) := Follows.initial.run actions
  have hcurrent : exposure.current.getD .common = current := hfollows.getD_current
  refine ⟨hfollows.nodup, hfollows.held_iff, ?_, ?_, ?_⟩
  · intro registry port
    split
    next hmem =>
      obtain ⟨metrics, hheld⟩ := hfollows.held hmem
      exact step_setUp_of_held hheld port
    next hnew =>
      refine ⟨_, step_setUp_of_free (hfollows.free hnew) port, ?_, fun other hother => ?_, rfl, rfl⟩
      · exact (metrics?_setMetrics ..).trans (if_pos rfl)
      · exact (metrics?_setMetrics ..).trans (if_neg hother)
  · rw [step_obtain_of_sound hfollows.sound, hcurrent, hfollows.ready_eq]
  · intro text outcome before
    refine ⟨_, _, step_execute_of_sound hfollows.sound hcurrent text, ?_,
      (execute_new before text).2, fun other hother => ?_, ?_, ?_⟩
    · rw [metrics?_setMetrics, if_pos rfl]
    · rw [metrics?_setMetrics, if_neg hother]
      exact metrics?_ready_of_ne (hcurrent.symm ▸ hother)
    · rw [current_setMetrics, current_ready, hcurrent]
    · rw [served_setMetrics, served_ready]

example : (({} : Exposure).run [.obtain, .setUp .common 8001, .setUp .own 8002, .obtain]).1 =
    [.ok (.metrics .common), .error .occupied, .ok (.metrics .own), .ok (.metrics .own)] := rfl

end Exposure

end RowStore
