import RowStore.Metrics.Sample
import RowStore.Proofs.Database.Paths

namespace RowStore

open Database

section Remaining

variable {α β : Type}

/-- The members of a list at the positions that are not erased. -/
def remaining (erased : Nat → Bool) : List α → List α
  | [] => []
  | first :: rest =>
      if erased 0 then remaining (fun index => erased (index + 1)) rest
      else first :: remaining (fun index => erased (index + 1)) rest

theorem remaining_cons_of_erased {erased : Nat → Bool} (first : α) (rest : List α)
    (hfirst : erased 0 = true) :
    remaining erased (first :: rest) = remaining (fun index => erased (index + 1)) rest :=
  if_pos hfirst

theorem remaining_cons_of_kept {erased : Nat → Bool} (first : α) (rest : List α)
    (hfirst : ¬ erased 0 = true) :
    remaining erased (first :: rest) =
      first :: remaining (fun index => erased (index + 1)) rest :=
  if_neg hfirst

theorem map_remaining (f : α → β) (erased : Nat → Bool) (list : List α) :
    (remaining erased list).map f = remaining erased (list.map f) := by
  induction list generalizing erased with
  | nil => rfl
  | cons first rest ih =>
      by_cases hfirst : erased 0 = true
      · rw [List.map_cons, remaining_cons_of_erased _ _ hfirst,
          remaining_cons_of_erased _ _ hfirst, ih]
      · rw [List.map_cons, remaining_cons_of_kept _ _ hfirst,
          remaining_cons_of_kept _ _ hfirst, List.map_cons, ih]

end Remaining

/-! What is left of a host without its counters, its journal and its spans. -/

def Store.bare (store : Store) : Store :=
  { store with metrics := { store.metrics with statements := .empty, latencies := .empty } }

theorem Store.bare_dispatch (store : Store) (statement : Statement) :
    (store.dispatch statement).2.bare = (store.bare.dispatch statement).2.bare := by
  simp only [dispatch, change]
  cases hreply : (store.catalog.step statement).1 with
  | error failure => simp only [refresh, bare, hreply]
  | ok reply =>
      simp only [refresh, bare, hreply]
      split <;> rfl

namespace Host

def bare (host : Host) : Host :=
  { site := { host.site with store := host.site.store.bare, journal := [], recorder := {} }
    database := { host.database with total := 0, failed := 0 } }

theorem bare_conclude (host : Host) (text : String) (statement : Statement)
    (reply : Except Failure Reply) : (host.conclude text statement reply).bare = host.bare := by
  cases reply <;> rfl

theorem bare_carryOut (host : Host) (text : String) (statement : Statement) :
    (host.carryOut text statement).2.bare =
      { host.bare with
        site := { host.bare.site with store := (host.site.store.dispatch statement).2.bare } } := by
  rw [carryOut_eq]
  exact bare_conclude (host.applied statement) ..

/-- A submission comes to the same, and leaves the same, on hosts that differ only in what they
count and write. -/
theorem perform_bare (host : Host) (submission : Submission) :
    (host.perform submission).1 = (host.bare.perform submission).1 ∧
      (host.perform submission).2.bare = (host.bare.perform submission).2.bare := by
  cases hfault : host.database.execution.fault? submission with
  | some fault =>
      rw [perform_of_fault hfault, @perform_of_fault host.bare _ _ hfault]
      exact ⟨rfl, rfl⟩
  | none =>
      cases hparse : Statement.parse submission.text with
      | none =>
          rw [perform_of_unparsed hfault hparse, @perform_of_unparsed host.bare _ hfault hparse]
          exact ⟨rfl, rfl⟩
      | some statement =>
          rw [perform_of_parse hfault hparse, @perform_of_parse host.bare _ _ hfault hparse]
          refine ⟨by rw [outcome_carryOut, outcome_carryOut]; rfl, ?_⟩
          rw [bare_carryOut, bare_carryOut, Store.bare_dispatch]
          rfl

theorem perform_congr {first second : Host} (hbare : first.bare = second.bare)
    (submission : Submission) :
    (first.perform submission).1 = (second.perform submission).1 ∧
      (first.perform submission).2.bare = (second.perform submission).2.bare := by
  rw [(first.perform_bare submission).1, (first.perform_bare submission).2, hbare]
  exact ⟨(second.perform_bare submission).1.symm, (second.perform_bare submission).2.symm⟩

theorem bare_perform_of_error {host : Host} {submission : Submission} {failure : Failure}
    (hfailure : (host.perform submission).1 = .error failure) :
    (host.perform submission).2.bare = host.bare := by
  cases hfault : host.database.execution.fault? submission with
  | some fault => rw [perform_of_fault hfault]
  | none =>
      cases hparse : Statement.parse submission.text with
      | none =>
          rw [perform_of_unparsed hfault hparse]
          rfl
      | some statement =>
          rw [perform_of_parse hfault hparse] at hfailure ⊢
          rw [bare_carryOut]
          cases hreply : (host.site.store.dispatch statement).1 with
          | error missing =>
              rw [Store.dispatch_of_error hreply]
              rfl
          | ok reply =>
              rw [outcome_carryOut, hreply] at hfailure
              contradiction

theorem bare_perform_of_select {host : Host} {submission : Submission} {columns name : String}
    {clause : Option String}
    (hparse : Statement.parse submission.text = some (.select columns name clause)) :
    (host.perform submission).2.bare = host.bare := by
  cases hfault : host.database.execution.fault? submission with
  | some fault => rw [perform_of_fault hfault]
  | none =>
      rw [perform_of_parse hfault hparse, bare_carryOut, Store.dispatch_of_select rfl]
      rfl

/-- A submission with this outcome has changed nothing but counters, journal and spans. -/
def Idle (submission : Submission) (outcome : Outcome) : Prop :=
  (∃ failure, outcome = .error failure) ∨
    ∃ columns name clause, Statement.parse submission.text = some (.select columns name clause)

theorem Idle.bare_perform {host : Host} {submission : Submission}
    (hidle : Idle submission (host.perform submission).1) :
    (host.perform submission).2.bare = host.bare := by
  rcases hidle with ⟨failure, hfailure⟩ | ⟨columns, name, clause, hparse⟩
  · exact bare_perform_of_error hfailure
  · exact bare_perform_of_select hparse

theorem performAll_remaining {first second : Host} (hbare : first.bare = second.bare)
    {submissions : List Submission} {erased : Nat → Bool}
    (herased : ∀ (index : Nat) (submission : Submission) (outcome : Outcome), erased index = true →
      submissions[index]? = some submission →
      (second.performAll submissions).1[index]? = some outcome →
      Idle submission outcome) :
    (first.performAll (remaining erased submissions)).1 =
        remaining erased (second.performAll submissions).1 ∧
      (first.performAll (remaining erased submissions)).2.bare =
        (second.performAll submissions).2.bare := by
  induction submissions generalizing first second erased with
  | nil => exact ⟨rfl, hbare⟩
  | cons submission submissions ih =>
      have hlater : ∀ (index : Nat) (other : Submission) (outcome : Outcome),
          erased (index + 1) = true → submissions[index]? = some other →
          ((second.perform submission).2.performAll submissions).1[index]? = some outcome →
          Idle other outcome :=
        fun index => herased (index + 1)
      rw [performAll_cons]
      by_cases hfirst : erased 0 = true
      · have hidle : Idle submission (second.perform submission).1 :=
          herased 0 submission _ hfirst rfl rfl
        rw [remaining_cons_of_erased _ _ hfirst, remaining_cons_of_erased _ _ hfirst]
        exact ih (hbare.trans hidle.bare_perform.symm) hlater
      · obtain ⟨houtcome, hnext⟩ := perform_congr hbare submission
        obtain ⟨houtcomes, hlast⟩ := ih hnext hlater
        rw [remaining_cons_of_kept _ _ hfirst, remaining_cons_of_kept _ _ hfirst,
          performAll_cons, houtcome, houtcomes]
        exact ⟨rfl, hlast⟩

/-- Leaving out of a run statements that fail or select changes no other answer. Once what is
queued is worked through, the hosts differ only in their counters, journal and spans; so the tables
are the same, and the gauges. -/
theorem run_remaining {host : Host} (hstarted : host.database.started = true)
    {submissions : List Submission} {erased : Nat → Bool}
    (herased : ∀ (index : Nat) (submission : Submission) (answer : Except Error Answer),
      erased index = true → submissions[index]? = some submission →
      (host.run (submissions.map .execute)).1[index]? = some answer →
      (∃ error, answer = .error error) ∨
        ∃ columns name clause,
          Statement.parse submission.text = some (.select columns name clause)) :
    let whole := host.run (submissions.map .execute)
    let rest := host.run ((remaining erased submissions).map .execute)
    rest.1 = remaining erased whole.1 ∧ rest.2.drain.bare = whole.2.drain.bare ∧
      rest.2.drain.snapshot = whole.2.drain.snapshot ∧
      rest.2.drain.site.store.metrics.tableSample = whole.2.drain.site.store.metrics.tableSample ∧
      rest.2.drain.site.store.metrics.rowSamples =
        whole.2.drain.site.store.metrics.rowSamples := by
  intro whole rest
  obtain ⟨hwhole, hwholeLast⟩ := run_execute hstarted submissions
  obtain ⟨hrest, hrestLast⟩ := run_execute hstarted (remaining erased submissions)
  have hidle : ∀ (index : Nat) (submission : Submission) (outcome : Outcome), erased index = true →
      submissions[index]? = some submission →
      (host.drain.performAll submissions).1[index]? = some outcome →
      Idle submission outcome := by
    intro index submission outcome hindex hsubmission houtcome
    have hanswer : (host.run (submissions.map .execute)).1[index]? = some outcome.answer := by
      rw [hwhole, List.getElem?_map, houtcome, Option.map_some]
    rcases herased index submission outcome.answer hindex hsubmission hanswer with
      ⟨error, herror⟩ | hselect
    · obtain ⟨failure, hfailure, -⟩ := Outcome.answer_eq_error_iff.mp herror
      exact .inl ⟨failure, hfailure⟩
    · exact .inr hselect
  obtain ⟨houtcomes, hlast⟩ := performAll_remaining rfl hidle
  have hbare : rest.2.drain.bare = whole.2.drain.bare := by
    rw [show rest.2.drain = _ from hrestLast, show whole.2.drain = _ from hwholeLast, hlast]
  have hstore : rest.2.drain.site.store.bare = whole.2.drain.site.store.bare :=
    congrArg (fun host => host.site.store) hbare
  refine ⟨?_, hbare, congrArg (fun store => store.catalog.snapshot) hstore,
    congrArg (fun store => store.metrics.tableSample) hstore,
    congrArg (fun store => store.metrics.rowSamples) hstore⟩
  rw [show rest.1 = _ from hrest, show whole.1 = _ from hwhole, houtcomes, map_remaining]

/-- A submission that is no statement, an insertion that comes too early and a selection, all left
out. -/
theorem run_remaining_of_mixed :
    let submissions : List Submission :=
      ["drop table t", "insert into t (a) values (1)", "create table t (a b)",
        "select a from t", "insert into t (a) values (2)"]
    let erased : Nat → Bool := fun index => index = 0 || index = 1 || index = 3
    let host := ({} : Host).start.2
    let whole := host.run (submissions.map .execute)
    let rest := host.run ((remaining erased submissions).map .execute)
    host.database.started = true ∧
      remaining erased submissions =
        ["create table t (a b)", "insert into t (a) values (2)"] ∧
      rest.1 = remaining erased whole.1 ∧ rest.2.drain.snapshot = whole.2.drain.snapshot := by
  intro submissions erased host whole rest
  have herased : ∀ (index : Nat) (submission : Submission) (answer : Except Error Answer),
      erased index = true → submissions[index]? = some submission → whole.1[index]? = some answer →
      (∃ error, answer = .error error) ∨
        ∃ columns name clause,
          Statement.parse submission.text = some (.select columns name clause) := by
    intro index submission answer hindex hsubmission hanswer
    have hpositions : (index = 0 ∨ index = 1) ∨ index = 3 := by
      simpa only [erased, Bool.or_eq_true, decide_eq_true_eq] using hindex
    rcases hpositions with (rfl | rfl) | rfl
    · exact .inl ⟨_, (Option.some.inj (hanswer.symm.trans rfl))⟩
    · exact .inl ⟨_, (Option.some.inj (hanswer.symm.trans rfl))⟩
    · cases hsubmission
      exact .inr ⟨"a", "t", none, by decide +kernel⟩
  obtain ⟨hanswers, -, hsnapshot, -⟩ := run_remaining rfl herased
  exact ⟨rfl, rfl, hanswers, hsnapshot⟩

end Host

end RowStore
