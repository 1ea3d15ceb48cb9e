import RowStore.Proofs.Database.Exchange

namespace RowStore

open Database

/-- Whether a text is a statement about one of the chosen tables. -/
def Statement.concerns (chosen : String → Bool) (text : String) : Bool :=
  (parse text).any fun statement => chosen statement.table

def Submission.concerns (chosen : String → Bool) (submission : Submission) : Bool :=
  Statement.concerns chosen submission.text

/-! The chosen part of the catalog. -/

namespace Execution

variable (execution : Execution) {chosen : String → Bool} {submission : Submission}
  {first second : Catalog}

theorem evaluator_within (hconcerns : Submission.concerns chosen submission = true)
    (catalog : Catalog) :
    execution.evaluator (catalog.within chosen) submission =
      ((execution.evaluator catalog submission).1,
        (execution.evaluator catalog submission).2.within chosen) := by
  cases hfault : execution.fault? submission with
  | some fault => rw [evaluator_of_fault hfault, evaluator_of_fault hfault]
  | none =>
      obtain ⟨statement, hparse, hchosen⟩ := (Option.any_eq_true ..).mp hconcerns
      rw [evaluator_of_returned hfault, evaluator_of_returned hfault,
        Catalog.interpret_of_parse hparse, Catalog.interpret_of_parse hparse,
        Catalog.step_within hchosen]

theorem within_evaluator_of_other (hother : ¬ Submission.concerns chosen submission = true)
    (catalog : Catalog) :
    (execution.evaluator catalog submission).2.within chosen = catalog.within chosen := by
  cases hfault : execution.fault? submission with
  | some fault => rw [evaluator_of_fault hfault]
  | none =>
      rw [evaluator_of_returned hfault]
      cases hparse : Statement.parse submission.text with
      | none => simp only [Catalog.interpret, hparse]
      | some statement =>
          rw [Catalog.interpret_of_parse hparse]
          refine Catalog.within_step_of_other (Bool.eq_false_iff.mpr fun hchosen => hother ?_)
            catalog
          rw [Submission.concerns, Statement.concerns, hparse]
          exact hchosen

theorem evaluator_congr_within (hsame : first.within chosen = second.within chosen)
    (hconcerns : Submission.concerns chosen submission = true) :
    (execution.evaluator first submission).1 = (execution.evaluator second submission).1 ∧
      (execution.evaluator first submission).2.within chosen =
        (execution.evaluator second submission).2.within chosen := by
  have hfirst := execution.evaluator_within hconcerns first
  rw [hsame, evaluator_within execution hconcerns] at hfirst
  exact ⟨(congrArg Prod.fst hfirst).symm, (congrArg Prod.snd hfirst).symm⟩

/-- The catalogs agree on the chosen tables throughout, whatever is done to the others. -/
theorem run_concerning (hsame : first.within chosen = second.within chosen)
    (submissions : List Submission) :
    (execution.evaluator.run first (submissions.filter (Submission.concerns chosen))).1 =
        ((submissions.zip (execution.evaluator.run second submissions).1).filter
          fun entry => Submission.concerns chosen entry.1).map Prod.snd ∧
      (execution.evaluator.run first
        (submissions.filter (Submission.concerns chosen))).2.within chosen =
        (execution.evaluator.run second submissions).2.within chosen := by
  induction submissions generalizing first second with
  | nil => exact ⟨rfl, hsame⟩
  | cons submission submissions ih =>
      rw [Evaluator.run_cons, List.zip_cons_cons]
      by_cases hconcerns : Submission.concerns chosen submission = true
      · obtain ⟨houtcome, hnext⟩ := execution.evaluator_congr_within hsame hconcerns
        obtain ⟨houtcomes, hlast⟩ := ih hnext
        simp only [List.filter_cons, hconcerns, if_true, List.map_cons]
        rw [Evaluator.run_cons, houtcome, houtcomes]
        exact ⟨rfl, hlast⟩
      · simp only [List.filter_cons, hconcerns]
        exact ih (hsame.trans (execution.within_evaluator_of_other hconcerns second).symm)

/-! The order of the tables. -/

theorem names_evaluator_congr (hnames : first.names = second.names) (submission : Submission) :
    (execution.evaluator first submission).2.names =
      (execution.evaluator second submission).2.names := by
  cases hfault : execution.fault? submission with
  | some fault => rwa [evaluator_of_fault hfault, evaluator_of_fault hfault]
  | none =>
      rw [evaluator_of_returned hfault, evaluator_of_returned hfault]
      cases hparse : Statement.parse submission.text with
      | none => simpa only [Catalog.interpret, hparse]
      | some statement =>
          rw [Catalog.interpret_of_parse hparse, Catalog.interpret_of_parse hparse]
          exact Catalog.names_step_congr hnames statement

theorem names_run_congr (hnames : first.names = second.names) (submissions : List Submission) :
    (execution.evaluator.run first submissions).2.names =
      (execution.evaluator.run second submissions).2.names := by
  induction submissions generalizing first second with
  | nil => exact hnames
  | cons submission submissions ih => exact ih (execution.names_evaluator_congr hnames submission)

theorem names_evaluator_evaluator {catalog : Catalog} {former latter : Submission}
    {statement other : Statement} (hformer : Statement.parse former.text = some statement)
    (hlatter : Statement.parse latter.text = some other)
    (hnew : ¬ (catalog.IsNew statement ∧ catalog.IsNew other)) :
    (execution.evaluator.run catalog [former, latter]).2.names =
      (execution.evaluator.run catalog [latter, former]).2.names := by
  simp only [Evaluator.run_cons, Evaluator.run_nil]
  cases hfault : execution.fault? former with
  | some fault => rw [evaluator_of_fault hfault, evaluator_of_fault hfault]
  | none =>
      cases hother : execution.fault? latter with
      | some fault => rw [evaluator_of_fault hother, evaluator_of_fault hother]
      | none =>
          simp only [evaluator_of_returned hfault, evaluator_of_returned hother,
            Catalog.interpret_of_parse hformer, Catalog.interpret_of_parse hlatter]
          exact Catalog.names_step_step hnew

end Execution

/-! Carrying out a text as far as the store is concerned. -/

namespace Store

variable {first second : Store}

def carry (store : Store) (text : String) : Outcome × Store :=
  let (outcome, next) := store.answer text
  (outcome, next.record (Statement.kind? text) outcome.status)

theorem Alike.carry (halike : first.Alike second) (text : String) :
    (first.carry text).1 = (second.carry text).1 ∧
      (first.carry text).2.Alike (second.carry text).2 := by
  obtain ⟨houtcome, hnext⟩ := halike.answer text
  simp only [Store.carry, houtcome]
  exact ⟨trivial, hnext.record ..⟩

theorem carry_of_parse {text : String} {statement : Statement}
    (hparse : Statement.parse text = some statement) (store : Store) :
    store.carry text =
      let (reply, next) := store.dispatch statement
      (.ofReply text reply,
        next.record (some statement.kind) (Outcome.ofReply text reply).status) := by
  simp only [carry, answer, hparse, Statement.kind?]
  rfl

theorem carry_carry {former latter : String} {statement other : Statement}
    (hformer : Statement.parse former = some statement)
    (hlatter : Statement.parse latter = some other) (hne : statement.table ≠ other.table)
    (store : Store) :
    ((store.carry former).2.carry latter).1 = (store.carry latter).1 ∧
      ((store.carry former).2.carry latter).2.Alike ((store.carry latter).2.carry former).2 := by
  simp only [carry_of_parse hformer, carry_of_parse hlatter, dispatch_record,
    reply_dispatch_dispatch hne, reply_dispatch_dispatch hne.symm]
  refine ⟨trivial, ?_⟩
  have halike := alike_dispatch_dispatch hne store
  exact (((halike.record ..).record ..).trans ⟨.refl _, .record_record ..⟩)

end Store

theorem Database.count_count (database : Database) (status other : Status) :
    (database.count status).count other = (database.count other).count status := by
  simp only [count, Nat.add_assoc, Nat.add_comm (if status = .error then 1 else 0)]

namespace Host

/-- Hosts whose stores hold the same in whatever order, with the same database. -/
structure Alike (first second : Host) : Prop where
  store : first.site.store.Alike second.site.store
  database : first.database = second.database

variable {host first second : Host}

theorem outcome_perform {submission : Submission}
    (hreturned : host.database.execution.fault? submission = none) :
    (host.perform submission).1 = (host.site.store.carry submission.text).1 := by
  cases hparse : Statement.parse submission.text with
  | none =>
      rw [perform_of_unparsed hreturned hparse]
      simp only [Store.carry, Store.answer, hparse]
      rfl
  | some statement =>
      rw [perform_of_parse hreturned hparse, Store.carry_of_parse hparse, outcome_carryOut]

theorem store_perform {submission : Submission}
    (hreturned : host.database.execution.fault? submission = none) :
    (host.perform submission).2.site.store = (host.site.store.carry submission.text).2 :=
  congrArg Prod.fst (desk_perform hreturned)

theorem database_perform {submission : Submission}
    (hreturned : host.database.execution.fault? submission = none) :
    (host.perform submission).2.database =
      host.database.count (host.site.store.carry submission.text).1.status :=
  congrArg Prod.snd (desk_perform hreturned)

theorem returned_perform {submission other : Submission}
    (hreturned : host.database.execution.fault? submission = none)
    (hother : host.database.execution.fault? other = none) :
    (host.perform submission).2.database.execution.fault? other = none := by
  rw [database_perform hreturned]
  exact hother

theorem Alike.perform (halike : first.Alike second) (submission : Submission) :
    (first.perform submission).1 = (second.perform submission).1 ∧
      (first.perform submission).2.Alike (second.perform submission).2 := by
  cases hsecond : second.database.execution.fault? submission with
  | some fault =>
      have hfirst : first.database.execution.fault? submission = some fault := by
        rwa [halike.database]
      rw [perform_of_fault hfirst, perform_of_fault hsecond]
      exact ⟨rfl, halike⟩
  | none =>
      have hfirst : first.database.execution.fault? submission = none := by rwa [halike.database]
      obtain ⟨houtcome, hstore⟩ := halike.store.carry submission.text
      refine ⟨?_, ⟨?_, ?_⟩⟩
      · rw [outcome_perform hfirst, outcome_perform hsecond, houtcome]
      · rwa [store_perform hfirst, store_perform hsecond]
      · rw [database_perform hfirst, database_perform hsecond, houtcome, halike.database]

theorem Alike.performAll (halike : first.Alike second) (submissions : List Submission) :
    (first.performAll submissions).1 = (second.performAll submissions).1 ∧
      (first.performAll submissions).2.Alike (second.performAll submissions).2 :=
  performAll_related (fun _ _ submission halike => halike.perform submission) halike submissions

theorem performAll_append (host : Host) (front back : List Submission) :
    host.performAll (front ++ back) =
      ((host.performAll front).1 ++ ((host.performAll front).2.performAll back).1,
        ((host.performAll front).2.performAll back).2) := by
  induction front generalizing host with
  | nil => rfl
  | cons submission front ih => rw [List.cons_append, performAll_cons, ih]; rfl

theorem perform_perform {former latter : Submission} {statement other : Statement}
    (hformer : Statement.parse former.text = some statement)
    (hlatter : Statement.parse latter.text = some other) (hne : statement.table ≠ other.table)
    (host : Host) :
    ((host.perform former).2.perform latter).1 = (host.perform latter).1 ∧
      ((host.perform former).2.perform latter).2.Alike
        ((host.perform latter).2.perform former).2 := by
  cases hfirst : host.database.execution.fault? former with
  | some fault =>
      rw [perform_of_fault hfirst]
      refine ⟨rfl, ?_⟩
      cases hsecond : host.database.execution.fault? latter with
      | some fault =>
          rw [perform_of_fault hsecond, perform_of_fault hfirst]
          exact ⟨.refl _, rfl⟩
      | none =>
          have hstill : (host.perform latter).2.database.execution.fault? former = some fault := by
            rwa [database_perform hsecond]
          rw [perform_of_fault hstill]
          exact ⟨.refl _, rfl⟩
  | none =>
      cases hsecond : host.database.execution.fault? latter with
      | some fault =>
          have hstill : (host.perform former).2.database.execution.fault? latter = some fault := by
            rwa [database_perform hfirst]
          rw [perform_of_fault hsecond, perform_of_fault hstill]
          exact ⟨rfl, .refl _, rfl⟩
      | none =>
          have hlatterThen := returned_perform hfirst hsecond
          have hformerThen := returned_perform hsecond hfirst
          obtain ⟨houtcome, hstore⟩ := Store.carry_carry hformer hlatter hne host.site.store
          have hother := (Store.carry_carry hlatter hformer hne.symm host.site.store).1
          refine ⟨?_, ⟨?_, ?_⟩⟩
          · rw [outcome_perform hlatterThen, store_perform hfirst, outcome_perform hsecond,
              houtcome]
          · rwa [store_perform hlatterThen, store_perform hfirst, store_perform hformerThen,
              store_perform hsecond]
          · rw [database_perform hlatterThen, database_perform hfirst, store_perform hfirst,
              database_perform hformerThen, database_perform hsecond, store_perform hsecond,
              houtcome, hother, Database.count_count]

theorem catalog_performAll (host : Host) (submissions : List Submission) :
    (host.performAll submissions).2.site.store.catalog =
      (host.core.execution.evaluator.run host.core.catalog submissions).2 :=
  congrArg Core.catalog (host.performAll_eq submissions).2

theorem performAll_concerning (host : Host) (chosen : String → Bool)
    (submissions : List Submission) :
    let kept := submissions.filter (Submission.concerns chosen)
    (host.performAll kept).1 =
        ((submissions.zip (host.performAll submissions).1).filter
          fun entry => Submission.concerns chosen entry.1).map Prod.snd ∧
      (host.performAll kept).2.snapshot.filter (fun entry => chosen entry.1) =
        (host.performAll submissions).2.snapshot.filter fun entry => chosen entry.1 := by
  intro kept
  obtain ⟨houtcomes, hlast⟩ := host.core.execution.run_concerning
    (rfl : host.core.catalog.within chosen = _) submissions
  rw [(host.performAll_eq kept).1, (host.performAll_eq submissions).1]
  refine ⟨houtcomes, ?_⟩
  rw [← catalog_performAll, ← catalog_performAll] at hlast
  exact congrArg Catalog.snapshot hlast

/-- Neighbours change places: the same outcomes, and what follows finds the same tables. -/
theorem performAll_exchanged {former latter : Submission} {statement other : Statement}
    (hformer : Statement.parse former.text = some statement)
    (hlatter : Statement.parse latter.text = some other) (hne : statement.table ≠ other.table)
    (host : Host) (back : List Submission) :
    (∃ outcome last rest,
      (host.performAll (former :: latter :: back)).1 = outcome :: last :: rest ∧
      (host.performAll (latter :: former :: back)).1 = last :: outcome :: rest) ∧
    (host.performAll (former :: latter :: back)).2.Alike
      (host.performAll (latter :: former :: back)).2 ∧
    (¬ (host.site.store.catalog.IsNew statement ∧ host.site.store.catalog.IsNew other) →
      (host.performAll (former :: latter :: back)).2.snapshot =
        (host.performAll (latter :: former :: back)).2.snapshot) := by
  obtain ⟨houtcome, halike⟩ := perform_perform hformer hlatter hne host
  obtain ⟨hother, -⟩ := perform_perform hlatter hformer hne.symm host
  obtain ⟨houtcomes, hlast⟩ := halike.performAll back
  refine ⟨⟨(host.perform former).1, (host.perform latter).1,
    (((host.perform latter).2.perform former).2.performAll back).1, ?_, ?_⟩, hlast,
    fun hnew => ?_⟩
  · rw [performAll_cons, performAll_cons, houtcome, houtcomes]
  · rw [performAll_cons, performAll_cons, hother]
  · have hcatalog : ∀ first second,
        (((host.perform first).2.perform second).2.performAll back).2.site.store.catalog =
          (host.core.execution.evaluator.run
            (host.core.execution.evaluator.run host.site.store.catalog [first, second]).2 back).2 :=
      fun first second => host.catalog_performAll (first :: second :: back)
    have hpair := host.core.execution.names_evaluator_evaluator hformer hlatter hnew
    have hnames := host.core.execution.names_run_congr hpair back
    rw [← hcatalog, ← hcatalog] at hnames
    exact hlast.store.catalog.snapshot_eq hnames

/-- Statements about some tables come out the same, and leave those tables the same, when all others
are taken out of a run. Statements about different tables may change places if they follow upon one
another: the samples and the counters do not tell, and the snapshot only tells if both tables are
new. -/
theorem tables_apart {host : Host} (hstarted : host.database.started = true) :
    (∀ (chosen : String → Bool) (submissions : List Submission),
      let kept := submissions.filter (Submission.concerns chosen)
      let whole := host.run (submissions.map .execute)
      let part := host.run (kept.map .execute)
      part.1 = ((submissions.zip whole.1).filter
          fun entry => Submission.concerns chosen entry.1).map Prod.snd ∧
        part.2.drain.snapshot.filter (fun entry => chosen entry.1) =
          whole.2.drain.snapshot.filter fun entry => chosen entry.1) ∧
    ∀ (front back : List Submission) (former latter : Submission) (statement other : Statement),
      Statement.parse former.text = some statement → Statement.parse latter.text = some other →
      statement.table ≠ other.table →
      let before := host.run (front.map .execute)
      let whole := host.run ((front ++ former :: latter :: back).map .execute)
      let exchanged := host.run ((front ++ latter :: former :: back).map .execute)
      (∃ answer last rest,
        whole.1 = before.1 ++ answer :: last :: rest ∧
        exchanged.1 = before.1 ++ last :: answer :: rest) ∧
      (∀ name, exchanged.2.drain.site.store.catalog.table? name =
        whole.2.drain.site.store.catalog.table? name) ∧
      exchanged.2.drain.site.store.metrics.samples = whole.2.drain.site.store.metrics.samples ∧
      exchanged.2.drain.database = whole.2.drain.database ∧
      (exchanged.2.drain.snapshot ≠ whole.2.drain.snapshot →
        before.2.drain.site.store.catalog.IsNew statement ∧
          before.2.drain.site.store.catalog.IsNew other) := by
  constructor
  · intro chosen submissions kept whole part
    obtain ⟨hwhole, hwholeLast⟩ := run_execute hstarted submissions
    obtain ⟨hpart, hpartLast⟩ := run_execute hstarted kept
    obtain ⟨houtcomes, hsnapshot⟩ := performAll_concerning host.drain chosen submissions
    constructor
    · rw [show part.1 = _ from hpart, show whole.1 = _ from hwhole, houtcomes,
        List.zip_map_right, List.filter_map, List.map_map, List.map_map]
      rfl
    · rwa [show part.2.drain = _ from hpartLast, show whole.2.drain = _ from hwholeLast]
  · intro front back former latter statement other hformer hlatter hne before whole exchanged
    obtain ⟨hbefore, hbeforeLast⟩ := run_execute hstarted front
    obtain ⟨hwhole, hwholeLast⟩ := run_execute hstarted (front ++ former :: latter :: back)
    obtain ⟨hexchanged, hexchangedLast⟩ := run_execute hstarted (front ++ latter :: former :: back)
    obtain ⟨⟨outcome, last, rest, hfirst, hsecond⟩, halike, hsnapshot⟩ :=
      performAll_exchanged hformer hlatter hne (host.drain.performAll front).2 back
    rw [performAll_append] at hwhole hwholeLast hexchanged hexchangedLast
    rw [show before.2.drain = _ from hbeforeLast, show whole.2.drain = _ from hwholeLast,
      show exchanged.2.drain = _ from hexchangedLast]
    refine ⟨⟨outcome.answer, last.answer, rest.map Outcome.answer, ?_, ?_⟩,
      fun name => (halike.store.catalog.table? name).symm, halike.store.metrics.samples.symm,
      halike.database.symm, fun hdiffer => ?_⟩
    · rw [show whole.1 = _ from hwhole, show before.1 = _ from hbefore, List.map_append, hfirst]
      rfl
    · rw [show exchanged.1 = _ from hexchanged, show before.1 = _ from hbefore, List.map_append,
        hsecond]
      rfl
    · by_contra hnew
      exact hdiffer (hsnapshot hnew).symm

/-- Two creations in the middle of a run change places, and only the snapshot tells. -/
theorem tables_apart_of_creations :
    let host := ({} : Host).start.2
    let chosen : String → Bool := fun name => name = "t"
    let first : Submission := "create table u (a b)"
    let second : Submission := "create table t (a b)"
    let front : List Submission := ["insert into u (a) values (1)"]
    let back : List Submission := ["insert into t (a) values (1)", "nonsense", "delete from u"]
    let run (texts : List Submission) := host.run (texts.map .execute)
    let texts := front ++ first :: second :: back
    let other := front ++ second :: first :: back
    host.database.started = true ∧
      texts.filter (Submission.concerns chosen) =
        [second, ("insert into t (a) values (1)" : String)] ∧
      (run (texts.filter (Submission.concerns chosen))).1 =
        ((texts.zip (run texts).1).filter
          fun entry => Submission.concerns chosen entry.1).map Prod.snd ∧
      Statement.parse first.text = some (.createTable "u" "a b") ∧
      Statement.parse second.text = some (.createTable "t" "a b") ∧
      (run other).2.drain.snapshot.map Prod.fst = ["t", "u"] ∧
      (run texts).2.drain.snapshot.map Prod.fst = ["u", "t"] ∧
      (run other).2.drain.site.store.metrics.samples =
        (run texts).2.drain.site.store.metrics.samples := by
  intro host chosen first second front back run texts other
  have hfirst : Statement.parse first.text = some (.createTable "u" "a b") := by decide +kernel
  have hsecond : Statement.parse second.text = some (.createTable "t" "a b") := by decide +kernel
  have hstarted : host.database.started = true := rfl
  obtain ⟨hconcerning, hexchange⟩ := tables_apart hstarted
  obtain ⟨hpart, -⟩ := hconcerning chosen texts
  obtain ⟨-, -, hsamples, -, -⟩ :=
    hexchange front back first second _ _ hfirst hsecond (by decide)
  exact ⟨hstarted, by decide +kernel, hpart, hfirst, hsecond, by decide +kernel,
    by decide +kernel, hsamples⟩

end Host

end RowStore
