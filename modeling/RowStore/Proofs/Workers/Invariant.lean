import RowStore.Proofs.Workers.Turn

namespace RowStore.Workers

/-- A reader's view is faithful if what it has seen, and what it will find, are the tables. -/
def View.Faithful (view : View) (catalog : Catalog) : Prop :=
  view.seen ++
      view.pending.filterMap (fun name => (catalog.table? name).map (Prod.mk name)) =
    catalog.snapshot

def Reading.Shows (catalog : Catalog) : Reading → Prop
  | .dump tables => tables = catalog.snapshot
  | .tally tables rows => tables = catalog.tableCount ∧ rows = catalog.counts

theorem shows_reading (inquiry : Inquiry) (catalog : Catalog) :
    (inquiry.reading catalog.snapshot).Shows catalog := by
  cases inquiry with
  | snapshot => rfl
  | stats => exact ⟨rfl, rfl⟩

structure Sound (origin : Store) (workers : Workers) : Prop where
  waited : workers.Waited
  exclusive : workers.Exclusive
  between : (∀ index, workers.shared.holder ≠ some (.worker index)) →
    workers.shared.store.guarded = (origin.after workers.shared.admitted).guarded
  phases : ∀ (index : Nat) (phase : Phase), workers.phases[index]? = some phase →
    phase.Holds workers.execution origin workers.shared
  view : ∀ view : View, workers.shared.holder = some (.reader view) →
    view.Faithful workers.shared.store.catalog
  settled : ∀ ticket outcome, (ticket, outcome) ∈ workers.shared.settled →
    Justified workers.execution origin.catalog workers.shared.admitted ticket outcome
  readings : ∀ (count : Nat) (reading : Reading), (count, reading) ∈ workers.shared.readings →
    count ≤ workers.shared.admitted.length ∧
      reading.Shows (origin.after (workers.shared.admitted.take count)).catalog

theorem sound_start (store : Store) (database : Database)
    (hserialized : database.execution.serialized = true) (submissions : List Submission) :
    Sound store (start store database hserialized submissions) where
  waited := waited_start store database hserialized submissions
  exclusive := exclusive_start store database hserialized submissions
  between := fun _ => rfl
  phases := fun index phase hphase => by
    rw [List.eq_of_mem_replicate (List.mem_of_getElem? hphase)]
    trivial
  view := nofun
  settled := nofun
  readings := nofun

theorem Exclusive.outside {workers : Workers} {index : Nat} {phase next : Phase}
    {shared : Shared} (hexclusive : workers.Exclusive)
    (hphase : workers.phases[index]? = some phase)
    (hworks : Works workers.execution index phase workers.shared next shared)
    (hholder : ∀ index, shared.holder ≠ some (.worker index)) : next.inside = false := by
  have hindex := List.getElem?_set_self (a := next) (List.getElem?_eq_some_iff.mp hphase).1
  rw [← Bool.not_eq_true, ← (hexclusive.move (.work hphase hworks)).inside hindex]
  exact hholder index

theorem Sound.work {origin : Store} {workers : Workers} {index : Nat} {phase next : Phase}
    {shared : Shared} (hsound : Sound origin workers)
    (hphase : workers.phases[index]? = some phase)
    (hworks : Works workers.execution index phase workers.shared next shared) :
    Sound origin { workers with shared := shared, phases := workers.phases.set index next } where
  waited := hsound.waited.move (.work hphase hworks)
  exclusive := hsound.exclusive.move (.work hphase hworks)
  between := fun hholder => by
    have hnext := hsound.exclusive.outside hphase hworks hholder
    cases hinside : phase.inside with
    | true => exact hworks.holds_released (hsound.phases index phase hphase) hinside hnext
    | false =>
        obtain ⟨hsame, hadmitted, hguarded⟩ := hworks.frame hinside hnext
        simp only [hadmitted, hguarded]
        exact hsound.between (hsame ▸ hholder)
  phases := fun other held hheld => by
    by_cases hother : other = index
    · subst hother
      rw [List.getElem?_set_self (List.getElem?_eq_some_iff.mp hphase).1] at hheld
      cases hheld
      refine hworks.holds (hsound.waited phase (List.mem_of_getElem? hphase))
        (hsound.phases other phase hphase) fun hfree => ?_
      exact hsound.between (by simp [hfree])
    · rw [List.getElem?_set_ne (Ne.symm hother)] at hheld
      have hholds := hsound.phases other held hheld
      cases hinside : held.inside with
      | false => exact hholds.mono hinside hworks.admitted_extends
      | true =>
          have hlock := (hsound.exclusive.inside hheld).mpr hinside
          have houtside : phase.inside = false := by
            rw [← Bool.not_eq_true, ← hsound.exclusive.inside hphase, hlock]
            simp [hother]
          have hnext : next.inside = false := by
            rw [← Bool.not_eq_true]
            intro hnext
            simp [hworks.free houtside hnext] at hlock
          exact hholds.congr (hworks.frame houtside hnext).2.1 (hworks.frame houtside hnext).2.2
  view := fun view hholder => by
    have hholder : shared.holder = some (.reader view) := hholder
    have hnext := hsound.exclusive.outside hphase hworks (by simp [hholder])
    cases hinside : phase.inside with
    | true => simp [hworks.holder, hinside, hnext] at hholder
    | false =>
        obtain ⟨hsame, -, hguarded⟩ := hworks.frame hinside hnext
        simp only [Store.catalog_of_guarded hguarded]
        exact hsound.view view (hsame ▸ hholder)
  settled := fun ticket outcome hmem => by
    have hextends := hworks.admitted_extends
    rcases hworks.settled hmem with hmem | rfl
    · exact (hsound.settled ticket outcome hmem).mono hextends
    · exact Justified.mono (hsound.phases index _ hphase) hextends
  readings := fun count reading hmem => by
    obtain ⟨rest, hrest⟩ := hworks.admitted_extends
    obtain ⟨hcount, hshows⟩ := hsound.readings count reading (hworks.readings ▸ hmem)
    simp only [← hrest, List.length_append, List.take_append_of_le_length hcount]
    exact ⟨Nat.le_add_right_of_le hcount, hshows⟩

theorem Sound.read {origin : Store} {workers : Workers} {shared : Shared}
    (hsound : Sound origin workers) (hreads : Reads workers.shared shared) :
    Sound origin { workers with shared := shared } where
  waited := hsound.waited.move (.read hreads)
  exclusive := hsound.exclusive.move (.read hreads)
  between := fun _ => by
    have hbetween := hsound.between fun index => (hreads.holder_ne index).1
    cases hreads <;> exact hbetween
  phases := fun index phase hphase => by
    have hholds := hsound.phases index phase hphase
    cases hreads <;> exact hholds.congr rfl rfl
  view := fun view hholder => by
    cases hreads with
    | enter inquiry hfree =>
        cases hholder
        exact Catalog.filterMap_table? _
    | look hlook =>
        have hfaithful := hsound.view _ hlook
        cases hholder
        unfold View.Faithful at hfaithful ⊢
        rw [← hfaithful, List.filterMap_cons, List.append_assoc]
        cases workers.shared.store.catalog.table? _ <;> rfl
    | leave hleave => contradiction
  settled := fun ticket outcome hmem => by
    have hsettled := hsound.settled ticket outcome
    cases hreads <;> exact hsettled hmem
  readings := fun count reading hmem => by
    have hreadings := hsound.readings count reading
    cases hreads with
    | enter inquiry hfree => exact hreadings hmem
    | look hlook => exact hreadings hmem
    | @leave inquiry seen hleave =>
        rcases List.mem_append.mp hmem with hmem | hmem
        · exact hreadings hmem
        · cases List.mem_singleton.mp hmem
          have hseen : seen = workers.shared.store.catalog.snapshot :=
            (List.append_nil seen).symm.trans (hsound.view _ hleave)
          have hbetween := hsound.between (by simp [hleave])
          refine ⟨Nat.le_refl _, ?_⟩
          rw [List.take_length, ← Store.catalog_of_guarded hbetween, hseen]
          exact shows_reading ..

theorem Sound.run {origin : Store} {workers after : Workers} {moves : List Move}
    (hsound : Sound origin workers) (hrun : workers.run? moves = some after) :
    Sound origin after := by
  refine run_induction (Sound origin) ?_ hrun hsound
  intro former next hmoves hformer
  cases hmoves with
  | work hphase hworks => exact hformer.work hphase hworks
  | read hreads => exact hformer.read hreads

end RowStore.Workers
