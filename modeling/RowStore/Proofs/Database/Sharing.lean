import RowStore.Proofs.Database.Advance

namespace RowStore

open Database

/-- Databases as they are when they are made. -/
def Created (databases : List Database) : Prop :=
  ∀ database ∈ databases, ∃ execution, Database.create execution = .ok database

theorem Created.eq {databases : List Database} (hcreated : Created databases) {database : Database}
    (hdatabase : database ∈ databases) : database = { execution := database.execution } := by
  obtain ⟨execution, hcreate⟩ := hcreated database hdatabase
  obtain rfl := Host.eq_of_create hcreate
  rfl

theorem Created.orderly {databases : List Database} (hcreated : Created databases) :
    ∀ database ∈ databases, Host.Orderly database := by
  intro database hdatabase
  rw [hcreated.eq hdatabase]
  exact fun _ => rfl

namespace Fleet

open Host

def desk (fleet : Fleet) : Store × List Database := (fleet.site.store, fleet.databases)

inductive Advance : Store × List Database → List Deed → Store × List Database → Prop
  | member {store next : Store} {databases : List Database} {index : Nat}
      {database after : Database} {done : List Deed} (hmember : databases[index]? = some database)
      (hadvance : Host.Advance index (store, database) done (next, after)) :
      Advance (store, databases) done (next, databases.set index after)

abbrev Advances : Store × List Database → List Deed → Store × List Database → Prop :=
  Chain Advance

theorem advances_set {first second : Store × Database} {databases : List Database} {index : Nat}
    {done : List Deed} (hmember : databases[index]? = some first.2)
    (hadvances : Host.Advances index first done second) :
    Advances (first.1, databases) done (second.1, databases.set index second.2) := by
  induction hadvances generalizing databases with
  | @refl state =>
      obtain ⟨hindex, hget⟩ := List.getElem?_eq_some_iff.mp hmember
      rw [← hget, List.set_getElem_self]
      exact .refl
  | @head first next last done rest hadvance _ ih =>
      have hindex := (List.getElem?_eq_some_iff.mp hmember).1
      have hrest := @ih (databases.set index next.2) (List.getElem?_set_self hindex)
      rw [List.set_set] at hrest
      exact .head (.member hmember hadvance) hrest

theorem member?_eq_some_iff {fleet : Fleet} {index : Nat} {member : Host} :
    fleet.member? index = some member ↔
      fleet.databases[index]? = some member.database ∧ member.site = fleet.site := by
  constructor
  · intro hmember
    obtain ⟨database, hget, rfl⟩ := Option.map_eq_some_iff.mp hmember
    exact ⟨hget, rfl⟩
  · obtain ⟨site, database⟩ := member
    rintro ⟨hget, rfl⟩
    rw [member?, hget, Option.map_some]

def deeds (fleet : Fleet) : List (Nat × Action) → List Deed
  | [] => []
  | (index, action) :: actions =>
      match fleet.member? index with
      | none => fleet.deeds actions
      | some member =>
          member.deeds index action ++
            (fleet.update index (member.step action).2).deeds actions

theorem advances_update {fleet : Fleet} {index : Nat} {member : Host}
    (horderly : ∀ database ∈ fleet.databases, Orderly database)
    (hmember : fleet.member? index = some member) (action : Action) :
    Advances fleet.desk (member.deeds index action)
        (fleet.update index (member.step action).2).desk ∧
      ∀ database ∈ (fleet.update index (member.step action).2).databases, Orderly database := by
  obtain ⟨hget, hsite⟩ := member?_eq_some_iff.mp hmember
  have hmemberOrderly := horderly member.database (List.mem_of_getElem? hget)
  have hadvances := advances_step hmemberOrderly index action
  constructor
  · have hset := advances_set hget hadvances
    rw [show member.desk.1 = fleet.site.store by rw [← hsite]; rfl] at hset
    exact hset
  · intro database hdatabase
    rcases List.mem_or_eq_of_mem_set hdatabase with hold | rfl
    · exact horderly database hold
    · exact hadvances.invariant (fun state => Orderly state.2) Host.Advance.orderly hmemberOrderly

theorem advances_run {fleet : Fleet} (horderly : ∀ database ∈ fleet.databases, Orderly database)
    (actions : List (Nat × Action)) :
    Advances fleet.desk (fleet.deeds actions) (fleet.run actions).2.desk := by
  induction actions generalizing fleet with
  | nil => exact .refl
  | cons entry actions ih =>
      obtain ⟨index, action⟩ := entry
      cases hmember : fleet.member? index with
      | none =>
          simp only [run, step?, deeds, hmember, Option.map_none]
          exact ih horderly
      | some member =>
          obtain ⟨hfirst, hnext⟩ := advances_update horderly hmember action
          simp only [run, step?, deeds, hmember, Option.map_some]
          exact hfirst.trans (ih hnext)

end Fleet

end RowStore
