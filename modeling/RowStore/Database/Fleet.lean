import RowStore.Database.Host

namespace RowStore

structure Fleet where
  site : Site := {}
  databases : List Database := []

namespace Fleet

def member? (fleet : Fleet) (index : Nat) : Option Host :=
  (fleet.databases[index]?).map fun database => ⟨fleet.site, database⟩

def update (fleet : Fleet) (index : Nat) (member : Host) : Fleet :=
  ⟨member.site, fleet.databases.set index member.database⟩

def step? (fleet : Fleet) (index : Nat) (action : Database.Action) :
    Option (Except Database.Error Database.Answer × Fleet) :=
  (fleet.member? index).map fun member =>
    let (answer, next) := member.step action
    (answer, fleet.update index next)

/-- The answers to actions on databases of the fleet, and the fleet after them. An action on a
database that the fleet lacks is passed over. -/
def run (fleet : Fleet) :
    List (Nat × Database.Action) → List (Except Database.Error Database.Answer) × Fleet
  | [] => ([], fleet)
  | (index, action) :: actions =>
      match fleet.step? index action with
      | none => fleet.run actions
      | some (answer, next) =>
          let (answers, last) := next.run actions
          (answer :: answers, last)

def create (first : Database) (others : Nat) : Fleet :=
  { databases := first :: List.replicate others {} }

def stopFrom (fleet : Fleet) : (index left : Nat) → Fleet
  | _, 0 => fleet
  | index, left + 1 =>
      ((fleet.member? index).elim fleet fun member => fleet.update index member.stop.2).stopFrom
        (index + 1) left

def stopAll (fleet : Fleet) : Fleet := fleet.stopFrom 0 fleet.databases.length

def snapshot (fleet : Fleet) : List (String × Table) := fleet.site.store.catalog.snapshot

end Fleet

end RowStore
