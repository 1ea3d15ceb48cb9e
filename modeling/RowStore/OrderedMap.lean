/-!
Maps that remember the order in which their keys were first put.

Putting a key again changes its value and keeps its place. The entries have distinct keys by
construction, so two maps are equal when their entries are.
-/

namespace RowStore

section Entries

variable {κ β : Type} [DecidableEq κ]

def entryValue? (key : κ) : List (κ × β) → Option β
  | [] => none
  | (other, value) :: entries => if other = key then some value else entryValue? key entries

/-- Puts a value under a key in a list of entries: in the key's place, else at the end. -/
def putEntry (key : κ) (value : β) : List (κ × β) → List (κ × β)
  | [] => [(key, value)]
  | (other, old) :: entries =>
      if other = key then (key, value) :: entries
      else (other, old) :: putEntry key value entries

theorem mem_keys_putEntry {key other : κ} {value : β} {entries : List (κ × β)} :
    other ∈ (putEntry key value entries).map Prod.fst ↔
      other = key ∨ other ∈ entries.map Prod.fst := by
  induction entries with
  | nil => simp [putEntry]
  | cons entry entries ih =>
    by_cases h : entry.1 = key
    · simp [putEntry, h]
    · simp only [putEntry, h, if_false, List.map_cons, List.mem_cons, ih]
      exact or_left_comm

theorem nodup_keys_putEntry {key : κ} {value : β} {entries : List (κ × β)}
    (h : (entries.map Prod.fst).Nodup) : ((putEntry key value entries).map Prod.fst).Nodup := by
  induction entries with
  | nil => simp [putEntry]
  | cons entry entries ih =>
    by_cases hk : entry.1 = key
    · rw [putEntry, if_pos hk, ← hk]
      exact h
    · rw [putEntry, if_neg hk, List.map_cons, List.nodup_cons, mem_keys_putEntry, not_or]
      rw [List.map_cons, List.nodup_cons] at h
      exact ⟨⟨hk, h.1⟩, ih h.2⟩

theorem entryValue?_putEntry {key other : κ} {value : β} {entries : List (κ × β)} :
    entryValue? other (putEntry key value entries) =
      if other = key then some value else entryValue? other entries := by
  induction entries with
  | nil => simp [putEntry, entryValue?, eq_comm]
  | cons entry entries ih =>
    by_cases hk : entry.1 = key
    · by_cases h : other = key
      · simp [putEntry, entryValue?, hk, h]
      · simp [putEntry, entryValue?, hk, h, Ne.symm h]
    · by_cases h : entry.1 = other
      · have : other ≠ key := h ▸ hk
        simp [putEntry, entryValue?, h, this]
      · simp [putEntry, entryValue?, hk, h, ih]

def insertByKey {β : Type} (entry : String × β) : List (String × β) → List (String × β)
  | [] => [entry]
  | other :: entries =>
      if entry.1 < other.1 then entry :: other :: entries
      else other :: insertByKey entry entries

def sortByKey {β : Type} (entries : List (String × β)) : List (String × β) :=
  entries.foldr insertByKey []

theorem perm_insertByKey {β : Type} (entry : String × β) (entries : List (String × β)) :
    (insertByKey entry entries).Perm (entry :: entries) := by
  induction entries with
  | nil => exact .refl _
  | cons other entries ih =>
    unfold insertByKey
    split
    · exact .refl _
    · exact (ih.cons other).trans (.swap entry other entries)

theorem perm_sortByKey {β : Type} (entries : List (String × β)) :
    (sortByKey entries).Perm entries := by
  induction entries with
  | nil => exact .refl _
  | cons entry entries ih => exact (perm_insertByKey entry _).trans (ih.cons entry)

end Entries

structure OrderedMap (κ β : Type) where
  entries : List (κ × β)
  nodup : (entries.map Prod.fst).Nodup

namespace OrderedMap

variable {κ β γ : Type}

theorem ext_entries {first second : OrderedMap κ β} (h : first.entries = second.entries) :
    first = second := by
  cases first; cases second; cases h; rfl

instance [DecidableEq κ] [DecidableEq β] : DecidableEq (OrderedMap κ β) := fun first second =>
  decidable_of_iff (first.entries = second.entries) ⟨ext_entries, fun h => h ▸ rfl⟩

def empty : OrderedMap κ β := ⟨[], List.nodup_nil⟩

instance : Inhabited (OrderedMap κ β) := ⟨empty⟩

@[simp] theorem entries_empty : (empty : OrderedMap κ β).entries = [] := rfl

def keys (map : OrderedMap κ β) : List κ := map.entries.map Prod.fst

def size (map : OrderedMap κ β) : Nat := map.entries.length

def filterKeys (keep : κ → Bool) (map : OrderedMap κ β) : OrderedMap κ β :=
  ⟨map.entries.filter fun entry => keep entry.1,
    map.nodup.sublist (List.filter_sublist.map Prod.fst)⟩

variable [DecidableEq κ]

def get? (map : OrderedMap κ β) (key : κ) : Option β := entryValue? key map.entries

def contains (map : OrderedMap κ β) (key : κ) : Bool := (map.get? key).isSome

/-- Keeps the place of a key that is there already. -/
def put (map : OrderedMap κ β) (key : κ) (value : β) : OrderedMap κ β :=
  ⟨putEntry key value map.entries, nodup_keys_putEntry map.nodup⟩

def putAll (map : OrderedMap κ β) (entries : List (κ × β)) : OrderedMap κ β :=
  entries.foldl (fun map entry => map.put entry.1 entry.2) map

/-- Changes nothing if the key is there already. -/
def putNew (map : OrderedMap κ β) (key : κ) (value : β) : OrderedMap κ β :=
  if map.contains key then map else map.put key value

/-- Each key stands where it first occurs and holds what it last occurs with. -/
def ofList (entries : List (κ × β)) : OrderedMap κ β := empty.putAll entries

def mapValues (f : β → γ) (map : OrderedMap κ β) : OrderedMap κ γ :=
  ⟨map.entries.map fun entry => (entry.1, f entry.2),
    by simpa [Function.comp_def] using map.nodup⟩

@[simp] theorem get?_empty (key : κ) : (empty : OrderedMap κ β).get? key = none := rfl

@[simp] theorem putAll_nil (map : OrderedMap κ β) : map.putAll [] = map := rfl

@[simp] theorem putAll_cons (map : OrderedMap κ β) (entry : κ × β) (entries : List (κ × β)) :
    map.putAll (entry :: entries) = (map.put entry.1 entry.2).putAll entries := rfl

theorem putAll_append (map : OrderedMap κ β) (first second : List (κ × β)) :
    map.putAll (first ++ second) = (map.putAll first).putAll second := by
  simp [putAll]

theorem get?_put (map : OrderedMap κ β) (key other : κ) (value : β) :
    (map.put key value).get? other = if other = key then some value else map.get? other :=
  entryValue?_putEntry

theorem get?_putNew (map : OrderedMap κ β) (key other : κ) (value : β) :
    (map.putNew key value).get? other =
      (map.get? other).or (if other = key then some value else none) := by
  unfold putNew contains
  split
  next hheld =>
    split
    next hkey =>
      obtain ⟨held, hheld⟩ := Option.isSome_iff_exists.mp hheld
      rw [hkey, hheld, Option.some_or]
    next => rw [Option.or_none]
  next hfree =>
    rw [get?_put]
    split
    next hkey =>
      rw [hkey, Option.not_isSome_iff_eq_none.mp hfree, Option.none_or]
    next => rw [Option.or_none]

end OrderedMap

end RowStore
