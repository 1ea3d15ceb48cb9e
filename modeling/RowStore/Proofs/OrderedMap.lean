import Mathlib.Data.List.Nodup
import RowStore.OrderedMap

namespace RowStore

section Entries

variable {κ β : Type} [DecidableEq κ]

theorem isSome_entryValue?_iff {key : κ} {entries : List (κ × β)} :
    (entryValue? key entries).isSome = true ↔ key ∈ entries.map Prod.fst := by
  induction entries with
  | nil => simp [entryValue?]
  | cons entry entries ih =>
      obtain ⟨other, value⟩ := entry
      by_cases h : other = key
      · simp [entryValue?, h]
      · simp [entryValue?, h, ih, Ne.symm h]

theorem keys_putEntry {key : κ} {value : β} {entries : List (κ × β)} :
    (putEntry key value entries).map Prod.fst =
      if key ∈ entries.map Prod.fst then entries.map Prod.fst
      else entries.map Prod.fst ++ [key] := by
  induction entries with
  | nil => simp [putEntry]
  | cons entry entries ih =>
      obtain ⟨other, old⟩ := entry
      by_cases h : other = key
      · simp [putEntry, h]
      · simp only [putEntry, h, if_false, List.map_cons, ih, List.mem_cons, Ne.symm h, false_or]
        split <;> rfl

theorem append_new_cons (keys : List κ) (key : κ) (more : List κ) :
    (if key ∈ keys then keys else keys ++ [key]) ++
        (more.filter fun other =>
          other ∉ if key ∈ keys then keys else keys ++ [key]).eraseDups =
      keys ++ ((key :: more).filter fun other => other ∉ keys).eraseDups := by
  by_cases hmem : key ∈ keys
  · simp [hmem]
  · simp only [hmem, if_false, not_false_eq_true, decide_true, List.filter_cons_of_pos,
      List.eraseDups_cons, List.filter_filter, List.append_assoc, List.singleton_append]
    congr 4
    funext other
    by_cases hother : other = key <;> simp [hother]

theorem putEntry_of_not_mem {key : κ} {value : β} {entries : List (κ × β)}
    (hnew : key ∉ entries.map Prod.fst) :
    putEntry key value entries = entries ++ [(key, value)] := by
  induction entries with
  | nil => rfl
  | cons entry entries ih =>
      rw [List.map_cons, List.mem_cons, not_or] at hnew
      rw [putEntry, if_neg (Ne.symm hnew.1), ih hnew.2, List.cons_append]

theorem filterMap_entryValue? {entries : List (κ × β)}
    (hnodup : (entries.map Prod.fst).Nodup) :
    (entries.map Prod.fst).filterMap (fun key => (entryValue? key entries).map (Prod.mk key)) =
      entries := by
  induction entries with
  | nil => rfl
  | cons entry entries ih =>
      obtain ⟨key, value⟩ := entry
      rw [List.map_cons, List.nodup_cons] at hnodup
      have hhead : entryValue? key ((key, value) :: entries) = some value := if_pos rfl
      rw [List.map_cons, List.filterMap_cons, hhead, Option.map_some]
      refine congrArg (List.cons _) (Eq.trans ?_ (ih hnodup.2))
      apply List.filterMap_congr
      intro other hother
      have hne : key ≠ other := fun h => hnodup.1 (h ▸ hother)
      rw [entryValue?, if_neg hne]

theorem entryValue?_map {γ : Type} {key : κ} {entries : List (κ × β)} (f : β → γ) :
    entryValue? key (entries.map fun entry => (entry.1, f entry.2)) =
      (entryValue? key entries).map f := by
  induction entries with
  | nil => rfl
  | cons entry entries ih =>
      simp only [List.map_cons, entryValue?, ih]
      split <;> rfl

theorem filter_putEntry {keep : κ → Bool} {key : κ} {value : β} {entries : List (κ × β)} :
    (putEntry key value entries).filter (fun entry => keep entry.1) =
      if keep key then putEntry key value (entries.filter fun entry => keep entry.1)
      else entries.filter fun entry => keep entry.1 := by
  induction entries with
  | nil =>
      cases hkeep : keep key <;> simp [putEntry, hkeep]
  | cons entry entries ih =>
      obtain ⟨other, old⟩ := entry
      by_cases hkey : other = key
      · subst hkey
        cases hkeep : keep other <;> simp [putEntry, hkeep]
      · cases hother : keep other with
        | true =>
            simp only [putEntry, hkey, if_false, List.filter_cons, hother, if_true, ih]
            split <;> rfl
        | false =>
            simp only [putEntry, hkey, if_false, List.filter_cons, hother, ih, Bool.false_eq_true]

theorem entryValue?_filter {keep : κ → Bool} {key : κ} {entries : List (κ × β)} :
    entryValue? key (entries.filter fun entry => keep entry.1) =
      if keep key then entryValue? key entries else none := by
  induction entries with
  | nil => simp [entryValue?]
  | cons entry entries ih =>
      obtain ⟨other, value⟩ := entry
      by_cases hkey : other = key
      · subst hkey
        cases hkeep : keep other <;> simp [entryValue?, hkeep, ih]
      · cases hother : keep other <;> simp [entryValue?, hother, hkey, ih]

theorem entryValue?_eq_some_iff {key : κ} {value : β} {entries : List (κ × β)}
    (hnodup : (entries.map Prod.fst).Nodup) :
    entryValue? key entries = some value ↔ (key, value) ∈ entries := by
  induction entries with
  | nil => simp [entryValue?]
  | cons entry entries ih =>
      obtain ⟨other, held⟩ := entry
      rw [List.map_cons, List.nodup_cons] at hnodup
      rw [entryValue?, List.mem_cons]
      by_cases hkey : other = key
      · subst hkey
        have hnone : (other, value) ∉ entries :=
          fun hmem => hnodup.1 (List.mem_map.mpr ⟨_, hmem, rfl⟩)
        simp [hnone, eq_comm]
      · simp [hkey, Ne.symm hkey, ih hnodup.2]

theorem perm_of_entryValue? {first second : List (κ × β)}
    (hfirst : (first.map Prod.fst).Nodup) (hsecond : (second.map Prod.fst).Nodup)
    (hsame : ∀ key, entryValue? key first = entryValue? key second) : first.Perm second := by
  rw [List.perm_ext_iff_of_nodup (hfirst.of_map Prod.fst) (hsecond.of_map Prod.fst)]
  rintro ⟨key, value⟩
  rw [← entryValue?_eq_some_iff hfirst, ← entryValue?_eq_some_iff hsecond, hsame]

theorem pairwise_insertByKey {entry : String × β} {entries : List (String × β)}
    (hentries : entries.Pairwise fun first second => first.1 ≤ second.1) :
    (insertByKey entry entries).Pairwise fun first second => first.1 ≤ second.1 := by
  induction entries with
  | nil => exact List.pairwise_singleton ..
  | cons other entries ih =>
      obtain ⟨hother, hrest⟩ := List.pairwise_cons.mp hentries
      unfold insertByKey
      split
      next hlt =>
        have hle : entry.1 ≤ other.1 := String.not_lt.mp (String.lt_asymm hlt)
        refine List.pairwise_cons.mpr ⟨fun member hmember => ?_, hentries⟩
        rcases List.mem_cons.mp hmember with rfl | hmember
        · exact hle
        · exact String.le_trans hle (hother member hmember)
      next hlt =>
        refine List.pairwise_cons.mpr ⟨fun member hmember => ?_, ih hrest⟩
        rcases List.mem_cons.mp ((perm_insertByKey entry entries).mem_iff.mp hmember)
          with rfl | hmember
        · exact String.not_lt.mp hlt
        · exact hother member hmember

theorem pairwise_sortByKey (entries : List (String × β)) :
    (sortByKey entries).Pairwise fun first second => first.1 ≤ second.1 := by
  induction entries with
  | nil => exact .nil
  | cons entry entries ih => exact pairwise_insertByKey ih

theorem sortByKey_eq_of_perm {first second : List (String × β)}
    (hnodup : (first.map Prod.fst).Nodup) (hperm : first.Perm second) :
    sortByKey first = sortByKey second := by
  have hsorted := (perm_sortByKey first).trans (hperm.trans (perm_sortByKey second).symm)
  refine hsorted.eq_of_pairwise ?_ (pairwise_sortByKey first) (pairwise_sortByKey second)
  intro former latter hformer hlatter hle hge
  have hlatterFirst := hperm.mem_iff.mpr ((perm_sortByKey second).mem_iff.mp hlatter)
  exact List.inj_on_of_nodup_map hnodup ((perm_sortByKey first).mem_iff.mp hformer) hlatterFirst
    (String.le_antisymm hle hge)

end Entries

namespace OrderedMap

variable {κ β : Type} [DecidableEq κ]

theorem isSome_get?_iff {map : OrderedMap κ β} {key : κ} :
    (map.get? key).isSome = true ↔ key ∈ map.keys :=
  isSome_entryValue?_iff

theorem keys_put (map : OrderedMap κ β) (key : κ) (value : β) :
    (map.put key value).keys = if key ∈ map.keys then map.keys else map.keys ++ [key] :=
  keys_putEntry

theorem keys_put_of_get? {map : OrderedMap κ β} {key : κ} {old : β} (value : β)
    (hold : map.get? key = some old) : (map.put key value).keys = map.keys := by
  rw [keys_put, if_pos]
  rw [← isSome_get?_iff, hold]
  rfl

theorem filterKeys_put (keep : κ → Bool) (map : OrderedMap κ β) (key : κ) (value : β) :
    (map.put key value).filterKeys keep =
      if keep key then (map.filterKeys keep).put key value else map.filterKeys keep := by
  apply ext_entries
  refine filter_putEntry.trans ?_
  split <;> rfl

theorem get?_filterKeys (keep : κ → Bool) (map : OrderedMap κ β) (key : κ) :
    (map.filterKeys keep).get? key = if keep key then map.get? key else none :=
  entryValue?_filter

/-- New keys follow the old ones in the order of their first occurrence. -/
theorem keys_putAll (map : OrderedMap κ β) (entries : List (κ × β)) :
    (map.putAll entries).keys =
      map.keys ++ ((entries.map Prod.fst).filter fun key => key ∉ map.keys).eraseDups := by
  induction entries generalizing map with
  | nil => simp
  | cons entry entries ih => rw [putAll_cons, ih, keys_put, List.map_cons, append_new_cons]

theorem keys_ofList (entries : List (κ × β)) :
    (ofList entries).keys = (entries.map Prod.fst).eraseDups := by
  have hkeys : (empty : OrderedMap κ β).keys = [] := rfl
  rw [ofList, keys_putAll, hkeys]
  simp

theorem get?_putAll_of_not_mem {map : OrderedMap κ β} {key : κ} {entries : List (κ × β)}
    (hkey : key ∉ entries.map Prod.fst) : (map.putAll entries).get? key = map.get? key := by
  induction entries generalizing map with
  | nil => rfl
  | cons entry entries ih =>
      rw [List.map_cons, List.mem_cons, not_or] at hkey
      rw [putAll_cons, ih hkey.2, get?_put, if_neg hkey.1]

theorem get?_ofList_append_cons {key : κ} {value : β} {before after : List (κ × β)}
    (hlast : key ∉ after.map Prod.fst) :
    (ofList (before ++ (key, value) :: after)).get? key = some value := by
  rw [ofList, putAll_append, putAll_cons, get?_putAll_of_not_mem hlast, get?_put, if_pos rfl]

theorem get?_putAll_map {map : OrderedMap κ β} {f : κ → β} {keys : List κ} {key : κ} :
    (map.putAll (keys.map fun key => (key, f key))).get? key =
      if key ∈ keys then some (f key) else map.get? key := by
  induction keys generalizing map with
  | nil => rfl
  | cons other keys ih =>
      rw [List.map_cons, putAll_cons, ih, get?_put]
      by_cases hkey : key = other
      · simp [hkey]
      · simp [hkey]

theorem entries_eq_map_keys {map : OrderedMap κ β} {f : κ → β}
    (hheld : ∀ key ∈ map.keys, map.get? key = some (f key)) :
    map.entries = map.keys.map fun key => (key, f key) := by
  calc map.entries
      = map.keys.filterMap fun key => (map.get? key).map (Prod.mk key) :=
        (filterMap_entryValue? map.nodup).symm
    _ = map.keys.filterMap fun key => some (key, f key) :=
        List.filterMap_congr fun key hkey => by rw [hheld key hkey, Option.map_some]
    _ = map.keys.map fun key => (key, f key) := congrFun List.filterMap_eq_map _

theorem entries_ofList_map (f : κ → β) (keys : List κ) :
    (ofList (keys.map fun key => (key, f key))).entries =
      keys.eraseDups.map fun key => (key, f key) := by
  have hkeys : (ofList (keys.map fun key => (key, f key))).keys = keys.eraseDups := by
    rw [keys_ofList, List.map_map]
    exact congrArg List.eraseDups (List.map_id keys)
  rw [← hkeys]
  refine entries_eq_map_keys fun key hkey => ?_
  rw [hkeys, List.mem_eraseDups] at hkey
  rw [ofList, get?_putAll_map, if_pos hkey]

/-- Putting entries with distinct keys: a key that is among them holds what they say. -/
theorem get?_putAll {map : OrderedMap κ β} {entries : List (κ × β)}
    (hnodup : (entries.map Prod.fst).Nodup) (key : κ) :
    (map.putAll entries).get? key = (entryValue? key entries).or (map.get? key) := by
  induction entries generalizing map with
  | nil => rfl
  | cons entry entries ih =>
      obtain ⟨other, value⟩ := entry
      rw [List.map_cons, List.nodup_cons] at hnodup
      rw [putAll_cons, ih hnodup.2, get?_put, entryValue?]
      by_cases hkey : key = other
      · have hnone : entryValue? key entries = none := by
          rw [← Option.not_isSome_iff_eq_none, isSome_entryValue?_iff, hkey]
          exact hnodup.1
        rw [hnone, if_pos hkey, if_pos hkey.symm]
        rfl
      · rw [if_neg hkey, if_neg (Ne.symm hkey)]

theorem entries_putAll {map : OrderedMap κ β} {entries : List (κ × β)}
    (hnodup : ((map.entries ++ entries).map Prod.fst).Nodup) :
    (map.putAll entries).entries = map.entries ++ entries := by
  induction entries generalizing map with
  | nil => exact (List.append_nil _).symm
  | cons entry entries ih =>
      have hnew : entry.1 ∉ map.entries.map Prod.fst := by
        rw [List.map_append, List.map_cons, List.nodup_middle, List.nodup_cons] at hnodup
        exact fun hmem => hnodup.1 (List.mem_append_left _ hmem)
      have hput : (map.put entry.1 entry.2).entries = map.entries ++ [entry] :=
        putEntry_of_not_mem hnew
      rw [putAll_cons, ih (by rw [hput]; simpa using hnodup), hput, List.append_assoc,
        List.singleton_append]

theorem entries_ofList {entries : List (κ × β)} (hnodup : (entries.map Prod.fst).Nodup) :
    (ofList entries).entries = entries :=
  entries_putAll hnodup

theorem ofList_entries (map : OrderedMap κ β) : ofList map.entries = map :=
  ext_entries (entries_ofList map.nodup)

theorem get?_putAll_eq_or (map : OrderedMap κ β) (entries : List (κ × β)) (key : κ) :
    (map.putAll entries).get? key = ((ofList entries).get? key).or (map.get? key) := by
  induction entries generalizing map with
  | nil => rfl
  | cons entry entries ih =>
      rw [ofList, putAll_cons, putAll_cons, ih, ih (empty.put entry.1 entry.2), get?_put, get?_put,
        get?_empty]
      split
      next => rw [Option.or_assoc, Option.some_or]
      next => rw [Option.or_none]

/-- Two maps that hold the same under every key, in whatever order. -/
def Alike (first second : OrderedMap κ β) : Prop := ∀ key, first.get? key = second.get? key

namespace Alike

variable {first second third : OrderedMap κ β}

theorem refl (map : OrderedMap κ β) : map.Alike map := fun _ => rfl

theorem trans (hfirst : first.Alike second) (hsecond : second.Alike third) : first.Alike third :=
  fun key => (hfirst key).trans (hsecond key)

theorem symm (halike : first.Alike second) : second.Alike first := fun key => (halike key).symm

theorem put (halike : first.Alike second) (key : κ) (value : β) :
    (first.put key value).Alike (second.put key value) := fun other => by
  rw [get?_put, get?_put, halike other]

theorem put_comm (map : OrderedMap κ β) {key other : κ} (hne : key ≠ other) (value last : β) :
    ((map.put key value).put other last).Alike ((map.put other last).put key value) := by
  intro asked
  simp only [get?_put]
  by_cases hkey : asked = key
  · rw [if_pos hkey, if_neg (hkey ▸ hne), if_pos hkey]
  · rw [if_neg hkey, if_neg hkey]

theorem perm (halike : first.Alike second) : first.entries.Perm second.entries :=
  perm_of_entryValue? first.nodup second.nodup halike

theorem eq_of_keys (halike : first.Alike second) (hkeys : first.keys = second.keys) :
    first = second := by
  apply ext_entries
  rw [← filterMap_entryValue? first.nodup, ← filterMap_entryValue? second.nodup,
    show first.entries.map Prod.fst = second.entries.map Prod.fst from hkeys]
  exact List.filterMap_congr fun key _ => congrArg (Option.map (Prod.mk key)) (halike key)

end Alike

theorem put_put (map : OrderedMap κ β) (key : κ) (value last : β) :
    (map.put key value).put key last = map.put key last := by
  refine Alike.eq_of_keys (fun other => ?_) ?_
  · simp only [get?_put]
    split <;> rfl
  · have hheld : (map.put key value).get? key = some value := by rw [get?_put, if_pos rfl]
    rw [keys_put_of_get? last hheld, keys_put, keys_put]

theorem put_of_get? {map : OrderedMap κ β} {key : κ} {value : β}
    (hheld : map.get? key = some value) : map.put key value = map := by
  refine Alike.eq_of_keys (fun other => ?_) (keys_put_of_get? value hheld)
  rw [get?_put]
  split
  next hother => rw [hother, hheld]
  next => rfl

end OrderedMap

end RowStore
