import RowStore.Proofs.Results
import RowStore.Settings.Environment

/-!
Settings that are accepted, and the databases that are made with them.

The rules of the fields let nothing through that the check of a database stops. So it does not
matter which variables the values come from, or at which time they were read: a database can be made
with settings that were accepted, and it carries out statements as they say.
-/

namespace RowStore

namespace Binary64

theorem below_eq_false_of_atLeast {number least : Binary64} (h : number.atLeast least = true) :
    number.below least = false := by
  rw [atLeast] at h
  rw [below]
  cases hcompare : number.compare? least with
  | none => rfl
  | some order =>
      rw [hcompare] at h
      cases order with
      | lt => contradiction
      | eq | gt => rfl

end Binary64

namespace Validation

variable {α β : Type}

theorem Gathered.both_eq_ok_iff {ε : Type} {first : Gathered ε α} {second : Gathered ε β}
    {values : α × β} :
    first.both second = .ok values ↔ first = .ok values.1 ∧ second = .ok values.2 := by
  obtain ⟨value, other⟩ := values
  cases first <;> cases second <;> simp [both]

theorem field_ok {fields : List (String × Json)} {name : String} {rule : Rule α}
    {default value : α} (holds : α → Prop) (hdefault : holds default)
    (hrule : ∀ given value, rule given = .ok value → holds value)
    (hfield : field fields name rule default = .ok value) : holds value := by
  rw [field] at hfield
  split at hfield
  next => exact Except.ok.inj hfield ▸ hdefault
  next given _ => exact hrule given value (mapError_eq_ok_iff.mp hfield)

namespace Rule

theorem atLeast_of_realFrom {least : Int} {given : Json} {number : Binary64}
    (h : realFrom least given = .ok number) : number.atLeast (.ofInt least) = true := by
  obtain ⟨found, -, hfound⟩ := bind_eq_ok_iff.mp h
  split at hfound
  next hleast => exact Except.ok.inj hfound ▸ hleast
  next => contradiction

theorem bounds_of_integerWithin {least greatest : Int} {given : Json} {number : Int}
    (h : integerWithin least greatest given = .ok number) :
    least ≤ number ∧ number ≤ greatest := by
  obtain ⟨found, -, hfound⟩ := bind_eq_ok_iff.mp h
  split at hfound
  next => contradiction
  next hgreatest =>
    split at hfound
    next => contradiction
    next hleast =>
      obtain rfl := Except.ok.inj hfound
      exact ⟨Int.not_lt.mp hleast, Int.not_lt.mp hgreatest⟩

end Rule

end Validation

open Validation

namespace Execution

/-- The bounds that the rules of the fields set. -/
structure InBounds (execution : Execution) : Prop where
  delay : execution.delay.atLeast .zero = true
  workers : 1 ≤ execution.workers ∧ execution.workers ≤ 64

theorem inBounds_default : InBounds {} where
  delay := by decide
  workers := by decide

theorem inBounds_of_ofFields {fields : List (String × Json)} {execution : Execution}
    (h : ofFields fields = .ok execution) : execution.InBounds := by
  obtain ⟨⟨delay, workers, serialized⟩, hvalues, rfl⟩ := map_eq_ok_iff.mp h
  obtain ⟨hdelay, hvalues⟩ := Gathered.both_eq_ok_iff.mp hvalues
  obtain ⟨hworkers, -⟩ := Gathered.both_eq_ok_iff.mp hvalues
  exact {
    delay := field_ok (fun delay => delay.atLeast .zero = true) inBounds_default.delay
      (fun _ _ => Rule.atLeast_of_realFrom) hdelay
    workers := field_ok (fun workers => 1 ≤ workers ∧ workers ≤ 64) inBounds_default.workers
      (fun _ _ => Rule.bounds_of_integerWithin) hworkers }

theorem InBounds.unfit?_eq_none {execution : Execution} (hbounds : execution.InBounds) :
    execution.unfit? = none := by
  rw [unfit?, Binary64.below_eq_false_of_atLeast hbounds.delay,
    if_neg Bool.false_ne_true, if_neg (Int.not_lt.mpr hbounds.workers.1)]

end Execution

theorem checkSection_ok {α : Type} {given : Option Json} {part : Section} {default value : α}
    {ofFields : List (String × Json) → Checked α} {holds : α → Prop} (hdefault : holds default)
    (hfields : ∀ fields value, ofFields fields = .ok value → holds value)
    (hsection : checkSection given part default ofFields = .ok value) : holds value := by
  unfold checkSection at hsection
  split at hsection
  next => exact Except.ok.inj hsection ▸ hdefault
  next =>
    split at hsection
    next fields _ => exact hfields fields value (mapError_eq_ok_iff.mp hsection)
    next => contradiction

namespace Settings

variable {settings : Settings}

theorem inBounds_of_ofSections {given : Section → Option Json}
    (h : ofSections given = .ok settings) : settings.execution.InBounds := by
  obtain ⟨⟨execution, server, observability⟩, hvalues, rfl⟩ := map_eq_ok_iff.mp h
  obtain ⟨hexecution, -⟩ := Gathered.both_eq_ok_iff.mp hvalues
  exact checkSection_ok Execution.inBounds_default
    (fun _ _ => Execution.inBounds_of_ofFields) hexecution

theorem inBounds_of_ofEnvironment {environment : Environment}
    (h : ofEnvironment environment = .ok settings) : settings.execution.InBounds := by
  rw [ofEnvironment] at h
  split at h
  next => contradiction
  next =>
    obtain ⟨execution, -, h⟩ := bind_eq_ok_iff.mp h
    obtain ⟨server, -, h⟩ := bind_eq_ok_iff.mp h
    obtain ⟨observability, -, h⟩ := bind_eq_ok_iff.mp h
    exact inBounds_of_ofSections (mapError_eq_ok_iff.mp h)

namespace Cache

/-- The cache after the settings were read in several environments, one after another. -/
def after (cache : Cache) (environments : List Environment) : Cache :=
  environments.foldl (fun cache environment => (cache.read environment).2) cache

theorem kept_read (cache : Cache) (environment : Environment) :
    (cache.read environment).2.kept = cache.kept.or (ofEnvironment environment).toOption := by
  rw [read]
  split
  next h => rw [h]; rfl
  next h =>
    rw [h, Option.none_or]
    split
    next herror => rw [herror]; exact h
    next hok => rw [hok]; rfl

/-- The first settings that are accepted are kept. -/
theorem kept_after (cache : Cache) (environments : List Environment) :
    (cache.after environments).kept = cache.kept.or
      (environments.findSome? fun environment => (ofEnvironment environment).toOption) := by
  induction environments generalizing cache with
  | nil => exact (Option.or_none).symm
  | cons environment environments ih =>
      have hcons : cache.after (environment :: environments) =
          (cache.read environment).2.after environments := rfl
      rw [hcons, ih, kept_read, Option.or_assoc, List.findSome?_cons]
      cases (ofEnvironment environment).toOption <;> rfl

theorem kept_of_read {cache : Cache} {environment : Environment} {same : Bool}
    (h : (cache.read environment).1 = .ok (settings, same)) :
    (cache.read environment).2.kept = some settings := by
  rw [kept_read]
  rw [read] at h
  split at h
  next hkept =>
    obtain ⟨rfl, -⟩ := Prod.mk.inj (Except.ok.inj h)
    rw [hkept, Option.some_or]
  next hkept =>
    rw [hkept, Option.none_or]
    split at h
    next => contradiction
    next hok =>
      obtain ⟨rfl, -⟩ := Prod.mk.inj (Except.ok.inj h)
      rw [hok]
      rfl

theorem exists_of_read {environments : List Environment}
    {environment : Environment} {same : Bool}
    (h : ((after {} environments).read environment).1 = .ok (settings, same)) :
    ∃ given ∈ environments ++ [environment], ofEnvironment given = .ok settings := by
  have hkept : (after {} (environments ++ [environment])).kept = some settings := by
    rw [after, List.foldl_append]
    exact kept_of_read h
  rw [kept_after, Option.none_or] at hkept
  obtain ⟨given, hgiven, hsettings⟩ := List.exists_of_findSome?_eq_some hkept
  refine ⟨given, hgiven, ?_⟩
  cases hresult : ofEnvironment given with
  | error error => rw [hresult] at hsettings; contradiction
  | ok value => rw [hresult] at hsettings; exact congrArg _ (Option.some.inj hsettings)

end Cache

/-- A database can be made with settings that were accepted, in whatever environments they were read
before, and has its delay, its workers and their turns from them. -/
theorem accepted_settings_build {environments : List Environment}
    {environment : Environment} {same : Bool}
    (haccepted : ((Cache.after {} environments).read environment).1 = .ok (settings, same)) :
    Database.ofSettings settings =
        .ok { execution := {
          delay := settings.execution.delay
          workers := settings.execution.workers
          serialized := settings.execution.serialized } } ∧
      settings.execution.delay.atLeast .zero = true ∧
      1 ≤ settings.execution.workers ∧ settings.execution.workers ≤ 64 := by
  obtain ⟨given, -, hgiven⟩ := Cache.exists_of_read haccepted
  have hbounds := inBounds_of_ofEnvironment hgiven
  refine ⟨?_, hbounds.delay, hbounds.workers⟩
  rw [Database.ofSettings, Database.create, hbounds.unfit?_eq_none]

/-- The single field wins over the number of workers in the object, which would not be accepted. -/
theorem accepted_settings_build_of_overrides :
    let earlier : List Environment :=
      [{ entries := [("memdb_execution", "0")], depth := 1 }]
    let environment : Environment :=
      { entries :=
          [("MEMDB_Execution", "\x7b\"max_workers\": 0, \"EXECUTION_DELAY\": 0.25\x7d"),
            ("memdb_execution__Max_Workers", " 007 ")]
        depth := 1 }
    let execution : Execution := { delay := .ofDecimal false 25 (-2), workers := 7 }
    ((Cache.after {} earlier).read environment).1 = .ok ({ execution := execution }, false) ∧
      Database.ofSettings { execution := execution } = .ok { execution := execution } := by
  intro earlier environment execution
  have haccepted : ((Cache.after {} earlier).read environment).1 =
      .ok ({ execution := execution }, false) := rfl
  exact ⟨haccepted, (accepted_settings_build haccepted).1⟩

end Settings

end RowStore
