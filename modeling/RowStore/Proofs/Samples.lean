import Mathlib.Algebra.BigOperators.Group.List.Basic
import Mathlib.Algebra.GroupWithZero.Nat
import RowStore.Metrics.Sample

namespace RowStore

section Sums

variable {α β : Type}

theorem sum_filterMap (f : α → Option β) (keep : β → Bool) (value : β → Nat) (list : List α) :
    (((list.filterMap f).filter keep).map value).sum =
      (list.map fun entry => ((f entry).filter keep).elim 0 value).sum := by
  induction list with
  | nil => rfl
  | cons entry list ih =>
      rw [List.map_cons, List.sum_cons, ← ih]
      cases hentry : f entry with
      | none => simp [hentry]
      | some found =>
          by_cases hkeep : keep found = true <;> simp [hentry, Option.filter, hkeep]

theorem sum_flatMap (f : α → List β) (keep : β → Bool) (value : β → Nat) (list : List α) :
    (((list.flatMap f).filter keep).map value).sum =
      (list.map fun entry => (((f entry).filter keep).map value).sum).sum := by
  induction list with
  | nil => rfl
  | cons entry list ih => simp [ih]

end Sums

namespace Metrics

theorem counted_count (metrics : Metrics) (kind other : Option Statement.Kind)
    (status otherStatus : Status) :
    (metrics.count kind status).counted other otherStatus =
      metrics.counted other otherStatus +
        if (other, otherStatus) = (kind, status) then 1 else 0 :=
  metrics.counted_record kind other status otherStatus

theorem observed_observe (metrics : Metrics) (kind other : Option Statement.Kind) :
    (metrics.observe kind).observed other =
      metrics.observed other + if other = kind then 1 else 0 :=
  metrics.observed_record kind other .success

def Sample.failed (sample : Sample) : Bool := ("status", "error") ∈ sample.labels

def sampled (keep : Sample → Bool) (metrics : Metrics) : Nat :=
  ((metrics.statementSamples.filter keep).map Sample.value).sum

theorem sampled_eq (metrics : Metrics) {keep : Sample → Bool} {chosen : Status → Bool}
    (hkeep : ∀ kind status count, keep ⟨Service.name ++ "_statements_total",
      [("kind", kindName kind), ("status", status.name)], count⟩ = chosen status) :
    metrics.sampled keep =
      (sortedKinds.map fun kind =>
        (sortedStatuses.map fun status =>
          if chosen status then metrics.counted kind status else 0).sum).sum := by
  unfold sampled statementSamples
  rw [sum_flatMap]
  congr 1
  apply List.map_congr_left
  intro kind _
  rw [sum_filterMap]
  congr 1
  apply List.map_congr_left
  intro status _
  unfold counted
  cases metrics.statements.get? (kind, status) with
  | none => simp
  | some count => by_cases hchosen : chosen status = true <;> simp [Option.filter, hkeep, hchosen]

theorem sampled_count (metrics : Metrics) {keep : Sample → Bool} {chosen : Status → Bool}
    (hkeep : ∀ kind status count, keep ⟨Service.name ++ "_statements_total",
      [("kind", kindName kind), ("status", status.name)], count⟩ = chosen status)
    (kind : Option Statement.Kind) (status : Status) :
    (metrics.count kind status).sampled keep =
      metrics.sampled keep + if chosen status then 1 else 0 := by
  rw [sampled_eq _ hkeep, sampled_eq _ hkeep]
  simp only [counted_count, sortedKinds, sortedStatuses, List.map_cons, List.map_nil, List.sum_cons,
    List.sum_nil]
  rcases kind with _ | (_ | _ | _ | _) <;> cases status <;> simp <;> split_ifs <;> omega

def Positive (metrics : Metrics) : Prop :=
  ∀ kind status count, metrics.statements.get? (kind, status) = some count → 0 < count

theorem Positive.count {metrics : Metrics} (hpositive : metrics.Positive)
    (kind : Option Statement.Kind) (status : Status) : (metrics.count kind status).Positive := by
  intro other otherStatus count hget
  simp only [Metrics.count, OrderedMap.bump, OrderedMap.get?_put] at hget
  split at hget
  next =>
    cases hget
    omega
  next => exact hpositive other otherStatus count hget

theorem kindName_eq_unknown_iff {kind : Option Statement.Kind} :
    kindName kind = "unknown" ↔ kind = none := by
  rcases kind with _ | (_ | _ | _ | _) <;> decide

theorem Status.name_eq_success_iff {status : Status} :
    status.name = "success" ↔ status = .success := by
  cases status <;> decide

theorem Positive.unknown_not_success {metrics : Metrics} (hpositive : metrics.Positive)
    (hzero : metrics.counted none .success = 0) {sample : Sample}
    (hsample : sample ∈ metrics.statementSamples) (hunknown : ("kind", "unknown") ∈ sample.labels) :
    ("status", "success") ∉ sample.labels := by
  simp only [statementSamples, List.mem_flatMap, List.mem_filterMap, Option.map_eq_some_iff]
    at hsample
  obtain ⟨kind, -, status, -, count, hget, rfl⟩ := hsample
  intro hsuccess
  have hkindName : "unknown" = kindName kind := by simpa using hunknown
  have hstatusName : "success" = status.name := by simpa using hsuccess
  have hkind := kindName_eq_unknown_iff.mp hkindName.symm
  have hstatus := Status.name_eq_success_iff.mp hstatusName.symm
  subst hkind hstatus
  have hcount := hpositive none .success count hget
  simp only [counted, hget, Option.getD_some] at hzero
  omega

end Metrics

end RowStore
