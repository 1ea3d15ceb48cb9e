import Mathlib.Data.List.Forall2
import RowStore.Journal.Context
import RowStore.Proofs.OrderedMap

/-!
What is bound inside scopes, and outside them again.

The innermost scope that binds a name gives its value. A scope leaves every name as it found it, so
the contexts on the way out of nested scopes hold what those on the way in do.
-/

namespace RowStore.Journal

namespace Scope

def value? (scope : Scope) (name : String) : Option Json :=
  (OrderedMap.ofList scope.bindings).get? name

variable (scope : Scope) (context : Bindings) (name : String)

theorem get?_enter :
    (scope.enter context).get? name = (scope.value? name).or (context.get? name) :=
  OrderedMap.get?_putAll_eq_or ..

theorem get?_enter_of_not_mem (hname : name ∉ scope.names) :
    (scope.enter context).get? name = context.get? name :=
  OrderedMap.get?_putAll_of_not_mem hname

theorem get?_leave (inner : Bindings) :
    (scope.leave (scope.hidden context) inner).get? name =
      if name ∈ scope.names then context.get? name else inner.get? name := by
  have hnodup : ((scope.hidden context).map Prod.fst).Nodup :=
    context.nodup.sublist (List.filter_sublist.map Prod.fst)
  have hhidden : entryValue? name (scope.hidden context) =
      if name ∈ scope.names then context.get? name else none := by
    refine (@entryValue?_filter _ _ _ (fun name => name ∈ scope.names) name
      context.entries).trans ?_
    simp only [decide_eq_true_eq]
    rfl
  rw [leave, OrderedMap.get?_putAll hnodup, hhidden, OrderedMap.get?_filterKeys]
  by_cases hname : name ∈ scope.names <;> simp [hname]

theorem alike_leave {context inner : Bindings} (hinner : inner.Alike (scope.enter context)) :
    (scope.leave (scope.hidden context) inner).Alike context := by
  intro name
  rw [get?_leave]
  split
  next => rfl
  next hname => rw [hinner, get?_enter_of_not_mem scope context name hname]

end Scope

/-- The context inside scopes that are entered one inside another. -/
def entered (context : Bindings) (scopes : List Scope) : Bindings :=
  scopes.foldl (fun context scope => scope.enter context) context

theorem get?_entered (context : Bindings) (scopes : List Scope) (name : String) :
    (entered context scopes).get? name =
      (scopes.reverse.findSome? fun scope => scope.value? name).or (context.get? name) := by
  induction scopes generalizing context with
  | nil => rfl
  | cons scope scopes ih =>
      have hcons : entered context (scope :: scopes) = entered (scope.enter context) scopes := rfl
      rw [hcons, ih, Scope.get?_enter, List.reverse_cons, List.findSome?_append,
        List.findSome?_singleton, Option.or_assoc]

/-- The contexts from the outermost one to the one outside the innermost scope. -/
def outer (context : Bindings) (scopes : List Scope) : List Bindings :=
  (List.range scopes.length).map fun depth => entered context (scopes.take depth)

theorem outer_cons (context : Bindings) (scope : Scope) (scopes : List Scope) :
    outer context (scope :: scopes) = context :: outer (scope.enter context) scopes := by
  rw [outer, List.length_cons, List.range_succ_eq_map, List.map_cons, List.map_map]
  rfl

section Acts

variable {κ : Type}

def Act.call? : Act κ → Option (κ × Bindings)
  | call made context => some (made, context)
  | enter _ => none

/-- The calls that are made, each with its context. -/
def made (acts : List (Act κ)) : List (κ × Bindings) := acts.filterMap Act.call?

def madeIn (calls : List κ) (context : Bindings) : List (κ × Bindings) :=
  calls.map fun call => (call, context)

theorem made_map_call (calls : List κ) (context : Bindings) :
    made (calls.map fun call => .call call context) = madeIn calls context := by
  rw [made, List.filterMap_map]
  exact congrFun List.filterMap_eq_map calls

theorem made_acts_cons (calls : List κ) (scope : Scope) (scopes : List Scope)
    (context : Bindings) :
    made (acts calls (scope :: scopes) context).1 =
      madeIn calls context ++ made (acts calls scopes (scope.enter context)).1 ++
        madeIn calls (acts calls (scope :: scopes) context).2 := by
  rw [← made_map_call, ← made_map_call, acts, made, List.filterMap_append, List.filterMap_append,
    List.filterMap_cons]
  rfl

/-- On the way out the contexts of the way in come back, the innermost first. -/
theorem exists_outward (calls : List κ) (scopes : List Scope) (context : Bindings) :
    (acts calls scopes context).2.Alike context ∧
      ∃ outward, List.Forall₂ OrderedMap.Alike outward (outer context scopes).reverse ∧
        made (acts calls scopes context).1 =
          (outer context scopes ++ entered context scopes :: outward).flatMap (madeIn calls) := by
  induction scopes generalizing context with
  | nil =>
      refine ⟨.refl context, [], .nil, ?_⟩
      rw [acts, made_map_call]
      exact (List.append_nil _).symm
  | cons scope scopes ih =>
      obtain ⟨hinner, outward, halike, hmade⟩ := ih (scope.enter context)
      have hrestored : (acts calls (scope :: scopes) context).2.Alike context :=
        scope.alike_leave hinner
      refine ⟨hrestored, outward ++ [(acts calls (scope :: scopes) context).2], ?_, ?_⟩
      · rw [outer_cons, List.reverse_cons]
        exact List.rel_append halike (.cons hrestored .nil)
      · rw [made_acts_cons, hmade, outer_cons]
        simp [List.flatMap_append, entered]

end Acts

end RowStore.Journal
