import RowStore.Journal.Basic

/-!
Contexts: values bound for the length of a scope.

Entering a scope binds its values over those of the context. Leaving it unbinds their names and
binds the values that were hidden, so each name is bound as before.
-/

namespace RowStore.Journal

structure Scope where
  statement : String
  extra : List (String × Json) := []

namespace Scope

def bindings (scope : Scope) : List (String × Json) :=
  ("statement", .string scope.statement) :: scope.extra

def names (scope : Scope) : List String := scope.bindings.map Prod.fst

def enter (scope : Scope) (context : Bindings) : Bindings := context.putAll scope.bindings

def hidden (scope : Scope) (context : Bindings) : List (String × Json) :=
  context.entries.filter fun entry => entry.1 ∈ scope.names

def leave (scope : Scope) (hidden : List (String × Json)) (context : Bindings) : Bindings :=
  (context.filterKeys fun name => name ∉ scope.names).putAll hidden

end Scope

/-- What happens in nested scopes: a logger is called in a context, or a scope is entered. -/
inductive Act (κ : Type)
  | call (call : κ) (context : Bindings)
  | enter (scope : Scope)

/-- Makes the calls in the context, then inside the first of the scopes in the same way with the
others, then in the context once more. The context afterwards comes with the acts. -/
def acts {κ : Type} (calls : List κ) : List Scope → Bindings → List (Act κ) × Bindings
  | [], context => (calls.map fun call => .call call context, context)
  | scope :: scopes, context =>
      let inner := acts calls scopes (scope.enter context)
      let restored := scope.leave (scope.hidden context) inner.2
      (calls.map (fun call => .call call context) ++ .enter scope :: inner.1 ++
        calls.map fun call => .call call restored, restored)

end RowStore.Journal
