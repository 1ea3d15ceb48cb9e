import RowStore.Failure
import RowStore.Json.Basic
import RowStore.Service

namespace RowStore

def Fault.description (fault : Fault) : String := fault.title ++ ": " ++ fault.message

def Fault.ofResult? {ε α : Type} (fault : ε → Fault) : Except ε α → Option Fault
  | .ok _ => none
  | .error raised => some (fault raised)

namespace Trace

/-- A finished span. Faults that pass through it are recorded as events, and the last one that ended
it is its status. Spans that look the same have different numbers. -/
structure Span where
  id : Nat
  parent : Option Nat
  name : String
  attributes : List (String × Json)
  status : Option Fault := none
  events : List Fault := []

/-- Work in a state that comes to a value or raises. -/
abbrev Work (σ ε α : Type) := σ → Except ε α × σ

/-- What is left to the library that spans are made with: how a span is made the current one for the
length of some work, and what can be seen of spans in a state. -/
structure Kit (σ : Type) where
  within {ε α : Type} (fault : ε → Fault) (name : String) (attributes : List (String × Json))
    (work : Work σ ε α) : Work σ ε α
  current : σ → Option Nat
  issued : σ → List Nat
  finished : σ → List Span
  keep : List (String × Json) → List (String × Json)

section Wrappers

variable {σ ε α : Type} (kit : Kit σ) (fault : ε → Fault)

/-- Work inside a span. -/
def span (name : String) (attributes : List (String × Json)) (work : Work σ ε α) : Work σ ε α :=
  kit.within fault name attributes work

def statementSpan (kind statement : String) (work : Work σ ε α) : Work σ ε α :=
  span kit fault (Service.name ++ "." ++ kind)
    [(Service.name ++ ".statement.kind", .string kind),
      (Service.name ++ ".statement", .string statement)] work

inductive Opening
  | named (name : String) (attributes : List (String × Json))
  | statement (kind text : String)

def Opening.around (opening : Opening) (work : Work σ ε α) : Work σ ε α :=
  match opening with
  | named name attributes => span kit fault name attributes work
  | statement kind text => statementSpan kit fault kind text work

/-- Work inside the innermost of spans that begin one inside another. -/
def nest (openings : List Opening) (work : Work σ ε α) : Work σ ε α :=
  openings.foldr (Opening.around kit fault) work

end Wrappers

end Trace

end RowStore
