import RowStore.Service

namespace RowStore.Trace

inductive Exporter
  | collector (endpoint : String) (insecure : Bool)
  | console
  deriving DecidableEq

/-- What describes the service to a collector, and the exporters of its spans. -/
structure Provider where
  resource : List (String × String)
  exporters : List Exporter
  deriving DecidableEq

def Provider.ofOptions (serviceName : String) (endpoint : Option String) (console : Bool) :
    Provider :=
  { resource := [("service.name", serviceName), ("service.version", Service.version)]
    exporters :=
      (match endpoint with
        | none => []
        | some endpoint => if endpoint = "" then [] else [.collector endpoint true]) ++
      (if console then [.console] else []) }

/-- A tracer is made on first use, or belongs to the provider last set up. -/
inductive TracerOrigin
  | firstUse
  | setUp (provider : Provider)
  deriving DecidableEq

structure Current where
  origin : Option TracerOrigin := none
  deriving DecidableEq

inductive Call
  | setUp (provider : Provider)
  | obtain

def Call.provider? : Call → Option Provider
  | setUp provider => some provider
  | obtain => none

namespace Current

def setUp (_ : Current) (provider : Provider) : Current := ⟨some (.setUp provider)⟩

def tracer (current : Current) : TracerOrigin × Current :=
  let origin := current.origin.getD .firstUse
  (origin, ⟨some origin⟩)

def step (current : Current) : Call → Current
  | .setUp provider => current.setUp provider
  | .obtain => current.tracer.2

@[simp] theorem tracer_setUp (current : Current) (provider : Provider) :
    (current.setUp provider).tracer.1 = .setUp provider := rfl

@[simp] theorem tracer_tracer (current : Current) :
    current.tracer.2.tracer.1 = current.tracer.1 := rfl

/-- The tracer is that of the provider last set up. Before the first one it is made once. -/
theorem tracer_foldl_step (current : Current) (calls : List Call) :
    (calls.foldl step current).tracer.1 =
      (calls.reverse.findSome? Call.provider?).elim current.tracer.1 .setUp := by
  induction calls generalizing current with
  | nil => rfl
  | cons call calls ih =>
      rw [List.foldl_cons, ih, List.reverse_cons, List.findSome?_append]
      cases calls.reverse.findSome? Call.provider? with
      | some provider => rfl
      | none => cases call <;> rfl

end Current

end RowStore.Trace
