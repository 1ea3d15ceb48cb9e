import RowStore.Database.Host

/-!
The measurements of a whole process: which registry holds a set of them, which set is current, and
where sets are offered for scraping.

A registry takes one set and refuses a second. The current set is the one last set up; if none was,
the first use puts one into the common registry.
-/

namespace RowStore

inductive Registry
  | own
  | common
  deriving DecidableEq

structure Exposure where
  own : Option Metrics := none
  common : Option Metrics := none
  current : Option Registry := none
  served : List (Int × Registry) := []
  deriving DecidableEq

namespace Exposure

inductive Duplicate
  | occupied
  deriving DecidableEq

def Duplicate.message : Duplicate → String
  | occupied => "Duplicated timeseries"

def metrics? (exposure : Exposure) : Registry → Option Metrics
  | .own => exposure.own
  | .common => exposure.common

def setMetrics (exposure : Exposure) (registry : Registry) (metrics : Metrics) : Exposure :=
  match registry with
  | .own => { exposure with own := some metrics }
  | .common => { exposure with common := some metrics }

def register (exposure : Exposure) (registry : Registry) (metrics : Metrics) :
    Except Duplicate Exposure :=
  match exposure.metrics? registry with
  | some _ => .error .occupied
  | none => .ok { exposure.setMetrics registry metrics with current := some registry }

def setUp (exposure : Exposure) (registry : Registry) (port : Int) : Except Duplicate Exposure :=
  (exposure.register registry { version := some Service.version }).map fun next =>
    { next with served := next.served ++ [(port, registry)] }

def obtainCurrent (exposure : Exposure) : Except Duplicate (Registry × Exposure) :=
  match exposure.current with
  | some registry => .ok (registry, exposure)
  | none => (exposure.register .common .empty).map fun next => (.common, next)

def defaultPort : Int := 8001

def execute (exposure : Exposure) (statement : String) :
    Except Duplicate (Except Database.Error (Option (List Row)) × Exposure) :=
  exposure.obtainCurrent.map fun (registry, next) =>
    let metrics := (next.metrics? registry).getD .empty
    let fresh : Host := { site := { store := { metrics := metrics } } }
    let (answer, used) := fresh.start.2.execute statement
    (answer, next.setMetrics registry used.site.store.metrics)

inductive Action
  | setUp (registry : Registry) (port : Int)
  | obtain
  | execute (statement : String)
  deriving DecidableEq

/-- A registry answers for the set that it holds. -/
inductive Answer
  | metrics (registry : Registry)
  | result (answer : Except Database.Error (Option (List Row)))

def step (exposure : Exposure) : Action → Except Duplicate Answer × Exposure
  | .setUp registry port =>
      match exposure.setUp registry port with
      | .error duplicate => (.error duplicate, exposure)
      | .ok next => (.ok (.metrics registry), next)
  | .obtain =>
      match exposure.obtainCurrent with
      | .error duplicate => (.error duplicate, exposure)
      | .ok (registry, next) => (.ok (.metrics registry), next)
  | .execute statement =>
      match exposure.execute statement with
      | .error duplicate => (.error duplicate, exposure)
      | .ok (answer, next) => (.ok (.result answer), next)

def run (exposure : Exposure) : List Action → List (Except Duplicate Answer) × Exposure
  | [] => ([], exposure)
  | action :: actions =>
      let (answer, next) := exposure.step action
      let (answers, last) := next.run actions
      (answer :: answers, last)

end Exposure

end RowStore
