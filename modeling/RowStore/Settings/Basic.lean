import RowStore.Database.Basic
import RowStore.Validation.Basic

namespace RowStore

open Validation

structure Server where
  host : String := "0.0.0.0"
  port : Int := 8000
  metricsPort : Int := 8001
  deriving DecidableEq

inductive JournalFormat
  | json
  | console
  deriving DecidableEq

def JournalFormat.name : JournalFormat → String
  | .json => "json"
  | .console => "console"

structure Observability where
  level : Journal.Level := .info
  format : JournalFormat := .json
  endpoint : Option String := none
  serviceName : String := Service.name
  deriving DecidableEq

structure Settings where
  execution : Execution := {}
  server : Server := {}
  observability : Observability := {}
  deriving DecidableEq

namespace Execution

def fieldNames : List String := ["execution_delay", "max_workers", "serialize_mutations"]

def ofFields (fields : List (String × Json)) : Checked Execution :=
  ((field fields "execution_delay" (.realFrom 0) .zero).both
    ((field fields "max_workers" (.integerWithin 1 64) 1).both
      (field fields "serialize_mutations" .truth false))).map
    fun (delay, workers, serialized) => ⟨delay, workers, serialized⟩

end Execution

namespace Server

def fieldNames : List String := ["host", "port", "metrics_port"]

def ofFields (fields : List (String × Json)) : Checked Server :=
  ((field fields "host" .text "0.0.0.0").both
    ((field fields "port" (.integerWithin 1 65535) 8000).both
      (field fields "metrics_port" (.integerWithin 1 65535) 8001))).map
    fun (host, port, metricsPort) => ⟨host, port, metricsPort⟩

end Server

namespace Observability

def fieldNames : List String := ["log_level", "log_format", "otel_endpoint", "otel_service_name"]

def levels : List (String × Journal.Level) :=
  Journal.Level.all.map fun level => (level.title, level)

def formats : List (String × JournalFormat) :=
  [JournalFormat.json, .console].map fun format => (format.name, format)

def ofFields (fields : List (String × Json)) : Checked Observability :=
  ((field fields "log_level" (.choice levels) .info).both
    ((field fields "log_format" (.choice formats) .json).both
      ((field fields "otel_endpoint" (.optional .text) none).both
        (field fields "otel_service_name" .text Service.name)))).map
    fun (level, format, endpoint, serviceName) => ⟨level, format, endpoint, serviceName⟩

end Observability

inductive Section
  | execution
  | server
  | observability
  deriving DecidableEq

namespace Section

def all : List Section := [execution, server, observability]

def name : Section → String
  | execution => "execution"
  | server => "server"
  | observability => "observability"

def title : Section → String
  | execution => "ExecutionConfig"
  | server => "ServerConfig"
  | observability => "ObservabilityConfig"

def fieldNames : Section → List String
  | execution => Execution.fieldNames
  | server => Server.fieldNames
  | observability => Observability.fieldNames

end Section

def checkSection (given : Option Json) (part : Section) (default : α)
    (ofFields : List (String × Json) → Checked α) : Checked α :=
  match given with
  | none => .ok default
  | some value =>
      match value.members? with
      | some fields => (ofFields fields).inside part.name
      | none => .error [⟨[part.name], .notSection part.title⟩]

namespace Settings

def ofSections (given : Section → Option Json) : Checked Settings :=
  ((checkSection (given .execution) .execution {} Execution.ofFields).both
    ((checkSection (given .server) .server {} Server.ofFields).both
      (checkSection (given .observability) .observability {} Observability.ofFields))).map
    fun (execution, server, observability) => ⟨execution, server, observability⟩

end Settings

def Database.ofSettings (settings : Settings) : Except Execution.Unfit Database :=
  Database.create settings.execution

end RowStore
