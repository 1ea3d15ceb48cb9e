import RowStore.Endpoint.Route
import RowStore.Json.Basic
import RowStore.Service
import RowStore.Text.Split

namespace RowStore.Endpoint.Schema

abbrev Shape := List (String × Json)

namespace Shape

def ofType (type : String) : Shape := [("type", .string type)]

def text : Shape := ofType "string"

def flag : Shape := ofType "boolean"

def number : Shape := ofType "integer"

def object : Shape := ofType "object"

def listOf (item : Shape) : Shape := ("items", .object item) :: ofType "array"

def mapTo (value : Json) : Shape := ("additionalProperties", value) :: object

def oneOf (shapes : List Shape) : Shape := [("anyOf", .list (shapes.map .object))]

def ofModel (name : String) : Shape := [("$ref", .string ("#/components/schemas/" ++ name))]

end Shape

def withCapital : List Char → List Char
  | [] => []
  | c :: text => c.toUpper :: text

def titleOf (name : String) : String :=
  String.ofList (Text.join [' '] ((Text.pieces ['_'] name.toList).map withCapital))

def textMember (name : String) (text : Option String) : Shape :=
  (text.map fun text => (name, Json.string text)).toList

structure Field where
  name : String
  shape : Shape
  title : String := titleOf name
  description : Option String := none
  default : Option Json := none
  isRequired : Bool := true

def Field.document (field : Field) : Json :=
  .object (("title", .string field.title) :: textMember "description" field.description ++
    (field.default.map fun value => ("default", value)).toList ++ field.shape)

structure Model where
  name : String
  description : Option String := none
  fields : List Field

def Model.document (model : Model) : Json :=
  let properties := model.fields.map fun field => (field.name, field.document)
  let needed := (model.fields.filter (·.isRequired)).map fun field => Json.string field.name
  .object (("title", .string model.name) :: textMember "description" model.description ++
    ("properties", .object properties) ::
    (if needed.isEmpty then [] else [("required", .list needed)]) ++ Shape.object)

def models : List Model :=
  [{ name := "BatchRequest"
     description := some "Request model for batch execution."
     fields :=
      [{ name := "statements"
         shape := .listOf .text
         description := some "Statements to execute together" }] },
   { name := "HTTPValidationError"
     fields :=
      [{ name := "detail", shape := .listOf (.ofModel "ValidationError"), isRequired := false }] },
   { name := "HealthResponse"
     description := some "Response model for health check."
     fields :=
      [{ name := "status", shape := .text, description := some "Health status" },
       { name := "version", shape := .text, description := some "API version" }] },
   { name := "StatementRequest"
     description := some "Request model for statement execution."
     fields :=
      [{ name := "statement", shape := .text, description := some "Statement to execute" }] },
   { name := "StatementResponse"
     description := some "Response model for statement execution."
     fields :=
      [{ name := "success"
         shape := .flag
         description := some "Whether the statement succeeded" },
       { name := "message"
         shape := .text
         description := some "Status or error message"
         default := some (.string "")
         isRequired := false },
       { name := "rows"
         shape := .oneOf [.listOf (.mapTo (.bool true)), .ofType "null"]
         description := some "Selected rows"
         isRequired := false }] },
   { name := "StatsResponse"
     description := some "Response model for database statistics."
     fields :=
      [{ name := "started", shape := .flag, description := some "Whether the database is started" },
       { name := "tables", shape := .number, description := some "Number of tables" },
       { name := "rows"
         shape := .mapTo (.object Shape.number)
         description := some "Row count per table"
         isRequired := false },
       { name := "statements_total"
         shape := .number
         description := some "Statements processed"
         default := some (.int 0)
         isRequired := false },
       { name := "statements_failed"
         shape := .number
         description := some "Statements that failed"
         default := some (.int 0)
         isRequired := false }] },
   { name := "ValidationError"
     fields :=
      [{ name := "loc", shape := .listOf (.oneOf [.text, .number]), title := "Location" },
       { name := "msg", shape := .text, title := "Message" },
       { name := "type", shape := .text, title := "Error Type" },
       { name := "input", shape := [], isRequired := false },
       { name := "ctx", shape := .object, title := "Context", isRequired := false }] }]

/-- An operation: its route and name, what it is about, and what it takes and answers. -/
structure Operation where
  route : Route
  name : String
  description : String
  tag : String
  body : Option String := none
  answer : Shape

namespace Operation

def methodName (operation : Operation) : String :=
  String.ofList ((operation.route.methods.headD "").toList.map Char.toLower)

def id (operation : Operation) : String :=
  operation.name ++
    String.ofList (operation.route.path.toList.map fun c => if c.isAlphanum then c else '_') ++
    "_" ++ operation.methodName

def content (shape : Shape) : String × Json :=
  ("content", .object [("application/json", .object [("schema", .object shape)])])

def titledAnswer (operation : Operation) : Shape :=
  if operation.answer.any (·.1 = "$ref") then operation.answer
  else ("title", .string ("Response " ++ titleOf operation.id)) :: operation.answer

def response (description : String) (shape : Shape) : Json :=
  .object [("description", .string description), content shape]

def document (operation : Operation) : Json :=
  let success := [("200", response "Successful Response" operation.titledAnswer)]
  let invalid := ("422", response "Validation Error" (.ofModel "HTTPValidationError"))
  let taking := match operation.body with
    | none => [("responses", .object success)]
    | some model =>
        [("requestBody", .object [content (.ofModel model), ("required", .bool true)]),
         ("responses", .object (success ++ [invalid]))]
  .object ([("tags", .list [.string operation.tag]),
    ("summary", .string (titleOf operation.name)),
    ("description", .string operation.description),
    ("operationId", .string operation.id)] ++ taking)

end Operation

def operations : List Operation :=
  [{ route := .health
     name := "health_check"
     description := "Health check endpoint."
     tag := "Health"
     answer := .ofModel "HealthResponse" },
   { route := .stats
     name := "get_stats"
     description := "Get database statistics."
     tag := "Stats"
     answer := .ofModel "StatsResponse" },
   { route := .tables
     name := "get_tables"
     description := "Dump every table with its schema and rows."
     tag := "Tables"
     answer := .mapTo (.bool true) },
   { route := .execute
     name := "execute_statement"
     description := "Execute one statement."
     tag := "Statements"
     body := some "StatementRequest"
     answer := .ofModel "StatementResponse" },
   { route := .executeBatch
     name := "execute_batch"
     description := "Execute statements together; each gets its own response."
     tag := "Statements"
     body := some "BatchRequest"
     answer := .listOf (.ofModel "StatementResponse") }]

def document : Json :=
  .object [
    ("openapi", .string "3.1.0"),
    ("info", .object [
      ("title", .string (Service.name ++ " API")),
      ("description", .string ("REST API for executing " ++ Service.name ++ " statements")),
      ("version", .string Service.version)]),
    ("paths", .object (operations.map fun operation =>
      (operation.route.path, .object [(operation.methodName, operation.document)]))),
    ("components", .object [
      ("schemas", .object (models.map fun model => (model.name, model.document)))])]

/-- The document tells about every route but those that tell about the service itself. -/
theorem exists_operation_iff (route : Route) :
    (∃ operation ∈ operations, operation.route = route) ↔
      route ∉ [.schema, .manual, .authorization, .reference] := by
  cases route <;> decide

theorem ids_nodup : (operations.map Operation.id).Nodup := by decide +kernel

mutual

def references : Json → List String
  | .list items => itemReferences items
  | .object members => memberReferences members
  | _ => []

def itemReferences : List Json → List String
  | [] => []
  | item :: items => references item ++ itemReferences items

def memberReferences : List (String × Json) → List String
  | [] => []
  | ("$ref", .string name) :: members => name :: memberReferences members
  | (_, value) :: members => references value ++ memberReferences members

end

theorem references_document :
    ∀ reference ∈ references document,
      ∃ model ∈ models, reference = "#/components/schemas/" ++ model.name := by
  decide +kernel

/-- What a request is asked for is what is looked at in its body. -/
theorem required_fields :
    (operations.filterMap Operation.body).map
      (fun name => (models.filter fun model => model.name = name).flatMap fun model =>
        (model.fields.filter (·.isRequired)).map Field.name) = [["statement"], ["statements"]] := by
  decide +kernel

end RowStore.Endpoint.Schema
