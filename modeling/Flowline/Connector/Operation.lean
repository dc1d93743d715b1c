import Flowline.Connector.Error
import Flowline.Json.Path
import Flowline.Text.Blank
import Flowline.Workflow.Document

/-!
# Operations of connectors

An operation is asked for by name, with parameters and credentials, and ends
with a result that says whether the service did it.  Credentials are read from
documents and never written into one.
-/

namespace Flowline

open Json (Document)
open Json.Document

/-- What a connector is asked to do. -/
structure Operation where
  name : String
  parameters : Json := .object []
  credentials : Keyed String := []
  deriving DecidableEq, Repr

namespace Operation

/-- Put a parameter among others; parameters that are no object stay. -/
def withParameter (operation : Operation) (key : String) (value : Json) : Operation :=
  match operation.parameters with
  | .object members => { operation with parameters := .object (Keyed.insert key value members) }
  | _ => operation

/-- A parameter that is a text. -/
def text? (operation : Operation) (key : String) : Option String :=
  match operation.parameters with
  | .object members =>
      match Keyed.get? key members with
      | some (.string text) => some text
      | _ => none
  | _ => none

/-- A credential; a blank one counts as missing. -/
def credential (operation : Operation) (name : String) : Except ConnectorError String :=
  match (Keyed.get? name operation.credentials).filter fun value => !Text.isBlankText value with
  | some value => .ok value
  | none => .error (.missingCredential name)

def decode? (document : Document) : Option Operation := do
  let record ← document.record? ["name", "parameters", "credentials"]
  some
    { name := ← record.required "name" Document.text?
      parameters := ← record.required "parameters" value?
      credentials := ← record.defaulted "credentials" (keyed? Document.text?) [] }

def encode (operation : Operation) : Json := .ofMembers [
  ("name", .string operation.name), ("parameters", operation.parameters)]

end Operation

/-- What an operation took. -/
structure OperationMetadata where
  /-- Milliseconds from the call to the answer. -/
  latency : Nat := 0
  calls : Nat := 0
  deriving DecidableEq, Repr

/-- What became of an operation. -/
structure OperationResult where
  success : Bool
  data : Option Json
  error : Option String
  metadata : OperationMetadata
  deriving DecidableEq, Repr

namespace OperationMetadata

def decode? (document : Document) : Option OperationMetadata := do
  let record ← document.record? ["latency_ms", "api_calls"]
  some
    { latency := ← record.required "latency_ms" count64?
      calls := ← record.required "api_calls" count32? }

def encode (metadata : OperationMetadata) : Json := .ofMembers [
  ("latency_ms", .ofNat metadata.latency), ("api_calls", .ofNat metadata.calls)]

end OperationMetadata

namespace OperationResult

/-- The result of an operation that was done. -/
def done (data : Json) (metadata : OperationMetadata) : OperationResult :=
  ⟨true, some data, none, metadata⟩

/-- The result of an operation that the service refused. -/
def refused (error : String) (metadata : OperationMetadata) : OperationResult :=
  ⟨false, none, some error, metadata⟩

def decode? (document : Document) : Option OperationResult := do
  let record ← document.record? ["success", "data", "error", "metadata"]
  some
    { success := ← record.required "success" bool?
      data := ← record.namedOptional "data" value?
      error := ← record.namedOptional "error" text?
      metadata := ← record.required "metadata" OperationMetadata.decode? }

def encode (result : OperationResult) : Json := .ofMembers [
  ("success", .bool result.success), ("data", nullable id result.data),
  ("error", .ofText? result.error), ("metadata", result.metadata.encode)]

end OperationResult

/-- What a connector can do. -/
inductive Capability where
  | read
  | write
  | credentials
  deriving DecidableEq, Repr

namespace Capability

def all : List Capability := [read, write, credentials]

def name : Capability → String
  | read => "read"
  | write => "write"
  | credentials => "credentials"

def decode? : Document → Option Capability := oneOf? false (namesOf name all)

end Capability

/-- The description of an operation. -/
structure OperationInfo where
  name : String
  description : String
  inputSchema : Json
  deriving DecidableEq, Repr

namespace OperationInfo

def decode? (document : Document) : Option OperationInfo := do
  let record ← document.record? ["name", "description", "input_schema"]
  some
    { name := ← record.required "name" text?
      description := ← record.required "description" text?
      inputSchema := ← record.required "input_schema" value? }

def encode (info : OperationInfo) : Json := .ofMembers [
  ("name", .string info.name), ("description", .string info.description),
  ("input_schema", info.inputSchema)]

end OperationInfo

/-- The description of a connector. -/
structure ConnectorInfo where
  id : String
  name : String
  description : String
  operations : List OperationInfo
  capabilities : List Capability
  deriving DecidableEq, Repr

namespace ConnectorInfo

def decode? (document : Document) : Option ConnectorInfo := do
  let record ← document.record? ["id", "name", "description", "operations", "capabilities"]
  some
    { id := ← record.required "id" text?
      name := ← record.required "name" text?
      description := ← record.required "description" text?
      operations := ← record.required "operations" (list? OperationInfo.decode?)
      capabilities := ← record.required "capabilities" (list? Capability.decode?) }

def encode (info : ConnectorInfo) : Json := .ofMembers [
  ("id", .string info.id), ("name", .string info.name), ("description", .string info.description),
  ("operations", .array (info.operations.map OperationInfo.encode)),
  ("capabilities", .array (info.capabilities.map fun capability => .string capability.name))]

end ConnectorInfo

end Flowline
