import Gatehouse.Http.Message
import Gatehouse.Json.Lenient

/-! # Requests and responses as records

A front end hands a request over as an object: its method, its target, its headers as pairs of a
name and a value, its body and the address of the peer. It gets the response back as an object. A
record whose method, target or headers could not be sent is no request. -/

namespace Gatehouse.Http

/-- Why a record is no request. -/
inductive Request.Fault where
  | badMethod
  | badTarget (fault : Uri.Fault)
  | badName
  | badValue
  deriving DecidableEq, Repr

/-- What is said of a fault. -/
def Request.Fault.message : Request.Fault → String
  | badMethod => "invalid HTTP method"
  | badTarget fault => fault.message
  | badName => "invalid HTTP header name"
  | badValue => "failed to parse header value"

/-- The header of a record. -/
def Request.headerOfRecord (j : Json) : Except Request.Fault (String × Bytes) := do
  let value := Bytes.ofText (j.textAt "value")
  unless isToken (j.textAt "name") do throw .badName
  unless value.all isValueByte do throw .badValue
  pure (j.textAt "name", value)

/-- The request of a record. -/
def Request.ofRecord (j : Json) : Except Request.Fault Request := do
  let method := (j.textAt? "method").getD "GET"
  unless isToken method do throw .badMethod
  let target ← (Target.ofText (j.textAt "uri")).mapError .badTarget
  let headers ← (j.itemsAt "headers").mapM headerOfRecord
  pure { method, target, headers, body := Bytes.ofText (j.textAt "body")
         peer := (j.textAt? "peer").bind IpAddress.ofPeer? }

/-- A body as JSON. -/
def Body.toRecord : Body → Json
  | .empty => .null
  | .text s => if s.isEmpty then .null else .obj [("text", .text s)]
  | .json j => j

/-- The headers that are text. -/
def Response.textHeaders (r : Response) : List (String × Json) :=
  r.headers.filterMap fun (name, value) => (Request.valueText? value).map fun v => (name, .text v)

/-- The record of a response. -/
def Response.toRecord (r : Response) : Json :=
  .obj [("status", .natural r.status), ("headers", .obj r.textHeaders), ("body", r.body.toRecord)]

end Gatehouse.Http
