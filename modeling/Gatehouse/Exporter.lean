import Gatehouse.CommandLine.Reading
import Gatehouse.Http.Uri

/-! # The exporter of traces

Traces are exported if a variable names where they go to. Variables for traces alone win over those
for all that is exported. A compression that is asked for is looked at first; none is built in. The
queue of what waits to be exported is made last. -/

namespace Gatehouse.Exporter

/-- Why the exporter cannot be set up. -/
inductive Fault where
  | unknownCompression (name : String)
  /-- The compression is known but not built in. -/
  | lackingCompression (name : String)
  | badEndpoint (fault : Uri.Fault)
  deriving DecidableEq, Repr

/-- What is said of a fault. -/
def Fault.message (f : Fault) : String :=
  "Exporter otlp encountered the following error(s): " ++
    match f with
    | unknownCompression name => "unsupported compression algorithm '" ++ name ++ "'"
    | lackingCompression name =>
      "feature '" ++ name ++ "-tonic' is required to use the compression algorithm '" ++ name ++ "'"
    | badEndpoint fault => "invalid URI " ++ fault.message

/-- The variable whose presence asks for traces to be exported. -/
def endpointVariable : String := "OTEL_EXPORTER_OTLP_ENDPOINT"

/-- The variable that names another endpoint for traces alone. -/
def traceEndpointVariable : String := "OTEL_EXPORTER_OTLP_TRACES_ENDPOINT"

/-- The variable that asks for a compression. -/
def compressionVariable : String := "OTEL_EXPORTER_OTLP_COMPRESSION"

/-- The variable that asks for another compression of traces alone. -/
def traceCompressionVariable : String := "OTEL_EXPORTER_OTLP_TRACES_COMPRESSION"

/-- The variable that says how much the queue may hold. -/
def capacityVariable : String := "OTEL_BSP_MAX_QUEUE_SIZE"

/-- The variables that the exporter looks at. -/
def variableNames : List String :=
  [endpointVariable, traceEndpointVariable, compressionVariable, traceCompressionVariable,
    capacityVariable]

/-- The compressions with a name. -/
def compressions : List String := ["gzip", "zstd"]

/-- Why a compression cannot be had. -/
def refusal (compression : String) : Fault :=
  if compressions.contains compression then .lackingCompression compression
  else .unknownCompression compression

/-- Whether the exporter can be set up, if it is asked for. -/
def check (environment : String → Option String) : Except Fault Unit :=
  match environment endpointVariable with
  | none => .ok ()
  | some endpoint =>
    match environment traceCompressionVariable <|> environment compressionVariable with
    | some compression => .error (refusal compression)
    | none =>
      match Uri.ofText ((environment traceEndpointVariable).getD endpoint) with
      | .ok _ => .ok ()
      | .error fault => .error (.badEndpoint fault)

/-- The most that a queue can hold. -/
def maxCapacity : Nat := UInt64.size / 8 - 1

/-- A queue can hold as much as a text asks for. A text that is no number asks for nothing. -/
def isCapacity (text : String) : Bool :=
  match CommandLine.Reading.integer false text with
  | .ok i => 0 < i && i ≤ maxCapacity
  | .error _ => true

/-- The exporter's queue can be made, if there is an exporter. -/
def hasQueue (environment : String → Option String) : Bool :=
  (environment endpointVariable).isNone || (environment capacityVariable).all isCapacity

end Gatehouse.Exporter
