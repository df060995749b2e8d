import Gatehouse.Client
import Gatehouse.Http.Address
import Gatehouse.Http.Characters
import Gatehouse.Http.MediaType
import Gatehouse.Http.Target
import Gatehouse.Json.Reader
import Gatehouse.Text.Cut

/-! # Requests and responses

Names of headers are compared without regard to case, and of several headers of a name the first
counts. The value of a header is text if all its bytes are printable ASCII or tabs. The address of a
client is the first one that a proxy names, or else that of the peer. -/

namespace Gatehouse.Http

/-- A request. -/
structure Request where
  method : String
  target : Target
  headers : List (String × Bytes)
  body : Bytes
  peer : Option IpAddress

namespace Request

/-- The value of a header. -/
def header? (r : Request) (name : String) : Option Bytes :=
  (r.headers.find? (·.1.toLower = name)).map (·.2)

/-- The text of a header value. -/
def valueText? (bs : Bytes) : Option String :=
  if bs.all isPrintable then some (String.ofList (bs.map fun b => Char.ofNat b.toNat)) else none

/-- The text of a header. -/
def text? (r : Request) (name : String) : Option String := (r.header? name).bind valueText?

/-- The bearer token of a request. -/
def bearer? (r : Request) : Option String := do
  let value ← r.text? "authorization"
  let token ← Text.behind? "Bearer " value <|> Text.behind? "bearer " value
  Text.nonBlank? token

/-- The address that proxies name. -/
def forwardedAddress? (r : Request) : Option String :=
  ((r.text? "x-forwarded-for").bind fun value => Text.nonBlank? ((value.splitOn ",").headD "")) <|>
    ((r.text? "x-real-ip").bind Text.nonBlank?)

/-- What the connection shows of the client. -/
def transport (r : Request) : Transport :=
  .ofRaw (r.text? "user-agent") (r.forwardedAddress? <|> r.peer.map IpAddress.text)

/-- The most bytes of a body that are read. -/
def bodyLimit : Nat := 2097152

/-- The JSON value that the body begins with, if the request says that it is JSON and the body is
not too long. -/
def json? (r : Request) : Option Json := do
  let m ← (r.text? "content-type").bind MediaType.ofText?
  guard m.isJson
  guard (r.body.length ≤ bodyLimit)
  let (j, _) ← Json.leading? (Utf8.decode r.body)
  pure j

/-- The one value of a name in the query; a name that is repeated has none. -/
def queryValue? (r : Request) (name : String) : Option String :=
  match r.target.values name with
  | [value] => some value
  | _ => none

end Request

/-- The body of a response. -/
inductive Body where
  | empty
  | text (s : String)
  | json (j : Json)
  deriving Repr

/-- A response. -/
structure Response where
  status : Nat
  headers : List (String × Bytes) := []
  body : Body := .empty

namespace Response

/-- The header that says what the body is. -/
def contentType (value : String) : String × Bytes := ("content-type", Bytes.ofText value)

/-- A response with a JSON body. -/
def json (status : Nat) (j : Json) : Response :=
  { status, headers := [contentType "application/json"], body := .json j }

/-- A response with a text. -/
def text (status : Nat) (s : String) : Response :=
  { status, headers := [contentType "text/plain; charset=utf-8"], body := .text s }

/-- The response with a header more. -/
def withHeader (r : Response) (name : String) (value : Bytes) : Response :=
  { r with headers := r.headers ++ [(name, value)] }

/-- The response without its body. -/
def withoutBody (r : Response) : Response := { r with body := .empty }

/-- The value of a header. -/
def header? (r : Response) (name : String) : Option Bytes := r.headers.lookup name

end Response

end Gatehouse.Http
