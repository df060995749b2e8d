import Gatehouse.Json.Record
import Gatehouse.Json.Writer

/-! # The claims of an access token

What a token says: whom it names, which roles and permissions that identity had when it was issued,
who issued it for whom, and when. Times are whole seconds since 1970. Lists of roles and permissions
are left out when they are empty, and a list of one may be written as a bare text. -/

namespace Gatehouse

/-- The claims of an access token. -/
structure AccessClaims where
  subject : String
  name : String
  email : String
  userId : Option String
  tokenId : String
  roles : List String
  permissions : List String
  issuer : String
  audience : String
  issuedAt : Int
  notBefore : Int
  expiry : Int
  deriving DecidableEq, Repr

namespace AccessClaims

/-- A list as a member of an object, or no member if the list is empty. -/
def listMember (name : String) (items : List String) : List (String × Json) :=
  if items.isEmpty then [] else [(name, .texts items)]

/-- The claims as JSON. -/
def toJson (c : AccessClaims) : Json :=
  .obj ([("sub", .text c.subject), ("name", .text c.name), ("email", .text c.email),
      ("user_id", .optionalText c.userId), ("jti", .text c.tokenId)] ++
    listMember "role" c.roles ++ listMember "permission" c.permissions ++
    [("iss", .text c.issuer), ("aud", .text c.audience), ("iat", .integer c.issuedAt),
      ("nbf", .integer c.notBefore), ("exp", .integer c.expiry)])

/-- The members of the claims in their order. -/
def members : List Json.Member :=
  [⟨"sub", false⟩, ⟨"name", false⟩, ⟨"email", false⟩, ⟨"user_id", true⟩, ⟨"jti", false⟩,
    ⟨"role", true⟩, ⟨"permission", true⟩, ⟨"iss", false⟩, ⟨"aud", false⟩, ⟨"iat", false⟩,
    ⟨"nbf", false⟩, ⟨"exp", false⟩]

/-- The texts of a list, which a single text stands for too. -/
def oneOrMany? : Json → Option (List String)
  | .string s => s.map ([·])
  | j => j.texts?

/-- A list that may be missing. -/
def list? (ms : Json.Members) (name : String) : Option (List String) :=
  match ms.value? name with
  | none => some []
  | some j => oneOrMany? j

/-- The claims that a value holds. -/
def ofJson? (j : Json) : Option AccessClaims := do
  let ms ← Json.record? members j
  pure
    { subject := ← ms.text? "sub", name := ← ms.text? "name", email := ← ms.text? "email"
      userId := ← ms.optionalText? "user_id", tokenId := ← ms.text? "jti"
      roles := ← list? ms "role", permissions := ← list? ms "permission"
      issuer := ← ms.text? "iss", audience := ← ms.text? "aud"
      issuedAt := ← ms.int64? "iat", notBefore := ← ms.int64? "nbf", expiry := ← ms.int64? "exp" }

end AccessClaims

/-- The claims that can be read without a key: each may be missing. -/
structure UnverifiedClaims where
  tokenId : Option String
  userId : Option String
  name : Option String
  issuedAt : Option Int
  expiry : Option Int
  deriving DecidableEq, Repr

namespace UnverifiedClaims

/-- The members that are read, in their order. -/
def members : List Json.Member :=
  [⟨"jti", false⟩, ⟨"user_id", false⟩, ⟨"name", false⟩, ⟨"iat", false⟩, ⟨"exp", false⟩]

/-- The claims that a value holds. -/
def ofJson? (j : Json) : Option UnverifiedClaims := do
  let ms ← Json.record? members j
  pure
    { tokenId := ← ms.optionalText? "jti", userId := ← ms.optionalText? "user_id"
      name := ← ms.optionalText? "name", issuedAt := ← ms.optionalInt64? "iat"
      expiry := ← ms.optionalInt64? "exp" }

end UnverifiedClaims

end Gatehouse
