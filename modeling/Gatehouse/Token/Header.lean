import Gatehouse.Json.Bounded
import Gatehouse.Json.Record

/-! # The header of an access token

The header names the algorithm of the signature. It may say more, and what it says must have the
form of its member: texts, lists of texts, or a public key; members of other names must be texts. Of
all that only the algorithm counts here. -/

namespace Gatehouse.TokenHeader

/-- The algorithms that a header may name. -/
def algorithms : List String :=
  ["HS256", "HS384", "HS512", "ES256", "ES384", "RS256", "RS384", "RS512", "PS256", "PS384",
    "PS512", "EdDSA"]

/-- The algorithm that tokens are signed with. -/
def signing : String := "HS256"

/-- The header of every issued token. -/
def issued : Json := .obj [("typ", .text "JWT"), ("alg", .text signing)]

/-- The value is missing, null, or satisfies a test. -/
def optionally (p : Json → Bool) : Option Json → Bool
  | none | some .null => true
  | some j => p j

/-- The value is a text. -/
def isText (j : Json) : Bool := j.text?.isSome

/-- The value is a list of texts. -/
def isTexts (j : Json) : Bool := j.texts?.isSome

/-- The value names a case. -/
def isCase (j : Json) : Bool := j.caseName?.isSome

/-- The curves of public keys. -/
def curves : List String := ["P-256", "P-384", "P-521", "Ed25519"]

/-- The value names a curve. -/
def isCurve (j : Json) : Bool := j.caseName?.any curves.contains

/-- The members of names that the format gives a meaning, none of them twice. -/
def known? (names : List String) (members : List (Option String × Json)) : Option Json.Members :=
  Json.declared? names members

/-- A kind of public keys. -/
structure KeyKind where
  name : String
  /-- A key of the kind lies on a curve. -/
  onCurve : Bool
  /-- The texts that a key of the kind has. -/
  texts : List String

/-- The kinds of public keys. -/
def keyKinds : List KeyKind :=
  [⟨"EC", true, ["x", "y"]⟩, ⟨"RSA", false, ["n", "e"]⟩, ⟨"oct", false, ["k"]⟩,
    ⟨"OKP", true, ["x"]⟩]

/-- The members with a meaning for a kind. -/
def KeyKind.members (kind : KeyKind) : List String :=
  "kty" :: (if kind.onCurve then ["crv"] else []) ++ kind.texts

/-- The members are those of a key of a kind, members with no meaning for the kind passed over. -/
def KeyKind.fits (kind : KeyKind) (members : List (Option String × Json)) : Bool :=
  match known? kind.members members with
  | some ms =>
    (ms.value? "kty").bind Json.caseName? == some kind.name &&
      (!kind.onCurve || (ms.value? "crv").any isCurve) &&
      kind.texts.all fun name => (ms.value? name).any isText
  | none => false

/-- The members that a key of any kind may have. -/
def commonMembers : List String :=
  ["use", "key_ops", "alg", "kid", "x5u", "x5c", "x5t", "x5t#S256"]

/-- The value names a case, whose content may be an empty object too. -/
def isOpenCase : Json → Bool
  | .object [(some _, .object [])] => true
  | j => isCase j

/-- Lists and objects that may stand one in the other in a member of a public key. -/
def keyDepth : Nat := 125

/-- A public key: a key of some kind, whose other members have the form of their names. All members
are kept before they are looked at. -/
def isPublicKey : Json → Bool
  | .object members =>
    match known? commonMembers members with
    | none => false
    | some ms =>
      let allowed (p : Json → Bool) (name : String) := optionally p (ms.value? name)
      members.all (fun (_, j) => j.isBounded keyDepth) && keyKinds.any (·.fits members) &&
        allowed isText "use" && allowed isTexts "key_ops" && allowed isOpenCase "alg" &&
        allowed isText "kid" && allowed isText "x5u" && allowed isTexts "x5c" &&
        allowed isText "x5t" && allowed isText "x5t#S256"
  | _ => false

/-- Members that may be texts. -/
def textMembers : List String :=
  ["typ", "cty", "jku", "kid", "x5u", "x5t", "x5t#S256", "url", "nonce", "enc", "zip"]

/-- Members that may be lists of texts. -/
def listMembers : List String := ["x5c", "crit"]

/-- All members with a meaning. -/
def knownMembers : List String := "alg" :: "jwk" :: textMembers ++ listMembers

/-- The algorithm that a header names, if the header is well formed. -/
def algorithm? : Json → Option String
  | .object members => do
    let ms ← known? knownMembers members
    let algorithm ← (ms.value? "alg").bind Json.caseName?
    guard (algorithms.contains algorithm)
    guard (textMembers.all fun name => optionally isText (ms.value? name))
    guard (listMembers.all fun name => optionally isTexts (ms.value? name))
    guard (optionally isPublicKey (ms.value? "jwk"))
    guard (members.all fun (name, j) => name.any knownMembers.contains || isText j)
    pure algorithm
  | _ => none

end Gatehouse.TokenHeader
