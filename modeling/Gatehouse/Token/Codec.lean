import Gatehouse.Bytes.Base64
import Gatehouse.Hash.Hmac
import Gatehouse.Json.Reader
import Gatehouse.Text.Cut
import Gatehouse.Token.Basic
import Gatehouse.Token.Header
import Gatehouse.Token.Settings

/-! # Issuing and validating access tokens

A token is three segments with dots between them: header, claims, and the keyed digest of the first
two, each in unpadded URL-safe Base64. `validate` is the only way to accept a token; it judges the
signature before it looks at the claims, the issuer before the audience, and those before the times,
which are compared in whole seconds with no tolerance. `view` and `isNearExpiry` read a token
without a key. -/

namespace Gatehouse.Token

/-- A segment for bytes. -/
def segment (bs : Bytes) : String := Base64.encodeBare Base64.urlSafe bs

/-- The bytes of a segment. -/
def segmentBytes? (s : String) : Option Bytes := Base64.decodeBare? Base64.urlSafe s

/-- The segment of a JSON value. -/
def jsonSegment (j : Json) : String := segment (Bytes.ofText j.compact)

/-- The value that a segment holds. -/
def segmentJson? (s : String) : Option Json := (segmentBytes? s).bind Json.ofBytes?

/-- The keyed digest of what a token signs. -/
def signature (s : TokenSettings) (signed : String) : Bytes :=
  Hmac.sha256 s.keyBytes (Bytes.ofText signed)

/-- The token of claims. -/
def encode (s : TokenSettings) (claims : AccessClaims) : String :=
  let signed := jsonSegment TokenHeader.issued ++ "." ++ jsonSegment claims.toJson
  signed ++ "." ++ segment (signature s signed)

/-- What issues and validates tokens, as a log shows it. -/
def logText (s : TokenSettings) : String := "TokenCodec \x7b settings: " ++ s.logText ++ ", .. \x7d"

/-! ## Issuing -/

/-- The lifetime of access tokens. -/
def lifetime (s : TokenSettings) : Duration := .ofHours s.expiryHours

/-- The claims of an identity with its access, issued now and valid until an instant. -/
def claimsFor (s : TokenSettings) (now expiresAt : Instant) (tokenId : Uuid) (identity : Identity)
    (access : Access) : AccessClaims :=
  { subject := identity.id.text, name := identity.name, email := identity.email
    userId := some identity.id.text, tokenId := tokenId.text
    roles := access.roles, permissions := access.permissions
    issuer := s.issuer, audience := s.audience
    issuedAt := now.second, notBefore := now.second, expiry := expiresAt.second }

/-- A new token for an identity, unless its expiry lies outside the calendar. -/
def issue (s : TokenSettings) (now : Instant) (tokenId : Uuid) (identity : Identity)
    (access : Access) : Option IssuedToken := do
  let expiresAt ← now.add? (lifetime s)
  let claims := claimsFor s now expiresAt tokenId identity access
  pure ⟨encode s claims, claims.tokenId, .ofSeconds claims.expiry⟩

/-! ## Validating -/

/-- The three segments of a token that is to be validated: the last two dots count. -/
structure Segments where
  header : String
  payload : String
  signature : String
  deriving DecidableEq, Repr

/-- What the signature covers. -/
def Segments.signed (t : Segments) : String := t.header ++ "." ++ t.payload

/-- The segments of a token. -/
def Segments.ofText? (token : String) : Option Segments := do
  let (signed, signature) ← Text.cutLast? '.' token
  let (header, payload) ← Text.cutLast? '.' signed
  pure ⟨header, payload, signature⟩

/-- The value, or a fault. -/
def orFault {α : Type} (fault : TokenFault) : Option α → Except TokenFault α
  | some a => .ok a
  | none => .error fault

/-- Nothing, or a fault where a condition fails. -/
def require (fault : TokenFault) (condition : Bool) : Except TokenFault Unit :=
  if condition then .ok () else .error fault

/-- The claims of a token whose signature is right and whose issuer and audience are ours. The
claims must form an object, and no token expires before 1970. -/
def verifiedClaims (s : TokenSettings) (token : String) : Except TokenFault AccessClaims := do
  let t ← orFault .malformed (Segments.ofText? token)
  let header ← orFault .malformed (segmentJson? t.header)
  let algorithm ← orFault .malformed (TokenHeader.algorithm? header)
  require .badSignature (algorithm == TokenHeader.signing)
  let digest ← orFault .malformed (segmentBytes? t.signature)
  require .badSignature (digest == signature s t.signed)
  let payload ← orFault .malformed (segmentJson? t.payload)
  let claims ← orFault .malformed (AccessClaims.ofJson? payload)
  require .malformed (payload.isObject && 0 ≤ claims.expiry)
  require .issuerMismatch (claims.issuer == s.issuer)
  require .audienceMismatch (claims.audience == s.audience)
  pure claims

/-- The caller that a token names, if the token is accepted now. -/
def validate (s : TokenSettings) (now : Instant) (token : String) :
    Except TokenFault Principal := do
  let claims ← verifiedClaims s token
  require .expired (now.second < claims.expiry)
  require .notYetValid (claims.notBefore ≤ now.second)
  let expiresAt ← orFault .malformed (Instant.ofSeconds? claims.expiry)
  pure
    { subject := claims.subject, userId := claims.userId.bind Uuid.ofText?, name := claims.name
      email := claims.email, tokenId := claims.tokenId, roles := claims.roles
      permissions := claims.permissions, expiresAt }

/-! ## Reading without a key -/

/-- The claims of a text of exactly three segments. -/
def unverifiedClaims? (token : String) : Option UnverifiedClaims :=
  match token.splitOn "." with
  | [_, payload, _] => (segmentJson? payload).bind UnverifiedClaims.ofJson?
  | _ => none

/-- What a token says of itself. A token without a readable expiry counts as expired. -/
def view (now : Instant) (token : String) : Option TokenView := do
  let claims ← unverifiedClaims? token
  let expiresAt := claims.expiry.bind Instant.ofSeconds?
  pure
    { tokenId := claims.tokenId, userId := claims.userId.bind Uuid.ofText?, userName := claims.name
      issuedAt := claims.issuedAt.bind Instant.ofSeconds?, expiresAt
      isExpired := expiresAt.all fun e => decide (e ≤ now) }

/-- At most a threshold is left of the token's life, or nothing can be read of it. -/
def isNearExpiry (now : Instant) (token : String) (threshold : Duration) : Bool :=
  match (view now token).bind (·.expiresAt) with
  | some expiresAt => decide (expiresAt.since now ≤ threshold)
  | none => true

end Gatehouse.Token
