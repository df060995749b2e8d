import Gatehouse.Bytes.Base64
import Gatehouse.Catalog
import Gatehouse.Service.Login

/-! # Chance

Random bytes come from outside. Here is what they are made into: identifiers, raw refresh tokens,
the random values of a login and of a catalog, and the ids of requests. -/

namespace Gatehouse.Chance

/-- The number of bytes that make an identifier. -/
def idLength : Nat := 16

/-- The number of bytes that make a raw refresh token. -/
def tokenLength : Nat := 32

/-- A raw refresh token. -/
def refreshToken (bs : Bytes) : String := Base64.encodeBare Base64.urlSafe bs

/-- The random values of a new session. Its id sorts by the time of issue. -/
def session (millis : Nat) (id token : Bytes) : SessionSeed :=
  ⟨.timeOrdered millis id.number, refreshToken token⟩

/-- The random values of a login. -/
def fresh (millis : Nat) (id token tokenId : Bytes) : Fresh :=
  ⟨session millis id token, .random tokenId.number⟩

/-- The random values of a catalog. -/
def catalog (id : Nat → Bytes) (salt : Bytes) : Catalog.Seed :=
  ⟨fun n => .random (id n).number, salt.take Bcrypt.saltLength⟩

/-- The thirty-two digits of the ids of requests: no letter that is easily misread is among them. -/
def requestDigits : List Char := "0123456789ABCDEFGHJKMNPQRSTVWXYZ".toList

/-- The id of a request: forty-eight bits of time and eighty of chance, in twenty-six digits. -/
def requestId (millis : Nat) (bs : Bytes) : String :=
  let n := (BitVec.ofNat 48 millis ++ BitVec.ofNat 80 bs.number).toNat
  String.ofList ((List.range 26).map fun i =>
    requestDigits.getD ((n >>> (5 * (25 - i))) % 32) '0')

end Gatehouse.Chance
