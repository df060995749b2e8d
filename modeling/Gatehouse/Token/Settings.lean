import Gatehouse.Bytes.Hex
import Gatehouse.Text.Quoted

/-! # Token settings

How access tokens are signed and how long they and the sessions behind them live. Each setting has a
default; an access lifetime of zero hours means the default. Settings are admitted only with a key
at least as long as the digest that signs. -/

namespace Gatehouse

/-- The settings of a deployment. -/
structure TokenSettings where
  key : String
  issuer : String := "umbral"
  audience : String := "umbral-clients"
  expiryHours : Nat := 1
  refreshDays : Nat := 30
  blacklist : Bool := false
  deriving DecidableEq, Repr

namespace TokenSettings

/-- The lifetime of access tokens, zero meaning one hour. -/
def withExpiryHours (s : TokenSettings) (hours : Nat) : TokenSettings :=
  { s with expiryHours := if hours = 0 then 1 else hours }

/-- The fewest bytes of a key. -/
def minKeyBytes : Nat := 32

/-- What is said of a key that is too short. -/
def shortKeyMessage : String :=
  "JWT signing key must be at least " ++ toString minKeyBytes ++ " bytes"

/-- The signing key. -/
def keyBytes (s : TokenSettings) : Bytes := Bytes.ofText s.key

/-- The key is long enough. -/
def Admissible (s : TokenSettings) : Prop := minKeyBytes ≤ s.keyBytes.length

instance (s : TokenSettings) : Decidable s.Admissible := inferInstanceAs (Decidable (_ ≤ _))

/-- The settings as a log shows them: the key stays hidden. -/
def logText (s : TokenSettings) : String :=
  "JwtSettings \x7b key: SecretBox<str>([REDACTED]), issuer: " ++ Text.quoted s.issuer ++
    ", audience: " ++ Text.quoted s.audience ++ ", expiry_hours: " ++ toString s.expiryHours ++
    ", refresh_token_expiry_days: " ++ toString s.refreshDays ++
    ", enable_blacklist: " ++ toString s.blacklist ++ " \x7d"

end TokenSettings

end Gatehouse
