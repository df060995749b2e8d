import Gatehouse.Bytes.Base64
import Gatehouse.Hash.Blowfish

/-! # Password hashes

A password hash is made by a cipher whose schedule takes long to set up: key and salt are mixed in
two to the power of the *cost* times over. Its text is `$2b$`, the cost in two digits, `$`, and then
the salt of sixteen bytes and the digest of twenty-three in an alphabet of their own. A password
counts up to its seventy-second byte, a zero byte marking its end. -/

namespace Gatehouse.Bcrypt

/-- The bytes of a password that count. -/
def keyBytes (password : String) : Bytes := (Bytes.ofText password ++ [0]).take 72

/-- A schedule after key and salt in turn, a number of times. -/
def stretch (key salt : Array UInt32) : Nat → Array UInt32 → Array UInt32
  | 0, ws => ws
  | n + 1, ws =>
    stretch key salt n
      (Blowfish.expand Blowfish.noSalt salt (Blowfish.expand Blowfish.noSalt key ws))

/-- The block that is enciphered. -/
def magic : Bytes := Bytes.ofText "OrpheanBeholderScryDoubt"

/-- A block enciphered a number of times. -/
def encipherTimes (ws : Array UInt32) : Nat → UInt32 → UInt32 → UInt32 × UInt32
  | 0, l, r => (l, r)
  | n + 1, l, r =>
    let (l, r) := Blowfish.encipher ws l r
    encipherTimes ws n l r

/-- The four bytes of a word. -/
def wordBytes (w : UInt32) : Bytes :=
  [(w >>> 24).toUInt8, (w >>> 16).toUInt8, (w >>> 8).toUInt8, w.toUInt8]

/-- The digest of a password under a cost and a salt. -/
def digest (cost : Nat) (salt : Bytes) (password : String) : Bytes :=
  let key := Blowfish.cyclicWords (keyBytes password) Blowfish.boxes
  let saltWords := Blowfish.cyclicWords salt Blowfish.boxes
  let ws :=
    stretch key saltWords (1 <<< cost) (Blowfish.expand saltWords key Blowfish.startingWords)
  let text := Blowfish.cyclicWords magic 6
  let blocks := [0, 2, 4].flatMap fun i =>
    let (l, r) := encipherTimes ws 64 (Blowfish.word text i) (Blowfish.word text (i + 1))
    wordBytes l ++ wordBytes r
  blocks.take 23

/-- The costs that are allowed. -/
def CostAllowed (cost : Nat) : Prop := 4 ≤ cost ∧ cost ≤ 31

instance (cost : Nat) : Decidable (CostAllowed cost) := inferInstanceAs (Decidable (_ ∧ _))

/-- What is said of a cost that is not. -/
def costMessage (cost : Nat) : String :=
  "Cost needs to be between 4 and 31, got " ++ toString cost

/-- The length of a salt. -/
def saltLength : Nat := 16

/-- A number below a hundred in two digits. -/
def twoDigits (n : Nat) : String := if n < 10 then "0" ++ toString n else toString n

/-- The hash of a password under a salt, if the cost is allowed. -/
def hash (cost : Nat) (salt : Bytes) (password : String) : Except String String :=
  if CostAllowed cost then
    .ok ("$2b$" ++ twoDigits cost ++ "$" ++ Base64.encodeBare Base64.passwordHash salt ++
      Base64.encodeBare Base64.passwordHash (digest cost salt password))
  else .error (costMessage cost)

/-- A hash taken apart. -/
structure Parts where
  cost : Nat
  salt : Bytes
  digest : Bytes
  deriving DecidableEq, Repr

/-- A cost in decimal, perhaps with a plus sign and zeros in front. -/
def cost? (s : String) : Option Nat :=
  let ds := match s.toList with
    | '+' :: ds => ds
    | ds => ds
  if ds.isEmpty || !ds.all Char.isDigit then none
  else some (ds.foldl (fun n d => 10 * n + (d.toNat - 48)) 0)

/-- The parts of a hash: version, cost, and fifty-three characters for salt and digest, each behind
one dollar sign or several. -/
def Parts.ofText? (text : String) : Option Parts := do
  let [version, cost, tail] := (text.splitOn "$").filter (· ≠ "") | none
  guard (["2a", "2b", "2x", "2y"].contains version)
  let cost ← cost? cost
  guard (CostAllowed cost)
  let cs := tail.toList
  guard (cs.length = 53)
  let salt ← Base64.decodeBare? Base64.passwordHash (String.ofList (cs.take 22))
  let digest ← Base64.decodeBare? Base64.passwordHash (String.ofList (cs.drop 22))
  pure ⟨cost, salt, digest⟩

/-- The password has the hash; a text that is no hash has no password. -/
def verify (password text : String) : Bool :=
  match Parts.ofText? text with
  | none => false
  | some parts => digest parts.cost parts.salt password == parts.digest

end Gatehouse.Bcrypt
