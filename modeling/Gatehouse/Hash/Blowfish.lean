import Gatehouse.Bytes.Hex

/-! # Blowfish

A block cipher on pairs of thirty-two-bit words. Its *schedule* is a table of 1042 words: eighteen
round keys, then four boxes of 256 words. The starting schedule is the binary expansion of the
fractional part of π. A key is mixed into the round keys, and the table is then replaced pair by
pair by what the cipher makes of a running block, into which a salt may be mixed before each
step. -/

namespace Gatehouse.Blowfish

/-! ## The starting schedule -/

/-- Terms of the series of the arctangent of `1 / x`, scaled: `power` is the scaled power of `1 / x`
of the next term, `k` its index. -/
def arctanTerms (x : Nat) : Nat → Nat → Nat → Int → Int
  | 0, _, _, sum => sum
  | fuel + 1, k, power, sum =>
    if power = 0 then sum
    else
      let term : Int := power / (2 * k + 1)
      arctanTerms x fuel (k + 1) (power / (x * x)) (if k % 2 = 0 then sum + term else sum - term)

/-- The arctangent of `1 / x`, scaled by a power of two. -/
def arctanInverse (bits x : Nat) : Int := arctanTerms x bits 0 ((1 <<< bits) / x : Nat) 0

/-- The number of words in a schedule. -/
def size : Nat := 1042

/-- Bits beyond the schedule that the series is summed with, so that its rounding stays behind the
last word. -/
def guardBits : Nat := 64

/-- The fractional part of π in as many bits as a schedule has, by the equation
π = 16 arctan 1/5 - 4 arctan 1/239. -/
def fractionOfPi : Nat :=
  let bits := 32 * size + guardBits
  let pi := 16 * arctanInverse bits 5 - 4 * arctanInverse bits 239
  (pi.toNat % (1 <<< bits)) >>> guardBits

/-- The words of a number from its lowest upwards, put before a list. -/
def wordsOnto : Nat → Nat → List UInt32 → List UInt32
  | 0, _, rest => rest
  | count + 1, n, rest => wordsOnto count (n >>> 32) (UInt32.ofNat n :: rest)

/-- The schedule before any key. -/
def startingWords : Array UInt32 := (wordsOnto size fractionOfPi []).toArray

/-! ## The cipher -/

/-- The word of a schedule at a position. -/
@[inline] def word (ws : Array UInt32) (i : Nat) : UInt32 := ws.getD i 0

/-- Where the boxes begin. -/
def boxes : Nat := 18

/-- The function of a round: one word of each box, chosen by the four bytes. -/
@[inline] def feistel (ws : Array UInt32) (x : UInt32) : UInt32 :=
  let a := word ws (boxes + (x >>> 24).toNat)
  let b := word ws (boxes + 256 + ((x >>> 16) &&& 0xFF).toNat)
  let c := word ws (boxes + 512 + ((x >>> 8) &&& 0xFF).toNat)
  let d := word ws (boxes + 768 + (x &&& 0xFF).toNat)
  ((a + b) ^^^ c) + d

/-- The rounds that remain. -/
def rounds (ws : Array UInt32) : Nat → UInt32 → UInt32 → UInt32 × UInt32
  | 0, l, r => (r ^^^ word ws 17, l ^^^ word ws 16)
  | n + 1, l, r =>
    let l := l ^^^ word ws (15 - n)
    rounds ws n (r ^^^ feistel ws l) l

/-- A block after the sixteen rounds. -/
def encipher (ws : Array UInt32) (l r : UInt32) : UInt32 × UInt32 := rounds ws 16 l r

/-! ## Keys -/

/-- The words of a byte string repeated without end, as many as asked for. -/
def cyclicWords (bs : Bytes) (count : Nat) : Array UInt32 :=
  let bs := bs.toArray
  let byte (i : Nat) : UInt32 := (bs.getD (i % bs.size) 0).toUInt32
  ((List.range count).map fun i =>
    (byte (4 * i) <<< 24) ||| (byte (4 * i + 1) <<< 16) ||| (byte (4 * i + 2) <<< 8) |||
      byte (4 * i + 3)).toArray

/-- The schedule with words mixed into its round keys. -/
def mixKey (key : Array UInt32) (ws : Array UInt32) : Array UInt32 :=
  (List.range boxes).foldl (fun ws i => ws.modify i (· ^^^ word key i)) ws

/-- The number of pairs in a schedule. -/
def pairs : Nat := 521

/-- Replace the pairs that remain by the running block. The salt has four words and is used two at a
time. -/
def refill (salt : Array UInt32) : Nat → UInt32 → UInt32 → Array UInt32 → Array UInt32
  | 0, _, _, ws => ws
  | n + 1, l, r, ws =>
    let i := pairs - (n + 1)
    let offset := 2 * (i % 2)
    let (l, r) := encipher ws (l ^^^ word salt offset) (r ^^^ word salt (offset + 1))
    refill salt n l r ((ws.setIfInBounds (2 * i) l).setIfInBounds (2 * i + 1) r)

/-- The schedule after a key, and a salt of four words. -/
def expand (salt key ws : Array UInt32) : Array UInt32 := refill salt pairs 0 0 (mixKey key ws)

/-- The salt that changes nothing. -/
def noSalt : Array UInt32 := #[0, 0, 0, 0]

end Gatehouse.Blowfish
