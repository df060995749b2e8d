import Gatehouse.Policy
import Gatehouse.Text.LowerCase

/-! # Reading the values of settings

A value is read from its text, or there is a complaint: the text is none of a few names, or there is
a reason why it will not do. Numbers are decimal with perhaps a plus sign and zeros in front; where
a minus sign is allowed it is read, so that the number can be told to lie outside its bounds. -/

namespace Gatehouse.CommandLine

/-- What is wrong with a value. -/
inductive Complaint where
  /-- The value is not one of a few names. -/
  | notOneOf
  /-- The value will not do for a reason. -/
  | because (reason : String)
  deriving DecidableEq, Repr

namespace Reading

/-- The reason against a text that is no number. -/
def noNumber : Complaint := .because "invalid digit found in string"

/-- The reason against a number too far from zero to be held. -/
def outOfReach (negative : Bool) : Complaint :=
  .because (if negative then "number too small to fit in target type"
    else "number too large to fit in target type")

/-- The number that digits write, as long as it stays below a limit. -/
def digits (negative : Bool) (limit : Nat) : List Char → Nat → Except Complaint Nat
  | [], n => .ok n
  | c :: cs, n =>
    if c.isDigit then
      let n := 10 * n + (c.toNat - 48)
      if limit < n then .error (outOfReach negative) else digits negative limit cs n
    else .error noNumber

/-- The whole number that a text writes in a word of sixty-four bits, with a sign bit or without. -/
def integer (hasSign : Bool) (s : String) : Except Complaint Int :=
  let most := if hasSign then UInt64.size / 2 - 1 else UInt64.size - 1
  match s.toList with
  | [] => .error (.because "cannot parse integer from empty string")
  | ['+'] | ['-'] => .error noNumber
  | '+' :: cs => (fun n : Nat => (n : Int)) <$> digits false most cs 0
  | '-' :: cs =>
    if hasSign then (fun n : Nat => -(n : Int)) <$> digits true (UInt64.size / 2) cs 0
    else .error noNumber
  | cs => (fun n : Nat => (n : Int)) <$> digits false most cs 0

/-- A number of at most so much. -/
def upTo (most : Nat) (s : String) : Except Complaint Nat := do
  let i ← integer true s
  if 0 ≤ i ∧ i ≤ most then pure i.toNat
  else throw (.because (toString i ++ " is not in 0..=" ++ toString most))

/-- A number of sixty-four bits that is not zero. -/
def positive (s : String) : Except Complaint Nat := do
  let i ← integer false s
  if 1 ≤ i then pure i.toNat
  else throw (.because (toString i ++ " is not in 1.." ++ toString (UInt64.size - 1)))

/-- A truth value. -/
def truth (s : String) : Except Complaint Bool :=
  if s = "true" then .ok true else if s = "false" then .ok false else .error .notOneOf

/-- A source of permissions. -/
def source (s : String) : Except Complaint PermissionSource :=
  if s = "live" then .ok .live else if s = "token" then .ok .token else .error .notOneOf

/-- The names of the levels of the log, the quietest first. -/
def levelNames : List String := ["error", "warn", "info", "debug", "trace"]

/-- A level of the log: a number up to five, or a name in any case. -/
def level (s : String) : Except Complaint Nat :=
  match integer false s with
  | .ok i => if i ≤ 5 then .ok i.toNat else .error (.because "invalid log level")
  | .error _ =>
    match levelNames.idxOf? (Text.lower s) with
    | some n => .ok n
    | none => .error (.because "invalid log level")

end Reading

end Gatehouse.CommandLine
