import Gatehouse.Bytes.Hex
import Mathlib.Data.Option.Basic

/-! # Steps of readers

The readers of texts share two steps: a condition on what has been read, and a hexadecimal digit. -/

namespace Gatehouse

/-- A reader goes on where its condition holds. -/
theorem guard_of {p : Prop} [Decidable p] (h : p) : (guard p : Option Unit) = some () := if_pos h

theorem Bytes.hexDigitValue?_hexDigit {n : Nat} (hn : n < 16) :
    hexDigitValue? (hexDigit n) = some n := by
  have h : ∀ n < 16, hexDigitValue? (hexDigit n) = some n := by decide
  exact h n hn

end Gatehouse
