import Gatehouse.Program
import Mathlib.Tactic.Cases

/-! # What a program assures while others interfere

A program that runs beside others finds the state changed between its calls.  If the changes that
others make are within a relation (`rely`), it may still assure something of every state in which it
is found, before each of its calls and when it is done: `p.Assures h rely ok s` says so of a program
that is found in the state `s`.  The notion follows the tree of the program, so what is left of the
program after a call assures the same from the state after the call (`Assures.step`), and what
others do within the relation does not matter (`Assures.stable`).

A program that is chained to another is looked at in two parts (`Assures.bind`); the first is judged
by its calls and its values alone (`AtEach`).  Where a part neither needs nor changes what is to be
kept, it is enough to know which calls it makes and with which values it ends, whatever its calls
are answered (`Within`, `assures_of_within`). -/

namespace Gatehouse.Program

variable {I : Interface} {α β σ : Type}

/-! ### Calls and values, whatever the answers -/

/-- Whatever its calls are answered, the program makes allowed calls only and ends with a wanted
value. -/
inductive Within (allowed : I.Op → Prop) (wanted : α → Prop) : Program I α → Prop
  | done {a : α} (h : wanted a) : Within allowed wanted (done a)
  | call {op : I.Op} {next : I.Answer op → Program I α} (h : allowed op)
    (hnext : ∀ answer, Within allowed wanted (next answer)) : Within allowed wanted (call op next)

namespace Within

variable {allowed allowed' : I.Op → Prop} {wanted wanted' : α → Prop} {p : Program I α}

theorem mono (hp : p.Within allowed wanted) (hallowed : ∀ op, allowed op → allowed' op)
    (hwanted : ∀ a, wanted a → wanted' a) : p.Within allowed' wanted' := by
  induction hp with
  | done h => exact .done (hwanted _ h)
  | call h _ ih => exact .call (hallowed _ h) ih

theorem bind {wanted' : β → Prop} {f : α → Program I β} (hp : p.Within allowed wanted)
    (hf : ∀ a, wanted a → (f a).Within allowed wanted') :
    (p.bind f).Within allowed wanted' := by
  induction hp with
  | done h => exact hf _ h
  | call h _ ih => exact .call h ih

end Within

/-! ### Assurances -/

variable {h : Handler I σ} {rely : σ → σ → Prop}

/-- In every state in which the program is found, `ok` holds of what is left of it and of the
state, as long as others change the state within `rely` only. -/
inductive Assures (h : Handler I σ) (rely : σ → σ → Prop) (ok : Program I α → σ → Prop) :
    Program I α → σ → Prop
  | done {a : α} {s : σ} (hok : ∀ s', rely s s' → ok (done a) s') : Assures h rely ok (done a) s
  | call {op : I.Op} {next : I.Answer op → Program I α} {s : σ}
    (hok : ∀ s', rely s s' → ok (call op next) s')
    (hnext : ∀ s', rely s s' → Assures h rely ok (next (h op s').1) (h op s').2) :
    Assures h rely ok (call op next) s

/-- A property of the states before the calls of a program, and one of those with its value. -/
def AtEach (before : I.Op → σ → Prop) (after : α → σ → Prop) : Program I α → σ → Prop
  | .done a, s => after a s
  | .call op _, s => before op s

namespace Assures

variable {ok : Program I α → σ → Prop} {p : Program I α} {s s' : σ}

/-- What is assured holds now. -/
theorem now (hp : p.Assures h rely ok s) (refl : ∀ s, rely s s) : ok p s := by
  cases hp with
  | done hok => exact hok s (refl s)
  | call hok _ => exact hok s (refl s)

/-- What others do does not matter. -/
theorem stable (hp : p.Assures h rely ok s) (hs : rely s s')
    (trans : ∀ {s s' s''}, rely s s' → rely s' s'' → rely s s'') : p.Assures h rely ok s' := by
  cases hp with
  | done hok => exact .done fun s'' hs' => hok s'' (trans hs hs')
  | call hok hnext =>
      exact .call (fun s'' hs' => hok s'' (trans hs hs')) fun s'' hs' => hnext s'' (trans hs hs')

/-- What is left of the program assures the same. -/
theorem step {op : I.Op} {next : I.Answer op → Program I α}
    (hp : (Program.call op next).Assures h rely ok s) (refl : ∀ s, rely s s) :
    (next (h op s).1).Assures h rely ok (h op s).2 := by
  cases hp with
  | call _ hnext => exact hnext s (refl s)

theorem mono {ok' : Program I α → σ → Prop} (hp : p.Assures h rely ok s)
    (hok : ∀ p s, ok p s → ok' p s) : p.Assures h rely ok' s := by
  induction hp with
  | done h => exact .done fun s' hs => hok _ s' (h s' hs)
  | call h _ ih => exact .call (fun s' hs => hok _ s' (h s' hs)) ih

theorem and {ok' : Program I α → σ → Prop} (hp : p.Assures h rely ok s)
    (hp' : p.Assures h rely ok' s) : p.Assures h rely (fun p s => ok p s ∧ ok' p s) s := by
  induction hp with
  | done h =>
      cases hp' with
      | done h' => exact .done fun s' hs => ⟨h s' hs, h' s' hs⟩
  | call h _ ih =>
      cases hp' with
      | call h' hnext' =>
          exact .call (fun s' hs => ⟨h s' hs, h' s' hs⟩) fun s' hs => ih s' hs (hnext' s' hs)

/-- A chain is looked at in two parts. -/
theorem bind {before : I.Op → σ → Prop} {after : β → σ → Prop} {f : β → Program I α}
    {p : Program I β} (hp : p.Assures h rely (AtEach before after) s) (refl : ∀ s, rely s s)
    (hbefore : ∀ op (next : I.Answer op → Program I β) s, before op s →
      ok (.call op fun answer => (next answer).bind f) s)
    (hf : ∀ b s, after b s → (f b).Assures h rely ok s) : (p.bind f).Assures h rely ok s := by
  induction hp with
  | done h => exact hf _ _ (h _ (refl _))
  | call h _ ih => exact .call (fun s' hs => hbefore _ _ s' (h s' hs)) ih

end Assures

/-- What a program does whatever its calls are answered, it does whatever the others do. -/
theorem Within.assures {allowed : I.Op → Prop} {wanted : α → Prop} {p : Program I α}
    (hp : p.Within allowed wanted) (s : σ) :
    p.Assures h rely (AtEach (fun op _ => allowed op) fun a _ => wanted a) s := by
  induction hp generalizing s with
  | done h => exact .done fun _ _ => h
  | call h _ ih => exact .call (fun _ _ => h) fun _ _ => ih _ _

/-- A property that neither others nor the program's own calls change holds all along, and at the
end with a wanted value. -/
theorem assures_of_within {allowed : I.Op → Prop} {wanted : α → Prop} {kept : σ → Prop}
    {p : Program I α} {s : σ} (hp : p.Within allowed wanted)
    (hrely : ∀ s s', rely s s' → kept s → kept s')
    (hcall : ∀ op s, allowed op → kept s → kept (h op s).2) (hs : kept s) :
    p.Assures h rely (AtEach (fun op s => allowed op ∧ kept s) fun a s => wanted a ∧ kept s) s := by
  induction hp generalizing s with
  | done h => exact .done fun s' hr => ⟨h, hrely s s' hr hs⟩
  | call h _ ih =>
      exact .call (fun s' hr => ⟨h, hrely s s' hr hs⟩)
        fun s' hr => ih _ (hcall _ s' h (hrely s s' hr hs))

end Gatehouse.Program
