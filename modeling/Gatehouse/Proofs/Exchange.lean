import Gatehouse.Program

/-! # Exchanges

An *exchange* is a call with the answer that it was given.  `p.Goes es a` says that the program `p`
makes the exchanges `es`, in this order and no others, and ends with `a`, if its calls are answered
so; no handler is named, so this covers every handler there is.  What a program does in a run is one
of the ways in which it can go (`goes_run`), and the ways of a chain are taken apart along the chain
(`Goes.of_bind`), also where a part may fail (`Goes.of_bind_except`). -/

namespace Gatehouse

variable {I : Interface} {α β ε σ : Type}

/-- A call and what it was answered. -/
abbrev Exchange (I : Interface) := (op : I.Op) × I.Answer op

namespace Program

/-- The calls that a program makes when it runs, with their answers. -/
def exchanges (h : Handler I σ) : Program I α → σ → List (Exchange I)
  | done _, _ => []
  | call op next, s => ⟨op, (h op s).1⟩ :: (next (h op s).1).exchanges h (h op s).2

/-- The program makes these exchanges and ends with this value, if it is answered so. -/
inductive Goes : Program I α → List (Exchange I) → α → Prop
  | done {a : α} : Goes (done a) [] a
  | call {op : I.Op} {next : I.Answer op → Program I α} {answer : I.Answer op}
      {es : List (Exchange I)} {a : α} (h : Goes (next answer) es a) :
      Goes (call op next) (⟨op, answer⟩ :: es) a

theorem goes_run (h : Handler I σ) (p : Program I α) (s : σ) :
    p.Goes (p.exchanges h s) (p.run h s).1 := by
  induction p generalizing s with
  | done a => exact .done
  | call op next ih => exact .call (ih _ _)

namespace Goes

variable {es : List (Exchange I)} {a b : α}

theorem of_done (h : (Program.done a : Program I α).Goes es b) : es = [] ∧ b = a := by
  cases h
  exact ⟨rfl, rfl⟩

theorem of_ask {op : I.Op} {answer : I.Answer op} (h : (ask op).Goes es answer) :
    es = [⟨op, answer⟩] := by
  cases h with
  | call h =>
      cases h
      rfl

/-- A chain makes the exchanges of its first part, then those of the rest. -/
theorem of_bind {p : Program I α} {f : α → Program I β} {b : β} (h : (p.bind f).Goes es b) :
    ∃ es₁ a es₂, es = es₁ ++ es₂ ∧ p.Goes es₁ a ∧ (f a).Goes es₂ b := by
  induction p generalizing es with
  | done a => exact ⟨[], a, es, rfl, .done, h⟩
  | call op next ih =>
      cases h with
      | call h =>
          obtain ⟨es₁, a, es₂, rfl, hp, hf⟩ := ih _ h
          exact ⟨_ :: es₁, a, es₂, rfl, .call hp, hf⟩

/-! ### Programs that may fail -/

/-- A chain makes the exchanges of its first part, and then, unless that fails, those of the
rest. -/
theorem of_bind_except {p : ExceptT ε (Program I) α} {f : α → ExceptT ε (Program I) β}
    {r : Except ε β} (h : (p >>= f).run.Goes es r) :
    (∃ e, p.run.Goes es (.error e) ∧ r = .error e) ∨
      ∃ es₁ a es₂, es = es₁ ++ es₂ ∧ p.run.Goes es₁ (.ok a) ∧ (f a).run.Goes es₂ r := by
  obtain ⟨es₁, result, es₂, rfl, hp, hf⟩ := of_bind (p := p.run) h
  cases result with
  | error e =>
      obtain ⟨rfl, rfl⟩ := of_done hf
      rw [List.append_nil]
      exact .inl ⟨e, hp, rfl⟩
  | ok a => exact .inr ⟨es₁, a, es₂, rfl, hp, hf⟩

theorem of_lift {p : Program I α} {r : Except ε α} (h : (ExceptT.lift p).run.Goes es r) :
    ∃ a, p.Goes es a ∧ r = .ok a := by
  have hbind : (p.bind fun a => .done (Except.ok a)).Goes es r := h
  obtain ⟨es₁, a, es₂, rfl, hp, hf⟩ := of_bind hbind
  obtain ⟨rfl, rfl⟩ := of_done hf
  rw [List.append_nil]
  exact ⟨a, hp, rfl⟩

theorem of_map_except {p : ExceptT ε (Program I) α} {f : α → β} {r : Except ε β}
    (h : (f <$> p).run.Goes es r) : ∃ result, p.run.Goes es result ∧ r = result.map f := by
  obtain ⟨es₁, result, es₂, rfl, hp, hf⟩ := of_bind (p := p.run) h
  have hr : es₂ = [] ∧ r = result.map f := by
    cases result <;> exact of_done hf
  obtain ⟨rfl, rfl⟩ := hr
  rw [List.append_nil]
  exact ⟨result, hp, rfl⟩

end Goes

end Program

end Gatehouse
