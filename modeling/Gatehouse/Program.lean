/-! # Programs over an interface

An *interface* says which calls may be made and what each is answered. A *program* is a tree: it is
done with a value, or it makes a call and goes on as the answer says. A *handler* answers calls from
a state; running a program threads the state through it. A program over one interface becomes a
program over another when each of its calls is carried out by a program. Since a program is a tree
of calls, the steps of several programs can be interleaved, and what one of them does between two
calls is seen by none. -/

namespace Gatehouse

/-- Calls and the types of their answers. -/
structure Interface where
  Op : Type
  Answer : Op → Type

/-- A program that makes calls and ends with a value. -/
inductive Program (I : Interface) (α : Type) where
  | done (a : α)
  | call (op : I.Op) (next : I.Answer op → Program I α)

/-- A way to answer the calls of an interface from a state. -/
abbrev Handler (I : Interface) (σ : Type) := (op : I.Op) → σ → I.Answer op × σ

namespace Program

variable {I J : Interface} {α β σ : Type}

/-- The first program, then the one that its value chooses. -/
def bind : Program I α → (α → Program I β) → Program I β
  | done a, f => f a
  | call op next, f => call op fun answer => (next answer).bind f

instance : Monad (Program I) where
  pure := done
  bind := bind

/-- One call. -/
def ask (op : I.Op) : Program I (I.Answer op) := call op done

/-- The value of a program and the state in which it leaves the handler. -/
def run (h : Handler I σ) : Program I α → σ → α × σ
  | done a, s => (a, s)
  | call op next, s =>
    let (answer, s) := h op s
    (next answer).run h s

/-- The program with every call carried out by a program over another interface. -/
def interpret (f : (op : I.Op) → Program J (I.Answer op)) : Program I α → Program J α
  | done a => done a
  | call op next => (f op).bind fun answer => (next answer).interpret f

@[simp] theorem run_done (h : Handler I σ) (a : α) (s : σ) : (done a).run h s = (a, s) := rfl

@[simp] theorem run_call (h : Handler I σ) (op : I.Op) (next : I.Answer op → Program I α) (s : σ) :
    (call op next).run h s = (next (h op s).1).run h (h op s).2 := rfl

@[simp] theorem run_ask (h : Handler I σ) (op : I.Op) (s : σ) : (ask op).run h s = h op s := rfl

@[simp] theorem run_bind (h : Handler I σ) (p : Program I α) (f : α → Program I β) (s : σ) :
    (p.bind f).run h s = (f (p.run h s).1).run h (p.run h s).2 := by
  induction p generalizing s with
  | done a => rfl
  | call op next ih => exact ih _ _

theorem bind_done (p : Program I α) : p.bind done = p := by
  induction p with
  | done a => rfl
  | call op next ih => simp only [bind, ih]

theorem bind_assoc {γ : Type} (p : Program I α) (f : α → Program I β) (g : β → Program I γ) :
    (p.bind f).bind g = p.bind fun a => (f a).bind g := by
  induction p with
  | done a => rfl
  | call op next ih => simp only [bind, ih]

end Program

end Gatehouse
