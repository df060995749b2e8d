import Gatehouse.Proofs.Concurrency.Calls

/-! # The calls that a service makes

`service.trace storage w` lists the calls that a service makes when it runs alone in the world `w`,
in their order.  A chain makes the calls of its first part and then, unless that part stops, those
of the rest (`trace_bind_ok`, `trace_bind_error`); a deadline makes no call.  A service that makes
allowed calls only, whatever they are answered, makes no other ones in this run (`Within.trace`). -/

namespace Gatehouse

namespace Program

variable {I : Interface} {α β σ : Type}

/-- The calls that a program makes when it runs. -/
def trace (h : Handler I σ) : Program I α → σ → List I.Op
  | done _, _ => []
  | call op next, s => op :: (next (h op s).1).trace h (h op s).2

theorem trace_bind (h : Handler I σ) (p : Program I α) (f : α → Program I β) (s : σ) :
    (p.bind f).trace h s = p.trace h s ++ (f (p.run h s).1).trace h (p.run h s).2 := by
  induction p generalizing s with
  | done a => rfl
  | call op next ih => exact congrArg (op :: ·) (ih _ _)

theorem Within.trace {allowed : I.Op → Prop} {wanted : α → Prop} {p : Program I α}
    (hp : p.Within allowed wanted) (h : Handler I σ) (s : σ) : ∀ op ∈ p.trace h s, allowed op := by
  induction hp generalizing s with
  | done _ => exact fun _ hop => nomatch hop
  | call hallowed _ ih => exact List.forall_mem_cons.mpr ⟨hallowed, ih _ _⟩

end Program

namespace Service

variable {σ α β : Type} {storage : Storage σ} {w w' : World σ}

/-- The calls that a service makes when it runs in a world. -/
def trace (service : Service α) (storage : Storage σ) (w : World σ) : List Backend.Op :=
  service.run.trace (World.handler storage) w

theorem Within.trace {allowed : Backend.Op → Prop} {wanted : α → Prop} {p : Service α}
    (hp : p.Within allowed wanted) (w : World σ) : ∀ op ∈ trace p storage w, allowed op :=
  Program.Within.trace hp (World.handler storage) w

theorem trace_bind_ok {p : Service α} {f : α → Service β} {a : α}
    (h : outcome p storage w = (.ok a, w')) :
    trace (p >>= f) storage w = trace p storage w ++ trace (f a) storage w' := by
  have hrun : p.run.run (World.handler storage) w = (.ok a, w') := h
  unfold trace
  rw [run_bind, Program.trace_bind, hrun]
  rfl

theorem trace_bind_error {p : Service α} {f : α → Service β} {stop : Stop}
    (h : outcome p storage w = (.error stop, w')) :
    trace (p >>= f) storage w = trace p storage w := by
  have hrun : p.run.run (World.handler storage) w = (.error stop, w') := h
  unfold trace
  rw [run_bind, Program.trace_bind, hrun]
  exact List.append_nil _

theorem trace_map (f : α → β) (p : Service α) :
    trace (f <$> p) storage w = trace p storage w := by
  rw [map_eq_pure_bind]
  cases h : outcome p storage w with
  | mk result w' =>
      cases result with
      | ok a => exact (trace_bind_ok h).trans (List.append_nil _)
      | error stop => exact trace_bind_error h

theorem trace_withDeadline (context : String) (p : Service α) :
    trace (withDeadline context p) storage w = trace p storage w := by
  unfold trace
  rw [run_withDeadline, Program.trace_bind]
  exact List.append_nil _

@[simp] theorem trace_ask (op : Backend.Op) : trace (ask op) storage w = [op] := rfl

@[simp] theorem trace_now : trace now storage w = [.now] := rfl

@[simp] theorem trace_require (failure : Failure) (a : Option α) :
    trace (require failure a) storage w = [] := by
  cases a <;> rfl

@[simp] theorem trace_accept (check : Except Failure Unit) :
    trace (accept check) storage w = [] := by
  cases check <;> rfl

/-- A store call is one call, whatever is made of its answer. -/
theorem trace_store (call : StoreCall) (context : Option String) :
    trace (store call context) storage w = [.store call] := by
  unfold store
  rw [trace_bind_ok (outcome_ask (.store call)), trace_ask]
  refine congrArg (Backend.Op.store call :: ·) ?_
  generalize (World.handler storage (.store call) w).1 = answer
  cases answer with
  | ok reply => rfl
  | error trouble => cases trouble <;> rfl

end Service

end Gatehouse
