import Gatehouse.Service.Basic
import Gatehouse.World

/-! # Running a service by itself

`service.outcome storage w` is what a service ends with when it runs alone in the world `w`, and the
world that it leaves.  The equations below take a run apart along the service: a chain stops at the
first part that stops (`outcome_bind`), a store call is answered by the storage (`outcome_store`),
and a deadline changes nothing but how a call without an answer is told (`outcome_withDeadline`).

Two properties of services are kept by chaining: to leave every world as it was (`ReadOnly`), and to
run alike in a world and in its image under a map of worlds (`Commutes`). -/

namespace Gatehouse

instance (I : Interface) : LawfulMonad (Program I) :=
  .mk' _ Program.bind_done (fun _ _ => rfl) Program.bind_assoc

/-- Calls do not move the clock. -/
theorem World.now_handler {σ : Type} {storage : Storage σ} (op : Backend.Op) (w : World σ) :
    (World.handler storage op w).2.now = w.now := by
  cases op <;> rfl

namespace Service

variable {σ α β : Type} {storage : Storage σ} {w w' : World σ}

/-- What a service ends with, and the world that it leaves. -/
def outcome (service : Service α) (storage : Storage σ) (w : World σ) :
    Except Stop α × World σ :=
  service.run.run (World.handler storage) w

/-! ### Chains -/

/-- How a chain goes on from what its first part ends with. -/
def andThen (f : α → Service β) : Except Stop α → Program Backend (Except Stop β)
  | .ok a => (f a).run
  | .error stop => .done (.error stop)

theorem run_bind (p : Service α) (f : α → Service β) :
    (p >>= f).run = p.run.bind (andThen f) := by
  change Program.bind p.run _ = Program.bind p.run _
  congr 1
  funext r
  cases r <;> rfl

/-! ### The parts of a run -/

/-- A chain goes on with the value of its first part, or stops there. -/
theorem outcome_bind (p : Service α) (f : α → Service β) :
    outcome (p >>= f) storage w =
      match outcome p storage w with
      | (.ok a, w') => outcome (f a) storage w'
      | (.error stop, w') => (.error stop, w') := by
  unfold outcome
  rw [run_bind, Program.run_bind]
  cases hr : p.run.run (World.handler storage) w with
  | mk result w' => cases result <;> rfl

theorem outcome_bind_ok {p : Service α} {f : α → Service β} {a : α}
    (h : outcome p storage w = (.ok a, w')) :
    outcome (p >>= f) storage w = outcome (f a) storage w' := by
  rw [outcome_bind, h]

theorem outcome_bind_error {p : Service α} {f : α → Service β} {stop : Stop}
    (h : outcome p storage w = (.error stop, w')) :
    outcome (p >>= f) storage w = (.error stop, w') := by
  rw [outcome_bind, h]

/-- A chain that ends with a value did so in each of its parts. -/
theorem bind_eq_ok {p : Service α} {f : α → Service β} {b : β} :
    outcome (p >>= f) storage w = (.ok b, w') ↔
      ∃ a w₁, outcome p storage w = (.ok a, w₁) ∧ outcome (f a) storage w₁ = (.ok b, w') := by
  rw [outcome_bind]
  cases h : outcome p storage w with
  | mk result w₁ =>
      cases result with
      | ok a =>
          constructor
          · intro h'
            exact ⟨a, w₁, rfl, h'⟩
          · rintro ⟨_, _, heq, h'⟩
            cases heq
            exact h'
      | error stop =>
          constructor
          · intro h'
            cases h'
          · rintro ⟨_, _, heq, _⟩
            cases heq

/-- A function of the value changes nothing else. -/
theorem outcome_map (f : α → β) (p : Service α) :
    outcome (f <$> p) storage w = ((outcome p storage w).1.map f, (outcome p storage w).2) := by
  rw [map_eq_pure_bind, outcome_bind]
  cases outcome p storage w with
  | mk result w' => cases result <;> rfl

@[simp] theorem outcome_ask (op : Backend.Op) :
    outcome (ask op) storage w =
      (.ok (World.handler storage op w).1, (World.handler storage op w).2) := rfl

@[simp] theorem outcome_now : outcome now storage w = (.ok w.now, w) := rfl

/-- What a service makes of trouble with the store. -/
def stopOf (context : Option String) : Trouble → Stop
  | .failed cause => .refused (.infrastructure (context.elim cause cause.within))
  | trouble => ofTrouble trouble

/-- A store call is answered by the storage. -/
theorem outcome_store (call : StoreCall) (context : Option String) :
    outcome (store call context) storage w =
      ((storage.answer call w.stored).1.mapError (stopOf context),
        { w with stored := (storage.answer call w.stored).2 }) := by
  have h : World.handler storage (.store call) w =
      ((storage.answer call w.stored).1, { w with stored := (storage.answer call w.stored).2 }) :=
    rfl
  unfold store
  rw [outcome_bind, outcome_ask, h]
  cases (storage.answer call w.stored).1 with
  | ok reply => rfl
  | error trouble => cases trouble <;> rfl

theorem outcome_store_ok {call : StoreCall} {reply : call.Reply} {stored : σ}
    (h : storage.answer call w.stored = (.ok reply, stored)) (context : Option String) :
    outcome (store call context) storage w = (.ok reply, { w with stored }) := by
  rw [outcome_store, h]
  rfl

theorem outcome_store_error {call : StoreCall} {trouble : Trouble} {stored : σ}
    (h : storage.answer call w.stored = (.error trouble, stored)) (context : Option String) :
    outcome (store call context) storage w =
      (.error (stopOf context trouble), { w with stored }) := by
  rw [outcome_store, h]
  rfl

@[simp] theorem outcome_require (failure : Failure) (a : Option α) :
    outcome (require failure a) storage w =
      (a.elim (.error (.refused failure)) .ok, w) := by
  cases a <;> rfl

@[simp] theorem outcome_inCalendar (a : Option α) :
    outcome (inCalendar a) storage w = (a.elim (.error .broken) .ok, w) := by
  cases a <;> rfl

@[simp] theorem outcome_accept (check : Except Failure Unit) :
    outcome (accept check) storage w = (check.mapError .refused, w) := by
  cases check <;> rfl

/-- How a deadline tells that a service stopped. -/
def deadlined (context : String) : Stop → Stop
  | .stalled => .refused (.infrastructure ((Cause.root "storage deadline exceeded").within context))
  | stop => stop

theorem run_withDeadline (context : String) (p : Service α) :
    (withDeadline context p).run =
      p.run.bind fun result => .done (result.mapError (deadlined context)) := by
  change Program.bind p.run _ = Program.bind p.run _
  congr 1
  funext r
  cases r with
  | ok a => rfl
  | error stop => cases stop <;> rfl

/-- A deadline changes how a stop is told, and nothing else. -/
theorem outcome_withDeadline (context : String) (p : Service α) :
    outcome (withDeadline context p) storage w =
      ((outcome p storage w).1.mapError (deadlined context), (outcome p storage w).2) := by
  unfold outcome
  rw [run_withDeadline, Program.run_bind]
  cases hr : p.run.run (World.handler storage) w with
  | mk result w' => cases result <;> rfl

theorem withDeadline_eq_ok {context : String} {p : Service α} {a : α} :
    outcome (withDeadline context p) storage w = (.ok a, w') ↔
      outcome p storage w = (.ok a, w') := by
  rw [outcome_withDeadline]
  cases h : outcome p storage w with
  | mk result w₁ =>
      cases result with
      | ok b => exact Iff.rfl
      | error stop =>
          constructor
          · intro hdeadline
            cases hdeadline
          · intro hstop
            cases hstop

/-! ### What a run leaves behind -/

/-- What every call keeps holds after a run. -/
theorem outcome_invariant {P : World σ → Prop}
    (hP : ∀ op w, P w → P (World.handler storage op w).2) (p : Service α) (h : P w) :
    P (outcome p storage w).2 := by
  unfold outcome
  generalize p.run = program
  induction program generalizing w with
  | done result => exact h
  | call op next ih => exact ih _ (hP op w h)

/-- What a chain leaves behind, it leaves in its first part or in the rest. -/
theorem world_bind {P : World σ → Prop} {p : Service α} {f : α → Service β}
    (hp : P (outcome p storage w).2)
    (hf : ∀ a w', outcome p storage w = (.ok a, w') → P (outcome (f a) storage w').2) :
    P (outcome (p >>= f) storage w).2 := by
  rw [outcome_bind]
  cases hr : outcome p storage w with
  | mk result w' =>
      rw [hr] at hp
      cases result with
      | ok a => exact hf a w' hr
      | error stop => exact hp

/-! ### Services that only read -/

/-- The service leaves every world as it was. -/
def ReadOnly (storage : Storage σ) (p : Service α) : Prop := ∀ w, (outcome p storage w).2 = w

namespace ReadOnly

theorem pure (a : α) : ReadOnly storage (pure a : Service α) := fun _ => rfl

theorem now : ReadOnly storage now := fun _ => rfl

theorem refuse (failure : Failure) : ReadOnly storage (refuse failure : Service α) := fun _ => rfl

theorem require (failure : Failure) (a : Option α) : ReadOnly storage (require failure a) :=
  fun w => by rw [outcome_require]

theorem inCalendar (a : Option α) : ReadOnly storage (inCalendar a) :=
  fun w => by rw [outcome_inCalendar]

theorem accept (check : Except Failure Unit) : ReadOnly storage (accept check) :=
  fun w => by rw [outcome_accept]

theorem store {call : StoreCall} (h : ∀ s, (storage.answer call s).2 = s)
    (context : Option String) : ReadOnly storage (store call context) :=
  fun w => by rw [outcome_store, h]

theorem bind {p : Service α} {f : α → Service β} (hp : ReadOnly storage p)
    (hf : ∀ a, ReadOnly storage (f a)) : ReadOnly storage (p >>= f) := by
  intro w
  have h := hp w
  rw [outcome_bind]
  cases hr : outcome p storage w with
  | mk result w' =>
      rw [hr] at h
      cases result with
      | ok a => exact (hf a w').trans h
      | error stop => exact h

theorem withDeadline {p : Service α} (hp : ReadOnly storage p) (context : String) :
    ReadOnly storage (withDeadline context p) :=
  fun w => by rw [outcome_withDeadline, hp w]

/-- What a chain that begins with reading leaves behind, the rest leaves in the same world. -/
theorem world_bind {P : World σ → Prop} {p : Service α} {f : α → Service β}
    (hp : ReadOnly storage p) (h : P w)
    (hf : ∀ a, outcome p storage w = (.ok a, w) → P (outcome (f a) storage w).2) :
    P (outcome (p >>= f) storage w).2 := by
  refine Service.world_bind (by rwa [hp w]) fun a w' ha => ?_
  have hw : w' = w := by rw [← hp w, ha]
  rw [hw] at ha ⊢
  exact hf a ha

/-- A service that only reads ends in the world where it began. -/
theorem eq_of_outcome {p : Service α} (hp : ReadOnly storage p) {r : Except Stop α}
    (h : outcome p storage w = (r, w')) : w' = w := by
  rw [← hp w, h]

end ReadOnly

/-! ### Services that run alike in two worlds -/

/-- The service does not see the change of the storage. -/
def Commutes (storage : Storage σ) (f : σ → σ) (p : Service α) : Prop :=
  ∀ w, outcome p storage { w with stored := f w.stored } =
    ((outcome p storage w).1,
      { (outcome p storage w).2 with stored := f (outcome p storage w).2.stored })

namespace Commutes

variable {f : σ → σ}

theorem pure (a : α) : Commutes storage f (pure a : Service α) := fun _ => rfl

theorem refuse (failure : Failure) : Commutes storage f (refuse failure : Service α) :=
  fun _ => rfl

theorem now : Commutes storage f now := fun _ => rfl

theorem require (failure : Failure) (a : Option α) : Commutes storage f (require failure a) :=
  fun w => by rw [outcome_require, outcome_require]

theorem inCalendar (a : Option α) : Commutes storage f (inCalendar a) :=
  fun w => by rw [outcome_inCalendar, outcome_inCalendar]

theorem accept (check : Except Failure Unit) : Commutes storage f (accept check) :=
  fun w => by rw [outcome_accept, outcome_accept]

theorem store {call : StoreCall}
    (h : ∀ s, storage.answer call (f s) =
      ((storage.answer call s).1, f (storage.answer call s).2))
    (context : Option String) : Commutes storage f (store call context) :=
  fun w => by rw [outcome_store, outcome_store, h]

theorem bind {p : Service α} {g : α → Service β} (hp : Commutes storage f p)
    (hg : ∀ a, Commutes storage f (g a)) : Commutes storage f (p >>= g) := by
  intro w
  rw [outcome_bind, outcome_bind, hp w]
  cases hr : outcome p storage w with
  | mk result w' =>
      cases result with
      | ok a => exact hg a w'
      | error stop => rfl

theorem withDeadline {p : Service α} (hp : Commutes storage f p) (context : String) :
    Commutes storage f (withDeadline context p) :=
  fun w => by rw [outcome_withDeadline, outcome_withDeadline, hp w]

end Commutes

end Service

end Gatehouse
