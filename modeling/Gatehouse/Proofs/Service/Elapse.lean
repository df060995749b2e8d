import Gatehouse.Proofs.Calendar
import Gatehouse.Proofs.Service.Run

/-! # Running as the clock goes on

A service that runs by itself in a world still runs in time: the clock may go on before each of its
calls and after the last one.  `p.Elapses storage w a w'` says that the program so leads from `w` to
`w'`, where it ends with `a`.  The run by a clock that stands is one of these (`elapses_run`).  A
call is made at one moment in between (`of_ask`).

`Service.Delivers` says of a service that it ends well, however the clock goes on.  A reading of the
clock lies between the beginning and the end (`Delivers.now`), and a store call is answered by what
is stored (`Delivers.store`).  Where a service need not end well its run is taken apart from its end:
a chain that ended with a value did so in each of its parts (`elapses_bind_ok`), and one that stopped
stopped in one of them (`elapses_bind`). -/

namespace Gatehouse

variable {σ α β : Type} {storage : Storage σ} {w w₁ w' : World σ}

/-- The clock has gone on, and that is all. -/
structure World.Elapsed (w w' : World σ) : Prop where
  le : w.now ≤ w'.now
  eq : w' = { w with now := w'.now }

namespace World.Elapsed

theorem refl (w : World σ) : w.Elapsed w := ⟨Instant.le_refl _, rfl⟩

theorem trans (h : w.Elapsed w₁) (h' : w₁.Elapsed w') : w.Elapsed w' where
  le := Instant.le_trans h.le h'.le
  eq := by rw [h'.eq, h.eq]

theorem tick {t : Instant} (ht : w.now ≤ t) : w.Elapsed { w with now := t } := ⟨ht, rfl⟩

theorem stored_eq (h : w.Elapsed w') : w'.stored = w.stored := by rw [h.eq]

theorem store (h : w.Elapsed w') (stored : σ) :
    World.Elapsed { w with stored } { w' with stored } where
  le := h.le
  eq := by rw [h.eq]

/-- A call that does not read the clock does not see it. -/
theorem handler (storage : Storage σ) (h : w.Elapsed w') {op : Backend.Op} (hop : op ≠ .now) :
    (World.handler storage op w').1 = (World.handler storage op w).1 ∧
      (World.handler storage op w).2.Elapsed (World.handler storage op w').2 := by
  have hle : w.now ≤ w'.now := h.le
  rw [h.eq]
  cases op with
  | now => exact absurd rfl hop
  | _ => exact ⟨rfl, hle, rfl⟩

end World.Elapsed

namespace Program

/-- The program leads from one world to another, where it ends with a value, as the clock goes
on. -/
inductive Elapses (storage : Storage σ) :
    Program Backend α → World σ → α → World σ → Prop
  | done {a : α} {w : World σ} : Elapses storage (.done a) w a w
  | tick {p : Program Backend α} {w w' : World σ} {a : α} {t : Instant} (ht : w.now ≤ t)
      (h : Elapses storage p { w with now := t } a w') : Elapses storage p w a w'
  | call {op : Backend.Op} {next : Backend.Answer op → Program Backend α} {w w' : World σ} {a : α}
      (h : Elapses storage (next (World.handler storage op w).1) (World.handler storage op w).2 a
        w') : Elapses storage (.call op next) w a w'

theorem elapses_run (storage : Storage σ) (p : Program Backend α) (w : World σ) :
    p.Elapses storage w (p.run (World.handler storage) w).1
      (p.run (World.handler storage) w).2 := by
  induction p generalizing w with
  | done a => exact .done
  | call op next ih => exact .call (ih _ _)

namespace Elapses

theorem of_done {a b : α} (h : (Program.done a).Elapses storage w b w') :
    b = a ∧ w.Elapsed w' := by
  generalize hp : (Program.done a : Program Backend α) = p at h
  induction h with
  | done =>
      cases hp
      exact ⟨rfl, .refl _⟩
  | tick ht _ ih =>
      obtain ⟨hb, helapsed⟩ := ih hp
      exact ⟨hb, (World.Elapsed.tick ht).trans helapsed⟩
  | call _ _ => cases hp

/-- The clock goes on after the end. -/
theorem elapsed {p : Program Backend α} {a : α} (h : p.Elapses storage w a w₁)
    (helapsed : w₁.Elapsed w') : p.Elapses storage w a w' := by
  induction h with
  | done =>
      rw [helapsed.eq]
      exact .tick helapsed.le .done
  | tick ht _ ih => exact .tick ht (ih helapsed)
  | call _ ih => exact .call (ih helapsed)

/-- A chain runs through its first part, and then through the rest. -/
theorem of_bind {p : Program Backend α} {f : α → Program Backend β} {b : β}
    (h : (p.bind f).Elapses storage w b w') :
    ∃ a w₁, p.Elapses storage w a w₁ ∧ (f a).Elapses storage w₁ b w' := by
  generalize hq : p.bind f = q at h
  induction h generalizing p with
  | @done b w =>
      cases p with
      | done a =>
          refine ⟨a, w, .done, ?_⟩
          change f a = _ at hq
          rw [hq]
          exact .done
      | call op next => cases hq
  | @tick q w w' b t ht h ih =>
      obtain ⟨a, w₁, hp, hf⟩ := ih hq
      exact ⟨a, w₁, .tick ht hp, hf⟩
  | @call op next w w' b h ih =>
      cases p with
      | done a =>
          refine ⟨a, w, .done, ?_⟩
          change f a = _ at hq
          rw [hq]
          exact .call h
      | call op' next' =>
          cases hq
          obtain ⟨a, w₁, hp, hf⟩ := ih rfl
          exact ⟨a, w₁, .call hp, hf⟩

/-- A call is made at one moment. -/
theorem of_ask {op : Backend.Op} {answer : Backend.Answer op}
    (h : (ask (I := Backend) op).Elapses storage w answer w') :
    ∃ w₁, w.Elapsed w₁ ∧ answer = (World.handler storage op w₁).1 ∧
      (World.handler storage op w₁).2.Elapsed w' := by
  generalize hp : (ask (I := Backend) op) = p at h
  induction h with
  | done => cases hp
  | tick ht _ ih =>
      obtain ⟨w₁, helapsed, hanswer, hend⟩ := ih hp
      exact ⟨w₁, (World.Elapsed.tick ht).trans helapsed, hanswer, hend⟩
  | @call op next w w' a h _ =>
      cases hp
      obtain ⟨ha, hend⟩ := of_done h
      exact ⟨w, .refl w, ha, hend⟩

end Elapses

end Program

namespace Service

/-- As the clock goes on, the service ends with a value, and in a world, that are as they should
be. -/
def Delivers (storage : Storage σ) (w : World σ) (good : α → World σ → Prop)
    (p : Service α) : Prop :=
  ∀ result w', p.run.Elapses storage w result w' → ∃ a, result = .ok a ∧ good a w'

namespace Delivers

variable {p : Service α} {f : α → Service β} {good : α → World σ → Prop}

theorem pure {a : α} (h : ∀ w', w.Elapsed w' → good a w') :
    Delivers storage w good (Pure.pure a) := by
  intro result w' hrun
  obtain ⟨rfl, helapsed⟩ := Program.Elapses.of_done hrun
  exact ⟨a, rfl, h w' helapsed⟩

theorem mono {good' : α → World σ → Prop} (h : Delivers storage w good p)
    (hgood : ∀ a w', good a w' → good' a w') : Delivers storage w good' p := by
  intro result w' hrun
  obtain ⟨a, ha, hga⟩ := h result w' hrun
  exact ⟨a, ha, hgood a w' hga⟩

/-- A chain goes on with the value of its first part. -/
theorem bind {good' : β → World σ → Prop} (hp : Delivers storage w good p)
    (hf : ∀ a w₁, good a w₁ → Delivers storage w₁ good' (f a)) :
    Delivers storage w good' (p >>= f) := by
  intro result w' hrun
  rw [run_bind] at hrun
  obtain ⟨first, w₁, hfirst, hrest⟩ := Program.Elapses.of_bind hrun
  obtain ⟨a, rfl, hgood⟩ := hp first w₁ hfirst
  exact hf a w₁ hgood result w' hrest

theorem ask (op : Backend.Op) : Delivers storage w
    (fun answer w' => ∃ w₁, w.Elapsed w₁ ∧ answer = (World.handler storage op w₁).1 ∧
      (World.handler storage op w₁).2.Elapsed w') (ask op) := by
  intro result w' hrun
  have hrun : ((Program.ask (I := Backend) op).bind fun a => .done (.ok a)).Elapses storage w result
    w' := hrun
  obtain ⟨answer, w₂, hasked, hend⟩ := Program.Elapses.of_bind hrun
  obtain ⟨rfl, helapsed⟩ := Program.Elapses.of_done hend
  obtain ⟨w₁, hbefore, hanswer, hafter⟩ := Program.Elapses.of_ask hasked
  exact ⟨answer, rfl, w₁, hbefore, hanswer, hafter.trans helapsed⟩

/-- A reading of the clock lies between the beginning and the end. -/
theorem now : Delivers storage w (fun t w' => w.now ≤ t ∧ t ≤ w'.now ∧ w.Elapsed w') now := by
  intro result w' hrun
  obtain ⟨t, rfl, w₁, hbefore, rfl, hafter⟩ := ask .now result w' hrun
  exact ⟨w₁.now, rfl, hbefore.le, hafter.le, hbefore.trans hafter⟩

/-- A store call that is not in trouble is answered by what is stored. -/
theorem store {call : StoreCall} {reply : call.Reply} {stored : σ}
    (h : storage.answer call w.stored = (.ok reply, stored)) (context : Option String) :
    Delivers storage w (fun r w' => r = reply ∧ World.Elapsed { w with stored } w')
      (store call context) := by
  refine bind (ask (.store call)) fun answer w₂ hasked => ?_
  obtain ⟨w₁, hbefore, rfl, hafter⟩ := hasked
  have hhandler : World.handler storage (.store call) w₁ = (.ok reply, { w₁ with stored }) := by
    change ((storage.answer call w₁.stored).1,
      { w₁ with stored := (storage.answer call w₁.stored).2 }) = _
    rw [hbefore.stored_eq, h]
    rfl
  rw [hhandler] at hafter ⊢
  exact pure fun w' helapsed => ⟨rfl, (hbefore.store stored).trans (hafter.trans helapsed)⟩

theorem withDeadline (context : String) (h : Delivers storage w good p) :
    Delivers storage w good (withDeadline context p) := by
  intro result w' hrun
  rw [run_withDeadline] at hrun
  obtain ⟨first, w₁, hfirst, hend⟩ := Program.Elapses.of_bind hrun
  obtain ⟨rfl, helapsed⟩ := Program.Elapses.of_done hend
  obtain ⟨a, rfl, hgood⟩ := h first w' (hfirst.elapsed helapsed)
  exact ⟨a, rfl, hgood⟩

end Delivers

/-! ### The ends of a service -/

section Ends

variable {p : Service α} {f : α → Service β} {a : α} {b : β} {stop : Stop}
  {result : Except Stop α} {result' : Except Stop β}

/-- What a service does while the clock stands is one of its runs. -/
theorem elapses_of_outcome (h : outcome p storage w = (result, w')) :
    p.run.Elapses storage w result w' := by
  have hrun := Program.elapses_run storage p.run w
  unfold outcome at h
  rwa [h] at hrun

theorem elapses_pure (h : (Pure.pure a : Service α).run.Elapses storage w result w') :
    result = .ok a ∧ w.Elapsed w' :=
  Program.Elapses.of_done h

theorem elapses_throw (h : (throw stop : Service α).run.Elapses storage w result w') :
    result = .error stop ∧ w.Elapsed w' :=
  Program.Elapses.of_done h

/-- A chain ends with its first part, which stopped, or with the rest. -/
theorem elapses_bind (h : (p >>= f).run.Elapses storage w result' w') :
    (∃ stop, result' = .error stop ∧ p.run.Elapses storage w (.error stop) w') ∨
      ∃ a w₁, p.run.Elapses storage w (.ok a) w₁ ∧ (f a).run.Elapses storage w₁ result' w' := by
  rw [run_bind] at h
  obtain ⟨first, w₁, hfirst, hrest⟩ := Program.Elapses.of_bind h
  cases first with
  | error stop =>
      obtain ⟨rfl, helapsed⟩ := Program.Elapses.of_done hrest
      exact .inl ⟨stop, rfl, hfirst.elapsed helapsed⟩
  | ok a => exact .inr ⟨a, w₁, hfirst, hrest⟩

theorem elapses_bind_ok (h : (p >>= f).run.Elapses storage w (.ok b) w') :
    ∃ a w₁, p.run.Elapses storage w (.ok a) w₁ ∧ (f a).run.Elapses storage w₁ (.ok b) w' := by
  rcases elapses_bind h with ⟨stop, hstop, _⟩ | h
  · cases hstop
  · exact h

/-- A chain that only dresses up a value ends as its first part. -/
theorem elapses_bind_pure {g : α → β}
    (h : (p >>= fun a => Pure.pure (g a)).run.Elapses storage w result' w') :
    ∃ first, p.run.Elapses storage w first w' ∧ result' = first.map g := by
  rcases elapses_bind h with ⟨stop, rfl, hstop⟩ | ⟨a, w₁, hfirst, hend⟩
  · exact ⟨.error stop, hstop, rfl⟩
  · obtain ⟨rfl, helapsed⟩ := elapses_pure hend
    exact ⟨.ok a, hfirst.elapsed helapsed, rfl⟩

/-- A call that cannot fail is made at one moment. -/
theorem elapses_ask {op : Backend.Op} {result : Except Stop (Backend.Answer op)}
    (h : (ask op).run.Elapses storage w result w') :
    ∃ w₁, w.Elapsed w₁ ∧ result = .ok (World.handler storage op w₁).1 ∧
      (World.handler storage op w₁).2.Elapsed w' := by
  obtain ⟨_, rfl, w₁, hbefore, rfl, hafter⟩ := Delivers.ask op result w' h
  exact ⟨w₁, hbefore, rfl, hafter⟩

theorem elapses_now {result : Except Stop Instant} (h : now.run.Elapses storage w result w') :
    ∃ t, result = .ok t ∧ w.now ≤ t ∧ t ≤ w'.now ∧ w.Elapsed w' :=
  Delivers.now result w' h

/-- A chain that begins with a reading of the clock goes on from there. -/
theorem elapses_bind_now {f : Instant → Service β}
    (h : (now >>= f).run.Elapses storage w result' w') :
    ∃ t w₁, w.now ≤ t ∧ t ≤ w₁.now ∧ w.Elapsed w₁ ∧ (f t).run.Elapses storage w₁ result' w' := by
  rcases elapses_bind h with ⟨stop, _, hstop⟩ | ⟨t, w₁, hnow, hrest⟩
  · obtain ⟨_, hok, _⟩ := elapses_now hstop
    cases hok
  · obtain ⟨_, hok, hle, hle', hbefore⟩ := elapses_now hnow
    cases hok
    exact ⟨t, w₁, hle, hle', hbefore, hrest⟩

/-- A store call is answered by what is stored when the service begins. -/
theorem elapses_store {call : StoreCall} {context : Option String}
    {result : Except Stop call.Reply} (h : (store call context).run.Elapses storage w result w') :
    result = (storage.answer call w.stored).1.mapError (stopOf context) ∧
      World.Elapsed { w with stored := (storage.answer call w.stored).2 } w' := by
  rcases elapses_bind h with ⟨stop, _, hstop⟩ | ⟨answer, w₂, hasked, hrest⟩
  · obtain ⟨_, _, hok, _⟩ := elapses_ask hstop
    cases hok
  · obtain ⟨w₁, hbefore, hok, hafter⟩ := elapses_ask hasked
    have hstored : World.handler storage (.store call) w₁ =
        ((storage.answer call w.stored).1,
          { w₁ with stored := (storage.answer call w.stored).2 }) := by
      rw [← hbefore.stored_eq]
      rfl
    rw [hstored] at hok hafter
    have hanswer : answer = (storage.answer call w.stored).1 := Except.ok.inj hok
    have hquiet := (hbefore.store _).trans hafter
    have hdone : result = answer.mapError (stopOf context) ∧ w₂.Elapsed w' := by
      rcases answer with trouble | reply
      · cases trouble <;> exact elapses_throw hrest
      · exact elapses_pure hrest
    obtain ⟨hresult, hend⟩ := hdone
    rw [hanswer] at hresult
    exact ⟨hresult, hquiet.trans hend⟩

theorem elapses_require {failure : Failure} {found : Option α}
    (h : (require failure found).run.Elapses storage w result w') :
    result = found.elim (.error (.refused failure)) .ok ∧ w.Elapsed w' := by
  cases found with
  | none => exact elapses_throw h
  | some a => exact elapses_pure h

theorem elapses_require_ok {failure : Failure} {found : Option α}
    (h : (require failure found).run.Elapses storage w (.ok a) w') :
    found = some a ∧ w.Elapsed w' := by
  obtain ⟨hresult, hend⟩ := elapses_require h
  cases found with
  | none => cases hresult
  | some a' =>
      cases hresult
      exact ⟨rfl, hend⟩

theorem elapses_accept {check : Except Failure Unit} {result : Except Stop Unit}
    (h : (accept check).run.Elapses storage w result w') :
    result = check.mapError .refused ∧ w.Elapsed w' := by
  cases check with
  | error failure => exact elapses_throw h
  | ok => exact elapses_pure h

theorem elapses_withDeadline {context : String}
    (h : (withDeadline context p).run.Elapses storage w result w') :
    ∃ first, p.run.Elapses storage w first w' ∧ result = first.mapError (deadlined context) := by
  rw [run_withDeadline] at h
  obtain ⟨first, w₁, hfirst, hend⟩ := Program.Elapses.of_bind h
  obtain ⟨rfl, helapsed⟩ := Program.Elapses.of_done hend
  exact ⟨first, hfirst.elapsed helapsed, rfl⟩

theorem elapses_withDeadline_ok {context : String}
    (h : (withDeadline context p).run.Elapses storage w (.ok a) w') :
    p.run.Elapses storage w (.ok a) w' := by
  obtain ⟨first, hfirst, hresult⟩ := elapses_withDeadline h
  cases first with
  | error stop => cases hresult
  | ok a' =>
      cases hresult
      exact hfirst

end Ends

end Service

end Gatehouse
