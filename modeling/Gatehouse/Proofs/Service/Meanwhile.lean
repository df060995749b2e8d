import Gatehouse.Proofs.Blacklist
import Gatehouse.Proofs.Concurrency.Moves
import Gatehouse.Proofs.Service.Elapse
import Mathlib.Logic.Relation

/-! # What happens in the meantime

Between two operations of a caller others are at work.  `w.Meanwhile allowed w'` says that the world
`w` becomes `w'` as the clock goes on, the graph is changed, the store begins and ceases to fail, and
whoever it may be makes calls, of which only `allowed` ones are thought of.  A service that runs is
one who makes calls (`Program.Within.meanwhile`), and one that only reads lets the clock go on at most
(`Program.Within.elapsed`).  Worlds that so come about from an empty one are `World.Reachable`; their
stores can come about, and their blacklists list no id twice. -/

namespace Gatehouse

variable {allowed allowed' : World FaultyStore → Backend.Op → Prop} {w w₁ w' : World FaultyStore}

namespace World

/-- One thing that may happen to a world. -/
inductive Step (allowed : World FaultyStore → Backend.Op → Prop) :
    World FaultyStore → World FaultyStore → Prop
  | tick {w : World FaultyStore} {t : Instant} (ht : w.now ≤ t) : Step allowed w { w with now := t }
  | change {w : World FaultyStore} (c : GraphChange) :
      Step allowed w { w with stored := { w.stored with store := w.stored.store.afterChange c } }
  | trouble {w : World FaultyStore} (faults : List (String × StoreFault)) :
      Step allowed w { w with stored := { w.stored with faults } }
  | call {w : World FaultyStore} {op : Backend.Op} (h : allowed w op) :
      Step allowed w (handler FaultyStore.storage op w).2

/-- The world may become the other one while only allowed calls are made. -/
def Meanwhile (allowed : World FaultyStore → Backend.Op → Prop) :
    World FaultyStore → World FaultyStore → Prop :=
  Relation.ReflTransGen (Step allowed)

namespace Meanwhile

theorem refl (w : World FaultyStore) : w.Meanwhile allowed w := Relation.ReflTransGen.refl

theorem trans (h : w.Meanwhile allowed w₁) (h' : w₁.Meanwhile allowed w') :
    w.Meanwhile allowed w' := Relation.ReflTransGen.trans h h'

theorem of_step (h : w.Step allowed w') : w.Meanwhile allowed w' := Relation.ReflTransGen.single h

theorem of_elapsed (h : w.Elapsed w') : w.Meanwhile allowed w' := by
  rw [h.eq]
  exact of_step (.tick h.le)

theorem mono (h : w.Meanwhile allowed w') (hallowed : ∀ w op, allowed w op → allowed' w op) :
    w.Meanwhile allowed' w' := by
  refine Relation.ReflTransGen.mono ?_ _ _ h
  intro w₁ w₂ hstep
  cases hstep with
  | tick ht => exact .tick ht
  | change c => exact .change c
  | trouble faults => exact .trouble faults
  | call hop => exact .call (hallowed _ _ hop)

/-- What each step keeps holds in the end. -/
theorem keeps {P : World FaultyStore → Prop} (h : w.Meanwhile allowed w')
    (hstep : ∀ {w w'}, w.Step allowed w' → P w → P w') (hw : P w) : P w' := by
  induction h with
  | refl => exact hw
  | tail _ hlast ih => exact hstep hlast ih

theorem clock (h : w.Meanwhile allowed w') : w.now ≤ w'.now := by
  apply h.keeps (P := fun w' => w.now ≤ w'.now)
  · intro w₁ w₂ hstep hle
    cases hstep with
    | tick ht => exact Instant.le_trans hle ht
    | change | trouble => exact hle
    | call _ =>
        rw [now_handler]
        exact hle
  · exact Instant.le_refl w.now

end Meanwhile

/-! ### Worlds that can come about -/

/-- The world comes about from one without contents, whatever calls are made. -/
def Reachable (w : World FaultyStore) : Prop :=
  ∃ now faults, World.Meanwhile (fun _ _ => True) ⟨now, .empty, ⟨.empty, faults⟩⟩ w

theorem Step.store_reachable (h : w.Step allowed w') (hw : w.stored.store.Reachable) :
    w'.stored.store.Reachable := by
  cases h with
  | tick => exact hw
  | change c => exact hw.change c
  | trouble => exact hw
  | @call op _ =>
      cases op with
      | store call =>
          change (FaultyStore.answer call w.stored).2.store.Reachable
          rcases FaultyStore.answer_store call w.stored with h | h
          · rw [h]
            exact hw
          · rw [h]
            exact hw.call call
      | _ => exact hw

theorem Step.distinct_blacklist (h : w.Step allowed w') (hw : w.blacklist.entries.Distinct) :
    w'.blacklist.entries.Distinct := by
  cases h with
  | tick | change | trouble => exact hw
  | @call op _ =>
      cases op with
      | refuse tokenId expiresAt t => exact Blacklist.distinct_revoke hw tokenId expiresAt t
      | _ => exact hw

namespace Reachable

theorem store (h : w.Reachable) : w.stored.store.Reachable := by
  obtain ⟨_, _, h⟩ := h
  exact h.keeps Step.store_reachable .empty

theorem orderly (h : w.Reachable) : w.stored.store.Orderly := h.store.orderly

theorem distinct_blacklist (h : w.Reachable) : w.blacklist.entries.Distinct := by
  obtain ⟨_, _, h⟩ := h
  exact h.keeps Step.distinct_blacklist Blacklist.distinct_empty

theorem meanwhile (h : w.Reachable) (h' : w.Meanwhile allowed w') : w'.Reachable := by
  obtain ⟨now, faults, h⟩ := h
  exact ⟨now, faults, h.trans (h'.mono fun _ _ _ => trivial)⟩

/-- Every store that can come about stands in a world that can, without faults. -/
theorem of_store {st : MemoryStore} (h : st.Reachable) (now : Instant) :
    World.Reachable ⟨now, .empty, ⟨st, []⟩⟩ := by
  have next {w w' : World FaultyStore} (h : w.Reachable) (hstep : w.Step (fun _ _ => True) w') :
      w'.Reachable := h.meanwhile (.of_step hstep)
  induction h with
  | empty => exact ⟨now, [], .refl _⟩
  | change _ c ih => exact next ih (.change c)
  | @call st _ call ih =>
      have hcalled : World.Reachable ⟨now, .empty, (FaultyStore.answer call ⟨st, []⟩).2⟩ :=
        next ih (@Step.call _ _ (.store call) trivial)
      rwa [FaultyStore.answer_of_sound rfl] at hcalled

end Reachable

/-! ### Ids of new sessions -/

/-- A session that the call adds gets an id that is free. -/
def DrawsFree (w : World FaultyStore) (op : Backend.Op) : Prop :=
  ∀ r, op = .store (.rotate r) → w.sessions.get? r.session.id = none

theorem Step.onward (h : w.Step DrawsFree w') : w.sessions.SessionsOnward w'.sessions := by
  cases h with
  | tick | trouble => exact Table.SessionsOnward.refl _
  | change c =>
      have hsame := (MemoryStore.afterChange_edits w.stored.store c).sessions
      change w.sessions.SessionsOnward (w.stored.store.afterChange c).sessions
      rw [hsame]
      exact Table.SessionsOnward.refl _
  | @call op hfree =>
      by_cases hrotate : ∃ r, op = .store (.rotate r)
      · obtain ⟨r, rfl⟩ := hrotate
        exact (w.moves_rotate r (hfree r rfl)).onward
      · have hop : op.NoRotation := fun r hr => hrotate ⟨r, hr⟩
        exact (hop.moves (fun _ => True) w).onward

/-- As long as ids are not drawn twice sessions move onward. -/
theorem Meanwhile.onward (h : w.Meanwhile DrawsFree w') :
    w.sessions.SessionsOnward w'.sessions := by
  apply h.keeps (P := fun w' => w.sessions.SessionsOnward w'.sessions)
  · intro w₁ w₂ hstep honward
    exact honward.trans hstep.onward
  · exact Table.SessionsOnward.refl _

end World

/-! ### Services that run -/

/-- A call that the store answers is answered so, or it is in trouble and changes nothing. -/
theorem Service.elapses_answered {call : StoreCall} {context : Option String} {reply : call.Reply}
    {st : MemoryStore} {result : Except Stop call.Reply}
    (hanswer : w.stored.store.answer call = .ok (reply, st))
    (h : (Service.store call context).run.Elapses FaultyStore.storage w result w') :
    result = .ok reply ∧
        World.Elapsed { w with stored := { w.stored with store := st } } w' ∨
      ∃ stop, result = .error stop ∧ w.Elapsed w' ∧ w.stored.faults ≠ [] := by
  obtain ⟨hresult, hend⟩ := elapses_store h
  change result = (FaultyStore.answer call w.stored).1.mapError _ at hresult
  change World.Elapsed { w with stored := (FaultyStore.answer call w.stored).2 } w' at hend
  cases hfault : w.stored.faults.lookup call.label with
  | none =>
      rw [FaultyStore.answer_ok hfault hanswer] at hresult hend
      exact .inl ⟨hresult, hend⟩
  | some fault =>
      rw [FaultyStore.answer_faulted hfault] at hresult hend
      refine .inr ⟨_, hresult, hend, fun hnone => ?_⟩
      rw [FaultyStore.lookup_of_sound hnone] at hfault
      cases hfault

/-- A chain that begins with such a call breaks off there and changes nothing, or goes on with the
answer. -/
theorem Service.elapses_bind_answered {call : StoreCall} {context : Option String}
    {reply : call.Reply} {st : MemoryStore} {β : Type} {f : call.Reply → Service β}
    {result : Except Stop β} (hanswer : w.stored.store.answer call = .ok (reply, st))
    (h : (Service.store call context >>= f).run.Elapses FaultyStore.storage w result w') :
    (∃ stop, result = .error stop ∧ w.Elapsed w' ∧ w.stored.faults ≠ []) ∨
      ∃ w₁, World.Elapsed { w with stored := { w.stored with store := st } } w₁ ∧
        (f reply).run.Elapses FaultyStore.storage w₁ result w' := by
  rcases elapses_bind h with ⟨stop, hstop, h⟩ | ⟨a, w₁, hstore, hrest⟩
  · rcases elapses_answered hanswer h with ⟨hok, _⟩ | ⟨_, _, hend, hfaults⟩
    · cases hok
    · exact .inl ⟨stop, hstop, hend, hfaults⟩
  · rcases elapses_answered hanswer hstore with ⟨hok, hend⟩ | ⟨_, hstop, _⟩
    · cases hok
      exact .inr ⟨w₁, hend, hrest⟩
    · cases hstop

/-- A call that was answered was answered by the store. -/
theorem Service.elapses_store_ok {call : StoreCall} {context : Option String} {reply : call.Reply}
    (h : (Service.store call context).run.Elapses FaultyStore.storage w (.ok reply) w') :
    ∃ st, w.stored.store.answer call = .ok (reply, st) ∧
      World.Elapsed { w with stored := { w.stored with store := st } } w' := by
  obtain ⟨hresult, hend⟩ := elapses_store h
  change Except.ok reply = (FaultyStore.answer call w.stored).1.mapError _ at hresult
  change World.Elapsed { w with stored := (FaultyStore.answer call w.stored).2 } w' at hend
  cases hanswer : (FaultyStore.answer call w.stored).1 with
  | error trouble =>
      rw [hanswer] at hresult
      cases hresult
  | ok a =>
      rw [hanswer] at hresult
      cases hresult
      obtain ⟨st, hst, hstored⟩ := FaultyStore.answer_eq_ok hanswer
      rw [hstored] at hend
      exact ⟨st, hst, hend⟩

/-- Whatever runs makes calls as the clock goes on. -/
theorem Program.Elapses.meanwhile {α : Type} {p : Program Backend α} {a : α}
    (h : p.Elapses FaultyStore.storage w a w') : w.Meanwhile (fun _ _ => True) w' := by
  induction h with
  | done => exact .refl _
  | tick ht _ ih => exact (World.Meanwhile.of_step (.tick ht)).trans ih
  | call _ ih => exact (World.Meanwhile.of_step (.call trivial)).trans ih

/-- A program that assures of each of its calls that it is allowed, whatever others do, is one who
makes allowed calls. -/
theorem Program.Assures.meanwhile {α : Type} {p : Program Backend α} {a : α}
    {rely : World FaultyStore → World FaultyStore → Prop}
    {ok : Program Backend α → World FaultyStore → Prop}
    (hp : p.Assures (World.handler FaultyStore.storage) rely ok w) (refl : ∀ w, rely w w)
    (trans : ∀ {w w' w''}, rely w w' → rely w' w'' → rely w w'')
    (tick : ∀ w t, w.now ≤ t → rely w { w with now := t })
    (hallowed : ∀ op next w, ok (.call op next) w → allowed w op)
    (h : p.Elapses FaultyStore.storage w a w') : w.Meanwhile allowed w' := by
  induction h with
  | done => exact .refl _
  | tick ht _ ih =>
      exact (World.Meanwhile.of_step (.tick ht)).trans (ih (hp.stable (tick _ _ ht) trans))
  | call _ ih =>
      have hcall := hallowed _ _ _ (hp.now refl)
      exact (World.Meanwhile.of_step (.call hcall)).trans (ih (hp.step refl))

namespace Program.Within

variable {α : Type} {p : Program Backend α} {calls : Backend.Op → Prop} {wanted : α → Prop} {a : α}

/-- A program that runs as the clock goes on is one who makes calls. -/
theorem meanwhile (hp : p.Within calls wanted) (hallowed : ∀ w op, calls op → allowed w op)
    (h : p.Elapses FaultyStore.storage w a w') : w.Meanwhile allowed w' ∧ wanted a := by
  induction h with
  | done =>
      cases hp with
      | done ha => exact ⟨.refl _, ha⟩
  | tick ht _ ih =>
      obtain ⟨hrest, ha⟩ := ih hp
      exact ⟨(World.Meanwhile.of_step (.tick ht)).trans hrest, ha⟩
  | call _ ih =>
      cases hp with
      | call hop hnext =>
          obtain ⟨hrest, ha⟩ := ih (hnext _)
          exact ⟨(World.Meanwhile.of_step (.call (hallowed _ _ hop))).trans hrest, ha⟩

/-- A program that only reads lets the clock go on, and that is all. -/
theorem elapsed (hp : p.Within Backend.Op.Reads wanted)
    (h : p.Elapses FaultyStore.storage w a w') : w.Elapsed w' ∧ wanted a := by
  induction h with
  | done =>
      cases hp with
      | done ha => exact ⟨.refl _, ha⟩
  | tick ht _ ih =>
      obtain ⟨hrest, ha⟩ := ih hp
      exact ⟨(World.Elapsed.tick ht).trans hrest, ha⟩
  | call _ ih =>
      cases hp with
      | call hop hnext =>
          obtain ⟨hrest, ha⟩ := ih (hnext _)
          rw [hop.handler] at hrest
          exact ⟨hrest, ha⟩

/-- A program that does not read the clock ends as if the clock stood. -/
theorem elapses_run (hp : p.Within (fun op : Backend.Op => op ≠ .now) wanted)
    {w₀ : World FaultyStore} (hw : w₀.Elapsed w) (h : p.Elapses FaultyStore.storage w a w') :
    (p.run (World.handler FaultyStore.storage) w₀).1 = a ∧
      (p.run (World.handler FaultyStore.storage) w₀).2.Elapsed w' := by
  induction h generalizing w₀ with
  | done => exact ⟨rfl, hw⟩
  | tick ht _ ih => exact ih hp (hw.trans (.tick ht))
  | call _ ih =>
      cases hp with
      | call hop hnext =>
          obtain ⟨hanswer, hafter⟩ := hw.handler FaultyStore.storage hop
          have hend := ih (hnext _) hafter
          rw [hanswer] at hend
          exact hend

end Program.Within

end Gatehouse
