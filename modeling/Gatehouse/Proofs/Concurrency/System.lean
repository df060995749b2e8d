import Gatehouse.Proofs.Concurrency.Moves
import Mathlib.Logic.Relation

/-! # Operations side by side

A *system* is a world and the operations that run in it.  In one step the clock moves on, or an
operation arrives, or one operation makes its next call; so the calls of different operations come
in every possible order.  The id that an operation draws for a new session is fresh when the
operation arrives.

Each operation adds no session but one under the id that it drew, and only while that is free
(`Operation.Keeps`), so at each of its steps the world moves for all others.  What an operation
assures as long as the world moves, it therefore assures in every system that is reached
(`Invariant.reaches`). -/

namespace Gatehouse

/-! ### Operations -/

/-- What clients and operators ask for. -/
inductive Operation where
  | login (fresh : Fresh) (request : LoginRequest) (transport : Transport)
  | refresh (fresh : Fresh) (token : String)
  | logout (token : String) (accessToken : Option String)
  | activeSessions (userId : Uuid) (hints : ClientHints) (transport : Transport)
  | touch (id : Uuid)
  | revoke (id : Uuid) (reason : String)
  | revokeAll (userId : Uuid) (reason : String)
  | authenticate (bearer : String)

/-- What they are answered. -/
inductive Operation.Reply where
  | login (answer : LoginAnswer)
  | pair (tokens : TokenPair)
  | done
  | sessions (summaries : List SessionSummary)
  | count (n : Nat)
  | principal (p : Principal)

namespace Operation

/-- The service that carries out an operation. Where permissions come from plays no part in it. -/
def service (s : LoginService) : Operation → Service Operation.Reply
  | login fresh request transport => do pure (.login (← s.login fresh request transport))
  | refresh fresh token => do pure (.pair (← s.refresh fresh token))
  | logout token accessToken => do
    s.logout token accessToken
    pure .done
  | activeSessions userId hints transport => do
    pure (.sessions (← LoginService.activeSessions userId hints transport))
  | touch id => do
    Sessions.touch id
    pure .done
  | revoke id reason => do
    Sessions.revoke id reason
    pure .done
  | revokeAll userId reason => do pure (.count (← Sessions.revokeAll userId reason))
  | authenticate bearer => do
    pure (.principal (← AuthorizationService.authenticate ⟨s.settings, .live⟩ bearer))

/-- The operation drew the id for a new session. -/
def Draws : Operation → Uuid → Prop
  | login fresh _ _, id => id = fresh.session.id
  | refresh fresh _, id => id = fresh.session.id
  | _, _ => False

/-- What is left of the operation adds no session next, or one under the id that it drew, which is
free. -/
def Keeps (o : Operation) : Program Backend (Except Stop Operation.Reply) → World FaultyStore → Prop
  | .call (.store (.rotate r)) _, w =>
    o.Draws r.session.id ∧ w.sessions.get? r.session.id = none
  | _, _ => True

end Operation

/-! ### Systems -/

/-- An operation and what is left of it. -/
structure Job where
  operation : Operation
  rest : Program Backend (Except Stop Operation.Reply)

/-- A world and the operations that run in it. -/
structure System where
  world : World FaultyStore
  jobs : List Job

namespace System

/-- The system after the next call of an operation, if there is one. -/
def advance (sys : System) (i : Nat) : System :=
  match sys.jobs[i]? with
  | some ⟨operation, .call op next⟩ =>
    let (answer, world) := World.handler FaultyStore.storage op sys.world
    ⟨world, sys.jobs.set i ⟨operation, next answer⟩⟩
  | _ => sys

/-- No session lies under the id, and no operation drew it. -/
def Unused (sys : System) (id : Uuid) : Prop :=
  sys.world.sessions.get? id = none ∧ ∀ job ∈ sys.jobs, ¬ job.operation.Draws id

/-- The system before any operation: nothing is wrong with the storage, and its contents came about
in it. -/
structure Initial (sys : System) : Prop where
  jobs : sys.jobs = []
  faults : sys.world.stored.faults = []
  reachable : sys.world.stored.store.Reachable

/-- One step of a system. -/
inductive Step (s : LoginService) : System → System → Prop
  /-- The clock moves on. -/
  | tick {sys : System} (t : Instant) (h : sys.world.now ≤ t) :
    Step s sys { sys with world := { sys.world with now := t } }
  /-- An operation arrives. -/
  | arrive {sys : System} (operation : Operation) (h : ∀ id, operation.Draws id → sys.Unused id) :
    Step s sys { sys with jobs := sys.jobs ++ [⟨operation, (operation.service s).run⟩] }
  /-- An operation makes its next call. -/
  | call {sys : System} (i : Nat) : Step s sys (sys.advance i)

/-- One system leads to another in some number of steps. -/
abbrev Reaches (s : LoginService) : System → System → Prop := Relation.ReflTransGen (Step s)

theorem advance_of_call {sys : System} {i : Nat} {operation : Operation} {op : Backend.Op}
    {next : Backend.Answer op → Program Backend (Except Stop Operation.Reply)}
    (h : sys.jobs[i]? = some ⟨operation, .call op next⟩) :
    sys.advance i = ⟨(World.handler FaultyStore.storage op sys.world).2,
      sys.jobs.set i ⟨operation, next (World.handler FaultyStore.storage op sys.world).1⟩⟩ := by
  unfold advance
  rw [h]

theorem advance_of_done {sys : System} {i : Nat} {operation : Operation}
    {result : Except Stop Operation.Reply} (h : sys.jobs[i]? = some ⟨operation, .done result⟩) :
    sys.advance i = sys := by
  unfold advance
  rw [h]

theorem advance_of_none {sys : System} {i : Nat} (h : sys.jobs[i]? = none) :
    sys.advance i = sys := by
  unfold advance
  rw [h]

/-- Calls of one operation leave the others. -/
theorem jobs_advance_of_ne {sys : System} {i j : Nat} (hij : i ≠ j) :
    (sys.advance i).jobs[j]? = sys.jobs[j]? := by
  cases hi : sys.jobs[i]? with
  | none => rw [advance_of_none hi]
  | some job =>
      obtain ⟨o, rest⟩ := job
      cases rest with
      | done result => rw [advance_of_done hi]
      | call op next => rw [advance_of_call hi, List.getElem?_set_ne hij]

theorem jobs_advance_of_call {sys : System} {i : Nat} {o : Operation} {op : Backend.Op}
    {next : Backend.Answer op → Program Backend (Except Stop Operation.Reply)}
    (hi : sys.jobs[i]? = some ⟨o, .call op next⟩) :
    (sys.advance i).jobs[i]? =
      some ⟨o, next (World.handler FaultyStore.storage op sys.world).1⟩ := by
  rw [advance_of_call hi, List.getElem?_set_self (List.getElem?_eq_some_iff.mp hi).1]

end System

/-! ### Invariants -/

/-- An operation that keeps to its own id keeps every other id free at its next call. -/
theorem Operation.Keeps.moves {o : Operation} {op : Backend.Op}
    {next : Backend.Answer op → Program Backend (Except Stop Operation.Reply)} {w : World FaultyStore}
    (h : o.Keeps (.call op next) w) :
    w.Moves (fun id => ¬ o.Draws id) (World.handler FaultyStore.storage op w).2 := by
  by_cases hr : ∃ r, op = .store (.rotate r)
  · obtain ⟨r, rfl⟩ := hr
    obtain ⟨hdraws, hfree⟩ := h
    refine (w.moves_rotate r hfree).mono fun id hid => ?_
    rintro rfl
    exact hid hdraws
  · exact Backend.Op.NoRotation.moves (fun r he => hr ⟨r, he⟩) _ w

/-- Something that every operation assures of each state in which it is found. -/
structure Assurance (s : LoginService) where
  ok : Operation → Program Backend (Except Stop Operation.Reply) → World FaultyStore → Prop
  keeps : ∀ {o : Operation} {p w}, ok o p w → o.Keeps p w
  arrives : ∀ (o : Operation) (w : World FaultyStore), w.stored.faults = [] →
    w.stored.store.Orderly → (∀ id, o.Draws id → w.sessions.get? id = none) →
    (o.service s).run.Assures (World.handler FaultyStore.storage) (World.Moves o.Draws) (ok o) w

namespace System

variable {s : LoginService} {sys sys' : System}

/-- Every operation that runs gives the assurance, and no two drew the same id. -/
structure Invariant (A : Assurance s) (sys : System) : Prop where
  faults : sys.world.stored.faults = []
  orderly : sys.world.stored.store.Orderly
  assured : ∀ {i : Nat} {job : Job}, sys.jobs[i]? = some job →
    job.rest.Assures (World.handler FaultyStore.storage) (World.Moves job.operation.Draws)
      (A.ok job.operation) sys.world
  apart : ∀ {i j : Nat} {job job' : Job} {id : Uuid},
    sys.jobs[i]? = some job → sys.jobs[j]? = some job' →
    job.operation.Draws id → job'.operation.Draws id → i = j

theorem Initial.invariant (A : Assurance s) (h : sys.Initial) : sys.Invariant A := by
  refine ⟨h.faults, h.reachable.orderly, ?_, ?_⟩
  · intro i job hi
    rw [h.jobs] at hi
    cases hi
  · intro i j job job' id hi
    rw [h.jobs] at hi
    cases hi

namespace Invariant

variable {A : Assurance s} (h : sys.Invariant A)
include h

/-- What is assured holds. -/
theorem ok {i : Nat} {job : Job} (hi : sys.jobs[i]? = some job) :
    A.ok job.operation job.rest sys.world :=
  (h.assured hi).now (World.Moves.refl _)

theorem tick {t : Instant} (ht : sys.world.now ≤ t) :
    (System.mk { sys.world with now := t } sys.jobs).Invariant A := by
  refine ⟨h.faults, h.orderly, fun hi => ?_, h.apart⟩
  exact (h.assured hi).stable
    ⟨ht, rfl, id, Table.SessionsOnward.refl _, fun _ _ hn => hn⟩ World.Moves.trans

theorem arrive {o : Operation} (ho : ∀ id, o.Draws id → sys.Unused id) :
    (System.mk sys.world (sys.jobs ++ [⟨o, (o.service s).run⟩])).Invariant A := by
  have split : ∀ {i : Nat} {job : Job}, (sys.jobs ++ [⟨o, (o.service s).run⟩])[i]? = some job →
      sys.jobs[i]? = some job ∨ i = sys.jobs.length ∧ job = ⟨o, (o.service s).run⟩ := by
    intro i job hi
    rcases Nat.lt_or_ge i sys.jobs.length with hlt | hge
    · rw [List.getElem?_append_left hlt] at hi
      exact .inl hi
    · rw [List.getElem?_append_right hge] at hi
      rw [List.getElem?_eq_some_iff] at hi
      obtain ⟨hlt, heq⟩ := hi
      rw [List.length_singleton] at hlt
      refine .inr ⟨by omega, ?_⟩
      rw [← heq, List.getElem_singleton]
  have old : ∀ {i : Nat} {job : Job} {id : Uuid},
      sys.jobs[i]? = some job → job.operation.Draws id → ¬ o.Draws id :=
    fun hi hd hd' => (ho _ hd').2 _ (List.mem_of_getElem? hi) hd
  refine ⟨h.faults, h.orderly, fun hi => ?_, fun hi hj hd hd' => ?_⟩
  · rcases split hi with hi | ⟨_, rfl⟩
    · exact h.assured hi
    · exact A.arrives o sys.world h.faults h.orderly fun id hd => (ho id hd).1
  · rcases split hi with hi | ⟨hlen, rfl⟩ <;> rcases split hj with hj | ⟨hlen', rfl⟩
    · exact h.apart hi hj hd hd'
    · exact absurd hd' (old hi hd)
    · exact absurd hd (old hj hd')
    · exact hlen.trans hlen'.symm

theorem call (i : Nat) : (sys.advance i).Invariant A := by
  cases hi : sys.jobs[i]? with
  | none =>
      rw [advance_of_none hi]
      exact h
  | some job =>
      obtain ⟨o, rest⟩ := job
      cases rest with
      | done result =>
          rw [advance_of_done hi]
          exact h
      | call op next =>
          have hmoves := (A.keeps (h.ok hi)).moves
          -- The operation goes on as it assured; to the others it only moved the world.
          have assured : ∀ {j : Nat} {job : Job}, (sys.advance i).jobs[j]? = some job →
              job.rest.Assures (World.handler FaultyStore.storage)
                (World.Moves job.operation.Draws) (A.ok job.operation) (sys.advance i).world ∧
              ∃ rest, sys.jobs[j]? = some ⟨job.operation, rest⟩ := by
            intro j job hj
            rw [advance_of_call hi] at hj ⊢
            by_cases hij : i = j
            · subst hij
              have hlt : i < sys.jobs.length := (List.getElem?_eq_some_iff.mp hi).1
              rw [List.getElem?_set_self hlt] at hj
              cases hj
              exact ⟨(h.assured hi).step (World.Moves.refl _), _, hi⟩
            · rw [List.getElem?_set_ne hij] at hj
              refine ⟨(h.assured hj).stable (hmoves.mono ?_) World.Moves.trans, _, hj⟩
              exact fun id hd hd' => hij (h.apart hi hj hd' hd)
          refine ⟨?_, ?_, fun hj => (assured hj).1, fun hj hk hd hd' => ?_⟩
          · rw [advance_of_call hi]
            exact hmoves.faults.trans h.faults
          · rw [advance_of_call hi]
            exact hmoves.orderly h.orderly
          · obtain ⟨_, hj⟩ := (assured hj).2
            obtain ⟨_, hk⟩ := (assured hk).2
            exact h.apart hj hk hd hd'

theorem step (hs : Step s sys sys') : sys'.Invariant A := by
  cases hs with
  | tick t ht => exact h.tick ht
  | arrive o ho => exact h.arrive ho
  | call i => exact h.call i

/-- **What every operation assures holds in every system that is reached.** -/
theorem reaches (hs : Reaches s sys sys') : sys'.Invariant A := by
  induction hs with
  | refl => exact h
  | tail _ hstep ih => exact ih.step hstep

/-- The world moves at every step. -/
theorem moves_step (hs : Step s sys sys') : sys.world.Moves (fun _ => False) sys'.world := by
  cases hs with
  | tick t ht => exact ⟨ht, rfl, id, Table.SessionsOnward.refl _, fun _ _ hn => hn⟩
  | arrive o ho => exact World.Moves.refl _ _
  | call i =>
      cases hi : sys.jobs[i]? with
      | none =>
          rw [advance_of_none hi]
          exact World.Moves.refl _ _
      | some job =>
          obtain ⟨o, rest⟩ := job
          cases rest with
          | done result =>
              rw [advance_of_done hi]
              exact World.Moves.refl _ _
          | call op next =>
              rw [advance_of_call hi]
              exact (A.keeps (h.ok hi)).moves.mono fun _ hid => hid.elim

/-- **The world only moves,** whatever steps are taken. -/
theorem moves (hs : Reaches s sys sys') : sys.world.Moves (fun _ => False) sys'.world := by
  induction hs with
  | refl => exact World.Moves.refl _ _
  | tail hprev hstep ih => exact ih.trans ((h.reaches hprev).moves_step hstep)

end Invariant

end System

end Gatehouse
