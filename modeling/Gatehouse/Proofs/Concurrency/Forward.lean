import Gatehouse.Proofs.Concurrency.SingleUse
import Gatehouse.Proofs.Service.Renewal

/-! # Sessions move forward only

Whatever operations run side by side, and in whatever order their calls come in, every session that
is stored stays stored, its first revocation stands, and nothing else of it changes but its last use.
So a session that is not active at some time is never active again (`Gone.moves`), and a refresh that
begins after that time is of no avail: it reads the clock, looks for its session, does not find it
active, and ends as unauthenticated.  `TurnedAway` follows such a refresh call by call, and
`sessions_move_forward` puts both together. -/

namespace Gatehouse

open Service

variable {hash : Bytes} {token : String} {since : Instant} {fresh : Fresh} {s : LoginService}
  {w w' : World FaultyStore}

/-! ### Sessions that are not active any more -/

/-- The session with the token digest is not active at the time. -/
def Gone (hash : Bytes) (t : Instant) (w : World FaultyStore) : Prop :=
  ∃ id c, w.sessions.get? id = some c ∧ c.tokenHash = hash ∧ c.isActive t = false

/-- However the world moves, the session does not come back. -/
theorem Gone.moves {kept : Uuid → Prop} (h : Gone hash since w) (hw : w.Moves kept w') :
    Gone hash since w' := by
  obtain ⟨id, c, hc, hhash, hactive⟩ := h
  obtain ⟨c', hc', ho⟩ := hw.onward id c hc
  refine ⟨id, c', hc', ho.tokenHash_eq.trans hhash, Bool.eq_false_iff.mpr fun ha => ?_⟩
  rw [ho.isActive (Instant.le_refl since) ha] at hactive
  cases hactive

/-- From that time on no active session is found by the token. -/
theorem Gone.activeByToken (h : Gone (refreshTokenHash token) since w)
    (ho : w.stored.store.Orderly) {now : Instant} (hnow : since ≤ now) :
    w.stored.store.activeByToken token now = none := by
  obtain ⟨id, c, hc, hhash, hactive⟩ := h
  rw [Option.eq_none_iff_forall_ne_some]
  intro found hfound
  obtain ⟨hstored, hfoundHash, ha⟩ := ho.activeByToken_eq_some.mp hfound
  have hid : found.id = id := ho.hash_unique hstored hc (hfoundHash.trans hhash.symm)
  have hsame : found = c := Option.some.inj (hstored.symm.trans (hid ▸ hc))
  rw [hsame] at ha
  rw [(Session.Onward.refl c).isActive hnow ha] at hactive
  cases hactive

/-! ### A refresh without a session -/

/-- A refresh that began since a time at which its session was gone, and the calls that are left to
it at most. -/
inductive TurnedAway (s : LoginService) (fresh : Fresh) (token : String) (since : Instant) :
    Nat → Program Backend (Except Stop Operation.Reply) → Prop
  /-- The refresh has read nothing yet. -/
  | begun : TurnedAway s fresh token since 2 (.call .now fun now =>
      .call (.store (.findByTokenHash (refreshTokenHash token))) (afterLookup s fresh now))
  /-- The refresh has read the clock and is to look for its session. -/
  | looking {now : Instant} (h : since ≤ now) : TurnedAway s fresh token since 1
      (.call (.store (.findByTokenHash (refreshTokenHash token))) (afterLookup s fresh now))
  /-- The refresh has ended: it is unauthenticated, or its input was refused at once. -/
  | ended {failure : Failure}
      (h : failure = .unauthenticated ∨ Validation.refreshToken token = .error failure) :
      TurnedAway s fresh token since 0 (.done (.error (.refused failure)))

theorem turnedAway_service (s : LoginService) (fresh : Fresh) (token : String) (since : Instant) :
    ∃ n ≤ 2, TurnedAway s fresh token since n ((Operation.refresh fresh token).service s).run := by
  cases hv : Validation.refreshToken token with
  | error failure =>
      rw [run_refresh_of_invalid s fresh hv]
      exact ⟨0, Nat.zero_le 2, .ended (.inr hv)⟩
  | ok =>
      rw [run_refresh s fresh hv]
      exact ⟨2, Nat.le_refl 2, .begun⟩

namespace System

variable {start sys later : System} {i n : Nat}
  {rest : Program Backend (Except Stop Operation.Reply)}

theorem Refreshing.rest_eq {rest' : Program Backend (Except Stop Operation.Reply)}
    (h : sys.Refreshing i fresh token rest) (h' : sys.Refreshing i fresh token rest') :
    rest = rest' := by
  cases h.symm.trans h'
  rfl

/-- A refresh that is found after a call was there before it. -/
theorem Refreshing.of_advance (h : (sys.advance i).Refreshing i fresh token rest) :
    ∃ rest₀, sys.Refreshing i fresh token rest₀ := by
  cases hj : sys.jobs[i]? with
  | none =>
      rw [advance_of_none hj] at h
      exact ⟨rest, h⟩
  | some job =>
      obtain ⟨o, rest₀⟩ := job
      cases rest₀ with
      | done result =>
          rw [advance_of_done hj] at h
          exact ⟨rest, h⟩
      | call op next =>
          have hnext := (jobs_advance_of_call hj).symm.trans h
          injection hnext with hnext
          injection hnext with ho _
          rw [ho] at hj
          exact ⟨_, hj⟩

/-- A refresh that is turned away comes closer to its end with every call, and changes nothing. -/
theorem Invariant.turnedAway_advance (h : sys.Invariant (singleUse s))
    (hgone : Gone (refreshTokenHash token) since sys.world) (hclock : since ≤ sys.world.now)
    (hi : sys.Refreshing i fresh token rest) (ht : TurnedAway s fresh token since n rest) :
    (sys.advance i).world = sys.world ∧ ∃ rest', (sys.advance i).Refreshing i fresh token rest' ∧
      TurnedAway s fresh token since (n - 1) rest' := by
  cases ht with
  | begun =>
      refine ⟨by rw [advance_of_call hi]; rfl, _, jobs_advance_of_call hi, ?_⟩
      exact .looking hclock
  | @looking now hnow =>
      have hanswer : FaultyStore.answer (.findByTokenHash (refreshTokenHash token))
          sys.world.stored =
            (.ok (sys.world.stored.store.findByTokenHash (refreshTokenHash token)),
              sys.world.stored) := FaultyStore.answer_ok (FaultyStore.lookup_of_sound h.faults _) rfl
      have hread : Backend.Op.Reads (.store (.findByTokenHash (refreshTokenHash token))) := rfl
      refine ⟨by rw [advance_of_call hi, hread.handler], _, jobs_advance_of_call hi, ?_⟩
      change TurnedAway s fresh token since 0 (afterLookup s fresh now (FaultyStore.answer
        (.findByTokenHash (refreshTokenHash token)) sys.world.stored).1)
      rw [hanswer]
      change TurnedAway s fresh token since 0
        (goingOn s fresh (sys.world.stored.store.activeByToken token now))
      rw [hgone.activeByToken h.orderly hnow]
      exact .ended (.inl rfl)
  | ended hfailure =>
      rw [advance_of_done hi]
      exact ⟨rfl, _, hi, .ended hfailure⟩

/-- Every refresh that began since the session was gone is turned away. -/
theorem Invariant.turnedAway (h : sys.Invariant (singleUse s))
    (hgone : Gone (refreshTokenHash token) sys.world.now sys.world) (hl : Reaches s sys later)
    (hlen : sys.jobs.length ≤ i) (hi : later.Refreshing i fresh token rest) :
    ∃ n ≤ 2, TurnedAway s fresh token sys.world.now n rest := by
  induction hl generalizing rest with
  | refl =>
      unfold Refreshing at hi
      rw [List.getElem?_eq_none hlen] at hi
      cases hi
  | @tail before after hprev hstep ih =>
      have hinv := h.reaches hprev
      have hmoves := h.moves hprev
      cases hstep with
      | tick t ht => exact ih hi
      | arrive o ho =>
          unfold Refreshing at hi
          dsimp only at hi
          rcases Nat.lt_or_ge i before.jobs.length with hlt | hge
          · rw [List.getElem?_append_left hlt] at hi
            exact ih hi
          · rw [List.getElem?_append_right hge, List.getElem?_singleton] at hi
            split_ifs at hi
            cases hi
            exact turnedAway_service s fresh token _
      | call k =>
          by_cases hk : k = i
          · subst hk
            obtain ⟨rest₀, hi₀⟩ := hi.of_advance
            obtain ⟨n, hn, ht⟩ := ih hi₀
            obtain ⟨_, rest', hi', ht'⟩ :=
              hinv.turnedAway_advance (hgone.moves hmoves) hmoves.clock hi₀ ht
            have hsame : rest' = rest := hi'.rest_eq hi
            rw [hsame] at ht'
            exact ⟨n - 1, by omega, ht'⟩
          · unfold Refreshing at hi
            rw [jobs_advance_of_ne hk] at hi
            exact ih hi

/-- **Sessions move forward only.**  Whatever operations run side by side on stores in which nothing
is wrong, with ids that are fresh and a clock that does not go back: every session that is stored
stays stored, a revocation stands with its reason and its time, and nothing else of a session changes
but its last use.  Once a session is not active, whether revoked or expired, every refresh with its
token that begins later is refused: wherever it is found, two more calls at most lead it to its end,
which is that it is unauthenticated (or, if the token is blank, the refusal of its input), and the
calls change nothing. -/
theorem sessions_move_forward (s : LoginService) {start sys later : System}
    (hstart : start.Initial) (hsys : Reaches s start sys) (hlater : Reaches s sys later) :
    sys.world.sessions.SessionsOnward later.world.sessions ∧
    ∀ token id c, sys.world.sessions.get? id = some c → c.tokenHash = refreshTokenHash token →
      c.isActive sys.world.now = false →
      ∀ i fresh rest, sys.jobs.length ≤ i → later.Refreshing i fresh token rest →
        ∃ failure, ((later.advance i).advance i).Refreshing i fresh token
            (.done (.error (.refused failure))) ∧
          (failure = .unauthenticated ∨ Validation.refreshToken token = .error failure) ∧
          ((later.advance i).advance i).world = later.world := by
  have hinv : sys.Invariant (singleUse s) := (hstart.invariant (singleUse s)).reaches hsys
  refine ⟨(hinv.moves hlater).onward, ?_⟩
  intro token id c hc hhash hactive i fresh rest hlen hi
  have hgone : Gone (refreshTokenHash token) sys.world.now sys.world := ⟨id, c, hc, hhash, hactive⟩
  obtain ⟨n, hn, ht⟩ := hinv.turnedAway hgone hlater hlen hi
  have later₁ : Reaches s sys (later.advance i) := hlater.tail (.call i)
  obtain ⟨hworld₁, rest₁, hi₁, ht₁⟩ := (hinv.reaches hlater).turnedAway_advance
    (hgone.moves (hinv.moves hlater)) (hinv.moves hlater).clock hi ht
  obtain ⟨hworld₂, rest₂, hi₂, ht₂⟩ := (hinv.reaches later₁).turnedAway_advance
    (hgone.moves (hinv.moves later₁)) (hinv.moves later₁).clock hi₁ ht₁
  have hnone : n - 1 - 1 = 0 := by omega
  rw [hnone] at ht₂
  cases ht₂ with
  | ended hfailure => exact ⟨_, hi₂, hfailure, hworld₂.trans hworld₁⟩

/-- A refresh with the token of a session that has expired is unauthenticated. -/
theorem sessions_move_forward_expired :
    let expired : System := ⟨⟨.ofSeconds 61, .empty, ⟨Sample.store, []⟩⟩, []⟩
    let refresh : Operation := .refresh Sample.fresh "first"
    let later : System := ⟨expired.world, [⟨refresh, (refresh.service Sample.service).run⟩]⟩
    expired.Initial ∧ Reaches Sample.service expired later ∧
      ((later.advance 0).advance 0).Refreshing 0 Sample.fresh "first" unauthenticated := by
  intro expired refresh later
  have hstart : expired.Initial := ⟨rfl, rfl, Sample.reachable_store⟩
  have hlater : Reaches Sample.service expired later := by
    refine .tail .refl (.arrive refresh ?_)
    rintro id rfl
    exact ⟨rfl, fun job hjob => by cases hjob⟩
  obtain ⟨failure, hend, hfailure | hfailure, _⟩ :=
    (sessions_move_forward Sample.service hstart .refl hlater).2 "first" Sample.session.id
      Sample.session rfl rfl (by decide) 0 Sample.fresh _ (Nat.zero_le 0) rfl
  · rw [hfailure] at hend
    exact ⟨hstart, hlater, hend⟩
  · rw [Sample.valid_first] at hfailure
    cases hfailure

end System

end Gatehouse
