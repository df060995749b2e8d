import Gatehouse.Proofs.Concurrency.System

/-! # What a refresh assures

However others interfere, a refresh looks at its session twice: when it looks for it by the digest
of the token, and when it rotates.  In between it reads no session and writes nothing.  The rotation
names the session that was found, so if that was revoked in the meantime the rotation is refused,
and the refresh ends as unauthenticated.  If it is carried out, it revokes the session and stores
the successor in one step, and the refresh ends with tokens.  `Renews` says this of every state in
which a refresh is found. -/

namespace Gatehouse

open Service

/-- How an operation ends that is not let in. -/
def unauthenticated : Program Backend (Except Stop Operation.Reply) :=
  .done (.error (.refused .unauthenticated))

/-- The session with the token digest is revoked. -/
def Spent (hash : Bytes) (w : World FaultyStore) : Prop :=
  ∃ id c, w.sessions.get? id = some c ∧ c.tokenHash = hash ∧ c.revoked = true

/-- The session with the token digest became revoked as rotated, and in the same step its successor
was stored under an id that was free. -/
def Succeeds (hash : Bytes) (fresh : Fresh) (w w' : World FaultyStore) : Prop :=
  ∃ id c successor now, w.sessions.get? id = some c ∧ c.tokenHash = hash ∧ c.revoked = false ∧
    w.sessions.get? fresh.session.id = none ∧
    w'.sessions.get? id = some { c with
      revoked := true, revokedReason := some reasonRotated, revokedAt := some now } ∧
    w'.sessions.get? fresh.session.id = some successor ∧
    successor.tokenHash = refreshTokenHash fresh.session.refreshToken ∧
    successor.userId = c.userId ∧ successor.deviceId = c.deviceId ∧ successor.revoked = false

/-- The rotation of a refresh and what becomes of the refresh after it. -/
structure Due (hash : Bytes) (fresh : Fresh) (r : Rotation)
    (next : Except Trouble RotationOutcome → Program Backend (Except Stop Operation.Reply))
    (w : World FaultyStore) : Prop where
  free : w.sessions.get? fresh.session.id = none
  id_eq : r.session.id = fresh.session.id
  tokenHash_eq : r.session.tokenHash = refreshTokenHash fresh.session.refreshToken
  not_revoked : r.session.revoked = false
  reason_eq : r.reason = reasonRotated
  /-- The rotation replaces the session with the digest, on its device. -/
  replaces : ∃ id c, w.sessions.get? id = some c ∧ c.id = id ∧ c.tokenHash = hash ∧
    r.replaces = some id ∧ r.session.userId = c.userId ∧ r.session.deviceId = c.deviceId
  committed : ∀ ids, ∃ tokens, next (.ok (.committed ids)) = .done (.ok (.pair tokens))
  superseded : next (.ok .superseded) = unauthenticated
  failed : ∀ trouble, ∃ stop, next (.error trouble) = .done (.error stop)

/-- Whatever the next call is answered, the operation has not succeeded by it. -/
def Unfinished {α : Type} (next : α → Program Backend (Except Stop Operation.Reply)) : Prop :=
  ∀ answer reply, next answer ≠ .done (.ok reply)

/-- What holds of every state in which a refresh is found. -/
def Renews (hash : Bytes) (fresh : Fresh) :
    Program Backend (Except Stop Operation.Reply) → World FaultyStore → Prop
  | .done (.ok _), w => Spent hash w
  | .done (.error _), _ => True
  | .call (.store (.findByTokenHash h)) next, _ => h = hash ∧ Unfinished next ∧
      ∀ found, (∀ c, found = some c → c.revoked = true) → next (.ok found) = unauthenticated
  | .call (.store (.rotate r)) next, w => Due hash fresh r next w
  | .call op next, _ => op.ReadsGraph ∧ Unfinished next

theorem Spent.moves {hash : Bytes} {kept : Uuid → Prop} {w w' : World FaultyStore}
    (h : Spent hash w) (hw : w.Moves kept w') : Spent hash w' := by
  obtain ⟨id, c, hc, hhash, hr⟩ := h
  obtain ⟨c', hc', hhash', hr'⟩ := hw.revoked hc hr
  exact ⟨id, c', hc', hhash'.trans hhash, hr'⟩

theorem Succeeds.spent {hash : Bytes} {fresh : Fresh} {w w' : World FaultyStore}
    (h : Succeeds hash fresh w w') : Spent hash w' := by
  obtain ⟨id, c, successor, now, _, hhash, _, _, hc', _⟩ := h
  exact ⟨id, _, hc', hhash, rfl⟩

theorem renews_of_readsGraph {hash : Bytes} {fresh : Fresh} {op : Backend.Op}
    {next : Backend.Answer op → Program Backend (Except Stop Operation.Reply)} (h : op.ReadsGraph)
    (hnext : Unfinished next) (w : World FaultyStore) : Renews hash fresh (.call op next) w := by
  cases op with
  | store call => cases call <;> first | exact ⟨h, hnext⟩ | cases h
  | now => exact ⟨h, hnext⟩
  | refuse tokenId expiresAt now => cases h
  | isRefused tokenId now => cases h
  | health => cases h

/-! ### The rotation -/

namespace Due

variable {hash : Bytes} {fresh : Fresh} {r : Rotation}
  {next : Except Trouble RotationOutcome → Program Backend (Except Stop Operation.Reply)}
  {w : World FaultyStore}

/-- A rotation that is carried out is a succession. -/
theorem succeeds (h : Due hash fresh r next w) {ids : List Uuid}
    (ha : (FaultyStore.answer (.rotate r) w.stored).1 = .ok (.committed ids)) :
    Succeeds hash fresh w { w with stored := (FaultyStore.answer (.rotate r) w.stored).2 } := by
  obtain ⟨store, hrotate, hstored⟩ := FaultyStore.answer_eq_ok ha
  obtain ⟨hactive, _, _, _, hafter⟩ := MemoryStore.rotate_committed hrotate
  obtain ⟨id, c, hc, hid, hhash, hreplaces, huser, hdevice⟩ := h.replaces
  have hget : w.stored.store.sessions.get? id = some c := hc
  have hrevoked : c.revoked = false := by
    unfold MemoryStore.replacedIsActive at hactive
    rw [hreplaces, Option.all_some, hget, Option.any_some, Session.isActive,
      Bool.and_eq_true] at hactive
    simpa using hactive.1
  have hsupersedes : MemoryStore.supersedes r c = true :=
    MemoryStore.supersedes_iff.mpr ⟨huser.symm, hrevoked, .inr (by rw [hid, hreplaces])⟩
  have hne : r.session.id ≠ id := by
    intro he
    have hfree := h.free
    rw [← h.id_eq, he] at hfree
    rw [hfree] at hc
    cases hc
  rw [hstored, hafter]
  refine ⟨id, c, r.session, r.now, hc, hhash, hrevoked, h.free, ?_, ?_, h.tokenHash_eq, huser,
    hdevice, h.not_revoked⟩
  · change (w.stored.store.afterRotation r).sessions.get? id = _
    rw [MemoryStore.get?_afterRotation, if_neg hne, hget, Option.map_some,
      MemoryStore.rotated, if_pos hsupersedes, Session.revoke_of_not_revoked hrevoked, h.reason_eq]
  · change (w.stored.store.afterRotation r).sessions.get? _ = _
    rw [MemoryStore.get?_afterRotation, if_pos h.id_eq]

/-- A rotation that is not carried out leaves the world. -/
theorem unchanged
    (ha : ∀ ids, (FaultyStore.answer (.rotate r) w.stored).1 ≠ .ok (.committed ids)) :
    (FaultyStore.answer (.rotate r) w.stored).2 = w.stored := by
  cases hr : (FaultyStore.answer (.rotate r) w.stored).1 with
  | error trouble => exact FaultyStore.answer_error_unchanged hr
  | ok outcome =>
      obtain ⟨store, hrotate, hstored⟩ := FaultyStore.answer_eq_ok hr
      rcases MemoryStore.rotate_ok hrotate with ⟨_, rfl⟩ | ⟨rfl, _⟩
      · exact hstored
      · exact absurd hr (ha _)

end Due

/-! ### Operations under a deadline -/

/-- How the result of an operation under a deadline is told. -/
def told {α : Type} (reply : α → Operation.Reply) (result : Except Stop α) :
    Program Backend (Except Stop Operation.Reply) :=
  .done ((result.mapError (deadlined LoginService.deadlineContext)).map reply)

theorem run_told {α : Type} (reply : α → Operation.Reply) (p : Service α) :
    (withDeadline LoginService.deadlineContext p >>= fun a => pure (reply a)).run =
      p.run.bind (told reply) := by
  have h : (fun result : Except Stop α =>
      (Program.done (result.mapError (deadlined LoginService.deadlineContext))).bind
        (andThen fun a => (pure (reply a) : Service Operation.Reply))) = told reply := by
    funext result
    cases result <;> rfl
  rw [run_bind, run_withDeadline, Program.bind_assoc, h]

/-- A commit reads the clock and rotates; an operation goes on from it only if the rotation was
carried out. -/
theorem run_commit_bind {α : Type} {reply : α → Operation.Reply} {pending : PendingSession}
    {f : Session → Service α}
    {next : Except Trouble RotationOutcome → Program Backend (Except Stop Operation.Reply)}
    (herror : ∀ trouble, next (.error trouble) = told reply (.error (stopOf none trouble)))
    (hsuperseded : next (.ok .superseded) = unauthenticated)
    (hcommitted : ∀ ids, next (.ok (.committed ids)) =
      (f pending.session).run.bind (told reply)) :
    (Sessions.commit pending >>= f).run.bind (told reply) =
      .call .now fun now => .call (.store (.rotate (pending.rotation now))) next := by
  refine congrArg (Program.call (I := Backend) Backend.Op.now) (funext fun now => ?_)
  refine congrArg (Program.call (I := Backend) (Backend.Op.store _)) (funext fun answer => ?_)
  rcases answer with trouble | ids | _
  · rw [herror]
    cases trouble <;> rfl
  · rw [hcommitted]
    rfl
  · rw [hsuperseded]
    rfl

/-! ### The program of a refresh -/

/-- What is left of a refresh when it has found its session active, or not. -/
def goingOn (s : LoginService) (fresh : Fresh) :
    Option Session → Program Backend (Except Stop Operation.Reply)
  | none => unauthenticated
  | some current => (s.renewal fresh current).run.bind fun result =>
    (andThen LoginService.Renewal.commit result).bind (told .pair)

/-- What is left of a refresh when it has looked for its session. -/
def afterLookup (s : LoginService) (fresh : Fresh) (now : Instant) :
    Except Trouble (Option Session) → Program Backend (Except Stop Operation.Reply)
  | .error trouble => told .pair (.error (stopOf none trouble))
  | .ok found => goingOn s fresh (found.filter (·.isActive now))

theorem service_refresh (s : LoginService) (fresh : Fresh) (token : String) :
    (Operation.refresh fresh token).service s =
      s.refresh fresh token >>= fun tokens => pure (Operation.Reply.pair tokens) := rfl

theorem run_refresh_of_invalid (s : LoginService) (fresh : Fresh) {token : String}
    {failure : Failure} (hv : Validation.refreshToken token = .error failure) :
    ((Operation.refresh fresh token).service s).run = .done (.error (.refused failure)) := by
  rw [service_refresh, LoginService.refresh_eq, hv]
  rfl

/-- A renewal has not succeeded before its commit. -/
theorem unfinished_renewal {α : Type}
    (next : α → Program Backend (Except Stop LoginService.Renewal)) :
    Unfinished fun answer => (next answer).bind fun result =>
      (andThen LoginService.Renewal.commit result).bind (told .pair) := by
  intro answer reply h
  dsimp only at h
  cases hn : next answer with
  | done result =>
      rw [hn] at h
      cases result with
      | error stop => cases h
      | ok r => cases h
  | call op next' =>
      rw [hn] at h
      cases h

theorem unfinished_afterLookup (s : LoginService) (fresh : Fresh) (now : Instant) :
    Unfinished (afterLookup s fresh now) := by
  intro answer reply h
  cases answer with
  | error trouble => cases h
  | ok found =>
      change goingOn s fresh (found.filter (·.isActive now)) = _ at h
      cases hf : found.filter (·.isActive now) with
      | none =>
          rw [hf] at h
          cases h
      | some current =>
          rw [hf] at h
          exact unfinished_renewal (fun _ : Unit => (s.renewal fresh current).run) () reply h

theorem run_goingOn (s : LoginService) (fresh : Fresh) (found : Option Session) :
    (require .unauthenticated found >>= fun current =>
      s.renewal fresh current >>= fun r => r.commit).run.bind (told .pair) =
        goingOn s fresh found := by
  cases found with
  | none => rfl
  | some current =>
      change (s.renewal fresh current >>= fun r => r.commit).run.bind (told .pair) = _
      rw [run_bind, Program.bind_assoc]
      rfl

theorem run_refresh (s : LoginService) (fresh : Fresh) {token : String}
    (hv : Validation.refreshToken token = .ok ()) :
    ((Operation.refresh fresh token).service s).run =
      .call .now fun now => .call (.store (.findByTokenHash (refreshTokenHash token))) fun reply =>
        afterLookup s fresh now reply := by
  rw [service_refresh, LoginService.refresh_eq, hv]
  change (withDeadline LoginService.deadlineContext _ >>= _).run = _
  rw [run_told]
  refine congrArg (Program.call (I := Backend) Backend.Op.now) (funext fun now => ?_)
  refine congrArg (Program.call (I := Backend) (Backend.Op.store _)) (funext fun reply => ?_)
  cases reply with
  | error trouble =>
      cases trouble <;> rfl
  | ok found => exact run_goingOn s fresh (found.filter (·.isActive now))

/-- How a refresh ends after its rotation. -/
def settled (r : LoginService.Renewal) :
    Except Trouble RotationOutcome → Program Backend (Except Stop Operation.Reply)
  | .error trouble => told .pair (.error (stopOf none trouble))
  | .ok .superseded => unauthenticated
  | .ok (.committed _) => told .pair (.ok
    ⟨r.issued, r.pending.refreshToken, r.pending.session.expiresAt, r.pending.session.flavor⟩)

theorem run_commit (r : LoginService.Renewal) :
    r.commit.run.bind (told .pair) =
      .call .now fun now => .call (.store (.rotate (r.pending.rotation now))) (settled r) :=
  run_commit_bind (fun _ => rfl) rfl fun _ => rfl

/-! ### What is assured -/

section

variable {hash : Bytes} {fresh : Fresh} {w : World FaultyStore}

/-- The drawn id is free, and the session that was found is there. -/
def Found (fresh : Fresh) (current : Session) (w : World FaultyStore) : Prop :=
  w.sessions.get? fresh.session.id = none ∧
    ∃ c, w.sessions.get? current.id = some c ∧ current.Onward c ∧ c.id = current.id

theorem Found.moves {current : Session} {w' : World FaultyStore} (h : Found fresh current w)
    (hw : w.Moves (· = fresh.session.id) w') : Found fresh current w' := by
  obtain ⟨hfree, c, hc, ho, hid⟩ := h
  obtain ⟨c', hc', ho'⟩ := hw.onward _ c hc
  exact ⟨hw.free _ rfl hfree, c', hc', ho.trans ho', ho'.id_eq.trans hid⟩

/-- The rotation of a renewal is due. -/
theorem Found.due {s : LoginService} {current : Session} {now : Instant}
    {r : LoginService.Renewal} (h : Found fresh current w) (hhash : current.tokenHash = hash)
    (hr : PendingSession.ofRefresh s.lifetimes fresh.session now current = some r.pending)
    (now' : Instant) : Due hash fresh (r.pending.rotation now') (settled r) w := by
  obtain ⟨hfree, c, hc, ho, hid⟩ := h
  obtain ⟨expiresAt, _, hsession, _, hscope, hreason, hreplaces⟩ :=
    PendingSession.ofRefresh_eq_some hr
  have hsession' : (r.pending.rotation now').session = r.pending.session := rfl
  refine ⟨hfree, ?_, ?_, ?_, hreason, ⟨current.id, c, hc, hid, ?_, hreplaces, ?_, ?_⟩, ?_, rfl, ?_⟩
  · rw [hsession', hsession]
  · rw [hsession', hsession]
  · rw [hsession', hsession]
  · rw [ho.tokenHash_eq, hhash]
  · rw [hsession', hsession, ho.userId_eq]
  · rw [hsession', hsession, ho.deviceId_eq]
  · exact fun ids => ⟨_, rfl⟩
  · exact fun trouble => ⟨_, rfl⟩

/-- After its rotation a refresh has ended. -/
theorem assures_settled {r : LoginService.Renewal} {x : Rotation}
    (hdue : Due hash fresh x (settled r) w) :
    (settled r (FaultyStore.answer (.rotate x) w.stored).1).Assures
      (World.handler FaultyStore.storage) (World.Moves (· = fresh.session.id)) (Renews hash fresh)
      { w with stored := (FaultyStore.answer (.rotate x) w.stored).2 } := by
  cases ha : (FaultyStore.answer (.rotate x) w.stored).1 with
  | error trouble => exact .done fun _ _ => trivial
  | ok outcome =>
      cases outcome with
      | superseded => exact .done fun _ _ => trivial
      | committed ids => exact .done fun _ hw => (hdue.succeeds ha).spent.moves hw

/-- A refresh that found its session active. -/
theorem assures_goingOn (s : LoginService) {current : Session} (h : Found fresh current w)
    (hhash : current.tokenHash = hash) :
    (goingOn s fresh (some current)).Assures (World.handler FaultyStore.storage)
      (World.Moves (· = fresh.session.id)) (Renews hash fresh) w := by
  have hmoves : ∀ w w' : World FaultyStore, w.Moves (· = fresh.session.id) w' →
      Found fresh current w → Found fresh current w' := fun _ _ hw hk => hk.moves hw
  have hcalls : ∀ (op : Backend.Op) (w : World FaultyStore), op.ReadsGraph →
      Found fresh current w → Found fresh current (World.handler FaultyStore.storage op w).2 := by
    intro op w hop hk
    rw [hop.reads.handler]
    exact hk
  have hread := Program.assures_of_within (s.within_renewal fresh current) hmoves hcalls h
  refine hread.bind (World.Moves.refl _) ?_ ?_
  · exact fun op next w' hop => renews_of_readsGraph hop.1 (unfinished_renewal next) w'
  · rintro (stop | r) w₁ ⟨hr, hfound⟩
    · exact .done fun _ _ => trivial
    · obtain ⟨now, hr⟩ := hr
      change (r.commit.run.bind (told .pair)).Assures _ _ _ _
      rw [run_commit]
      refine .call (fun _ _ => ⟨trivial, fun now reply h => nomatch h⟩) fun w₂ hw₂ => ?_
      have hdue : ∀ w₃ : World FaultyStore, w₂.Moves (· = fresh.session.id) w₃ →
          Due hash fresh (r.pending.rotation w₂.now) (settled r) w₃ :=
        fun w₃ hw₃ => ((hfound.moves hw₂).moves hw₃).due hhash hr w₂.now
      exact .call hdue fun w₃ hw₃ => assures_settled (hdue w₃ hw₃)

/-- **What a refresh assures,** whatever the others do. -/
theorem assures_refresh (s : LoginService) (fresh : Fresh) (token : String)
    (horderly : w.stored.store.Orderly) (hfree : w.sessions.get? fresh.session.id = none) :
    ((Operation.refresh fresh token).service s).run.Assures (World.handler FaultyStore.storage)
      (World.Moves (· = fresh.session.id)) (Renews (refreshTokenHash token) fresh) w := by
  cases hv : Validation.refreshToken token with
  | error failure =>
      rw [run_refresh_of_invalid s fresh hv]
      exact .done fun _ _ => trivial
  | ok =>
      rw [run_refresh s fresh hv]
      refine .call (fun _ _ => ⟨trivial, fun now reply h => nomatch h⟩) fun w₁ hw₁ => ?_
      refine .call (fun _ _ => ⟨rfl, unfinished_afterLookup s fresh w₁.now, fun found hrevoked => ?_⟩)
        fun w₂ hw₂ => ?_
      · -- A revoked session is not active, whenever it is looked for.
        have hnone : found.filter (·.isActive w₁.now) = none := by
          rw [Option.filter_eq_none_iff]
          intro c hc
          rw [Session.isActive, hrevoked c hc]
          exact Bool.false_ne_true
        change goingOn s fresh (found.filter (·.isActive w₁.now)) = unauthenticated
        rw [hnone]
        rfl
      · have hw := hw₁.trans hw₂
        have hread : Backend.Op.Reads (.store (.findByTokenHash (refreshTokenHash token))) := rfl
        rw [hread.handler]
        change (afterLookup s fresh w₁.now (FaultyStore.answer
          (.findByTokenHash (refreshTokenHash token)) w₂.stored).1).Assures _ _ _ _
        cases ha : (FaultyStore.answer (.findByTokenHash (refreshTokenHash token)) w₂.stored).1 with
        | error trouble => exact .done fun _ _ => trivial
        | ok found =>
            change (goingOn s fresh (found.filter (·.isActive w₁.now))).Assures _ _ _ _
            cases hf : found.filter (·.isActive w₁.now) with
            | none => exact .done fun _ _ => trivial
            | some current =>
                obtain ⟨rfl, _⟩ := Option.filter_eq_some_iff.mp hf
                obtain ⟨_, hanswer, _⟩ := FaultyStore.answer_eq_ok ha
                have hfound : w₂.stored.store.findByTokenHash (refreshTokenHash token) =
                    some current := congrArg Prod.fst (Except.ok.inj hanswer)
                obtain ⟨hget, hhash⟩ :=
                  (hw.orderly horderly).findByTokenHash_eq_some hfound
                exact assures_goingOn s ⟨hw.free _ rfl hfree, current, hget,
                  Session.Onward.refl current, rfl⟩ hhash

end

end Gatehouse
