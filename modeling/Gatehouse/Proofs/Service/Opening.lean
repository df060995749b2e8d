import Gatehouse.Proofs.Service.Among
import Gatehouse.Proofs.Service.Logout
import Gatehouse.Proofs.Service.Recognition

/-! # Sessions that are opened as the clock goes on

A login and a refresh first only read, and then commit a session, after which a login reads again.
However the clock goes on meanwhile, either ends with an error and has changed nothing, or it has
committed its session at one time in between, and nothing else has changed (`login_elapses`,
`refresh_elapses`).

Without faults the second is the case for what is in order whenever the service reads the clock: the
calendar holds what it reckons with, the account is enabled, and the password is the right one
(`login_answers`), or the session of the token is active (`refresh_answers`).  It is only the times
of the readings that count, so these are said of the calls that the service makes
(`Service.Answers`). -/

namespace Gatehouse

open Service

variable {w w₁ w' : World FaultyStore} {pending : PendingSession} {t : Instant}

/-! ### Commits -/

/-- A session was committed at a time in between, and nothing else has changed. -/
structure World.Commits (w : World FaultyStore) (pending : PendingSession) (t : Instant)
    (w' : World FaultyStore) : Prop where
  begun : w.now ≤ t
  ended : t ≤ w'.now
  after : World.Elapsed
    { w with stored :=
      { w.stored with store := w.stored.store.afterRotation (pending.rotation t) } } w'

namespace World.Commits

theorem store_eq (h : w.Commits pending t w') :
    w'.stored.store = w.stored.store.afterRotation (pending.rotation t) := by
  rw [h.after.stored_eq]

theorem of_elapsed (h : w₁.Commits pending t w') (helapsed : w.Elapsed w₁) :
    w.Commits pending t w' where
  begun := Instant.le_trans helapsed.le h.begun
  ended := h.ended
  after := by
    have hafter := h.after
    rw [helapsed.stored_eq] at hafter
    exact (helapsed.store _).trans hafter

theorem elapsed (h : w.Commits pending t w₁) (helapsed : w₁.Elapsed w') :
    w.Commits pending t w' where
  begun := h.begun
  ended := Instant.le_trans h.ended helapsed.le
  after := h.after.trans helapsed

end World.Commits

/-! ### Parts of a run -/

namespace Service

variable {α β : Type} {p : Service α} {f : α → Service β} {result : Except Stop α}

/-- To look something up takes no time: it ends as if the clock stood. -/
theorem elapses_lookup {wanted : α → Prop} (hp : p.Within Backend.Op.ReadsAccount wanted)
    (h : p.run.Elapses FaultyStore.storage w result w') :
    w.Elapsed w' ∧ ∃ w₁, outcome p FaultyStore.storage w = (result, w₁) := by
  have hreads : p.Within Backend.Op.Reads wanted :=
    hp.mono (fun _ hop => hop.readsGraph.reads) fun _ ha => ha
  have htimeless : p.Within (fun op => op ≠ .now) wanted := by
    refine hp.mono (fun op hop hnow => ?_) fun _ ha => ha
    cases hnow
    exact hop
  have hend := (Program.Within.elapses_run htimeless (.refl w) h).1
  exact ⟨(Program.Within.elapsed hreads h).1, _, Prod.ext hend rfl⟩

/-- What is looked up is there, as when the clock stands. -/
theorem Delivers.lookup {wanted : α → Prop} (hp : p.Within Backend.Op.ReadsAccount wanted) {a : α}
    {w₁ : World FaultyStore} (h : outcome p FaultyStore.storage w = (.ok a, w₁)) :
    Delivers FaultyStore.storage w (fun b w' => b = a ∧ w.Elapsed w') p := by
  intro result w' hrun
  obtain ⟨helapsed, _, hend⟩ := elapses_lookup hp hrun
  exact ⟨a, congrArg Prod.fst (hend.symm.trans h), rfl, helapsed⟩

end Service

namespace Sessions

theorem reads_list (userId : Uuid) (device : String) :
    (list userId device).Within Backend.Op.Reads AnyValue := by
  refine Within.bind (Within.now trivial) fun now _ => ?_
  have hcall : Backend.Op.Reads (.store (.listActive userId now)) := rfl
  exact Within.bind (Within.store _ hcall none) fun _ _ => Within.pure trivial

/-- To list the sessions at last changes nothing, and ends well without faults. -/
theorem list_last {β : Type} {userId : Uuid} {device : String} {f : List SessionSummary → β}
    {result : Except Stop β}
    (h : (list userId device >>= fun entries => pure (f entries)).run.Elapses FaultyStore.storage w
      result w') :
    w.Elapsed w' ∧ (w.stored.faults = [] → ∃ b, result = .ok b) := by
  obtain ⟨first, hlist, rfl⟩ := elapses_bind_pure h
  refine ⟨(Program.Within.elapsed (reads_list userId device) hlist).1, fun hf => ?_⟩
  obtain ⟨_, rfl, _⟩ := delivers_list hf userId device _ w' hlist
  exact ⟨_, rfl⟩

/-- A commit that the store would have is carried out. -/
theorem answers_commit {times : Instant → Prop} (hf : w.stored.faults = [])
    (hrotate : ∀ t, times t → ∃ ids st,
      w.stored.store.rotate (pending.rotation t) = .ok (.committed ids, st)) :
    Answers FaultyStore.storage w times (fun _ w' => w'.stored.faults = []) (commit pending) := by
  unfold commit
  refine Answers.now.bind fun t w₁ ⟨ht, hbefore⟩ => ?_
  obtain ⟨ids, st, hcommitted⟩ := hrotate t ht
  rw [← hbefore.stored_eq] at hf hcommitted
  refine (Answers.of_delivers (Delivers.sound (.rotate (pending.rotation t)) hf hcommitted none)).bind
    ?_
  rintro _ w₂ ⟨rfl, hafter⟩
  refine .of_delivers (Delivers.pure fun w' hend => ?_)
  rw [hend.stored_eq, hafter.stored_eq]
  exact hf

end Sessions

/-- Without faults the password of an enabled account is accepted. -/
theorem Credentials.verify_of_sound {c : Credentials} (hf : w.stored.faults = [])
    {email password : String} {identity : Identity}
    (hfound : w.stored.store.findByEmail (Email.normalize email) = some identity)
    (hpassword : c.hasher.verify password identity.passwordHash = true)
    (henabled : identity.enabled = true) :
    outcome (c.verify email password) FaultyStore.storage w = (.ok identity, w) := by
  have hread := outcome_read_of_sound hf (.findByEmail (Email.normalize email)) rfl none
  rw [hfound] at hread
  have hrequired : outcome (require .invalidCredentials ((some identity).filter fun _ =>
      c.hasher.verify password identity.passwordHash)) FaultyStore.storage w =
        (.ok identity, w) := by
    rw [Option.filter_some, if_pos hpassword]
    rfl
  unfold verify
  rw [outcome_bind_ok hread]
  refine (outcome_bind_ok hrequired).trans ?_
  rw [if_pos henabled]
  rfl

namespace LoginService

variable {s : LoginService} {fresh : Fresh} {request : LoginRequest} {transport : Transport}
  {times : Instant → Prop}

/-! ### Logins -/

/-- What a login has worked out when it is ready to write. -/
theorem ready_elapses {r : Ready}
    (h : (s.ready fresh request transport).run.Elapses FaultyStore.storage w (.ok r) w') :
    w.Elapsed w' ∧
      w.stored.store.findByEmail (Email.normalize request.email) = some r.identity ∧
      ∃ now, PendingSession.ofLogin s.lifetimes fresh.session now r.identity.id
        (Client.classify request.hints transport) = some r.pending := by
  have hreads := (s.within_ready fresh request transport).mono (fun _ hop => hop.reads)
    fun _ hr => hr
  obtain ⟨helapsed, hpending⟩ := Program.Within.elapsed hreads h
  obtain ⟨identity, w₁, hverify, h⟩ := elapses_bind_ok h
  obtain ⟨_, w₂, _, h⟩ := elapses_bind_ok h
  obtain ⟨_, w₃, _, h⟩ := elapses_bind_ok h
  obtain ⟨_, w₄, _, h⟩ := elapses_bind_ok h
  obtain ⟨hok, _⟩ := elapses_pure h
  cases hok
  obtain ⟨_, _, hverified⟩ := elapses_lookup (Credentials.within_verify _ _ _) hverify
  exact ⟨helapsed, (Credentials.verify_eq_ok hverified).1, hpending⟩

/-- The stages up to the write. -/
theorem opened_elapses {result : Except Stop (Ready × Session)}
    (h : (s.opened fresh request transport).run.Elapses FaultyStore.storage w result w') :
    ((∃ stop, result = .error stop) ∧ w.Elapsed w') ∨ ∃ r w₁ t,
      (s.ready fresh request transport).run.Elapses FaultyStore.storage w (.ok r) w₁ ∧
        result = .ok (r, r.pending.session) ∧ w.Commits r.pending t w' := by
  rcases elapses_bind h with ⟨stop, rfl, hready⟩ | ⟨r, w₁, hready, h⟩
  · have hreads := (s.within_ready fresh request transport).mono (fun _ hop => hop.reads)
      fun _ hr => hr
    exact .inl ⟨⟨stop, rfl⟩, (Program.Within.elapsed hreads hready).1⟩
  obtain ⟨hbefore, _⟩ := ready_elapses hready
  obtain ⟨first, hcommit, rfl⟩ := elapses_bind_pure h
  obtain ⟨t, hle, hle', ⟨⟨stop, rfl⟩, hend, _⟩ | ⟨rfl, hafter⟩⟩ :=
    Sessions.elapses_commit_cases hcommit
  · exact .inl ⟨⟨stop, rfl⟩, hbefore.trans hend⟩
  · exact .inr ⟨r, w₁, t, hready, rfl, World.Commits.of_elapsed ⟨hle, hle', hafter⟩ hbefore⟩

/-- **The ends of a login as the clock goes on.**  It ends with an error and has changed nothing, or
it has committed a session of the account that its address finds, on the device of the client; and
without faults it is then answered. -/
theorem login_elapses {result : Except Stop LoginAnswer}
    (h : (s.login fresh request transport).run.Elapses FaultyStore.storage w result w') :
    ((∃ stop, result = .error stop) ∧ w.Elapsed w') ∨ ∃ identity pending now t,
      w.stored.store.findByEmail (Email.normalize request.email) = some identity ∧
        PendingSession.ofLogin s.lifetimes fresh.session now identity.id
          (Client.classify request.hints transport) = some pending ∧
        w.Commits pending t w' ∧ (w.stored.faults = [] → ∃ answer, result = .ok answer) := by
  rw [login_eq] at h
  rcases elapses_bind h with ⟨stop, rfl, haccept⟩ | ⟨_, w₁, haccept, h⟩
  · exact .inl ⟨⟨stop, rfl⟩, (elapses_accept haccept).2⟩
  have hbefore : w.Elapsed w₁ := (elapses_accept haccept).2
  obtain ⟨first, hstages, rfl⟩ := elapses_withDeadline h
  rcases elapses_bind hstages with ⟨stop, rfl, hopened⟩ | ⟨⟨r, session⟩, w₂, hopened, hlisted⟩
  · rcases opened_elapses hopened with ⟨_, hend⟩ | ⟨_, _, _, _, hok, _⟩
    · exact .inl ⟨⟨_, rfl⟩, hbefore.trans hend⟩
    · cases hok
  rcases opened_elapses hopened with ⟨⟨_, hstop⟩, _⟩ | ⟨r, w₃, t, hready, hok, hcommits⟩
  · cases hstop
  cases hok
  obtain ⟨_, hfound, now, hpending⟩ := ready_elapses hready
  rw [hbefore.stored_eq] at hfound
  -- After the write the sessions are only read.
  obtain ⟨hlast, hanswered⟩ := Sessions.list_last hlisted
  refine .inr ⟨r.identity, r.pending, now, t, hfound, hpending,
    (hcommits.of_elapsed hbefore).elapsed hlast, fun hf => ?_⟩
  have hf₂ : w₂.stored.faults = [] := by
    rw [hcommits.after.stored_eq, hbefore.stored_eq]
    exact hf
  obtain ⟨answer, rfl⟩ := hanswered hf₂
  exact ⟨answer, rfl⟩

/-- Without faults a login with the right password makes itself ready. -/
theorem answers_ready (fresh : Fresh) (transport : Transport) (hf : w.stored.faults = [])
    (hc : ∀ t, times t → s.InCalendar t) {identity : Identity}
    (hfound : w.stored.store.findByEmail (Email.normalize request.email) = some identity)
    (hpassword : s.credentials.hasher.verify request.password identity.passwordHash = true)
    (henabled : identity.enabled = true) :
    Answers FaultyStore.storage w times (fun r w' => w.Elapsed w' ∧ ∃ now,
      PendingSession.ofLogin s.lifetimes fresh.session now identity.id
        (Client.classify request.hints transport) = some r.pending)
      (s.ready fresh request transport) := by
  have hverified := Credentials.verify_of_sound hf hfound hpassword henabled
  unfold ready
  refine (Answers.of_delivers (Delivers.lookup (Credentials.within_verify _ _ _) hverified)).bind ?_
  rintro _ w₁ ⟨rfl, h₁⟩
  refine (Answers.dated fun t ht => (hc t ht).ofLogin _ _ _).bind ?_
  rintro pending w₂ ⟨h₂, now, _, hpending⟩
  have hbefore := h₁.trans h₂
  rw [← hbefore.stored_eq] at hf
  refine (Answers.of_delivers
    (Delivers.lookup (Resolution.within_resolve _) (Resolution.resolve_of_sound hf _))).bind ?_
  rintro access w₃ ⟨_, h₃⟩
  refine (Answers.dated fun t ht => (hc t ht).issue _ _ _).bind ?_
  rintro issued w₄ ⟨h₄, _⟩
  have hread := (hbefore.trans h₃).trans h₄
  exact .of_delivers (Delivers.pure fun w' hend => ⟨hread.trans hend, now, hpending⟩)

/-- The store takes what was prepared for a login, if its token is new. -/
theorem rotate_ofLogin {st : MemoryStore} {l : Lifetimes} {seed : SessionSeed} {now : Instant}
    {userId : Uuid} {client : ClientInfo}
    (hpending : PendingSession.ofLogin l seed now userId client = some pending)
    (hnew : st.findByTokenHash (refreshTokenHash seed.refreshToken) = none) (t : Instant) :
    ∃ ids st', st.rotate (pending.rotation t) = .ok (.committed ids, st') := by
  obtain ⟨_, _, _, hhash, _, _, _, _, hdevice, _, _, _, hscope, _, hreplaces⟩ :=
    PendingSession.ofLogin_eq_some hpending
  have hreplaced : st.replacedIsActive (pending.rotation t) = true := by
    unfold MemoryStore.replacedIsActive PendingSession.rotation
    rw [hreplaces]
    rfl
  rw [← hdevice] at hscope
  rw [← hhash] at hnew
  exact ⟨_, _, MemoryStore.rotate_of_scope hreplaced hnew hscope⟩

/-- **A login that is in order is answered,** without faults and where the calendar holds what it
reckons with, whatever is on its device. -/
theorem login_answers (transport : Transport) (hf : w.stored.faults = [])
    (hc : ∀ t, times t → s.InCalendar t)
    (hnew : w.stored.store.findByTokenHash (refreshTokenHash fresh.session.refreshToken) = none)
    (hvalid : Validation.login request.email request.password = .ok ()) {identity : Identity}
    (hfound : w.stored.store.findByEmail (Email.normalize request.email) = some identity)
    (hpassword : s.credentials.hasher.verify request.password identity.passwordHash = true)
    (henabled : identity.enabled = true) :
    Answers FaultyStore.storage w times (fun _ _ => True) (s.login fresh request transport) := by
  rw [login_eq, hvalid]
  have haccepted : Answers FaultyStore.storage w times (fun _ w' => w.Elapsed w')
      (accept (.ok ())) := .of_delivers (Delivers.pure fun _ hend => hend)
  refine haccepted.bind fun _ w₁ h₁ => .withDeadline ?_
  rw [← h₁.stored_eq] at hf hnew hfound
  have hopened : Answers FaultyStore.storage w₁ times (fun _ w' => w'.stored.faults = [])
      (s.opened fresh request transport) := by
    unfold opened
    refine (answers_ready fresh transport hf hc hfound hpassword henabled).bind ?_
    rintro r w₂ ⟨h₂, now, hpending⟩
    rw [← h₂.stored_eq] at hf hnew
    refine (Sessions.answers_commit hf fun t _ => rotate_ofLogin hpending hnew t).bind ?_
    intro session w₃ hf₃
    refine .of_delivers (Delivers.pure fun w' hend => ?_)
    rw [hend.stored_eq]
    exact hf₃
  unfold stages
  refine hopened.bind fun written w₃ hf₃ => ?_
  exact (Answers.of_delivers (Sessions.delivers_list hf₃ _ _)).bind
    fun _ _ _ => .of_delivers (Delivers.pure fun _ _ => trivial)

/-! ### Refreshes -/

/-- **The ends of a refresh as the clock goes on.**  It ends with an error and has changed nothing,
or it is answered and has committed a renewal of the session that was active under its token. -/
theorem refresh_elapses {token : String} {result : Except Stop TokenPair}
    (h : (s.refresh fresh token).run.Elapses FaultyStore.storage w result w') :
    ((∃ stop, result = .error stop) ∧ w.Elapsed w') ∨ ∃ old pending now t,
      w.stored.store.activeByToken token w.now = some old ∧
        PendingSession.ofRefresh s.lifetimes fresh.session now old = some pending ∧
        w.Commits pending t w' ∧ ∃ pair, result = .ok pair := by
  rw [refresh_eq] at h
  rcases elapses_bind h with ⟨stop, rfl, haccept⟩ | ⟨_, w₁, haccept, h⟩
  · exact .inl ⟨⟨stop, rfl⟩, (elapses_accept haccept).2⟩
  have hbefore : w.Elapsed w₁ := (elapses_accept haccept).2
  obtain ⟨first, hstages, rfl⟩ := elapses_withDeadline h
  rcases elapses_bind hstages with ⟨stop, rfl, hfind⟩ | ⟨found, w₂, hfind, hstages⟩
  · exact .inl ⟨⟨_, rfl⟩, hbefore.trans (elapses_findActiveByToken hfind).1⟩
  obtain ⟨hsearched, ⟨_, hstop, _⟩ | ⟨t₀, hle, _, hok⟩⟩ := elapses_findActiveByToken hfind
  · cases hstop
  cases hok
  rw [hbefore.stored_eq] at hstages
  have hle := Instant.le_trans hbefore.le hle
  have hbefore := hbefore.trans hsearched
  rcases elapses_bind hstages with ⟨stop, rfl, hnone⟩ | ⟨old, w₃, hsome, hstages⟩
  · exact .inl ⟨⟨_, rfl⟩, hbefore.trans (elapses_require hnone).2⟩
  obtain ⟨hactive, hpassed⟩ := elapses_require_ok hsome
  have hreads := (s.within_renewal fresh old).mono (fun _ hop => hop.reads) fun _ hr => hr
  rcases elapses_bind hstages with ⟨stop, rfl, hrenewal⟩ | ⟨r, w₄, hrenewal, hcommitted⟩
  · have hend := (Program.Within.elapsed hreads hrenewal).1
    exact .inl ⟨⟨_, rfl⟩, (hbefore.trans hpassed).trans hend⟩
  obtain ⟨hrenewed, now, hpending⟩ := Program.Within.elapsed hreads hrenewal
  have hbefore := (hbefore.trans hpassed).trans hrenewed
  obtain ⟨committed, hcommit, rfl⟩ := elapses_bind_pure hcommitted
  obtain ⟨t, hbegun, hended, ⟨⟨stop, rfl⟩, hend, _⟩ | ⟨rfl, hafter⟩⟩ :=
    Sessions.elapses_commit_cases hcommit
  · exact .inl ⟨⟨_, rfl⟩, hbefore.trans hend⟩
  · exact .inr ⟨old, r.pending, now, t, MemoryStore.activeByToken_of_le hle hactive, hpending,
      World.Commits.of_elapsed ⟨hbegun, hended, hafter⟩ hbefore, _, rfl⟩

/-- The store takes a renewal of an active session, if its token is new. -/
theorem rotate_ofRefresh {st : MemoryStore} {l : Lifetimes} {seed : SessionSeed} {now : Instant}
    {old : Session} (hpending : PendingSession.ofRefresh l seed now old = some pending)
    (hnew : st.findByTokenHash (refreshTokenHash seed.refreshToken) = none)
    (hstored : st.sessions.get? old.id = some old) {t : Instant} (hactive : old.isActive t = true) :
    ∃ ids st', st.rotate (pending.rotation t) = .ok (.committed ids, st') := by
  obtain ⟨expiresAt, _, hsession, _, hscope, _, hreplaces⟩ :=
    PendingSession.ofRefresh_eq_some hpending
  have hreplaced : st.replacedIsActive (pending.rotation t) = true := by
    unfold MemoryStore.replacedIsActive PendingSession.rotation
    rw [hreplaces, Option.all_some, hstored, Option.any_some, hactive]
  have hhash : st.findByTokenHash pending.session.tokenHash = none := by
    rw [hsession]
    exact hnew
  have hdevice : pending.scope = ⟨pending.session.deviceId⟩ := by
    rw [hsession]
    exact hscope
  exact ⟨_, _, MemoryStore.rotate_of_scope hreplaced hhash hdevice⟩

/-- Without faults the session of a token and its enabled account are found, if the session is
active whenever the clock is read. -/
theorem answers_eligible {token : String} (hf : w.stored.faults = []) {old : Session}
    {identity : Identity}
    (hfound : w.stored.store.findByTokenHash (refreshTokenHash token) = some old)
    (hactive : ∀ t, times t → old.isActive t = true)
    (hholder : w.stored.store.identities.get? old.userId = some identity)
    (henabled : identity.enabled = true) :
    Answers FaultyStore.storage w times (fun found w' => found = (old, identity) ∧ w.Elapsed w')
      (eligible token) := by
  have hfind : Answers FaultyStore.storage w times (fun found w' => found = some old ∧ w.Elapsed w')
      (Sessions.findActiveByToken token) := by
    unfold Sessions.findActiveByToken
    refine Answers.now.bind fun t w₁ ⟨ht, h₁⟩ => ?_
    rw [← h₁.stored_eq] at hf hfound
    refine (Answers.of_delivers
      (Delivers.sound (.findByTokenHash (refreshTokenHash token)) hf rfl none)).bind ?_
    rintro _ w₂ ⟨rfl, h₂⟩
    refine .of_delivers (Delivers.pure fun w' hend => ⟨?_, (h₁.trans h₂).trans hend⟩)
    rw [hfound, Option.filter_some, if_pos (hactive t ht)]
  unfold eligible
  refine hfind.bind ?_
  rintro _ w₁ ⟨rfl, h₁⟩
  have hcurrent : Answers FaultyStore.storage w₁ times (fun s w' => s = old ∧ w₁.Elapsed w')
      (require .unauthenticated (some old)) := .of_delivers (Delivers.pure fun _ hend => ⟨rfl, hend⟩)
  refine hcurrent.bind ?_
  rintro _ w₂ ⟨rfl, h₂⟩
  have hbefore := h₁.trans h₂
  rw [← hbefore.stored_eq] at hf hholder
  refine (Answers.of_delivers (Delivers.sound (.findIdentity _) hf rfl none)).bind ?_
  rintro _ w₃ ⟨rfl, h₃⟩
  rw [hholder]
  have huser : Answers FaultyStore.storage w₃ times (fun i w' => i = identity ∧ w₃.Elapsed w')
      (require .unauthenticated (some identity)) :=
    .of_delivers (Delivers.pure fun _ hend => ⟨rfl, hend⟩)
  refine huser.bind ?_
  rintro _ w₄ ⟨rfl, h₄⟩
  rw [if_pos henabled]
  have hread : w.Elapsed w₄ := (hbefore.trans h₃).trans h₄
  exact .of_delivers (Delivers.pure fun w' hend => ⟨rfl, hread.trans hend⟩)

/-- Without faults the renewal of a session is worked out. -/
theorem answers_renewFor (fresh : Fresh) (hf : w.stored.faults = [])
    (hc : ∀ t, times t → s.InCalendar t) (old : Session) (identity : Identity) :
    Answers FaultyStore.storage w times (fun r w' => w.Elapsed w' ∧ ∃ now,
      PendingSession.ofRefresh s.lifetimes fresh.session now old = some r.pending)
      (s.renewFor fresh old identity) := by
  unfold renewFor
  refine (Answers.dated fun t ht => (hc t ht).ofRefresh _ _).bind ?_
  rintro pending w₁ ⟨h₁, now, _, hpending⟩
  rw [← h₁.stored_eq] at hf
  refine (Answers.of_delivers
    (Delivers.lookup (Resolution.within_resolve _) (Resolution.resolve_of_sound hf _))).bind ?_
  rintro access w₂ ⟨_, h₂⟩
  refine (Answers.dated fun t ht => (hc t ht).issue _ _ _).bind ?_
  rintro issued w₃ ⟨h₃, _⟩
  have hread := (h₁.trans h₂).trans h₃
  exact .of_delivers (Delivers.pure fun w' hend => ⟨hread.trans hend, now, hpending⟩)

/-- **A refresh that is in order is answered,** without faults and where the calendar holds what it
reckons with, if the session of its token is active whenever the clock is read. -/
theorem refresh_answers {token : String} (hst : w.stored.store.Orderly)
    (hf : w.stored.faults = []) (hc : ∀ t, times t → s.InCalendar t)
    (hnew : w.stored.store.findByTokenHash (refreshTokenHash fresh.session.refreshToken) = none)
    (hvalid : Validation.refreshToken token = .ok ()) {old : Session} {identity : Identity}
    (hfound : w.stored.store.findByTokenHash (refreshTokenHash token) = some old)
    (hactive : ∀ t, times t → old.isActive t = true)
    (hholder : w.stored.store.identities.get? old.userId = some identity)
    (henabled : identity.enabled = true) :
    Answers FaultyStore.storage w times (fun _ _ => True) (s.refresh fresh token) := by
  have hstored := (hst.findByTokenHash_eq_some hfound).1
  rw [refresh_eq_prepared, hvalid]
  have haccepted : Answers FaultyStore.storage w times (fun _ w' => w.Elapsed w')
      (accept (.ok ())) := .of_delivers (Delivers.pure fun _ hend => hend)
  refine haccepted.bind fun _ w₁ h₁ => .withDeadline ?_
  rw [← h₁.stored_eq] at hf hnew hfound hholder hstored
  have hprepared : Answers FaultyStore.storage w₁ times (fun r w' => w₁.Elapsed w' ∧ ∃ now,
      PendingSession.ofRefresh s.lifetimes fresh.session now old = some r.pending)
      (s.prepared fresh token) := by
    unfold prepared
    refine (answers_eligible hf hfound hactive hholder henabled).bind ?_
    rintro _ w₂ ⟨rfl, h₂⟩
    rw [← h₂.stored_eq] at hf
    refine (answers_renewFor fresh hf hc old identity).mono ?_
    rintro r w' ⟨h₃, hpending⟩
    exact ⟨h₂.trans h₃, hpending⟩
  refine hprepared.bind ?_
  rintro r w₃ ⟨h₃, now, hpending⟩
  rw [← h₃.stored_eq] at hf hnew hstored
  have hrotate (t : Instant) (ht : times t) := rotate_ofRefresh hpending hnew hstored (hactive t ht)
  unfold Renewal.commit
  exact (Sessions.answers_commit hf hrotate).bind
    fun _ _ _ => .of_delivers (Delivers.pure fun _ _ => trivial)

end LoginService

end Gatehouse
