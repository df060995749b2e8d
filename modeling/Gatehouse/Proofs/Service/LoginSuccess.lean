import Gatehouse.Proofs.Service.Answers
import Gatehouse.Proofs.Service.Login
import Gatehouse.Proofs.Session.Opening
import Gatehouse.Proofs.Store.Reachable
import Gatehouse.Proofs.Token.RoundTrip

/-! # What a login that succeeds has done

`LoggedIn` says it as a whole: whose login it was, which session was added, what became of the
sessions that were there, what the access token says, and which sessions the answer lists.
`login_success` proves it of every login that ends with an answer.  The parts are taken from the
stages of the login: the session from its preparation (`openedFor_of_ofLogin`), the sessions of the
store from the rotation (`adds_afterRotation`), the token from its issue, and the list from the
order of the store. -/

namespace Gatehouse

open Service

/-! ### The new session and the others -/

/-- The session was opened now for an identity on a client's device, and goes with the refresh token
and its expiry. -/
structure Session.OpenedFor (session : Session) (identity : Identity) (client : ClientInfo)
    (now : Instant) (refreshToken : String) (refreshExpiry : Instant) : Prop where
  userId : session.userId = identity.id
  deviceId : session.deviceId = client.deviceId
  deviceName : session.deviceName = client.deviceName
  platform : session.platform = client.platform
  flavor : session.flavor = client.flavor
  tokenHash : session.tokenHash = Sha256.digest (Bytes.ofText refreshToken)
  active : session.isActive now = true
  expiresAt : session.expiresAt = refreshExpiry

/-- The session when a new one is opened: it is revoked now with the reason of the new one's flavor
if it belongs to the same identity and device and is not revoked yet. -/
def Session.giveWay (old new : Session) (now : Instant) : Session :=
  if old.userId = new.userId ∧ old.deviceId = new.deviceId ∧ old.revoked = false then
    { old with
      revoked := true, revokedReason := some new.flavor.loginReason, revokedAt := some now }
  else old

/-- A session is added, those on its device give way, and nothing else changes. -/
structure MemoryStore.Adds (st st' : MemoryStore) (session : Session) (now : Instant) : Prop where
  new : st.sessions.get? session.id = none
  added : st'.sessions.get? session.id = some session
  others : ∀ id, id ≠ session.id →
    st'.sessions.get? id = (st.sessions.get? id).map (·.giveWay session now)
  rest : st' = { st with sessions := st'.sessions }

/-- A login of an identity has opened a session and was answered. -/
structure LoginService.LoggedIn (s : LoginService) (request : LoginRequest) (transport : Transport)
    (w w' : World FaultyStore) (identity : Identity) (session : Session) (answer : LoginAnswer) :
    Prop where
  /-- The request names the identity and has its password, and the account is enabled. -/
  found : w.stored.store.findByEmail (Email.normalize request.email) = some identity
  password : s.credentials.hasher.verify request.password identity.passwordHash = true
  enabled : identity.enabled = true
  /-- The session is the one record that is added. -/
  opened : session.OpenedFor identity (Client.classify request.hints transport) w.now
    answer.tokens.refreshToken answer.tokens.refreshExpiry
  adds : w.stored.store.Adds w'.stored.store session w.now
  world : w' = { w with stored := { w.stored with store := w'.stored.store } }
  /-- The answer shows the account with the access that the resolver yields. -/
  user : answer.user = LoginService.summary identity answer.user.access
  resolved : outcome (Resolution.resolve identity.id) FaultyStore.storage w =
    (.ok answer.user.access, w)
  /-- The access token names the identity with that access. -/
  token : ∃ principal,
    Token.validate s.settings w.now answer.tokens.accessToken.token = .ok principal ∧
      principal.userId = some identity.id ∧ principal.roles = answer.user.access.roles ∧
      principal.permissions = answer.user.access.permissions
  /-- The list holds the active sessions of the identity, and only the new one is on the device. -/
  listed : answer.activeSessions.Perm
    ((w'.stored.store.sessions.values.filter fun t =>
      t.userId = identity.id && t.isActive w.now).map (·.summary session.deviceId))
  current : answer.activeSessions.filter (·.isCurrent) = [session.summary session.deviceId]

/-! ### The session -/

theorem Lifetimes.nanosPerSecond_le (days : Nat) (f : Flavor) :
    Duration.nanosPerSecond ≤ ((ofWebDays days).ofFlavor f).nanos := by
  cases f with
  | mobile => exact Duration.nanosPerSecond_le_ofDays (by decide)
  | web =>
      refine Duration.nanosPerSecond_le_ofDays ?_
      change 0 < if days = 0 then defaultWebDays else days
      unfold defaultWebDays
      split <;> omega

theorem Session.isActive_of_add? {session : Session} {now : Instant} {d : Duration}
    (hd : Duration.nanosPerSecond ≤ d.nanos) (h : now.add? d = some session.expiresAt)
    (hrevoked : session.revoked = false) : session.isActive now = true := by
  have hlt := Instant.second_lt_of_add? hd h
  have hexpired : session.isExpired now = false := by
    refine decide_eq_false fun hle => ?_
    rw [Instant.lt_def] at hle
    omega
  unfold isActive
  rw [hrevoked, hexpired]
  rfl

theorem PendingSession.openedFor_of_ofLogin {days : Nat} {seed : SessionSeed} {now : Instant}
    {identity : Identity} {client : ClientInfo} {p : PendingSession}
    (h : ofLogin (.ofWebDays days) seed now identity.id client = some p) :
    p.session.OpenedFor identity client now p.refreshToken p.session.expiresAt := by
  obtain ⟨hadd, _, huser, hhash, hflavor, _, _, hrevoked, hdevice, hname, hplatform, htoken, _⟩ :=
    ofLogin_eq_some h
  rw [← htoken] at hhash
  exact ⟨huser, hdevice, hname, hplatform, hflavor, hhash,
    Session.isActive_of_add? (Lifetimes.nanosPerSecond_le days _) hadd hrevoked, rfl⟩

/-! ### The sessions of the store -/

/-- What a login's rotation does to a session that is there. -/
theorem MemoryStore.rotated_eq_giveWay {r : Rotation} (hscope : r.scope = ⟨r.session.deviceId⟩)
    (hreason : r.reason = r.session.flavor.loginReason) (hreplaces : r.replaces = none)
    (old : Session) : rotated r old = old.giveWay r.session r.now := by
  unfold rotated Session.giveWay
  by_cases h : old.userId = r.session.userId ∧ old.deviceId = r.session.deviceId ∧
      old.revoked = false
  · obtain ⟨huser, hdevice, hrevoked⟩ := h
    have hs : supersedes r old = true := by
      rw [supersedes_iff, hscope]
      exact ⟨huser, hrevoked, .inl hdevice⟩
    rw [if_pos hs, if_pos ⟨huser, hdevice, hrevoked⟩, Session.revoke, hrevoked, hreason]
    rfl
  · have hs : ¬ supersedes r old = true := by
      rw [supersedes_iff, hscope, hreplaces]
      rintro ⟨huser, hrevoked, hdevice | hid⟩
      · exact h ⟨huser, hdevice, hrevoked⟩
      · cases hid
    rw [if_neg hs, if_neg h]

theorem MemoryStore.adds_afterRotation {st : MemoryStore} {r : Rotation}
    (hnew : st.sessions.get? r.session.id = none) (hscope : r.scope = ⟨r.session.deviceId⟩)
    (hreason : r.reason = r.session.flavor.loginReason) (hreplaces : r.replaces = none) :
    st.Adds (st.afterRotation r) r.session r.now := by
  refine ⟨hnew, ?_, fun id hid => ?_, rfl⟩
  · rw [get?_afterRotation, if_pos rfl]
  · have hrotated : rotated r = (·.giveWay r.session r.now) :=
      funext (rotated_eq_giveWay hscope hreason hreplaces)
    rw [get?_afterRotation, if_neg (Ne.symm hid), hrotated]

/-! ### The stages, taken apart -/

namespace LoginService

variable {s : LoginService} {fresh : Fresh} {request : LoginRequest} {transport : Transport}
  {w w' : World FaultyStore}

/-- What a login has worked out when it is ready to write. -/
theorem ready_eq_ok {r : Ready}
    (h : outcome (s.ready fresh request transport) FaultyStore.storage w = (.ok r, w')) :
    w.stored.store.findByEmail (Email.normalize request.email) = some r.identity ∧
      s.credentials.hasher.verify request.password r.identity.passwordHash = true ∧
      r.identity.enabled = true ∧
      PendingSession.ofLogin s.lifetimes fresh.session w.now r.identity.id
        (Client.classify request.hints transport) = some r.pending ∧
      outcome (Resolution.resolve r.identity.id) FaultyStore.storage w = (.ok r.access, w) ∧
      Token.issue s.settings w.now fresh.tokenId r.identity r.access = some r.issued := by
  unfold ready at h
  obtain ⟨identity, w₁, hverify, h⟩ := bind_eq_ok.mp h
  obtain ⟨hfound, hpassword, henabled, hw₁⟩ := Credentials.verify_eq_ok hverify
  rw [hw₁] at h
  obtain ⟨pending, w₂, hprepare, h⟩ := bind_eq_ok.mp h
  obtain ⟨hpending, hw₂⟩ := Sessions.prepare_eq_ok hprepare
  rw [hw₂] at h
  obtain ⟨access, w₃, hresolve, h⟩ := bind_eq_ok.mp h
  have hw₃ := (Resolution.resolve_eq_ok hresolve).2
  rw [hw₃] at h hresolve
  obtain ⟨issued, w₄, hsign, h⟩ := bind_eq_ok.mp h
  cases h
  exact ⟨hfound, hpassword, henabled, hpending, hresolve, (sign_eq_ok hsign).1⟩

/-- The stages of a login that ends with an answer. -/
theorem login_eq_ok {answer : LoginAnswer}
    (h : outcome (s.login fresh request transport) FaultyStore.storage w = (.ok answer, w')) :
    let client := Client.classify request.hints transport
    ∃ r : Ready,
      outcome (s.ready fresh request transport) FaultyStore.storage w = (.ok r, w) ∧
      w.stored.store.rotate (r.pending.rotation w.now) =
        .ok (.committed (w.stored.store.supersededIds (r.pending.rotation w.now)),
          w.stored.store.afterRotation (r.pending.rotation w.now)) ∧
      w' = { w with stored :=
        { w.stored with store := w.stored.store.afterRotation (r.pending.rotation w.now) } } ∧
      answer = r.answer r.pending.session client.flavor
        ((w'.stored.store.listActive r.identity.id w'.now).map (·.summary client.deviceId)) := by
  intro client
  rw [login_eq] at h
  obtain ⟨_, w₁, haccept, hdeadline⟩ := bind_eq_ok.mp h
  rw [(ReadOnly.accept _).eq_of_outcome haccept] at hdeadline
  obtain ⟨⟨r, session⟩, w₂, hopened, hanswered⟩ := bind_eq_ok.mp (withDeadline_eq_ok.mp hdeadline)
  obtain ⟨hready, hsession, hrotate, hw₂⟩ := opened_ok hopened
  obtain ⟨summaries, w₃, hlist, hended⟩ := bind_eq_ok.mp hanswered
  obtain ⟨hsummaries, hw₃⟩ := Sessions.list_eq_ok hlist
  cases hended
  rw [hw₃]
  rw [hsession, hsummaries]
  exact ⟨r, hready, hrotate, hw₂, rfl⟩

/-! ### The answer -/

/-- The sessions that a store lists are the active ones of the identity. -/
theorem perm_listActive (st : MemoryStore) (userId : Uuid) (now : Instant) (device : String) :
    ((st.listActive userId now).map (·.summary device)).Perm
      ((st.sessions.values.filter fun t => t.userId = userId && t.isActive now).map
        (·.summary device)) :=
  (List.mergeSort_perm _ _).map _

/-- Of the listed sessions one is flagged: the active one on the device. -/
theorem filter_isCurrent {st : MemoryStore} (hst : st.Orderly) {session : Session} {now : Instant}
    (hs : st.sessions.get? session.id = some session) (hactive : session.isActive now = true) :
    ((st.listActive session.userId now).map (·.summary session.deviceId)).filter (·.isCurrent) =
      [session.summary session.deviceId] := by
  rw [List.filter_map]
  change List.map _ ((st.listActive session.userId now).filter (·.deviceId == session.deviceId)) = _
  rw [hst.filter_listActive hs hactive]
  rfl

/-- **What a login that succeeds has done.**  In every store that can come about, from 1970 on and
with a session id that is free: a login that ends with an answer has added one session of the
identity that it checked, on the device of the client, under the digest of the refresh token that it
answers with; the sessions that were on the device have given way to it, and nothing else has
changed; the access token is valid and carries the access of the identity; and the answer lists the
active sessions of the identity, of which the new one is flagged. -/
theorem login_success (s : LoginService) (hs : s.settings.Built) (fresh : Fresh)
    (request : LoginRequest) (transport : Transport) {w w' : World FaultyStore}
    {answer : LoginAnswer} (hreach : w.stored.store.Reachable) (hnow : 0 ≤ w.now.second)
    (hfresh : w.stored.store.sessions.get? fresh.session.id = none)
    (h : outcome (s.login fresh request transport) FaultyStore.storage w = (.ok answer, w')) :
    ∃ identity session, session.id = fresh.session.id ∧
      s.LoggedIn request transport w w' identity session answer := by
  obtain ⟨r, hready, hrotate, hw', rfl⟩ := login_eq_ok h
  obtain ⟨hfound, hpassword, henabled, hpending, hresolve, hissue⟩ := ready_eq_ok hready
  have hopened := PendingSession.openedFor_of_ofLogin hpending
  obtain ⟨_, hid, _, _, hflavor, _, _, _, hdevice, _, _, _, hscope, hreason, hreplaces⟩ :=
    PendingSession.ofLogin_eq_some hpending
  rw [← hid] at hfresh
  rw [← hdevice] at hscope
  rw [← hflavor] at hreason
  have hadds : w.stored.store.Adds w'.stored.store r.pending.session w.now := by
    rw [hw']
    exact MemoryStore.adds_afterRotation (r := r.pending.rotation w.now) hfresh hscope hreason
      hreplaces
  have horderly : w'.stored.store.Orderly := by
    let call : StoreCall := .rotate (r.pending.rotation w.now)
    have hafter : w.stored.store.after call = w.stored.store.afterRotation _ :=
      MemoryStore.after_of_answer hrotate
    rw [hw', ← hafter]
    exact (hreach.call call).orderly
  have hclock : w'.now = w.now := by rw [hw']
  have hcurrent := filter_isCurrent horderly hadds.added hopened.active
  have hlisted := perm_listActive w'.stored.store r.identity.id w.now r.pending.session.deviceId
  rw [hopened.userId] at hcurrent
  refine ⟨r.identity, r.pending.session, hid, ?_⟩
  exact
    { found := hfound, password := hpassword, enabled := henabled
      opened := hopened
      adds := hadds
      world := by rw [hw']
      user := rfl
      resolved := hresolve
      token := ⟨_, Token.validate_issue_now hs hnow hissue, rfl, rfl, rfl⟩
      listed := by
        rw [hdevice] at hlisted ⊢
        rw [← hclock] at hlisted ⊢
        exact hlisted
      current := by
        rw [hdevice] at hcurrent ⊢
        rw [← hclock] at hcurrent
        exact hcurrent }

end LoginService

namespace Sample

theorem built_service : service.settings.Built := .new _ _ _ _ _

theorem reachable_world (faults : List (String × StoreFault)) :
    (world faults).stored.store.Reachable :=
  .change .empty (.insertIdentity identity)

end Sample

namespace LoginService

/-- The first login to the sample account opens its session. -/
theorem login_success_first : ∃ answer w' identity session, session.id = Sample.fresh.session.id ∧
    Sample.service.LoggedIn Sample.request ⟨none, none⟩ (Sample.world []) w' identity session
      answer :=
  ⟨_, _, login_success Sample.service Sample.built_service Sample.fresh Sample.request ⟨none, none⟩
    (Sample.reachable_world []) (Int.le_refl 0) rfl rfl⟩

end LoginService

end Gatehouse
