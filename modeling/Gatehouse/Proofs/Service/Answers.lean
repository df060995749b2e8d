import Gatehouse.Proofs.Service.Run
import Gatehouse.Proofs.Store.Faulty
import Gatehouse.Service.Login

/-! # What services that end with a value have done

A service that ends with a value was not stopped by any of its store calls, so no fault of the table
was met, and each call was answered by the store itself (`store_eq_ok`, `read_eq_ok`); conversely a
call that only reads ends with that answer unless it is faulted (`outcome_read`, `outcome_faulted`).
The lemmas below say for each service of a login or a refresh what its value is then made from. -/

namespace Gatehouse

open Service

variable {w w' : World FaultyStore}

/-! ### Store calls -/

namespace Service

theorem store_eq_ok {call : StoreCall} {context : Option String} {reply : call.Reply}
    (h : outcome (store call context) FaultyStore.storage w = (.ok reply, w')) :
    ∃ st, w.stored.store.answer call = .ok (reply, st) ∧
      w' = { w with stored := { w.stored with store := st } } := by
  rw [outcome_store] at h
  have hw : { w with stored := (FaultyStore.answer call w.stored).2 } = w' := congrArg Prod.snd h
  have hreply : (FaultyStore.answer call w.stored).1.mapError (stopOf context) = .ok reply :=
    congrArg Prod.fst h
  cases ha : (FaultyStore.answer call w.stored).1 with
  | error trouble =>
      rw [ha] at hreply
      cases hreply
  | ok reply' =>
      rw [ha] at hreply
      cases hreply
      obtain ⟨st, hst, hstored⟩ := FaultyStore.answer_eq_ok ha
      rw [hstored] at hw
      exact ⟨st, hst, hw.symm⟩

/-- A call that only reads is answered by the store and leaves the world. -/
theorem read_eq_ok {call : StoreCall} {context : Option String} {reply : call.Reply}
    (hc : call.writes = false)
    (h : outcome (store call context) FaultyStore.storage w = (.ok reply, w')) :
    w.stored.store.answer call = .ok (reply, w.stored.store) ∧ w' = w := by
  obtain ⟨st, hst, hw⟩ := store_eq_ok h
  have hsame := MemoryStore.answer_of_read hc hst
  rw [hsame] at hst hw
  exact ⟨hst, hw⟩

/-- A call that is not faulted and leaves the store ends with the answer of the store. -/
theorem outcome_read (call : StoreCall) {reply : call.Reply}
    (hf : w.stored.faults.lookup call.label = none)
    (h : w.stored.store.answer call = .ok (reply, w.stored.store)) (context : Option String) :
    outcome (store call context) FaultyStore.storage w = (.ok reply, w) :=
  outcome_store_ok (FaultyStore.answer_ok hf h) context

/-- Without faults every call that leaves the store does. -/
theorem outcome_read_of_sound (hf : w.stored.faults = []) (call : StoreCall) {reply : call.Reply}
    (h : w.stored.store.answer call = .ok (reply, w.stored.store)) (context : Option String) :
    outcome (store call context) FaultyStore.storage w = (.ok reply, w) :=
  outcome_read call (FaultyStore.lookup_of_sound hf call.label) h context

theorem readOnly_store {call : StoreCall} (h : call.writes = false) (context : Option String) :
    ReadOnly FaultyStore.storage (store call context) :=
  ReadOnly.store (fun _ => FaultyStore.answer_of_read h) context

/-- A faulted call ends with its trouble. -/
theorem outcome_faulted (call : StoreCall) {fault : StoreFault}
    (hf : w.stored.faults.lookup call.label = some fault) (context : Option String) :
    outcome (store call context) FaultyStore.storage w =
      (.error (stopOf context fault.trouble), w) :=
  outcome_store_error (FaultyStore.answer_faulted hf) context

/-- Under a deadline a faulted call is told as a failure of the infrastructure. -/
theorem deadlined_stopOf (context : String) (fault : StoreFault) :
    ∃ cause, deadlined context (stopOf none fault.trouble) = .refused (.infrastructure cause) := by
  cases fault with
  | fails message => exact ⟨_, rfl⟩
  | stalls => exact ⟨_, rfl⟩

theorem require_eq_ok {α : Type} {failure : Failure} {found : Option α} {a : α}
    (h : outcome (require failure found) FaultyStore.storage w = (.ok a, w')) :
    found = some a ∧ w' = w := by
  cases found with
  | none => cases h
  | some a =>
      cases h
      exact ⟨rfl, rfl⟩

theorem inCalendar_eq_ok {α : Type} {found : Option α} {a : α}
    (h : outcome (inCalendar found) FaultyStore.storage w = (.ok a, w')) :
    found = some a ∧ w' = w := by
  cases found with
  | none => cases h
  | some a =>
      cases h
      exact ⟨rfl, rfl⟩

end Service

/-! ### The services of a login and of a refresh -/

/-- Who passes the check of a password has the address, the password and an enabled account. -/
theorem Credentials.verify_eq_ok {c : Credentials} {email password : String} {identity : Identity}
    (h : outcome (c.verify email password) FaultyStore.storage w = (.ok identity, w')) :
    w.stored.store.findByEmail (Email.normalize email) = some identity ∧
      c.hasher.verify password identity.passwordHash = true ∧ identity.enabled = true ∧ w' = w := by
  unfold verify at h
  obtain ⟨found, w₁, hfound, hchecked⟩ := bind_eq_ok.mp h
  obtain ⟨user, w₂, hrequire, hended⟩ := bind_eq_ok.mp hchecked
  obtain ⟨hanswer, hw₁⟩ := read_eq_ok rfl hfound
  obtain ⟨hfilter, hw₂⟩ := require_eq_ok hrequire
  have hread : w.stored.store.findByEmail (Email.normalize email) = found :=
    congrArg Prod.fst (Except.ok.inj hanswer)
  obtain ⟨huser, hverify⟩ := Option.filter_eq_some_iff.mp hfilter
  rw [huser] at hread hverify
  by_cases henabled : user.enabled = true
  · rw [if_pos henabled] at hended
    cases hended
    exact ⟨hread, hverify, henabled, hw₂.trans hw₁⟩
  · rw [if_neg henabled] at hended
    cases hended

theorem Sessions.outcome_prepare (l : Lifetimes) (seed : SessionSeed) (userId : Uuid)
    (client : ClientInfo) : outcome (prepare l seed userId client) FaultyStore.storage w =
      ((PendingSession.ofLogin l seed w.now userId client).elim (.error .broken) .ok, w) := by
  unfold prepare
  rw [outcome_bind_ok outcome_now, outcome_inCalendar]

theorem Sessions.prepare_eq_ok {l : Lifetimes} {seed : SessionSeed} {userId : Uuid}
    {client : ClientInfo} {pending : PendingSession}
    (h : outcome (prepare l seed userId client) FaultyStore.storage w = (.ok pending, w')) :
    PendingSession.ofLogin l seed w.now userId client = some pending ∧ w' = w := by
  unfold prepare at h
  rw [outcome_bind_ok outcome_now] at h
  exact inCalendar_eq_ok h

theorem Sessions.outcome_prepareRotation (l : Lifetimes) (seed : SessionSeed) (current : Session) :
    outcome (prepareRotation l seed current) FaultyStore.storage w =
      ((PendingSession.ofRefresh l seed w.now current).elim (.error .broken) .ok, w) := by
  unfold prepareRotation
  rw [outcome_bind_ok outcome_now, outcome_inCalendar]

theorem Sessions.prepareRotation_eq_ok {l : Lifetimes} {seed : SessionSeed} {current : Session}
    {pending : PendingSession}
    (h : outcome (prepareRotation l seed current) FaultyStore.storage w = (.ok pending, w')) :
    PendingSession.ofRefresh l seed w.now current = some pending ∧ w' = w := by
  unfold prepareRotation at h
  rw [outcome_bind_ok outcome_now] at h
  exact inCalendar_eq_ok h

theorem Resolution.resolve_of_sound (hf : w.stored.faults = []) (userId : Uuid) :
    outcome (resolve userId) FaultyStore.storage w =
      (.ok (Access.flatten (w.stored.store.roleAssignments userId)), w) := by
  unfold resolve
  rw [outcome_bind_ok (outcome_read_of_sound hf (.roleAssignments userId) rfl none)]
  rfl

theorem Resolution.resolve_eq_ok {userId : Uuid} {access : Access}
    (h : outcome (resolve userId) FaultyStore.storage w = (.ok access, w')) :
    access = Access.flatten (w.stored.store.roleAssignments userId) ∧ w' = w := by
  unfold resolve at h
  obtain ⟨assignments, w₁, hread, hended⟩ := bind_eq_ok.mp h
  obtain ⟨hanswer, hw₁⟩ := read_eq_ok rfl hread
  cases hanswer
  cases hended
  exact ⟨rfl, hw₁⟩

theorem LoginService.outcome_sign (s : LoginService) (tokenId : Uuid) (identity : Identity)
    (access : Access) : outcome (s.sign tokenId identity access) FaultyStore.storage w =
      ((Token.issue s.settings w.now tokenId identity access).elim (.error .broken) .ok, w) := by
  unfold sign
  rw [outcome_bind_ok outcome_now, outcome_inCalendar]

theorem LoginService.sign_eq_ok {s : LoginService} {tokenId : Uuid} {identity : Identity}
    {access : Access} {issued : IssuedToken}
    (h : outcome (s.sign tokenId identity access) FaultyStore.storage w = (.ok issued, w')) :
    Token.issue s.settings w.now tokenId identity access = some issued ∧ w' = w := by
  unfold sign at h
  rw [outcome_bind_ok outcome_now] at h
  exact inCalendar_eq_ok h

theorem Sessions.list_eq_ok {userId : Uuid} {device : String} {summaries : List SessionSummary}
    (h : outcome (list userId device) FaultyStore.storage w = (.ok summaries, w')) :
    summaries = (w.stored.store.listActive userId w.now).map (·.summary device) ∧ w' = w := by
  unfold list at h
  rw [outcome_bind_ok outcome_now] at h
  obtain ⟨sessions, w₁, hread, hended⟩ := bind_eq_ok.mp h
  obtain ⟨hanswer, hw₁⟩ := read_eq_ok rfl hread
  cases hanswer
  cases hended
  exact ⟨rfl, hw₁⟩

end Gatehouse
