import Gatehouse.Proofs.Service.Run
import Gatehouse.Service.Login

/-! # The stages of a refresh

After its input is accepted a refresh goes through three stages (`refresh_eq`): it looks for the
active session of its token, it works out the successor and the access token, which only reads, and
it commits the successor, which takes the place of the session in one store call. -/

namespace Gatehouse.LoginService

open Service

/-- What a refresh has worked out when it is ready to write. -/
structure Renewal where
  pending : PendingSession
  issued : IssuedToken

/-- The successor of a session, and an access token for its identity. -/
def renewal (s : LoginService) (fresh : Fresh) (current : Session) : Service Renewal := do
  let identity ← require .unauthenticated (← store (.findIdentity current.userId))
  if !identity.enabled then refuse .inactiveUser
  let pending ← Sessions.prepareRotation s.lifetimes fresh.session current
  let access ← Resolution.resolve identity.id
  let issued ← s.sign fresh.tokenId identity access
  pure ⟨pending, issued⟩

/-- Commit a renewal. -/
def Renewal.commit (r : Renewal) : Service TokenPair := do
  let session ← Sessions.commit r.pending
  pure ⟨r.issued, r.pending.refreshToken, session.expiresAt, session.flavor⟩

theorem ite_bind {α β : Type} (c : Prop) [Decidable c] (p q : Service α) (f : α → Service β) :
    (if c then p else q) >>= f = if c then p >>= f else q >>= f := by
  by_cases h : c
  · rw [if_pos h, if_pos h]
  · rw [if_neg h, if_neg h]

theorem refresh_eq (s : LoginService) (fresh : Fresh) (token : String) :
    s.refresh fresh token = (do
      accept (Validation.refreshToken token)
      withDeadline deadlineContext do
        let current ← require .unauthenticated (← Sessions.findActiveByToken token)
        let r ← s.renewal fresh current
        r.commit) := by
  simp only [refresh, renewal, Renewal.commit, ite_bind, bind_assoc, pure_bind]

end Gatehouse.LoginService
