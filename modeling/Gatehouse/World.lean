import Gatehouse.Backend
import Gatehouse.Blacklist

/-! # A world to run services in

A clock that moves only when told to, a list of refused tokens, and a storage. A storage answers
store calls from a state of its own; the state is memory in one case and a database in another. -/

namespace Gatehouse

/-- A way to answer store calls from a state. -/
structure Storage (σ : Type) where
  answer (call : StoreCall) : σ → Except Trouble call.Reply × σ
  health : σ → StorageHealth × σ

/-- A storage with another in front of it, which answers as long as its state is there. -/
def Storage.behind {σ τ : Type} (back : Storage σ) (front : Storage τ) :
    Storage (σ × Option τ) where
  answer call
    | (s, none) => let (reply, s) := back.answer call s; (reply, s, none)
    | (s, some t) => let (reply, t) := front.answer call t; (reply, s, some t)
  health
    | (s, none) => let (health, s) := back.health s; (health, s, none)
    | (s, some t) => let (health, t) := front.health t; (health, s, some t)

/-- A clock, refused tokens, and the state of a storage. -/
structure World (σ : Type) where
  now : Instant
  blacklist : Blacklist
  stored : σ

namespace World

variable {σ : Type}

/-- The answers to the calls of the services. -/
def handler (storage : Storage σ) : Handler Backend (World σ)
  | .now, w => (w.now, w)
  | .store call, w =>
    let (answer, stored) := storage.answer call w.stored
    (answer, { w with stored })
  | .refuse tokenId expiresAt now, w =>
    ((), { w with blacklist := w.blacklist.revoke tokenId expiresAt now })
  | .isRefused tokenId now, w => (w.blacklist.isRevoked tokenId now, w)
  | .health, w =>
    let (health, stored) := storage.health w.stored
    (health, { w with stored })

end World

end Gatehouse
