import Gatehouse.Store.Memory
import Gatehouse.World

/-! # A store in memory with faults

A table names store calls that do nothing: such a call fails with the text of the table, or it never
answers. All other calls reach the store. -/

namespace Gatehouse

/-- The name of a store call in a table of faults. -/
def StoreCall.label : StoreCall → String
  | rotate _ => "rotate"
  | findByTokenHash _ => "find_by_token_hash"
  | findSession _ => "find_by_id"
  | revoke .. => "revoke"
  | revokeAll .. => "revoke_all"
  | listActive .. => "list_active"
  | touch .. => "touch"
  | findByEmail _ => "find_by_email"
  | findIdentity _ => "find_identity"
  | roleAssignments _ => "role_assignments"
  | catalog => "catalog"

/-- What is wrong with a call. -/
inductive StoreFault where
  | fails (message : String)
  | stalls
  deriving DecidableEq, Repr

/-- The trouble that a fault makes. -/
def StoreFault.trouble : StoreFault → Trouble
  | fails message => .failed (.root message)
  | stalls => .stalled

/-- A store in memory and the faults of its calls, by name. -/
structure FaultyStore where
  store : MemoryStore
  faults : List (String × StoreFault) := []

namespace FaultyStore

/-- The answer to a store call under the table of faults. -/
def answer (call : StoreCall) (st : FaultyStore) : Except Trouble call.Reply × FaultyStore :=
  match st.faults.lookup call.label with
  | some fault => (.error fault.trouble, st)
  | none =>
    match st.store.answer call with
    | .ok (reply, store) => (.ok reply, { st with store })
    | .error cause => (.error (.failed cause), st)

/-- The store as a storage. -/
def storage : Storage FaultyStore := ⟨answer, fun st => (.memory, st)⟩

end FaultyStore

end Gatehouse
