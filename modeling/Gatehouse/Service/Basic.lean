import Gatehouse.Backend

/-! # Services

A service is a program over the backend that ends with a value or stops: it is refused with a
failure, a store call never answers, or it breaks off because an instant would leave the calendar or
a record cannot be read. Under a *deadline* a call that never answers is a failure of the
infrastructure. -/

namespace Gatehouse

/-- Why a service ends without a value. -/
inductive Stop where
  | refused (failure : Failure)
  /-- A store call never answers, and no deadline is set. -/
  | stalled
  /-- An instant leaves the calendar, or a record is not of its form. -/
  | broken
  deriving DecidableEq, Repr

/-- A program over the backend that may stop. -/
abbrev Service (α : Type) := ExceptT Stop (Program Backend) α

namespace Service

/-- A call that cannot fail. -/
def ask (op : Backend.Op) : Service (Backend.Answer op) :=
  ExceptT.lift (Program.ask (I := Backend) op)

/-- What the clock shows. -/
def now : Service Instant := ask .now

/-- The stop that trouble with the store makes. -/
def ofTrouble : Trouble → Stop
  | .failed cause => .refused (.infrastructure cause)
  | .stalled => .stalled
  | .unreadable => .broken

/-- A store call; its causes seen from further out where a context is given. -/
def store (call : StoreCall) (context : Option String := none) : Service call.Reply := do
  match ← ask (.store call) with
  | .ok reply => pure reply
  | .error (.failed cause) =>
    throw (.refused (.infrastructure (context.elim cause cause.within)))
  | .error trouble => throw (ofTrouble trouble)

/-- End with a failure. -/
def refuse {α : Type} (failure : Failure) : Service α := throw (.refused failure)

/-- The value, or a failure. -/
def require {α : Type} (failure : Failure) : Option α → Service α
  | some a => pure a
  | none => refuse failure

/-- The value of a computation that may leave the calendar. -/
def inCalendar {α : Type} : Option α → Service α
  | some a => pure a
  | none => throw .broken

/-- The result of a check of input. -/
def accept : Except Failure Unit → Service Unit
  | .ok () => pure ()
  | .error failure => refuse failure

/-- A service under a deadline, which is passed exactly if a store call never answers. -/
def withDeadline {α : Type} (context : String) (service : Service α) : Service α :=
  tryCatch service fun
    | .stalled => refuse (.infrastructure ((Cause.root "storage deadline exceeded").within context))
    | stop => throw stop

end Service

end Gatehouse
