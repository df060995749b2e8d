import Gatehouse.Database.Basic

/-! # A scripted database

A stand-in for a database that knows no SQL. It answers statements with the replies of a script, one
after the other, and once they run out with no rows; `begin` and `commit` have scripts of their own.
It keeps a trace of what it was asked: statements outside a transaction, and transactions with the
statements inside them and how they ended. -/

namespace Gatehouse.Database

/-- A line of the trace. -/
inductive Event where
  /-- A statement outside a transaction. -/
  | statement (s : Statement)
  /-- A transaction: its statements, and whether it was committed. -/
  | transaction (statements : List Statement) (committed : Bool)
  deriving DecidableEq, Repr

/-- A script, and what was asked so far. -/
structure Script where
  replies : List (Except Fault Reply) := []
  begins : List (Option Fault) := []
  commits : List (Option Fault) := []
  answersPing : Bool := true
  /-- The database refuses every connection. -/
  isClosed : Bool := false
  /-- The statements of the open transaction, the last first. -/
  openTransaction : Option (List Statement) := none
  /-- The trace, the last event first. -/
  events : List Event := []

namespace Script

/-- What happened, in order. A transaction that is still open counts as not committed. -/
def trace (s : Script) : List Event :=
  (match s.openTransaction with
    | some statements => Event.transaction statements.reverse false :: s.events
    | none => s.events).reverse

/-- The script with the open transaction ended. -/
def close (s : Script) (committed : Bool) : Script :=
  match s.openTransaction with
  | some statements =>
    { s with
      openTransaction := none, events := .transaction statements.reverse committed :: s.events }
  | none => s

/-- The script with a statement noted. -/
def note (s : Script) (statement : Statement) : Script :=
  match s.openTransaction with
  | some statements => { s with openTransaction := some (statement :: statements) }
  | none => { s with events := .statement statement :: s.events }

/-- The outcome that the head of a script of faults stands for. -/
def outcome : List (Option Fault) → Except Fault Unit
  | some fault :: _ => .error fault
  | _ => .ok ()

/-- The answers of the scripted database. -/
def handler : Handler Database Script
  | .execute statement, s =>
    if s.isClosed then (.error .closed, s)
    else
      let s := s.note statement
      match s.replies with
      | [] => (.ok .empty, s)
      | reply :: replies => (reply, { s with replies })
  | .begin, s =>
    if s.isClosed then (.error .closed, s)
    else
      let result := outcome s.begins
      let s := { s with begins := s.begins.tail }
      match result with
      | .ok () => (.ok (), { s with openTransaction := some [] })
      | .error fault => (.error fault, s)
  | .commit, s =>
    let result := outcome s.commits
    let s := { s with commits := s.commits.tail }
    (result, s.close result.isOk)
  | .rollback, s => (.ok (), s.close false)
  | .abandon, s => ((), s.close false)
  | .ping, s => (s.answersPing && !s.isClosed, s)

end Script

end Gatehouse.Database
