/-! # The release

What a running program says of itself: its name and version, and the commit it was built from. -/

namespace Gatehouse

/-- A build of the program. -/
structure Release where
  name : String := "umbral"
  version : String := "0.1.0"
  /-- The commit, or `unknown`. -/
  commit : String := "unknown"
  deriving DecidableEq, Repr

namespace Release

/-- One line on what the program is for. -/
def description : String := "Authentication, session lifecycle and permission resolution"

/-- The number of characters of a commit that tell it from others. -/
def shortLength : Nat := 7

/-- The commit, cut short if it is long. -/
def shortCommit (r : Release) : String := String.ofList (r.commit.toList.take shortLength)

/-- The release in one word, for a header: a commit that is not long is left out. -/
def headerText (r : Release) : String :=
  r.name ++ ":" ++ r.version ++ ":" ++
    (if shortLength < r.commit.utf8ByteSize then r.shortCommit else "")

end Release

end Gatehouse
