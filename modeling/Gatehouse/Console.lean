import Gatehouse.CommandLine.Invocation
import Gatehouse.Exporter
import Gatehouse.Log.Filter
import Gatehouse.Release

/-! # The program on a console

What the program does before it launches the service: it reads its command line, answers a call for
help or for its version, and sets up its log and the exporter of traces. -/

namespace Gatehouse.Console

/-- What the program finds around it. -/
structure Surroundings where
  /-- The values of variables. -/
  environment : String → Option String
  /-- The filter of the log, as it is written. -/
  logFilter : String

/-- A program that has ended. -/
structure Ending where
  code : Nat
  output : List String := []
  errors : List String := []
  deriving DecidableEq, Repr

/-- A program that goes on to launch the service. -/
structure Start where
  arguments : CommandLine.Arguments
  filter : Log.Filter
  /-- What is wrong with the filter as it is written. -/
  complaints : List String

/-- The program after a failure. -/
def failure (complaints : List String) (message : String) : Ending :=
  { code := 1, errors := complaints ++ ["Error: " ++ message] }

/-- The program after it gave up in the middle of its work. What it says then begins with an empty
line. -/
def collapse (complaints : List String) : Ending := { code := 101, errors := complaints ++ [""] }

/-- The version of the program. -/
def version (release : Release) (withCommit : Bool) : String :=
  release.name ++ " " ++ release.version ++ (if withCommit then " - " ++ release.commit else "")

/-- Begin: go on to the launch, or end at once. -/
def begin (release : Release) (around : Surroundings) (words : List String) : Except Ending Start :=
  match CommandLine.Invocation.ofWords around.environment words with
  | .error e => .error { code := 2, errors := ["error: " ++ e.message] }
  | .ok .help => .error { code := 0, output := [Release.description] }
  | .ok (.version withCommit) => .error { code := 0, output := [version release withCommit] }
  | .ok (.run arguments) =>
    match Log.Filter.ofText (.ofVerbosity arguments.verbosity) around.logFilter with
    | .error complaints => .error (collapse complaints)
    | .ok (filter, complaints) =>
      match Exporter.check around.environment with
      | .error fault => .error (failure complaints fault.message)
      | .ok () =>
        if Exporter.hasQueue around.environment then .ok ⟨arguments, filter, complaints⟩
        else .error (collapse complaints)

end Gatehouse.Console
