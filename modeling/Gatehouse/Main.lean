import Gatehouse.Chance
import Gatehouse.Console
import Gatehouse.Database.Script
import Gatehouse.Http.Exchange
import Gatehouse.Launch
import Gatehouse.Store.Faulty
import Std.Time.DateTime.Timestamp

/-! # The program

`main` reads its arguments and its environment, launches the service and serves. A front end that
holds the connections hands requests over on standard input, one object a line, and reads responses
from standard output, where the log goes as well. The end of the input tells the service to stop.
There is no client of a database here, so every address but that of memory is refused. -/

namespace Gatehouse.Shell

/-- What the clock shows. -/
def now : IO Instant := do
  pure (.ofNanos (← Std.Time.Timestamp.now).toNanosecondsSinceUnixEpoch.toInt)

/-- Milliseconds since 1970. -/
def millis (t : Instant) : Nat := (t.nanos / 1000000).toNat

/-- Random bytes. -/
def draw (n : Nat) : IO Bytes := do pure (← IO.getRandomBytes n.toUSize).toList

/-- The variable that holds the filter of the log. -/
def filterVariable : String := "UMBRAL_LOG_FILTER"

/-- The variables that the program looks at. -/
def variableNames : List String :=
  CommandLine.Setting.all.map (·.declaration.environmentName) ++
    Exporter.variableNames ++ [filterVariable]

/-- What the program finds around it. -/
def surroundings : IO Console.Surroundings := do
  let values ← variableNames.filterMapM fun name => do pure ((← IO.getEnv name).map (name, ·))
  pure ⟨fun name => values.lookup name, (values.lookup filterVariable).getD ""⟩

/-- Print an entry of the log, if the filter lets it through. -/
def print (start : Console.Start) (e : Log.Entry) : IO Unit := do
  if start.filter.passes e then
    let time := (← now).microsText
    IO.println (if start.arguments.logJson then (e.toJson time).compact else time ++ " " ++ e.line)

/-- Hand a response over. -/
def reply (response : Http.Response) : IO Unit := do
  IO.println response.toRecord.compact
  (← IO.getStdout).flush

/-- Answer the requests on the input until it ends. A record that is no request is answered, too. -/
partial def serve (api : Http.Api) (input : IO.FS.Stream) (world : World FaultyStore) :
    IO Unit := do
  let line ← input.getLine
  unless line.isEmpty do
    let time ← now
    let fresh := Chance.fresh (millis time) (← draw Chance.idLength) (← draw Chance.tokenLength)
      (← draw Chance.idLength)
    let id := Chance.requestId (millis time) (← draw Chance.idLength)
    match Http.Request.ofRecord ((Json.ofText? line).getD .null) with
    | .error fault =>
      reply { status := 400, body := .text fault.message }
      serve api input world
    | .ok request =>
      let (result, world) :=
        (api.handle fresh id request).run.run (World.handler FaultyStore.storage)
          { world with now := time }
      reply <| match result with
        | .ok response => response
        | .error _ => { status := 500 }
      serve api input world

/-- Carry out a call of the launch. -/
def answer (start : Console.Start) : (op : Host.Op) → IO (Host.Answer op)
  | .log e => print start e
  | .connect _ => pure false
  | .database op => pure (Database.Script.handler op { isClosed := true }).1
  | .serve api (.memory store) => do
    serve api (← IO.getStdin) ⟨← now, .empty, { store }⟩
  | .serve _ .database => pure ()

/-- Run a program, each call carried out as it comes. -/
def perform {I : Interface} {α : Type} (f : (op : I.Op) → IO (I.Answer op)) : Program I α → IO α
  | .done a => pure a
  | .call op next => do perform f (next (← f op))

/-- What the launch makes of chance and of the moment. -/
def occasion : IO Occasion := do
  let ids ← (List.range (Catalog.adminOffset + 1)).mapM fun _ => draw Chance.idLength
  pure
    { catalog := Chance.catalog (ids.getD · []) (← draw Bcrypt.saltLength)
      salt := ← draw Bcrypt.saltLength, now := ← now }

/-- Launch the service. -/
def launch (start : Console.Start) : IO Console.Ending := do
  let program := Launch.execute {} (.bcrypt PasswordHasher.defaultCost) (← occasion) start.arguments
  match ← perform (answer start) program.run with
  | .ok () => pure { code := 0, errors := start.complaints }
  | .error trouble => pure (Console.failure start.complaints trouble.outermost)

/-- Say how the program ended. -/
def finish (ending : Console.Ending) : IO UInt32 := do
  ending.output.forM IO.println
  ending.errors.forM IO.eprintln
  pure ending.code.toUInt32

end Gatehouse.Shell

/-- The program. -/
def main (arguments : List String) : IO UInt32 := do
  match Gatehouse.Console.begin {} (← Gatehouse.Shell.surroundings) arguments with
  | .error ending => Gatehouse.Shell.finish ending
  | .ok start => Gatehouse.Shell.finish (← Gatehouse.Shell.launch start)
