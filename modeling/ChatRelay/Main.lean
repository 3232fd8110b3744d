import ChatRelay.Command.Run
import ChatRelay.Service.Remote
import Std.Time.DateTime.Timestamp

/-!
# The program

The program carries out one command with an empty store. Its settings come from
the environment. It has no sockets: no endpoint answers it, and its server is only
announced. It keeps no log.
-/

namespace ChatRelay.Command

open Service (Environment Endpoint)

/-- The number that bytes make up, the highest one first. -/
def numberOf (bytes : List UInt8) : Nat :=
  bytes.foldl (fun n b => n * 256 + b.toNat) 0

/-- Identifiers of the seventh version: a time in milliseconds, then random bits. -/
def identifiers (millis random : Nat) (n : Nat) : Uuid :=
  let low := (random + n) % Nat.pow 2 62
  .ofNat (millis % Nat.pow 2 48 * Nat.pow 2 80 + 7 * Nat.pow 2 76 +
    random / Nat.pow 2 62 % Nat.pow 2 12 * Nat.pow 2 64 + Nat.pow 2 63 + low)

/-- The readings of a clock that starts at a point in time, a microsecond apart. -/
def readings (start : Time.Instant) (n : Nat) : Time.Instant :=
  let nanos := start.nanos + 1000 * n
  ⟨start.seconds + (nanos / Time.nanosPerSecond : Nat), nanos % Time.nanosPerSecond⟩

/-- The time, identifiers and provider of the program. -/
def environment : IO (Environment Endpoint) := do
  let nanos := (← Std.Time.Timestamp.now).toNanosecondsSinceUnixEpoch.toInt
  let random := numberOf (← IO.getRandomBytes 10).toList
  return {
    clock := readings ⟨nanos / Time.nanosPerSecond, (nanos % Time.nanosPerSecond).toNat⟩
    ids := identifiers (nanos / 1000000).toNat random
    provider := Service.remote }

/-- The configuration with the settings that the environment gives. -/
def configuration : IO Config := do
  let baseUrl ← IO.getEnv Config.baseUrlVariable
  let apiKey ← IO.getEnv Config.apiKeyVariable
  let model ← IO.getEnv Config.modelVariable
  return (Config.ofFile none).override fun name =>
    [(Config.baseUrlVariable, baseUrl), (Config.apiKeyVariable, apiKey),
      (Config.modelVariable, model)].lookup name |>.join

/-- Writes to standard output and to standard error. -/
def Output.write (o : Output) : IO Unit := do
  IO.print o.out
  IO.eprint o.err

/-- Announces the server until standard input ends. -/
def serveUntilEnd (s : ServerConfig) : IO UInt32 := do
  IO.print (serverStarted s)
  (← IO.getStdout).flush
  let stdin ← IO.getStdin
  repeat
    if (← stdin.getLine).isEmpty then break
  IO.print serverStopped
  return 0

/-- Carries out a command line; the exit code. -/
def runArguments (args : List String) : IO UInt32 := do
  match Invocation.ofArguments args with
  | .error e =>
    (usageOutput e).write
    return e.exitCode.toUInt32
  | .ok i =>
    let config ← configuration
    match i.action with
    | .serve port host => serveUntilEnd (listenAt config.server port host)
    | action =>
      let secret := (← IO.getRandomBytes 32).toList
      let (o, _) := action.run (← environment) config secret i.json { world := { provider := {} } }
      o.allOutput.write
      return o.exitCode.toUInt32

end ChatRelay.Command

/-- The program `parley`. -/
def main (args : List String) : IO UInt32 :=
  ChatRelay.Command.runArguments args
