import ChatRelay.Command.Invocation
import ChatRelay.Command.Output
import ChatRelay.Generation.Relay
import ChatRelay.Service.Conversations
import ChatRelay.Service.Home

/-!
# Carrying out commands

`Action.run` carries out a command on the conversations and keys that there are.
A command that fails has written something perhaps, and says why it failed. What the
log keeps is written between its lines (`Outcome.Shown`).
-/

namespace ChatRelay.Command

open Generation (Diagnostic LogLevel)
open Service (Environment Home)

/-- How a command ended. -/
structure Outcome where
  output : Output := {}
  result : Except ChatError Unit := .ok ()
  /-- The failures that were reported to the log. -/
  reports : List Diagnostic := []

namespace Outcome

/-- A command that fails before it has written anything. -/
def failed (e : ChatError) : Outcome := { result := .error e }

/-- A command that does its work and writes this. -/
def written (text : String) : Outcome := { output := { out := text } }

/-- The exit code of the program. -/
def exitCode (o : Outcome) : Nat :=
  match o.result with
  | .ok () => 0
  | .error _ => 1

/-- What a command writes, and why it failed. The records of the log are not part of it. -/
def allOutput (o : Outcome) : Output :=
  match o.result with
  | .ok () => o.output
  | .error e => o.output.append { err := failureText e }

/-- The failures that are logged, where records of some levels are kept. -/
def logged (o : Outcome) (keeps : LogLevel → Bool) : List Diagnostic :=
  o.reports.filter fun d => keeps d.kind.level

/-- What is written to standard output by a command that writes in lines: its lines in their order,
and anywhere between them the records of the log. -/
structure Shown (o : Outcome) (keeps : LogLevel → Bool) (writes : List Write) : Prop where
  lines : standardOutput (writes.filter Write.isLine) = o.allOutput.out.toList
  reports : writes.filterMap Write.report? = o.logged keeps

end Outcome

/-- Generates an answer, a title that has to be asked for included. -/
def generateAnswer (env : Environment σ) (settings : AiSettings) (json : Bool) (user : UserId)
    (session : Option String) (message : String) (h : Home σ) : Outcome × Home σ :=
  match (Generation.start settings (some user) ⟨[⟨.user, message⟩], session⟩).run env h.world with
  | (.error e, world) => (.failed e, { h with world })
  | (.ok g, world) =>
    let (result, world) := g.runToEnd.run env { world with room := none, delivered := [] }
    ({ output := answerOutput json world.delivered
       result
       reports := world.diagnostics.drop h.world.diagnostics.length }, { h with world })

/-- Shows the active conversations of a user. -/
def showSessions (env : Environment σ) (json : Bool) (user : UserId) (h : Home σ) :
    Outcome × Home σ :=
  match (Service.Conversations.list (some user)).run env h.world with
  | (.error e, world) => (.failed e, { h with world })
  | (.ok conversations, world) =>
    (.written (listText json user.text (conversations.map Conversation.view)), { h with world })

/-- Makes a key for a user out of random bytes and shows it. -/
def issueKey (env : Environment σ) (secret : List UInt8) (json : Bool) (user : UserId)
    (name : String) (h : Home σ) : Outcome × Home σ :=
  let w := h.world
  let (key, keys) := h.keys.create user name (env.ids w.idsUsed) secret (env.clock w.readings)
  (.written (keyText json key),
    { world := { w with readings := w.readings + 1, idsUsed := w.idsUsed + 1 }, keys })

/-- Where the server listens: what is given with the command comes before the configuration. -/
def listenAt (c : ServerConfig) (port : Option Nat) (host : Option String) : ServerConfig :=
  { host := host.getD c.host, port := port.getD c.port }

/-- Carries out a command. The server runs until it is told to stop. -/
def Action.run (env : Environment σ) (config : Config) (secret : List UInt8) (json : Bool)
    (h : Home σ) : Action → Outcome × Home σ
  | .serve port host =>
    (.written (serverStarted (listenAt config.server port host) ++ serverStopped), h)
  | .createKey user name => issueKey env secret json ⟨user⟩ name h
  | .ask user session message => generateAnswer env config.ai json ⟨user⟩ session message h
  | .listSessions user => showSessions env json ⟨user⟩ h

end ChatRelay.Command
