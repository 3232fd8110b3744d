import ChatRelay.Command.Arguments

/-!
# Commands of the program

What a command line asks for. A switch that every command has may be given to
any command of the path; where several were given it, the last one decides.
-/

namespace ChatRelay.Command

/-- What is to be done. -/
inductive Action where
  /-- Serves requests; the configuration decides what is not given. -/
  | serve (port : Option Nat) (host : Option String)
  /-- Creates a key for a user. -/
  | createKey (user name : String)
  /-- Generates one answer. -/
  | ask (user : String) (session : Option String) (message : String)
  /-- Lists the conversations of a user. -/
  | listSessions (user : String)
  deriving DecidableEq, Repr

/-- A command line. -/
structure Invocation where
  /-- Output is for programs. -/
  json : Bool
  quiet : Bool
  verbose : Nat
  /-- Traces are written to standard output. -/
  otel : Bool
  action : Action
  deriving DecidableEq, Repr

/-- The label of a key that is given none. -/
def defaultKeyName : String := "default"

/-- The number of a port whose text is valid. -/
def portNumber (s : String) : Nat :=
  (s.toList.filter Char.isDigit).foldl (fun n c => n * 10 + (c.toNat - 48)) 0

/-- How often a switch was given to the last command that was given it. -/
def CommandLine.count (l : CommandLine) (name : String) : Nat :=
  ((l.given.filterMap fun g => g.counts.lookup name).getLast?).getD 0

/-- A value that the last command was given. -/
def CommandLine.value? (l : CommandLine) (name : String) : Option String :=
  l.given.getLast?.bind fun g => g.values.lookup name

/-- What the last command is to do. -/
def CommandLine.action? (l : CommandLine) : Option Action :=
  match l.node with
  | .serve => some (.serve ((l.value? "port").map portNumber) (l.value? "host"))
  | .keyCreate => do
    return .createKey (← l.value? "user") ((l.value? "name").getD defaultKeyName)
  | .ask => do return .ask (← l.value? "user") (l.value? "session") (← l.value? "message")
  | .sessionsList => do return .listSessions (← l.value? "user")
  | _ => none

/-- Reads a command line without the name of the program. -/
def Invocation.ofArguments (args : List String) : Except UsageError Invocation := do
  let line ← Level.read { node := .root } args
  match line.action? with
  | none => .error .missingSubcommand
  | some action =>
    return {
      json := 0 < line.count "json"
      quiet := 0 < line.count "quiet"
      verbose := line.count "verbose"
      otel := 0 < line.count "otel"
      action }

end ChatRelay.Command
