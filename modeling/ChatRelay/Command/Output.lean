import ChatRelay.Command.Arguments
import ChatRelay.Config.File
import ChatRelay.Generation.Diagnostic
import ChatRelay.Generation.Event
import ChatRelay.Keys.Table
import ChatRelay.Text.Boxed

/-!
# What commands write

Each command writes either for a person or, as JSON, for a program. An answer
that is generated is written as it comes: for a person its content goes to
standard output and everything else to standard error, for a program every event
is a line of standard output. The log goes to standard output as well.
-/

namespace ChatRelay.Command

open Generation (Diagnostic Event)
open Json (Value)

/-- What is written to standard output and to standard error. -/
structure Output where
  out : String := ""
  err : String := ""
  deriving DecidableEq, Repr

/-- Writes some more. -/
def Output.append (a b : Output) : Output :=
  { out := a.out ++ b.out, err := a.err ++ b.err }

/-! ## Answers -/

/-- What is written of an event for a person. -/
def eventText : Event → Output
  | .content text => { out := text }
  | .outputComplete _ => { out := "\n" }
  | .sessionUpdated c _ => { err := "  • conversation " ++ c.uid ++ "\n" }
  | .titleGenerated c _ => { err := "  title: " ++ c.title ++ "\n" }
  | .modelReady _ => {}
  | .outputEnd _ => {}

/-- The line for an event. -/
def eventLine (e : Event) : String := e.toJson.compact ++ "\n"

/-- What is written of the events of an answer. -/
def answerOutput (json : Bool) (events : List Event) : Output :=
  events.foldl (fun o e => o.append (if json then { out := eventLine e } else eventText e)) {}

/-! ## The log -/

/-- What is written to standard output at once, a line break behind it. What a record of the log
says depends on the time. -/
inductive Write where
  /-- A line of a command. -/
  | line (text : String)
  /-- The record of a failure that was reported. -/
  | report (d : Diagnostic) (text : String)
  /-- Any other record. -/
  | other (text : String)
  deriving DecidableEq, Repr

namespace Write

def text : Write → String
  | .line text | .report _ text | .other text => text

def chars (w : Write) : List Char := w.text.toList ++ ['\n']

def isLine : Write → Bool
  | .line _ => true
  | _ => false

def report? : Write → Option Diagnostic
  | .report d _ => some d
  | _ => none

end Write

/-- All that is written to standard output. -/
def standardOutput (writes : List Write) : List Char := writes.flatMap Write.chars

/-! ## Keys -/

/-- What is written of a key that has just been created. -/
def keyText (json : Bool) (k : CreatedKey) : String :=
  if json then
    (Value.object [("id", .text k.id.text), ("key", .text k.key), ("name", .text k.name),
      ("user_id", .text k.owner.text)]).indented ++ "\n"
  else
    "\n  🔑 API key for '" ++ k.owner.text ++ "' (save this -- it won't be shown again):\n\n  " ++
      k.key ++ "\n\n"

/-! ## Conversations -/

/-- How many characters of a title are shown. -/
def titleLength : Nat := 40

/-- The end of a title that is not shown in full. -/
def ellipsis : String := "..."

/-- A title, cut off if it is too long. -/
def shortTitle (title : String) : String :=
  if titleLength < title.length then
    String.ofList (title.toList.take (titleLength - ellipsis.length)) ++ ellipsis
  else title

def listHeader : List String := ["Title", "Uid", "Created", "Updated"]

/-- The row of a conversation. -/
def listRow (c : ConversationView) : List String :=
  [shortTitle c.title, c.uid, c.createdAt.minuteText, c.updatedAt.minuteText]

/-- What is written of the conversations of a user. -/
def listText (json : Bool) (user : String) (views : List ConversationView) : String :=
  if json then (Value.list (views.map ConversationView.toJson)).indented ++ "\n"
  else if views.isEmpty then
    "\n  i No conversations for '" ++ user ++ "'. Start one with: parley ask --user " ++ user ++
      " \"...\"\n\n"
  else "\n" ++ "\n".intercalate (Text.boxed listHeader (views.map listRow)) ++ "\n\n"

/-! ## The server -/

/-- Where the server listens, for those who call it. -/
def serverAddress (s : ServerConfig) : String :=
  "http://" ++ s.host ++ ":" ++ toString s.port ++ "/api/v1"

def serverStarted (s : ServerConfig) : String :=
  "  ⚡ Parley API listening on " ++ serverAddress s ++ "\n  Press Ctrl+C to stop\n"

def serverStopped : String := "\n  Server stopped.\n"

/-! ## Failures -/

/-- What is written of a command that fails. -/
def failureText (e : ChatError) : String := "Error: " ++ e.message ++ "\n"

/-! ## Usage -/

def versionText : String := "parley 0.1.0\n"

/-- What the program can do. -/
def helpText : String :=
  "Streaming LLM relay with conversation titles\n\n" ++
    "Usage: parley [OPTIONS] <COMMAND>\n\n" ++
    "Commands:\n" ++
    "  serve     Start the REST API server\n" ++
    "  key       Manage API keys\n" ++
    "  ask       Run one generation and stream the answer to the terminal\n" ++
    "  sessions  Browse conversations\n" ++
    "  help      Print this message or the help of the given subcommand(s)\n\n" ++
    "Options:\n" ++
    "      --json        Output machine-readable JSON instead of styled text\n" ++
    "      --quiet       Suppress all output except errors\n" ++
    "  -v, --verbose...  Detailed output (-v for verbose, -vv for debug/trace)\n" ++
    "      --otel        Export spans to stdout via OpenTelemetry\n" ++
    "  -h, --help        Print help\n" ++
    "  -V, --version     Print version\n"

/-- Why a command line is not carried out, for a person. -/
def usageReason : UsageError → String
  | .displayHelp | .displayVersion | .displayHelpOnMissing => ""
  | .missingSubcommand => "a command is missing"
  | .invalidSubcommand => "there is no such command"
  | .unknownArgument => "there is no such argument"
  | .invalidValue => "an argument needs a value"
  | .valueValidation => "a value has the wrong form"
  | .argumentConflict => "an argument is given more than once"
  | .missingRequiredArgument => "an argument is missing"
  | .tooManyValues => "an argument takes no value"

/-- What is written when a command line is not carried out. -/
def usageOutput : UsageError → Output
  | .displayHelp => { out := helpText }
  | .displayVersion => { out := versionText }
  | .displayHelpOnMissing => { err := helpText }
  | e => { err := "error: " ++ usageReason e ++ "\n\nFor more information, try '--help'.\n" }

end ChatRelay.Command
