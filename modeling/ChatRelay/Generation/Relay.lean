import ChatRelay.Generation.Classify
import ChatRelay.Generation.TitleJob
import ChatRelay.Service.Conversations

/-!
# Generating an answer

`start` checks a request and opens the provider's stream; until then the caller
is told nothing. `Opened.run` passes the visible answer on as it comes, keeps the
exchange when it is complete, and settles the title of a new conversation.

The events come in this order: the provider is ready, content, the answer is
complete, perhaps the new conversation, perhaps its title, the end. Failures to
keep the exchange are reported but not told to the caller. A title that has to be
asked for is left to a `TitleJob`, which the caller may not live to see.
-/

namespace ChatRelay.Generation

open Completion (Message Request StreamEvent)
open Service (Program StreamItem)
open Service.Program (perform)
open Title (Scanner)

/-- What a caller asks for. -/
structure GenerationRequest where
  /-- The messages of the caller, at least one. -/
  messages : List Message
  /-- The conversation that goes on; a new one begins without it. -/
  uid : Option String := none
  deriving DecidableEq, Repr

/-- A generation whose provider has begun to answer. -/
structure Opened where
  settings : ResolvedSettings
  owner : UserId
  inputs : List Message
  /-- The conversation that goes on. -/
  existing : Option Conversation
  /-- What the provider's stream has yet to yield. -/
  items : List StreamItem

def noMessages : ChatError := ⟨.invalidArgument, "at least one message is required"⟩

/-- The conversation that a request goes on with. -/
def findExisting (owner : UserId) :
    Option String → Program (Except ChatError (Option Conversation))
  | none => return .ok none
  | some uid => do
    match ← perform (.getConversation ((Filter.byUid uid).ownedBy owner)) with
    | .error e => return .error (Service.Conversations.failed "get conversation" e)
    | .ok none => return .error (Service.Conversations.notFound uid)
    | .ok (some c) => return .ok (some c)

/-- What the provider is sent: a new conversation begins with the instruction. -/
def outbound (isNew : Bool) (inputs : List Message) : List Message :=
  if isNew then ⟨.system, instruction⟩ :: inputs else inputs

/-- The stream is open once it has yielded something. What is left of it, unless it opened with a
failure. -/
def openingOf : List StreamItem → Except ChatError (List StreamItem)
  | [] => .ok []
  | .ok .connected :: items => .ok items
  | .ok event :: items => .ok (.ok event :: items)
  | .error e :: _ => .error (setupError e)

/-- Asks the provider for an answer. -/
def openStream (settings : ResolvedSettings) (owner : UserId) (inputs : List Message)
    (existing : Option Conversation) : Program (Except ChatError Opened) := do
  match ← perform (.createProvider settings) with
  | .error e => return .error (setupError e)
  | .ok () =>
    let request : Request :=
      { model := settings.model, messages := outbound existing.isNone inputs, stream := true }
    let items ← perform (.stream settings request)
    return (openingOf items).map fun items => { settings, owner, inputs, existing, items }

/-- Checks a request and opens the provider's stream. -/
def start (settings : AiSettings) (caller : Option UserId) (request : GenerationRequest) :
    Program (Except ChatError Opened) := do
  match caller with
  | none => return .error Service.Conversations.notAuthenticated
  | some owner =>
    if request.messages = [] then return .error noMessages
    match settings.resolve with
    | .error e => return .error e
    | .ok settings =>
      match ← findExisting owner request.uid with
      | .error e => return .error e
      | .ok existing => openStream settings owner request.messages existing

def notHeard : ChatError := ⟨.internal, "failed to send response to client"⟩

/-- Tells the caller of an event. -/
def send (e : Event) : Program (Except ChatError Unit) := do
  let heard : Bool ← perform (.deliver e)
  return if heard then .ok () else .error notHeard

/-- Tells the caller of more of the visible answer, if there is more. -/
def sendVisible : Option String → Program (Except ChatError Unit)
  | none => return .ok ()
  | some text => send (.content text)

/-- Passes the stream on to the caller; the scanner has then read the whole answer. -/
def relay (scanner : Scanner) : List StreamItem → Program (Except ChatError Scanner)
  | [] => return .ok scanner
  | .error e :: _ => return .error (streamError e)
  | .ok (.textDelta text) :: items => do
    let (scanner, step) := scanner.consume text
    match ← sendVisible step.visible with
    | .error e => return .error e
    | .ok () => relay scanner items
  | .ok _ :: items => relay scanner items

namespace Opened

/-- Adds a message to a conversation, or reports that it could not be kept. -/
def keepMessage (c : Conversation) (role : Role) (what content : String) : Program Unit := do
  match ← perform (.createMessage c.id role content) with
  | .ok _ => return ()
  | .error e =>
    reportFor c.uid .messagePersistFailed s!"failed to save {what} message: {e.message}"

/-- Adds the messages of the user, in order. -/
def keepInputs (c : Conversation) : List Message → Program Unit
  | [] => return ()
  | m :: ms => do
    if m.role = .user then keepMessage c .user "user" m.content
    keepInputs c ms

/-- Adds the messages of the user and the answer to a conversation, which counts as changed. Each
step is taken whatever became of those before. -/
def keepExchange (g : Opened) (c : Conversation) (content : String) : Program Unit := do
  keepInputs c g.inputs
  keepMessage c .assistant "assistant" content
  match ← perform (.updateConversation { uid := c.uid }) with
  | .ok _ => return ()
  | .error e =>
    reportFor c.uid .conversationTouchFailed
      ("failed to update conversation timestamp: " ++ e.message)

/-- Creates a conversation for the exchange, or reports that it could not be created. -/
def createConversation (g : Opened) (title : Option String) : Program (Option Conversation) := do
  match ← perform (.createConversation g.owner (title.getD Title.placeholder) .active) with
  | .ok c => return some c
  | .error e =>
    perform (.report
      { kind := .conversationCreateFailed
        detail := "failed to create conversation: " ++ e.message })
    return none

/-- A conversation as the caller sees it, with its messages if it can be read back. -/
def loadView (g : Opened) (c : Conversation) : Program ConversationView := do
  match ← perform (.getConversation ((Filter.byUid c.uid).ownedBy g.owner)) with
  | .ok (some c) => return c.view
  | _ => return c.view

/-- The search for a title of a new conversation. -/
def titleJob (g : Opened) (c : Conversation) (content : String) : TitleJob :=
  { settings := g.settings
    uid := c.uid
    firstUserMessage := ((g.inputs.find? fun m => m.role == .user).map (·.content)).getD ""
    answer := content }

/-- Tells the caller of a new conversation, and of its title if the answer had one. -/
def announce (view : ConversationView) (title : Option String) :
    Program (Except ChatError Unit) := do
  match ← send (.sessionUpdated view (some "Session created")) with
  | .error e => return .error e
  | .ok () =>
    match title with
    | none => return .ok ()
    | some _ => send (.titleGenerated view (some "Title generated"))

/-- Keeps the exchange of a complete answer and tells the caller. -/
def settle (g : Opened) (scanner : Scanner) :
    Program (Except ChatError Unit × Option TitleJob) := do
  let content := scanner.visibleContent
  match g.existing with
  | some c =>
    g.keepExchange c content
    return (← send (.outputEnd none), none)
  | none =>
    match ← g.createConversation scanner.title? with
    | none => return (← send (.outputEnd none), none)
    | some c =>
      g.keepExchange c content
      let job := if scanner.title?.isNone then some (g.titleJob c content) else none
      let view ← g.loadView c
      match ← announce view scanner.title? with
      | .error e => return (.error e, job)
      | .ok () => return (← send (.outputEnd none), job)

/-- Passes the answer on to the caller up to the event that it is complete. -/
def pass (g : Opened) : Program (Except ChatError Scanner) := do
  match ← send (.modelReady none) with
  | .error e => return .error e
  | .ok () =>
    match ← relay {} g.items with
    | .error e => return .error e
    | .ok scanner =>
      let (scanner, step) := scanner.finish
      match ← sendVisible step.visible with
      | .error e => return .error e
      | .ok () => return (← send (.outputComplete none)).map fun _ => scanner

/-- Passes the answer on to the caller and keeps the exchange. The title of a new conversation may
be left to a job. -/
def run (g : Opened) : Program (Except ChatError Unit × Option TitleJob) := do
  match ← g.pass with
  | .error e => return (.error e, none)
  | .ok scanner =>
    if scanner.raw = [] then return (← send (.outputEnd none), none)
    else g.settle scanner

/-- Passes the answer on and keeps the exchange, and does a job that is left as well. -/
def runToEnd (g : Opened) : Program (Except ChatError Unit) := do
  let (result, job) ← g.run
  TitleJob.runLeft job
  return result

end Opened

/-- Checks a request and answers it. The title of a new conversation may be left to a job. -/
def generate (settings : AiSettings) (caller : Option UserId) (request : GenerationRequest) :
    Program (Except ChatError Unit × Option TitleJob) := do
  match ← start settings caller request with
  | .error e => return (.error e, none)
  | .ok g => g.run

end ChatRelay.Generation
