import ChatRelay.Service.Program
import ChatRelay.Text.WhiteSpace
import ChatRelay.Title.Normal
import ChatRelay.Title.Scanner

/-!
# Titles on request

The provider is told to put a title behind its first answer (`instruction`).
When it does not, a `TitleJob` asks for one after the caller has been served.
It stores the title before it tells the caller, and reports whatever fails.
-/

namespace ChatRelay.Generation

open Completion (Message Request)
open Service (Program)
open Service.Program (perform)

/-- What the provider of a new conversation is told first. -/
def instruction : String :=
  "Answer the user's message normally. After your complete answer, add exactly two line " ++
    "breaks, then write " ++ Title.marker ++ " followed by a concise 2-6 word title for this " ++
    "conversation. Do not put the title in quotes."

/-- How long a title may get that was asked for. -/
def titleMaxTokens : Nat := 20

def titleTemperature : Float := 0.3

def titlePrompt : String :=
  "Generate a concise 2-5 word title for this conversation based on the first exchange. " ++
    "Return ONLY the title text, without quotes or punctuation around it."

def titleQuestion : String := "Based on our exchange above, generate a title."

/-- The request for a title after the first exchange. -/
def titleRequest (model firstUserMessage answer : String) : Request :=
  { model
    messages :=
      [⟨.system, titlePrompt⟩, ⟨.user, firstUserMessage⟩, ⟨.assistant, answer⟩,
        ⟨.user, titleQuestion⟩]
    maxTokens := some titleMaxTokens
    temperature := some titleTemperature
    stream := false }

/-- The search for a title of a new conversation. -/
structure TitleJob where
  settings : ResolvedSettings
  uid : String
  firstUserMessage : String
  answer : String
  deriving DecidableEq, Repr

/-- Reports a failure that concerns a conversation. -/
def reportFor (uid : String) (kind : DiagnosticKind) (detail : String) : Program Unit :=
  perform (.report { kind, uid := some uid, detail })

/-- Asks for a title, stores it and tells the caller. -/
def TitleJob.run (job : TitleJob) : Program Unit := do
  let request := titleRequest job.settings.model job.firstUserMessage job.answer
  match ← perform (.complete job.settings request) with
  | .error e =>
    reportFor job.uid .titleRequestFailed ("failed to generate title: " ++ e.message)
  | .ok reply =>
    if Text.isBlank reply.content then
      reportFor job.uid .titleEmpty "title generation returned an empty response"
    else
      let title := Title.normalizeTitle reply.content
      match ← perform (.updateConversation { uid := job.uid, title := some title }) with
      | .error e =>
        reportFor job.uid .titlePersistFailed
          ("failed to update conversation title: " ++ e.message)
      | .ok conversation =>
        let event := Event.titleGenerated conversation.view (some "Title generated")
        let heard : Bool ← perform (.deliver event)
        if heard then return ()
        else
          reportFor job.uid .titleDeliveryFailed "failed to deliver title: event stream closed"

/-- Does the job that is left, if there is one. -/
def TitleJob.runLeft : Option TitleJob → Program Unit
  | none => return ()
  | some job => job.run

end ChatRelay.Generation
