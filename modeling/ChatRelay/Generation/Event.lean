import ChatRelay.Chat.Json

/-!
# Events of a generation

What a caller is told while an answer is generated. `Event.toJson` tags every
event with its name, which is also its name on the wire.
-/

namespace ChatRelay.Generation

open Json (Decoder Fields Value)

/-- The kind of an event. -/
inductive EventKind where
  /-- The provider has begun; content follows. -/
  | modelReady
  /-- More of the visible answer. -/
  | content
  /-- The provider has finished. -/
  | outputComplete
  /-- A conversation was created for the exchange. -/
  | sessionUpdated
  /-- The conversation has its title. -/
  | titleGenerated
  /-- Everything but a late title has been told. -/
  | outputEnd
  deriving DecidableEq, Repr

/-- An event. All kinds but content may carry a message for a person. -/
inductive Event where
  | modelReady (message : Option String)
  | content (text : String)
  | outputComplete (message : Option String)
  | sessionUpdated (conversation : ConversationView) (message : Option String)
  | titleGenerated (conversation : ConversationView) (message : Option String)
  | outputEnd (message : Option String)
  deriving DecidableEq, Repr

def EventKind.name : EventKind → String
  | .modelReady => "model_ready"
  | .content => "content"
  | .outputComplete => "output_complete"
  | .sessionUpdated => "session_updated"
  | .titleGenerated => "title_generated"
  | .outputEnd => "output_end"

namespace Event

def kind : Event → EventKind
  | .modelReady _ => .modelReady
  | .content _ => .content
  | .outputComplete _ => .outputComplete
  | .sessionUpdated .. => .sessionUpdated
  | .titleGenerated .. => .titleGenerated
  | .outputEnd _ => .outputEnd

def name (e : Event) : String := e.kind.name

/-- The event with a message for a person; content has none. -/
def withMessage (e : Event) (m : String) : Event :=
  match e with
  | .modelReady _ => .modelReady (some m)
  | .content t => .content t
  | .outputComplete _ => .outputComplete (some m)
  | .sessionUpdated c _ => .sessionUpdated c (some m)
  | .titleGenerated c _ => .titleGenerated c (some m)
  | .outputEnd _ => .outputEnd (some m)

/-- What stands beside the tag. -/
def members : Event → List (String × Value)
  | .modelReady m => Json.member? "message" .text m
  | .content t => [("text", .text t)]
  | .outputComplete m => Json.member? "message" .text m
  | .sessionUpdated c m => ("conversation", c.toJson) :: Json.member? "message" .text m
  | .titleGenerated c m => ("conversation", c.toJson) :: Json.member? "message" .text m
  | .outputEnd m => Json.member? "message" .text m

def toJson (e : Event) : Value :=
  .object (("type", .text e.name) :: e.members)

/-- The message for a person. -/
def messageField : Fields (Option String) :=
  Fields.withDefault "message" Decoder.text.option none

def conversationField : Fields ConversationView :=
  Fields.required "conversation" ConversationView.decoder

def decoder : Decoder Event :=
  Json.tagged "type"
    [("model_ready", (Event.modelReady <$> messageField).decoder),
      ("content", (Event.content <$> Fields.required "text" Decoder.text).decoder),
      ("output_complete", (Event.outputComplete <$> messageField).decoder),
      ("session_updated",
        (Event.sessionUpdated <$> conversationField <*> messageField).decoder),
      ("title_generated",
        (Event.titleGenerated <$> conversationField <*> messageField).decoder),
      ("output_end", (Event.outputEnd <$> messageField).decoder)]

end Event

end ChatRelay.Generation
