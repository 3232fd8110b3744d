import ChatRelay.Chat.Role

/-!
# Requests to a provider and its answers

A provider is sent the messages of a conversation. It answers with one reply,
or with a stream of events as the answer is written.
-/

namespace ChatRelay.Completion

/-- A message of a conversation as a provider sees it. -/
structure Message where
  role : Role
  content : String
  deriving DecidableEq, Repr

/-- What a provider is asked for. -/
structure Request where
  model : String
  messages : List Message
  /-- The provider decides when there is no bound. -/
  maxTokens : Option Nat := none
  temperature : Option Float := none
  stream : Bool := false

/-- Why a provider stopped writing. -/
inductive StopReason where
  | endTurn
  | maxTokens
  | stopSequence
  | contentFilter
  deriving DecidableEq, Repr

/-- How many tokens a request took. -/
structure Usage where
  inputTokens : Nat := 0
  outputTokens : Nat := 0
  deriving DecidableEq, Repr

/-- A whole answer. -/
structure Reply where
  id : String
  content : String
  model : String
  stopReason : StopReason
  usage : Usage
  deriving DecidableEq, Repr

/-- What happens while an answer is written. -/
inductive StreamEvent where
  /-- The provider has accepted the request. -/
  | connected
  /-- More of the answer. -/
  | textDelta (text : String)
  /-- The answer comes to an end. -/
  | messageDelta (reason : StopReason)
  | usage (usage : Usage)
  /-- Nothing more comes. -/
  | done
  deriving DecidableEq, Repr

end ChatRelay.Completion
