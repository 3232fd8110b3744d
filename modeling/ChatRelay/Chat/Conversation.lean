import ChatRelay.Chat.Role
import ChatRelay.Time.Instant
import ChatRelay.Uuid

/-!
# Conversations

A conversation belongs to a user and collects messages. `ConversationView` is
what its owner is shown: no identifiers but the handle, and no owner.
-/

namespace ChatRelay

/-- The identity of a user. -/
structure UserId where
  text : String
  deriving DecidableEq, Repr

/-- A message in a conversation. -/
structure ChatMessage where
  id : Uuid
  conversationId : Uuid
  role : Role
  content : String
  createdAt : Time.Instant
  deriving DecidableEq, Repr

/-- A conversation. Its messages are only there when it was read together with them. -/
structure Conversation where
  id : Uuid
  /-- The handle by which its owner names it. -/
  uid : String
  owner : UserId
  title : String
  status : Status
  createdAt : Time.Instant
  updatedAt : Time.Instant
  messages : List ChatMessage := []
  deriving DecidableEq, Repr

/-- A message as the owner of the conversation sees it. -/
structure MessageView where
  role : Role
  content : String
  createdAt : Time.Instant
  deriving DecidableEq, Repr

/-- A conversation as its owner sees it. -/
structure ConversationView where
  uid : String
  title : String
  status : Status
  createdAt : Time.Instant
  updatedAt : Time.Instant
  messages : List MessageView := []
  deriving DecidableEq, Repr

def ChatMessage.view (m : ChatMessage) : MessageView :=
  { role := m.role, content := m.content, createdAt := m.createdAt }

def Conversation.view (c : Conversation) : ConversationView :=
  { uid := c.uid, title := c.title, status := c.status, createdAt := c.createdAt
    updatedAt := c.updatedAt, messages := c.messages.map ChatMessage.view }

/-- Which conversations are meant: those that agree with every part that is given. -/
structure Filter where
  id : Option Uuid := none
  uid : Option String := none
  owner : Option UserId := none
  status : Option Status := none
  deriving DecidableEq, Repr

/-- The conversation with a handle. -/
def Filter.byUid (uid : String) : Filter := { uid := some uid }

/-- Only what belongs to a user. -/
def Filter.ownedBy (f : Filter) (owner : UserId) : Filter := { f with owner := some owner }

/-- Nothing is given. -/
def Filter.isEmpty (f : Filter) : Bool :=
  f.id.isNone && f.uid.isNone && f.owner.isNone && f.status.isNone

end ChatRelay
