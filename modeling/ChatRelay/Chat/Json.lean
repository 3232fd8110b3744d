import ChatRelay.Chat.Conversation
import ChatRelay.Json.Decoder
import ChatRelay.Time.Reader

/-!
# The JSON forms of conversations

Every type has a `toJson` and a `decoder` of the same form. An empty list of
messages is left out.
-/

namespace ChatRelay

open Json (Decoder Fields Value)

def Time.Instant.toJson (t : Time.Instant) : Value := .text t.text

def Time.Instant.decoder : Decoder Time.Instant :=
  Decoder.filterMap Decoder.text Time.Instant.ofLoose?

def Uuid.toJson (u : Uuid) : Value := .text u.text

def Uuid.decoder : Decoder Uuid :=
  Decoder.filterMap Decoder.text fun s => (Uuid.ofText s).toOption

def UserId.toJson (u : UserId) : Value := .text u.text

def UserId.decoder : Decoder UserId := fun ctx s => (Decoder.text ctx s).map UserId.mk

/-- The member for a list that is left out when it is empty. -/
def messagesMember (f : α → Value) : List α → List (String × Value)
  | [] => []
  | ms => [("messages", .list (ms.map f))]

def MessageView.toJson (m : MessageView) : Value :=
  .object [("role", m.role.toJson), ("content", .text m.content),
    ("created_at", m.createdAt.toJson)]

def MessageView.decoder : Decoder MessageView :=
  (MessageView.mk <$> Fields.required "role" Role.decoder
    <*> Fields.required "content" Decoder.text
    <*> Fields.required "created_at" Time.Instant.decoder).decoder

def ConversationView.toJson (c : ConversationView) : Value :=
  .object
    ([("uid", .text c.uid), ("title", .text c.title), ("status", c.status.toJson),
      ("created_at", c.createdAt.toJson), ("updated_at", c.updatedAt.toJson)] ++
      messagesMember MessageView.toJson c.messages)

def ConversationView.decoder : Decoder ConversationView :=
  (ConversationView.mk <$> Fields.required "uid" Decoder.text
    <*> Fields.required "title" Decoder.text
    <*> Fields.required "status" Status.decoder
    <*> Fields.required "created_at" Time.Instant.decoder
    <*> Fields.required "updated_at" Time.Instant.decoder
    <*> Fields.withDefault "messages" (Decoder.list MessageView.decoder) []).decoder

def ChatMessage.toJson (m : ChatMessage) : Value :=
  .object [("id", m.id.toJson), ("conversation_id", m.conversationId.toJson),
    ("role", m.role.toJson), ("content", .text m.content), ("created_at", m.createdAt.toJson)]

def ChatMessage.decoder : Decoder ChatMessage :=
  (ChatMessage.mk <$> Fields.required "id" Uuid.decoder
    <*> Fields.required "conversation_id" Uuid.decoder
    <*> Fields.required "role" Role.decoder
    <*> Fields.required "content" Decoder.text
    <*> Fields.required "created_at" Time.Instant.decoder).decoder

def Conversation.toJson (c : Conversation) : Value :=
  .object
    ([("id", c.id.toJson), ("uid", .text c.uid), ("owner", c.owner.toJson),
      ("title", .text c.title), ("status", c.status.toJson), ("created_at", c.createdAt.toJson),
      ("updated_at", c.updatedAt.toJson)] ++
      messagesMember ChatMessage.toJson c.messages)

def Conversation.decoder : Decoder Conversation :=
  (Conversation.mk <$> Fields.required "id" Uuid.decoder
    <*> Fields.required "uid" Decoder.text
    <*> Fields.required "owner" UserId.decoder
    <*> Fields.required "title" Decoder.text
    <*> Fields.required "status" Status.decoder
    <*> Fields.required "created_at" Time.Instant.decoder
    <*> Fields.required "updated_at" Time.Instant.decoder
    <*> Fields.withDefault "messages" (Decoder.list ChatMessage.decoder) []).decoder

end ChatRelay
