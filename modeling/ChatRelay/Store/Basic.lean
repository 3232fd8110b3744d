import ChatRelay.Store.Row

/-!
# The store

Conversations and their messages, in the order in which they were inserted.
Every operation is a function on the whole store; one that fails says why.

Times are cut to the precision that the store keeps before they are used, so
what an operation returns is what a later one reads.
-/

namespace ChatRelay

/-- The conversations and messages that are kept, in the order of insertion. -/
structure Store where
  conversations : List Store.ConversationRow := []
  messages : List Store.MessageRow := []
  deriving DecidableEq, Repr

namespace Store

/-- What is changed about a conversation. The time of its last change always is. -/
structure Update where
  uid : String
  title : Option String := none
  deriving DecidableEq, Repr

/-- The rows that fit, most recently changed first; of rows changed at the same time the one that
was inserted later comes first. -/
def select (s : Store) (f : Filter) : List ConversationRow :=
  (s.conversations.filter (·.fits f)).reverse.mergeSort fun a b => b.updatedAt.le a.updatedAt

/-- The conversations that fit, most recently changed first, without their messages. -/
def find (s : Store) (f : Filter) : Except StoreError (List Conversation) :=
  (s.select f).mapM ConversationRow.decode

/-- The messages of a conversation, oldest first. -/
def messagesOf (s : Store) (id : Uuid) : Except StoreError (List ChatMessage) :=
  ((s.messages.filter (·.conversationId == .text id.text)).mergeSort
    fun a b => a.createdAt.le b.createdAt).mapM MessageRow.decode

/-- The first conversation that fits, with its messages. -/
def get (s : Store) (f : Filter) : Except StoreError (Option Conversation) :=
  match s.select f with
  | [] => .ok none
  | row :: _ => do
    let c ← row.decode
    let messages ← s.messagesOf c.id
    return some { c with messages }

/-- Inserts a conversation as it stands, unless its identifiers are taken. -/
def insertRow? (s : Store) (row : ConversationRow) : Option Store :=
  if s.conversations.any fun r => r.id == row.id || r.uid == row.uid then none
  else some { s with conversations := s.conversations ++ [row] }

/-- Inserts a message as it stands, unless its identifier is taken or its conversation missing. -/
def insertMessageRow? (s : Store) (row : MessageRow) : Option Store :=
  if (s.messages.any fun r => r.id == row.id) ||
      !s.conversations.any fun r => r.id == row.conversationId then none
  else some { s with messages := s.messages ++ [row] }

/-- Which identifier of a new conversation is taken. The handle is looked at first. -/
def takenColumn (s : Store) (uid : String) : String :=
  if s.conversations.any fun r => r.uid == .text uid then "uid" else "id"

/-- Creates a conversation. -/
def create (s : Store) (owner : UserId) (title : String) (status : Status) (id : Uuid)
    (uid : String) (now : Time.Instant) : Except StoreError Conversation × Store :=
  let c : Conversation :=
    { id, uid, owner, title, status, createdAt := now.truncate, updatedAt := now.truncate }
  match s.insertRow? (.ofConversation c) with
  | some s => (.ok c, s)
  | none =>
    (.error (.conflict ("UNIQUE constraint failed: conversations." ++ s.takenColumn uid)), s)

/-- A row with a change. -/
def ConversationRow.change (r : ConversationRow) (u : Update) (now : Time.Instant) :
    ConversationRow :=
  { r with
    title := (u.title.map Cell.text).getD r.title
    updatedAt := .text (storedTime now.truncate) }

/-- Changes a conversation and reads it back, without its messages. What cannot be read back has
been changed all the same. -/
def update (s : Store) (u : Update) (now : Time.Instant) :
    Except StoreError Conversation × Store :=
  let isMeant (r : ConversationRow) : Bool := r.uid == .text u.uid
  match s.conversations.find? isMeant with
  | none => (.error .notFound, s)
  | some row =>
    ((row.change u now).decode,
      { s with
        conversations := s.conversations.map fun r => if isMeant r then r.change u now else r })

/-- Deletes the conversations that fit, and their messages. Something must be given to fit. -/
def delete (s : Store) (f : Filter) : Except StoreError Unit × Store :=
  if f.isEmpty then
    (.error (.query "refusing to delete conversations without a filter"), s)
  else
    let gone := s.conversations.filter (·.fits f)
    (.ok (),
      { conversations := s.conversations.filter fun r => !r.fits f
        messages := s.messages.filter fun m => !gone.any fun r => r.id == m.conversationId })

/-- Adds a message to a conversation. -/
def addMessage (s : Store) (conversationId : Uuid) (role : Role) (content : String) (id : Uuid)
    (now : Time.Instant) : Except StoreError ChatMessage × Store :=
  let m : ChatMessage := { id, conversationId, role, content, createdAt := now.truncate }
  if s.messages.any fun r => r.id == .text id.text then
    (.error (.query
      ("error returned from database: (code: 1555) " ++
        "UNIQUE constraint failed: chat_messages.id")), s)
  else
    match s.insertMessageRow? (.ofMessage m) with
    | some s => (.ok m, s)
    | none => (.error .notFound, s)

end Store

end ChatRelay
