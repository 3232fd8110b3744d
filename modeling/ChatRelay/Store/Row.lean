import ChatRelay.Chat.Conversation
import ChatRelay.Text.Utf8
import ChatRelay.Time.Reader

/-!
# Rows of the store

The store keeps texts and believes nothing about them: whatever stands in a row
is only checked when the row is read. A cell is a text, or bytes that are none.

* `ConversationRow.decode` and `MessageRow.decode` read a row;
* `ConversationRow.ofConversation` and `MessageRow.ofMessage` write one.
-/

namespace ChatRelay.Store

/-- Why an operation of the store failed. -/
inductive StoreError where
  | connection
  | query (detail : String)
  | notFound
  | conflict (detail : String)
  deriving DecidableEq, Repr

def StoreError.message : StoreError → String
  | .connection => "database connection error"
  | .query d => "query error: " ++ d
  | .notFound => "entity not found"
  | .conflict d => "conflict: " ++ d

/-- What a column of a row holds. -/
inductive Cell where
  | text (s : String)
  /-- Bytes that are not UTF-8. -/
  | raw (bytes : List UInt8)
  deriving DecidableEq, Repr

namespace Cell

def ofBytes (bytes : List UInt8) : Cell :=
  match Text.decodeUtf8 bytes with
  | .ok s => .text s
  | .error _ => .raw bytes

def bytes : Cell → List UInt8
  | .text s => Text.encodeUtf8 s
  | .raw bytes => bytes

/-- Whether a byte sequence comes before another, or is equal to it, in the order of bytes. -/
def bytesLe : List UInt8 → List UInt8 → Bool
  | [], _ => true
  | _ :: _, [] => false
  | a :: as, b :: bs => a < b || (a == b && bytesLe as bs)

/-- The order in which the store sorts. -/
def le (a b : Cell) : Bool := bytesLe a.bytes b.bytes

/-- The text of a cell in the column with this name. -/
def read (column : String) : Cell → Except StoreError String
  | .text s => .ok s
  | .raw bytes =>
    match Text.decodeUtf8 bytes with
    | .ok s => .ok s
    | .error f =>
      .error (.query s!"error occurred while decoding column \"{column}\": {f.message}")

end Cell

/-- The form in which the store keeps points in time. All have the same length, so that their order
as texts is their order in time. -/
def storedTime (t : Time.Instant) : String :=
  String.ofList (t.chars .micros)

/-- Reads a point in time. -/
def readTime (s : String) : Except StoreError Time.Instant :=
  (Time.Instant.ofStored s.toList).mapError fun f => .query ("invalid datetime: " ++ f.message)

/-- Reads an identifier, which `what` names. -/
def readId (what : String) (s : String) : Except StoreError Uuid :=
  (Uuid.ofText s).mapError fun f => .query s!"invalid {what}: {f.message}"

/-- A conversation as it is kept. -/
structure ConversationRow where
  id : Cell
  uid : Cell
  owner : Cell
  title : Cell
  status : Cell
  createdAt : Cell
  updatedAt : Cell
  deriving DecidableEq, Repr

/-- A message as it is kept. -/
structure MessageRow where
  id : Cell
  conversationId : Cell
  role : Cell
  content : Cell
  createdAt : Cell
  deriving DecidableEq, Repr

def ConversationRow.ofConversation (c : Conversation) : ConversationRow :=
  { id := .text c.id.text
    uid := .text c.uid
    owner := .text c.owner.text
    title := .text c.title
    status := .text c.status.name
    createdAt := .text (storedTime c.createdAt)
    updatedAt := .text (storedTime c.updatedAt) }

/-- The conversation in a row, without its messages. -/
def ConversationRow.decode (r : ConversationRow) : Except StoreError Conversation := do
  let id ← r.id.read "id"
  let uid ← r.uid.read "uid"
  let owner ← r.owner.read "owner_id"
  let title ← r.title.read "title"
  let status ← r.status.read "status"
  let createdAt ← r.createdAt.read "created_at"
  let updatedAt ← r.updatedAt.read "updated_at"
  let id ← readId "conversation id" id
  let status ← (Status.ofName status).mapError StoreError.query
  let createdAt ← readTime createdAt
  let updatedAt ← readTime updatedAt
  return { id, uid, owner := ⟨owner⟩, title, status, createdAt, updatedAt }

def MessageRow.ofMessage (m : ChatMessage) : MessageRow :=
  { id := .text m.id.text
    conversationId := .text m.conversationId.text
    role := .text m.role.name
    content := .text m.content
    createdAt := .text (storedTime m.createdAt) }

/-- The message in a row. -/
def MessageRow.decode (r : MessageRow) : Except StoreError ChatMessage := do
  let id ← r.id.read "id"
  let conversationId ← r.conversationId.read "conversation_id"
  let role ← r.role.read "role"
  let content ← r.content.read "content"
  let createdAt ← r.createdAt.read "created_at"
  let id ← readId "message id" id
  let conversationId ← readId "conversation_id" conversationId
  let role ← (Role.ofName role).mapError StoreError.query
  let createdAt ← readTime createdAt
  return { id, conversationId, role, content, createdAt }

/-- Whether a row agrees with every part of a filter that is given. -/
def ConversationRow.fits (r : ConversationRow) (f : Filter) : Bool :=
  f.id.all (fun id => r.id == .text id.text) &&
    f.uid.all (fun uid => r.uid == .text uid) &&
    f.owner.all (fun owner => r.owner == .text owner.text) &&
    f.status.all fun status => r.status == .text status.name

end ChatRelay.Store
