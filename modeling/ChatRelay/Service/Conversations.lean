import ChatRelay.Chat.Error
import ChatRelay.Service.Program
import ChatRelay.Text.WhiteSpace

/-!
# Managing conversations

What a user can do with the conversations that exist: list, read, rename and
delete them. Everything but listing tells a conversation that is not there from
one that belongs to somebody else.
-/

namespace ChatRelay.Service.Conversations

open Store (StoreError)
open Program (perform)

def notAuthenticated : ChatError := ⟨.unauthenticated, "user not authenticated"⟩

def notPermitted : ChatError := ⟨.permissionDenied, "permission denied"⟩

def notFound (uid : String) : ChatError := ⟨.notFound, s!"conversation {uid} not found"⟩

/-- A failure of the store, which stood in the way of `action`. -/
def failed (action : String) (e : StoreError) : ChatError :=
  ⟨.internal, s!"failed to {action}: {e.message}"⟩

/-- The active conversations of a user, most recently changed first. -/
def list (caller : Option UserId) : Program (Except ChatError (List Conversation)) := do
  match caller with
  | none => return .error notAuthenticated
  | some owner =>
    let found ← perform (.findConversations { owner := some owner, status := some .active })
    return Except.mapError (failed "list conversations") found

/-- The conversation with a handle, if it belongs to a user. -/
def owned (owner : UserId) (uid : String) : Program (Except ChatError Conversation) := do
  match ← perform (.getConversation (.byUid uid)) with
  | .error e => return .error (failed "get conversation" e)
  | .ok none => return .error (notFound uid)
  | .ok (some c) => return if c.owner = owner then .ok c else .error notPermitted

/-- A conversation of a user, with its messages. -/
def get (caller : Option UserId) (uid : String) : Program (Except ChatError Conversation) :=
  match caller with
  | none => return .error notPermitted
  | some owner => owned owner uid

/-- Gives a conversation of a user another title, without the blanks around it. -/
def rename (caller : Option UserId) (uid title : String) :
    Program (Except ChatError Conversation) := do
  match caller with
  | none => return .error notPermitted
  | some owner =>
    let title := Text.trimText title
    if title = "" then return .error ⟨.invalidArgument, "title cannot be empty"⟩
    match ← owned owner uid with
    | .error e => return .error e
    | .ok _ =>
      let updated ← perform (.updateConversation { uid, title := some title })
      return Except.mapError (failed "update conversation") updated

/-- Deletes a conversation of a user, and its messages. -/
def delete (caller : Option UserId) (uid : String) : Program (Except ChatError Unit) := do
  match caller with
  | none => return .error notPermitted
  | some owner =>
    match ← owned owner uid with
    | .error e => return .error e
    | .ok _ =>
      let deleted ← perform (.deleteConversation (.byUid uid))
      return Except.mapError (failed "delete conversation") deleted

end ChatRelay.Service.Conversations
