import ChatRelay.Completion.Error
import ChatRelay.Completion.Message
import ChatRelay.Config.Settings
import ChatRelay.Generation.Diagnostic
import ChatRelay.Generation.Event
import ChatRelay.Store.Basic

/-!
# Programs

A service does its work by calls: to the store, to the provider, to the stream
of events of its caller and to the log of diagnostics. A `Program` makes calls
one after the other, and what it does next may depend on their answers.

Every call is one step, so that several programs can share a store by taking
turns between calls.
-/

namespace ChatRelay.Service

open Completion (ProviderError Reply Request StreamEvent)
open Generation (Diagnostic Event)
open Store (StoreError Update)

/-- What a stream of the provider yields. -/
abbrev StreamItem := Except ProviderError StreamEvent

/-- A call. -/
inductive Call where
  | createConversation (owner : UserId) (title : String) (status : Status)
  | findConversations (filter : Filter)
  | getConversation (filter : Filter)
  | updateConversation (update : Update)
  | deleteConversation (filter : Filter)
  | createMessage (conversation : Uuid) (role : Role) (content : String)
  | listMessages (conversation : Uuid)
  /-- Prepares a provider for these settings. -/
  | createProvider (settings : ResolvedSettings)
  /-- Asks for an answer as a stream. -/
  | stream (settings : ResolvedSettings) (request : Request)
  /-- Asks for a whole answer. -/
  | complete (settings : ResolvedSettings) (request : Request)
  /-- Sends an event to the caller. -/
  | deliver (event : Event)
  | report (diagnostic : Diagnostic)

/-- What a call is answered with. -/
def Call.Answer : Call → Type
  | .createConversation .. => Except StoreError Conversation
  | .findConversations _ => Except StoreError (List Conversation)
  | .getConversation _ => Except StoreError (Option Conversation)
  | .updateConversation _ => Except StoreError Conversation
  | .deleteConversation _ => Except StoreError Unit
  | .createMessage .. => Except StoreError ChatMessage
  | .listMessages _ => Except StoreError (List ChatMessage)
  | .createProvider _ => Except ProviderError Unit
  | .stream .. => List StreamItem
  | .complete .. => Except ProviderError Reply
  -- whether the caller still listens
  | .deliver _ => Bool
  | .report _ => Unit

/-- Calls one after the other, and a result. -/
inductive Program (α : Type) where
  | done (result : α)
  | call (c : Call) (next : c.Answer → Program α)

namespace Program

/-- Goes on with another program. -/
def bind (p : Program α) (f : α → Program β) : Program β :=
  match p with
  | .done a => f a
  | .call c next => .call c fun answer => (next answer).bind f

instance : Monad Program where
  pure := .done
  bind := bind

/-- A single call. -/
def perform (c : Call) : Program c.Answer := .call c .done

@[simp] theorem done_bind (a : α) (f : α → Program β) : (done a).bind f = f a := rfl

@[simp] theorem bind_done (p : Program α) : p.bind done = p := by
  induction p with
  | done a => rfl
  | call c next ih => simp [bind, ih]

theorem bind_assoc (p : Program α) (f : α → Program β) (g : β → Program γ) :
    (p.bind f).bind g = p.bind fun a => (f a).bind g := by
  induction p with
  | done a => rfl
  | call c next ih => simp [bind, ih]

instance : LawfulMonad Program :=
  LawfulMonad.mk' Program bind_done done_bind bind_assoc

end Program

end ChatRelay.Service
