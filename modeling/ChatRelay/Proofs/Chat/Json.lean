import ChatRelay.Chat.Json
import ChatRelay.Proofs.Json.Record
import ChatRelay.Proofs.Time.Loose
import ChatRelay.Proofs.Uuid

/-!
# Conversations are read back

Every JSON form is read as the value that it was made from (`reads`), and none
has more than three levels (`fits`). A time is written with the year in four
digits, so the times of a conversation are required to have such years
(`Conversation.Dated`).
-/

namespace ChatRelay

open Json (Decoder Fields LeftOut Reads Value)

/-! ## Names, identifiers and times -/

theorem Role.reads (r : Role) : Reads Role.decoder r.toJson r :=
  .oneOf (by cases r <;> rfl)

theorem Status.reads (s : Status) : Reads Status.decoder s.toJson s :=
  .oneOf (by cases s <;> rfl)

theorem Uuid.reads (u : Uuid) : Reads Uuid.decoder u.toJson u := by
  refine (Reads.text u.text).filterMap ?_
  rw [Uuid.ofText_text]
  rfl

theorem UserId.reads (u : UserId) : Reads UserId.decoder u.toJson u :=
  (Reads.text u.text).map UserId.mk

theorem Time.Instant.Storable.reads {t : Time.Instant} (h : t.Storable) :
    Reads Time.Instant.decoder t.toJson t :=
  (Reads.text t.text).filterMap h.ofLoose?_text

/-! ## The member for messages -/

theorem messagesMember_leftOut {α : Type} {d : Decoder α} {f : α → Value} {ms : List α}
    (h : ∀ m ∈ ms, Reads d (f m) m) :
    LeftOut "messages" (Decoder.list d) [] (messagesMember f ms) ms := by
  cases ms with
  | nil => exact .absent
  | cons m ms => exact .present (.list h)

theorem fits_messagesMember {α : Type} {room : Nat} {f : α → Value} {ms : List α}
    (h : ∀ m ∈ ms, (f m).Fits room) : ∀ p ∈ messagesMember f ms, p.2.Fits (room + 1) := by
  cases ms with
  | nil => exact nofun
  | cons m ms =>
    intro p hp
    rw [List.mem_singleton.1 hp]
    exact .list (List.forall_mem_map.2 h)

/-! ## What an owner is shown -/

namespace MessageView

theorem fits (m : MessageView) : m.toJson.Fits 1 :=
  .object (by simp [Role.toJson, Time.Instant.toJson, Value.Fits.text])

theorem reads {m : MessageView} (h : m.createdAt.Storable) : Reads decoder m.toJson m := by
  refine .record (a := m) ?_ ?_
  · exact (((Fields.Accepts.required m.role.reads rfl).map MessageView.mk).seq
      (.required (.text m.content) rfl)).seq (.required h.reads rfl)
  · simp

end MessageView

namespace ConversationView

/-- All times have years of four digits, and none lies in a leap second. -/
structure Dated (c : ConversationView) : Prop where
  createdAt : c.createdAt.Storable
  updatedAt : c.updatedAt.Storable
  messages : ∀ m ∈ c.messages, m.createdAt.Storable

theorem fits (c : ConversationView) : c.toJson.Fits 3 := by
  refine .object (List.forall_mem_append.2 ⟨?_, fits_messagesMember fun m _ => m.fits⟩)
  simp [Status.toJson, Time.Instant.toJson, Value.Fits.text]

theorem Dated.reads {c : ConversationView} (h : c.Dated) : Reads decoder c.toJson c := by
  have hmessages := messagesMember_leftOut fun m hm => MessageView.reads (h.messages m hm)
  refine .record (a := c) ?_ (hmessages.nodup_names _ (by simp))
  exact ((((((Fields.Accepts.required (.text c.uid) rfl).map ConversationView.mk).seq
    (.required (.text c.title) rfl)).seq (.required c.status.reads rfl)).seq
    (.required h.createdAt.reads rfl)).seq (.required h.updatedAt.reads rfl)).seq
    (hmessages.accepts _ rfl)

end ConversationView

/-! ## What is kept -/

namespace ChatMessage

theorem fits (m : ChatMessage) : m.toJson.Fits 1 :=
  .object (by simp [Uuid.toJson, Role.toJson, Time.Instant.toJson, Value.Fits.text])

theorem reads {m : ChatMessage} (h : m.createdAt.Storable) : Reads decoder m.toJson m := by
  refine .record (a := m) ?_ ?_
  · exact (((((Fields.Accepts.required m.id.reads rfl).map ChatMessage.mk).seq
      (.required m.conversationId.reads rfl)).seq (.required m.role.reads rfl)).seq
      (.required (.text m.content) rfl)).seq (.required h.reads rfl)
  · simp

end ChatMessage

namespace Conversation

/-- All times have years of four digits, and none lies in a leap second. -/
structure Dated (c : Conversation) : Prop where
  createdAt : c.createdAt.Storable
  updatedAt : c.updatedAt.Storable
  messages : ∀ m ∈ c.messages, m.createdAt.Storable

theorem fits (c : Conversation) : c.toJson.Fits 3 := by
  refine .object (List.forall_mem_append.2 ⟨?_, fits_messagesMember fun m _ => m.fits⟩)
  simp [Uuid.toJson, UserId.toJson, Status.toJson, Time.Instant.toJson, Value.Fits.text]

theorem Dated.reads {c : Conversation} (h : c.Dated) : Reads decoder c.toJson c := by
  have hmessages := messagesMember_leftOut fun m hm => ChatMessage.reads (h.messages m hm)
  refine .record (a := c) ?_ (hmessages.nodup_names _ (by simp))
  exact ((((((((Fields.Accepts.required c.id.reads rfl).map Conversation.mk).seq
    (.required (.text c.uid) rfl)).seq (.required c.owner.reads rfl)).seq
    (.required (.text c.title) rfl)).seq (.required c.status.reads rfl)).seq
    (.required h.createdAt.reads rfl)).seq (.required h.updatedAt.reads rfl)).seq
    (hmessages.accepts _ rfl)

end Conversation

end ChatRelay
