import ChatRelay.Completion.Json
import ChatRelay.Generation.Event
import ChatRelay.Proofs.Chat.Json

/-!
# What is sent is read back

The JSON text of an event, of a stream event and of a conversation is read as
the value that was sent (`decodeText_toJson`). An event is an object whose first
member tells its kind; the others are those of a record of this kind.
-/

namespace ChatRelay

open Json (Decoder Fields LeftOut Reads Value decodeText maxDepth)

/-! ## Events of a generation -/

namespace Generation.Event

/-- The times of the conversation that the event shows, if it shows one, have years of four
digits. -/
def Dated : Event → Prop
  | .sessionUpdated c _ | .titleGenerated c _ => c.Dated
  | .modelReady _ | .content _ | .outputComplete _ | .outputEnd _ => True

theorem message_leftOut (m : Option String) :
    LeftOut "message" Decoder.text.option none (Json.member? "message" .text m) m := by
  cases m with
  | none => exact .absent
  | some m => exact .present ((Reads.text m).option nofun)

theorem fits_message {room : Nat} (m : Option String) :
    ∀ p ∈ Json.member? "message" Value.text m, p.2.Fits room := by
  cases m with
  | none => exact nofun
  | some m => exact List.forall_mem_singleton.2 (.text m)

theorem fits (e : Event) : e.toJson.Fits maxDepth := by
  have hmembers : ∀ p ∈ e.members, p.2.Fits 3 := by
    cases e with
    | modelReady m | outputComplete m | outputEnd m => exact fits_message m
    | content t => exact List.forall_mem_singleton.2 (.text t)
    | sessionUpdated c m | titleGenerated c m =>
      exact List.forall_mem_cons.2 ⟨c.fits, fits_message m⟩
  have hobject : e.toJson.Fits 4 := .object (List.forall_mem_cons.2 ⟨.text e.name, hmembers⟩)
  exact hobject.mono (by decide)

/-- An event with nothing but a message. -/
theorem reads_message (make : Option String → Event) (m : Option String) :
    Reads (make <$> messageField).decoder (.object (Json.member? "message" .text m)) (make m) := by
  have hmessage := message_leftOut m
  refine .record (f := make <$> messageField) (.map make (hmessage.accepts [] rfl)) ?_
  exact hmessage.nodup_names [] (by simp)

/-- An event that shows a conversation. -/
theorem reads_conversation (make : ConversationView → Option String → Event)
    {c : ConversationView} (h : c.Dated) (m : Option String) :
    Reads (make <$> conversationField <*> messageField).decoder
      (.object (("conversation", c.toJson) :: Json.member? "message" .text m)) (make c m) := by
  have hmessage := message_leftOut m
  refine .record (f := make <$> conversationField <*> messageField) (.seq (.map make ?_) ?_) ?_
  · exact .required h.reads rfl
  · exact hmessage.accepts [("conversation", c.toJson)] rfl
  · exact hmessage.nodup_names [("conversation", c.toJson)] (by simp)

theorem tag_not_mem (e : Event) : "type" ∉ e.members.map Prod.fst := by
  cases e with
  | content => simp [members]
  | modelReady m | outputComplete m | outputEnd m | sessionUpdated _ m | titleGenerated _ m =>
    cases m <;> simp [members, Json.member?]

/-- Every kind of event is read by the decoder that stands beside its name. -/
theorem Dated.source {e : Event} (h : e.Dated) : decoder {} e.toJson.source = .ok e := by
  have hfits := e.fits
  have htag := e.tag_not_mem
  cases e with
  | modelReady m => exact Json.tagged_source rfl hfits rfl htag (reads_message .modelReady m)
  | content t =>
    refine Json.tagged_source rfl hfits rfl htag (.record ?_ (by simp [members]))
    exact Fields.Accepts.map Event.content (.required (.text t) rfl)
  | outputComplete m =>
    exact Json.tagged_source rfl hfits rfl htag (reads_message .outputComplete m)
  | sessionUpdated c m =>
    exact Json.tagged_source rfl hfits rfl htag (reads_conversation .sessionUpdated h m)
  | titleGenerated c m =>
    exact Json.tagged_source rfl hfits rfl htag (reads_conversation .titleGenerated h m)
  | outputEnd m => exact Json.tagged_source rfl hfits rfl htag (reads_message .outputEnd m)

end Generation.Event

/-! ## Events of an answer -/

namespace Completion

theorem StopReason.reads (r : StopReason) : Reads decoder r.toJson r :=
  .oneOf (by cases r <;> rfl)

/-- The counts are counts of tokens. -/
structure Usage.Bounded (u : Usage) : Prop where
  input : u.inputTokens < tokenBound
  output : u.outputTokens < tokenBound

theorem Usage.Bounded.reads {u : Usage} (h : u.Bounded) : Reads Usage.decoder u.toJson u := by
  refine .record (a := u) ?_ (by simp [members])
  exact ((Fields.Accepts.required (.below h.input) rfl).map Usage.mk).seq
    (.required (.below h.output) rfl)

namespace StreamEvent

/-- The counts that the event tells, if it tells any, are counts of tokens. -/
def Bounded : StreamEvent → Prop
  | .usage u => u.Bounded
  | .connected | .textDelta _ | .messageDelta _ | .done => True

theorem Bounded.fits {e : StreamEvent} (h : e.Bounded) : e.toJson.Fits maxDepth := by
  have hobject : e.toJson.Fits 1 := by
    cases e with
    | connected | done => exact .object (List.forall_mem_singleton.2 (.text _))
    | textDelta t => exact .object (by simp [Value.Fits.text])
    | messageDelta r => exact .object (by simp [StopReason.toJson, Value.Fits.text])
    | usage u =>
      have hle : ∀ n, n < tokenBound → n ≤ Json.maxSignificand := fun n hn =>
        Nat.le_trans (Nat.le_of_lt hn) (by decide)
      have hinput : (Value.nat u.inputTokens).Fits 0 := .nat (hle _ h.input)
      have houtput : (Value.nat u.outputTokens).Fits 0 := .nat (hle _ h.output)
      exact .object (by simp [Usage.members, Value.Fits.text, hinput, houtput])
  exact hobject.mono (by decide)

/-- Every kind of event is read by the decoder that stands beside its name. -/
theorem Bounded.source {e : StreamEvent} (h : e.Bounded) :
    decoder {} e.toJson.source = .ok e := by
  have hfits := h.fits
  cases e with
  | connected => exact Json.tagged_source rfl hfits rfl nofun (.alone _ [])
  | textDelta t =>
    refine Json.tagged_source rfl hfits rfl (by simp) (.record ?_ (by simp))
    exact Fields.Accepts.map StreamEvent.textDelta (.required (.text t) rfl)
  | messageDelta r =>
    refine Json.tagged_source rfl hfits rfl (by simp) (.record ?_ (by simp))
    exact Fields.Accepts.map StreamEvent.messageDelta (.required r.reads rfl)
  | usage u =>
    refine Json.tagged_source rfl hfits rfl (by simp [Usage.members]) ?_
    exact (Usage.Bounded.reads h).map StreamEvent.usage
  | done => exact Json.tagged_source rfl hfits rfl nofun (.alone _ [])

end StreamEvent

end Completion

/-! ## Whole texts -/

open Generation (Event)
open Completion (StreamEvent)

/-- The text that is sent is read as the value that it was made from. -/
theorem decodeText_toJson :
    (∀ e : Event, e.Dated → decodeText Event.decoder e.toJson.compact = .ok e) ∧
      (∀ e : StreamEvent, e.Bounded → decodeText StreamEvent.decoder e.toJson.compact = .ok e) ∧
      (∀ c : Conversation, c.Dated → decodeText Conversation.decoder c.toJson.compact = .ok c) ∧
      ∀ c : ConversationView, c.Dated →
        decodeText ConversationView.decoder c.toJson.compact = .ok c := by
  refine ⟨fun e h => ?event, fun e h => ?streamEvent, fun c h => ?conversation, fun c h => ?view⟩
  case event => exact Json.decodeText_compact e.fits h.source
  case streamEvent => exact Json.decodeText_compact h.fits h.source
  case conversation =>
    have hfits : c.toJson.Fits maxDepth := c.fits.mono (by decide)
    exact Json.decodeText_compact hfits (h.reads {} (.inr hfits))
  case view =>
    have hfits : c.toJson.Fits maxDepth := c.fits.mono (by decide)
    exact Json.decodeText_compact hfits (h.reads {} (.inr hfits))

/-- A conversation with characters that are escaped, one that takes four bytes, and a time to the
nanosecond. -/
def oddConversation : Conversation where
  id := Uuid.ofNat 1
  uid := "c\\1"
  owner := ⟨"\u0001"⟩
  title := "\"\n\t"
  status := .archived
  createdAt := ⟨1700000000, 123456789⟩
  updatedAt := ⟨1700000000, 500000000⟩
  messages := [⟨Uuid.ofNat 2, Uuid.ofNat 1, .user, "\u0000😀", ⟨1700000000, 1000⟩⟩]

theorem decodeText_toJson_odd :
    oddConversation.Dated ∧ oddConversation.view.Dated ∧
      decodeText Conversation.decoder oddConversation.toJson.compact = .ok oddConversation ∧
      decodeText Event.decoder (Event.titleGenerated oddConversation.view none).toJson.compact =
        .ok (.titleGenerated oddConversation.view none) ∧
      decodeText ConversationView.decoder oddConversation.view.toJson.compact =
        .ok oddConversation.view ∧
      decodeText StreamEvent.decoder (StreamEvent.usage ⟨4294967295, 0⟩).toJson.compact =
        .ok (.usage ⟨4294967295, 0⟩) := by
  obtain ⟨hevent, hstreamEvent, hconversation, hconversationView⟩ := decodeText_toJson
  have hcreated : (⟨1700000000, 123456789⟩ : Time.Instant).Storable :=
    ⟨by decide, by decide, by decide⟩
  have hupdated : (⟨1700000000, 500000000⟩ : Time.Instant).Storable :=
    ⟨by decide, by decide, by decide⟩
  have hmessage : (⟨1700000000, 1000⟩ : Time.Instant).Storable :=
    ⟨by decide, by decide, by decide⟩
  have hdated : oddConversation.Dated :=
    ⟨hcreated, hupdated, List.forall_mem_singleton.2 hmessage⟩
  have hview : oddConversation.view.Dated :=
    ⟨hcreated, hupdated, List.forall_mem_singleton.2 hmessage⟩
  exact ⟨hdated, hview, hconversation _ hdated, hevent _ hview, hconversationView _ hview,
    hstreamEvent _ ⟨by decide, by decide⟩⟩

end ChatRelay
