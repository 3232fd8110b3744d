import ChatRelay.Proofs.Store.Rows
import ChatRelay.Proofs.Store.TimeOrder
import ChatRelay.Store.Basic

/-!
# What the rows of a store mean

`Records` are conversations and messages, and `Records.rows` the store that keeps
them. `Records.Sound` says that they are as they should be at a point in time:
every row can be read, no identifier is used twice, every message has its
conversation, and the messages are in the order of their times.

Every operation of the store is one on records, and keeps them sound. When the
clock does not go back, every store that is reached from an empty one keeps sound
records (`Reachable.records`).
-/

namespace ChatRelay

open Time (Instant)

/-- A conversation as it is kept until `now`, where the clock has some readings. -/
structure Conversation.Kept (reading : Instant → Prop) (c : Conversation) (now : Instant) :
    Prop where
  bare : c.messages = []
  created : c.createdAt.Kept reading
  updated : c.updatedAt.Kept reading
  order : c.createdAt ≤ c.updatedAt
  past : c.updatedAt ≤ now

/-- A message as it is kept until `now`. -/
structure ChatMessage.Kept (reading : Instant → Prop) (m : ChatMessage) (now : Instant) : Prop where
  created : m.createdAt.Kept reading
  past : m.createdAt ≤ now

namespace Store

/-- A store without some conversations, and without the messages of these. -/
def without (s : Store) (gone : ConversationRow → Bool) : Store :=
  { conversations := s.conversations.filter fun r => !gone r
    messages := s.messages.filter fun m =>
      !(s.conversations.filter gone).any fun r => r.id == m.conversationId }

/-- Conversations without their messages, and messages, in the order of insertion. -/
structure Records where
  conversations : List Conversation := []
  messages : List ChatMessage := []

namespace Records

/-- The store that keeps some records. -/
def rows (r : Records) : Store :=
  { conversations := r.conversations.map .ofConversation
    messages := r.messages.map .ofMessage }

/-- Records that are as they should be at the time `now`, where the clock has some readings. -/
structure Sound (reading : Instant → Prop) (r : Records) (now : Instant) : Prop where
  conversations : ∀ c ∈ r.conversations, c.Kept reading now
  distinct : r.conversations.Pairwise fun c c' => c.id ≠ c'.id ∧ c.uid ≠ c'.uid
  messages : ∀ m ∈ r.messages, m.Kept reading now
  ordered : r.messages.Pairwise fun m m' => m.id ≠ m'.id ∧ m.createdAt ≤ m'.createdAt
  placed : ∀ m ∈ r.messages, ∃ c ∈ r.conversations, c.id = m.conversationId

/-- Records in which no identifier of a conversation is used twice, and every message has its
conversation, whatever the times are. -/
structure Keyed (r : Records) : Prop where
  distinct : r.conversations.Pairwise fun c c' => c.id ≠ c'.id ∧ c.uid ≠ c'.uid
  placed : ∀ m ∈ r.messages, ∃ c ∈ r.conversations, c.id = m.conversationId

theorem Sound.keyed {reading : Instant → Prop} {r : Records} {now : Instant}
    (h : r.Sound reading now) : r.Keyed := ⟨h.distinct, h.placed⟩

/-- The records with another conversation. -/
def addConversation (r : Records) (c : Conversation) : Records :=
  { r with conversations := r.conversations ++ [c] }

/-- The records with other messages. -/
def addMessages (r : Records) (ms : List ChatMessage) : Records :=
  { r with messages := r.messages ++ ms }

/-- A conversation with a change, if it is the one that is meant. -/
def changed (u : Update) (now : Instant) (c : Conversation) : Conversation :=
  if c.uid = u.uid then { c with title := u.title.getD c.title, updatedAt := now.truncate } else c

@[simp] theorem addMessages_nil (r : Records) : r.addMessages [] = r := by
  rw [addMessages, List.append_nil]

theorem addMessages_append (r : Records) (ms ms' : List ChatMessage) :
    r.addMessages (ms ++ ms') = (r.addMessages ms).addMessages ms' := by
  simp [addMessages]

/-- The records with a change to the conversation that is meant. -/
def change (r : Records) (u : Update) (now : Instant) : Records :=
  { r with conversations := r.conversations.map (changed u now) }

/-- The records without some conversations, and without the messages of these. -/
def remove (r : Records) (gone : Conversation → Bool) : Records :=
  { conversations := r.conversations.filter fun c => !gone c
    messages := r.messages.filter fun m =>
      !(r.conversations.filter gone).any fun c => c.id == m.conversationId }

/-! ## Operations keep records sound -/

variable {reading : Instant → Prop} {r : Records} {t now : Instant}

@[simp] theorem changed_id (u : Update) (now : Instant) (c : Conversation) :
    (changed u now c).id = c.id := by
  rw [changed]
  split <;> rfl

@[simp] theorem changed_uid (u : Update) (now : Instant) (c : Conversation) :
    (changed u now c).uid = c.uid := by
  rw [changed]
  split <;> rfl

/-- What is kept until a point in time was kept by the microsecond before it. -/
theorem le_truncate {s : Instant} (h : s.Kept reading) (hle : s ≤ now) : s ≤ now.truncate := by
  rw [← h.micros]
  exact Instant.truncate_le_truncate hle

theorem Sound.empty (now : Instant) : Sound reading {} now :=
  ⟨nofun, .nil, nofun, .nil, nofun⟩

theorem Sound.mono (h : r.Sound reading t) (hle : t ≤ now) : r.Sound reading now :=
  { h with
    conversations := fun c hc => { h.conversations c hc with
      past := Instant.le_trans (h.conversations c hc).past hle }
    messages := fun m hm => { h.messages m hm with
      past := Instant.le_trans (h.messages m hm).past hle } }

theorem Keyed.addConversation {c : Conversation} (h : r.Keyed)
    (hnew : ∀ c' ∈ r.conversations, c'.id ≠ c.id ∧ c'.uid ≠ c.uid) :
    (r.addConversation c).Keyed where
  distinct := by
    refine List.pairwise_append.2 ⟨h.distinct, List.pairwise_singleton _ _, fun c' hc' d hd => ?_⟩
    rw [List.mem_singleton.1 hd]
    exact hnew c' hc'
  placed m hm := by
    obtain ⟨c', hc', hid⟩ := h.placed m hm
    exact ⟨c', List.mem_append_left _ hc', hid⟩

theorem Sound.addConversation {c : Conversation} (h : r.Sound reading now) (hc : c.Kept reading now)
    (hnew : ∀ c' ∈ r.conversations, c'.id ≠ c.id ∧ c'.uid ≠ c.uid) :
    (r.addConversation c).Sound reading now := by
  have hkeyed := h.keyed.addConversation hnew
  refine { h with
    conversations := ?_
    distinct := hkeyed.distinct
    placed := hkeyed.placed }
  intro c' hc'
  rcases List.mem_append.1 hc' with hc' | hc'
  · exact h.conversations c' hc'
  · rw [List.mem_singleton.1 hc']
    exact hc

theorem Keyed.addMessage {m : ChatMessage} (h : r.Keyed)
    (hplace : ∃ c ∈ r.conversations, c.id = m.conversationId) : (r.addMessages [m]).Keyed where
  distinct := h.distinct
  placed m' hm' := by
    rcases List.mem_append.1 hm' with hm' | hm'
    · exact h.placed m' hm'
    · rw [List.mem_singleton.1 hm']
      exact hplace

theorem Sound.addMessage {m : ChatMessage} (h : r.Sound reading t) (hnow : reading now)
    (hle : t ≤ now) (htime : m.createdAt = now.truncate) (hnew : ∀ m' ∈ r.messages, m'.id ≠ m.id)
    (hplace : ∃ c ∈ r.conversations, c.id = m.conversationId) :
    (r.addMessages [m]).Sound reading now := by
  have h := h.mono hle
  refine { h with
    messages := ?_
    ordered := ?_
    placed := (h.keyed.addMessage hplace).placed }
  · intro m' hm'
    rcases List.mem_append.1 hm' with hm' | hm'
    · exact h.messages m' hm'
    · rw [List.mem_singleton.1 hm']
      exact ⟨⟨now, hnow, htime.symm⟩, htime ▸ now.truncate_le⟩
  · refine List.pairwise_append.2 ⟨h.ordered, List.pairwise_singleton _ _, fun m' hm' d hd => ?_⟩
    rw [List.mem_singleton.1 hd]
    have hpast := le_truncate (h.messages m' hm').created (h.messages m' hm').past
    exact ⟨hnew m' hm', htime ▸ hpast⟩

theorem Keyed.change (h : r.Keyed) (u : Update) (now : Instant) : (r.change u now).Keyed where
  distinct := by
    refine List.pairwise_map.2 (h.distinct.imp fun hne => ?_)
    simpa using hne
  placed m hm := by
    obtain ⟨c, hc, hid⟩ := h.placed m hm
    exact ⟨changed u now c, List.mem_map_of_mem hc, by rw [changed_id, hid]⟩

theorem Sound.change (h : r.Sound reading t) (hnow : reading now) (hle : t ≤ now) (u : Update) :
    (r.change u now).Sound reading now := by
  have h := h.mono hle
  have hkeyed := h.keyed.change u now
  refine { h with
    conversations := ?_
    distinct := hkeyed.distinct
    placed := hkeyed.placed }
  intro c' hc'
  obtain ⟨c, hc, rfl⟩ := List.mem_map.1 hc'
  have hkept := h.conversations c hc
  rw [changed]
  split
  · exact { hkept with
      updated := ⟨now, hnow, rfl⟩
      order := le_truncate hkept.created (Instant.le_trans hkept.order hkept.past)
      past := now.truncate_le }
  · exact hkept

/-- Conversations that share an identifier or a handle are the same. -/
theorem Keyed.eq_of_shared (h : r.Keyed) {c c' : Conversation}
    (hc : c ∈ r.conversations) (hc' : c' ∈ r.conversations)
    (hshared : c.id = c'.id ∨ c.uid = c'.uid) : c = c' := by
  refine List.Pairwise.forall_of_forall_of_flip
    (R := fun c c' => c.id = c'.id ∨ c.uid = c'.uid → c = c') (fun _ _ _ => rfl)
    (h.distinct.imp ?_) (h.distinct.imp ?_) hc hc' hshared
  · exact fun hne hshared => (hshared.elim hne.1 hne.2).elim
  · exact fun hne hshared => (hshared.elim (hne.1 ·.symm) (hne.2 ·.symm)).elim

/-- Whether the conversation of a message is among some conversations is told by that
conversation. -/
theorem Keyed.any_filter (h : r.Keyed) {c : Conversation} (hc : c ∈ r.conversations)
    (gone : Conversation → Bool) {m : ChatMessage} (hid : c.id = m.conversationId) :
    ((r.conversations.filter gone).any fun c => c.id == m.conversationId) = gone c := by
  rw [Bool.eq_iff_iff, List.any_eq_true]
  constructor
  · rintro ⟨c', hc', hid'⟩
    obtain ⟨hc', hgone⟩ := List.mem_filter.1 hc'
    rwa [h.eq_of_shared hc hc' (.inl (hid.trans (beq_iff_eq.1 hid').symm))]
  · exact fun hgone => ⟨c, List.mem_filter.2 ⟨hc, hgone⟩, by rw [hid, beq_self_eq_true]⟩

theorem Keyed.remove (h : r.Keyed) (gone : Conversation → Bool) : (r.remove gone).Keyed where
  distinct := h.distinct.filter _
  placed m hm := by
    obtain ⟨hm, hkeep⟩ := List.mem_filter.1 hm
    obtain ⟨c, hc, hid⟩ := h.placed m hm
    rw [h.any_filter hc gone hid] at hkeep
    exact ⟨c, List.mem_filter.2 ⟨hc, hkeep⟩, hid⟩

theorem Sound.remove (h : r.Sound reading now) (gone : Conversation → Bool) :
    (r.remove gone).Sound reading now where
  conversations c hc := h.conversations c (List.mem_filter.1 hc).1
  distinct := (h.keyed.remove gone).distinct
  messages m hm := h.messages m (List.mem_filter.1 hm).1
  ordered := h.ordered.filter _
  placed := (h.keyed.remove gone).placed

/-! ## Operations on rows are operations on records -/

/-- The conversation that is created. -/
def created (owner : UserId) (title : String) (status : Status) (id : Uuid) (uid : String)
    (now : Instant) : Conversation :=
  { id, uid, owner, title, status, createdAt := now.truncate, updatedAt := now.truncate }

theorem created_kept (owner : UserId) (title : String) (status : Status) (id : Uuid) (uid : String)
    (hnow : reading now) : (created owner title status id uid now).Kept reading now :=
  ⟨rfl, ⟨now, hnow, rfl⟩, ⟨now, hnow, rfl⟩, Instant.le_refl _, now.truncate_le⟩

theorem create_rows (owner : UserId) (title : String) (status : Status) {id : Uuid} {uid : String}
    (now : Instant) (hnew : ∀ c ∈ r.conversations, c.id ≠ id ∧ c.uid ≠ uid) :
    r.rows.create owner title status id uid now =
      (.ok (created owner title status id uid now),
        (r.addConversation (created owner title status id uid now)).rows) := by
  have htaken : (r.rows.conversations.any fun row =>
      row.id == .text id.text || row.uid == .text uid) = false := by
    rw [rows, List.any_map, List.any_eq_false]
    intro c hc
    have := hnew c hc
    simpa [ConversationRow.ofConversation] using this
  simp only [create, insertRow?, ConversationRow.ofConversation, htaken]
  simp [created, addConversation, rows, ConversationRow.ofConversation]

theorem create_rows_taken (owner : UserId) (title : String) (status : Status) {id : Uuid}
    {uid : String} (now : Instant) (htaken : ¬ ∀ c ∈ r.conversations, c.id ≠ id ∧ c.uid ≠ uid) :
    (r.rows.create owner title status id uid now).2 = r.rows := by
  have htaken : (r.rows.conversations.any fun row =>
      row.id == .text id.text || row.uid == .text uid) = true := by
    rw [rows, List.any_map, List.any_eq_true]
    simp only [Classical.not_forall, Classical.not_and_iff_not_or_not, Classical.not_not] at htaken
    obtain ⟨c, hc, hsame⟩ := htaken
    exact ⟨c, hc, by simpa [ConversationRow.ofConversation] using hsame⟩
  simp only [create, insertRow?, ConversationRow.ofConversation, htaken, if_true]

theorem change_ofConversation (c : Conversation) (u : Update) (now : Instant) :
    (if (ConversationRow.ofConversation c).uid == .text u.uid then
        (ConversationRow.ofConversation c).change u now
      else ConversationRow.ofConversation c) = .ofConversation (changed u now c) := by
  rw [changed, ConversationRow.ofConversation, Cell.text_beq]
  simp only [beq_iff_eq]
  split
  · cases hu : u.title <;> simp [ConversationRow.change, ConversationRow.ofConversation, hu]
  · rfl

/-- A change to a conversation that is not there changes nothing. -/
theorem change_of_not_mem {u : Update} (h : ∀ c ∈ r.conversations, c.uid ≠ u.uid) (now : Instant) :
    r.change u now = r := by
  have hmap : r.conversations.map (changed u now) = r.conversations := by
    refine (List.map_congr_left fun c hc => ?_).trans (List.map_id _)
    rw [changed, if_neg (h c hc), id]
  rw [change, hmap]

/-- A change to the conversation that was added last changes no other. -/
theorem change_addConversation {u : Update} {c : Conversation}
    (hnew : ∀ c' ∈ r.conversations, c'.uid ≠ c.uid) (hu : u.uid = c.uid) (now : Instant) :
    (r.addConversation c).change u now =
      r.addConversation { c with title := u.title.getD c.title, updatedAt := now.truncate } := by
  have hold : r.conversations.map (changed u now) = r.conversations :=
    congrArg conversations (change_of_not_mem (fun c' hc' => hu ▸ hnew c' hc') now)
  simp only [change, addConversation, List.map_append, hold, List.map_singleton, changed, hu.symm,
    if_true]

theorem change_addMessages (ms : List ChatMessage) (u : Update) (now : Instant) :
    (r.addMessages ms).change u now = (r.change u now).addMessages ms := rfl

theorem find?_rows (r : Records) (uid : String) :
    (r.rows.conversations.find? fun row => row.uid == .text uid) =
      (r.conversations.find? fun c => c.uid == uid).map .ofConversation := by
  rw [rows, List.find?_map]
  congr 2
  funext c
  exact Cell.text_beq _ _

/-- Whatever an update answers, it changes the conversation that is meant. -/
theorem update_rows (r : Records) (u : Update) (now : Instant) :
    (r.rows.update u now).2 = (r.change u now).rows := by
  rw [update]
  simp only [find?_rows]
  cases hfind : r.conversations.find? fun c => c.uid == u.uid with
  | none =>
    have hnone : ∀ c ∈ r.conversations, c.uid ≠ u.uid := fun c hc => by
      simpa using List.find?_eq_none.1 hfind c hc
    rw [change_of_not_mem hnone]
    rfl
  | some c =>
    simp only [Option.map_some, rows, change, List.map_map]
    congr 2
    funext c
    exact change_ofConversation c u now

/-- To take conversations out of a store is to take them out of its records. -/
theorem without_rows (r : Records) (gone : ConversationRow → Bool) :
    r.rows.without gone = (r.remove fun c => gone (.ofConversation c)).rows := by
  have hgone : ∀ m : ChatMessage,
      ((r.rows.conversations.filter gone).any fun row =>
        row.id == (MessageRow.ofMessage m).conversationId) =
      ((r.conversations.filter fun c => gone (.ofConversation c)).any fun c =>
        c.id == m.conversationId) := fun m => by
    rw [rows, List.filter_map, List.any_map]
    simp only [Function.comp_def, ConversationRow.ofConversation, MessageRow.ofMessage,
      Cell.text_beq, Uuid.text_beq]
  have hconversations : (r.rows.conversations.filter fun row => !gone row) =
      (r.remove fun c => gone (.ofConversation c)).rows.conversations :=
    List.filter_map
  have hmessages : (r.rows.messages.filter fun m =>
      !(r.rows.conversations.filter gone).any fun row => row.id == m.conversationId) =
      (r.remove fun c => gone (.ofConversation c)).rows.messages :=
    List.filter_map.trans
      (congrArg _ (List.filter_congr fun m _ => congrArg not (hgone m)))
  exact congr (congrArg Store.mk hconversations) hmessages

theorem delete_rows (r : Records) (f : Filter) :
    (r.rows.delete f).2 =
      if f.isEmpty then r.rows
      else (r.remove fun c => (ConversationRow.ofConversation c).fits f).rows := by
  rw [delete]
  split
  · rfl
  · exact r.without_rows _

theorem any_messageId (r : Records) (id : Uuid) :
    (r.rows.messages.any fun row => row.id == .text id.text) =
      r.messages.any fun m => m.id == id := by
  simp [rows, Function.comp_def, MessageRow.ofMessage]

theorem any_conversationId (r : Records) (id : Uuid) :
    (r.rows.conversations.any fun row => row.id == .text id.text) =
      r.conversations.any fun c => c.id == id := by
  simp [rows, Function.comp_def, ConversationRow.ofConversation]

/-- A message whose identifier is new is added to a conversation that is there. -/
theorem addMessage_rows (m : ChatMessage) (now : Instant) (htime : m.createdAt = now.truncate)
    (hnew : ∀ m' ∈ r.messages, m'.id ≠ m.id)
    (hplace : ∃ c ∈ r.conversations, c.id = m.conversationId) :
    r.rows.addMessage m.conversationId m.role m.content m.id now =
      (.ok m, (r.addMessages [m]).rows) := by
  have htaken : (r.messages.any fun m' => m'.id == m.id) = false :=
    List.any_eq_false.2 fun m' hm' => by simpa using hnew m' hm'
  have hthere : (r.conversations.any fun c => c.id == m.conversationId) = true := by
    obtain ⟨c, hc, hid⟩ := hplace
    exact List.any_eq_true.2 ⟨c, hc, by simpa using hid⟩
  rw [addMessage, ← htime]
  simp only [any_messageId, htaken, insertMessageRow?, MessageRow.ofMessage, any_conversationId,
    hthere]
  simp [addMessages, rows, MessageRow.ofMessage]

/-- Otherwise nothing is added. -/
theorem addMessage_rows_refused {conversationId id : Uuid} (role : Role) (content : String)
    (now : Instant)
    (h : ¬ ((∀ m ∈ r.messages, m.id ≠ id) ∧ ∃ c ∈ r.conversations, c.id = conversationId)) :
    (r.rows.addMessage conversationId role content id now).2 = r.rows := by
  rw [addMessage]
  simp only [any_messageId]
  split
  · rfl
  · rename_i htaken
    have hnew : ∀ m ∈ r.messages, m.id ≠ id := by simpa using htaken
    have hmissing : (r.conversations.any fun c => c.id == conversationId) = false := by
      refine List.any_eq_false.2 fun c hc hid => h ⟨hnew, c, hc, by simpa using hid⟩
    simp [insertMessageRow?, MessageRow.ofMessage, any_conversationId, hmissing]

end Records

end Store

end ChatRelay
