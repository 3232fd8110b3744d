import ChatRelay.Proofs.Store.Records
import Mathlib.Data.List.Basic

/-!
# One conversation of a store

A handle belongs to one conversation, whatever else the store holds. While there is
one row with a handle (`Store.rowsOf`), it is what is found by the handle
(`find_byUid`, `get_byUid`). It stays the only one through every operation, and is
changed by none but an update that means it (`rowsOf_update`).

`Store.Keeps` says of a conversation that it is still there with its title.
-/

namespace ChatRelay.Store

open Time (Instant)

/-- The rows of the conversations with a handle. -/
def rowsOf (s : Store) (uid : String) : List ConversationRow :=
  s.conversations.filter (·.uid == .text uid)

variable {s s' : Store} {uid : String} {row : ConversationRow}

theorem ConversationRow.fits_byUid (row : ConversationRow) (uid : String) :
    row.fits (.byUid uid) = (row.uid == .text uid) := by
  simp [ConversationRow.fits, Filter.byUid]

/-! ## Reading -/

theorem select_byUid (h : s.rowsOf uid = [row]) : s.select (.byUid uid) = [row] := by
  simp only [rowsOf] at h
  simp only [select, ConversationRow.fits_byUid, h, List.reverse_singleton,
    List.mergeSort_singleton]

theorem find_byUid (h : s.rowsOf uid = [row]) {c : Conversation} (hdecode : row.decode = .ok c) :
    s.find (.byUid uid) = .ok [c] := by
  rw [find, select_byUid h, List.mapM_cons, hdecode]
  rfl

theorem get_byUid (h : s.rowsOf uid = [row]) {c : Conversation} (hdecode : row.decode = .ok c) :
    s.get (.byUid uid) = (s.messagesOf c.id).map fun messages => some { c with messages } := by
  rw [get, select_byUid h]
  simp only [hdecode, ok_bind]
  cases s.messagesOf c.id <;> rfl

/-! ## Changing -/

theorem insertRow?_eq_some (h : s.insertRow? row = some s') :
    (∀ r ∈ s.conversations, r.id ≠ row.id ∧ r.uid ≠ row.uid) ∧
      s' = { s with conversations := s.conversations ++ [row] } := by
  rw [insertRow?] at h
  split at h
  · cases h
  · rename_i htaken
    cases h
    exact ⟨by simpa using htaken, rfl⟩

theorem insertMessageRow?_eq_some {row : MessageRow} (h : s.insertMessageRow? row = some s') :
    (∀ r ∈ s.messages, r.id ≠ row.id) ∧ (∃ r ∈ s.conversations, r.id = row.conversationId) ∧
      s' = { s with messages := s.messages ++ [row] } := by
  rw [insertMessageRow?] at h
  split at h
  · cases h
  · rename_i hrefused
    cases h
    simp only [Bool.or_eq_true, Bool.not_eq_true', not_or, Bool.not_eq_false, List.any_eq_true,
      beq_iff_eq] at hrefused
    exact ⟨fun r hr hid => hrefused.1 ⟨r, hr, hid⟩, hrefused.2, rfl⟩

/-- A conversation that is created is the only one with its identifier, and with its handle. -/
theorem of_create_ok {owner : UserId} {title : String} {status : Status} {id : Uuid} {now : Instant}
    {c : Conversation} (h : s.create owner title status id uid now = (.ok c, s')) :
    c = Records.created owner title status id uid now ∧
      (∀ r ∈ s.conversations, r.id ≠ .text id.text ∧ r.uid ≠ .text uid) ∧
      s' = { s with conversations := s.conversations ++ [.ofConversation c] } := by
  rw [create] at h
  split at h
  · rename_i hinsert
    cases h
    obtain ⟨hnew, rfl⟩ := insertRow?_eq_some hinsert
    exact ⟨rfl, hnew, rfl⟩
  · cases h

/-- A message that is added is the only one with its identifier, and its conversation is there. -/
theorem of_addMessage_ok {conversationId id : Uuid} {role : Role} {content : String} {now : Instant}
    {m : ChatMessage} (h : s.addMessage conversationId role content id now = (.ok m, s')) :
    m = { id, conversationId, role, content, createdAt := now.truncate } ∧
      (∀ r ∈ s.messages, r.id ≠ .text id.text) ∧
      (∃ r ∈ s.conversations, r.id = .text conversationId.text) ∧
      s' = { s with messages := s.messages ++ [.ofMessage m] } := by
  rw [addMessage] at h
  split at h
  · cases h
  · split at h
    · rename_i hinsert
      cases h
      obtain ⟨hnew, hplace, rfl⟩ := insertMessageRow?_eq_some hinsert
      exact ⟨rfl, hnew, hplace, rfl⟩
    · cases h

theorem rowsOf_insert (s : Store) (c : Conversation) (uid : String) :
    rowsOf { s with conversations := s.conversations ++ [.ofConversation c] } uid =
      s.rowsOf uid ++ if c.uid = uid then [.ofConversation c] else [] := by
  simp only [rowsOf, List.filter_append, List.filter_cons, List.filter_nil,
    ConversationRow.ofConversation, Cell.text_beq, beq_iff_eq]

theorem rowsOf_eq_nil_iff : s.rowsOf uid = [] ↔ ∀ r ∈ s.conversations, r.uid ≠ .text uid := by
  simp [rowsOf]

theorem update_snd (s : Store) (u : Update) (now : Instant) :
    (s.update u now).2 =
      { s with
        conversations := s.conversations.map fun r =>
          if r.uid == .text u.uid then r.change u now else r } := by
  rw [update]
  dsimp only
  split
  · rename_i hnone
    have hsame : (s.conversations.map fun r =>
        if r.uid == .text u.uid then r.change u now else r) = s.conversations := by
      refine (List.map_congr_left fun r hr => ?_).trans (List.map_id _)
      rw [if_neg (List.find?_eq_none.1 hnone r hr), id]
    rw [hsame]
  · rfl

/-- A store in which the conversation with a handle has another title since some point in time, and
all else is the same. -/
def retitled (s : Store) (uid title : String) (now : Instant) : Store :=
  { s with
    conversations := s.conversations.map fun row =>
      if row.uid == .text uid then
        { row with title := .text title, updatedAt := .text (storedTime now.truncate) }
      else row }

theorem update_title_snd (s : Store) (uid title : String) (now : Instant) :
    (s.update { uid, title := some title } now).2 = s.retitled uid title now :=
  s.update_snd _ now

theorem rowsOf_update (s : Store) (u : Update) (now : Instant) (uid : String) :
    (s.update u now).2.rowsOf uid =
      if u.uid = uid then (s.rowsOf uid).map (·.change u now) else s.rowsOf uid := by
  have hkeeps : ∀ r : ConversationRow,
      ((if r.uid == .text u.uid then r.change u now else r).uid == Cell.text uid) =
        (r.uid == .text uid) := fun r => by
    split <;> rfl
  rw [update_snd]
  simp only [rowsOf, List.filter_map, Function.comp_def, hkeeps]
  split
  · rename_i heq
    refine List.map_congr_left fun r hr => ?_
    rw [if_pos (heq ▸ (List.mem_filter.1 hr).2)]
  · rename_i hne
    refine (List.map_congr_left fun r hr => ?_).trans (List.map_id _)
    have huid := beq_iff_eq.1 (List.mem_filter.1 hr).2
    rw [if_neg (by simpa [huid] using Ne.symm hne), id]

theorem rowsOf_without (s : Store) (gone : ConversationRow → Bool) (uid : String) :
    (s.without gone).rowsOf uid = (s.rowsOf uid).filter fun r => !gone r := by
  rw [rowsOf, rowsOf, without, List.filter_comm]

/-! ## A conversation that is kept -/

/-- A conversation is in the store: it alone has its handle, and only the time of its last change
may be another one. -/
structure Keeps (s : Store) (c : Conversation) : Prop where
  created : c.createdAt.Kept Instant.Writable
  row : ∃ t : Instant, t.Kept Instant.Writable ∧
    s.rowsOf c.uid = [.ofConversation { c with updatedAt := t }]

variable {c : Conversation} {now : Instant}

/-- A conversation that is changed has the title of the change, if there is one. -/
theorem ConversationRow.change_ofConversation (c : Conversation) (u : Update) (now : Instant) :
    (ConversationRow.ofConversation c).change u now =
      .ofConversation { c with title := u.title.getD c.title, updatedAt := now.truncate } := by
  cases h : u.title <;> simp [ConversationRow.change, ConversationRow.ofConversation, h]

theorem find?_byUid (h : s.rowsOf uid = [row]) :
    s.conversations.find? (·.uid == .text uid) = some row := by
  rw [← List.head?_filter]
  exact congrArg List.head? h

theorem select_ownedBy (h : s.rowsOf uid = [row]) (owner : UserId) :
    s.select ((Filter.byUid uid).ownedBy owner) = [row].filter (·.owner == .text owner.text) := by
  have hfits : ∀ r : ConversationRow, r.fits ((Filter.byUid uid).ownedBy owner) =
      ((r.owner == .text owner.text) && (r.uid == .text uid)) := fun r => by
    simp [ConversationRow.fits, Filter.byUid, Filter.ownedBy, Bool.and_comm]
  have hfilter : s.conversations.filter (·.fits ((Filter.byUid uid).ownedBy owner)) =
      [row].filter (·.owner == .text owner.text) := by
    rw [← h, rowsOf, List.filter_filter]
    simp only [hfits]
  rw [select, hfilter, List.filter_singleton]
  cases row.owner == .text owner.text <;> simp

/-- What is read of a conversation that is kept has its handle and its title. -/
theorem Keeps.of_get (h : s.Keeps c) {owner : UserId} {found : Conversation}
    (hget : s.get ((Filter.byUid c.uid).ownedBy owner) = .ok (some found)) :
    found.uid = c.uid ∧ found.title = c.title := by
  obtain ⟨t, ht, hrow⟩ := h.row
  have hdecode := decode_ofConversation (c := { c with updatedAt := t }) h.created ht
  rw [get, select_ownedBy hrow, List.filter_singleton] at hget
  cases hmine : (ConversationRow.ofConversation { c with updatedAt := t }).owner ==
      .text owner.text with
  | false =>
    rw [hmine] at hget
    cases hget
  | true =>
    simp only [hmine, cond_true, hdecode, ok_bind] at hget
    cases hmessages : s.messagesOf c.id with
    | error e =>
      rw [hmessages] at hget
      cases hget
    | ok messages =>
      rw [hmessages] at hget
      cases hget
      exact ⟨rfl, rfl⟩

/-- An update of a conversation that is kept succeeds, and the conversation is kept with the title
of the update. -/
theorem Keeps.update (h : s.Keeps c) (hnow : now.Writable) (title : Option String) :
    (∃ c', (s.update { uid := c.uid, title } now).1 = .ok c' ∧ c'.uid = c.uid ∧
      c'.title = title.getD c.title) ∧
    (s.update { uid := c.uid, title } now).2.Keeps { c with title := title.getD c.title } := by
  obtain ⟨t, ht, hrow⟩ := h.row
  have hkept : now.truncate.Kept Instant.Writable := ⟨now, hnow, rfl⟩
  have hchanged : (s.update { uid := c.uid, title } now).1 =
      .ok { c with title := title.getD c.title, updatedAt := now.truncate, messages := [] } := by
    simp only [Store.update, find?_byUid hrow, ConversationRow.change_ofConversation]
    exact decode_ofConversation h.created hkept
  refine ⟨⟨_, hchanged, rfl, rfl⟩, h.created, now.truncate, hkept, ?_⟩
  · rw [rowsOf_update, if_pos rfl, hrow, List.map_singleton, ConversationRow.change_ofConversation]

end ChatRelay.Store
