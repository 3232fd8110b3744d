import ChatRelay.Proofs.Store.Reading

/-!
# What belongs to a user

The conversations of a user and their messages are one part of a store
(`Store.ofOwner`), and everything else is another (`Store.ofOthers`).

An operation that is about the conversations of a user is `Private`: it finds in
the part of that user all that it looks at, and leaves the other part as it is.
-/

namespace ChatRelay.Store

open Time (Instant)

/-- The conversations of a user, and their messages. -/
def ofOwner (s : Store) (owner : UserId) : Store :=
  s.without fun row => row.owner != .text owner.text

/-- The conversations of all others, and their messages. -/
def ofOthers (s : Store) (owner : UserId) : Store :=
  s.without fun row => row.owner == .text owner.text

theorem mem_ofOwner {s : Store} {owner : UserId} {row : ConversationRow} :
    row ∈ (s.ofOwner owner).conversations ↔
      row ∈ s.conversations ∧ row.owner = .text owner.text := by
  rw [ofOwner, without, List.mem_filter]
  simp

theorem mem_ofOthers {s : Store} {owner : UserId} {row : ConversationRow} :
    row ∈ (s.ofOthers owner).conversations ↔
      row ∈ s.conversations ∧ row.owner ≠ .text owner.text := by
  rw [ofOthers, without, List.mem_filter]
  simp

namespace Records

variable {r : Records} {c : Conversation} {gone gone' : Conversation → Bool}

theorem owner_beq (c : Conversation) (owner : UserId) :
    ((ConversationRow.ofConversation c).owner == .text owner.text) = (c.owner == owner) := by
  rw [ConversationRow.ofConversation, Cell.text_beq, Bool.eq_iff_iff, beq_iff_eq, beq_iff_eq]
  exact ⟨congrArg UserId.mk, congrArg UserId.text⟩

theorem ofOwner_rows (r : Records) (owner : UserId) :
    r.rows.ofOwner owner = (r.remove fun c => c.owner != owner).rows := by
  rw [ofOwner, without_rows]
  simp only [bne, owner_beq]

theorem ofOthers_rows (r : Records) (owner : UserId) :
    r.rows.ofOthers owner = (r.remove fun c => c.owner == owner).rows := by
  rw [ofOthers, without_rows]
  simp only [owner_beq]

/-! ## Operations and removal -/

theorem mem_remove : c ∈ (r.remove gone).conversations ↔ c ∈ r.conversations ∧ gone c = false := by
  rw [remove, List.mem_filter, Bool.not_eq_true']

theorem remove_congr (h : ∀ c ∈ r.conversations, gone c = gone' c) :
    r.remove gone = r.remove gone' := by
  rw [remove, remove, List.filter_congr fun c hc => congrArg not (h c hc), List.filter_congr h]

theorem remove_addConversation (h : r.Keyed) (hnew : ∀ c' ∈ r.conversations, c'.id ≠ c.id)
    (gone : Conversation → Bool) :
    (r.addConversation c).remove gone =
      if gone c then r.remove gone else (r.remove gone).addConversation c := by
  have hmessages : r.messages.filter (fun m =>
        !((r.conversations ++ [c]).filter gone).any fun c => c.id == m.conversationId) =
      r.messages.filter fun m => !(r.conversations.filter gone).any fun c =>
        c.id == m.conversationId := by
    refine List.filter_congr fun m hm => ?_
    obtain ⟨c', hc', hid⟩ := h.placed m hm
    have hne : (c.id == m.conversationId) = false :=
      beq_false_of_ne fun heq => hnew c' hc' (hid.trans heq.symm)
    cases hgone : gone c <;> simp [hgone, hne]
  simp only [remove, addConversation, hmessages]
  cases hgone : gone c <;> simp [hgone]

theorem remove_addMessage (h : r.Keyed) (hc : c ∈ r.conversations) {m : ChatMessage}
    (hid : c.id = m.conversationId) (gone : Conversation → Bool) :
    (r.addMessages [m]).remove gone =
      if gone c then r.remove gone else (r.remove gone).addMessages [m] := by
  simp only [remove, addMessages, List.filter_append, List.filter_cons, List.filter_nil,
    h.any_filter hc gone hid]
  cases gone c <;> simp

theorem remove_change (u : Update) (now : Instant) (hsame : ∀ c, gone (changed u now c) = gone c) :
    (r.change u now).remove gone = (r.remove gone).change u now := by
  simp only [remove, change, List.filter_map, List.any_map, Function.comp_def, hsame, changed_id]

/-- To take out some conversations and then others is to take out all of them. -/
theorem remove_remove (h : r.Keyed) (gone gone' : Conversation → Bool) :
    (r.remove gone').remove gone = r.remove fun c => gone' c || gone c := by
  simp only [remove, List.filter_filter, Records.mk.injEq]
  constructor
  · exact List.filter_congr fun c _ => by rw [Bool.not_or, Bool.and_comm]
  · refine List.filter_congr fun m hm => ?_
    obtain ⟨c, hc, hid⟩ := h.placed m hm
    rw [h.any_filter hc _ hid, h.any_filter hc _ hid, h.any_filter hc _ hid]
    cases gone c <;> cases gone' c <;> rfl

/-! ## Reading and removal -/

/-- What is looked for is found as before when none of it was taken out. -/
theorem select_remove {f : Filter}
    (hkept : ∀ c ∈ r.conversations, (ConversationRow.ofConversation c).fits f = true →
      gone c = false) :
    (r.remove gone).rows.select f = r.rows.select f := by
  have hfits : (r.conversations.filter fun c => !gone c).filter
        (fun c => (ConversationRow.ofConversation c).fits f) =
      r.conversations.filter fun c => (ConversationRow.ofConversation c).fits f := by
    rw [List.filter_filter]
    refine List.filter_congr fun c hc => ?_
    cases hfit : (ConversationRow.ofConversation c).fits f with
    | false => rfl
    | true => rw [hkept c hc hfit]; rfl
  simp only [select, rows, remove, List.filter_map, Function.comp_def, hfits]

theorem messagesOf_remove (h : r.Keyed) (hc : c ∈ r.conversations) (hkept : gone c = false) :
    (r.remove gone).rows.messagesOf c.id = r.rows.messagesOf c.id := by
  have hsame : ∀ c' ∈ r.conversations, c'.id = c.id → gone c' = false := fun c' hc' hid => by
    rw [h.eq_of_shared hc' hc (.inl hid), hkept]
  rw [messagesOf, messagesOf, filter_rows_messages, filter_rows_messages,
    messagesIn_remove h hsame]

theorem get_remove (h : r.Keyed) {f : Filter}
    (hkept : ∀ c ∈ r.conversations, (ConversationRow.ofConversation c).fits f = true →
      gone c = false) :
    (r.remove gone).rows.get f = r.rows.get f := by
  rw [get, get, select_remove hkept]
  cases hselect : r.rows.select f with
  | nil => rfl
  | cons row rows =>
    have hrow : row ∈ r.rows.select f := hselect ▸ List.mem_cons_self
    obtain ⟨c, hc, rfl, hfits⟩ := mem_select_rows hrow
    dsimp only
    cases hdecode : (ConversationRow.ofConversation c).decode with
    | error e => rfl
    | ok c' =>
      simp only [ok_bind]
      rw [(decode_ofConversation_ids hdecode).1, messagesOf_remove h hc (hkept c hc hfits)]

/-! ## Operations of one user -/

/-- The records hold a conversation of a user, whatever has changed about it. -/
def Holds (r : Records) (owner : UserId) (c : Conversation) : Prop :=
  ∃ c' ∈ r.conversations, c'.id = c.id ∧ c'.uid = c.uid ∧ c'.owner = owner

theorem Holds.addConversation {owner : UserId} {c : Conversation} (h : r.Holds owner c)
    (c' : Conversation) : (r.addConversation c').Holds owner c := by
  obtain ⟨d, hd, hsame⟩ := h
  exact ⟨d, List.mem_append_left _ hd, hsame⟩

theorem changed_owner (u : Update) (now : Instant) (c : Conversation) :
    (changed u now c).owner = c.owner := by
  rw [changed]
  split <;> rfl

theorem Holds.change {owner : UserId} {c : Conversation} (h : r.Holds owner c) (u : Update)
    (now : Instant) : (r.change u now).Holds owner c := by
  obtain ⟨d, hd, hid, huid, howner⟩ := h
  refine ⟨changed u now d, List.mem_map_of_mem hd, ?_⟩
  rw [changed_id, changed_uid, changed_owner]
  exact ⟨hid, huid, howner⟩

/-- An operation that makes `r'` of the records `r` is about one user alone: on the part of that
user it does what it does on the whole, and it leaves the part of all others as it is. -/
structure Private {α : Type} (owner : UserId) (f : Store → α × Store) (r r' : Records) : Prop where
  result : (f r.rows).2 = r'.rows
  keyed : r'.Keyed
  alone : f (r.rows.ofOwner owner) = ((f r.rows).1, r'.rows.ofOwner owner)
  others : r'.rows.ofOthers owner = r.rows.ofOthers owner

variable {owner : UserId}

theorem read_private {α : Type} (h : r.Keyed) {read : Store → α}
    (hread : read (r.rows.ofOwner owner) = read r.rows) :
    Private owner (fun s => (read s, s)) r r :=
  ⟨rfl, h, by rw [hread], rfl⟩

/-- A filter that names a user fits only what belongs to that user. -/
theorem owner_of_fits {f : Filter} (hf : f.owner = some owner)
    (h : (ConversationRow.ofConversation c).fits f = true) : (c.owner != owner) = false := by
  simp only [ConversationRow.fits, hf, Option.all_some, owner_beq, Bool.and_eq_true] at h
  rw [bne, h.1.2]
  rfl

theorem find_private (h : r.Keyed) {f : Filter} (hf : f.owner = some owner) :
    Private owner (fun s => (s.find f, s)) r r := by
  refine read_private h ?_
  rw [ofOwner_rows, find, find, select_remove fun c _ hfits => owner_of_fits hf hfits]

theorem get_private (h : r.Keyed) {f : Filter} (hf : f.owner = some owner) :
    Private owner (fun s => (s.get f, s)) r r := by
  refine read_private h ?_
  rw [ofOwner_rows, get_remove h fun c _ hfits => owner_of_fits hf hfits]

theorem messagesOf_private (h : r.Keyed) (hc : c ∈ r.conversations) (howner : c.owner = owner) :
    Private owner (fun s => (s.messagesOf c.id, s)) r r := by
  refine read_private h ?_
  rw [ofOwner_rows, messagesOf_remove h hc (by simp [howner])]

theorem create_private (h : r.Keyed) (owner : UserId) (title : String) (status : Status) {id : Uuid}
    {uid : String} (now : Instant) (hnew : ∀ c ∈ r.conversations, c.id ≠ id ∧ c.uid ≠ uid) :
    Private owner (·.create owner title status id uid now) r
      (r.addConversation (created owner title status id uid now)) := by
  have hcreate := create_rows owner title status now hnew
  have hid : ∀ c ∈ r.conversations, c.id ≠ (created owner title status id uid now).id :=
    fun c hc => (hnew c hc).1
  refine ⟨congrArg Prod.snd hcreate, h.addConversation hnew, ?_, ?_⟩
  · rw [ofOwner_rows, ofOwner_rows, remove_addConversation h hid,
      create_rows owner title status now fun c hc => hnew c (mem_remove.1 hc).1, hcreate]
    simp [created]
  · rw [ofOthers_rows, ofOthers_rows, remove_addConversation h hid]
    simp [created]

theorem Keyed.find?_uid (h : r.Keyed) (hc : c ∈ r.conversations) {uid : String}
    (huid : c.uid = uid) : r.conversations.find? (fun c => c.uid == uid) = some c := by
  cases hfound : r.conversations.find? fun c => c.uid == uid with
  | none =>
    have := List.find?_eq_none.1 hfound c hc
    simp [huid] at this
  | some c' =>
    have hsame := List.find?_some hfound
    rw [beq_iff_eq] at hsame
    rw [h.eq_of_shared (List.mem_of_find?_eq_some hfound) hc (.inr (hsame.trans huid.symm))]

/-- An update answers with the conversation that it is about. -/
theorem update_rows_fst (h : r.Keyed) (hc : c ∈ r.conversations) {u : Update}
    (huid : c.uid = u.uid) (now : Instant) :
    (r.rows.update u now).1 = ((ConversationRow.ofConversation c).change u now).decode := by
  rw [update]
  simp only [find?_rows, h.find?_uid hc huid, Option.map_some]

theorem update_private (h : r.Keyed) (hc : c ∈ r.conversations) (howner : c.owner = owner)
    {u : Update} (huid : c.uid = u.uid) (now : Instant) :
    Private owner (·.update u now) r (r.change u now) := by
  refine ⟨r.update_rows u now, h.change u now, ?_, ?_⟩
  · have hmine : c ∈ (r.remove fun c => c.owner != owner).conversations :=
      mem_remove.2 ⟨hc, by simp [howner]⟩
    rw [ofOwner_rows, ofOwner_rows, remove_change u now fun c => by rw [changed_owner]]
    refine Prod.ext ?_ (update_rows _ u now)
    rw [update_rows_fst h hc huid, update_rows_fst (h.remove _) hmine huid]
  · rw [ofOthers_rows, ofOthers_rows, remove_change u now fun c => by rw [changed_owner]]
    refine congrArg rows (change_of_not_mem (fun c' hc' heq => ?_) now)
    obtain ⟨hc', hother⟩ := mem_remove.1 hc'
    rw [h.eq_of_shared hc' hc (.inr (heq.trans huid.symm)), howner] at hother
    simp at hother

theorem addMessage_private (h : r.Keyed) (hc : c ∈ r.conversations) (howner : c.owner = owner)
    {m : ChatMessage} (hid : c.id = m.conversationId) {now : Instant}
    (htime : m.createdAt = now.truncate) (hnew : ∀ m' ∈ r.messages, m'.id ≠ m.id) :
    Private owner (·.addMessage m.conversationId m.role m.content m.id now) r
      (r.addMessages [m]) := by
  have hadd := addMessage_rows m now htime hnew ⟨c, hc, hid⟩
  have hmine : c ∈ (r.remove fun c => c.owner != owner).conversations :=
    mem_remove.2 ⟨hc, by simp [howner]⟩
  refine ⟨congrArg Prod.snd hadd, h.addMessage ⟨c, hc, hid⟩, ?_, ?_⟩
  · rw [ofOwner_rows, ofOwner_rows, remove_addMessage h hc hid,
      addMessage_rows m now htime (fun m' hm' => hnew m' (List.mem_filter.1 hm').1)
        ⟨c, hmine, hid⟩, hadd]
    simp [howner]
  · rw [ofOthers_rows, ofOthers_rows, remove_addMessage h hc hid]
    simp [howner]

theorem fits_byUid (c : Conversation) (uid : String) :
    (ConversationRow.ofConversation c).fits (.byUid uid) = (c.uid == uid) := by
  simp [ConversationRow.fits, ConversationRow.ofConversation, Filter.byUid]

theorem delete_private (h : r.Keyed) {uid : String}
    (howner : ∀ c ∈ r.conversations, c.uid = uid → c.owner = owner) :
    Private owner (·.delete (.byUid uid)) r (r.remove fun c => c.uid == uid) := by
  have hdelete : ∀ r : Records, r.rows.delete (.byUid uid) =
      (.ok (), (r.remove fun c => c.uid == uid).rows) := fun r => by
    refine Prod.ext rfl ((delete_rows r _).trans ?_)
    simp only [fits_byUid]
    rfl
  refine ⟨congrArg Prod.snd (hdelete r), h.remove _, ?_, ?_⟩
  · rw [ofOwner_rows, ofOwner_rows, hdelete, hdelete, remove_remove h, remove_remove h]
    simp only [Bool.or_comm]
  · rw [ofOthers_rows, ofOthers_rows, remove_remove h]
    refine congrArg rows (remove_congr fun c hc => ?_)
    cases huid : c.uid == uid with
    | false => rfl
    | true => rw [howner c hc (beq_iff_eq.1 huid), beq_self_eq_true]; rfl

end Records

end ChatRelay.Store
