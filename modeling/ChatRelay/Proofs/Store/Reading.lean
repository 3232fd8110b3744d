import ChatRelay.Proofs.Store.Records

/-!
# Reading sound records

When the readings of the clock can be stored, what is read of a store is what it
keeps: the messages of a conversation in the order in which they were inserted
(`Sound.messagesOf_rows`), and a conversation with its messages (`Sound.get_rows`).
-/

namespace ChatRelay.Store

open Time (Instant)

theorem select_eq_nil_iff (s : Store) (f : Filter) :
    s.select f = [] ↔ ∀ row ∈ s.conversations, row.fits f = false := by
  rw [← List.length_eq_zero_iff, select, List.length_mergeSort, List.length_reverse,
    List.length_eq_zero_iff, List.filter_eq_nil_iff]
  simp only [Bool.not_eq_true]

namespace Records

variable {r : Records} {now : Instant}

theorem mapM_decode {α β γ : Type} {f : α → γ} {g : γ → Except StoreError β} {h : α → β}
    {l : List α} (hall : ∀ a ∈ l, g (f a) = .ok (h a)) : (l.map f).mapM g = .ok (l.map h) := by
  induction l with
  | nil => rfl
  | cons a l ih =>
    rw [List.map_cons, List.mapM_cons, hall a List.mem_cons_self,
      ih fun b hb => hall b (List.mem_cons_of_mem _ hb)]
    rfl

/-- The messages of a conversation, in the order of insertion. -/
def messagesIn (r : Records) (id : Uuid) : List ChatMessage :=
  r.messages.filter fun m => m.conversationId == id

theorem filter_rows_messages (r : Records) (id : Uuid) :
    (r.rows.messages.filter fun row => row.conversationId == .text id.text) =
      (r.messagesIn id).map .ofMessage := by
  rw [rows, List.filter_map]
  simp only [Function.comp_def, MessageRow.ofMessage, Cell.text_beq, Uuid.text_beq, messagesIn]

/-- The messages of a conversation are read in the order in which they were inserted. -/
theorem Sound.messagesOf_rows (h : r.Sound Instant.Storable now) (id : Uuid) :
    r.rows.messagesOf id = .ok (r.messages.filter fun m => m.conversationId == id) := by
  have hkept : ∀ m ∈ r.messagesIn id, m.createdAt.Kept Instant.Writable :=
    fun m hm => (h.messages m (List.mem_filter.1 hm).1).created.toWritable
  have hsorted : ((r.messagesIn id).map MessageRow.ofMessage).Pairwise
      fun a b => a.createdAt.le b.createdAt = true := by
    refine List.pairwise_map.2 ((h.ordered.filter _).imp_of_mem fun {m m'} hm hm' hle => ?_)
    have hm := hkept m hm
    have hm' := hkept m' hm'
    refine (storedTime_le_iff hm.writable hm'.writable).2 ?_
    rw [hm.micros, hm'.micros]
    exact hle.2
  rw [messagesOf, filter_rows_messages, List.mergeSort_of_pairwise hsorted,
    mapM_decode fun m hm => decode_ofMessage (hkept m hm)]
  exact congrArg Except.ok (List.map_id _)

theorem messagesIn_eq_nil (h : r.Keyed) {id : Uuid} (hid : ∀ c ∈ r.conversations, c.id ≠ id) :
    r.messagesIn id = [] := by
  refine List.filter_eq_nil_iff.2 fun m hm heq => ?_
  obtain ⟨c, hc, hplace⟩ := h.placed m hm
  exact hid c hc (hplace.trans (beq_iff_eq.1 heq))

/-- What is taken out takes none of the messages of a conversation along that stays. -/
theorem messagesIn_remove (h : r.Keyed) {gone : Conversation → Bool} {id : Uuid}
    (hkept : ∀ c ∈ r.conversations, c.id = id → gone c = false) :
    (r.remove gone).messagesIn id = r.messagesIn id := by
  rw [messagesIn, messagesIn, remove, List.filter_filter]
  refine List.filter_congr fun m hm => ?_
  cases hid : m.conversationId == id with
  | false => rfl
  | true =>
    obtain ⟨c, hc, hplace⟩ := h.placed m hm
    rw [h.any_filter hc gone hplace, hkept c hc (hplace.trans (beq_iff_eq.1 hid))]
    rfl

/-- Where no two elements have a property, the first that has it is the only one. -/
theorem filter_eq_find? {α : Type} {p : α → Bool} {l : List α}
    (h : l.Pairwise fun a b => ¬ (p a = true ∧ p b = true)) : l.filter p = (l.find? p).toList := by
  induction l with
  | nil => rfl
  | cons a l ih =>
    obtain ⟨ha, hl⟩ := List.pairwise_cons.1 h
    cases hp : p a with
    | false =>
      rw [List.filter_cons_of_neg (by simp [hp]), List.find?_cons_of_neg (by simp [hp]), ih hl]
    | true =>
      have hnone : l.filter p = [] := List.filter_eq_nil_iff.2 fun b hb hpb => ha b hb ⟨hp, hpb⟩
      rw [List.filter_cons_of_pos hp, List.find?_cons_of_pos hp, hnone, Option.toList_some]

/-- A conversation with its messages. -/
def withMessages (r : Records) (c : Conversation) : Conversation :=
  { c with messages := r.messages.filter fun m => m.conversationId == c.id }

theorem fits_ownedBy (c : Conversation) (uid : String) (owner : UserId) :
    (ConversationRow.ofConversation c).fits ((Filter.byUid uid).ownedBy owner) =
      (c.uid == uid && c.owner == owner) := by
  have howner : (c.owner.text == owner.text) = (c.owner == owner) := by
    rw [Bool.eq_iff_iff, beq_iff_eq, beq_iff_eq]
    exact ⟨congrArg UserId.mk, congrArg UserId.text⟩
  simp [ConversationRow.fits, ConversationRow.ofConversation, Filter.byUid, Filter.ownedBy, howner]

/-- A conversation is found by its handle and its owner, with its messages. -/
theorem Sound.get_rows (h : r.Sound Instant.Storable now) (uid : String) (owner : UserId) :
    r.rows.get ((Filter.byUid uid).ownedBy owner) =
      .ok ((r.conversations.find? fun c => c.uid == uid && c.owner == owner).map
        r.withMessages) := by
  have hone : r.conversations.Pairwise fun c c' =>
      ¬ ((c.uid == uid && c.owner == owner) = true ∧ (c'.uid == uid && c'.owner == owner) = true) :=
    h.distinct.imp fun hne hboth => by
      simp only [Bool.and_eq_true, beq_iff_eq] at hboth
      exact hne.2 (hboth.1.1.trans hboth.2.1.symm)
  have hselect : r.rows.select ((Filter.byUid uid).ownedBy owner) =
      ((r.conversations.find? fun c => c.uid == uid && c.owner == owner).toList.map
        .ofConversation) := by
    rw [select, rows, List.filter_map]
    simp only [Function.comp_def, fits_ownedBy, filter_eq_find? hone]
    cases r.conversations.find? fun c => c.uid == uid && c.owner == owner <;> simp
  rw [get, hselect]
  cases hfind : r.conversations.find? fun c => c.uid == uid && c.owner == owner with
  | none => rfl
  | some c =>
    have hkept := h.conversations c (List.mem_of_find?_eq_some hfind)
    have hdecode := decode_ofConversation hkept.created.toWritable hkept.updated.toWritable
    simp only [Option.toList_some, List.map_cons, List.map_nil, hdecode, ok_bind]
    rw [h.messagesOf_rows]
    rfl

theorem Sound.get_rows_of_mem (h : r.Sound Instant.Storable now) {c : Conversation}
    (hc : c ∈ r.conversations) :
    r.rows.get ((Filter.byUid c.uid).ownedBy c.owner) = .ok (some (r.withMessages c)) := by
  rw [h.get_rows]
  cases hfind : r.conversations.find? fun c' => c'.uid == c.uid && c'.owner == c.owner with
  | none =>
    have := List.find?_eq_none.1 hfind c hc
    simp at this
  | some c' =>
    have hsame := List.find?_some hfind
    simp only [Bool.and_eq_true, beq_iff_eq] at hsame
    rw [h.keyed.eq_of_shared (List.mem_of_find?_eq_some hfind) hc (.inr hsame.1)]
    rfl

/-- A conversation that is created in an empty store can be read. -/
theorem get_created (owner : UserId) (title : String) (status : Status) (id : Uuid) (uid : String)
    {now : Instant} (hnow : now.Storable) :
    (({} : Store).create owner title status id uid now).2.get ((Filter.byUid uid).ownedBy owner) =
      .ok (some (created owner title status id uid now)) := by
  have hsound := (Sound.empty now).addConversation (created_kept owner title status id uid hnow)
    nofun
  have hcreate : (({} : Store).create owner title status id uid now).2 =
      (addConversation {} (created owner title status id uid now)).rows :=
    congrArg Prod.snd (create_rows (r := {}) owner title status now nofun)
  rw [hcreate]
  exact hsound.get_rows_of_mem (List.mem_singleton.2 rfl)

/-! ## What a row gives away -/

theorem bind_eq_ok {ε α β : Type} {x : Except ε α} {f : α → Except ε β} {b : β}
    (h : x >>= f = .ok b) : ∃ a, x = .ok a ∧ f a = .ok b := by
  cases x with
  | error e => cases h
  | ok a => exact ⟨a, rfl, h⟩

/-- Whatever the times in a row are, a conversation that is read has the identifiers and the owner
of the one that was written. -/
theorem decode_ofConversation_ids {c c' : Conversation}
    (h : (ConversationRow.ofConversation c).decode = .ok c') :
    c'.id = c.id ∧ c'.uid = c.uid ∧ c'.owner = c.owner := by
  simp only [ConversationRow.decode, ConversationRow.ofConversation, Cell.read, readId_text,
    ok_bind] at h
  obtain ⟨status, -, h⟩ := bind_eq_ok h
  obtain ⟨createdAt, -, h⟩ := bind_eq_ok h
  obtain ⟨updatedAt, -, h⟩ := bind_eq_ok h
  cases h
  exact ⟨rfl, rfl, rfl⟩

theorem mem_select_rows {f : Filter} {row : ConversationRow} (h : row ∈ r.rows.select f) :
    ∃ c ∈ r.conversations, row = .ofConversation c ∧
      (ConversationRow.ofConversation c).fits f = true := by
  rw [select, List.mem_mergeSort, List.mem_reverse, List.mem_filter] at h
  obtain ⟨c, hc, rfl⟩ := List.mem_map.1 h.1
  exact ⟨c, hc, rfl, h.2⟩

/-- A conversation that is found is one of the records that fit. -/
theorem of_get_rows {f : Filter} {c : Conversation} (h : r.rows.get f = .ok (some c)) :
    ∃ c' ∈ r.conversations, (ConversationRow.ofConversation c').fits f = true ∧
      c.id = c'.id ∧ c.uid = c'.uid ∧ c.owner = c'.owner := by
  rw [get] at h
  split at h
  · cases h
  · rename_i row rows hselect
    have hrow : row ∈ r.rows.select f := by
      rw [hselect]
      exact List.mem_cons_self
    obtain ⟨c', hc', rfl, hfits⟩ := mem_select_rows hrow
    obtain ⟨read, hdecode, h⟩ := bind_eq_ok h
    obtain ⟨messages, -, h⟩ := bind_eq_ok h
    have hids := decode_ofConversation_ids hdecode
    cases h
    exact ⟨c', hc', hfits, hids⟩

/-- A conversation that is found by its handle and its owner is one of the records. -/
theorem of_get_rows_byUid {uid : String} {owner : UserId} {c : Conversation}
    (h : r.rows.get ((Filter.byUid uid).ownedBy owner) = .ok (some c)) :
    ∃ c' ∈ r.conversations, c'.uid = uid ∧ c'.owner = owner ∧ c.id = c'.id ∧ c.uid = c'.uid := by
  obtain ⟨c', hc', hfits, hid, huid, -⟩ := of_get_rows h
  rw [fits_ownedBy, Bool.and_eq_true, beq_iff_eq, beq_iff_eq] at hfits
  exact ⟨c', hc', hfits.1, hfits.2, hid, huid⟩

end Records

end ChatRelay.Store
