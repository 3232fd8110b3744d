import ChatRelay.Proofs.Store.Reading

/-!
# What operations make of records

`Records.Step` says once all that an operation can make of the records of a store.
What is to hold in every store is looked at for its five cases, whatever the calls
are that carry out the operations: no identifier is shared (`Step.keyed`), every
row can be read (`Step.legible`), the records are sound when the clock does not go
back (`Step.sound`), and what is listed of a conversation (`Step.listed`).
-/

namespace ChatRelay.Store

open Time (Instant)

namespace Records

/-- What an operation makes of some records at the time `now`, and the message that it adds if it
does. Conversations have an identifier that was `made` for them, and are only taken out where the
operation `deletes`. -/
inductive Step (now : Instant) (made : Uuid → Prop) (deletes : Prop) (r : Records) :
    Option ChatMessage → Records → Prop where
  | keep : Step now made deletes r none r
  | create (owner : UserId) (title : String) (status : Status) {id : Uuid} {uid : String}
      (hmade : made id) (hnew : ∀ c ∈ r.conversations, c.id ≠ id ∧ c.uid ≠ uid) :
      Step now made deletes r none (r.addConversation (created owner title status id uid now))
  | update (u : Update) : Step now made deletes r none (r.change u now)
  | delete (hdeletes : deletes) (gone : Conversation → Bool) :
      Step now made deletes r none (r.remove gone)
  | addMessage {m : ChatMessage} (htime : m.createdAt = now.truncate)
      (hnew : ∀ m' ∈ r.messages, m'.id ≠ m.id)
      (hplace : ∃ c ∈ r.conversations, c.id = m.conversationId) :
      Step now made deletes r (some m) (r.addMessages [m])

/-- Records of which every row can be read, whatever the order of the times is. -/
structure Legible (r : Records) : Prop where
  conversations : ∀ c ∈ r.conversations,
    c.createdAt.Kept Instant.Writable ∧ c.updatedAt.Kept Instant.Writable
  messages : ∀ m ∈ r.messages, m.createdAt.Kept Instant.Writable

variable {r r' : Records} {t now : Instant} {made : Uuid → Prop} {deletes : Prop}
  {added : Option ChatMessage}

theorem Sound.legible (h : r.Sound Instant.Storable now) : r.Legible :=
  ⟨fun c hc => ⟨(h.conversations c hc).created.toWritable,
      (h.conversations c hc).updated.toWritable⟩,
    fun m hm => (h.messages m hm).created.toWritable⟩

/-! ## What every step keeps -/

theorem Step.keyed (h : r.Step now made deletes added r') (hkeyed : r.Keyed) : r'.Keyed := by
  cases h with
  | keep => exact hkeyed
  | create owner title status _ hnew => exact hkeyed.addConversation hnew
  | update u => exact hkeyed.change u now
  | delete _ gone => exact hkeyed.remove gone
  | addMessage _ _ hplace => exact hkeyed.addMessage hplace

theorem Step.sound {reading : Instant → Prop} (h : r.Step now made deletes added r')
    (hsound : r.Sound reading t) (hnow : reading now) (hle : t ≤ now) : r'.Sound reading now := by
  cases h with
  | keep => exact hsound.mono hle
  | create owner title status _ hnew =>
    exact (hsound.mono hle).addConversation (created_kept owner title status _ _ hnow) hnew
  | update u => exact hsound.change hnow hle u
  | delete _ gone => exact (hsound.mono hle).remove gone
  | addMessage htime hnew hplace => exact hsound.addMessage hnow hle htime hnew hplace

theorem Step.legible (h : r.Step now made deletes added r') (hlegible : r.Legible)
    (hnow : now.Writable) : r'.Legible := by
  have hkept : now.truncate.Kept Instant.Writable := ⟨now, hnow, rfl⟩
  cases h with
  | keep => exact hlegible
  | create owner title status =>
    refine ⟨fun c hc => ?_, hlegible.messages⟩
    rcases List.mem_append.1 hc with hc | hc
    · exact hlegible.conversations c hc
    · rw [List.mem_singleton.1 hc]
      exact ⟨hkept, hkept⟩
  | update u =>
    refine ⟨fun c hc => ?_, hlegible.messages⟩
    obtain ⟨c', hc', rfl⟩ := List.mem_map.1 hc
    rw [changed]
    split
    · exact ⟨(hlegible.conversations c' hc').1, hkept⟩
    · exact hlegible.conversations c' hc'
  | delete _ gone =>
    exact ⟨fun c hc => hlegible.conversations c (List.mem_filter.1 hc).1,
      fun m hm => hlegible.messages m (List.mem_filter.1 hm).1⟩
  | addMessage htime =>
    refine ⟨hlegible.conversations, fun m hm => ?_⟩
    rcases List.mem_append.1 hm with hm | hm
    · exact hlegible.messages m hm
    · rw [List.mem_singleton.1 hm, htime]
      exact hkept

/-- A conversation that is there after a step was there before, or its identifier was made for it.
-/
theorem Step.origin (h : r.Step now made deletes added r') {c : Conversation}
    (hc : c ∈ r'.conversations) : (∃ c' ∈ r.conversations, c'.id = c.id) ∨ made c.id := by
  cases h with
  | keep | addMessage => exact .inl ⟨c, hc, rfl⟩
  | create owner title status hmade =>
    rcases List.mem_append.1 hc with hc | hc
    · exact .inl ⟨c, hc, rfl⟩
    · rw [List.mem_singleton.1 hc]
      exact .inr hmade
  | update u =>
    obtain ⟨c', hc', rfl⟩ := List.mem_map.1 hc
    exact .inl ⟨c', hc', by rw [changed_id]⟩
  | delete _ gone => exact .inl ⟨c, (List.mem_filter.1 hc).1, rfl⟩

/-- A message is added to a conversation that is there. -/
theorem Step.target (h : r.Step now made deletes added r') {m : ChatMessage} (hm : added = some m) :
    ∃ c ∈ r.conversations, c.id = m.conversationId := by
  cases h with
  | addMessage _ _ hplace => exact Option.some.inj hm ▸ hplace
  | _ => cases hm

/-- A step puts the message that it adds behind the other messages of its conversation, and changes
no conversation otherwise, but one that it deletes. -/
theorem Step.listed (h : r.Step now made deletes added r') (hkeyed : r.Keyed) (id : Uuid) :
    r'.messagesIn id =
        r.messagesIn id ++ added.toList.filter (fun m => m.conversationId == id) ∨
      deletes ∧ (∃ c ∈ r.conversations, c.id = id) ∧ ∀ c ∈ r'.conversations, c.id ≠ id := by
  cases h with
  | keep | create | update => exact .inl (List.append_nil _).symm
  | addMessage => exact .inl (List.filter_append _ _)
  | delete hdeletes gone =>
    by_cases hkept : ∀ c ∈ r.conversations, c.id = id → gone c = false
    · rw [messagesIn_remove hkeyed hkept]
      exact .inl (List.append_nil _).symm
    · simp only [Classical.not_forall] at hkept
      obtain ⟨c, hc, hid, hgone⟩ := hkept
      refine .inr ⟨hdeletes, ⟨c, hc, hid⟩, fun c' hc' hid' => hgone ?_⟩
      obtain ⟨hc', hkeep⟩ := List.mem_filter.1 hc'
      rw [hkeyed.eq_of_shared hc hc' (.inl (hid.trans hid'.symm))]
      simpa using hkeep

/-! ## Reading never fails -/

theorem exists_mapM_eq_ok {α β : Type} {g : α → Except StoreError β} {l : List α}
    (hall : ∀ a ∈ l, ∃ b, g a = .ok b) : ∃ bs, l.mapM g = .ok bs := by
  induction l with
  | nil => exact ⟨[], rfl⟩
  | cons a l ih =>
    obtain ⟨b, hb⟩ := hall a List.mem_cons_self
    obtain ⟨bs, hbs⟩ := ih fun a ha => hall a (List.mem_cons_of_mem _ ha)
    refine ⟨b :: bs, ?_⟩
    rw [List.mapM_cons, hb, hbs]
    rfl

/-- What is read of a list has a part for each of its elements. -/
theorem exists_of_mapM_eq_ok {α β : Type} {g : α → Except StoreError β} {l : List α}
    {out : List β} (h : l.mapM g = .ok out) {a : α} (ha : a ∈ l) : ∃ b ∈ out, g a = .ok b := by
  induction l generalizing out with
  | nil => cases ha
  | cons a' l ih =>
    rw [List.mapM_cons] at h
    obtain ⟨b, hb, h⟩ := bind_eq_ok h
    obtain ⟨bs, hbs, h⟩ := bind_eq_ok h
    cases h
    rcases List.mem_cons.1 ha with rfl | ha
    · exact ⟨b, List.mem_cons_self, hb⟩
    · obtain ⟨b', hb', hg⟩ := ih hbs ha
      exact ⟨b', List.mem_cons_of_mem _ hb', hg⟩

theorem Legible.decode_conversation (h : r.Legible) {c : Conversation} (hc : c ∈ r.conversations) :
    (ConversationRow.ofConversation c).decode = .ok { c with messages := [] } :=
  decode_ofConversation (h.conversations c hc).1 (h.conversations c hc).2

theorem Legible.find_rows (h : r.Legible) (f : Filter) : ∃ cs, r.rows.find f = .ok cs := by
  refine exists_mapM_eq_ok fun row hrow => ?_
  obtain ⟨c, hc, rfl, -⟩ := mem_select_rows hrow
  exact ⟨_, h.decode_conversation hc⟩

theorem Legible.messagesOf_rows (h : r.Legible) (id : Uuid) :
    ∃ ms, r.rows.messagesOf id = .ok ms := by
  refine exists_mapM_eq_ok fun row hrow => ?_
  rw [List.mem_mergeSort] at hrow
  obtain ⟨m, hm, rfl⟩ := List.mem_map.1 (List.mem_filter.1 hrow).1
  exact ⟨_, decode_ofMessage (h.messages m hm)⟩

/-- Nothing is found where nothing fits, and otherwise a conversation that fits. -/
theorem Legible.get_rows_cases (h : r.Legible) (f : Filter) :
    ((∀ c ∈ r.conversations, (ConversationRow.ofConversation c).fits f = false) ∧
        r.rows.get f = .ok none) ∨
      ∃ c ∈ r.conversations, (ConversationRow.ofConversation c).fits f = true ∧
        ∃ messages, r.rows.get f = .ok (some { c with messages }) := by
  cases hselect : r.rows.select f with
  | nil =>
    refine .inl ⟨fun c hc => ?_, by rw [get, hselect]⟩
    exact (select_eq_nil_iff _ _).1 hselect _ (List.mem_map_of_mem hc)
  | cons row rows =>
    have hrow : row ∈ r.rows.select f := hselect ▸ List.mem_cons_self
    obtain ⟨c, hc, rfl, hfits⟩ := mem_select_rows hrow
    obtain ⟨messages, hmessages⟩ := h.messagesOf_rows c.id
    refine .inr ⟨c, hc, hfits, messages, ?_⟩
    rw [get, hselect]
    dsimp only
    rw [h.decode_conversation hc, ok_bind, hmessages]
    rfl

end Records

/-- A store in which no identifier of a conversation is used twice, every message has its
conversation, every row can be read, so that reading never fails, and no conversation was changed
before it was created. -/
structure Consistent (s : Store) : Prop where
  distinct : s.conversations.Pairwise fun row row' => row.id ≠ row'.id ∧ row.uid ≠ row'.uid
  placed : ∀ m ∈ s.messages, ∃ row ∈ s.conversations, row.id = m.conversationId
  conversations : ∀ row ∈ s.conversations, ∃ c, row.decode = .ok c ∧ c.createdAt ≤ c.updatedAt
  messages : ∀ row ∈ s.messages, ∃ m, row.decode = .ok m
  find : ∀ f, ∃ found, s.find f = .ok found
  get : ∀ f, ∃ found, s.get f = .ok found
  messagesOf : ∀ id, ∃ found, s.messagesOf id = .ok found

theorem Records.Sound.consistent {r : Records} {now : Instant} (h : r.Sound Instant.Storable now) :
    r.rows.Consistent where
  distinct := List.pairwise_map.2 <| h.distinct.imp fun hne =>
    ⟨fun heq => hne.1 (Uuid.text_inj.1 (Cell.text.inj heq)), fun heq => hne.2 (Cell.text.inj heq)⟩
  placed row hrow := by
    obtain ⟨m, hm, rfl⟩ := List.mem_map.1 hrow
    obtain ⟨c, hc, hid⟩ := h.placed m hm
    exact ⟨_, List.mem_map_of_mem hc, congrArg (fun id : Uuid => Cell.text id.text) hid⟩
  conversations row hrow := by
    obtain ⟨c, hc, rfl⟩ := List.mem_map.1 hrow
    exact ⟨_, h.legible.decode_conversation hc, (h.conversations c hc).order⟩
  messages row hrow := by
    obtain ⟨m, hm, rfl⟩ := List.mem_map.1 hrow
    exact ⟨m, decode_ofMessage (h.legible.messages m hm)⟩
  find := h.legible.find_rows
  get f := by
    obtain ⟨-, hget⟩ | ⟨c, -, -, messages, hget⟩ := h.legible.get_rows_cases f <;> exact ⟨_, hget⟩
  messagesOf := h.legible.messagesOf_rows

end ChatRelay.Store
