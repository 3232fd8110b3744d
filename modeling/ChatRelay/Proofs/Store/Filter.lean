import ChatRelay.Proofs.Store.Changes
import ChatRelay.Proofs.Store.Handle
import ChatRelay.Proofs.Store.Parts

/-!
# What a filter says

A filter means the conversations whose fields are equal to all that it sets
(`Filter.Matches`). The store compares texts instead, and sorts them. What it finds is
what the filter means (`Found`), what it reads is the first of that with its messages
(`Listed`), and what it deletes is that and nothing else (`Deleted`).

The store sorts stably: what was changed at the same time stays in the order in which
it was looked at (`mergeSort_by_time`).
-/

namespace ChatRelay

open Time (Instant)

/-- The fields of a conversation are equal to all that a filter sets. -/
def Filter.Matches (f : Filter) (c : Conversation) : Prop :=
  (∀ id ∈ f.id, c.id = id) ∧ (∀ uid ∈ f.uid, c.uid = uid) ∧
    (∀ owner ∈ f.owner, c.owner = owner) ∧ ∀ status ∈ f.status, c.status = status

instance (f : Filter) : DecidablePred f.Matches := fun _ =>
  inferInstanceAs (Decidable (_ ∧ _ ∧ _ ∧ _))

theorem Filter.isEmpty_iff {f : Filter} : f.isEmpty = true ↔ f = {} := by
  obtain ⟨id, uid, owner, status⟩ := f
  simp [Filter.isEmpty, and_assoc]

namespace Store

theorem Status.name_inj {status status' : Status} :
    status.name = status'.name ↔ status = status' := by
  refine ⟨fun h => ?_, congrArg _⟩
  have hread := status.ofName_name
  rw [h, status'.ofName_name] at hread
  exact (Except.ok.inj hread).symm

/-- A row fits where the conversation in it is meant. -/
theorem fits_ofConversation (c : Conversation) (f : Filter) :
    (ConversationRow.ofConversation c).fits f = decide (f.Matches c) := by
  have howner : ∀ owner : UserId, c.owner.text = owner.text ↔ c.owner = owner := fun owner =>
    ⟨congrArg UserId.mk, congrArg UserId.text⟩
  rw [Bool.eq_iff_iff, decide_eq_true_iff]
  simp only [ConversationRow.fits, ConversationRow.ofConversation, Filter.Matches,
    Option.all_eq_true, Bool.and_eq_true, Cell.text_beq, Uuid.text_beq, beq_iff_eq, howner,
    Status.name_inj, and_assoc]
  rfl

/-! ## Sorting -/

/-- A list that is sorted by points in time has the same elements in their order, and those of one
point in time are where they were. -/
theorem mergeSort_by_time {α : Type} (time : α → Instant) {le : Instant → Instant → Bool}
    (htrans : ∀ t u v, le t u = true → le u v = true → le t v = true)
    (htotal : ∀ t u, (le t u || le u t) = true) (l : List α) :
    (l.mergeSort fun a b => le (time a) (time b)).Perm l ∧
      (l.mergeSort fun a b => le (time a) (time b)).Pairwise
        (fun a b => le (time a) (time b) = true) ∧
      ∀ t, ((l.mergeSort fun a b => le (time a) (time b)).filter fun a => time a = t) =
        l.filter fun a => time a = t := by
  have htrans' : ∀ a b c : α, le (time a) (time b) = true → le (time b) (time c) = true →
      le (time a) (time c) = true := fun _ _ _ => htrans _ _ _
  have htotal' : ∀ a b : α, (le (time a) (time b) || le (time b) (time a)) = true :=
    fun _ _ => htotal _ _
  have hperm := List.mergeSort_perm l fun a b => le (time a) (time b)
  refine ⟨hperm, List.pairwise_mergeSort htrans' htotal' l, fun t => ?_⟩
  -- those of one point in time are in order already, and so their order is kept
  have hties : (l.filter fun a => time a = t).Pairwise fun a b => le (time a) (time b) = true := by
    refine List.pairwise_of_forall_mem_list fun a ha b hb => ?_
    have ha := of_decide_eq_true (List.mem_filter.1 ha).2
    have hb := of_decide_eq_true (List.mem_filter.1 hb).2
    rw [ha, hb]
    simpa using htotal t t
  have hsub := (List.sublist_mergeSort htrans' htotal' hties List.filter_sublist).filter
    fun a => time a = t
  rw [List.filter_filter, List.filter_congr fun a _ => Bool.and_self (decide (time a = t))] at hsub
  exact (hsub.eq_of_length (hperm.filter _).length_eq.symm).symm

theorem not_isBefore_iff {s t : Instant} : (!t.isBefore s) = true ↔ s ≤ t := by
  rw [Bool.not_eq_true', Instant.le_iff_not_isBefore]

theorem not_isBefore_trans (t u v : Instant) (h : (!t.isBefore u) = true)
    (h' : (!u.isBefore v) = true) : (!t.isBefore v) = true :=
  not_isBefore_iff.2 (Instant.le_trans (not_isBefore_iff.1 h') (not_isBefore_iff.1 h))

theorem not_isBefore_total (t u : Instant) : (!t.isBefore u || !u.isBefore t) = true := by
  rw [Bool.or_eq_true, not_isBefore_iff, not_isBefore_iff]
  exact Instant.le_total u t

/-- The order of texts in which the store sorts is the order in time. -/
theorem storedTime_le_eq {t t' : Instant} (h : t.Kept Instant.Writable)
    (h' : t'.Kept Instant.Writable) :
    (Cell.text (storedTime t)).le (.text (storedTime t')) = !t'.isBefore t := by
  rw [Bool.eq_iff_iff, storedTime_le_iff h.writable h'.writable, h.micros, h'.micros,
    Instant.le_iff_not_isBefore, Bool.not_eq_true']

namespace Records

/-- What a filter means of the records, most recently changed first. -/
def found (r : Records) (f : Filter) : List Conversation :=
  (r.conversations.filter fun c => f.Matches c).reverse.mergeSort fun a b =>
    !a.updatedAt.isBefore b.updatedAt

/-- The messages of a conversation, oldest first. -/
def listed (r : Records) (id : Uuid) : List ChatMessage :=
  (r.messagesIn id).mergeSort fun a b => !b.createdAt.isBefore a.createdAt

/-- No conversation carries messages; these are kept apart. -/
def Bare (r : Records) : Prop := ∀ c ∈ r.conversations, c.messages = []

/-- The records with the messages that conversations carry left out. Nothing is kept of these. -/
def strip (r : Records) : Records :=
  { r with conversations := r.conversations.map fun c => { c with messages := [] } }

variable {r : Records}

theorem strip_bare (r : Records) : r.strip.Bare := by
  intro c hc
  obtain ⟨c', -, rfl⟩ := List.mem_map.1 hc
  rfl

theorem rows_strip (r : Records) : r.strip.rows = r.rows := by
  simp only [rows, strip, List.map_map]
  rfl

theorem Keyed.strip (h : r.Keyed) : r.strip.Keyed where
  distinct := List.pairwise_map.2 h.distinct
  placed m hm := by
    obtain ⟨c, hc, hid⟩ := h.placed m hm
    exact ⟨_, List.mem_map_of_mem hc, hid⟩

theorem Legible.strip (h : r.Legible) : r.strip.Legible where
  conversations c hc := by
    obtain ⟨c', hc', rfl⟩ := List.mem_map.1 hc
    exact h.conversations c' hc'
  messages := h.messages

theorem Legible.decode_all (h : r.Legible) (hbare : r.Bare) :
    r.rows.conversations.mapM ConversationRow.decode = .ok r.conversations ∧
      r.rows.messages.mapM MessageRow.decode = .ok r.messages := by
  constructor
  · refine (mapM_decode fun c hc => ?_).trans (congrArg Except.ok (List.map_id _))
    rw [h.decode_conversation hc, id, ← hbare c hc]
  · refine (mapM_decode fun m hm => ?_).trans (congrArg Except.ok (List.map_id _))
    exact decode_ofMessage (h.messages m hm)

theorem mem_found {f : Filter} {c : Conversation} :
    c ∈ r.found f ↔ c ∈ r.conversations ∧ f.Matches c := by
  rw [found, List.mem_mergeSort, List.mem_reverse, List.mem_filter, decide_eq_true_iff]

theorem Legible.select_rows (h : r.Legible) (f : Filter) :
    r.rows.select f = (r.found f).map .ofConversation := by
  rw [select, found, rows, List.filter_map, ← List.map_reverse]
  simp only [Function.comp_def, fits_ofConversation]
  refine (List.map_mergeSort fun a ha b hb => ?_).symm
  have ha := h.conversations a (List.mem_filter.1 (List.mem_reverse.1 ha)).1
  have hb := h.conversations b (List.mem_filter.1 (List.mem_reverse.1 hb)).1
  exact (storedTime_le_eq hb.2 ha.2).symm

theorem Legible.find_found (h : r.Legible) (hbare : r.Bare) (f : Filter) :
    r.rows.find f = .ok (r.found f) := by
  rw [find, h.select_rows]
  refine (mapM_decode fun c hc => ?_).trans (congrArg Except.ok (List.map_id _))
  have hc := (mem_found.1 hc).1
  rw [h.decode_conversation hc, id, ← hbare c hc]

theorem Legible.messagesOf_listed (h : r.Legible) (id : Uuid) :
    r.rows.messagesOf id = .ok (r.listed id) := by
  have hsorted : ((r.messagesIn id).map MessageRow.ofMessage).mergeSort
      (fun a b => a.createdAt.le b.createdAt) = (r.listed id).map .ofMessage := by
    refine (List.map_mergeSort fun a ha b hb => ?_).symm
    have ha := h.messages a (List.mem_filter.1 ha).1
    have hb := h.messages b (List.mem_filter.1 hb).1
    exact (storedTime_le_eq ha hb).symm
  rw [messagesOf, filter_rows_messages, hsorted]
  refine (mapM_decode fun m hm => ?_).trans (congrArg Except.ok (List.map_id _))
  exact decode_ofMessage (h.messages m (List.mem_filter.1 (List.mem_mergeSort.1 hm)).1)

theorem Legible.get_found (h : r.Legible) (f : Filter) :
    r.rows.get f =
      .ok ((r.found f).head?.map fun c => { c with messages := r.listed c.id }) := by
  rw [get, h.select_rows]
  cases hfound : r.found f with
  | nil => rfl
  | cons c rest =>
    have hc := (mem_found.1 (hfound ▸ List.mem_cons_self)).1
    simp only [List.map_cons, h.decode_conversation hc, ok_bind, h.messagesOf_listed]
    rfl

theorem delete_matches (r : Records) {f : Filter} (hf : f ≠ {}) :
    r.rows.delete f = (.ok (), (r.remove fun c => f.Matches c).rows) := by
  have hgiven : ¬ f.isEmpty = true := fun hempty => hf (Filter.isEmpty_iff.1 hempty)
  have hstore := r.delete_rows f
  rw [if_neg hgiven] at hstore
  simp only [fits_ofConversation] at hstore
  refine Prod.ext ?_ hstore
  rw [delete, if_neg hgiven]

theorem Legible.remove (h : r.Legible) (gone : Conversation → Bool) : (r.remove gone).Legible :=
  ⟨fun c hc => h.conversations c (List.mem_filter.1 hc).1,
    fun m hm => h.messages m (List.mem_filter.1 hm).1⟩

end Records

/-! ## What is found, read and deleted -/

/-- What a filter finds among all conversations, which are in the order of insertion. -/
structure Found (f : Filter) (all found : List Conversation) : Prop where
  exactly : found.Perm (all.filter fun c => f.Matches c)
  once : (found.map (·.id)).Nodup
  bare : ∀ c ∈ found, c.messages = []
  order : found.Pairwise fun a b => b.updatedAt ≤ a.updatedAt
  /-- Of those that were changed at the same time the one that was inserted later comes first. -/
  ties : ∀ t, (found.filter fun c => c.updatedAt = t) =
    ((all.filter fun c => f.Matches c).filter fun c => c.updatedAt = t).reverse

/-- What is listed of a conversation among all messages, which are in the order of insertion. -/
structure Listed (id : Uuid) (all listed : List ChatMessage) : Prop where
  exactly : listed.Perm (all.filter fun m => m.conversationId = id)
  order : listed.Pairwise fun a b => a.createdAt ≤ b.createdAt
  ties : ∀ t, (listed.filter fun m => m.createdAt = t) =
    (all.filter fun m => m.conversationId = id).filter fun m => m.createdAt = t

/-- The rows of the conversations that were found are gone, and those of their messages; all other
rows are as they were, in the same order. -/
structure Deleted (found : List Conversation) (s s' : Store) : Prop where
  conversations : s'.conversations =
    s.conversations.filter fun row => !found.any fun c => row.id == .text c.id.text
  messages : s'.messages =
    s.messages.filter fun row => !found.any fun c => row.conversationId == .text c.id.text

namespace Records

variable {r : Records}

theorem found_perm (r : Records) (f : Filter) :
    (r.found f).Perm (r.conversations.filter fun c => f.Matches c) :=
  (List.mergeSort_perm _ _).trans (List.reverse_perm _)

theorem Keyed.found (h : r.Keyed) (hbare : r.Bare) (f : Filter) :
    Found f r.conversations (r.found f) := by
  obtain ⟨-, horder, hties⟩ := mergeSort_by_time Conversation.updatedAt not_isBefore_trans
    not_isBefore_total (r.conversations.filter fun c => f.Matches c).reverse
  refine ⟨r.found_perm f, ?_, fun c hc => hbare c (mem_found.1 hc).1,
    horder.imp not_isBefore_iff.1, fun t => (hties t).trans List.filter_reverse⟩
  refine ((r.found_perm f).map _).nodup_iff.2 (List.pairwise_map.2 ?_)
  exact (h.distinct.filter _).imp And.left

theorem listed_messages (r : Records) (id : Uuid) : Listed id r.messages (r.listed id) := by
  obtain ⟨hperm, horder, hties⟩ := mergeSort_by_time ChatMessage.createdAt
    (fun t u v h h' => not_isBefore_trans v u t h' h) (fun t u => not_isBefore_total u t)
    (r.messagesIn id)
  have hmine : r.messagesIn id = r.messages.filter fun m => m.conversationId = id :=
    List.filter_congr fun m _ => rfl
  refine ⟨hmine ▸ hperm, horder.imp not_isBefore_iff.1, fun t => ?_⟩
  rw [← hmine]
  exact hties t

/-- To take out what a filter means is to take out what it finds. -/
theorem Keyed.deleted (h : r.Keyed) (f : Filter) :
    Deleted (r.found f) r.rows (r.remove fun c => f.Matches c).rows := by
  have hany : ∀ p : Conversation → Bool,
      (r.found f).any p = (r.conversations.filter fun c => f.Matches c).any p :=
    fun p => (r.found_perm f).any_eq
  constructor
  · have hsame : ∀ c ∈ r.conversations,
        ((r.found f).any fun c' => (ConversationRow.ofConversation c).id == .text c'.id.text) =
          decide (f.Matches c) := fun c hc => by
      rw [Bool.eq_iff_iff, List.any_eq_true, decide_eq_true_iff]
      simp only [ConversationRow.ofConversation, Cell.text_beq, Uuid.text_beq, beq_iff_eq]
      constructor
      · rintro ⟨c', hc', hid⟩
        obtain ⟨hc', hmatches⟩ := mem_found.1 hc'
        rwa [h.eq_of_shared hc hc' (.inl hid)]
      · exact fun hmatches => ⟨c, mem_found.2 ⟨hc, hmatches⟩, rfl⟩
    rw [rows, rows, Records.remove, List.filter_map]
    exact congrArg _ (List.filter_congr fun c hc => by rw [Function.comp_apply, hsame c hc])
  · rw [rows, rows, Records.remove, List.filter_map]
    refine congrArg _ (List.filter_congr fun m hm => ?_)
    rw [Function.comp_apply, hany]
    simp only [MessageRow.ofMessage, Cell.text_beq, Uuid.text_beq]
    congr 2
    funext c
    exact Bool.beq_comm

/-- What is found with the same filter after it was deleted is nothing. -/
theorem found_remove (r : Records) (f : Filter) :
    (r.remove fun c => f.Matches c).found f = [] := by
  have hnone :
      ((r.remove fun c => f.Matches c).conversations.filter fun c => f.Matches c) = [] := by
    refine List.filter_eq_nil_iff.2 fun c hc hmatches => ?_
    rw [(mem_remove.1 hc).2] at hmatches
    cases hmatches
  rw [found, hnone, List.reverse_nil, List.mergeSort_nil]

end Records

end Store

end ChatRelay
