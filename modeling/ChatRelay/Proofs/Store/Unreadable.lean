import ChatRelay.Proofs.Store.Handle
import ChatRelay.Proofs.Store.Reading
import Mathlib.Data.List.Nodup

/-!
# Rows that cannot be read

The store checks a row only when it is read, so a row may hold anything. An update
writes the title and the time of the last change without looking at the rest, and
reads the row after that. So there are two reasons for an update to fail: no row has
the handle, and nothing is changed (`update_of_rowsOf_nil`), or the row that was
changed cannot be read (`update_of_rowsOf`). Then it could not be read before either,
and to try again does not help (`update_error_unreadable`).

What is done to one row is said without reading any (`Replaces`, `Drops`).
-/

namespace ChatRelay.Store

open Time (Instant)

/-- No handle is used twice. The rows may hold anything. -/
def DistinctHandles (s : Store) : Prop :=
  (s.conversations.map (·.uid)).Nodup

/-- The row of one conversation is replaced by another where it stands, and all else is the same. -/
structure Replaces (s s' : Store) (row row' : ConversationRow) : Prop where
  conversations : ∃ before after, s.conversations = before ++ row :: after ∧
    s'.conversations = before ++ row' :: after
  messages : s'.messages = s.messages

/-- The row of one conversation is taken out, and the rows of its messages, and all else is the
same. -/
structure Drops (s s' : Store) (row : ConversationRow) : Prop where
  conversations : ∃ before after, s.conversations = before ++ row :: after ∧
    s'.conversations = before ++ after
  messages : s'.messages = s.messages.filter fun m => m.conversationId ≠ row.id

variable {s : Store} {uid : String} {row : ConversationRow} {c : Conversation} {now : Instant}

/-! ## Reading a row -/

namespace ConversationRow

/-- Every column of a row can be read, and the fields of a conversation are what is read. -/
structure Reads (row : ConversationRow) (c : Conversation) : Prop where
  id : ∃ text, row.id.read "id" = .ok text ∧ readId "conversation id" text = .ok c.id
  uid : row.uid.read "uid" = .ok c.uid
  owner : row.owner.read "owner_id" = .ok c.owner.text
  title : row.title.read "title" = .ok c.title
  status : ∃ text, row.status.read "status" = .ok text ∧
    (Status.ofName text).mapError StoreError.query = .ok c.status
  createdAt : ∃ text, row.createdAt.read "created_at" = .ok text ∧ readTime text = .ok c.createdAt
  updatedAt : ∃ text, row.updatedAt.read "updated_at" = .ok text ∧ readTime text = .ok c.updatedAt
  bare : c.messages = []

theorem decode_eq_ok_iff : row.decode = .ok c ↔ row.Reads c := by
  constructor
  · intro h
    rw [decode] at h
    obtain ⟨id, hid, h⟩ := Records.bind_eq_ok h
    obtain ⟨uid, huid, h⟩ := Records.bind_eq_ok h
    obtain ⟨owner, howner, h⟩ := Records.bind_eq_ok h
    obtain ⟨title, htitle, h⟩ := Records.bind_eq_ok h
    obtain ⟨status, hstatus, h⟩ := Records.bind_eq_ok h
    obtain ⟨created, hcreated, h⟩ := Records.bind_eq_ok h
    obtain ⟨updated, hupdated, h⟩ := Records.bind_eq_ok h
    obtain ⟨id', hid', h⟩ := Records.bind_eq_ok h
    obtain ⟨status', hstatus', h⟩ := Records.bind_eq_ok h
    obtain ⟨created', hcreated', h⟩ := Records.bind_eq_ok h
    obtain ⟨updated', hupdated', h⟩ := Records.bind_eq_ok h
    cases h
    exact ⟨⟨id, hid, hid'⟩, huid, howner, htitle, ⟨status, hstatus, hstatus'⟩,
      ⟨created, hcreated, hcreated'⟩, ⟨updated, hupdated, hupdated'⟩, rfl⟩
  · rintro ⟨⟨id, hid, hid'⟩, huid, howner, htitle, ⟨status, hstatus, hstatus'⟩,
      ⟨created, hcreated, hcreated'⟩, ⟨updated, hupdated, hupdated'⟩, hbare⟩
    simp only [decode, hid, huid, howner, htitle, hstatus, hcreated, hupdated, ok_bind, hid',
      hstatus', hcreated', hupdated']
    cases c
    cases hbare
    rfl

/-- A row that can be read can be read after a change, and says what was changed. -/
theorem Reads.change (h : row.Reads c) (u : Update) (hnow : now.Writable) :
    (row.change u now).Reads
      { c with title := u.title.getD c.title, updatedAt := now.truncate } := by
  have htitle : (row.change u now).title.read "title" = .ok (u.title.getD c.title) := by
    rw [ConversationRow.change]
    cases u.title with
    | none => exact h.title
    | some title => rfl
  have hkept : now.truncate.Kept Instant.Writable := ⟨now, hnow, rfl⟩
  exact { h with title := htitle, updatedAt := ⟨_, rfl, readTime_of_kept hkept⟩ }

/-- When a row was changed does not decide whether it can be read. -/
theorem Reads.of_change {u : Update} {t : Instant} (h : (row.change u t).Reads c)
    (hnow : now.Writable) : (row.change u now).Reads { c with updatedAt := now.truncate } :=
  have hkept : now.truncate.Kept Instant.Writable := ⟨now, hnow, rfl⟩
  { h with updatedAt := ⟨_, rfl, readTime_of_kept hkept⟩ }

theorem change_change (row : ConversationRow) (u : Update) (now t : Instant) :
    (row.change u now).change u t = row.change u t := by
  simp only [change]
  cases u.title <;> rfl

end ConversationRow

/-! ## The row with a handle -/

theorem rowsOf_cases (h : s.DistinctHandles) (uid : String) :
    s.rowsOf uid = [] ∨ ∃ row, s.rowsOf uid = [row] := by
  have hone : (s.rowsOf uid).Pairwise fun r r' => r.uid ≠ r'.uid :=
    (List.pairwise_map.1 h).filter _
  have huid : ∀ r ∈ s.rowsOf uid, r.uid = .text uid := fun r hr =>
    beq_iff_eq.1 (List.mem_filter.1 hr).2
  rcases hrows : s.rowsOf uid with _ | ⟨row, _ | ⟨row', rest⟩⟩
  · exact .inl rfl
  · exact .inr ⟨row, rfl⟩
  · rw [hrows] at hone huid
    have hne := (List.pairwise_cons.1 hone).1 row' List.mem_cons_self
    exact absurd ((huid row (by simp)).trans (huid row' (by simp)).symm) hne

/-- The only row with a handle stands between rows with others. -/
theorem split_of_rowsOf (h : s.rowsOf uid = [row]) :
    row.uid = .text uid ∧ ∃ before after, s.conversations = before ++ row :: after ∧
      (∀ r ∈ before, r.uid ≠ .text uid) ∧ ∀ r ∈ after, r.uid ≠ .text uid := by
  obtain ⟨before, after, hsplit, hbefore, hrow, hafter⟩ := List.filter_eq_cons_iff.1 h
  refine ⟨beq_iff_eq.1 hrow, before, after, hsplit, fun r hr huid => ?_, fun r hr huid => ?_⟩
  · exact hbefore r hr (beq_iff_eq.2 huid)
  · exact List.filter_eq_nil_iff.1 hafter r hr (beq_iff_eq.2 huid)

/-- What is found by a handle is read of the only row with it. -/
theorem reads_of_get_byUid (hhandles : s.DistinctHandles) (h : s.get (.byUid uid) = .ok (some c)) :
    ∃ row, s.rowsOf uid = [row] ∧ row.Reads { c with messages := [] } := by
  obtain hnone | ⟨row, hrow⟩ := rowsOf_cases hhandles uid
  · have hselect : s.select (.byUid uid) = [] := by
      rw [rowsOf] at hnone
      simp only [select, ConversationRow.fits_byUid, hnone, List.reverse_nil, List.mergeSort_nil]
    rw [get, hselect] at h
    cases h
  · rw [get, select_byUid hrow] at h
    obtain ⟨c', hdecode, h⟩ := Records.bind_eq_ok h
    obtain ⟨messages, -, h⟩ := Records.bind_eq_ok h
    have hreads := ConversationRow.decode_eq_ok_iff.1 hdecode
    cases h
    refine ⟨row, hrow, ?_⟩
    exact { hreads with bare := rfl }

theorem update_of_rowsOf_nil {u : Update} (h : s.rowsOf u.uid = []) :
    s.update u now = (.error .notFound, s) := by
  have hnone : s.conversations.find? (·.uid == .text u.uid) = none := by
    rw [← List.head?_filter]
    exact congrArg List.head? h
  rw [update]
  simp only [hnone]

/-- The row with a handle is changed, and only then is it read. -/
theorem update_of_rowsOf {u : Update} (h : s.rowsOf u.uid = [row]) (now : Instant) :
    (s.update u now).1 = (row.change u now).decode ∧
      s.Replaces (s.update u now).2 row (row.change u now) := by
  obtain ⟨hrow, before, after, hsplit, hbefore, hafter⟩ := split_of_rowsOf h
  constructor
  · rw [update]
    simp only [find?_byUid h]
  · have hkept : ∀ rows : List ConversationRow, (∀ r ∈ rows, r.uid ≠ .text u.uid) →
        (rows.map fun r => if r.uid == .text u.uid then r.change u now else r) = rows := by
      intro rows hrows
      refine (List.map_congr_left fun r hr => ?_).trans (List.map_id _)
      rw [if_neg (by simpa using hrows r hr), id]
    rw [update_snd]
    refine ⟨⟨before, after, hsplit, ?_⟩, rfl⟩
    simp only [hsplit, List.map_append, List.map_cons, hkept before hbefore, hkept after hafter,
      hrow, beq_self_eq_true, if_true]

/-- The row with a handle is deleted with its messages, whatever it holds. -/
theorem delete_of_rowsOf (h : s.rowsOf uid = [row]) :
    (s.delete (.byUid uid)).1 = .ok () ∧ s.Drops (s.delete (.byUid uid)).2 row := by
  obtain ⟨hrow, before, after, hsplit, hbefore, hafter⟩ := split_of_rowsOf h
  have hgone : s.conversations.filter (·.fits (.byUid uid)) = [row] := by
    simp only [ConversationRow.fits_byUid]
    exact h
  have hkept : ∀ rows : List ConversationRow, (∀ r ∈ rows, r.uid ≠ .text uid) →
      (rows.filter fun r => !r.fits (.byUid uid)) = rows := by
    intro rows hrows
    refine List.filter_eq_self.2 fun r hr => ?_
    simpa [ConversationRow.fits_byUid] using hrows r hr
  have hdelete : s.delete (.byUid uid) = (.ok (), s.without (·.fits (.byUid uid))) := rfl
  rw [hdelete]
  refine ⟨rfl, ⟨before, after, hsplit, ?_⟩, ?_⟩
  · have hfits : row.fits (.byUid uid) = true := by
      rw [ConversationRow.fits_byUid, hrow, beq_self_eq_true]
    simp [without, hsplit, hkept before hbefore, hkept after hafter, hfits]
  · rw [without, hgone]
    refine List.filter_congr fun m _ => ?_
    rw [List.any_cons, List.any_nil, Bool.or_false, decide_not, Bool.beq_eq_decide_eq]
    simp only [eq_comm]

/-! ## Updates that fail -/

/-- An update that fails finds no row with the handle and changes nothing, or it has changed the row
and cannot read it: the row could not be read before, nothing but this row has changed, and the same
update fails whenever it is tried again. -/
theorem update_error_unreadable (hhandles : s.DistinctHandles) {u : Update} (hnow : now.Writable)
    {e : StoreError} (h : (s.update u now).1 = .error e) :
    (e = .notFound ∧ (∀ r ∈ s.conversations, r.uid ≠ .text u.uid) ∧ (s.update u now).2 = s) ∨
      ∃ row, row.uid = .text u.uid ∧ (∀ c, row.decode ≠ .ok c) ∧
        s.Replaces (s.update u now).2 row (row.change u now) ∧
        ∀ t c, ((s.update u now).2.update u t).1 ≠ .ok c := by
  obtain hnone | ⟨row, hrow⟩ := rowsOf_cases hhandles u.uid
  · rw [update_of_rowsOf_nil hnone] at h ⊢
    cases h
    exact .inl ⟨rfl, rowsOf_eq_nil_iff.1 hnone, rfl⟩
  · obtain ⟨hanswer, hreplaces⟩ := update_of_rowsOf hrow now
    have hunread : ∀ c, ¬ (row.change u now).Reads c := fun c hreads => by
      rw [hanswer, ConversationRow.decode_eq_ok_iff.2 hreads] at h
      cases h
    refine .inr ⟨row, (split_of_rowsOf hrow).1, fun c hdecode => ?_, hreplaces,
      fun t c hagain => ?_⟩
    · exact hunread _ ((ConversationRow.decode_eq_ok_iff.1 hdecode).change u hnow)
    · have hrow' : (s.update u now).2.rowsOf u.uid = [row.change u now] := by
        rw [rowsOf_update, if_pos rfl, hrow, List.map_singleton]
      rw [(update_of_rowsOf hrow' t).1, ConversationRow.change_change] at hagain
      exact hunread _ ((ConversationRow.decode_eq_ok_iff.1 hagain).of_change hnow)

/-- A row that says the day on which its conversation was created, but no time of day. -/
def dateless : ConversationRow :=
  { id := .text "018f0000-0000-7000-8000-000000000001"
    uid := .text "c1"
    owner := .text "ada"
    title := .text "Notes"
    status := .text "active"
    createdAt := .text "2020-01-01"
    updatedAt := .text "2020-01-01T00:00:00.000000Z" }

/-- Beside a row that is no better, the row without a time of day is changed. -/
theorem update_error_unreadable_dateless :
    let s : Store :=
      { conversations := [dateless, { dateless with id := .text "none", uid := .text "c2" }] }
    let u : Update := { uid := "c1", title := some "Plans" }
    let now : Instant := ⟨1577923200, 0⟩
    let e : StoreError := .query "invalid datetime: premature end of input"
    s.DistinctHandles ∧ now.Writable ∧ (s.update u now).1 = .error e ∧
      ∃ row, row.uid = .text "c1" ∧ (∀ c, row.decode ≠ .ok c) ∧
        s.Replaces (s.update u now).2 row (row.change u now) ∧
        ∀ t c, ((s.update u now).2.update u t).1 ≠ .ok c := by
  intro s u now e
  have hhandles : s.DistinctHandles := by simp [DistinctHandles, s, dateless]
  have hnow : now.Writable := ⟨by decide, by decide, by decide⟩
  have herror : (s.update u now).1 = .error e := by decide +kernel
  refine ⟨hhandles, hnow, herror, ?_⟩
  exact (update_error_unreadable hhandles hnow herror).resolve_left fun hmissing =>
    nomatch hmissing.1

/-- An update can fail and change the store. -/
theorem update_error_changes :
    let s : Store := { conversations := [dateless] }
    let u : Update := { uid := "c1", title := some "Plans" }
    let now : Instant := ⟨1577923200, 0⟩
    s.DistinctHandles ∧ now.Writable ∧
      (s.update u now).1 = .error (.query "invalid datetime: premature end of input") ∧
      (s.update u now).2 ≠ s := by
  intro s u now
  refine ⟨by simp [DistinctHandles, s], ⟨by decide, by decide, by decide⟩, ?_, ?_⟩
  · decide +kernel
  · decide +kernel

end ChatRelay.Store
