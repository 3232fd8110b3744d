import ChatRelay.Proofs.Time.LeapSecond
import ChatRelay.Proofs.Uuid

/-!
# Rows are read back

A conversation and a message are read as they were written, when their times are
such as the store keeps (`decode_ofConversation`, `decode_ofMessage`).
-/

namespace ChatRelay

open Time (Instant)

theorem Role.ofName_name (r : Role) : Role.ofName r.name = .ok r := by
  cases r <;> rfl

theorem Status.ofName_name (s : Status) : Status.ofName s.name = .ok s := by
  cases s <;> rfl

namespace Time.Instant

/-- A point in time as the store keeps it: a reading of the clock, cut to the microsecond. -/
def Kept (reading : Instant → Prop) (t : Instant) : Prop :=
  ∃ s, reading s ∧ s.truncate = t

theorem Kept.micros {reading : Instant → Prop} {t : Instant} (h : t.Kept reading) :
    t.truncate = t := by
  obtain ⟨s, -, rfl⟩ := h
  exact s.truncate_truncate

theorem Kept.toWritable {t : Instant} (h : t.Kept Storable) : t.Kept Writable := by
  obtain ⟨s, hs, ht⟩ := h
  exact ⟨s, hs.writable, ht⟩

theorem Kept.writable {t : Instant} (h : t.Kept Writable) : t.Writable := by
  obtain ⟨s, hs, rfl⟩ := h
  exact hs.truncate

end Time.Instant

namespace Store

@[simp] theorem Cell.text_beq (s s' : String) : (Cell.text s == Cell.text s') = (s == s') := by
  rw [Bool.eq_iff_iff, beq_iff_eq, beq_iff_eq, Cell.text.injEq]

/-- What is read is the point in time that was stored, to the microsecond. -/
theorem readTime_storedTime {t : Instant} (h : t.Writable) :
    readTime (storedTime t) = .ok t.truncate := by
  rw [readTime, storedTime, String.toList_ofList, h.ofStored]
  rfl

theorem readTime_of_kept {t : Instant} (h : t.Kept Instant.Writable) :
    readTime (storedTime t) = .ok t := by
  rw [readTime_storedTime h.writable, h.micros]

theorem readId_text (what : String) (u : Uuid) : readId what u.text = .ok u := by
  rw [readId, u.ofText_text]
  rfl

theorem decode_ofConversation {c : Conversation}
    (hcreated : c.createdAt.Kept Instant.Writable)
    (hupdated : c.updatedAt.Kept Instant.Writable) :
    (ConversationRow.ofConversation c).decode = .ok { c with messages := [] } := by
  have hstatus : (Status.ofName c.status.name).mapError StoreError.query = .ok c.status := by
    rw [c.status.ofName_name]
    rfl
  simp only [ConversationRow.decode, ConversationRow.ofConversation, Cell.read, readId_text,
    ok_bind, hstatus, readTime_of_kept hcreated, readTime_of_kept hupdated]
  rfl

theorem decode_ofMessage {m : ChatMessage} (hcreated : m.createdAt.Kept Instant.Writable) :
    (MessageRow.ofMessage m).decode = .ok m := by
  have hrole : (Role.ofName m.role.name).mapError StoreError.query = .ok m.role := by
    rw [m.role.ofName_name]
    rfl
  simp only [MessageRow.decode, MessageRow.ofMessage, Cell.read, readId_text, ok_bind, hrole,
    readTime_of_kept hcreated]
  rfl

end Store

end ChatRelay
