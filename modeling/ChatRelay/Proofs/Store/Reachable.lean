import ChatRelay.Proofs.Store.Records

/-!
# Stores that are reached

`Reachable reading s now` says that operations lead from an empty store to `s`
when the clock has some readings and does not go back, and that the last reading
was not after `now`. Such a store keeps sound records (`Reachable.records`).
-/

namespace ChatRelay.Store

open Time (Instant)

/-- The stores that operations lead to. -/
inductive Reachable (reading : Instant → Prop) : Store → Instant → Prop where
  | empty (now : Instant) : Reachable reading {} now
  | create {s : Store} {t now : Instant} (h : Reachable reading s t) (hnow : reading now)
      (hle : t ≤ now) (owner : UserId) (title : String) (status : Status) (id : Uuid)
      (uid : String) : Reachable reading (s.create owner title status id uid now).2 now
  | update {s : Store} {t now : Instant} (h : Reachable reading s t) (hnow : reading now)
      (hle : t ≤ now) (u : Update) : Reachable reading (s.update u now).2 now
  | delete {s : Store} {t : Instant} (h : Reachable reading s t) (f : Filter) :
      Reachable reading (s.delete f).2 t
  | addMessage {s : Store} {t now : Instant} (h : Reachable reading s t) (hnow : reading now)
      (hle : t ≤ now) (conversationId : Uuid) (role : Role) (content : String) (id : Uuid) :
      Reachable reading (s.addMessage conversationId role content id now).2 now

/-- A store that is reached keeps sound records. -/
theorem Reachable.records {reading : Instant → Prop} {s : Store} {now : Instant}
    (h : Reachable reading s now) : ∃ r : Records, s = r.rows ∧ r.Sound reading now := by
  induction h with
  | empty now => exact ⟨{}, rfl, .empty now⟩
  | @create s t now _ hnow hle owner title status id uid ih =>
    obtain ⟨r, rfl, hsound⟩ := ih
    by_cases hnew : ∀ c ∈ r.conversations, c.id ≠ id ∧ c.uid ≠ uid
    · rw [Records.create_rows owner title status now hnew]
      exact ⟨_, rfl, (hsound.mono hle).addConversation (Records.created_kept _ _ _ _ _ hnow) hnew⟩
    · rw [Records.create_rows_taken owner title status now hnew]
      exact ⟨r, rfl, hsound.mono hle⟩
  | @update s t now _ hnow hle u ih =>
    obtain ⟨r, rfl, hsound⟩ := ih
    exact ⟨_, r.update_rows u now, hsound.change hnow hle u⟩
  | @delete s t _ f ih =>
    obtain ⟨r, rfl, hsound⟩ := ih
    rw [Records.delete_rows]
    split
    · exact ⟨r, rfl, hsound⟩
    · exact ⟨_, rfl, hsound.remove _⟩
  | @addMessage s t now _ hnow hle conversationId role content id ih =>
    obtain ⟨r, rfl, hsound⟩ := ih
    by_cases h : (∀ m ∈ r.messages, m.id ≠ id) ∧ ∃ c ∈ r.conversations, c.id = conversationId
    · have hadd := Records.addMessage_rows
        { id, conversationId, role, content, createdAt := now.truncate } now rfl h.1 h.2
      rw [hadd]
      exact ⟨_, rfl, hsound.addMessage hnow hle rfl h.1 h.2⟩
    · rw [Records.addMessage_rows_refused role content now h]
      exact ⟨r, rfl, hsound.mono hle⟩

end ChatRelay.Store
