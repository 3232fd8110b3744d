import ChatRelay.Proofs.Store.Reading

/-!
# Looking up a conversation

What `Store.get` finds in any store, whatever its rows hold. It finds nothing
exactly when no row fits (`get_eq_none_iff`).
-/

namespace ChatRelay.Store

/-- Nothing is found where no row fits. -/
theorem get_eq_none_iff (s : Store) (f : Filter) :
    s.get f = .ok none ↔ ∀ row ∈ s.conversations, row.fits f = false := by
  rw [← select_eq_nil_iff, get]
  cases s.select f with
  | nil => simp
  | cons row rows =>
    constructor
    · -- a row that fits is read, or it is the reason for a failure
      intro h
      obtain ⟨c, -, h⟩ := Records.bind_eq_ok h
      obtain ⟨ms, -, h⟩ := Records.bind_eq_ok h
      cases h
    · intro h
      cases h

theorem fits_byUid_ownedBy (row : ConversationRow) (uid : String) (owner : UserId) :
    row.fits ((Filter.byUid uid).ownedBy owner) = true ↔
      row.uid = .text uid ∧ row.owner = .text owner.text := by
  simp [ConversationRow.fits, Filter.byUid, Filter.ownedBy]

/-- A conversation of a user is looked for in vain when no row has its handle and that user. -/
theorem get_byUid_ownedBy_eq_none_iff (s : Store) (uid : String) (owner : UserId) :
    s.get ((Filter.byUid uid).ownedBy owner) = .ok none ↔
      ∀ row ∈ s.conversations, row.uid = .text uid → row.owner ≠ .text owner.text := by
  simp only [get_eq_none_iff, ← Bool.not_eq_true, fits_byUid_ownedBy, not_and, ne_eq]

end ChatRelay.Store
