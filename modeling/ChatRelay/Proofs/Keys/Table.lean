import ChatRelay.Keys.Table

/-!
# Key tables that are reached

No two rows of a key table share an identifier or a digest, because a key that
would do so is not inserted (`KeyTable.Reachable.distinct`). So a key has one
holder at most, and when it is used this is noted in its row and in no other
(`KeyTable.authenticate_of_mem`).
-/

namespace ChatRelay

open Time (Instant)

/-- A row of a key that was used. -/
def KeyRow.usedAt (row : KeyRow) (now : Instant) : KeyRow :=
  { row with lastUsedAt := some now }

namespace KeyTable

/-- The key tables that are reached from an empty one. A key is inserted when neither its identifier
nor its digest is taken. -/
inductive Reachable : KeyTable → Prop where
  | empty : Reachable {}
  | create {t : KeyTable} (h : Reachable t) (owner : UserId) (name : String) {id : Uuid}
      {secret : List UInt8} (now : Instant) (hid : ∀ row ∈ t.rows, row.id ≠ id)
      (hdigest : ∀ row ∈ t.rows, row.digest ≠ Sha256.digest (keyOf secret)) :
      Reachable (t.create owner name id secret now).2
  | authenticate {t : KeyTable} (h : Reachable t) (key : String) (now : Instant) :
      Reachable (t.authenticate key now).2

/-- No two rows share an identifier or a digest. -/
def Distinct (t : KeyTable) : Prop :=
  t.rows.Pairwise fun row row' => row.id ≠ row'.id ∧ row.digest ≠ row'.digest

variable {t : KeyTable} {key : String}

theorem Distinct.eq_of_shared (h : t.Distinct) {row row' : KeyRow} (hrow : row ∈ t.rows)
    (hrow' : row' ∈ t.rows) (hshared : row.id = row'.id ∨ row.digest = row'.digest) :
    row = row' := by
  refine List.Pairwise.forall_of_forall_of_flip
    (R := fun row row' => row.id = row'.id ∨ row.digest = row'.digest → row = row')
    (fun _ _ _ => rfl) (h.imp ?_) (h.imp ?_) hrow hrow' hshared
  · exact fun hne hshared => (hshared.elim hne.1 hne.2).elim
  · exact fun hne hshared => (hshared.elim (hne.1 ·.symm) (hne.2 ·.symm)).elim

/-- A key that nobody holds is unknown, and nothing is noted. -/
theorem authenticate_of_forall_ne (h : ∀ row ∈ t.rows, row.digest ≠ Sha256.digest key)
    (now : Instant) : t.authenticate key now = (none, t) := by
  have hnone : t.rows.find? (·.digest == Sha256.digest key) = none :=
    List.find?_eq_none.2 fun row hrow => by simpa using h row hrow
  rw [authenticate, hnone]

/-- The holder of a key is known by its digest. That the key was used is noted in its row. -/
theorem authenticate_of_mem (h : t.Distinct) {row : KeyRow} (hrow : row ∈ t.rows)
    (hdigest : row.digest = Sha256.digest key) (now : Instant) :
    t.authenticate key now =
      (some row.owner,
        { rows := t.rows.map fun row' => if row' = row then row.usedAt now else row' }) := by
  have hfind : t.rows.find? (·.digest == Sha256.digest key) = some row := by
    cases hfind : t.rows.find? (·.digest == Sha256.digest key) with
    | none => exact absurd (beq_iff_eq.2 hdigest) (List.find?_eq_none.1 hfind row hrow)
    | some found =>
      have hsame : found.digest = Sha256.digest key := by simpa using List.find?_some hfind
      rw [h.eq_of_shared (List.mem_of_find?_eq_some hfind) hrow (.inr (hsame.trans hdigest.symm))]
  have hmap : (t.rows.map fun row' =>
        if row'.id = row.id then { row' with lastUsedAt := some now } else row') =
      t.rows.map fun row' => if row' = row then row.usedAt now else row' := by
    refine List.map_congr_left fun row' hrow' => ?_
    by_cases hid : row'.id = row.id
    · rw [h.eq_of_shared hrow' hrow (.inl hid), if_pos rfl, if_pos rfl]
      rfl
    · rw [if_neg hid, if_neg fun heq => hid (by rw [heq])]
  rw [authenticate, hfind]
  exact congrArg (fun rows => (some row.owner, ({ rows } : KeyTable))) hmap

theorem authenticate_rows (t : KeyTable) (key : String) (now : Instant) :
    ∃ f : KeyRow → KeyRow, (∀ row, (f row).id = row.id ∧ (f row).digest = row.digest) ∧
      (t.authenticate key now).2.rows = t.rows.map f := by
  rw [authenticate]
  cases t.rows.find? (·.digest == Sha256.digest key) with
  | none => exact ⟨id, fun _ => ⟨rfl, rfl⟩, (List.map_id _).symm⟩
  | some row =>
    refine ⟨_, fun row' => ?_, rfl⟩
    split <;> exact ⟨rfl, rfl⟩

/-- A key table that is reached has distinct rows, by induction on how it is reached. -/
theorem Reachable.distinct (h : t.Reachable) : t.Distinct := by
  induction h with
  | empty => exact .nil
  | create _ owner name now hid hdigest ih =>
    refine List.pairwise_append.2 ⟨ih, List.pairwise_singleton _ _, fun row hrow row' hrow' => ?_⟩
    rw [List.mem_singleton.1 hrow']
    exact ⟨hid row hrow, hdigest row hrow⟩
  | @authenticate t _ key now ih =>
    obtain ⟨f, hf, hrows⟩ := t.authenticate_rows key now
    rw [Distinct, hrows]
    refine List.pairwise_map.2 (ih.imp fun hne => ?_)
    rwa [(hf _).1, (hf _).1, (hf _).2, (hf _).2]

end KeyTable

end ChatRelay
