import ChatRelay.Proofs.Service.Effects
import ChatRelay.Proofs.Service.History
import ChatRelay.Proofs.Store.Filter

/-!
# One meaning of a filter

To find, to read and to delete conversations means the same ones. In every store that
is reached, and for every filter, all three agree with what the filter says of the
conversations that can be read (`Reached.filter_agrees`).
-/

namespace ChatRelay.Service

open Program (perform)
open Store (ConversationRow Deleted Found Listed MessageRow)

/-- In a store that is reached all rows can be read, and a filter finds those conversations of which
all fields are equal to what it sets, most recently changed first. The first of them is read with
its messages. Where something is set, they are deleted with their messages, and then nothing is
found; where nothing is set, nothing is deleted. -/
theorem Reached.filter_agrees {s : Store} (h : Reached s) (f : Filter) :
    ∃ all messages found,
      s.conversations.mapM ConversationRow.decode = .ok all ∧
      s.messages.mapM MessageRow.decode = .ok messages ∧
      s.find f = .ok found ∧ Found f all found ∧
      (found = [] ∧ s.get f = .ok none ∨
        ∃ c rest listed, found = c :: rest ∧ Listed c.id messages listed ∧
          s.get f = .ok (some { c with messages := listed })) ∧
      (f ≠ {} → ∃ s', s.delete f = (.ok (), s') ∧ Deleted found s s' ∧ s'.find f = .ok []) ∧
      (f = {} → ∃ e, s.delete f = (.error e, s)) := by
  obtain ⟨r, hrows, hkeyed, hlegible⟩ := h.records
  replace hkeyed := hkeyed.strip
  replace hlegible := hlegible.strip
  have hbare := r.strip_bare
  rw [← r.rows_strip] at hrows
  generalize r.strip = r at hrows hkeyed hlegible hbare
  subst hrows
  obtain ⟨hall, hmessages⟩ := hlegible.decode_all hbare
  refine ⟨r.conversations, r.messages, r.found f, hall, hmessages, hlegible.find_found hbare f,
    hkeyed.found hbare f, ?_, fun hf => ?_, fun hf => ?_⟩
  · have hget := hlegible.get_found f
    cases hfound : r.found f with
    | nil =>
      rw [hfound] at hget
      exact .inl ⟨rfl, hget⟩
    | cons c rest =>
      rw [hfound] at hget
      exact .inr ⟨c, rest, r.listed c.id, rfl, r.listed_messages c.id, hget⟩
  · have hleft := (hlegible.remove fun c => f.Matches c).find_found
      (fun c hc => hbare c (List.mem_filter.1 hc).1) f
    rw [r.found_remove] at hleft
    exact ⟨_, r.delete_matches hf, hkeyed.deleted f, hleft⟩
  · exact r.rows.delete_refused (Filter.isEmpty_iff.2 hf)

/-- Two users have conversations, and the clock stands still: of two that were created at the same
time the later one is found first. What one user deletes is gone with its message, and the other
keeps his conversation. -/
theorem Reached.filter_agrees_two_users :
    let env : Environment Unit :=
      { clock := fun _ => ⟨0, 0⟩
        ids := Uuid.ofNat
        provider :=
          { create := fun _ => .ok ()
            stream := fun _ _ _ => ([], ())
            complete := fun _ _ _ => (.error .authenticationFailed, ()) } }
    let p : Program Unit := do
      let _ ← perform (.createConversation ⟨"ada"⟩ "Notes" .active)
      let _ ← perform (.createMessage (.ofNat 0) .user "Hello?")
      let _ ← perform (.createConversation ⟨"bob"⟩ "Plans" .active)
      let _ ← perform (.createConversation ⟨"ada"⟩ "Drafts" .active)
    let s := (p.run env { provider := () }).2.store
    let f : Filter := { owner := some ⟨"ada"⟩, status := some .active }
    ∃ found s', s.find f = .ok found ∧
      (found.filter fun c => c.updatedAt = ⟨0, 0⟩).map (·.title) = ["Drafts", "Notes"] ∧
      s.delete f = (.ok (), s') ∧ Deleted found s s' ∧ s'.conversations.length = 1 ∧
      s'.messages = [] ∧ s'.find f = .ok [] := by
  intro env p s f
  have hstorable : (⟨0, 0⟩ : Time.Instant).Storable := ⟨by decide, by decide, by decide⟩
  have hreached : Reached s := ⟨Unit, env, { provider := () }, p, fun _ => hstorable, rfl, rfl⟩
  have hgiven : f ≠ {} := by decide
  have htitles : ((s.conversations.mapM ConversationRow.decode).map fun all =>
      (((all.filter fun c => f.Matches c).filter fun c => c.updatedAt = ⟨0, 0⟩).reverse.map
        (·.title))) = .ok ["Drafts", "Notes"] := by decide +kernel
  have hleft : (s.delete f).2.conversations.length = 1 ∧ (s.delete f).2.messages = [] := by
    decide +kernel
  obtain ⟨all, -, found, hall, -, hfind, hfound, -, hdelete, -⟩ := hreached.filter_agrees f
  obtain ⟨s', hdeleted, hgone, hempty⟩ := hdelete hgiven
  rw [hall] at htitles
  rw [hdeleted] at hleft
  refine ⟨found, s', hfind, ?_, hdeleted, hgone, hleft.1, hleft.2, hempty⟩
  rw [hfound.ties]
  exact Except.ok.inj htitles

end ChatRelay.Service
