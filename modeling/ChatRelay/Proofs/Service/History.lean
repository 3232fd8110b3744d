import ChatRelay.Proofs.Service.Keeping
import ChatRelay.Proofs.Service.Transcript
import ChatRelay.Proofs.Store.Changes

/-!
# The store through time

What holds of a store after any calls, because it holds of an empty store and one
call keeps it. `World.step_records` says what a call makes of the records of the
store, and the invariants of `Records.Step` are carried through a run by induction
on the program.

* `Reached.records`: a store that is reached keeps records that can be read, even
  when the clock goes back.
* `Program.run_consistent`: when it does not go back, and no identifier is made up
  twice, the messages that are listed of a conversation are those that were added
  to it.

Conversations can be deleted, and the messages that were added to them are then no
longer there. So what is listed is compared with what was added for those that are
left (`World.Recorded`), and it matters that a new conversation does not take the
identifier of a deleted one.
-/

namespace ChatRelay.Service

open Store (Records)
open Time (Instant)

variable {α σ : Type}

/-! ## One call -/

/-- An identifier that is the `n`-th or a later one, but before the `k`-th. -/
def Environment.Made (env : Environment σ) (n k : Nat) (id : Uuid) : Prop :=
  ∃ i, n ≤ i ∧ i < k ∧ env.ids i = id

theorem Environment.Made.mono {env : Environment σ} {n k n' k' : Nat} {id : Uuid}
    (h : env.Made n k id) (hn : n' ≤ n) (hk : k ≤ k') : env.Made n' k' id := by
  obtain ⟨i, hi, hik, hid⟩ := h
  exact ⟨i, Nat.le_trans hn hi, Nat.lt_of_lt_of_le hik hk, hid⟩

theorem Environment.Steady.mono {env : Environment σ} {reading : Instant → Prop} {n n' : Nat}
    (h : env.Steady reading n) (hn : n ≤ n') : env.Steady reading n' :=
  ⟨fun i hi => h.reads i (Nat.le_trans hn hi), fun i hi => h.order i (Nat.le_trans hn hi)⟩

namespace World

variable {env : Environment σ} {w : World σ} {r : Records}

/-- What an operation makes of the records that it is carried out on. -/
theorem act?_records {c : Call} {f : Store → c.Answer × Store} (hf : c.act? env w = some f)
    (r : Records) :
    ∃ r', (f r.rows).2 = r'.rows ∧
      r.Step (env.clock w.readings) (env.Made w.idsUsed (w.idsUsed + c.ids))
        (∃ f, c = .deleteConversation f) (Answered.message? ⟨c, (f r.rows).1⟩) r' := by
  cases c with
  | createConversation owner title status =>
    cases hf
    dsimp only
    by_cases hnew : ∀ c ∈ r.conversations,
        c.id ≠ env.ids w.idsUsed ∧ c.uid ≠ (env.ids (w.idsUsed + 1)).text
    · rw [Records.create_rows owner title status _ hnew]
      have hmade : env.Made w.idsUsed (w.idsUsed + 2) (env.ids w.idsUsed) :=
        ⟨_, Nat.le_refl _, Nat.lt_add_of_pos_right Nat.two_pos, rfl⟩
      exact ⟨_, rfl, .create owner title status hmade hnew⟩
    · exact ⟨r, Records.create_rows_taken owner title status _ hnew, .keep⟩
  | updateConversation u =>
    cases hf
    exact ⟨_, r.update_rows u _, .update u⟩
  | deleteConversation filter =>
    cases hf
    dsimp only
    rw [Records.delete_rows]
    split
    · exact ⟨r, rfl, .keep⟩
    · exact ⟨_, rfl, .delete ⟨filter, rfl⟩ _⟩
  | createMessage id role content =>
    cases hf
    dsimp only
    by_cases hplace : (∀ m ∈ r.messages, m.id ≠ env.ids w.idsUsed) ∧
        ∃ c ∈ r.conversations, c.id = id
    · have hadd : r.rows.addMessage id role content (env.ids w.idsUsed) (env.clock w.readings) =
          (.ok (newMessage env w id role content),
            (r.addMessages [newMessage env w id role content]).rows) :=
        Records.addMessage_rows (newMessage env w id role content) _ rfl hplace.1 hplace.2
      rw [hadd]
      exact ⟨_, rfl, .addMessage rfl hplace.1 hplace.2⟩
    · have hrefused := Records.addMessage_rows_refused role content (env.clock w.readings) hplace
      obtain ⟨e, hadd⟩ | ⟨m, -, hadd⟩ := r.rows.addMessage_cases id role content
        (env.ids w.idsUsed) (env.clock w.readings)
      · rw [hadd]
        exact ⟨r, rfl, .keep⟩
      · rw [hadd] at hrefused
        have := congrArg Store.messages hrefused
        simp at this
  | findConversations | getConversation | listMessages =>
    cases hf
    exact ⟨r, rfl, .keep⟩
  | _ => cases hf

/-- What a call makes of the records of the store. -/
theorem step_records (env : Environment σ) (hstore : w.store = r.rows) (c : Call) :
    ∃ r', (w.step env c).2.store = r'.rows ∧
      r.Step (env.clock w.readings) (env.Made w.idsUsed (w.step env c).2.idsUsed)
        (∃ f, c = .deleteConversation f) (Answered.message? ⟨c, (w.step env c).1⟩) r' := by
  cases hf : c.act? env w with
  | none =>
    rw [(step_of_act?_eq_none hf).2, Call.message?_eq_none_of_act? hf]
    exact ⟨r, hstore, .keep⟩
  | some f =>
    obtain ⟨faults, hstep | ⟨a, ha, hstep⟩⟩ := step_cases_self hf
    · obtain ⟨r', hr', hmade⟩ := act?_records hf r
      rw [hstep, hstore]
      exact ⟨r', hr', hmade⟩
    · rw [hstep, ha.message?_eq_none]
      exact ⟨r, hstore, .keep⟩

end World

/-! ## Stores that are reached -/

/-- A store that a program leads to from an empty one, whatever calls it makes and whichever of them
fail. The clock has only readings that can be stored, but may go back, and an identifier may be made
up twice. -/
def Reached (s : Store) : Prop :=
  ∃ (σ : Type) (env : Environment σ) (w : World σ) (p : Program Unit),
    (∀ i, (env.clock i).Storable) ∧ w.store = {} ∧ (p.run env w).2.store = s

theorem Program.run_legible {env : Environment σ} (hclock : ∀ i, (env.clock i).Storable)
    (p : Program α) {w : World σ} {r : Records} (hstore : w.store = r.rows) (hkeyed : r.Keyed)
    (hlegible : r.Legible) :
    ∃ r' : Records, (p.run env w).2.store = r'.rows ∧ r'.Keyed ∧ r'.Legible := by
  induction p generalizing w r with
  | done a => exact ⟨r, hstore, hkeyed, hlegible⟩
  | call c next ih =>
    obtain ⟨r', hstore', hstep⟩ := World.step_records env hstore c
    exact ih _ hstore' (hstep.keyed hkeyed) (hstep.legible hlegible (hclock _).writable)

/-- A store that is reached keeps records that can be read. -/
theorem Reached.records {s : Store} (h : Reached s) :
    ∃ r : Records, s = r.rows ∧ r.Keyed ∧ r.Legible := by
  obtain ⟨σ, env, w, p, hclock, hempty, rfl⟩ := h
  exact p.run_legible (r := {}) hclock hempty ⟨.nil, nofun⟩ ⟨nofun, nofun⟩

/-! ## What is listed of a conversation -/

/-- The identifiers from the `n`-th on and before the `k`-th are different. -/
def Environment.Distinct (env : Environment σ) (n k : Nat) : Prop :=
  ∀ i j, n ≤ i → i < j → j < k → env.ids i ≠ env.ids j

theorem Environment.Distinct.ne {env : Environment σ} {n l k : Nat} (h : env.Distinct n k)
    {id id' : Uuid} (hid : env.Made n l id) (hid' : env.Made l k id') : id ≠ id' := by
  obtain ⟨i, hi, hil, rfl⟩ := hid
  obtain ⟨j, hj, hjk, rfl⟩ := hid'
  exact h i j hi (Nat.lt_of_lt_of_le hil hj) hjk

/-- A world whose store keeps sound records, and of every conversation the messages that were
`added` to it, since the `first` identifier was made up. -/
structure World.Recorded (env : Environment σ) (first : Nat) (added : List ChatMessage)
    (r : Records) (w : World σ) : Prop where
  store : w.store = r.rows
  steady : env.Steady Instant.Storable w.readings
  sound : r.Sound Instant.Storable (env.clock w.readings)
  begun : first ≤ w.idsUsed
  made : ∀ c ∈ r.conversations, env.Made first w.idsUsed c.id
  placed : ∀ m ∈ added, env.Made first w.idsUsed m.conversationId
  listed : ∀ c ∈ r.conversations,
    r.messagesIn c.id = added.filter fun m => m.conversationId == c.id

namespace World.Recorded

variable {env : Environment σ} {first : Nat} {added : List ChatMessage} {r : Records} {w : World σ}

/-- Nothing was added yet to a conversation whose identifier is made up now. -/
theorem listed_of_made (h : w.Recorded env first added r) {k : Nat} {id : Uuid}
    (hdistinct : env.Distinct first k) (hmade : env.Made w.idsUsed k id) :
    r.messagesIn id = added.filter fun m => m.conversationId == id := by
  rw [Records.messagesIn_eq_nil h.sound.keyed fun c hc => hdistinct.ne (h.made c hc) hmade]
  refine (List.filter_eq_nil_iff.2 fun m hm heq => ?_).symm
  exact hdistinct.ne (h.placed m hm) hmade (beq_iff_eq.1 heq)

theorem step (h : w.Recorded env first added r) (c : Call)
    (hdistinct : env.Distinct first (w.step env c).2.idsUsed) :
    ∃ r', (w.step env c).2.Recorded env first
      (added ++ (Answered.message? ⟨c, (w.step env c).1⟩).toList) r' := by
  obtain ⟨r', hstore, hstep⟩ := step_records env h.store c
  have hreadings := w.step_readings_le env c
  have hids := (w.step_idsUsed env c).1
  refine ⟨r', hstore, h.steady.mono hreadings, ?_, Nat.le_trans h.begun hids, fun c' hc' => ?_,
    fun m hm => ?_, fun c' hc' => ?_⟩
  · have hnow := h.steady.reads _ (Nat.le_refl _)
    exact (hstep.sound h.sound hnow (Instant.le_refl _)).mono (h.steady.le hreadings)
  · obtain ⟨d, hd, hid⟩ | hmade := hstep.origin hc'
    · exact hid ▸ (h.made d hd).mono (Nat.le_refl _) hids
    · exact hmade.mono h.begun (Nat.le_refl _)
  · rcases List.mem_append.1 hm with hm | hm
    · exact (h.placed m hm).mono (Nat.le_refl _) hids
    · obtain ⟨d, hd, hid⟩ := hstep.target (Option.mem_toList.1 hm)
      exact hid ▸ (h.made d hd).mono (Nat.le_refl _) hids
  · obtain hlisted | ⟨-, -, hgone⟩ := hstep.listed h.sound.keyed c'.id
    · rw [hlisted, List.filter_append]
      congr 1
      obtain ⟨d, hd, hid⟩ | hmade := hstep.origin hc'
      · exact hid ▸ h.listed d hd
      · exact h.listed_of_made hdistinct hmade
    · exact absurd rfl (hgone c' hc')

end World.Recorded

theorem Program.run_recorded {env : Environment σ} (p : Program α) {first : Nat}
    {added : List ChatMessage} {r : Records} {w : World σ} (h : w.Recorded env first added r)
    (hdistinct : env.Distinct first (p.run env w).2.idsUsed) :
    ∃ r', (p.run env w).2.Recorded env first (added ++ addedMessages (p.transcript env w)) r' := by
  induction p generalizing w added r with
  | done a => exact ⟨r, (List.append_nil added).symm ▸ h⟩
  | call c next ih =>
    have hids := run_idsUsed_le env (next (w.step env c).1) (w.step env c).2
    obtain ⟨r', hnext⟩ := h.step c fun i j hi hij hj =>
      hdistinct i j hi hij (Nat.lt_of_lt_of_le hj hids)
    obtain ⟨r'', hfinal⟩ := ih _ hnext hdistinct
    refine ⟨r'', ?_⟩
    rw [transcript, addedMessages, List.filterMap_cons]
    rw [List.append_assoc] at hfinal
    cases hm : Answered.message? ⟨c, (w.step env c).1⟩ <;> rw [hm] at hfinal <;> exact hfinal

/-! ## The next call -/

/-- A call that deletes a conversation that is there. -/
structure World.Deletes (env : Environment σ) (w : World σ) (c : Call) (id : Uuid) : Prop where
  call : ∃ f, c = .deleteConversation f
  before : ∃ row ∈ w.store.conversations, row.id = .text id.text
  after : ∀ row ∈ (w.step env c).2.store.conversations, row.id ≠ .text id.text

/-- A world in which the next call does no more to what is listed of a conversation than to put a
message behind it, unless it deletes the conversation. -/
structure World.OnlyAppends (env : Environment σ) (w : World σ) : Prop where
  appends : ∀ id role content l m, w.store.messagesOf id = .ok l →
    (w.step env (.createMessage id role content)).1 = .ok m →
      (w.step env (.createMessage id role content)).2.store.messagesOf id = .ok (l ++ [m])
  keeps : ∀ c id l, w.store.messagesOf id = .ok l →
    (∀ m, Answered.message? ⟨c, (w.step env c).1⟩ = some m → m.conversationId ≠ id) →
      (w.step env c).2.store.messagesOf id = .ok l ∨ w.Deletes env c id

namespace World.Recorded

variable {env : Environment σ} {first : Nat} {added : List ChatMessage} {r : Records} {w : World σ}

theorem messagesOf (h : w.Recorded env first added r) (id : Uuid) :
    w.store.messagesOf id = .ok (r.messagesIn id) := by
  rw [h.store]
  exact h.sound.messagesOf_rows id

/-- What is listed of a conversation after another call. -/
theorem step_messagesOf (h : w.Recorded env first added r) (c : Call) (id : Uuid) :
    (w.step env c).2.store.messagesOf id =
        .ok (r.messagesIn id ++ (Answered.message? ⟨c, (w.step env c).1⟩).toList.filter
          fun m => m.conversationId == id) ∨
      w.Deletes env c id := by
  obtain ⟨r', hstore, hstep⟩ := step_records env h.store c
  have hsound := hstep.sound h.sound (h.steady.reads _ (Nat.le_refl _)) (Instant.le_refl _)
  obtain hlisted | ⟨hdeletes, ⟨d, hd, rfl⟩, hgone⟩ := hstep.listed h.sound.keyed id
  · rw [hstore, ← hlisted]
    exact .inl (hsound.messagesOf_rows id)
  · have hthere : .ofConversation d ∈ w.store.conversations := by
      rw [h.store]
      exact List.mem_map_of_mem hd
    refine .inr ⟨hdeletes, ⟨_, hthere, rfl⟩, fun row hrow hid => ?_⟩
    rw [hstore] at hrow
    obtain ⟨c', hc', rfl⟩ := List.mem_map.1 hrow
    exact hgone c' hc' (Uuid.text_inj.1 (Store.Cell.text.inj hid))

theorem onlyAppends (h : w.Recorded env first added r) : w.OnlyAppends env where
  appends id role content l m hl hm := by
    obtain rfl := Except.ok.inj (hl.symm.trans (h.messagesOf id))
    obtain hlisted | ⟨⟨f, hdelete⟩, -, -⟩ := h.step_messagesOf (.createMessage id role content) id
    · have hid := (of_step_createMessage_ok hm).1
      rw [hm] at hlisted
      simpa [Answered.message?, hid] using hlisted
    · cases hdelete
  keeps c id l hl hother := by
    obtain rfl := Except.ok.inj (hl.symm.trans (h.messagesOf id))
    have hnone : (Answered.message? ⟨c, (w.step env c).1⟩).toList.filter
        (fun m => m.conversationId == id) = [] :=
      List.filter_eq_nil_iff.2 fun m hm hid => hother m (Option.mem_toList.1 hm) (beq_iff_eq.1 hid)
    have hlisted := h.step_messagesOf c id
    rwa [hnone, List.append_nil] at hlisted

end World.Recorded

/-- Whatever calls a program makes on a store that was empty, in whatever order, and whichever of
them fail, the store is consistent after them, and the messages that are listed of a conversation
are those that were added to it, in that order. Whatever call comes next adds to these lists at
most, or deletes a conversation. -/
theorem Program.run_consistent (p : Program α) {env : Environment σ} {w : World σ}
    (hempty : w.store = {}) (hclock : env.Steady Instant.Storable w.readings)
    (hids : env.Distinct w.idsUsed (p.run env w).2.idsUsed) :
    let final := (p.run env w).2
    let added := addedMessages (p.transcript env w)
    final.store.Consistent ∧
      (∀ id : Uuid, (∃ row ∈ final.store.conversations, row.id = .text id.text) →
        final.store.messagesOf id = .ok (added.filter fun m => m.conversationId == id)) ∧
      final.OnlyAppends env := by
  have hstart : w.Recorded env w.idsUsed [] {} :=
    ⟨hempty, hclock, .empty _, Nat.le_refl _, nofun, nofun, nofun⟩
  obtain ⟨r, hfinal⟩ := p.run_recorded hstart hids
  refine ⟨?_, fun id ⟨row, hrow, hid⟩ => ?_, hfinal.onlyAppends⟩
  · rw [hfinal.store]
    exact hfinal.sound.consistent
  · rw [hfinal.store] at hrow
    obtain ⟨c, hc, rfl⟩ := List.mem_map.1 hrow
    obtain rfl := Uuid.text_inj.1 (Store.Cell.text.inj hid)
    rw [hfinal.messagesOf, hfinal.listed c hc]
    rfl

/-- A conversation with a message is deleted, and there is another one. The store does not keep the
second message that is meant for it. -/
theorem Program.run_consistent_after_delete :
    let env : Environment Unit :=
      { clock := fun _ => ⟨0, 0⟩
        ids := Uuid.ofNat
        provider :=
          { create := fun _ => .ok ()
            stream := fun _ _ _ => ([], ())
            complete := fun _ _ _ => (.error .authenticationFailed, ()) } }
    let w : World Unit :=
      { provider := ()
        faults := fun
          | .createMessage => [.none, .none, .fails .connection]
          | _ => [] }
    let p : Program Unit := do
      let _ ← perform (.createConversation ⟨"ada"⟩ "Notes" .active)
      let _ ← perform (.createMessage (.ofNat 0) .user "Hello?")
      let _ ← perform (.deleteConversation (.byUid (Uuid.ofNat 1).text))
      let _ ← perform (.createConversation ⟨"ada"⟩ "Plans" .active)
      let _ ← perform (.createMessage (.ofNat 3) .user "Hello?")
      let _ ← perform (.createMessage (.ofNat 3) .user "Hello??")
      let _ ← perform (.createMessage (.ofNat 3) .assistant "Hi.")
    let final := (p.run env w).2
    final.store.Consistent ∧
      (∃ l, final.store.messagesOf (.ofNat 3) = .ok l ∧ l.map (·.content) = ["Hello?", "Hi."]) ∧
      final.OnlyAppends env := by
  intro env w p
  dsimp only
  have hstorable : (⟨0, 0⟩ : Instant).Storable := ⟨by decide, by decide, by decide⟩
  have hclock : env.Steady Instant.Storable w.readings :=
    ⟨fun _ _ => hstorable, fun _ _ => Instant.le_refl _⟩
  have hused : (p.run env w).2.idsUsed = 7 := by decide +kernel
  have hdistinct : env.Distinct w.idsUsed (p.run env w).2.idsUsed := by
    rw [hused]
    exact fun i j _ hij hj => Uuid.ofNat_ne hij (Nat.lt_trans hj (by decide))
  have hthere : ∃ row ∈ (p.run env w).2.store.conversations,
      row.id = .text (Uuid.ofNat 3).text := by
    decide +kernel
  have hcontents : ((addedMessages (p.transcript env w)).filter
      fun m => m.conversationId == .ofNat 3).map (·.content) = ["Hello?", "Hi."] := by
    decide +kernel
  obtain ⟨hconsistent, hlisted, happends⟩ := p.run_consistent rfl hclock hdistinct
  exact ⟨hconsistent, ⟨_, hlisted _ hthere, hcontents⟩, happends⟩

end ChatRelay.Service
