import ChatRelay.Proofs.Service.Alterations
import ChatRelay.Proofs.Service.Effects
import ChatRelay.Proofs.Store.Changes

/-!
# What was created is read later

The store keeps points in time as texts of one length that sort as the times do, so
what it returns when it creates a conversation or a message is what is read of it
later, in whatever store and after whatever other calls (`storedTime_faithful`).
Nothing else may take the conversation out of the store in between, and nobody may
change it.
-/

namespace ChatRelay.Service

open Store (Cell ConversationRow MessageRow readTime storedTime)
open Program (perform)
open Time (Instant)

variable {α σ : Type}

/-- The call takes no conversation out that a store has under an identifier. -/
def Call.Spares (s : Store) (id : Uuid) (c : Call) : Prop :=
  ∀ f, c = .deleteConversation f →
    ∀ row ∈ s.conversations, row.id = .text id.text → row.fits f = false

/-- The call does not change the conversation with a handle. -/
def Call.Leaves (uid : String) (c : Call) : Prop :=
  ∀ u, c = .updateConversation u → u.uid ≠ uid

variable {env : Environment σ} {w w' : World σ}

/-! ## A conversation -/

/-- The only row with a handle stays as it is where nobody changes or deletes it. -/
theorem Program.run_rowsOf {uid : String} {row : ConversationRow} {p : Program α}
    (hp : p.Does (fun c => c.Leaves uid ∧ ∀ f, c = .deleteConversation f → row.fits f = false)
      fun _ => True)
    (h : w.store.rowsOf uid = [row]) : (p.run env w).2.store.rowsOf uid = [row] := by
  refine hp.run_invariant env (P := fun w => w.store.rowsOf uid = [row]) (fun c hc w hw => ?_) h
  obtain hsame | ⟨u, hu, huid, -⟩ := World.step_rowsOf hw c hc.2
  · exact hsame
  · exact absurd huid (hc.1 u hu)

/-- A conversation that was created is found later as it was returned. -/
theorem World.created_is_read {owner : UserId} {title : String} {status : Status}
    {c : Conversation} (hnow : (env.clock w.readings).Writable)
    (h : w.step env (.createConversation owner title status) = (.ok c, w')) {p : Program α}
    (hp : p.Does (fun call => call.Leaves c.uid ∧ call.Spares w'.store c.id) fun _ => True) :
    (p.run env w').2.store.find (.byUid c.uid) = .ok [c] ∧
      (p.run env w').2.store.get (.byUid c.uid) =
        ((p.run env w').2.store.messagesOf c.id).map fun messages => some { c with messages } := by
  obtain ⟨rfl, hrow⟩ := rowsOf_of_created h
  have hmem : .ofConversation (newConversation env w owner title status) ∈ w'.store.conversations :=
    (List.mem_filter.1 (hrow ▸ List.mem_singleton.2 rfl)).1
  have hlater : (p.run env w').2.store.rowsOf _ = [_] := Program.run_rowsOf
    (hp.imp fun call hcall => ⟨hcall.1, fun f hf => hcall.2 f hf _ hmem rfl⟩) hrow
  have hkept : (env.clock w.readings).truncate.Kept Instant.Writable := ⟨_, hnow, rfl⟩
  have hdecode :
      (ConversationRow.ofConversation (newConversation env w owner title status)).decode =
        .ok (newConversation env w owner title status) :=
    Store.decode_ofConversation hkept hkept
  exact ⟨Store.find_byUid hlater hdecode, Store.get_byUid hlater hdecode⟩

/-! ## A message -/

/-- A store that has a message of a conversation, and of the rows under the identifier of that
conversation none that an earlier store had not. -/
structure Holds (before : Store) (m : ChatMessage) (s : Store) : Prop where
  alone : s.messages.filter (·.id == .text m.id.text) = [.ofMessage m]
  placed : ∃ row ∈ s.conversations, row.id = .text m.conversationId.text
  known : ∀ row ∈ s.conversations, row.id = .text m.conversationId.text →
    ∃ row' ∈ before.conversations, row'.id = row.id ∧ ∀ f, row.fits f = row'.fits f

/-- All messages of a conversation can be read. -/
def Listable (id : Uuid) (s : Store) : Prop :=
  ∀ row ∈ s.messages, row.conversationId = .text id.text → ∃ m, row.decode = .ok m

theorem Holds.step {before : Store} {m : ChatMessage} (h : Holds before m w.store) {c : Call}
    (hspares : c.Spares before m.conversationId) : Holds before m (w.step env c).2.store := by
  have halters := World.alters_step env w c
  generalize (w.step env c).1 = a, (w.step env c).2 = w' at halters ⊢
  obtain ⟨row, hrow, hid⟩ := h.placed
  cases halters with
  | nothing _ hstore =>
    rw [hstore]
    exact h
  | create hc hnew hstore =>
    rw [hstore]
    refine { h with placed := ⟨row, List.mem_append_left _ hrow, hid⟩, known := ?_ }
    intro row' hrow' hid'
    rcases List.mem_append.1 hrow' with hrow' | hrow'
    · exact h.known row' hrow' hid'
    · rw [List.mem_singleton.1 hrow'] at hid'
      exact absurd (hid.trans hid'.symm) (hnew row hrow).1
  | @update u _ _ hstore =>
    rw [hstore, Store.update_snd]
    refine { h with placed := ⟨_, List.mem_map_of_mem hrow, ?_⟩, known := ?_ }
    · split <;> exact hid
    · intro row' hrow' hid'
      obtain ⟨old, hold, rfl⟩ := List.mem_map.1 hrow'
      have hsame : (if old.uid == .text u.uid then old.change u (env.clock w.readings)
          else old).id = old.id := by
        split <;> rfl
      obtain ⟨first, hfirst, hidFirst, hfits⟩ := h.known old hold (hsame ▸ hid')
      refine ⟨first, hfirst, hidFirst.trans hsame.symm, fun f => ?_⟩
      rw [← hfits f]
      split <;> rfl
  | @delete f _ hstore =>
    rw [hstore]
    -- no row under the identifier of the conversation fits
    have hkept : ∀ row ∈ w.store.conversations, row.id = .text m.conversationId.text →
        row.fits f = false := fun row hrow hid => by
      obtain ⟨first, hfirst, hidFirst, hfits⟩ := h.known row hrow hid
      rw [hfits f]
      exact hspares f rfl first hfirst (hidFirst.trans hid)
    have hstays : (!(w.store.conversations.filter (·.fits f)).any fun r =>
        r.id == (MessageRow.ofMessage m).conversationId) = true := by
      rw [Bool.not_eq_true', List.any_eq_false]
      intro r hr hid
      obtain ⟨hr, hfits⟩ := List.mem_filter.1 hr
      rw [hkept r hr (beq_iff_eq.1 hid)] at hfits
      cases hfits
    refine ⟨?_, ⟨row, List.mem_filter.2 ⟨hrow, by simp [hkept row hrow hid]⟩, hid⟩, ?_⟩
    · rw [Store.without, List.filter_comm, h.alone]
      exact List.filter_eq_self.2 fun r hr => List.mem_singleton.1 hr ▸ hstays
    · exact fun row' hrow' => h.known row' (List.mem_filter.1 hrow').1
  | @addMessage id role content m' hm hnew _ hstore =>
    rw [hstore]
    have hmem : MessageRow.ofMessage m ∈ w.store.messages :=
      (List.mem_filter.1 (h.alone ▸ List.mem_singleton.2 rfl)).1
    have hother : ((MessageRow.ofMessage m').id == .text m.id.text) = false :=
      beq_false_of_ne (hnew _ hmem).symm
    refine { h with alone := ?_ }
    rw [List.filter_append, h.alone, List.filter_cons_of_neg (by simp [hother])]
    rfl

theorem Holds.start {id : Uuid} {role : Role} {content : String} {m : ChatMessage}
    (h : w.step env (.createMessage id role content) = (.ok m, w')) :
    m = World.newMessage env w id role content ∧
      w'.store = { w.store with messages := w.store.messages ++ [.ofMessage m] } ∧
      Holds w'.store m w'.store := by
  have halters := World.alters_step env w (.createMessage id role content)
  rw [h] at halters
  generalize ha : (Except.ok m : Call.Answer (.createMessage id role content)) = a at halters
  cases halters with
  | nothing hnone => exact absurd ⟨m, ha.symm⟩ hnone
  | addMessage hm hnew hplace hstore =>
    cases ha
    rw [hstore]
    refine ⟨hm, rfl, ?_, ?_, fun row hrow hid => ⟨row, hrow, rfl, fun f => rfl⟩⟩
    · have hold : w.store.messages.filter (·.id == .text m.id.text) = [] :=
        List.filter_eq_nil_iff.2 fun row hrow hid => hnew row hrow (beq_iff_eq.1 hid)
      rw [List.filter_append, hold]
      simp [MessageRow.ofMessage]
    · rw [hm]
      exact hplace

theorem Listable.step {id : Uuid} (h : Listable id w.store) (c : Call)
    (hnow : (env.clock w.readings).Writable) : Listable id (w.step env c).2.store := by
  have halters := World.alters_step env w c
  generalize (w.step env c).1 = a, (w.step env c).2 = w' at halters ⊢
  cases halters with
  | nothing _ hstore | create _ _ hstore =>
    rw [hstore]
    exact h
  | update _ hstore =>
    rw [hstore, Store.update_snd]
    exact h
  | delete _ hstore =>
    rw [hstore]
    exact fun row hrow => h row (List.mem_filter.1 hrow).1
  | addMessage hm _ _ hstore =>
    rw [hstore]
    intro row hrow hid
    rcases List.mem_append.1 hrow with hrow | hrow
    · exact h row hrow hid
    · rw [List.mem_singleton.1 hrow, hm]
      exact ⟨_, Store.decode_ofMessage ⟨_, hnow, rfl⟩⟩

theorem listable_iff (id : Uuid) (s : Store) :
    Listable id s ↔ ∃ messages, s.messagesOf id = .ok messages := by
  constructor
  · intro h
    refine Store.Records.exists_mapM_eq_ok fun row hrow => ?_
    obtain ⟨hrow, hid⟩ := List.mem_filter.1 (List.mem_mergeSort.1 hrow)
    exact h row hrow (beq_iff_eq.1 hid)
  · rintro ⟨messages, h⟩ row hrow hid
    have hlisted := Store.Records.exists_of_mapM_eq_ok h
      (List.mem_mergeSort.2 (List.mem_filter.2 ⟨hrow, by simpa using hid⟩))
    obtain ⟨m, -, hm⟩ := hlisted
    exact ⟨m, hm⟩

/-- A message that was added is read later as it was returned. -/
theorem World.added_is_read {id : Uuid} {role : Role} {content : String} {m : ChatMessage}
    (hclock : ∀ i, w.readings ≤ i → (env.clock i).Writable)
    (h : w.step env (.createMessage id role content) = (.ok m, w')) {p : Program α}
    (hp : p.Does (·.Spares w'.store id) fun _ => True) :
    (p.run env w').2.store.messages.filter (·.id == .text m.id.text) = [.ofMessage m] ∧
      (MessageRow.ofMessage m).decode = .ok m ∧
      ((∃ messages, w.store.messagesOf id = .ok messages) →
        ∃ messages, (p.run env w').2.store.messagesOf id = .ok messages ∧ m ∈ messages) := by
  obtain ⟨hm, hstore, hholds⟩ := Holds.start h
  have hid : m.conversationId = id := congrArg ChatMessage.conversationId hm
  have hcreated : m.createdAt.Kept Instant.Writable := by
    rw [hm]
    exact ⟨_, hclock _ (Nat.le_refl _), rfl⟩
  have hdecode : (MessageRow.ofMessage m).decode = .ok m := Store.decode_ofMessage hcreated
  have hreadings : w.readings ≤ w'.readings := by
    have := w.step_readings_le env (.createMessage id role content)
    rwa [h] at this
  have hlater := hp.run_invariant env (P := fun v => Holds w'.store m v.store)
    (fun c hc v hv => hv.step (hid.symm ▸ hc)) hholds
  refine ⟨hlater.alone, hdecode, fun hlisted => ?_⟩
  have hstart : Listable id w'.store := by
    rw [hstore]
    intro row hrow hrowId
    rcases List.mem_append.1 hrow with hrow | hrow
    · exact (listable_iff id w.store).2 hlisted row hrow hrowId
    · rw [List.mem_singleton.1 hrow]
      exact ⟨m, hdecode⟩
  have hlistable := hp.run_invariant env
    (P := fun v => Listable id v.store ∧ w.readings ≤ v.readings)
    (fun c _ v hv => ⟨hv.1.step c (hclock _ hv.2), Nat.le_trans hv.2 (v.step_readings_le env c)⟩)
    ⟨hstart, hreadings⟩
  obtain ⟨messages, hmessages⟩ := (listable_iff _ _).1 hlistable.1
  have hmem : MessageRow.ofMessage m ∈ (p.run env w').2.store.messages :=
    (List.mem_filter.1 (hlater.alone ▸ List.mem_singleton.2 rfl)).1
  have hmine : ((MessageRow.ofMessage m).conversationId == .text id.text) = true := by
    rw [← hid]
    exact beq_self_eq_true _
  obtain ⟨m', hm', hread⟩ := Store.Records.exists_of_mapM_eq_ok hmessages
    (List.mem_mergeSort.2 (List.mem_filter.2 ⟨hmem, hmine⟩))
  have hsame : m = m' := Except.ok.inj (hdecode.symm.trans hread)
  exact ⟨messages, hmessages, hsame ▸ hm'⟩

/-! ## All points in time -/

/-- Points in time in the years 0 to 9999 are stored as texts of one length. Those that are full
microseconds are read back as they were, and are in the order of the bytes of their texts. To cut
points in time to the microsecond keeps their order, and a conversation or a message that was
created is read later as it was returned. -/
theorem storedTime_faithful :
    (∀ t : Instant, t.Writable →
      (storedTime t).length = 27 ∧ (Text.encodeUtf8 (storedTime t)).length = 27 ∧
        (t.truncate = t → readTime (storedTime t) = .ok t)) ∧
    (∀ s t : Instant, s.Writable → t.Writable → s.truncate = s → t.truncate = t →
      (Text.encodeUtf8 (storedTime s) < Text.encodeUtf8 (storedTime t) ↔ s.isBefore t = true) ∧
        (Text.encodeUtf8 (storedTime s) = Text.encodeUtf8 (storedTime t) ↔ s = t) ∧
        ((Cell.text (storedTime s)).le (.text (storedTime t)) = true ↔ t.isBefore s = false)) ∧
    (∀ s t : Instant, t.isBefore s = false → t.truncate.isBefore s.truncate = false) ∧
    (∀ (σ : Type) (env : Environment σ) (w w' : World σ) (owner : UserId) (title : String)
        (status : Status) (c : Conversation),
      (env.clock w.readings).Writable →
      w.step env (.createConversation owner title status) = (.ok c, w') →
      ∀ (α : Type) (p : Program α),
        p.Does (fun call => call.Leaves c.uid ∧ call.Spares w'.store c.id) (fun _ => True) →
        let later := (p.run env w').2.store
        later.find (.byUid c.uid) = .ok [c] ∧
          later.get (.byUid c.uid) =
            (later.messagesOf c.id).map fun messages => some { c with messages }) ∧
    (∀ (σ : Type) (env : Environment σ) (w w' : World σ) (id : Uuid) (role : Role)
        (content : String) (m : ChatMessage),
      (∀ i, w.readings ≤ i → (env.clock i).Writable) →
      w.step env (.createMessage id role content) = (.ok m, w') →
      ∀ (α : Type) (p : Program α), p.Does (·.Spares w'.store id) (fun _ => True) →
        let later := (p.run env w').2.store
        later.messages.filter (·.id == .text m.id.text) = [.ofMessage m] ∧
          (MessageRow.ofMessage m).decode = .ok m ∧
          ((∃ messages, w.store.messagesOf id = .ok messages) →
            ∃ messages, later.messagesOf id = .ok messages ∧ m ∈ messages)) := by
  refine ⟨fun t ht => ?_, fun s t hs ht hcutS hcutT => ?_, fun s t hst => ?_, ?_, ?_⟩
  · obtain ⟨hlength, hbytes⟩ := Store.length_storedTime ht
    refine ⟨hlength, hbytes, fun hcut => ?_⟩
    rw [Store.readTime_storedTime ht, hcut]
  · have hle := Store.storedTime_le_iff hs ht
    have hge := Store.storedTime_le_iff ht hs
    have hlt := Store.storedTime_lt_iff hs ht
    rw [hcutS, hcutT] at hle hge hlt
    refine ⟨?_, ⟨fun hsame => ?_, fun hsame => by rw [hsame]⟩,
      hle.trans Instant.le_iff_not_isBefore⟩
    · rw [hlt, Instant.le_iff_not_isBefore, Bool.not_eq_false]
    · have hself : ∀ bs, Cell.bytesLe bs bs = true := fun bs =>
        Store.bytesLe_iff.2 (List.lt_irrefl bs)
      simp only [Cell.le, Cell.bytes, hsame] at hle hge
      exact Instant.le_antisymm (hle.1 (hself _)) (hge.1 (hself _))
  · exact Instant.le_iff_not_isBefore.1
      (Instant.truncate_le_truncate (Instant.le_iff_not_isBefore.2 hst))
  · exact fun _ _ _ _ _ _ _ _ hnow h _ _ hp => World.created_is_read hnow h hp
  · exact fun _ _ _ _ _ _ _ _ hclock h _ _ hp => World.added_is_read hclock h hp

/-- Half of the leap second at the end of 2016 has passed when a conversation is created, and a
message is added in the next second. Both are read as they were returned, after another conversation
was deleted. -/
theorem storedTime_faithful_leap_second :
    let leap : Instant := ⟨1483228799, 1500000000⟩
    let next : Instant := ⟨1483228800, 250000000⟩
    let env : Environment Unit :=
      { clock := fun i => if i = 0 then leap else next
        ids := Uuid.ofNat
        provider :=
          { create := fun _ => .ok ()
            stream := fun _ _ _ => ([], ())
            complete := fun _ _ _ => (.error .authenticationFailed, ()) } }
    let w : World Unit := { provider := () }
    let c := World.newConversation env w ⟨"ada"⟩ "Notes" .active
    let w' := (w.step env (.createConversation ⟨"ada"⟩ "Notes" .active)).2
    let m := World.newMessage env w' c.id .user "Hello?"
    let w'' := (w'.step env (.createMessage c.id .user "Hello?")).2
    let p := perform (.deleteConversation (.byUid "plans"))
    readTime (storedTime leap) = .ok leap ∧
      storedTime leap = "2016-12-31T23:59:60.500000Z" ∧
      Text.encodeUtf8 (storedTime leap) < Text.encodeUtf8 (storedTime next) ∧
      (p.run env w').2.store.find (.byUid c.uid) = .ok [c] ∧
      ∃ messages, (p.run env w'').2.store.messagesOf c.id = .ok messages ∧ m ∈ messages := by
  intro leap next env w c w' m w'' p
  have hleap : leap.Writable := ⟨by decide +kernel, by decide +kernel, .inr (by decide)⟩
  have hnext : next.Writable := ⟨by decide +kernel, by decide +kernel, .inl (by decide)⟩
  have hclock : ∀ i, (env.clock i).Writable := fun i => by
    show (if i = 0 then leap else next).Writable
    split
    · exact hleap
    · exact hnext
  have hcreate : w.step env (.createConversation ⟨"ada"⟩ "Notes" .active) = (.ok c, w') := rfl
  have hadded : (w'.store.addMessage c.id .user "Hello?" (env.ids w'.idsUsed)
      (env.clock w'.readings)).1 = .ok m := by decide +kernel
  have hanswer : ∀ v : World Unit, v.faults = (fun _ => []) →
      (v.store.addMessage c.id .user "Hello?" (env.ids v.idsUsed)
        (env.clock v.readings)).1 = .ok m →
      (v.step env (.createMessage c.id .user "Hello?")).1 = .ok m := fun v hfaults hv => by
    rw [World.step_of_calm hfaults rfl]
    exact hv
  have hadd : w'.step env (.createMessage c.id .user "Hello?") = (.ok m, w'') :=
    (Prod.eta _).symm.trans (congrArg (fun a => (a, w'')) (hanswer w' rfl hadded))
  have hspares : ∀ row ∈ w'.store.conversations, row.id = .text c.id.text →
      row.fits (.byUid "plans") = false := by decide +kernel
  have hspares' : ∀ row ∈ w''.store.conversations, row.id = .text c.id.text →
      row.fits (.byUid "plans") = false := by decide +kernel
  have hempty : w'.store.messagesOf c.id = .ok [] := by decide +kernel
  have hdeletes : ∀ s : Store, (∀ row ∈ s.conversations, row.id = .text c.id.text →
      row.fits (.byUid "plans") = false) →
      (Call.deleteConversation (.byUid "plans")).Spares s c.id := fun s hs f hf => by
    rw [← Call.deleteConversation.inj hf]
    exact hs
  obtain ⟨hread, horder, -, hfound, hlisted⟩ := storedTime_faithful
  refine ⟨(hread leap hleap).2.2 (by decide), by decide +kernel,
    (horder leap next hleap hnext (by decide) (by decide)).1.2 (by decide), ?_, ?_⟩
  · refine (hfound Unit env w w' _ _ _ c (hclock 0) hcreate _ p ?_).1
    exact Program.Does.perform ⟨nofun, hdeletes _ hspares⟩ fun _ => trivial
  · refine (hlisted Unit env w' w'' _ _ _ m (fun i _ => hclock i) hadd _ p ?_).2.2 ⟨_, hempty⟩
    exact Program.Does.perform (hdeletes _ hspares') fun _ => trivial

end ChatRelay.Service
