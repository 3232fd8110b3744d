import ChatRelay.Proofs.Service.Calls
import ChatRelay.Proofs.Store.Records

/-!
# Calls to a store that works

In a calm world (`World.Calm`) the store keeps sound records and no call is made
to fail, the clock does not go back, and the next identifiers are new. A call to
the store then does to the records what its operation does, and the world that
comes of it is calm (`World.Becomes`).
-/

namespace ChatRelay.Service

open Store (Cell ConversationRow MessageRow Records)
open Time (Instant)

variable {σ : Type}

namespace Environment

/-- From the `n`-th reading on, the clock has some readings and does not go back. -/
structure Steady (env : Environment σ) (reading : Instant → Prop) (n : Nat) : Prop where
  reads : ∀ i, n ≤ i → reading (env.clock i)
  order : ∀ i, n ≤ i → env.clock i ≤ env.clock (i + 1)

/-- The `k` identifiers from the `n`-th on are different, and new to a store. -/
structure Fresh (env : Environment σ) (s : Store) (n k : Nat) : Prop where
  distinct : ∀ i j, n ≤ i → i < j → j < n + k → env.ids i ≠ env.ids j
  conversations : ∀ i, n ≤ i → i < n + k → ∀ row ∈ s.conversations,
    row.id ≠ .text (env.ids i).text ∧ row.uid ≠ .text (env.ids i).text
  messages : ∀ i, n ≤ i → i < n + k → ∀ row ∈ s.messages, row.id ≠ .text (env.ids i).text

variable {env : Environment σ} {reading : Instant → Prop} {r : Records} {n k : Nat}

theorem Steady.next (h : env.Steady reading n) : env.Steady reading (n + 1) :=
  ⟨fun i hi => h.reads i (by omega), fun i hi => h.order i (by omega)⟩

theorem Steady.le (h : env.Steady reading n) {i : Nat} (hi : n ≤ i) :
    env.clock n ≤ env.clock i := by
  induction hi with
  | refl => exact Instant.le_refl _
  | step hi ih => exact Instant.le_trans ih (h.order _ hi)

theorem Fresh.mono {s : Store} {n' k' : Nat} (h : env.Fresh s n k) (hn : n ≤ n')
    (hk : n' + k' ≤ n + k) : env.Fresh s n' k' :=
  ⟨fun i j hi hij hj => h.distinct i j (by omega) hij (by omega),
    fun i hi hik => h.conversations i (by omega) (by omega),
    fun i hi hik => h.messages i (by omega) (by omega)⟩

theorem Fresh.conversations_ne (h : env.Fresh r.rows n k) {i : Nat} (hi : n ≤ i) (hik : i < n + k)
    {c : Conversation} (hc : c ∈ r.conversations) :
    c.id ≠ env.ids i ∧ c.uid ≠ (env.ids i).text := by
  obtain ⟨hid, huid⟩ := h.conversations i hi hik _ (List.mem_map_of_mem hc)
  exact ⟨fun heq => hid (by rw [← heq]; rfl), fun heq => huid (by rw [← heq]; rfl)⟩

theorem Fresh.messages_ne (h : env.Fresh r.rows n k) {i : Nat} (hi : n ≤ i) (hik : i < n + k)
    {m : ChatMessage} (hm : m ∈ r.messages) : m.id ≠ env.ids i := fun heq =>
  h.messages i hi hik _ (List.mem_map_of_mem hm) (by rw [← heq]; rfl)

/-- The identifiers after the one of a message are new to the records with that message. -/
theorem Fresh.addMessage (h : env.Fresh r.rows n (k + 1)) {m : ChatMessage}
    (hm : m.id = env.ids n) : env.Fresh (r.addMessages [m]).rows (n + 1) k := by
  have hrest : env.Fresh r.rows (n + 1) k := h.mono (by omega) (by omega)
  refine ⟨hrest.distinct, hrest.conversations, fun i hi hik row hrow => ?_⟩
  obtain ⟨m', hm', rfl⟩ := List.mem_map.1 hrow
  rcases List.mem_append.1 hm' with hm' | hm'
  · exact hrest.messages i hi hik _ (List.mem_map_of_mem hm')
  · rw [List.mem_singleton.1 hm', MessageRow.ofMessage, hm]
    intro heq
    exact h.distinct n i (by omega) (by omega) (by omega) (Uuid.text_inj.1 (Cell.text.inj heq))

/-- The identifiers after the two of a conversation are new to the records with it. -/
theorem Fresh.addConversation (h : env.Fresh r.rows n (k + 2)) {c : Conversation}
    (hid : c.id = env.ids n) (huid : c.uid = (env.ids (n + 1)).text) :
    env.Fresh (r.addConversation c).rows (n + 2) k := by
  have hrest : env.Fresh r.rows (n + 2) k := h.mono (by omega) (by omega)
  refine ⟨hrest.distinct, fun i hi hik row hrow => ?_, hrest.messages⟩
  obtain ⟨c', hc', rfl⟩ := List.mem_map.1 hrow
  rcases List.mem_append.1 hc' with hc' | hc'
  · exact hrest.conversations i hi hik _ (List.mem_map_of_mem hc')
  · rw [List.mem_singleton.1 hc', ConversationRow.ofConversation, hid, huid]
    refine ⟨fun heq => ?_, fun heq => ?_⟩
    · exact h.distinct n i (by omega) (by omega) (by omega) (Uuid.text_inj.1 (Cell.text.inj heq))
    · exact h.distinct (n + 1) i (by omega) (by omega) (by omega)
        (Uuid.text_inj.1 (Cell.text.inj heq))

/-- A change makes no identifier less new. -/
theorem Fresh.change (h : env.Fresh r.rows n k) (u : Store.Update) (now : Instant) :
    env.Fresh (r.change u now).rows n k := by
  refine ⟨h.distinct, fun i hi hik row hrow => ?_, h.messages⟩
  obtain ⟨c', hc', rfl⟩ := List.mem_map.1 hrow
  obtain ⟨c, hc, rfl⟩ := List.mem_map.1 hc'
  have hne := h.conversations i hi hik _ (List.mem_map_of_mem hc)
  simpa [ConversationRow.ofConversation] using hne

/-- What is new to some records is new to a part of them. -/
theorem Fresh.remove (h : env.Fresh r.rows n k) (gone : Conversation → Bool) :
    env.Fresh (r.remove gone).rows n k := by
  refine ⟨h.distinct, fun i hi hik row hrow => ?_, fun i hi hik row hrow => ?_⟩
  · obtain ⟨c, hc, rfl⟩ := List.mem_map.1 hrow
    exact h.conversations i hi hik _ (List.mem_map_of_mem (List.mem_filter.1 hc).1)
  · obtain ⟨m, hm, rfl⟩ := List.mem_map.1 hrow
    exact h.messages i hi hik _ (List.mem_map_of_mem (List.mem_filter.1 hm).1)

end Environment

namespace World

/-- A world whose store keeps sound records, where no call is made to fail, the clock does not go
back, and the next `k` identifiers are new. -/
structure Calm (env : Environment σ) (reading : Instant → Prop) (r : Records) (k : Nat)
    (w : World σ) : Prop where
  store : w.store = r.rows
  faults : w.faults = fun _ => []
  sound : r.Sound reading (env.clock w.readings)
  steady : env.Steady reading w.readings
  fresh : env.Fresh r.rows w.idsUsed k

/-- The world `w` becomes a calm one, in which the provider has not been asked for anything more. -/
structure Becomes (env : Environment σ) (reading : Instant → Prop) (r : Records) (k : Nat)
    (w w' : World σ) : Prop extends Calm env reading r k w' where
  provider : w'.provider = w.provider
  readings : w.readings ≤ w'.readings

variable {env : Environment σ} {reading : Instant → Prop} {r r' : Records} {k k' : Nat}
  {w w' w'' : World σ}

theorem Calm.becomes (h : w.Calm env reading r k) : w.Becomes env reading r k w :=
  { h with provider := rfl, readings := Nat.le_refl _ }

theorem Becomes.trans (h : w.Becomes env reading r k w') (h' : w'.Becomes env reading r' k' w'') :
    w.Becomes env reading r' k' w'' :=
  { h' with
    provider := h'.provider.trans h.provider
    readings := Nat.le_trans h.readings h'.readings }

theorem Becomes.mono (h : w.Becomes env reading r k w') (hk : k' ≤ k) :
    w.Becomes env reading r k' w' :=
  { h with fresh := h.fresh.mono (Nat.le_refl _) (by omega) }

/-! ## One call -/

theorem attempt_of_calm {α : Type} (h : w.faults = fun _ => []) (m : Method) (nothing : Option α)
    (f : World σ → Except Store.StoreError α × World σ) : w.attempt m nothing f = f w := by
  rw [attempt, takeFault, h]

/-- When the clock is read once more, records are sound at its next reading. -/
theorem Calm.sound_next (h : w.Calm env reading r k)
    (hsound : r'.Sound reading (env.clock w.readings)) :
    r'.Sound reading (env.clock (w.readings + 1)) :=
  hsound.mono (h.steady.order _ (Nat.le_refl _))

theorem Calm.step_getConversation (h : w.Calm env reading r k) (f : Filter) :
    w.step env (.getConversation f) = (w.store.get f, w) :=
  attempt_of_calm h.faults .getConversation (some none) (World.reading (·.get f))

/-- A report changes nothing that matters to the store. -/
theorem Becomes.report (h : w.Becomes env reading r k w') (d : Generation.Diagnostic) :
    w.Becomes env reading r k (w'.step env (.report d)).2 :=
  ⟨⟨h.store, h.faults, h.sound, h.steady, h.fresh⟩, h.provider, h.readings⟩

/-- The message that a call adds next. -/
def newMessage (env : Environment σ) (w : World σ) (id : Uuid) (role : Role) (content : String) :
    ChatMessage :=
  { id := env.ids w.idsUsed, conversationId := id, role, content
    createdAt := (env.clock w.readings).truncate }

/-- The conversation that a call creates next. -/
def newConversation (env : Environment σ) (w : World σ) (owner : UserId) (title : String)
    (status : Status) : Conversation :=
  Records.created owner title status (env.ids w.idsUsed) (env.ids (w.idsUsed + 1)).text
    (env.clock w.readings)

/-- A message is added behind all others. -/
theorem Calm.step_createMessage (h : w.Calm env reading r (k + 1)) {id : Uuid}
    (hplace : ∃ c ∈ r.conversations, c.id = id) (role : Role) (content : String) :
    (w.step env (.createMessage id role content)).1 = .ok (newMessage env w id role content) ∧
      w.Becomes env reading (r.addMessages [newMessage env w id role content]) k
        (w.step env (.createMessage id role content)).2 := by
  have hnew : ∀ m ∈ r.messages, m.id ≠ (newMessage env w id role content).id := fun m hm =>
    h.fresh.messages_ne (Nat.le_refl _) (by omega) hm
  have hadd := Records.addMessage_rows (newMessage env w id role content) (env.clock w.readings) rfl
    hnew hplace
  have hsound := h.sound.addMessage (h.steady.reads _ (Nat.le_refl _)) (Instant.le_refl _) rfl hnew
    hplace
  have hfresh := h.fresh.addMessage (m := newMessage env w id role content) rfl
  have hstep : w.step env (.createMessage id role content) =
      (.ok (newMessage env w id role content),
        { w with
          store := (r.addMessages [newMessage env w id role content]).rows
          readings := w.readings + 1
          idsUsed := w.idsUsed + 1 }) := by
    rw [step, attempt_of_calm h.faults, h.store]
    exact congrArg (fun p : Except Store.StoreError ChatMessage × Store =>
      (p.1, { w with store := p.2, readings := w.readings + 1, idsUsed := w.idsUsed + 1 })) hadd
  rw [hstep]
  exact ⟨rfl, ⟨rfl, h.faults, h.sound_next hsound, h.steady.next, hfresh⟩, rfl, Nat.le_succ _⟩

/-- A conversation is created behind all others, and has a handle of its own. -/
theorem Calm.step_createConversation (h : w.Calm env reading r (k + 2)) (owner : UserId)
    (title : String) (status : Status) :
    (∀ c ∈ r.conversations, c.uid ≠ (newConversation env w owner title status).uid) ∧
      (w.step env (.createConversation owner title status)).1 =
        .ok (newConversation env w owner title status) ∧
      w.Becomes env reading (r.addConversation (newConversation env w owner title status)) k
        (w.step env (.createConversation owner title status)).2 := by
  have hnew : ∀ c ∈ r.conversations, c.id ≠ (newConversation env w owner title status).id ∧
      c.uid ≠ (newConversation env w owner title status).uid := fun c hc =>
    ⟨(h.fresh.conversations_ne (Nat.le_refl _) (by omega) hc).1,
      (h.fresh.conversations_ne (Nat.le_succ _) (by omega) hc).2⟩
  have hcreate := Records.create_rows owner title status (env.clock w.readings) hnew
  have hkept := Records.created_kept owner title status (env.ids w.idsUsed)
    (env.ids (w.idsUsed + 1)).text (h.steady.reads _ (Nat.le_refl _))
  have hsound := h.sound.addConversation hkept hnew
  have hfresh := h.fresh.addConversation (c := newConversation env w owner title status) rfl rfl
  have hstep : w.step env (.createConversation owner title status) =
      (.ok (newConversation env w owner title status),
        { w with
          store := (r.addConversation (newConversation env w owner title status)).rows
          readings := w.readings + 1
          idsUsed := w.idsUsed + 2 }) := by
    rw [step, attempt_of_calm h.faults, h.store]
    exact congrArg (fun p : Except Store.StoreError Conversation × Store =>
      (p.1, { w with store := p.2, readings := w.readings + 1, idsUsed := w.idsUsed + 2 })) hcreate
  rw [hstep]
  exact ⟨fun c hc => (hnew c hc).2, rfl,
    ⟨rfl, h.faults, h.sound_next hsound, h.steady.next, hfresh⟩, rfl, Nat.le_succ _⟩

/-- A conversation is changed where it is, whatever can be read of it afterwards. -/
theorem Calm.step_updateConversation (h : w.Calm env reading r k) (u : Store.Update) :
    w.Becomes env reading (r.change u (env.clock w.readings)) k
      (w.step env (.updateConversation u)).2 := by
  have hsound := h.sound.change (h.steady.reads _ (Nat.le_refl _)) (Instant.le_refl _) u
  have hstep : (w.step env (.updateConversation u)).2 =
      { w with store := (r.change u (env.clock w.readings)).rows, readings := w.readings + 1 } := by
    rw [step, attempt_of_calm h.faults, ← r.update_rows, ← h.store]
  rw [hstep]
  exact ⟨⟨rfl, h.faults, h.sound_next hsound, h.steady.next, h.fresh.change _ _⟩, rfl,
    Nat.le_succ _⟩

end World

end ChatRelay.Service
