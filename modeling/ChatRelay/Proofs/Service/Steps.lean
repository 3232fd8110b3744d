import ChatRelay.Proofs.Service.Calls
import ChatRelay.Proofs.Store.Records

/-!
# What a call can do

A call to the store carries out an operation (`Call.act?`), or it is made to fail
and does nothing (`World.step_cases`). All other calls have nothing to do with the
store (`World.step_of_act?_eq_none`).
-/

namespace ChatRelay.Store

/-- A message is added behind all others, or it is refused and nothing is added. -/
theorem addMessage_cases (s : Store) (conversationId : Uuid) (role : Role) (content : String)
    (id : Uuid) (now : Time.Instant) :
    (∃ e, s.addMessage conversationId role content id now = (.error e, s)) ∨
      ∃ m : ChatMessage, m = { id, conversationId, role, content, createdAt := now.truncate } ∧
        s.addMessage conversationId role content id now =
          (.ok m, { s with messages := s.messages ++ [.ofMessage m] }) := by
  rw [addMessage]
  split
  · exact .inl ⟨_, rfl⟩
  · rw [insertMessageRow?]
    split
    · rename_i h
      split at h <;> cases h
      exact .inr ⟨_, rfl, rfl⟩
    · exact .inl ⟨_, rfl⟩

/-- A conversation is added behind all others, or it is refused and nothing is added. -/
theorem create_cases (s : Store) (owner : UserId) (title : String) (status : Status) (id : Uuid)
    (uid : String) (now : Time.Instant) :
    (∃ e, s.create owner title status id uid now = (.error e, s)) ∨
      s.create owner title status id uid now =
        (.ok (Records.created owner title status id uid now),
          { s with
            conversations := s.conversations ++
              [.ofConversation (Records.created owner title status id uid now)] }) := by
  rw [create, insertRow?]
  split
  · rename_i h
    split at h <;> cases h
    exact .inr rfl
  · exact .inl ⟨_, rfl⟩

theorem update_messages (s : Store) (u : Update) (now : Time.Instant) :
    (s.update u now).2.messages = s.messages := by
  rw [update]
  dsimp only
  split <;> rfl

end ChatRelay.Store

namespace ChatRelay.Service

open Store (StoreError)

variable {σ : Type}

/-! ## Operations and calls -/

namespace Call

/-- The operation on the store that a call is to carry out, with what it needs of the clock and of
the identifiers. -/
def act? (env : Environment σ) (w : World σ) : (c : Call) → Option (Store → c.Answer × Store)
  | .createConversation owner title status =>
    some fun s => s.create owner title status (env.ids w.idsUsed) (env.ids (w.idsUsed + 1)).text
      (env.clock w.readings)
  | .findConversations f => some fun s => (s.find f, s)
  | .getConversation f => some fun s => (s.get f, s)
  | .updateConversation u => some fun s => s.update u (env.clock w.readings)
  | .deleteConversation f => some fun s => s.delete f
  | .createMessage id role content =>
    some fun s => s.addMessage id role content (env.ids w.idsUsed) (env.clock w.readings)
  | .listMessages id => some fun s => (s.messagesOf id, s)
  | _ => none

/-- How often the clock is read for a call. -/
def readings : Call → Nat
  | .createConversation .. | .updateConversation _ | .createMessage .. => 1
  | _ => 0

/-- How many identifiers are made up for a call. -/
def ids : Call → Nat
  | .createConversation .. => 2
  | .createMessage .. => 1
  | _ => 0

/-- The answer of a call that was not carried out: it failed, or it found nothing. -/
def Skipped : (c : Call) → c.Answer → Prop
  | .createConversation .., a => ∃ e : StoreError, a = .error e
  | .findConversations _, a => ∃ e : StoreError, a = .error e
  | .getConversation _, a => (∃ e : StoreError, a = .error e) ∨ a = .ok none
  | .updateConversation _, a => ∃ e : StoreError, a = .error e
  | .deleteConversation _, a => ∃ e : StoreError, a = .error e
  | .createMessage .., a => ∃ e : StoreError, a = .error e
  | .listMessages _, a => ∃ e : StoreError, a = .error e
  | _, _ => False

end Call

namespace World

/-- An operation is carried out, or it is made to fail or to find nothing, and which of these does
not depend on the store. A fault may be used up. -/
theorem attempt_withStore {α : Type} (w : World σ) (m : Method) (nothing : Option α)
    (f : World σ → Except StoreError α × World σ) :
    ∃ faults,
      (∀ s, attempt { w with store := s } m nothing f = f { w with faults, store := s }) ∨
      ∃ r, ((∃ e, r = .error e) ∨ ∃ a, nothing = some a ∧ r = .ok a) ∧
        ∀ s, attempt { w with store := s } m nothing f = (r, { w with faults, store := s }) := by
  have htake := fun s => w.takeFault_withStore s m
  refine ⟨(w.takeFault m).2.faults, ?_⟩
  cases hfault : (w.takeFault m).1 with
  | none => exact .inl fun s => by rw [attempt, htake, hfault]
  | fails e => exact .inr ⟨.error e, .inl ⟨e, rfl⟩, fun s => by rw [attempt, htake, hfault]⟩
  | findsNothing =>
    cases nothing with
    | none => exact .inl fun s => by rw [attempt, htake, hfault]
    | some a =>
      exact .inr ⟨.ok a, .inr ⟨a, rfl, rfl⟩, fun s => by rw [attempt, htake, hfault]⟩

/-- An operation that always finds something fails when it is not carried out. -/
theorem attempt_withStore_of_none {α : Type} (w : World σ) (m : Method)
    (f : World σ → Except StoreError α × World σ) :
    ∃ faults,
      (∀ s, attempt { w with store := s } m none f = f { w with faults, store := s }) ∨
      ∃ r, (∃ e, r = .error e) ∧
        ∀ s, attempt { w with store := s } m none f = (r, { w with faults, store := s }) := by
  obtain ⟨faults, h | ⟨r, he | ⟨a, ha, -⟩, h⟩⟩ := w.attempt_withStore m none f
  · exact ⟨faults, .inl h⟩
  · exact ⟨faults, .inr ⟨r, he, h⟩⟩
  · cases ha

variable (env : Environment σ) (w : World σ)

/-- A call to the store carries out its operation, or it is not carried out at all. Which of these
it is does not depend on the store. -/
theorem step_cases {c : Call} {f : Store → c.Answer × Store} (hf : c.act? env w = some f) :
    ∃ faults,
      (∀ s, step env { w with store := s } c =
        ((f s).1,
          { w with
            faults
            store := (f s).2
            readings := w.readings + c.readings
            idsUsed := w.idsUsed + c.ids })) ∨
      ∃ a, c.Skipped a ∧
        ∀ s, step env { w with store := s } c = (a, { w with faults, store := s }) := by
  cases c with
  | createConversation | updateConversation | deleteConversation | createMessage
  | findConversations | listMessages =>
    cases hf
    exact w.attempt_withStore_of_none _ _
  | getConversation f =>
    cases hf
    obtain ⟨faults, h | ⟨r, he | ⟨a, ⟨⟩, ha⟩, h⟩⟩ :=
      w.attempt_withStore .getConversation (some none) (reading (·.get f))
    · exact ⟨faults, .inl h⟩
    · exact ⟨faults, .inr ⟨r, .inl he, h⟩⟩
    · exact ⟨faults, .inr ⟨r, .inr ha, h⟩⟩
  | _ => cases hf

variable {env w}

theorem step_cases_self {c : Call} {f : Store → c.Answer × Store} (hf : c.act? env w = some f) :
    ∃ faults,
      w.step env c =
        ((f w.store).1,
          { w with
            faults
            store := (f w.store).2
            readings := w.readings + c.readings
            idsUsed := w.idsUsed + c.ids }) ∨
      ∃ a, c.Skipped a ∧ w.step env c = (a, { w with faults }) := by
  obtain ⟨faults, h | ⟨a, ha, h⟩⟩ := w.step_cases env hf
  · exact ⟨faults, .inl (h w.store)⟩
  · exact ⟨faults, .inr ⟨a, ha, h w.store⟩⟩

/-- All other calls do the same whatever the store is, and leave it alone. -/
theorem step_of_act?_eq_none {c : Call} (hf : c.act? env w = none) :
    (∀ s, step env { w with store := s } c =
      ((w.step env c).1, { (w.step env c).2 with store := s })) ∧
    (w.step env c).2 =
      { (w.step env c).2 with
        store := w.store
        readings := w.readings
        idsUsed := w.idsUsed } := by
  cases c with
  | createProvider | stream | complete | report => exact ⟨fun _ => rfl, rfl⟩
  | deliver e =>
    rcases w with ⟨_, _, _, _, _, _ | _ | n, _⟩ <;> exact ⟨fun _ => rfl, rfl⟩
  | _ => cases hf

/-- A call makes up no more identifiers than it needs. -/
theorem step_idsUsed (env : Environment σ) (w : World σ) (c : Call) :
    w.idsUsed ≤ (w.step env c).2.idsUsed ∧ (w.step env c).2.idsUsed ≤ w.idsUsed + c.ids := by
  cases hf : c.act? env w with
  | some f =>
    obtain ⟨faults, hstep | ⟨a, -, hstep⟩⟩ := step_cases_self hf <;> rw [hstep]
    · exact ⟨Nat.le_add_right _ _, Nat.le_refl _⟩
    · exact ⟨Nat.le_refl _, Nat.le_add_right _ _⟩
  | none =>
    rw [(step_of_act?_eq_none hf).2]
    exact ⟨Nat.le_refl _, Nat.le_add_right _ _⟩

theorem step_readings_le (env : Environment σ) (w : World σ) (c : Call) :
    w.readings ≤ (w.step env c).2.readings := by
  cases hf : c.act? env w with
  | some f =>
    obtain ⟨faults, hstep | ⟨a, -, hstep⟩⟩ := step_cases_self hf
    · rw [hstep]
      exact Nat.le_add_right _ _
    · exact Nat.le_of_eq (congrArg (fun p => p.2.readings) hstep).symm
  | none => exact Nat.le_of_eq (congrArg World.readings (step_of_act?_eq_none hf).2).symm

/-- A message that was added says what it was to say, in the conversation that was meant. -/
theorem of_step_createMessage_ok {id : Uuid} {role : Role} {content : String} {m : ChatMessage}
    (h : (w.step env (.createMessage id role content)).1 = .ok m) :
    m.conversationId = id ∧ m.role = role ∧ m.content = content := by
  have hf : (Call.createMessage id role content).act? env w = some _ := rfl
  obtain ⟨faults, hstep | ⟨a, ⟨e, rfl⟩, hstep⟩⟩ := step_cases_self hf
  · rw [hstep] at h
    obtain ⟨e, hadd⟩ | ⟨m', rfl, hadd⟩ := w.store.addMessage_cases id role content
      (env.ids w.idsUsed) (env.clock w.readings)
    · rw [hadd] at h
      cases h
    · rw [hadd] at h
      cases h
      exact ⟨rfl, rfl, rfl⟩
  · rw [hstep] at h
    cases h

/-- A conversation that was created is the one that was to be created. -/
theorem of_step_createConversation_ok {owner : UserId} {title : String} {status : Status}
    {c : Conversation} (h : (w.step env (.createConversation owner title status)).1 = .ok c) :
    c = Store.Records.created owner title status (env.ids w.idsUsed)
      (env.ids (w.idsUsed + 1)).text (env.clock w.readings) := by
  have hf : (Call.createConversation owner title status).act? env w = some _ := rfl
  obtain ⟨faults, hstep | ⟨a, ⟨e, rfl⟩, hstep⟩⟩ := step_cases_self hf
  · rw [hstep] at h
    obtain ⟨e, hcreate⟩ | hcreate := w.store.create_cases owner title status (env.ids w.idsUsed)
      (env.ids (w.idsUsed + 1)).text (env.clock w.readings)
    · rw [hcreate] at h
      cases h
    · rw [hcreate] at h
      cases h
      rfl
  · rw [hstep] at h
    cases h

end World

theorem Program.run_idsUsed_le (env : Environment σ) {α : Type} (p : Program α) (w : World σ) :
    w.idsUsed ≤ (p.run env w).2.idsUsed := by
  induction p generalizing w with
  | done a => exact Nat.le_refl _
  | call c next ih => exact Nat.le_trans (w.step_idsUsed env c).1 (ih _ _)

end ChatRelay.Service
