import ChatRelay.Proofs.Service.Keeping
import ChatRelay.Proofs.Service.Steps
import ChatRelay.Proofs.Store.Handle

/-!
# What a call makes of any store

`World.Alters` says once what a call is answered and what it makes of the rows of a
store, whatever these are and whether or not the call is made to fail: it leaves them
alone, or it does to them what its operation does (`World.alters_step`).

The row of a conversation is followed through a call with it (`World.step_rowsOf`).
-/

namespace ChatRelay.Service

open Store (ConversationRow MessageRow)

variable {σ : Type}

/-- The answer says that something was created, changed or deleted. -/
def Call.Confirmed : (c : Call) → c.Answer → Prop
  | .createConversation .., a => ∃ c, a = .ok c
  | .updateConversation _, a => ∃ c, a = .ok c
  | .deleteConversation _, a => a = .ok ()
  | .createMessage .., a => ∃ m, a = .ok m
  | _, _ => False

namespace World

/-- What a call can be answered, and what it then makes of the store. -/
inductive Alters (env : Environment σ) (w w' : World σ) : (c : Call) → c.Answer → Prop where
  | nothing {c : Call} {a : c.Answer} (h : ¬ c.Confirmed a) (hstore : w'.store = w.store) :
      Alters env w w' c a
  | create {owner : UserId} {title : String} {status : Status} {c : Conversation}
      (hc : c = newConversation env w owner title status)
      (hnew : ∀ row ∈ w.store.conversations, row.id ≠ .text c.id.text ∧ row.uid ≠ .text c.uid)
      (hstore : w'.store =
        { w.store with conversations := w.store.conversations ++ [.ofConversation c] })
      (hreadings : w'.readings = w.readings + 1) :
      Alters env w w' (.createConversation owner title status) (.ok c)
  | update {u : Store.Update} {row : ConversationRow}
      (hrow : w.store.conversations.find? (·.uid == .text u.uid) = some row)
      (hstore : w'.store = (w.store.update u (env.clock w.readings)).2)
      (hreadings : w'.readings = w.readings + 1) :
      Alters env w w' (.updateConversation u) (row.change u (env.clock w.readings)).decode
  | delete {f : Filter} (hf : f.isEmpty = false)
      (hstore : w'.store = w.store.without (·.fits f)) :
      Alters env w w' (.deleteConversation f) (.ok ())
  | addMessage {id : Uuid} {role : Role} {content : String} {m : ChatMessage}
      (hm : m = newMessage env w id role content)
      (hnew : ∀ row ∈ w.store.messages, row.id ≠ .text m.id.text)
      (hplace : ∃ row ∈ w.store.conversations, row.id = .text id.text)
      (hstore : w'.store = { w.store with messages := w.store.messages ++ [.ofMessage m] })
      (hreadings : w'.readings = w.readings + 1) :
      Alters env w w' (.createMessage id role content) (.ok m)

variable {env : Environment σ} {w w' : World σ}

theorem not_confirmed_of_skipped {c : Call} {a : c.Answer} (h : c.Skipped a) :
    ¬ c.Confirmed a := by
  cases c with
  | createConversation | updateConversation | deleteConversation | createMessage =>
    obtain ⟨e, rfl⟩ := h
    simp [Call.Confirmed]
  | _ => exact id

/-- An operation that is carried out has one of these answers. -/
theorem alters_of_act? {c : Call} {f : Store → c.Answer × Store} (hf : c.act? env w = some f)
    (hstore : w'.store = (f w.store).2) (hreadings : w'.readings = w.readings + c.readings) :
    w.Alters env w' c (f w.store).1 := by
  cases c with
  | createConversation owner title status =>
    cases hf
    dsimp only at hstore ⊢
    obtain ⟨e, hcreate⟩ | hcreate := w.store.create_cases owner title status (env.ids w.idsUsed)
      (env.ids (w.idsUsed + 1)).text (env.clock w.readings)
    · rw [hcreate] at hstore ⊢
      exact .nothing (by simp [Call.Confirmed]) hstore
    · rw [hcreate] at hstore ⊢
      exact .create rfl (Store.of_create_ok hcreate).2.1 hstore hreadings
  | updateConversation u =>
    cases hf
    dsimp only at hstore ⊢
    cases hrow : w.store.conversations.find? (·.uid == .text u.uid) with
    | none =>
      simp only [Store.update, hrow] at hstore ⊢
      exact .nothing (by simp [Call.Confirmed]) hstore
    | some row =>
      have hanswer : (w.store.update u (env.clock w.readings)).1 =
          (row.change u (env.clock w.readings)).decode := by
        simp only [Store.update, hrow]
      rw [hanswer]
      exact .update hrow hstore hreadings
  | deleteConversation filter =>
    cases hf
    dsimp only at hstore ⊢
    cases hempty : filter.isEmpty with
    | true =>
      simp only [Store.delete, hempty, if_true] at hstore ⊢
      exact .nothing (by simp [Call.Confirmed]) hstore
    | false =>
      have hdelete : w.store.delete filter = (.ok (), w.store.without (·.fits filter)) := by
        rw [Store.delete, hempty]
        rfl
      rw [hdelete] at hstore ⊢
      exact .delete hempty hstore
  | createMessage id role content =>
    cases hf
    dsimp only at hstore ⊢
    obtain ⟨e, hadd⟩ | ⟨m, rfl, hadd⟩ := w.store.addMessage_cases id role content
      (env.ids w.idsUsed) (env.clock w.readings)
    · rw [hadd] at hstore ⊢
      exact .nothing (by simp [Call.Confirmed]) hstore
    · obtain ⟨-, hnew, hplace, -⟩ := Store.of_addMessage_ok hadd
      rw [hadd] at hstore ⊢
      exact .addMessage rfl hnew hplace hstore hreadings
  | findConversations | getConversation | listMessages =>
    cases hf
    exact .nothing id hstore
  | _ => cases hf

/-- A call is answered in one of these ways, and the store is then as it says. -/
theorem alters_step (env : Environment σ) (w : World σ) (c : Call) :
    w.Alters env (w.step env c).2 c (w.step env c).1 := by
  cases hf : c.act? env w with
  | none =>
    have hnone : ¬ c.Confirmed (w.step env c).1 := by
      cases c with
      | createConversation | updateConversation | deleteConversation | createMessage => cases hf
      | _ => exact id
    exact .nothing hnone (by rw [(step_of_act?_eq_none hf).2])
  | some f =>
    obtain ⟨faults, hstep | ⟨a, ha, hstep⟩⟩ := step_cases_self hf
    · rw [hstep]
      exact alters_of_act? hf rfl rfl
    · rw [hstep]
      exact .nothing (not_confirmed_of_skipped ha) rfl

/-- While there is one row with a handle, a call that does not delete it leaves it as it is, or
changes it because it means it. -/
theorem step_rowsOf {uid : String} {row : ConversationRow} (h : w.store.rowsOf uid = [row])
    (c : Call) (hkept : ∀ f, c = .deleteConversation f → row.fits f = false) :
    (w.step env c).2.store.rowsOf uid = [row] ∨
      ∃ u : Store.Update, c = .updateConversation u ∧ u.uid = uid ∧
        (w.step env c).2.store.rowsOf uid = [row.change u (env.clock w.readings)] := by
  have halters := alters_step env w c
  generalize (w.step env c).1 = a, (w.step env c).2 = w' at halters ⊢
  cases halters with
  | nothing _ hstore =>
    rw [hstore]
    exact .inl h
  | @create owner title status c hc hnew hstore =>
    have hother : c.uid ≠ uid := by
      rintro rfl
      rw [Store.rowsOf_eq_nil_iff.2 fun r hr => (hnew r hr).2] at h
      cases h
    rw [hstore, Store.rowsOf_insert, h, if_neg hother]
    exact .inl rfl
  | @update u row' _ hstore =>
    rw [hstore, Store.rowsOf_update, h]
    split
    · exact .inr ⟨u, rfl, ‹_›, rfl⟩
    · exact .inl rfl
  | @delete f _ hstore =>
    rw [hstore, Store.rowsOf_without, h]
    simp [hkept f rfl]
  | addMessage _ _ _ hstore =>
    rw [hstore]
    exact .inl h

/-- A conversation that was created has the only row with its handle. -/
theorem rowsOf_of_created {owner : UserId} {title : String} {status : Status}
    {c : Conversation} (h : w.step env (.createConversation owner title status) = (.ok c, w')) :
    c = newConversation env w owner title status ∧
      w'.store.rowsOf c.uid = [.ofConversation c] := by
  have halters := alters_step env w (.createConversation owner title status)
  rw [h] at halters
  generalize ha : (Except.ok c : Call.Answer (.createConversation owner title status)) = a
    at halters
  cases halters with
  | nothing hnone => exact absurd ⟨c, ha.symm⟩ hnone
  | create hc hnew hstore =>
    cases ha
    rw [hstore, Store.rowsOf_insert, if_pos rfl,
      Store.rowsOf_eq_nil_iff.2 fun row hrow => (hnew row hrow).2]
    exact ⟨hc, rfl⟩

end World

end ChatRelay.Service
