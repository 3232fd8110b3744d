import ChatRelay.Proofs.Service.Keeping
import ChatRelay.Proofs.Service.Turns
import ChatRelay.Proofs.Store.Changes
import ChatRelay.Proofs.Store.Parts

/-!
# What a turn does in a calm world

In a calm world no call is made to fail, so that a call to the store is answered
by what the store holds. `Effect` says once what every call is answered and what it
makes of the records, and `Calm.takes` that a turn has one of these effects and
leaves a calm world behind.
-/

namespace ChatRelay.Store.Records

open Time (Instant)

variable {r : Records}

/-- A conversation that is changed is answered as it is then, without its messages. -/
theorem Sound.update_rows_fst {t now : Instant} (h : r.Sound Instant.Storable t)
    (hnow : now.Storable) (hle : t ≤ now) {u : Update} {c : Conversation}
    (hc : c ∈ r.conversations) (huid : c.uid = u.uid) :
    (r.rows.update u now).1 = .ok { changed u now c with messages := [] } := by
  have hmeant : ((ConversationRow.ofConversation c).uid == .text u.uid) = true := by
    rw [ConversationRow.ofConversation, Cell.text_beq, huid, beq_self_eq_true]
  have hchanged := change_ofConversation c u now
  rw [if_pos hmeant] at hchanged
  rw [Records.update_rows_fst h.keyed hc huid, hchanged]
  exact (h.change hnow hle u).legible.decode_conversation (List.mem_map_of_mem hc)

/-- A conversation that is not there is not found for a change. -/
theorem update_rows_missing {u : Update} (h : ∀ c ∈ r.conversations, c.uid ≠ u.uid)
    (now : Instant) : r.rows.update u now = (.error .notFound, r.rows) := by
  have hfind : r.conversations.find? (fun c => c.uid == u.uid) = none :=
    List.find?_eq_none.2 fun c hc => by simpa using h c hc
  rw [update]
  simp only [find?_rows, hfind, Option.map_none]

/-- A conversation that is not there gets no message, and it is told so. -/
theorem addMessage_rows_missing {conversationId id : Uuid} (role : Role) (content : String)
    (now : Instant) (hnew : ∀ m ∈ r.messages, m.id ≠ id)
    (h : ∀ c ∈ r.conversations, c.id ≠ conversationId) :
    r.rows.addMessage conversationId role content id now = (.error .notFound, r.rows) := by
  have htaken : (r.messages.any fun m => m.id == id) = false :=
    List.any_eq_false.2 fun m hm => by simpa using hnew m hm
  have hmissing : (r.conversations.any fun c => c.id == conversationId) = false :=
    List.any_eq_false.2 fun c hc => by simpa using h c hc
  rw [addMessage]
  simp only [any_messageId, htaken, insertMessageRow?, MessageRow.ofMessage, any_conversationId,
    hmissing]
  simp

end ChatRelay.Store.Records

namespace ChatRelay.Store

/-- Nothing is deleted where nothing is given to fit. -/
theorem delete_refused (s : Store) {f : Filter} (h : f.isEmpty = true) :
    ∃ e, s.delete f = (.error e, s) :=
  ⟨_, by rw [delete, if_pos h]⟩

end ChatRelay.Store

namespace ChatRelay.Service

open Store (Records)
open Time (Instant)

variable {σ : Type}

/-- What a call is answered in a calm world whose store keeps the records `r`, and what it makes of
these. -/
inductive Effect (env : Environment σ) (w : World σ) (r : Records) :
    (c : Call) → c.Answer → Records → Prop where
  | created {owner : UserId} {title : String} {status : Status}
      (hnew : ∀ c ∈ r.conversations, c.uid ≠ (World.newConversation env w owner title status).uid) :
      Effect env w r (.createConversation owner title status)
        (.ok (World.newConversation env w owner title status))
        (r.addConversation (World.newConversation env w owner title status))
  | changed {u : Store.Update} {c : Conversation} (hc : c ∈ r.conversations)
      (huid : c.uid = u.uid) :
      Effect env w r (.updateConversation u)
        (.ok { Records.changed u (env.clock w.readings) c with messages := [] })
        (r.change u (env.clock w.readings))
  | unchanged {u : Store.Update} (hmissing : ∀ c ∈ r.conversations, c.uid ≠ u.uid) :
      Effect env w r (.updateConversation u) (.error .notFound) r
  | deleted {f : Filter} (hf : f.isEmpty = false) :
      Effect env w r (.deleteConversation f) (.ok ())
        (r.remove fun c => (Store.ConversationRow.ofConversation c).fits f)
  | notDeleted {f : Filter} (hf : f.isEmpty = true) (e : Store.StoreError) :
      Effect env w r (.deleteConversation f) (.error e) r
  | added {id : Uuid} {role : Role} {content : String} (hplace : ∃ c ∈ r.conversations, c.id = id) :
      Effect env w r (.createMessage id role content)
        (.ok (World.newMessage env w id role content))
        (r.addMessages [World.newMessage env w id role content])
  | notAdded {id : Uuid} {role : Role} {content : String}
      (hmissing : ∀ c ∈ r.conversations, c.id ≠ id) :
      Effect env w r (.createMessage id role content) (.error .notFound) r
  | found (f : Filter) : Effect env w r (.findConversations f) (r.rows.find f) r
  | got (f : Filter) : Effect env w r (.getConversation f) (r.rows.get f) r
  | listed (id : Uuid) : Effect env w r (.listMessages id) (r.rows.messagesOf id) r
  | elsewhere {c : Call} (h : c.act? env w = none) (a : c.Answer) : Effect env w r c a r

namespace World

variable {env : Environment σ} {r : Records} {n k : Nat} {w w' : World σ}

/-- When no call is made to fail, a call to the store carries out its operation. -/
theorem step_of_calm (h : w.faults = fun _ => []) {c : Call} {f : Store → c.Answer × Store}
    (hf : c.act? env w = some f) :
    w.step env c =
      ((f w.store).1,
        { w with
          store := (f w.store).2
          readings := w.readings + c.readings
          idsUsed := w.idsUsed + c.ids }) := by
  cases c with
  | createConversation | updateConversation | deleteConversation | createMessage
  | findConversations | listMessages | getConversation =>
    cases hf
    rw [step, attempt_of_calm h]
    rfl
  | _ => cases hf

/-- The call has an effect on a calm world, and the world is calm after it. -/
def Affects (env : Environment σ) (w : World σ) (r : Records) (k : Nat) (c : Call) : Prop :=
  ∃ r', (w.step env c).2.Calm env Instant.Storable r' k ∧ Effect env w r c (w.step env c).1 r'

theorem Calm.affects_updateConversation (h : w.Calm env Instant.Storable r k) (u : Store.Update) :
    w.Affects env r k (.updateConversation u) := by
  have hf : (Call.updateConversation u).act? env w = some _ := rfl
  have hstep := congrArg Prod.fst (step_of_calm h.faults hf)
  have hcalm := (h.step_updateConversation u).toCalm
  by_cases hthere : ∃ c ∈ r.conversations, c.uid = u.uid
  · obtain ⟨c, hc, huid⟩ := hthere
    have hupdate := h.sound.update_rows_fst (h.steady.reads _ (Nat.le_refl _)) (Instant.le_refl _)
      hc huid
    rw [← h.store] at hupdate
    refine ⟨_, hcalm, ?_⟩
    rw [hstep.trans hupdate]
    exact .changed hc huid
  · have hmissing : ∀ c ∈ r.conversations, c.uid ≠ u.uid := fun c hc huid => hthere ⟨c, hc, huid⟩
    have hupdate := congrArg Prod.fst (Records.update_rows_missing hmissing (env.clock w.readings))
    rw [← h.store] at hupdate
    rw [Records.change_of_not_mem hmissing] at hcalm
    refine ⟨r, hcalm, ?_⟩
    rw [hstep.trans hupdate]
    exact .unchanged hmissing

theorem Calm.affects_deleteConversation (h : w.Calm env Instant.Storable r k) (filter : Filter) :
    w.Affects env r k (.deleteConversation filter) := by
  have hf : (Call.deleteConversation filter).act? env w = some _ := rfl
  have hstep := step_of_calm h.faults hf
  have hstore := r.delete_rows filter
  rw [← h.store] at hstore
  by_cases hempty : filter.isEmpty = true
  · obtain ⟨e, hdelete⟩ := w.store.delete_refused hempty
    have hrefused := congrArg Prod.fst hdelete
    rw [if_pos hempty] at hstore
    refine ⟨r, ?_, ?_⟩
    · rw [hstep]
      exact ⟨hstore.trans h.store, h.faults, h.sound, h.steady, h.fresh⟩
    · rw [(congrArg Prod.fst hstep).trans hrefused]
      exact .notDeleted hempty e
  · have hgiven := Bool.eq_false_iff.2 hempty
    have hanswer : (w.store.delete filter).1 = .ok () := by
      rw [Store.delete, hgiven]
      rfl
    rw [if_neg hempty] at hstore
    refine ⟨r.remove fun c => (Store.ConversationRow.ofConversation c).fits filter, ?_, ?_⟩
    · rw [hstep]
      exact ⟨hstore, h.faults, h.sound.remove _, h.steady, h.fresh.remove _⟩
    · rw [(congrArg Prod.fst hstep).trans hanswer]
      exact .deleted hgiven

theorem Calm.affects_createMessage (h : w.Calm env Instant.Storable r (k + 1)) (id : Uuid)
    (role : Role) (content : String) : w.Affects env r k (.createMessage id role content) := by
  by_cases hplace : ∃ c ∈ r.conversations, c.id = id
  · obtain ⟨hanswer, hbecomes⟩ := h.step_createMessage hplace role content
    refine ⟨_, hbecomes.toCalm, ?_⟩
    rw [hanswer]
    exact .added hplace
  · have hf : (Call.createMessage id role content).act? env w = some _ := rfl
    have hstep := step_of_calm h.faults hf
    have hmissing : ∀ c ∈ r.conversations, c.id ≠ id := fun c hc hid => hplace ⟨c, hc, hid⟩
    have hnew : ∀ m ∈ r.messages, m.id ≠ env.ids w.idsUsed := fun m hm =>
      h.fresh.messages_ne (Nat.le_refl _) (by omega) hm
    have hadd := Records.addMessage_rows_missing role content (env.clock w.readings) hnew hmissing
    rw [← h.store] at hadd
    have hrefused := congrArg Prod.fst hadd
    refine ⟨r, ?_, ?_⟩
    · rw [hstep]
      exact ⟨(congrArg Prod.snd hadd).trans h.store, h.faults, h.sound_next h.sound, h.steady.next,
        h.fresh.mono (Nat.le_succ _) (by simp only [Call.ids]; omega)⟩
    · rw [(congrArg Prod.fst hstep).trans hrefused]
      exact .notAdded hmissing

/-- A call that only reads leaves the world as it is. -/
theorem Calm.affects_of_reads (h : w.Calm env Instant.Storable r k) {c : Call}
    {read : Store → c.Answer} (hf : c.act? env w = some fun s => (read s, s)) (hids : c.ids = 0)
    (hreadings : c.readings = 0) (heffect : Effect env w r c (read r.rows) r) :
    w.Affects env r k c := by
  have hstep := step_of_calm h.faults hf
  rw [hids, hreadings] at hstep
  refine ⟨r, ?_, ?_⟩
  · rw [hstep]
    exact ⟨h.store, h.faults, h.sound, h.steady, h.fresh⟩
  · rw [hstep, h.store]
    exact heffect

/-- When no call is made to fail, a turn uses up the identifiers of its call. -/
theorem Takes.idsUsed_of_calm {c : Call} {a : c.Answer} (htakes : w.Takes env c a w')
    (h : w.faults = fun _ => []) : w'.idsUsed = w.idsUsed + c.ids := by
  cases htakes with
  | store hsome =>
    obtain ⟨f, hf⟩ := Option.isSome_iff_exists.1 hsome
    rw [step_of_calm h hf]
  | elsewhere hf a _ _ hids =>
    cases c with
    | createConversation | createMessage => cases hf
    | _ => exact hids

/-- A turn has its effect, and the world is calm after it. -/
theorem Calm.takes {c : Call} {a : c.Answer} (h : w.Calm env Instant.Storable r (k + c.ids))
    (htakes : w.Takes env c a w') :
    ∃ r', w'.Calm env Instant.Storable r' k ∧ Effect env w r c a r' := by
  cases htakes with
  | elsewhere hf a hstore hreadings hids hfaults =>
    refine ⟨r, ⟨hstore.trans h.store, hfaults.trans h.faults, ?_, ?_, ?_⟩, .elsewhere hf a⟩
    · exact hreadings ▸ h.sound
    · exact hreadings ▸ h.steady
    · exact hids ▸ h.fresh.mono (Nat.le_refl _) (Nat.add_le_add_left (Nat.le_add_right _ _) _)
  | store hsome =>
    cases c with
    | createConversation owner title status =>
      obtain ⟨hnew, hanswer, hbecomes⟩ := h.step_createConversation owner title status
      rw [hanswer]
      exact ⟨_, hbecomes.toCalm, .created hnew⟩
    | updateConversation u => exact h.affects_updateConversation u
    | deleteConversation filter => exact h.affects_deleteConversation filter
    | createMessage id role content => exact h.affects_createMessage id role content
    | findConversations filter => exact h.affects_of_reads rfl rfl rfl (.found filter)
    | getConversation filter => exact h.affects_of_reads rfl rfl rfl (.got filter)
    | listMessages id => exact h.affects_of_reads rfl rfl rfl (.listed id)
    | _ => cases hsome

end World

/-! ## What an effect tells -/

namespace Effect

variable {env : Environment σ} {w : World σ} {r r' : Records}

/-- A message is added to a conversation that is there, and otherwise nothing happens. -/
theorem of_createMessage {id : Uuid} {role : Role} {content : String}
    {a : Except Store.StoreError ChatMessage}
    (h : Effect env w r (.createMessage id role content) a r') :
    ((∃ c ∈ r.conversations, c.id = id) ∧ a = .ok (World.newMessage env w id role content) ∧
        r' = r.addMessages [World.newMessage env w id role content]) ∨
      (∀ c ∈ r.conversations, c.id ≠ id) ∧ a = .error .notFound ∧ r' = r := by
  cases h with
  | added hplace => exact .inl ⟨hplace, rfl, rfl⟩
  | notAdded hmissing => exact .inr ⟨hmissing, rfl, rfl⟩
  | elsewhere hf => cases hf

/-- A conversation that is there is changed, and otherwise nothing happens. -/
theorem of_updateConversation {u : Store.Update} {a : Except Store.StoreError Conversation}
    (h : Effect env w r (.updateConversation u) a r') :
    ((∃ c ∈ r.conversations, c.uid = u.uid ∧
          a = .ok { Records.changed u (env.clock w.readings) c with messages := [] }) ∧
        r' = r.change u (env.clock w.readings)) ∨
      (∀ c ∈ r.conversations, c.uid ≠ u.uid) ∧ a = .error .notFound ∧ r' = r := by
  cases h with
  | changed hc huid => exact .inl ⟨⟨_, hc, huid, rfl⟩, rfl⟩
  | unchanged hmissing => exact .inr ⟨hmissing, rfl, rfl⟩
  | elsewhere hf => cases hf

theorem of_getConversation {f : Filter} {a : Except Store.StoreError (Option Conversation)}
    (h : Effect env w r (.getConversation f) a r') : a = r.rows.get f ∧ r' = r := by
  cases h with
  | got => exact ⟨rfl, rfl⟩
  | elsewhere hf => cases hf

/-- What fits is deleted, unless nothing is given to fit. -/
theorem of_deleteConversation {f : Filter} {a : Except Store.StoreError Unit}
    (h : Effect env w r (.deleteConversation f) a r') (hf : f.isEmpty = false) :
    r' = r.remove fun c => (Store.ConversationRow.ofConversation c).fits f := by
  cases h with
  | deleted => rfl
  | notDeleted hempty => cases hempty.symm.trans hf
  | elsewhere hf => cases hf

/-- A message is added to the conversation that the call names. -/
theorem target {c : Call} {a : c.Answer} {m : ChatMessage} (h : Effect env w r c a r')
    (hm : Answered.message? ⟨c, a⟩ = some m) :
    ∃ role content, c = .createMessage m.conversationId role content := by
  cases h with
  | @added id role content =>
    cases hm
    exact ⟨role, content, rfl⟩
  | elsewhere hf =>
    rw [Call.message?_eq_none_of_act? hf] at hm
    cases hm
  | _ => cases hm

end Effect

end ChatRelay.Service
