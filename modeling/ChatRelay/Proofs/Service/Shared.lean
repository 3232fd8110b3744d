import ChatRelay.Proofs.Service.Effects
import ChatRelay.Proofs.Store.Reachable

/-!
# A conversation that programs share

Programs take turns on a store that works, and there is a conversation that all of
them know of. `Shared` is what every turn keeps: the world is calm, and whatever
has the identifier of the conversation has its handle too, and the other way round.

* `Shared.at_turn`: what holds of the records at first and is kept by every effect
  holds at every turn.
* `SharedTurn.grows`: until the conversation is deleted, its messages are those it had
  at first, and then those that were added.
* `Shared.stays_gone`: once it is deleted, nothing is there of it any more, and whoever
  tries to add to it or to change it is told so.
-/

namespace ChatRelay.Store

/-- Nothing is there of a conversation. -/
structure HoldsNothingOf (s : Store) (c : Conversation) : Prop where
  conversations : ∀ row ∈ s.conversations, row.id ≠ .text c.id.text ∧ row.uid ≠ .text c.uid
  messages : ∀ row ∈ s.messages, row.conversationId ≠ .text c.id.text

end ChatRelay.Store

namespace ChatRelay.Service

open Store (Records)
open Time (Instant)

variable {σ ι : Type}

/-! ## What happens to a conversation in a turn -/

/-- The message that a turn has added to a conversation, and who has added it. -/
def Turn.added? (id : Uuid) (t : Turn ι σ) : Option (ι × ChatMessage) :=
  match t.made.message? with
  | none => none
  | some m => if m.conversationId = id then some (t.party, m) else none

/-- The messages that were added to a conversation, and who has added them. -/
def added (id : Uuid) (log : List (Turn ι σ)) : List (ι × ChatMessage) :=
  log.filterMap (·.added? id)

/-- Whether a call is to delete a conversation that is in a store. -/
def Call.deletes (c : Conversation) (s : Store) : Call → Bool
  | .deleteConversation f =>
    !f.isEmpty && s.conversations.any fun row => row.id == .text c.id.text && row.fits f
  | _ => false

/-- The turn deletes a conversation that is there. -/
def Turn.Deletes (c : Conversation) (t : Turn ι σ) : Prop :=
  t.made.call.deletes c t.before.store = true

/-- The call is to add a message to a conversation or to change it. -/
def Call.Touches (c : Conversation) : Call → Prop
  | .createMessage id _ _ => id = c.id
  | .updateConversation u => u.uid = c.uid
  | _ => False

/-- What was to be added to or to be changed was not there. -/
def Answered.Missed : Answered → Prop
  | ⟨.createMessage .., answer⟩ => answer = .error .notFound
  | ⟨.updateConversation _, answer⟩ => answer = .error .notFound
  | _ => False

theorem added_append (id : Uuid) (log log' : List (Turn ι σ)) :
    added id (log ++ log') = added id log ++ added id log' :=
  List.filterMap_append

/-- What a party has added to a conversation can be read off its calls. -/
theorem added_of_party [DecidableEq ι] (id : Uuid) (i : ι) (log : List (Turn ι σ)) :
    ((added id log).filter (·.1 = i)).map Prod.snd =
      (addedMessages (callsOf i log)).filter (·.conversationId == id) := by
  induction log with
  | nil => rfl
  | cons t log ih =>
    rw [added, callsOf, addedMessages] at ih ⊢
    rw [List.filterMap_cons, Turn.added?, List.filter_cons]
    by_cases hparty : t.party = i <;> cases hm : t.made.message? with
    | none => simpa [hparty, hm] using ih
    | some m => by_cases hid : m.conversationId = id <;> simpa [hparty, hm, hid] using ih

namespace Effect

variable {env : Environment σ} {w : World σ} {r r' : Records} {call : Call} {a : call.Answer}

/-- An effect that does not delete a conversation leaves it there, and puts the message that it
adds behind the other messages of the conversation. -/
theorem keeps (h : Effect env w r call a r') (hkeyed : r.Keyed) {id : Uuid}
    (hspared : ∀ f, call = .deleteConversation f → f.isEmpty = false →
      ∀ c ∈ r.conversations, c.id = id → (Store.ConversationRow.ofConversation c).fits f = false) :
    ((∃ c ∈ r.conversations, c.id = id) → ∃ c ∈ r'.conversations, c.id = id) ∧
      r'.messagesIn id =
        r.messagesIn id ++
          (Answered.message? ⟨call, a⟩).toList.filter (·.conversationId == id) := by
  have hsame : ∀ m? : Option ChatMessage, m? = none →
      r.messagesIn id = r.messagesIn id ++ m?.toList.filter (·.conversationId == id) := by
    rintro _ rfl
    exact (List.append_nil _).symm
  cases h with
  | created =>
    exact ⟨fun ⟨c, hc, hid⟩ => ⟨c, List.mem_append_left _ hc, hid⟩, hsame _ rfl⟩
  | changed =>
    refine ⟨fun ⟨c, hc, hid⟩ => ⟨_, List.mem_map_of_mem hc, ?_⟩, hsame _ rfl⟩
    rw [Records.changed_id, hid]
  | @deleted f hf =>
    have hstays := hspared f rfl hf
    refine ⟨fun ⟨c, hc, hid⟩ => ⟨c, Records.mem_remove.2 ⟨hc, hstays c hc hid⟩, hid⟩, ?_⟩
    rw [Records.messagesIn_remove hkeyed hstays]
    exact hsame _ rfl
  | added => exact ⟨fun h => h, List.filter_append _ _⟩
  | elsewhere hf =>
    rw [Call.message?_eq_none_of_act? hf]
    exact ⟨fun h => h, hsame _ rfl⟩
  | unchanged | notDeleted | notAdded | found | got | listed => exact ⟨fun h => h, hsame _ rfl⟩

end Effect

/-! ## What every turn keeps -/

/-- A calm world with a conversation that has the identifier and the handle of `c`, if it is still
there. The `last` identifier that is made up is not reached yet. -/
structure Shared (env : Environment σ) (c : Conversation) (last : Nat) (r : Records) (w : World σ) :
    Prop where
  bounded : w.idsUsed ≤ last
  calm : w.Calm env Instant.Storable r (last - w.idsUsed)
  spare : ∀ i, w.idsUsed ≤ i → i < last → env.ids i ≠ c.id ∧ (env.ids i).text ≠ c.uid
  tied : ∀ c' ∈ r.conversations, c'.id = c.id ↔ c'.uid = c.uid

/-- The conversation is there. -/
def Present (c : Conversation) (r : Records) : Prop := ∃ c' ∈ r.conversations, c'.id = c.id

/-- What a turn makes of the records, where a conversation is shared. -/
structure SharedTurn (env : Environment σ) (c : Conversation) (last : Nat) (r : Records)
    (t : Turn ι σ) (r' : Records) : Prop where
  before : Shared env c last r t.before
  effect : Effect env t.before r t.made.call t.made.answer r'
  after : Shared env c last r' t.after
  /-- Once the conversation is gone, it does not come back. -/
  gone : ¬ Present c r → ¬ Present c r'

namespace Shared

variable {env : Environment σ} {c : Conversation} {last : Nat} {r r' : Records} {w w' : World σ}
  {past rest log : List (Turn ι σ)} {t : Turn ι σ}

theorem takes {call : Call} {a : call.Answer} (h : Shared env c last r w)
    (htakes : w.Takes env call a w') (hlast : w'.idsUsed ≤ last) :
    ∃ r', Effect env w r call a r' ∧ Shared env c last r' w' ∧
      (¬ Present c r → ¬ Present c r') := by
  have hids := htakes.idsUsed_of_calm h.calm.faults
  have hsplit : last - w.idsUsed = last - w'.idsUsed + call.ids := by
    have := h.bounded
    omega
  obtain ⟨r', hcalm, heffect⟩ := (hsplit ▸ h.calm).takes htakes
  have hspare : ∀ i, w'.idsUsed ≤ i → i < last → env.ids i ≠ c.id ∧ (env.ids i).text ≠ c.uid :=
    fun i hi hil => h.spare i (by omega) hil
  suffices hkeeps : (∀ c' ∈ r'.conversations, c'.id = c.id ↔ c'.uid = c.uid) ∧
      (¬ Present c r → ¬ Present c r') from
    ⟨r', heffect, ⟨hlast, hcalm, hspare, hkeeps.1⟩, hkeeps.2⟩
  cases heffect with
  | @created owner title status =>
    rw [Call.ids] at hids
    have hid := (h.spare w.idsUsed (Nat.le_refl _) (by omega)).1
    have huid := (h.spare (w.idsUsed + 1) (Nat.le_succ _) (by omega)).2
    refine ⟨List.forall_mem_append.2 ⟨h.tied, List.forall_mem_singleton.2 ?_⟩, ?_⟩
    · exact ⟨fun heq => absurd heq hid, fun heq => absurd heq huid⟩
    · rintro hgone ⟨c', hc', heq⟩
      rcases List.mem_append.1 hc' with hc' | hc'
      · exact hgone ⟨c', hc', heq⟩
      · rw [List.mem_singleton.1 hc'] at heq
        exact hid heq
  | changed =>
    constructor
    · intro c' hc'
      obtain ⟨d, hd, rfl⟩ := List.mem_map.1 hc'
      rw [Records.changed_id, Records.changed_uid]
      exact h.tied d hd
    · rintro hgone ⟨c', hc', heq⟩
      obtain ⟨d, hd, rfl⟩ := List.mem_map.1 hc'
      exact hgone ⟨d, hd, (Records.changed_id _ _ d).symm.trans heq⟩
  | deleted =>
    refine ⟨fun c' hc' => h.tied c' (List.mem_filter.1 hc').1, ?_⟩
    rintro hgone ⟨c', hc', heq⟩
    exact hgone ⟨c', (List.mem_filter.1 hc').1, heq⟩
  | unchanged | notDeleted | added | notAdded | found | got | listed | elsewhere =>
    exact ⟨h.tied, fun hgone => hgone⟩

theorem turn (h : Shared env c last r t.before)
    (htakes : t.before.Takes env t.made.call t.made.answer t.after)
    (hlast : t.after.idsUsed ≤ last) : ∃ r', SharedTurn env c last r t r' := by
  obtain ⟨r', heffect, hafter, hgone⟩ := h.takes htakes hlast
  exact ⟨r', h, heffect, hafter, hgone⟩

/-- What holds of the records at first and is kept by every turn holds when all turns were taken. -/
theorem after {P : List (Turn ι σ) → Records → Prop} (h : Shared env c last r w)
    (hchain : Chain env w log w') (hlast : w'.idsUsed ≤ last) (hstart : P [] r)
    (hturn : ∀ past t rest r r', log = past ++ t :: rest → SharedTurn env c last r t r' →
      P past r → P (past ++ [t]) r') :
    ∃ r', Shared env c last r' w' ∧ P log r' := by
  induction log generalizing w r P with
  | nil =>
    rw [Chain] at hchain
    exact ⟨r, hchain ▸ h, hstart⟩
  | cons t log ih =>
    obtain ⟨rfl, htakes, hrest⟩ := hchain
    obtain ⟨r', ht⟩ := h.turn htakes (Nat.le_trans hrest.idsUsed_le hlast)
    refine ih (P := fun past => P (t :: past)) ht.after hrest (hturn [] t log r r' rfl ht hstart) ?_
    rintro past u rest r r' rfl hu hpast
    exact hturn (t :: past) u rest r r' rfl hu hpast

/-- It holds before every turn, too. -/
theorem at_turn {P : List (Turn ι σ) → Records → Prop} (h : Shared env c last r w)
    (hchain : Chain env w (past ++ t :: rest) w') (hlast : w'.idsUsed ≤ last) (hstart : P [] r)
    (hturn : ∀ past' t' rest' r r', past ++ t :: rest = past' ++ t' :: rest' →
      SharedTurn env c last r t' r' → P past' r → P (past' ++ [t']) r') :
    ∃ r r', SharedTurn env c last r t r' ∧ P past r := by
  obtain ⟨mid, hpast, rfl, htakes, hrest⟩ := chain_append.1 hchain
  have hused := Nat.le_trans hrest.idsUsed_le hlast
  obtain ⟨r, hbefore, hP⟩ := h.after hpast (Nat.le_trans htakes.idsUsed_le hused) hstart
    fun past' t' rest' r r' hlog =>
      hturn past' t' (rest' ++ t :: rest) r r' (by rw [hlog, List.append_assoc, List.cons_append])
  obtain ⟨r', ht⟩ := hbefore.turn htakes hused
  exact ⟨r, r', ht, hP⟩

/-- Every turn is one of those who share the conversation. -/
theorem every_turn (h : Shared env c last r w) (hchain : Chain env w (past ++ t :: rest) w')
    (hlast : w'.idsUsed ≤ last) : ∃ r r', SharedTurn env c last r t r' := by
  obtain ⟨r, r', ht, -⟩ := h.at_turn (P := fun _ _ => True) hchain hlast trivial
    fun _ _ _ _ _ _ _ _ => trivial
  exact ⟨r, r', ht⟩

theorem holdsNothing (h : Shared env c last r w) (hgone : ¬ Present c r) :
    w.store.HoldsNothingOf c := by
  have hne : ∀ c' ∈ r.conversations, c'.id ≠ c.id := fun c' hc' hid => hgone ⟨c', hc', hid⟩
  rw [h.calm.store]
  refine ⟨fun row hrow => ?_, fun row hrow hid => ?_⟩
  · obtain ⟨c', hc', rfl⟩ := List.mem_map.1 hrow
    refine ⟨fun hid => hne c' hc' (Uuid.text_inj.1 (Store.Cell.text.inj hid)), fun huid => ?_⟩
    exact hne c' hc' ((h.tied c' hc').2 (Store.Cell.text.inj huid))
  · obtain ⟨m, hm, rfl⟩ := List.mem_map.1 hrow
    obtain ⟨c', hc', hplace⟩ := h.calm.sound.placed m hm
    exact hne c' hc' (hplace.trans (Uuid.text_inj.1 (Store.Cell.text.inj hid)))

end Shared

/-! ## Until the conversation is deleted -/

/-- What is read of a conversation are its messages, too. -/
theorem of_get_messages {s : Store} {f : Filter} {c : Conversation} (h : s.get f = .ok (some c)) :
    s.messagesOf c.id = .ok c.messages := by
  rw [Store.get] at h
  split at h
  · cases h
  · obtain ⟨bare, -, h⟩ := Records.bind_eq_ok h
    obtain ⟨messages, hmessages, h⟩ := Records.bind_eq_ok h
    cases h
    exact hmessages

/-- What the turns so far have made of the conversation, as long as none has deleted it: it is
there, and its messages are those it had at first, and then those that were added. -/
structure Grows (c : Conversation) (first : List ChatMessage) (past : List (Turn ι σ))
    (r : Records) : Prop where
  there : Present c r
  messages : r.messagesIn c.id = first ++ (added c.id past).map Prod.snd

/-- A conversation that can be read is shared by all who come to know of it. -/
theorem Shared.start {env : Environment σ} {c : Conversation} {f : Filter} {last : Nat}
    {w : World σ} (hreached : w.store.Reachable Instant.Storable (env.clock w.readings))
    (hthere : w.store.get f = .ok (some c)) (hfaults : w.faults = fun _ => [])
    (hclock : env.Steady Instant.Storable w.readings) (hlast : w.idsUsed ≤ last)
    (hids : env.Fresh w.store w.idsUsed (last - w.idsUsed)) :
    ∃ r, Shared env c last r w ∧ Grows c c.messages ([] : List (Turn ι σ)) r ∧
      ∃ d ∈ r.conversations, c = { d with messages := c.messages } := by
  obtain ⟨r, hstore, hsound⟩ := hreached.records
  have hlisted := of_get_messages hthere
  rw [hstore] at hthere hids hlisted
  obtain ⟨-, hnone⟩ | ⟨d, hd, -, messages, hfound⟩ := hsound.legible.get_rows_cases f
  · cases hthere.symm.trans hnone
  obtain rfl : c = { d with messages } := Option.some.inj (Except.ok.inj (hthere.symm.trans hfound))
  rw [hsound.messagesOf_rows] at hlisted
  refine ⟨r, ⟨hlast, ⟨hstore, hfaults, hsound, hclock, hids⟩, fun i hi hil => ?_, fun d' hd' => ?_⟩,
    ⟨⟨d, hd, rfl⟩, ?_⟩, d, hd, rfl⟩
  · obtain ⟨hid, huid⟩ := hids.conversations_ne hi (by omega) hd
    exact ⟨hid.symm, huid.symm⟩
  · constructor
    · intro hid
      rw [hsound.keyed.eq_of_shared hd' hd (.inl hid)]
    · intro huid
      rw [hsound.keyed.eq_of_shared hd' hd (.inr huid)]
  · exact (Except.ok.inj hlisted).trans (List.append_nil _).symm

namespace SharedTurn

variable {env : Environment σ} {c : Conversation} {last : Nat} {r r' : Records}
  {past rest log : List (Turn ι σ)} {t : Turn ι σ}

theorem grows {first : List ChatMessage} (h : SharedTurn env c last r t r')
    (hkept : ¬ t.Deletes c) (hpast : Grows c first past r) :
    Grows c first (past ++ [t]) r' := by
  have hspared : ∀ f, t.made.call = .deleteConversation f → f.isEmpty = false →
      ∀ c' ∈ r.conversations, c'.id = c.id →
        (Store.ConversationRow.ofConversation c').fits f = false := by
    intro f hcall hf c' hc' hid
    refine Bool.eq_false_iff.2 fun hfits => hkept ?_
    have hrow : Store.ConversationRow.ofConversation c' ∈ t.before.store.conversations := by
      rw [h.before.calm.store]
      exact List.mem_map_of_mem hc'
    simp only [Turn.Deletes, hcall, Call.deletes, hf, Bool.not_false, Bool.true_and,
      List.any_eq_true, Bool.and_eq_true, beq_iff_eq]
    exact ⟨_, hrow, congrArg (fun id : Uuid => Store.Cell.text id.text) hid, hfits⟩
  obtain ⟨hthere, hmessages⟩ := h.effect.keeps h.before.calm.sound.keyed hspared
  have hadded : (added c.id [t]).map Prod.snd =
      t.made.message?.toList.filter (·.conversationId == c.id) := by
    rw [added, List.filterMap_cons, List.filterMap_nil, Turn.added?]
    cases t.made.message? with
    | none => rfl
    | some m => by_cases hid : m.conversationId = c.id <;> simp [hid]
  refine ⟨hthere hpast.there, ?_⟩
  rw [hmessages, hpast.messages, added_append, List.map_append, hadded, List.append_assoc]

/-! ## When it is deleted -/

/-- A turn that deletes the conversation takes it out. -/
theorem deletes (h : SharedTurn env c last r t r') (hdeletes : t.Deletes c) : ¬ Present c r' := by
  have hkeyed := h.before.calm.sound.keyed
  have heffect := h.effect
  rcases t with ⟨party, ⟨call, a⟩, before, after⟩
  cases call with
  | deleteConversation f =>
    simp only [Turn.Deletes, Call.deletes, Bool.and_eq_true, Bool.not_eq_true', List.any_eq_true,
      beq_iff_eq] at hdeletes
    obtain ⟨hf, row, hrow, hid, hfits⟩ := hdeletes
    rw [heffect.of_deleteConversation hf]
    rintro ⟨c', hc', hid'⟩
    obtain ⟨hc', hstays⟩ := Records.mem_remove.1 hc'
    rw [h.before.calm.store] at hrow
    obtain ⟨d, hd, rfl⟩ := List.mem_map.1 hrow
    have hsame : d.id = c'.id := (Uuid.text_inj.1 (Store.Cell.text.inj hid)).trans hid'.symm
    rw [hkeyed.eq_of_shared hd hc' (.inl hsame), hstays] at hfits
    cases hfits
  | _ => cases hdeletes

/-- What was to be added to a conversation that is gone, or to be changed about it, is not there,
and the turn changes nothing. -/
theorem missed (h : SharedTurn env c last r t r') (hgone : ¬ Present c r)
    (htouches : t.made.call.Touches c) : t.made.Missed ∧ t.after.store = t.before.store := by
  have hstore : r' = r → t.after.store = t.before.store := by
    rintro rfl
    exact h.after.calm.store.trans h.before.calm.store.symm
  have heffect := h.effect
  rcases t with ⟨party, ⟨call, a⟩, before, after⟩
  cases call with
  | createMessage id role content =>
    obtain ⟨hthere, -⟩ | ⟨-, hanswer, hsame⟩ := heffect.of_createMessage
    · obtain rfl : id = c.id := htouches
      exact absurd hthere hgone
    · exact ⟨hanswer, hstore hsame⟩
  | updateConversation u =>
    obtain ⟨⟨c', hc', huid, -⟩, -⟩ | ⟨-, hanswer, hsame⟩ := heffect.of_updateConversation
    · exact absurd ⟨c', hc', (h.before.tied c' hc').2 (huid.trans htouches)⟩ hgone
    · exact ⟨hanswer, hstore hsame⟩
  | _ => exact htouches.elim

end SharedTurn

/-- A conversation that is gone does not come back. -/
theorem Shared.after_holdsNothing {env : Environment σ} {c : Conversation} {last : Nat}
    {r : Records} {w w' : World σ} {log : List (Turn ι σ)} (h : Shared env c last r w)
    (hgone : ¬ Present c r) (hchain : Chain env w log w') (hlast : w'.idsUsed ≤ last) : w'.store.HoldsNothingOf c := by
  obtain ⟨r', hafter, hgone⟩ := h.after (P := fun _ r => ¬ Present c r) hchain hlast hgone
    fun _ _ _ _ _ _ ht hpast => ht.gone hpast
  exact hafter.holdsNothing hgone

/-- Nothing can be added to a conversation that is gone, and nothing can be changed about it. -/
theorem Shared.stays_gone {env : Environment σ} {c : Conversation} {last : Nat} {r : Records}
    {w w' : World σ} {log : List (Turn ι σ)} {u : Turn ι σ} (h : Shared env c last r w)
    (hgone : ¬ Present c r) (hchain : Chain env w log w') (hlast : w'.idsUsed ≤ last)
    (hu : u ∈ log) :
    u.after.store.HoldsNothingOf c ∧
      (u.made.call.Touches c → u.made.Missed ∧ u.after.store = u.before.store) := by
  obtain ⟨past, rest, rfl⟩ := List.append_of_mem hu
  obtain ⟨r, r', hturn, hpast⟩ := h.at_turn (P := fun _ r => ¬ Present c r) hchain hlast hgone
    fun _ _ _ _ _ _ ht hpast => ht.gone hpast
  exact ⟨hturn.after.holdsNothing (hturn.gone hpast), hturn.missed hpast⟩

end ChatRelay.Service
