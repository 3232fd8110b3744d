import ChatRelay.Proofs.Generation.Paths
import ChatRelay.Proofs.Service.Shared

/-!
# Generations on one conversation

Any number of generations go on with the same conversation, and take turns with
each other and with programs that do anything but add messages to it. No lock is
taken, and the conversation that a generation has found may be gone when its
exchange is to be kept.
-/

namespace ChatRelay.Generation

open Completion (Message)
open Service (Answered Environment Program Shared SharedTurn Turn World added addedMessages
  callsOf Interleaved)
open Store (Records)
open Time (Instant)

variable {σ ι : Type}

/-- Who takes turns: generations that go on with a conversation, and others. -/
inductive Party where
  | generation (settings : AiSettings) (caller : Option UserId) (messages : List Message)
  | other (p : Program Unit)

namespace Party

def program (uid : String) : Party → Program Unit
  | generation settings caller messages =>
    generate settings caller { messages, uid := some uid } >>= fun _ => pure ()
  | other p => p

/-- All others may do what they like, but add no messages to the conversation. -/
def Leaves (id : Uuid) : Party → Prop
  | generation .. => True
  | other p => p.Does (fun call => ∀ role content, call ≠ .createMessage id role content)
      fun _ => True

/-- What is to be kept of a party that has made these calls. -/
def owed : Party → List Answered → List (Role × String)
  | generation _ _ messages, calls => kept messages calls
  | other _, _ => []

/-- A generation reports every step that fails, and nothing else. -/
def Reports (uid : String) : Party → List Answered → Prop
  | generation .., calls => Reported uid calls
  | other _, _ => True

end Party

/-! ## The turns of one party -/

/-- A conversation that was found by its handle is the one that is shared. -/
theorem found_shared {env : Environment σ} {c c' : Conversation} {last : Nat} {r r' : Records}
    {t : Turn ι σ} {owner : UserId} (h : SharedTurn env c last r t r')
    (hmade : t.made = ⟨.getConversation ((Filter.byUid c.uid).ownedBy owner), .ok (some c')⟩) :
    c'.id = c.id ∧ c'.uid = c.uid := by
  have heffect := h.effect
  rw [hmade] at heffect
  obtain ⟨d, hd, hhandle, -, hid, huid⟩ :=
    Records.of_get_rows_byUid heffect.of_getConversation.1.symm
  exact ⟨hid.trans ((h.before.tied d hd).2 hhandle), huid.trans hhandle⟩

/-- What is added in a conversation that is there says what it was to say. -/
theorem added_shared {env : Environment σ} {c c' : Conversation} {last : Nat} {r r' : Records}
    {t : Turn ι σ} {a : Attempt} (h : SharedTurn env c last r t r') (hthere : Service.Present c r)
    (hid : c'.id = c.id) (hmade : t.made = a.call c') :
    ∃ m, a.outcome = .ok m ∧ m.conversationId = c.id ∧ (m.role, m.content) = a.turn := by
  have heffect := h.effect
  rw [hmade] at heffect
  obtain ⟨-, hanswer, -⟩ | ⟨hmissing, -⟩ := heffect.of_createMessage
  · exact ⟨_, hanswer, hid, rfl⟩
  · obtain ⟨d, hd, heq⟩ := hthere
    exact absurd (heq.trans hid.symm) (hmissing d hd)

/-- Attempts that all succeed say what was to be said. -/
theorem says_attempts {id : Uuid} {attempts : List Attempt}
    (h : ∀ a ∈ attempts, ∃ m, a.outcome = .ok m ∧ m.conversationId = id ∧
      (m.role, m.content) = a.turn) :
    Says (attempts.filterMap (·.added?)) id (attempts.map Attempt.turn) := by
  induction attempts with
  | nil => exact ⟨nofun, rfl⟩
  | cons a attempts ih =>
    obtain ⟨⟨m, hm, hplaced, hturn⟩, hrest⟩ := List.forall_mem_cons.1 h
    have hadded : a.added? = some m := by rw [Attempt.added?, hm]; rfl
    rw [List.filterMap_cons_some hadded, List.map_cons]
    have hm : Says [m] id [a.turn] :=
      ⟨List.forall_mem_singleton.2 hplaced, congrArg (· :: []) hturn⟩
    exact hm.append (ih hrest)

theorem addedMessages_of_quiet {calls : List Answered} (h : AllQuiet calls) :
    addedMessages calls = [] := by
  refine List.filterMap_eq_nil_iff.2 fun a ha => ?_
  have := h a ha
  rcases a with ⟨call, answer⟩
  cases call with
  | createMessage => exact this.elim
  | _ => rfl

/-! ## All turns -/

section

variable [DecidableEq ι] {env : Environment σ} {c : Conversation} {last : Nat} {r : Records}
  {w w' : World σ} {parties : ι → Party} {log : List (Turn ι σ)} {i : ι}

/-- The calls of a party are made in its turns. -/
theorem exists_turn {a : Answered} (h : a ∈ callsOf i log) :
    ∃ past t rest, log = past ++ t :: rest ∧ t.made = a := by
  obtain ⟨t, ht, rfl⟩ := List.mem_map.1 h
  obtain ⟨past, rest, rfl⟩ := List.append_of_mem (List.mem_filter.1 ht).1
  exact ⟨past, t, rest, rfl, rfl⟩

/-- The turns of a generation are the calls that it makes by itself. -/
theorem generation_makes (h : Interleaved env (fun i => (parties i).program c.uid) w log w')
    {settings : AiSettings} {caller : Option UserId} {messages : List Message}
    (hi : parties i = .generation settings caller messages) :
    Idle messages (callsOf i log) ∨
      ∃ c' t, Kept c.uid messages (callsOf i log) c' t := by
  have hmakes := h.makes i
  rw [hi, Party.program, Program.makes_bind] at hmakes
  obtain ⟨first, rest, result, hcalls, hmakes, rfl, -⟩ := hmakes
  rw [List.append_nil] at hcalls
  rw [hcalls]
  exact generate_makes hmakes

/-- A generation keeps its exchange in the conversation that is shared. -/
theorem kept_shared {messages : List Message} {c' : Conversation} {t : Trial}
    (hshared : Shared env c last r w) (hchain : Service.Chain env w log w')
    (hlast : w'.idsUsed ≤ last) (h : Kept c.uid messages (callsOf i log) c' t) :
    c'.id = c.id ∧ c'.uid = c.uid := by
  obtain ⟨owner, hfound⟩ := h.found
  obtain ⟨past, u, rest, rfl, hmade⟩ := exists_turn hfound
  obtain ⟨r, r', hu⟩ := hshared.every_turn hchain hlast
  exact found_shared hu hmade

/-- Every step of a generation that fails is reported, and nothing else is. -/
theorem reported_shared (hshared : Shared env c last r w) (hlast : w'.idsUsed ≤ last)
    (h : Interleaved env (fun i => (parties i).program c.uid) w log w') (i : ι) :
    (parties i).Reports c.uid (callsOf i log) := by
  cases hi : parties i with
  | other p => trivial
  | generation settings caller messages =>
    obtain hidle | ⟨c', t, hkept⟩ := generation_makes h hi
    · exact .of_quiet hidle.quiet
    · obtain ⟨front, back, hcalls, hfront, hback⟩ := hkept.split
      have huid := (kept_shared hshared h.chain hlast hkept).2
      have htrial := Reported.trial c' t
      rw [huid] at htrial
      show Reported c.uid (callsOf i log)
      rw [hcalls]
      exact ((Reported.of_quiet hfront).append htrial).append (.of_quiet hback)

/-- Until the conversation is deleted, a generation adds to it what it is to keep, once and in
order, and all others add nothing. -/
theorem says_shared (hshared : Shared env c last r w) (hlast : w'.idsUsed ≤ last)
    (hgrows : Service.Grows c c.messages ([] : List (Turn ι σ)) r)
    (hkept : ∀ t ∈ log, ¬ t.Deletes c) (hleaves : ∀ i, (parties i).Leaves c.id)
    (h : Interleaved env (fun i => (parties i).program c.uid) w log w') (i : ι) :
    Says (((added c.id log).filter (·.1 = i)).map Prod.snd) c.id
      ((parties i).owed (callsOf i log)) := by
  have hturns : ∀ past u rest, log = past ++ u :: rest →
      ∃ r r', SharedTurn env c last r u r' ∧ Service.Present c r := by
    rintro past u rest rfl
    obtain ⟨r, r', hu, hpast⟩ := hshared.at_turn h.chain hlast hgrows
      fun past' t' rest' r r' hlog ht hpast => ht.grows (hkept t' (by rw [hlog]; simp)) hpast
    exact ⟨r, r', hu, hpast.there⟩
  rw [Service.added_of_party]
  have hleaves := hleaves i
  cases hi : parties i with
  | other p =>
    have hmakes := h.makes i
    rw [hi] at hmakes hleaves
    have hall := (hleaves.makes hmakes).1
    show Says _ c.id []
    rw [List.filter_eq_nil_iff.2]
    · exact ⟨nofun, rfl⟩
    · intro m hm hid
      obtain ⟨a, ha, hm⟩ := List.mem_filterMap.1 hm
      obtain ⟨past, u, rest, hlog, rfl⟩ := exists_turn ha
      obtain ⟨r, r', hu, -⟩ := hturns past u rest hlog
      obtain ⟨role, content, hcall⟩ := hu.effect.target hm
      exact hall _ ha role content (beq_iff_eq.1 hid ▸ hcall)
  | generation settings caller messages =>
    show Says _ c.id (kept messages (callsOf i log))
    obtain hidle | ⟨c', t, hexchange⟩ := generation_makes h hi
    · rw [addedMessages_of_quiet hidle.quiet, hidle.nothing]
      exact ⟨nofun, rfl⟩
    · obtain ⟨front, back, hcalls, hfront, hback⟩ := hexchange.split
      have hid := (kept_shared hshared h.chain hlast hexchange).1
      have hall : ∀ a ∈ t.attempts, ∃ m, a.outcome = .ok m ∧ m.conversationId = c.id ∧
          (m.role, m.content) = a.turn := fun a ha => by
        have hmem : a.call c' ∈ t.transcript c' :=
          List.mem_append_left _ (List.mem_flatMap.2 ⟨a, ha, List.mem_cons_self⟩)
        have hmem : a.call c' ∈ callsOf i log := by
          rw [hcalls]
          exact List.mem_append_left _ (List.mem_append_right _ hmem)
        obtain ⟨past, u, rest, hlog, hmade⟩ := exists_turn hmem
        obtain ⟨r, r', hu, hthere⟩ := hturns past u rest hlog
        exact added_shared hu hthere hid hmade
      have hadded : addedMessages (callsOf i log) = t.added := by
        rw [hcalls, addedMessages_append, addedMessages_append, addedMessages_of_quiet hfront,
          addedMessages_of_quiet hback, t.addedMessages_transcript, List.append_nil,
          List.nil_append]
      have hsaid := says_attempts hall
      rw [← hexchange.turns, hadded, Trial.added, List.filter_eq_self.2]
      · exact hsaid
      · exact fun m hm => beq_iff_eq.2 (hsaid.placed m hm)

end

/-- Generations that go on with the same conversation take turns with each other and with programs
that add no messages to it. Until the conversation is deleted nothing is lost and nothing is kept
twice: its messages are those it had, and behind them, mixed but each in its order, the exchanges of
the generations. Once it is deleted nothing of it is there any more, and nothing can be added to it
or changed about it. Every step of a generation that fails is reported once. -/
theorem generate_together [DecidableEq ι] {env : Environment σ} {w w' : World σ}
    {log : List (Turn ι σ)} {c : Conversation} {f : Filter} {parties : ι → Party}
    (hreached : w.store.Reachable Instant.Storable (env.clock w.readings))
    (hthere : w.store.get f = .ok (some c)) (hfaults : w.faults = fun _ => [])
    (hclock : env.Steady Instant.Storable w.readings)
    (hids : env.Fresh w.store w.idsUsed (w'.idsUsed - w.idsUsed))
    (hleaves : ∀ i, (parties i).Leaves c.id)
    (h : Interleaved env (fun i => (parties i).program c.uid) w log w') :
    ((∀ t ∈ log, ¬ t.Deletes c) →
      ∃ added : List (ι × ChatMessage),
        w'.store.messagesOf c.id = .ok (c.messages ++ added.map Prod.snd) ∧
        ∀ i, Says ((added.filter (·.1 = i)).map Prod.snd) c.id
          ((parties i).owed (callsOf i log))) ∧
    (∀ past t rest, log = past ++ t :: rest → t.Deletes c →
      t.after.store.HoldsNothingOf c ∧ w'.store.HoldsNothingOf c ∧
      ∀ u ∈ rest, u.after.store.HoldsNothingOf c ∧
        (u.made.call.Touches c → u.made.Missed ∧ u.after.store = u.before.store)) ∧
    ∀ i, (parties i).Reports c.uid (callsOf i log) := by
  have hchain := h.chain
  have hlast := Nat.le_refl w'.idsUsed
  obtain ⟨r, hshared, hgrows, -⟩ := Shared.start (ι := ι) hreached hthere hfaults hclock
    hchain.idsUsed_le hids
  refine ⟨fun hkept => ?_, ?_, reported_shared hshared hlast h⟩
  · obtain ⟨r', hafter, hall⟩ := hshared.after hchain hlast hgrows
      fun past t rest r r' hlog ht hpast => ht.grows (hkept t (by rw [hlog]; simp)) hpast
    refine ⟨added c.id log, ?_, says_shared hshared hlast hgrows hkept hleaves h⟩
    rw [hafter.calm.store, hafter.calm.sound.messagesOf_rows]
    exact congrArg Except.ok hall.messages
  · rintro past t rest rfl hdeletes
    obtain ⟨r, r', ht⟩ := hshared.every_turn hchain hlast
    obtain ⟨mid, -, rfl, -, hrest⟩ := Service.chain_append.1 hchain
    have hgone := ht.deletes hdeletes
    exact ⟨ht.after.holdsNothing hgone, ht.after.after_holdsNothing hgone hrest hlast,
      fun u hu => ht.after.stays_gone hgone hrest hlast hu⟩

/-- Deleting a conversation is something that all others may do. -/
theorem delete_leaves (caller : Option UserId) (uid : String) (id : Uuid) :
    (Party.other (Service.Conversations.delete caller uid >>= fun _ => pure ())).Leaves id := by
  refine .bind (?_ : Program.Does _ (fun _ => True) _) fun _ _ => .pure trivial
  cases caller with
  | none => exact .pure trivial
  | some owner =>
    refine .bind (?_ : Program.Does _ (fun _ => True) _) fun r _ => ?_
    · refine ⟨nofun, fun found => ?_⟩
      rcases found with e | _ | c <;> exact .pure trivial
    · cases r with
      | error e => exact .pure trivial
      | ok c => exact ⟨nofun, fun _ => .pure trivial⟩

/-- Two generations go on with the same conversation, and both have answers when the first of them
begins to keep its exchange. Somebody else may not delete the conversation. Its owner may, and the
generation that has kept its question then reports that it could keep no more. -/
theorem generate_together_two_questions :
    let env : Environment Unit :=
      { clock := fun _ => ⟨0, 0⟩
        ids := fun i => .ofNat (i + 2)
        provider :=
          { create := fun _ => .ok ()
            stream := fun _ request _ =>
              ([.ok (.textDelta (String.join (request.messages.map (·.content)) ++ "!"))], ())
            complete := fun _ _ _ => (.error .authenticationFailed, ()) } }
    let c : Conversation :=
      Records.created ⟨"ada"⟩ "Notes" .active (.ofNat 0) (Uuid.ofNat 1).text ⟨0, 0⟩
    let w : World Unit :=
      { store := (({} : Store).create ⟨"ada"⟩ "Notes" .active (.ofNat 0) c.uid ⟨0, 0⟩).2
        provider := () }
    let settings : AiSettings := ⟨some "http://localhost", some "key", some "model"⟩
    let parties (deleter : String) : Fin 3 → Party
      | 0 => .generation settings (some ⟨"ada"⟩) [⟨.user, "Why"⟩]
      | 1 => .generation settings (some ⟨"ada"⟩) [⟨.user, "How"⟩]
      | 2 => .other (Service.Conversations.delete (some ⟨deleter⟩) c.uid >>= fun _ => pure ())
    let taken (deleter : String) (order : List (Fin 3)) :=
      Service.takeTurns env order (fun i => (parties deleter i).program c.uid) w
    let both := List.replicate 6 0 ++ List.replicate 6 1
    let kept := taken "bob" (both ++ [0, 2, 1, 1, 0, 0, 1, 0, 1])
    let deleted := taken "ada" (both ++ [0, 2, 2, 0, 0, 0, 0, 0, 1, 1, 1, 1, 1, 1, 1])
    (∃ added : List (Fin 3 × ChatMessage),
      kept.2.2.store.messagesOf c.id = .ok (added.map Prod.snd) ∧
      Says ((added.filter (·.1 = 0)).map Prod.snd) c.id [(.user, "Why"), (.assistant, "Why!")] ∧
      Says ((added.filter (·.1 = 1)).map Prod.snd) c.id [(.user, "How"), (.assistant, "How!")]) ∧
    kept.2.2.store.messages.map (·.content) =
      [.text "Why", .text "How", .text "How!", .text "Why!"] ∧
    deleted.2.2.store.HoldsNothingOf c ∧
    Reported c.uid (callsOf 0 deleted.1) ∧
    (Service.reports (callsOf 0 deleted.1)).map (·.kind) =
      [.messagePersistFailed, .conversationTouchFailed] := by
  intro env c w settings parties taken both kept deleted
  have hstorable : (⟨0, 0⟩ : Instant).Storable := ⟨by decide, by decide, by decide⟩
  have hreached : w.store.Reachable Instant.Storable (env.clock w.readings) :=
    .create (.empty _) hstorable (Instant.le_refl _) _ _ _ _ _
  have hthere : w.store.get ((Filter.byUid c.uid).ownedBy c.owner) = .ok (some c) :=
    Records.get_created _ _ _ _ _ hstorable
  have hclock : env.Steady Instant.Storable w.readings :=
    ⟨fun _ _ => hstorable, fun _ _ => Instant.le_refl _⟩
  have hids : ∀ n ≤ 100, env.Fresh w.store w.idsUsed n := by
    intro n hn
    have hne : ∀ i j, i < j → j < 200 → Uuid.ofNat i ≠ Uuid.ofNat j := fun i j hij hj =>
      Uuid.ofNat_ne hij (Nat.lt_trans hj (by decide))
    have hused : w.idsUsed = 0 := rfl
    rw [hused]
    refine ⟨fun i j _ hij hj => hne _ _ (by omega) (by omega), fun i _ hi row hrow => ?_, nofun⟩
    rw [List.mem_singleton.1 hrow]
    constructor
    · exact fun heq => hne 0 (i + 2) (by omega) (by omega)
        (Uuid.text_inj.1 (Store.Cell.text.inj heq))
    · exact fun heq => hne 1 (i + 2) (by omega) (by omega)
        (Uuid.text_inj.1 (Store.Cell.text.inj heq))
  have hleaves : ∀ deleter i, (parties deleter i).Leaves c.id := by
    intro deleter i
    match i with
    | 0 | 1 => trivial
    | 2 => exact delete_leaves _ _ _
  have hkeptDone : ∀ i, (kept.2.1 i).isDone = true := by decide +kernel
  have hdeletedDone : ∀ i, (deleted.2.1 i).isDone = true := by decide +kernel
  have hnone : kept.1.all (fun t => !t.made.call.deletes c t.before.store) = true := by
    decide +kernel
  have hone : deleted.1.any (fun t => t.made.call.deletes c t.before.store) = true := by
    decide +kernel
  obtain ⟨hkept, -⟩ := generate_together hreached hthere rfl hclock (hids _ (by decide +kernel))
    (hleaves "bob") (Service.interleaved_takeTurns hkeptDone)
  obtain ⟨added, hmessages, hsaid⟩ := hkept fun t ht hdeletes => by
    have := List.all_eq_true.1 hnone t ht
    rw [Bool.not_eq_true', hdeletes] at this
    cases this
  obtain ⟨-, hgone, hreported⟩ := generate_together hreached hthere rfl hclock
    (hids _ (by decide +kernel)) (hleaves "ada") (Service.interleaved_takeTurns hdeletedDone)
  obtain ⟨t, ht, hdeletes⟩ := List.any_eq_true.1 hone
  obtain ⟨past, rest, hlog⟩ := List.append_of_mem ht
  have howed : (parties "bob" 0).owed (callsOf 0 kept.1) = [(.user, "Why"), (.assistant, "Why!")] ∧
      (parties "bob" 1).owed (callsOf 1 kept.1) = [(.user, "How"), (.assistant, "How!")] := by
    decide +kernel
  exact ⟨⟨added, hmessages, howed.1 ▸ hsaid 0, howed.2 ▸ hsaid 1⟩, by decide +kernel,
    (hgone past t rest hlog hdeletes).2.1, hreported 0, by decide +kernel⟩

end ChatRelay.Generation
