import ChatRelay.Proofs.Service.Alterations
import ChatRelay.Proofs.Service.Transcript
import ChatRelay.Proofs.Store.Filter
import ChatRelay.Service.Conversations

/-!
# The order of the list

Conversations are listed most recently changed first. The store does not keep this
order, it sorts by the texts of the times. While the clock goes on from microsecond to
microsecond, the order is that of a list in which a conversation comes to the front
when it is created or changed (`recency`): nothing else moves in it, whatever calls are
made, by whomever, and whichever of them fail (`Past.list_recency`).
-/

namespace ChatRelay.Store.Records

open Time (Instant)

variable {r : Records}

/-- A change puts one conversation in the place of another, and leaves all others as they are. -/
theorem Keyed.change_perm (h : r.Keyed) {u : Update} {c : Conversation} (hc : c ∈ r.conversations)
    (huid : c.uid = u.uid) (now : Instant) :
    (r.change u now).conversations.Perm
      (changed u now c :: r.conversations.filter fun c' => c'.uid ≠ u.uid) := by
  have hone : (r.conversations.filter fun c' => c'.uid == u.uid) = [c] := by
    rw [filter_eq_find?, h.find?_uid hc huid, Option.toList_some]
    refine h.distinct.imp fun hne hboth => hne.2 ?_
    rw [beq_iff_eq.1 hboth.1, beq_iff_eq.1 hboth.2]
  have hsplit := (List.filter_append_perm (fun c' => c'.uid == u.uid) r.conversations).map
    (changed u now)
  have hothers : (r.conversations.filter fun c' => !(c'.uid == u.uid)).map (changed u now) =
      r.conversations.filter fun c' => c'.uid ≠ u.uid := by
    have hfilter : (r.conversations.filter fun c' => !(c'.uid == u.uid)) =
        r.conversations.filter fun c' => c'.uid ≠ u.uid :=
      List.filter_congr fun c' _ => by rw [Bool.eq_iff_iff]; simp
    rw [hfilter]
    refine (List.map_congr_left fun c' hc' => ?_).trans (List.map_id _)
    rw [changed, if_neg (of_decide_eq_true (List.mem_filter.1 hc').2), id]
  rw [List.map_append, hone, hothers] at hsplit
  exact hsplit.symm

end ChatRelay.Store.Records

namespace ChatRelay.Service

open Program (perform)
open Store (ConversationRow Records)
open Time (Instant)

variable {α σ : Type}

/-! ## The list that is kept -/

/-- What an answered call does to a list of conversations: one that was created or changed comes to
the front, and what was deleted is taken out. -/
def Answered.moveToFront (l : List Conversation) : Answered → List Conversation
  | ⟨.createConversation .., .ok c⟩ => c :: l.filter fun c' => c'.uid ≠ c.uid
  | ⟨.updateConversation _, .ok c⟩ => c :: l.filter fun c' => c'.uid ≠ c.uid
  | ⟨.deleteConversation f, .ok ()⟩ => l.filter fun c => ¬ f.Matches c
  | _ => l

/-- The conversations that are left of some calls, in the order in which they came to the front. -/
def recency (log : List Answered) : List Conversation :=
  log.foldl Answered.moveToFront []

theorem moveToFront_of_not_confirmed {c : Call} {a : c.Answer} (h : ¬ c.Confirmed a)
    (l : List Conversation) : Answered.moveToFront l ⟨c, a⟩ = l := by
  cases c with
  | createConversation | updateConversation =>
    cases a with
    | error e => rfl
    | ok c => exact absurd ⟨c, rfl⟩ h
  | deleteConversation =>
    cases a with
    | error e => rfl
    | ok => exact absurd rfl h
  | _ => rfl

/-! ## Worlds that calls lead to -/

/-- The calls that have led to a world from an empty store, with their answers. Between two calls
anything may change but the store: what the caller still takes, what is made to fail, and what the
provider is about to say. The clock may be read by others. -/
inductive Past (env : Environment σ) : List Answered → World σ → Prop where
  | start {w : World σ} (hempty : w.store = {}) : Past env [] w
  | call {log : List Answered} {w : World σ} (h : Past env log w) (c : Call) :
      Past env (log ++ [⟨c, (w.step env c).1⟩]) (w.step env c).2
  | meanwhile {log : List Answered} {w w' : World σ} (h : Past env log w)
      (hstore : w'.store = w.store) (hreadings : w.readings ≤ w'.readings) : Past env log w'

variable {env : Environment σ} {w : World σ}

/-- A program goes on from the past of a world. -/
theorem Past.run {log : List Answered} (h : Past env log w) (p : Program α) :
    Past env (log ++ p.transcript env w) (p.run env w).2 := by
  induction p generalizing log w with
  | done a =>
    rw [Program.transcript, List.append_nil]
    exact h
  | call c next ih =>
    have hnext := ih (w.step env c).1 (h.call c)
    rwa [List.append_assoc] at hnext

theorem Past.hangUp {log : List Answered} (h : Past env log w) : Past env log w.hangUp :=
  h.meanwhile rfl (Nat.le_refl _)

/-! ## The order in which conversations were changed -/

/-- The first `n` readings of the clock can be written, and each is a microsecond at least after the
one before. -/
structure Environment.Advances (env : Environment σ) (n : Nat) : Prop where
  reads : ∀ i < n, (env.clock i).Writable
  order : ∀ i, i + 1 < n → (env.clock i).truncate.isBefore (env.clock (i + 1)).truncate = true

theorem Environment.Advances.isBefore {n : Nat} (h : env.Advances n) {i j : Nat} (hij : i < j)
    (hj : j < n) : (env.clock i).truncate.isBefore (env.clock j).truncate = true := by
  induction hij with
  | refl => exact h.order i hj
  | step _ ih => exact Instant.isBefore_trans (ih (Nat.lt_of_succ_lt hj)) (h.order _ hj)

/-- A world whose store keeps the conversations of a list, each of them changed after those behind
it, and all of them before the clock is read again, for the `n`-th time at most. -/
structure World.Recent (env : Environment σ) (n : Nat) (l : List Conversation) (r : Records)
    (w : World σ) : Prop where
  store : w.store = r.rows
  keyed : r.Keyed
  legible : r.Legible
  bare : r.Bare
  same : l.Perm r.conversations
  order : l.Pairwise fun a b => b.updatedAt.isBefore a.updatedAt = true
  past : ∀ c ∈ l, ∀ i, w.readings ≤ i → i < n →
    c.updatedAt.isBefore (env.clock i).truncate = true

namespace World.Recent

variable {n : Nat} {l : List Conversation} {r : Records}

/-- Conversations that were changed at the same time are the same. -/
theorem eq_of_updatedAt (h : w.Recent env n l r) {a b : Conversation} (ha : a ∈ l) (hb : b ∈ l)
    (hle : b.updatedAt ≤ a.updatedAt) (hge : a.updatedAt ≤ b.updatedAt) : a = b := by
  refine List.Pairwise.forall_of_forall_of_flip
    (R := fun a b => b.updatedAt ≤ a.updatedAt → a.updatedAt ≤ b.updatedAt → a = b)
    (fun _ _ _ _ => rfl) (h.order.imp ?_) (h.order.imp ?_) ha hb hle hge
  · exact fun hlt _ hge => absurd hge (Instant.isBefore_iff.1 hlt)
  · exact fun hlt hle _ => absurd hle (Instant.isBefore_iff.1 hlt)

/-- A conversation that was created or changed just now is in front of all others. -/
theorem toFront (h : w.Recent env n l r) (hclock : env.Advances n) {w' : World σ} {r' : Records}
    {c : Conversation} {made : Uuid → Prop} {deletes : Prop} {added : Option ChatMessage}
    (hstep : r.Step (env.clock w.readings) made deletes added r') (hstore : w'.store = r'.rows)
    (hbare : r'.Bare) (hnow : c.updatedAt = (env.clock w.readings).truncate)
    (hreadings : w'.readings = w.readings + 1) (hn : w'.readings ≤ n)
    (hsame : (c :: l.filter fun c' => c'.uid ≠ c.uid).Perm r'.conversations) :
    w'.Recent env n (c :: l.filter fun c' => c'.uid ≠ c.uid) r' where
  store := hstore
  keyed := hstep.keyed h.keyed
  legible := hstep.legible h.legible (hclock.reads _ (by omega))
  bare := hbare
  same := hsame
  order := by
    refine List.pairwise_cons.2 ⟨fun b hb => ?_, h.order.filter _⟩
    rw [hnow]
    exact h.past b (List.mem_filter.1 hb).1 _ (Nat.le_refl _) (by omega)
  past b hb i hi hin := by
    rw [hreadings] at hi
    rcases List.mem_cons.1 hb with rfl | hb
    · rw [hnow]
      exact hclock.isBefore hi hin
    · exact h.past b (List.mem_filter.1 hb).1 i (Nat.le_of_succ_le hi) hin

theorem create (h : w.Recent env n l r) (hclock : env.Advances n) {owner : UserId} {title : String}
    {status : Status} {w' : World σ} {c : Conversation}
    (hc : c = newConversation env w owner title status)
    (hnew : ∀ row ∈ w.store.conversations, row.id ≠ .text c.id.text ∧ row.uid ≠ .text c.uid)
    (hstore : w'.store =
      { w.store with conversations := w.store.conversations ++ [.ofConversation c] })
    (hreadings : w'.readings = w.readings + 1) (hn : w'.readings ≤ n) :
    ∃ r', w'.Recent env n (c :: l.filter fun c' => c'.uid ≠ c.uid) r' := by
  have hother : ∀ c' ∈ r.conversations, c'.id ≠ c.id ∧ c'.uid ≠ c.uid := fun c' hc' => by
    rw [h.store] at hnew
    obtain ⟨hid, huid⟩ := hnew _ (List.mem_map_of_mem hc')
    exact ⟨fun heq => hid (by rw [← heq]; rfl), fun heq => huid (by rw [← heq]; rfl)⟩
  have hkept : l.filter (fun c' => c'.uid ≠ c.uid) = l :=
    List.filter_eq_self.2 fun c' hc' => by simpa using (hother c' (h.same.mem_iff.1 hc')).2
  have hbare : (r.addConversation c).Bare := fun c' hc' => by
    rcases List.mem_append.1 hc' with hc' | hc'
    · exact h.bare c' hc'
    · rw [List.mem_singleton.1 hc', hc]
      rfl
  have hrows : w'.store = (r.addConversation c).rows := by
    rw [hstore, h.store]
    simp [Records.rows, Records.addConversation]
  have hstep : r.Step (env.clock w.readings) (fun _ => True) True none (r.addConversation c) := by
    subst hc
    exact .create owner title status trivial hother
  have hnow : c.updatedAt = (env.clock w.readings).truncate := by
    rw [hc]
    rfl
  refine ⟨r.addConversation c, h.toFront hclock hstep hrows hbare hnow hreadings hn ?_⟩
  rw [hkept]
  exact (h.same.cons c).trans (List.perm_append_singleton c _).symm

theorem update (h : w.Recent env n l r) (hclock : env.Advances n) {u : Store.Update}
    {row : ConversationRow} {w' : World σ}
    (hrow : w.store.conversations.find? (·.uid == .text u.uid) = some row)
    (hstore : w'.store = (w.store.update u (env.clock w.readings)).2)
    (hreadings : w'.readings = w.readings + 1) (hn : w'.readings ≤ n) :
    ∃ c r', (row.change u (env.clock w.readings)).decode = .ok c ∧
      w'.Recent env n (c :: l.filter fun c' => c'.uid ≠ c.uid) r' := by
  let now := env.clock w.readings
  rw [h.store, Records.find?_rows] at hrow
  obtain ⟨c, hfound, rfl⟩ := Option.map_eq_some_iff.1 hrow
  have hc := List.mem_of_find?_eq_some hfound
  have huid : c.uid = u.uid := by simpa using List.find?_some hfound
  have hstep : r.Step now (fun _ => True) True none (r.change u now) := .update u
  have hbare : (r.change u now).Bare := fun c' hc' => by
    obtain ⟨d, hd, rfl⟩ := List.mem_map.1 hc'
    rw [Records.changed]
    split <;> exact h.bare d hd
  have hmem : Records.changed u now c ∈ (r.change u now).conversations := List.mem_map_of_mem hc
  have hchanged : (ConversationRow.ofConversation c).change u now =
      .ofConversation (Records.changed u now c) := by
    have := Records.change_ofConversation c u now
    rwa [if_pos (by simp [ConversationRow.ofConversation, huid])] at this
  have hlegible := hstep.legible h.legible (hclock.reads _ (by omega))
  have hdecode : ((ConversationRow.ofConversation c).change u now).decode =
      .ok (Records.changed u now c) := by
    rw [hchanged, hlegible.decode_conversation hmem, ← hbare _ hmem]
  refine ⟨_, r.change u now, hdecode, h.toFront hclock hstep ?_ hbare ?_ hreadings hn ?_⟩
  · rw [hstore, h.store, Records.update_rows]
  · rw [Records.changed, if_pos huid]
  · rw [Records.changed_uid, huid]
    exact ((h.same.filter _).cons _).trans (h.keyed.change_perm hc huid now).symm

theorem step (h : w.Recent env n l r) (hclock : env.Advances n) (c : Call)
    (hn : (w.step env c).2.readings ≤ n) :
    ∃ r', (w.step env c).2.Recent env n (Answered.moveToFront l ⟨c, (w.step env c).1⟩) r' := by
  have halters := alters_step env w c
  have hle := w.step_readings_le env c
  generalize (w.step env c).1 = a, (w.step env c).2 = w' at halters hle hn ⊢
  cases halters with
  | nothing hnone hstore =>
    rw [moveToFront_of_not_confirmed hnone]
    exact ⟨r, { h with
      store := hstore.trans h.store
      past := fun c hc i hi => h.past c hc i (Nat.le_trans hle hi) }⟩
  | create hc hnew hstore hreadings => exact h.create hclock hc hnew hstore hreadings hn
  | update hrow hstore hreadings =>
    obtain ⟨c, r', hdecode, hrecent⟩ := h.update hclock hrow hstore hreadings hn
    rw [hdecode]
    exact ⟨r', hrecent⟩
  | @delete f hf hstore =>
    have hrows : w'.store = (r.remove fun c => f.Matches c).rows := by
      rw [hstore, h.store, Records.without_rows]
      simp only [Store.fits_ofConversation]
    have hsame : (l.filter fun c => ¬ f.Matches c).Perm
        (r.remove fun c => f.Matches c).conversations := by
      refine (h.same.filter _).trans (List.Perm.of_eq (List.filter_congr fun c _ => ?_))
      exact decide_not
    exact ⟨_, hrows, h.keyed.remove _, h.legible.remove _,
      fun c hc => h.bare c (List.mem_filter.1 hc).1, hsame, h.order.filter _,
      fun c hc i hi => h.past c (List.mem_filter.1 hc).1 i (Nat.le_trans hle hi)⟩
  | @addMessage id role content m hm hnew hplace hstore hreadings =>
    have hrows : w'.store = (r.addMessages [m]).rows := by
      rw [hstore, h.store]
      simp [Records.rows, Records.addMessages]
    have hthere : ∃ c ∈ r.conversations, c.id = m.conversationId := by
      rw [h.store] at hplace
      obtain ⟨row, hrow, hid⟩ := hplace
      obtain ⟨c, hc, rfl⟩ := List.mem_map.1 hrow
      exact ⟨c, hc, (Uuid.text_inj.1 (Store.Cell.text.inj hid)).trans (by rw [hm]; rfl)⟩
    have hcreated : m.createdAt.Kept Instant.Writable := by
      rw [hm]
      exact ⟨_, hclock.reads _ (by omega), rfl⟩
    refine ⟨_, hrows, h.keyed.addMessage hthere, ⟨h.legible.conversations, fun m' hm' => ?_⟩,
      h.bare, h.same, h.order, fun c hc i hi => h.past c hc i (Nat.le_trans hle hi)⟩
    rcases List.mem_append.1 hm' with hm' | hm'
    · exact h.legible.messages m' hm'
    · rw [List.mem_singleton.1 hm']
      exact hcreated

/-- What a filter finds is in the order in which it came to the front. -/
theorem found_eq (h : w.Recent env n l r) (f : Filter) :
    r.found f = l.filter fun c => f.Matches c := by
  have hfound := h.keyed.found h.bare f
  have hperm := hfound.exactly.trans (h.same.filter fun c => f.Matches c).symm
  refine hperm.eq_of_pairwise (fun a b ha hb hle hge => ?_) hfound.order
    ((h.order.imp fun hlt => ?_).filter _)
  · have ha := (List.mem_filter.1 (hperm.mem_iff.1 ha)).1
    exact h.eq_of_updatedAt ha (List.mem_filter.1 hb).1 hle hge
  · exact (Instant.le_total _ _).resolve_right (Instant.isBefore_iff.1 hlt)

end World.Recent

theorem Past.recent {log : List Answered} (h : Past env log w) {n : Nat} (hclock : env.Advances n)
    (hn : w.readings ≤ n) : ∃ r, w.Recent env n (recency log) r := by
  induction h with
  | start hempty =>
    exact ⟨{}, hempty, ⟨.nil, nofun⟩, ⟨nofun, nofun⟩, nofun, .refl _, .nil, nofun⟩
  | @call log w _ c ih =>
    obtain ⟨r, hrecent⟩ := ih (Nat.le_trans (w.step_readings_le env c) hn)
    rw [recency, List.foldl_append]
    exact hrecent.step hclock c hn
  | meanwhile _ hstore hreadings ih =>
    obtain ⟨r, hrecent⟩ := ih (Nat.le_trans hreadings hn)
    exact ⟨r, { hrecent with
      store := hstore.trans hrecent.store
      past := fun c hc i hi => hrecent.past c hc i (Nat.le_trans hreadings hi) }⟩

/-! ## The order of the list -/

theorem World.attempt_of_not_fails {m : Method} (h : ∀ e, (w.takeFault m).1 ≠ .fails e)
    (f : Store → Except Store.StoreError α) : (w.attempt m none (reading f)).1 = f w.store := by
  have hstore : (w.takeFault m).2.store = w.store := by rw [takeFault_eq]
  rw [attempt, ← hstore]
  rcases htake : w.takeFault m with ⟨fault, w'⟩
  cases fault with
  | none | findsNothing => rfl
  | fails e =>
    rw [htake] at h
    exact absurd rfl (h e)

/-- Whatever calls were made, by whomever and in whatever order, and whichever of them failed: a
user is listed those active conversations that are left, in the order of a list in which a
conversation comes to the front when it is created or changed, and is taken out when it is deleted.
The clock has gone on by a microsecond at least from reading to reading. -/
theorem Past.list_recency {log : List Answered} (h : Past env log w)
    (hclock : env.Advances w.readings) (owner : UserId)
    (hfind : ∀ e, (w.takeFault .findConversations).1 ≠ .fails e) :
    ((Conversations.list (some owner)).run env w).1 =
      .ok ((recency log).filter fun c => c.owner = owner ∧ c.status = .active) := by
  obtain ⟨r, hrecent⟩ := h.recent hclock (Nat.le_refl _)
  let f : Filter := { owner := some owner, status := some .active }
  have hanswer : (w.step env (.findConversations f)).1 =
      .ok ((recency log).filter fun c => f.Matches c) := by
    refine (World.attempt_of_not_fails hfind (·.find f)).trans ?_
    rw [hrecent.store, hrecent.legible.find_found hrecent.bare, hrecent.found_eq]
  have hmatches : ((recency log).filter fun c => f.Matches c) =
      (recency log).filter fun c => c.owner = owner ∧ c.status = .active :=
    List.filter_congr fun c _ => by simp [f, Filter.Matches]
  rw [← hmatches]
  exact congrArg (Except.mapError _) hanswer

/-- Two users have conversations. One of hers is renamed after the others were created, another one
is deleted, and a message is added to the one that was created last: it stays behind. In between
the caller's stream has ended. -/
theorem Past.list_recency_two_users :
    let env : Environment Unit :=
      { clock := fun i => ⟨i, 0⟩
        ids := Uuid.ofNat
        provider :=
          { create := fun _ => .ok ()
            stream := fun _ _ _ => ([], ())
            complete := fun _ _ _ => (.error .authenticationFailed, ()) } }
    let p : Program Unit := do
      let _ ← perform (.createConversation ⟨"ada"⟩ "Notes" .active)
      let _ ← perform (.createConversation ⟨"bob"⟩ "Recipes" .active)
      let _ ← perform (.createConversation ⟨"ada"⟩ "Drafts" .active)
      let _ ← perform (.createConversation ⟨"ada"⟩ "Plans" .active)
    let q : Program Unit := do
      let _ ← perform (.updateConversation { uid := (Uuid.ofNat 1).text, title := some "Ideas" })
      let _ ← perform (.deleteConversation (.byUid (Uuid.ofNat 5).text))
      let _ ← perform (.createMessage (.ofNat 6) .user "Hello?")
    let w := (p.run env { provider := () }).2
    let w' := (q.run env w.hangUp).2
    ∃ found, ((Conversations.list (some ⟨"ada"⟩)).run env w').1 = .ok found ∧
      found.map (·.title) = ["Ideas", "Plans"] := by
  intro env p q w w'
  have hstart : Past env [] ({ provider := () } : World Unit) := .start rfl
  let log := p.transcript env { provider := () } ++ q.transcript env w.hangUp
  have hpast : Past env log w' := (hstart.run p).hangUp.run q
  have hused : w'.readings = 6 := by decide +kernel
  have hreads : ∀ i < 6, 0 ≤ (env.clock i).date.year ∧ (env.clock i).date.year ≤ 9999 ∧
      (env.clock i).nanos < Time.nanosPerSecond := by decide +kernel
  have horder : ∀ i < 6, (env.clock i).truncate.isBefore (env.clock (i + 1)).truncate = true := by
    decide +kernel
  have hclock : env.Advances w'.readings := by
    rw [hused]
    exact ⟨fun i hi => ⟨(hreads i hi).1, (hreads i hi).2.1, .inl (hreads i hi).2.2⟩,
      fun i hi => horder i (Nat.lt_of_succ_lt hi)⟩
  have hfind : (w'.takeFault .findConversations).1 = .none := by decide +kernel
  refine ⟨_, hpast.list_recency hclock ⟨"ada"⟩ fun e he => ?_, by decide +kernel⟩
  rw [hfind] at he
  cases he

end ChatRelay.Service
