import ChatRelay.Proofs.Service.ActsFor
import ChatRelay.Proofs.Service.Keeping
import ChatRelay.Proofs.Service.Steps
import ChatRelay.Proofs.Store.Parts

/-!
# Users do not notice each other

A program that acts for a user does in a world where nobody else keeps anything
what it does in the whole world (`ActsFor.runsAlone`): it is answered the same,
and leaves the same behind. What others keep it leaves as it is.

One call is looked at first (`World.Alone`), and then a run, by induction on the
program. What carries the induction is `World.Serves`: the store keeps records
without shared identifiers, those that are made up next are new to it, and the
conversations that the program knows are there and belong to the user.
-/

namespace ChatRelay.Service

open Store (Records StoreError)
open Time (Instant)

variable {α σ : Type}

namespace World

/-- The world in which only the conversations of a user are kept. -/
def onlyOf (w : World σ) (owner : UserId) : World σ :=
  { w with store := w.store.ofOwner owner }

/-- A world in which a program can act for a user, when it knows some conversations and makes up
identifiers up to the `n`-th. -/
structure Serves (env : Environment σ) (owner : UserId) (n : Nat) (known : List Conversation)
    (r : Records) (w : World σ) : Prop where
  store : w.store = r.rows
  keyed : r.Keyed
  fresh : env.Fresh r.rows w.idsUsed (n - w.idsUsed)
  known : ∀ c ∈ known, r.Holds owner c

/-- A call to which it makes no difference what others keep, and which leaves that as it is. -/
structure Alone (env : Environment σ) (owner : UserId) (n : Nat) (known : List Conversation)
    (w : World σ) (c : Call) : Prop where
  serves : ∃ r, (w.step env c).2.Serves env owner n (c.learned (w.step env c).1 ++ known) r
  alone : (w.onlyOf owner).step env c = ((w.step env c).1, (w.step env c).2.onlyOf owner)
  others : (w.step env c).2.store.ofOthers owner = w.store.ofOthers owner

variable {env : Environment σ} {owner : UserId} {n : Nat} {known : List Conversation}
  {r r' : Records} {w : World σ}

theorem Serves.conversations_ne (h : w.Serves env owner n known r) {i : Nat} (hi : w.idsUsed ≤ i)
    (hin : i < n) {c : Conversation} (hc : c ∈ r.conversations) :
    c.id ≠ env.ids i ∧ c.uid ≠ (env.ids i).text :=
  h.fresh.conversations_ne hi (by omega) hc

/-- A call that is not carried out makes no difference to anybody. -/
theorem Serves.alone_of_skipped (h : w.Serves env owner n known r) {c : Call} {a : c.Answer}
    {faults : Faults} (hstep : ∀ s, step env { w with store := s } c =
      (a, { w with faults, store := s }))
    (hlearned : c.learned a = []) : w.Alone env owner n known c := by
  have hw : w.step env c = (a, { w with faults }) := hstep w.store
  refine ⟨⟨r, ?_⟩, ?_, ?_⟩
  · rw [hw, hlearned]
    exact ⟨h.store, h.keyed, h.fresh, h.known⟩
  · rw [onlyOf, hstep, hw]
    rfl
  · rw [hw]

/-- A call that carries out an operation of one user makes no difference to others. -/
theorem Serves.alone_of_private (h : w.Serves env owner n known r) {c : Call}
    {f : Store → c.Answer × Store} {faults : Faults} {readings idsUsed : Nat}
    (hprivate : Records.Private owner f r r')
    (hstep : ∀ s, step env { w with store := s } c =
      ((f s).1, { w with faults, store := (f s).2, readings, idsUsed }))
    (hfresh : env.Fresh r'.rows idsUsed (n - idsUsed))
    (hknown : ∀ k ∈ c.learned (f r.rows).1 ++ known, r'.Holds owner k) :
    w.Alone env owner n known c := by
  have hw : w.step env c =
      ((f r.rows).1, { w with faults, store := r'.rows, readings, idsUsed }) := by
    rw [← hprivate.result, ← h.store]
    exact hstep w.store
  refine ⟨⟨r', ?_⟩, ?_, ?_⟩
  · rw [hw]
    exact ⟨rfl, hprivate.keyed, hfresh, hknown⟩
  · rw [onlyOf, hstep, h.store, hprivate.alone, hw]
    rfl
  · rw [hw, h.store]
    exact hprivate.others

/-- What a call for a user is to carry out is about that user alone. -/
theorem Serves.act (h : w.Serves env owner n known r) {c : Call} {f : Store → c.Answer × Store}
    (hf : c.act? env w = some f) (hfor : c.IsFor owner known) (hn : w.idsUsed + c.ids ≤ n) :
    ∃ r', Records.Private owner f r r' ∧
      env.Fresh r'.rows (w.idsUsed + c.ids) (n - (w.idsUsed + c.ids)) ∧
      ∀ k ∈ c.learned (f r.rows).1 ++ known, r'.Holds owner k := by
  cases c with
  | createConversation o title status =>
    cases hf
    cases hfor
    have hids : w.idsUsed + 2 ≤ n := hn
    have hnew : ∀ c ∈ r.conversations,
        c.id ≠ env.ids w.idsUsed ∧ c.uid ≠ (env.ids (w.idsUsed + 1)).text := fun c hc =>
      ⟨(h.conversations_ne (Nat.le_refl _) (by omega) hc).1,
        (h.conversations_ne (Nat.le_succ _) (by omega) hc).2⟩
    have hfresh : env.Fresh r.rows w.idsUsed (n - (w.idsUsed + 2) + 2) :=
      h.fresh.mono (Nat.le_refl _) (by omega)
    refine ⟨_, Records.create_private h.keyed owner title status (env.clock w.readings) hnew,
      hfresh.addConversation rfl rfl, fun k hk => ?_⟩
    dsimp only at hk
    rw [Records.create_rows owner title status (env.clock w.readings) hnew] at hk
    rcases List.mem_cons.1 hk with rfl | hk
    · exact ⟨_, List.mem_append_right _ (List.mem_singleton.2 rfl), rfl, rfl, rfl⟩
    · exact (h.known k hk).addConversation _
  | updateConversation u =>
    cases hf
    obtain ⟨k, hk, huid⟩ := hfor
    obtain ⟨c, hc, -, hcuid, howner⟩ := h.known k hk
    exact ⟨_, Records.update_private h.keyed hc howner (hcuid.trans huid) (env.clock w.readings),
      h.fresh.change _ _, fun k hk => (h.known k hk).change _ _⟩
  | createMessage id role content =>
    cases hf
    obtain ⟨k, hk, rfl⟩ := hfor
    obtain ⟨c, hc, hid, -, howner⟩ := h.known k hk
    have hids : w.idsUsed + 1 ≤ n := hn
    have hfresh : env.Fresh r.rows w.idsUsed (n - (w.idsUsed + 1) + 1) :=
      h.fresh.mono (Nat.le_refl _) (by omega)
    have hprivate := Records.addMessage_private h.keyed hc howner
      (m := newMessage env w k.id role content) hid rfl
      fun m hm => hfresh.messages_ne (Nat.le_refl _) (by omega) hm
    exact ⟨_, hprivate, hfresh.addMessage rfl, h.known⟩
  | findConversations f =>
    cases hf
    exact ⟨r, Records.find_private h.keyed hfor, h.fresh, h.known⟩
  | getConversation f =>
    cases hf
    refine ⟨r, Records.get_private h.keyed hfor, h.fresh, fun k hk => ?_⟩
    dsimp only at hk
    rcases hget : r.rows.get f with e | _ | c
    · rw [hget] at hk
      exact h.known k hk
    · rw [hget] at hk
      exact h.known k hk
    · rw [hget] at hk
      rcases List.mem_cons.1 hk with rfl | hk
      · obtain ⟨c, hc, hfits, hid, huid, -⟩ := Records.of_get_rows hget
        have howner := Records.owner_of_fits hfor hfits
        exact ⟨c, hc, hid.symm, huid.symm, by simpa using howner⟩
      · exact h.known k hk
  | listMessages id =>
    cases hf
    obtain ⟨k, hk, rfl⟩ := hfor
    obtain ⟨c, hc, hid, -, howner⟩ := h.known k hk
    rw [← hid]
    exact ⟨r, Records.messagesOf_private h.keyed hc howner, h.fresh, h.known⟩
  | deleteConversation f => exact absurd hfor id
  | _ => cases hf

/-- Nothing is learned from a call that was not carried out. -/
theorem learned_of_skipped {c : Call} {a : c.Answer} (h : c.Skipped a) : c.learned a = [] := by
  cases c with
  | createConversation =>
    obtain ⟨e, rfl⟩ := h
    rfl
  | getConversation f => obtain ⟨e, rfl⟩ | rfl := h <;> rfl
  | _ => rfl

/-- A call for a user makes no difference to others, nor do they to it. -/
theorem Serves.step (h : w.Serves env owner n known r) {c : Call} (hfor : c.IsFor owner known)
    (hn : (w.step env c).2.idsUsed ≤ n) : w.Alone env owner n known c := by
  cases hf : c.act? env w with
  | some f =>
    obtain ⟨faults, hstep | ⟨a, ha, hstep⟩⟩ := w.step_cases env hf
    · have hids : (w.step env c).2.idsUsed = w.idsUsed + c.ids :=
        congrArg (fun p => p.2.idsUsed) (hstep w.store)
      obtain ⟨r', hprivate, hfresh, hknown⟩ := h.act hf hfor (hids ▸ hn)
      exact h.alone_of_private hprivate hstep hfresh hknown
    · exact h.alone_of_skipped hstep (learned_of_skipped ha)
  | none =>
    obtain ⟨hstep, hsame⟩ := step_of_act?_eq_none hf
    have hlearned : c.learned (w.step env c).1 = [] := by
      cases c with
      | createConversation | getConversation => cases hf
      | _ => rfl
    refine ⟨⟨r, ?_⟩, ?_, ?_⟩
    · rw [hlearned, hsame]
      exact ⟨h.store, h.keyed, h.fresh, h.known⟩
    · rw [onlyOf, hstep, onlyOf, hsame]
    · rw [hsame]

end World

namespace Program

variable {env : Environment σ} {owner : UserId} {n : Nat} {known : List Conversation} {r : Records}
  {w : World σ}

/-- A run to which it makes no difference what others keep, and which leaves that as it is. -/
structure RunsAlone (env : Environment σ) (owner : UserId) (w : World σ) (p : Program α) :
    Prop where
  alone : p.run env (w.onlyOf owner) = ((p.run env w).1, (p.run env w).2.onlyOf owner)
  others : (p.run env w).2.store.ofOthers owner = w.store.ofOthers owner

/-- A program that acts for a user makes no difference to others, nor do they to it. -/
theorem ActsFor.runsAlone {allowed : Call → Prop} {post : List Conversation → α → Prop}
    {p : Program α} (h : p.ActsFor allowed owner known post) (hw : w.Serves env owner n known r)
    (hn : (p.run env w).2.idsUsed ≤ n) : RunsAlone env owner w p := by
  induction p generalizing w known r with
  | done a => exact ⟨rfl, rfl⟩
  | call c next ih =>
    have hstep := hw.step h.2.1 (Nat.le_trans (run_idsUsed_le env _ _) hn)
    obtain ⟨r', hserves⟩ := hstep.serves
    have hrest := ih _ (h.2.2 _) hserves hn
    refine ⟨?_, hrest.others.trans hstep.others⟩
    rw [run, hstep.alone]
    exact hrest.alone

end Program

end ChatRelay.Service
