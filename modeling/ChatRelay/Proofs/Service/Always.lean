import ChatRelay.Proofs.Service.Alterations
import ChatRelay.Proofs.Service.Transcript

/-!
# What holds whenever a call is made

`Program.Always` says of a run that at each of its calls something holds: of the world
as it is when the call is made, and of what the call is answered. A run of two
programs is put together from theirs (`Program.always_bind`).

A conversation that a store keeps is followed through the calls of a run in the same
way: it is kept until it is deleted, and it keeps its title until it is given another
one (`World.step_keeps`).
-/

namespace ChatRelay.Service

open Generation (Event)
open Store (ConversationRow)

variable {α β σ : Type} {env : Environment σ} {w : World σ}

namespace Program

/-- At every call of a run `P` holds of the world in which it is made and of the call with its
answer. -/
def Always (env : Environment σ) (P : World σ → Answered → Prop) : Program α → World σ → Prop
  | .done _, _ => True
  | .call c next, w =>
    P w ⟨c, (w.step env c).1⟩ ∧ (next (w.step env c).1).Always env P (w.step env c).2

variable {P : World σ → Answered → Prop}

theorem always_pure (a : α) : (pure a : Program α).Always env P w := trivial

theorem always_perform {c : Call} :
    (perform c).Always env P w ↔ P w ⟨c, (w.step env c).1⟩ :=
  Iff.of_eq (and_true _)

theorem always_bind {p : Program α} {f : α → Program β} :
    (p >>= f).Always env P w ↔
      p.Always env P w ∧ (f (p.run env w).1).Always env P (p.run env w).2 := by
  rw [bind_eq]
  induction p generalizing w with
  | done a => exact Iff.of_eq (true_and _).symm
  | call c next ih => exact (and_congr_right fun _ => ih _).trans and_assoc.symm

/-- What holds of every allowed call holds throughout a run. -/
theorem Does.always {allowed : Call → Prop} {post : α → Prop} {p : Program α}
    (h : p.Does allowed post) (hP : ∀ (w : World σ) (a : Answered), allowed a.call → P w a) :
    p.Always env P w := by
  induction p generalizing w with
  | done a => trivial
  | call c next ih => exact ⟨hP w _ h.1, ih _ (h.2 _)⟩

end Program

/-! ## What is delivered -/

/-- The event of a call that the caller has taken. -/
def Answered.taken? : Answered → Option Event
  | ⟨.deliver e, true⟩ => some e
  | _ => none

theorem World.step_delivered (env : Environment σ) (w : World σ) (c : Call) :
    (w.step env c).2.delivered =
      w.delivered ++ (Answered.taken? ⟨c, (w.step env c).1⟩).toList := by
  by_cases hc : c.IsSilent
  · have hkept : (w.step env c).2 = (w.step env c).2.withSink w.room w.delivered :=
      (Program.Silent.perform hc).run_sink env w
    have htaken : Answered.taken? ⟨c, (w.step env c).1⟩ = none := by
      cases c with
      | deliver e => exact absurd rfl (hc e)
      | _ => rfl
    rw [hkept, htaken]
    exact (List.append_nil _).symm
  · obtain ⟨e, rfl⟩ : ∃ e, c = .deliver e := by simpa [Call.IsSilent] using hc
    simp only [step, deliver]
    rcases w.room with _ | _ | n <;> simp [Answered.taken?]

/-- What the caller has taken in a run is delivered behind what was delivered before. -/
theorem Program.run_delivered (env : Environment σ) (p : Program α) (w : World σ) :
    (p.run env w).2.delivered =
      w.delivered ++ (p.transcript env w).filterMap Answered.taken? :=
  p.run_log env (·.delivered) _ (World.step_delivered env) w

/-! ## A conversation that is kept -/

/-- The call does not take a row out of a store. -/
def Call.SparesRow (row : ConversationRow) (c : Call) : Prop :=
  ∀ f, c = .deleteConversation f → row.fits f = false

/-- The call gives no conversation another title, and deletes none. -/
def Call.KeepsTitles : Call → Prop
  | .updateConversation u => u.title = none
  | .deleteConversation _ => False
  | _ => True

variable {c : Conversation}

/-- A conversation that is not deleted is kept, with its title or with one that it is given. -/
theorem World.step_keeps (h : w.store.Keeps c) (hnow : (env.clock w.readings).Writable)
    {call : Call} (hspares : call.SparesRow (.ofConversation c)) :
    (w.step env call).2.store.Keeps c ∨
      ∃ u : Store.Update, call = .updateConversation u ∧
        (w.step env call).2.store.Keeps { c with title := u.title.getD c.title } := by
  obtain ⟨t, ht, hrow⟩ := h.row
  have hrows : (w.step env call).2.store.rowsOf c.uid = _ ∨ _ := step_rowsOf hrow call hspares
  obtain hsame | ⟨u, hu, -, hchanged⟩ := hrows
  · exact .inl ⟨h.created, t, ht, hsame⟩
  · rw [ConversationRow.change_ofConversation] at hchanged
    exact .inr ⟨u, hu, h.created, _, ⟨_, hnow, rfl⟩, hchanged⟩

namespace Program

variable {post : α → Prop} {p : Program α}

/-- Whatever is done but to delete it, a conversation is kept. -/
theorem Does.run_keeps_row (hp : p.Does (·.SparesRow (.ofConversation c)) post)
    (hclock : ∀ i, (env.clock i).Writable) (h : w.store.Keeps c) :
    ∃ title, (p.run env w).2.store.Keeps { c with title } := by
  refine hp.run_invariant env (P := fun w => ∃ title, w.store.Keeps { c with title })
    (fun call hcall w hw => ?_) ⟨c.title, h⟩
  obtain ⟨title, hw⟩ := hw
  obtain hsame | ⟨u, -, hchanged⟩ := World.step_keeps hw (hclock _) hcall
  · exact ⟨title, hsame⟩
  · exact ⟨_, hchanged⟩

/-- A conversation is kept with its title by those who give no titles. -/
theorem Does.run_keeps_title (hp : p.Does Call.KeepsTitles post)
    (hclock : ∀ i, (env.clock i).Writable) (h : w.store.Keeps c) :
    (p.run env w).2.store.Keeps c := by
  refine hp.run_invariant env (P := fun w => w.store.Keeps c) (fun call hcall w hw => ?_) h
  have hspares : call.SparesRow (.ofConversation c) := by
    rintro f rfl
    exact hcall.elim
  obtain hsame | ⟨u, rfl, hchanged⟩ := World.step_keeps hw (hclock _) hspares
  · exact hsame
  · have htitle : u.title = none := hcall
    rwa [htitle] at hchanged

end Program

/-- A conversation that is kept is given a title, or else the store fails and is left as it is. -/
theorem World.step_update_of_keeps (h : w.store.Keeps c) (hnow : (env.clock w.readings).Writable)
    {uid : String} (huid : uid = c.uid) (title : String) :
    (∃ e w', w.step env (.updateConversation { uid, title := some title }) = (.error e, w') ∧
      w'.store = w.store) ∨
    ∃ c' w', w.step env (.updateConversation { uid, title := some title }) = (.ok c', w') ∧
      c'.uid = c.uid ∧ c'.title = title ∧
      w'.store = w.store.retitled uid title (env.clock w.readings) ∧
      w'.store.Keeps { c with title } := by
  subst huid
  obtain ⟨⟨c', hanswer, huid, htitle⟩, hkept⟩ := h.update hnow (some title)
  rw [Store.update_title_snd] at hkept
  have hf : (Call.updateConversation { uid := c.uid, title := some title }).act? env w = some _ :=
    rfl
  obtain ⟨faults, hstep | ⟨a, ⟨e, rfl⟩, hstep⟩⟩ := step_cases_self hf
  · rw [hanswer, Store.update_title_snd] at hstep
    exact .inr ⟨c', _, hstep, huid, htitle, rfl, hkept⟩
  · exact .inl ⟨e, _, hstep, rfl⟩

/-- A conversation that was created is kept. -/
theorem World.keeps_of_created {owner : UserId} {title : String} {status : Status}
    (hnow : (env.clock w.readings).Writable)
    (h : (w.step env (.createConversation owner title status)).1 = .ok c) :
    c.owner = owner ∧ (w.step env (.createConversation owner title status)).2.store.Keeps c := by
  have hstep : w.step env (.createConversation owner title status) = (.ok c, _) :=
    Prod.ext h rfl
  obtain ⟨rfl, hrow⟩ := rowsOf_of_created hstep
  have hkept : (env.clock w.readings).truncate.Kept Time.Instant.Writable := ⟨_, hnow, rfl⟩
  exact ⟨rfl, hkept, _, hkept, hrow⟩

end ChatRelay.Service
