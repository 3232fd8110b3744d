import ChatRelay.Proofs.Service.Steps

/-!
# Transcripts

The transcript of a run is the list of the calls that it made, each with its
answer (`Program.transcript`). What was reported in a run can be read off it
(`run_diagnostics`), and what the provider was asked for as a whole
(`run_completed`), and so can the messages that were added, when nothing was
deleted (`run_messages`).
-/

namespace ChatRelay.Service

open Generation (Diagnostic)
open Store (MessageRow StoreError)

variable {α β σ : Type}

/-- A call and its answer. -/
structure Answered where
  call : Call
  answer : call.Answer

namespace Answered

/-- What a call reports. -/
def report? : Answered → Option Diagnostic
  | ⟨.report d, _⟩ => some d
  | _ => none

/-- The message that a call has added. -/
def message? : Answered → Option ChatMessage
  | ⟨.createMessage .., .ok m⟩ => some m
  | _ => none

/-- The conversation that a call has created. -/
def created? : Answered → Option Conversation
  | ⟨.createConversation .., .ok c⟩ => some c
  | _ => none

/-- What a call asks the provider for as a whole. -/
def asked? : Answered → Option Completion.Request
  | ⟨.complete _ request, _⟩ => some request
  | _ => none

end Answered

/-- The calls of a run, with their answers. -/
def Program.transcript (env : Environment σ) : Program α → World σ → List Answered
  | .done _, _ => []
  | .call c next, w =>
    ⟨c, (w.step env c).1⟩ :: (next (w.step env c).1).transcript env (w.step env c).2

/-- What was reported in a run. -/
def reports (transcript : List Answered) : List Diagnostic :=
  transcript.filterMap Answered.report?

/-- The messages that were added in a run. -/
def addedMessages (transcript : List Answered) : List ChatMessage :=
  transcript.filterMap Answered.message?

/-- The conversations that were created in a run. -/
def createdIn (transcript : List Answered) : List Conversation :=
  transcript.filterMap Answered.created?

/-- What the provider was asked for as a whole in a run. -/
def askedIn (transcript : List Answered) : List Completion.Request :=
  transcript.filterMap Answered.asked?

namespace Program

variable (env : Environment σ)

@[simp] theorem transcript_pure (a : α) (w : World σ) :
    (pure a : Program α).transcript env w = [] := rfl

@[simp] theorem transcript_perform (c : Call) (w : World σ) :
    (perform c).transcript env w = [⟨c, (w.step env c).1⟩] := rfl

/-- A program that goes on with another makes the calls of both. -/
@[simp] theorem transcript_bind (p : Program α) (f : α → Program β) (w : World σ) :
    (p >>= f).transcript env w =
      p.transcript env w ++ (f (p.run env w).1).transcript env (p.run env w).2 := by
  rw [bind_eq]
  induction p generalizing w with
  | done a => rfl
  | call c next ih =>
    simp only [bind, transcript, run, List.cons_append]
    rw [ih]

/-- A program that sends nothing makes the same calls whatever was sent before. -/
theorem Silent.transcript_withSink {p : Program α} (h : p.Silent) (w : World σ)
    (room : Option Nat) (sent : List Generation.Event) :
    p.transcript env (w.withSink room sent) = p.transcript env w := by
  induction p generalizing w with
  | done a => rfl
  | call c next ih =>
    rw [Program.transcript, Program.transcript, w.step_withSink room sent env h.1]
    generalize w.step env c = s
    exact congrArg (_ :: ·) (ih s.1 (h.2 s.1) s.2)

/-- All calls of a run are among those that its program makes. -/
theorem Does.transcript {allowed : Call → Prop} {post : α → Prop} {p : Program α}
    (h : p.Does allowed post) (w : World σ) : ∀ a ∈ p.transcript env w, allowed a.call := by
  induction p generalizing w with
  | done a => exact fun a ha => nomatch ha
  | call c next ih => exact List.forall_mem_cons.2 ⟨h.1, ih _ (h.2 _) _⟩

end Program

/-! ## What can be read off a transcript -/

/-- Only a report is reported. -/
theorem World.step_diagnostics (env : Environment σ) (w : World σ) (c : Call) :
    (w.step env c).2.diagnostics =
      w.diagnostics ++ (Answered.report? ⟨c, (w.step env c).1⟩).toList := by
  cases hf : c.act? env w with
  | some f =>
    have hreport : ∀ a, Answered.report? ⟨c, a⟩ = none := by
      cases c with
      | report => cases hf
      | _ => exact fun _ => rfl
    rw [hreport, Option.toList_none, List.append_nil]
    obtain ⟨faults, h | ⟨a, -, h⟩⟩ := step_cases_self hf <;> rw [h]
  | none =>
    cases c with
    | createProvider | stream | complete => exact (List.append_nil _).symm
    | report d => rfl
    | deliver e =>
      rw [step, deliver]
      rcases w.room with _ | _ | n <;> exact (List.append_nil _).symm
    | _ => cases hf

/-- What every call adds to a list of the world, a run adds to it in order. -/
theorem Program.run_log (env : Environment σ) (log : World σ → List β) (f : Answered → Option β)
    (hstep : ∀ (w : World σ) (c : Call),
      log (w.step env c).2 = log w ++ (f ⟨c, (w.step env c).1⟩).toList)
    (p : Program α) (w : World σ) :
    log (p.run env w).2 = log w ++ (p.transcript env w).filterMap f := by
  induction p generalizing w with
  | done a => exact (List.append_nil _).symm
  | call c next ih =>
    rw [run, transcript, List.filterMap_cons]
    dsimp only
    rw [ih, hstep, List.append_assoc]
    cases f ⟨c, (w.step env c).1⟩ <;> rfl

/-- What was reported in a run is reported behind what was reported before. -/
theorem Program.run_diagnostics (env : Environment σ) (p : Program α) (w : World σ) :
    (p.run env w).2.diagnostics = w.diagnostics ++ reports (p.transcript env w) :=
  p.run_log env (·.diagnostics) _ (World.step_diagnostics env) w

/-- Only what is asked for as a whole is asked for as a whole. -/
theorem World.step_completed (env : Environment σ) (w : World σ) (c : Call) :
    (w.step env c).2.completed =
      w.completed ++ (Answered.asked? ⟨c, (w.step env c).1⟩).toList := by
  cases hf : c.act? env w with
  | some f =>
    have hasked : ∀ a, Answered.asked? ⟨c, a⟩ = none := by
      cases c with
      | complete => cases hf
      | _ => exact fun _ => rfl
    rw [hasked, Option.toList_none, List.append_nil]
    obtain ⟨faults, h | ⟨a, -, h⟩⟩ := step_cases_self hf <;> rw [h]
  | none =>
    cases c with
    | createProvider | stream | report => exact (List.append_nil _).symm
    | complete s r => rfl
    | deliver e =>
      rw [step, deliver]
      rcases w.room with _ | _ | n <;> exact (List.append_nil _).symm
    | _ => cases hf

/-- What was asked for in a run stands behind what was asked for before. -/
theorem Program.run_completed (env : Environment σ) (p : Program α) (w : World σ) :
    (p.run env w).2.completed = w.completed ++ askedIn (p.transcript env w) :=
  p.run_log env (·.completed) _ (World.step_completed env) w

/-- A call that was not carried out has added no message. -/
theorem Call.Skipped.message?_eq_none {c : Call} {a : c.Answer} (h : c.Skipped a) :
    Answered.message? ⟨c, a⟩ = none := by
  cases c with
  | createMessage id role content =>
    obtain ⟨e, rfl⟩ := h
    rfl
  | _ => rfl

/-- A call that is not one to the store has added no message. -/
theorem Call.message?_eq_none_of_act? {env : Environment σ} {w : World σ} {c : Call}
    (hf : c.act? env w = none) (a : c.Answer) : Answered.message? ⟨c, a⟩ = none := by
  cases c with
  | createMessage => cases hf
  | _ => rfl

/-- An operation that deletes nothing adds the message that it is answered with, if it is. -/
theorem Call.act?_messages {env : Environment σ} {w : World σ} {c : Call}
    {f : Store → c.Answer × Store} (hf : c.act? env w = some f)
    (hc : ∀ f, c ≠ .deleteConversation f) (s : Store) :
    (f s).2.messages =
      s.messages ++ (Answered.message? ⟨c, (f s).1⟩).toList.map MessageRow.ofMessage := by
  cases c with
  | createMessage id role content =>
    cases hf
    obtain ⟨e, hadd⟩ | ⟨m, -, hadd⟩ := s.addMessage_cases id role content (env.ids w.idsUsed)
      (env.clock w.readings) <;> simp [hadd, Answered.message?]
  | createConversation owner title status =>
    cases hf
    obtain ⟨e, hcreate⟩ | hcreate := s.create_cases owner title status (env.ids w.idsUsed)
      (env.ids (w.idsUsed + 1)).text (env.clock w.readings) <;> simp [hcreate, Answered.message?]
  | updateConversation u =>
    cases hf
    simp [s.update_messages, Answered.message?]
  | deleteConversation filter => exact absurd rfl (hc filter)
  | findConversations | getConversation | listMessages =>
    cases hf
    exact (List.append_nil _).symm
  | _ => cases hf

/-- A call that deletes nothing adds the message that it is answered with, if it is. -/
theorem World.step_messages (env : Environment σ) (w : World σ) {c : Call}
    (hc : ∀ f, c ≠ .deleteConversation f) :
    (w.step env c).2.store.messages =
      w.store.messages ++
        (Answered.message? ⟨c, (w.step env c).1⟩).toList.map MessageRow.ofMessage := by
  cases hf : c.act? env w with
  | some f =>
    obtain ⟨faults, h | ⟨a, ha, h⟩⟩ := step_cases_self hf
    · rw [h]
      exact Call.act?_messages hf hc w.store
    · rw [h, ha.message?_eq_none]
      exact (List.append_nil _).symm
  | none =>
    rw [(step_of_act?_eq_none hf).2, Call.message?_eq_none_of_act? hf]
    exact (List.append_nil _).symm

/-- When nothing is deleted, the messages that were added in a run stand behind all others. -/
theorem Program.run_messages {allowed : Call → Prop} {post : α → Prop} {p : Program α}
    (h : p.Does allowed post) (hallowed : ∀ f, ¬ allowed (.deleteConversation f))
    (env : Environment σ) (w : World σ) :
    (p.run env w).2.store.messages =
      w.store.messages ++ (addedMessages (p.transcript env w)).map MessageRow.ofMessage := by
  induction p generalizing w with
  | done a => exact (List.append_nil _).symm
  | call c next ih =>
    have hc : ∀ f, c ≠ .deleteConversation f := by
      rintro f rfl
      exact hallowed f h.1
    rw [run, transcript, addedMessages, List.filterMap_cons]
    dsimp only
    rw [ih _ (h.2 _), w.step_messages env hc, List.append_assoc]
    cases Answered.message? ⟨c, (w.step env c).1⟩ <;> rfl

end ChatRelay.Service
