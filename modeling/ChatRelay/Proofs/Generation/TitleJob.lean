import ChatRelay.Proofs.Generation.Sending
import ChatRelay.Proofs.Service.ActsFor

/-!
# Jobs for a title

A job asks for a title and stores it before it tells the caller.
`TitleJob.search` is the part in front of the telling: it sends nothing, so that
what a job does to the store does not depend on who listens (`run_store`).
-/

namespace ChatRelay.Generation

open Service (Environment Program World hasRoom taken)
open Service.Program (perform)

variable {σ : Type} {owner : UserId} {known : List Conversation}

theorem reportFor_actsFor {allowed : Service.Call → Prop} (hallowed : ∀ d, allowed (.report d))
    (uid : String) (kind : DiagnosticKind) (detail : String) :
    (reportFor uid kind detail).ActsFor allowed owner known fun _ _ => True :=
  .perform (hallowed _) trivial

namespace TitleJob

/-- Asks for a title and stores it. The conversation to tell of, if there is a new title. -/
def search (job : TitleJob) : Program (Option ConversationView) :=
  let request := titleRequest job.settings.model job.firstUserMessage job.answer
  perform (.complete job.settings request) >>= fun
    | .error e =>
      reportFor job.uid .titleRequestFailed ("failed to generate title: " ++ e.message) >>=
        fun _ => pure none
    | .ok reply =>
      if Text.isBlank reply.content then
        reportFor job.uid .titleEmpty "title generation returned an empty response" >>=
          fun _ => pure none
      else
        let title := Title.normalizeTitle reply.content
        perform (.updateConversation { uid := job.uid, title := some title }) >>= fun
          | .error e =>
            reportFor job.uid .titlePersistFailed
              ("failed to update conversation title: " ++ e.message) >>= fun _ => pure none
          | .ok conversation => pure (some conversation.view)

/-- Tells the caller of the title, or reports that it could not be told. -/
def tell (job : TitleJob) (view : ConversationView) : Program Unit :=
  perform (.deliver (.titleGenerated view (some "Title generated"))) >>= fun heard : Bool =>
    if heard then pure ()
    else reportFor job.uid .titleDeliveryFailed "failed to deliver title: event stream closed"

theorem run_eq (job : TitleJob) :
    job.run = job.search >>= fun
      | none => pure ()
      | some view => job.tell view := by
  rw [run, search]
  simp only [bind_assoc]
  refine bind_congr fun reply => ?_
  cases reply with
  | error e => simp only [bind_assoc, pure_bind, bind_pure_unit]
  | ok reply =>
    dsimp only
    split
    · simp only [bind_assoc, pure_bind, bind_pure_unit]
    · simp only [bind_assoc]
      refine bind_congr fun updated => ?_
      cases updated with
      | error e => simp only [bind_assoc, pure_bind, bind_pure_unit]
      | ok c => rfl

theorem search_silent (job : TitleJob) : job.search.Silent := by
  have hreport : ∀ kind detail,
      (reportFor job.uid kind detail >>= fun _ =>
        (pure none : Program (Option ConversationView))).Silent :=
    fun _ _ => .bind (.perform fun _ => nofun) fun _ => .pure trivial
  refine .bind (.perform fun _ => nofun) fun reply => ?_
  cases reply with
  | error e => exact hreport _ _
  | ok reply =>
    dsimp only
    split
    · exact hreport _ _
    · refine .bind (.perform fun _ => nofun) fun updated => ?_
      cases updated with
      | error e => exact hreport _ _
      | ok c => exact .pure trivial

/-- A job acts for the user whose conversation it is about. -/
theorem run_actsFor (job : TitleJob) {c : Conversation} (hc : c ∈ known) (huid : c.uid = job.uid) :
    job.run.ActsFor (fun _ => True) owner known fun _ _ => True := by
  refine .call trivial trivial fun reply => ?_
  cases reply with
  | error e => exact reportFor_actsFor (fun _ => trivial) _ _ _
  | ok reply =>
    dsimp only
    split
    · exact reportFor_actsFor (fun _ => trivial) _ _ _
    · refine .call trivial ⟨c, hc, huid⟩ fun updated => ?_
      cases updated with
      | error e => exact reportFor_actsFor (fun _ => trivial) _ _ _
      | ok c =>
        refine .call trivial trivial fun heard => ?_
        split
        · exact .pure trivial
        · exact reportFor_actsFor (fun _ => trivial) _ _ _

/-- Telling the caller adds at most the one event, and changes nothing that is stored. -/
theorem tell_run (job : TitleJob) (view : ConversationView) (env : Environment σ) (w : World σ) :
    ((job.tell view).run env w).2.delivered =
        w.delivered ++ taken w.room [.titleGenerated view (some "Title generated")] ∧
      ((job.tell view).run env w).2.store = w.store := by
  have hcall : (job.tell view).run env w =
      (if (w.deliver (.titleGenerated view (some "Title generated"))).1 then
          (pure () : Program Unit)
        else reportFor job.uid .titleDeliveryFailed
          "failed to deliver title: event stream closed").run env
        (w.deliver (.titleGenerated view (some "Title generated"))).2 := rfl
  rw [hcall]
  rcases hw : w.room with _ | _ | n <;>
    simp [World.deliver, hw, taken, reportFor, perform, Program.run, World.step]

/-- What a job does to the store it does before it tells the caller. -/
theorem run_store (job : TitleJob) (env : Environment σ) (w : World σ) :
    (job.run.run env w).2.store = (job.search.run env w).2.store := by
  rw [run_eq, Program.bind_eq, Program.run_bind]
  dsimp only
  cases (job.search.run env w).1 with
  | none => rfl
  | some view => exact (job.tell_run view env _).2

/-- A job tells the caller of at most one title. -/
theorem run_delivered (job : TitleJob) (env : Environment σ) (w : World σ) :
    ∃ late, (job.run.run env w).2.delivered = w.delivered ++ late ∧
      (late = [] ∨ ∃ view, late = [.titleGenerated view (some "Title generated")]) := by
  have hsilent := job.search_silent.run_delivered env w
  rw [run_eq, Program.bind_eq, Program.run_bind]
  dsimp only
  cases (job.search.run env w).1 with
  | none => exact ⟨[], by simpa using hsilent, .inl rfl⟩
  | some view =>
    refine ⟨_, (job.tell_run view env _).1.trans (by rw [hsilent]), ?_⟩
    rcases (job.search.run env w).2.room with _ | _ | n
    · exact .inr ⟨view, rfl⟩
    · exact .inl rfl
    · exact .inr ⟨view, by simp [taken]⟩

/-- What a job that is left does to the store does not depend on who listens. -/
theorem runLeft_store_withSink (job : Option TitleJob) (env : Environment σ) (w : World σ)
    (room : Option Nat) (sent : List Event) :
    ((runLeft job).run env (w.withSink room sent)).2.store = ((runLeft job).run env w).2.store := by
  cases job with
  | none => rfl
  | some job =>
    rw [runLeft, run_store, run_store, job.search_silent.run_withSink, World.withSink_store]

theorem runLeft_delivered (job : Option TitleJob) (env : Environment σ) (w : World σ) :
    ∃ late, ((runLeft job).run env w).2.delivered = w.delivered ++ late ∧
      (late = [] ∨
        job.isSome ∧ ∃ view, late = [.titleGenerated view (some "Title generated")]) := by
  cases job with
  | none => exact ⟨[], (List.append_nil _).symm, .inl rfl⟩
  | some job =>
    obtain ⟨late, hlate, hcases⟩ := job.run_delivered env w
    exact ⟨late, hlate, hcases.imp_right fun h => ⟨rfl, h⟩⟩

end TitleJob

end ChatRelay.Generation
