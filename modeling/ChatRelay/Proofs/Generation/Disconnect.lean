import ChatRelay.Proofs.Generation.EventOrder

/-!
# Callers that leave

A caller that takes some events and then leaves is compared with one that takes
them all. It takes the first of the same events, and once it has been told that
the answer is complete, its leaving makes no difference to what is kept
(`generate_disconnected`): the two runs end in the same world but for the stream
of events (`Opened.run_of_hasRoom`).
-/

namespace ChatRelay.Generation

open Service (Environment Program World hasRoom taken)
open Title (Scanner)

variable {σ : Type}

namespace Opened

/-- All events are the same whoever listens. -/
theorem events_withSink (g : Opened) (env : Environment σ) (w : World σ) (room : Option Nat)
    (sent : List Event) : g.events env (w.withSink room sent) = g.events env w := by
  rw [events, events]
  cases g.outcome with
  | error e => rfl
  | ok scanner =>
    dsimp only
    rw [(g.close_silent scanner).run_withSink]

/-- What a caller does that has been told that the answer is complete makes no difference to
anything but the stream of its events. -/
theorem run_withSink_of_outputComplete (g : Opened) (env : Environment σ) (w : World σ) (n : Nat)
    (sent : List Event) (h : .outputComplete ∈ ((g.events env w).take n).map Event.kind) :
    (g.run.run env (w.withSink (some n) sent)).1.2 = (g.run.run env (w.withSink none sent)).1.2 ∧
      ∃ room sent', (g.run.run env (w.withSink (some n) sent)).2 =
        (g.run.run env (w.withSink none sent)).2.withSink room sent' := by
  have htold : .outputComplete ∈ (taken (some n) (g.events env w)).map Event.kind := h
  obtain ⟨hroom, scanner, ho⟩ := hasRoom_of_outputComplete htold
  have hcut := run_of_hasRoom env (w := w.withSink (some n) sent) ho hroom
  have hfull := run_of_hasRoom env (w := w.withSink none sent) ho rfl
  rw [(g.close_silent scanner).run_withSink, g.events_withSink] at hcut hfull
  refine ⟨hcut.1.trans hfull.1.symm, ?_⟩
  rw [hcut.2, hfull.2]
  exact ⟨_, _, rfl⟩

end Opened

/-- A caller that leaves after `n` events beside one that takes all of them: it is sent the first
`n`, and its generation fails if there are more. When it has been told that the answer is complete,
the same job is left, and the store is the same, also when the job is done. -/
theorem generate_disconnected (env : Environment σ) (settings : AiSettings) (caller : Option UserId)
    (request : GenerationRequest) (w : World σ) (n : Nat) :
    let full := (generate settings caller request).run env { w with room := none }
    let cut := (generate settings caller request).run env { w with room := some n }
    ∃ events, full.2.delivered = w.delivered ++ events ∧
      cut.2.delivered = w.delivered ++ events.take n ∧
      cut.1.1 = (if n < events.length then .error notHeard else full.1.1) ∧
      (.outputComplete ∈ (events.take n).map Event.kind →
        cut.1.2 = full.1.2 ∧ cut.2.store = full.2.store ∧
          ((TitleJob.runLeft cut.1.2).run env cut.2).2.store =
            ((TitleJob.runLeft full.1.2).run env full.2).2.store) := by
  have hstart := fun room =>
    (start_silent settings caller request).run_withSink env w room w.delivered
  have hfull : { w with room := none } = w.withSink none w.delivered := rfl
  have hcut : { w with room := some n } = w.withSink (some n) w.delivered := rfl
  rw [hfull, hcut, generate_run, generate_run, hstart, hstart]
  rcases (start settings caller request).run env w with ⟨e | g, w₁⟩
  · exact ⟨[], by simp⟩
  · have hevents := g.events_withSink env w₁
    have hsent := g.run_delivered env (w₁.withSink none w.delivered)
    have hsent' := g.run_delivered env (w₁.withSink (some n) w.delivered)
    have hresult := g.run_result env (w₁.withSink none w.delivered)
    have hresult' := g.run_result env (w₁.withSink (some n) w.delivered)
    have hkept := Opened.run_withSink_of_outputComplete g env w₁ n w.delivered
    rw [hevents] at hsent hsent' hresult hresult'
    dsimp only
    generalize g.run.run env (w₁.withSink none w.delivered) = full at *
    generalize g.run.run env (w₁.withSink (some n) w.delivered) = cut at *
    refine ⟨g.events env w₁, hsent, hsent', ?_, fun h => ?_⟩
    · rw [hresult', hresult]
      simp only [hasRoom, World.withSink_room, Option.all_some, Option.all_none, if_true,
        decide_eq_true_eq, ← Nat.not_lt, ite_not]
    · obtain ⟨hjob, room, sent, heq⟩ := hkept h
      rw [hjob, heq, TitleJob.runLeft_store_withSink]
      exact ⟨rfl, rfl, rfl⟩

end ChatRelay.Generation
