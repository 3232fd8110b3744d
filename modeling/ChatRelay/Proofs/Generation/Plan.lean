import ChatRelay.Proofs.Generation.TitleJob
import ChatRelay.Proofs.Title.Scan

/-!
# The course of a generation

What a generation sends does not depend on who listens. `Opened.passed` is what
is sent of the answer, and `Opened.close` keeps the exchange without sending
anything and says what is sent afterwards.

`Opened.run_run` puts the two together: it gives the result, the world and the
events of every run in closed form.
-/

namespace ChatRelay.Generation

open Completion (ProviderError)
open Service (Environment Program StreamItem World hasRoom taken)
open Title (ScanStep Scanner fragments)

variable {σ : Type}

/-! ## The answer -/

/-- The texts that a stream yields before it fails. -/
def texts : List StreamItem → List String
  | [] => []
  | .error _ :: _ => []
  | .ok (.textDelta text) :: items => text :: texts items
  | .ok _ :: items => texts items

/-- What a stream fails with. -/
def failure? : List StreamItem → Option ProviderError
  | [] => none
  | .error e :: _ => some e
  | .ok _ :: items => failure? items

/-- The events that bring some texts to the caller. -/
def contents (fragments : List String) : List Event :=
  fragments.map .content

@[simp] theorem contents_append (fragments fragments' : List String) :
    contents (fragments ++ fragments') = contents fragments ++ contents fragments' :=
  List.map_append

theorem send_eq (e : Event) : send e = sendAll [e] :=
  (Program.andThen_pure_ok (send e)).symm

theorem sendVisible_eq (visible : Option String) :
    sendVisible visible = sendAll (contents visible.toList) := by
  cases visible with
  | none => rfl
  | some text => exact send_eq (.content text)

theorem relay_textDelta (scanner : Scanner) (text : String) (items : List StreamItem) :
    relay scanner (.ok (.textDelta text) :: items) =
      (sendVisible (scanner.consume text).2.visible).andThen fun _ =>
        relay (scanner.consume text).1 items := by
  rw [relay]
  exact Program.bind_eq_andThen (fun _ => rfl) fun _ => rfl

/-- Passing a stream on is sending the fragments that the scanner forwards. -/
theorem relay_eq (scanner : Scanner) (items : List StreamItem) :
    relay scanner items =
      (sendAll (contents (fragments (scanner.feed (texts items)).2))).andThen fun _ =>
        pure (match failure? items with
          | some e => .error (streamError e)
          | none => .ok (scanner.feed (texts items)).1) := by
  induction items generalizing scanner with
  | nil => rfl
  | cons item items ih =>
    rcases item with e | event
    · rfl
    · cases event with
      | textDelta text =>
        rw [relay_textDelta, ih, sendVisible_eq, ← Program.andThen_assoc, ← sendAll_append,
          ← contents_append, ← Title.fragments_cons]
        rfl
      | connected | messageDelta | usage | done => exact ih scanner

namespace Opened

/-- What the scanner makes of the texts of the stream. After a failure it is not told of an end. -/
def scanned (g : Opened) : Scanner × List ScanStep :=
  match failure? g.items with
  | some _ => Scanner.feed {} (texts g.items)
  | none => Scanner.readAll (texts g.items)

/-- The events that are sent before anything is kept. -/
def passed (g : Opened) : List Event :=
  .modelReady none :: contents (fragments g.scanned.2) ++
    if (failure? g.items).isNone then [.outputComplete none] else []

/-- What passing the answer on ends in, when the caller takes all events. -/
def outcome (g : Opened) : Except ChatError Scanner :=
  match failure? g.items with
  | some e => .error (streamError e)
  | none => .ok g.scanned.1

theorem outcome_of_failure?_eq_none {g : Opened} (h : failure? g.items = none) :
    g.outcome = .ok (Scanner.readAll (texts g.items)).1 := by
  rw [outcome, scanned, h]

theorem pass_unfold (g : Opened) :
    g.pass = (send (.modelReady none)).andThen fun _ => (relay {} g.items).andThen fun scanner =>
      (sendVisible scanner.finish.2.visible).andThen fun _ =>
        (send (.outputComplete none)).andThen fun _ => pure (.ok scanner.finish.1) := by
  refine Program.bind_eq_andThen (fun _ => rfl) fun _ => ?_
  refine Program.bind_eq_andThen (fun _ => rfl) fun scanner => ?_
  refine Program.bind_eq_andThen (fun _ => rfl) fun _ => ?_
  exact Program.bind_eq_andThen (fun _ => rfl) fun _ => rfl

/-- Passing the answer on is sending what there is of it. -/
theorem pass_eq (g : Opened) : g.pass = (sendAll g.passed).andThen fun _ => pure g.outcome := by
  rw [pass_unfold, send_eq, relay_eq]
  cases h : failure? g.items with
  | some e =>
    have hpassed : g.passed =
        [.modelReady none] ++ contents (fragments (Scanner.feed {} (texts g.items)).2) := by
      simp [passed, scanned, h]
    rw [hpassed, sendAll_append, outcome, h]
    simp only [Program.andThen_assoc, Program.andThen_error]
  | none =>
    have hpassed : g.passed =
        [.modelReady none] ++ (contents (fragments (Scanner.feed {} (texts g.items)).2) ++
          (contents (Scanner.feed {} (texts g.items)).1.finish.2.visible.toList ++
            [.outputComplete none])) := by
      simp [passed, scanned, h, Scanner.readAll_eq_feed]
    rw [hpassed, sendAll_append, sendAll_append, sendAll_append, outcome, h, scanned, h,
      Scanner.readAll_eq_feed]
    simp only [Program.andThen_assoc, Program.andThen_ok, sendVisible_eq, send_eq]

/-! ## What comes after it -/

/-- What is sent after a conversation was created. -/
def announcement (view : ConversationView) (title : Option String) : List Event :=
  .sessionUpdated view (some "Session created") ::
    (title.toList.map fun _ => .titleGenerated view (some "Title generated"))

/-- Keeps the exchange. Events that are still to be sent, and a job that is left. -/
def close (g : Opened) (scanner : Scanner) : Program (List Event × Option TitleJob) :=
  if scanner.raw = [] then pure ([.outputEnd none], none)
  else
    match g.existing with
    | some c =>
      g.keepExchange c scanner.visibleContent >>= fun _ => pure ([.outputEnd none], none)
    | none =>
      g.createConversation scanner.title? >>= fun
        | none => pure ([.outputEnd none], none)
        | some c =>
          g.keepExchange c scanner.visibleContent >>= fun _ =>
            g.loadView c >>= fun view =>
              pure (announcement view scanner.title? ++ [.outputEnd none],
                if scanner.title?.isNone then some (g.titleJob c scanner.visibleContent)
                else none)

/-- Sends events and hands on the job that is left. -/
def announceAll (rest : List Event × Option TitleJob) :
    Program (Except ChatError Unit × Option TitleJob) :=
  sendAll rest.1 >>= fun result => pure (result, rest.2)

theorem announce_eq (view : ConversationView) (title : Option String) :
    announce view title = sendAll (announcement view title) := by
  cases title with
  | none => exact Program.bind_eq_andThen (fun _ => rfl) fun _ => rfl
  | some t =>
    rw [announcement, sendAll, Option.toList_some, List.map_singleton, ← send_eq]
    exact Program.bind_eq_andThen (fun _ => rfl) fun _ => rfl

/-- Settling is keeping the exchange and then sending what is left to send. -/
theorem settle_eq (g : Opened) {scanner : Scanner} (h : scanner.raw ≠ []) :
    g.settle scanner = g.close scanner >>= announceAll := by
  rw [close, if_neg h, settle]
  cases g.existing with
  | some c =>
    simp only [bind_assoc, pure_bind, announceAll, send_eq]
  | none =>
    simp only [bind_assoc]
    refine bind_congr fun created => ?_
    cases created with
    | none => simp only [pure_bind, announceAll, send_eq]
    | some c =>
      simp only [bind_assoc]
      refine bind_congr fun _ => bind_congr fun view => ?_
      simp only [pure_bind, announceAll, sendAll_append, ← announce_eq, Program.andThen,
        bind_assoc]
      refine bind_congr fun r => ?_
      rcases r with e | ⟨⟩
      · simp
      · simp [send_eq]

theorem run_eq (g : Opened) :
    g.run = g.pass >>= fun
      | .error e => pure (.error e, none)
      | .ok scanner => g.close scanner >>= announceAll := by
  refine bind_congr fun r => ?_
  cases r with
  | error e => rfl
  | ok scanner =>
    by_cases h : scanner.raw = []
    · simp [close, h, announceAll, send_eq]
    · simp only [h, if_false, settle_eq g h]

/-! ## Keeping the exchange sends nothing -/

/-- The events that end a generation, and the job that is left: a conversation that is new is told
of together with its title, or left to a job. -/
inductive Closing : List Event → Option TitleJob → Prop where
  | plain : Closing [.outputEnd none] none
  | untitled (view : ConversationView) (job : TitleJob) :
      Closing [.sessionUpdated view (some "Session created"), .outputEnd none] (some job)
  | titled (view : ConversationView) :
      Closing [.sessionUpdated view (some "Session created"),
        .titleGenerated view (some "Title generated"), .outputEnd none] none

end Opened

namespace Opened

variable {owner : UserId} {known : List Conversation} {c : Conversation}

theorem keepMessage_actsFor (hc : c ∈ known) (role : Role) (what content : String) :
    (keepMessage c role what content).ActsFor Service.Call.IsSilent owner known
      fun _ _ => True := by
  refine .call (fun _ => nofun) ⟨c, hc, rfl⟩ fun r => ?_
  cases r with
  | error e => exact reportFor_actsFor (fun _ _ => nofun) _ _ _
  | ok m => exact .pure trivial

theorem keepInputs_cons (c : Conversation) (m : Completion.Message)
    (inputs : List Completion.Message) :
    keepInputs c (m :: inputs) =
      (if m.role = .user then keepMessage c .user "user" m.content else pure ()) >>= fun _ =>
        keepInputs c inputs := by
  rw [keepInputs]
  split <;> rfl

theorem keepInputs_actsFor (hc : c ∈ known) (inputs : List Completion.Message) :
    (keepInputs c inputs).ActsFor Service.Call.IsSilent owner known fun _ _ => True := by
  induction inputs generalizing known with
  | nil => exact .pure trivial
  | cons m inputs ih =>
    rw [keepInputs_cons]
    split
    · exact .bind (keepMessage_actsFor hc _ _ _) fun _ _ hknown _ => ih (hknown hc)
    · exact ih hc

theorem keepExchange_actsFor (g : Opened) (hc : c ∈ known) (content : String) :
    (g.keepExchange c content).ActsFor Service.Call.IsSilent owner known fun _ _ => True := by
  refine .bind (keepInputs_actsFor hc g.inputs) fun _ _ hknown _ => ?_
  have hc := hknown hc
  refine .bind (keepMessage_actsFor hc _ _ _) fun _ _ hknown _ => ?_
  have hc := hknown hc
  refine .call (fun _ => nofun) ⟨c, hc, rfl⟩ fun r => ?_
  cases r with
  | error e => exact reportFor_actsFor (fun _ _ => nofun) _ _ _
  | ok c => exact .pure trivial

theorem createConversation_actsFor (g : Opened) (title : Option String) :
    (g.createConversation title).ActsFor Service.Call.IsSilent g.owner known
      fun known created => ∀ c, created = some c → c ∈ known := by
  refine .call (fun _ => nofun) rfl fun r => ?_
  cases r with
  | error e => exact .call (fun _ => nofun) trivial fun _ => .pure nofun
  | ok c =>
    refine .pure ?_
    rintro _ ⟨⟩
    exact List.mem_cons_self

theorem loadView_actsFor (g : Opened) (c : Conversation) :
    (g.loadView c).ActsFor Service.Call.IsSilent g.owner known fun _ _ => True := by
  refine .call (fun _ => nofun) rfl fun r => ?_
  rcases r with e | _ | c <;> exact .pure trivial

/-- Closing a generation acts for its user when the conversation that goes on is known. It sends
nothing, leaves one of three lists of events to send, and perhaps a job for a conversation that is
known then. -/
theorem close_actsFor (g : Opened) (scanner : Scanner)
    (hexisting : ∀ c, g.existing = some c → c ∈ known) :
    (g.close scanner).ActsFor Service.Call.IsSilent g.owner known fun known rest =>
      Closing rest.1 rest.2 ∧ ∀ job, rest.2 = some job → ∃ c ∈ known, c.uid = job.uid := by
  rw [close]
  split
  · exact .pure ⟨.plain, nofun⟩
  · cases hg : g.existing with
    | some c =>
      exact .bind (g.keepExchange_actsFor (hexisting c hg) _) fun _ _ _ _ => .pure ⟨.plain, nofun⟩
    | none =>
      refine .bind (g.createConversation_actsFor _) fun _ created _ hcreated => ?_
      cases created with
      | none => exact .pure ⟨.plain, nofun⟩
      | some c =>
        have hc := hcreated c rfl
        refine .bind (g.keepExchange_actsFor hc _) fun _ _ hknown _ => ?_
        have hc := hknown hc
        refine .bind (g.loadView_actsFor c) fun _ view hknown _ => ?_
        have hc := hknown hc
        cases scanner.title? with
        | none =>
          refine .pure ⟨.untitled view _, ?_⟩
          rintro job ⟨⟩
          exact ⟨c, hc, rfl⟩
        | some t => exact .pure ⟨.titled view, nofun⟩

theorem sendAll_actsFor (events : List Event) :
    (sendAll events).ActsFor (fun _ => True) owner known fun _ _ => True := by
  induction events generalizing known with
  | nil => exact .pure trivial
  | cons e events ih =>
    have hsend : (send e).ActsFor (fun _ => True) owner known fun _ _ => True :=
      .call trivial trivial fun _ => .pure trivial
    refine hsend.bind fun _ r _ _ => ?_
    cases r with
    | error e => exact .pure trivial
    | ok _ => exact ih

theorem pass_actsFor (g : Opened) :
    g.pass.ActsFor (fun _ => True) owner known fun _ _ => True := by
  rw [pass_eq]
  refine .bind (sendAll_actsFor _) fun _ r _ _ => ?_
  cases r <;> exact .pure trivial

/-- A generation acts for its user when the conversation that goes on is known. A job that is left
is about a conversation that is known then. -/
theorem run_actsFor (g : Opened) (hexisting : ∀ c, g.existing = some c → c ∈ known) :
    g.run.ActsFor (fun _ => True) g.owner known fun known r =>
      ∀ job, r.2 = some job → ∃ c ∈ known, c.uid = job.uid := by
  rw [run_eq]
  refine .bind g.pass_actsFor fun known' r hknown _ => ?_
  cases r with
  | error e => exact .pure nofun
  | ok scanner =>
    refine .bind ((g.close_actsFor scanner fun c hc => hknown (hexisting c hc)).imp
      fun _ _ => trivial) fun known' rest _ hrest => ?_
    refine .bind (sendAll_actsFor rest.1) fun known'' result hknown _ => .pure fun job hjob => ?_
    obtain ⟨c, hc, huid⟩ := hrest.2 job hjob
    exact ⟨c, hknown hc, huid⟩

/-- Closing a generation sends nothing, deletes nothing, and leaves one of three lists of events to
send. -/
theorem close_does (g : Opened) (scanner : Scanner) :
    (g.close scanner).Does (fun c => c.IsSilent ∧ ∀ f, c ≠ .deleteConversation f)
      fun rest => Closing rest.1 rest.2 := by
  have hexisting : ∀ c, g.existing = some c → c ∈ g.existing.toList := fun c hc => by
    rw [hc]
    exact List.mem_cons_self
  exact ((g.close_actsFor scanner hexisting).mono fun _ _ h => h.1).does

theorem close_silent (g : Opened) (scanner : Scanner) : (g.close scanner).Silent :=
  ((g.close_does scanner).imp fun _ h => h.1).mono fun _ _ => trivial

/-! ## Runs -/

/-- What a run comes to: the caller takes the events there is room for. When it stops listening in
front of the end of the answer, nothing is kept. Later, everything is. -/
theorem run_run (g : Opened) (env : Environment σ) (w : World σ) :
    g.run.run env w =
      match g.outcome with
      | .error e =>
        ((if hasRoom w.room g.passed then .error e else .error notHeard, none), w.hear g.passed)
      | .ok scanner =>
        if hasRoom w.room g.passed then
          let ((events, job), w') := (g.close scanner).run env w
          ((if hasRoom w.room (g.passed ++ events) then .ok () else .error notHeard, job),
            w'.hear (g.passed ++ events))
        else ((.error notHeard, none), w.hear g.passed) := by
  rw [run_eq, pass_eq]
  simp only [Program.andThen, Program.bind_eq, Program.run_bind, sendAll_run]
  cases hroom : hasRoom w.room g.passed with
  | false =>
    cases g.outcome <;> rfl
  | true =>
    cases g.outcome with
    | error e => rfl
    | ok scanner =>
      have hclose := (g.close_silent scanner).run_hear env w g.passed
      have hw := (g.close_silent scanner).run_room env w
      simp only [if_true, Program.run_pure, hclose, announceAll, Program.bind_eq, Program.run_bind,
        sendAll_run]
      generalize (g.close scanner).run env w = closed at *
      rw [World.hear_append, Service.hasRoom_append, hroom, World.hear_room, hw, Bool.true_and]

/-- All events of a run, when the caller takes them all. -/
def events (g : Opened) (env : Environment σ) (w : World σ) : List Event :=
  match g.outcome with
  | .error _ => g.passed
  | .ok scanner => g.passed ++ ((g.close scanner).run env w).1.1

/-- The caller is sent the same events however many it takes. -/
theorem run_delivered (g : Opened) (env : Environment σ) (w : World σ) :
    (g.run.run env w).2.delivered = w.delivered ++ taken w.room (g.events env w) := by
  rw [run_run, events]
  cases g.outcome with
  | error e => rfl
  | ok scanner =>
    have hroom := (g.close_silent scanner).run_room env w
    have hsent := (g.close_silent scanner).run_delivered env w
    dsimp only
    generalize (g.close scanner).run env w = closed at *
    split
    · rw [World.hear_delivered, hroom, hsent]
    · rename_i h
      rw [← World.hear_delivered, World.hear_append,
        World.hear_of_not_hasRoom (Bool.eq_false_iff.2 h)]

/-- A run fails when not all events could be sent, and when the answer failed. -/
theorem run_result (g : Opened) (env : Environment σ) (w : World σ) :
    (g.run.run env w).1.1 =
      if hasRoom w.room (g.events env w) then g.outcome.map fun _ => () else .error notHeard := by
  rw [run_run, events]
  cases g.outcome with
  | error e => rfl
  | ok scanner =>
    dsimp only
    split
    · rfl
    · rename_i h
      rw [Service.hasRoom_append, Bool.eq_false_iff.2 h]
      rfl

/-- Once the caller has been told that the answer is complete, the exchange is kept and a job may be
left, whatever more the caller takes. -/
theorem run_of_hasRoom {g : Opened} {scanner : Scanner} (env : Environment σ) {w : World σ}
    (ho : g.outcome = .ok scanner) (hroom : hasRoom w.room g.passed = true) :
    (g.run.run env w).1.2 = ((g.close scanner).run env w).1.2 ∧
      (g.run.run env w).2 = ((g.close scanner).run env w).2.hear (g.events env w) := by
  rw [run_run, events, ho]
  dsimp only
  rw [if_pos hroom]
  exact ⟨rfl, rfl⟩

theorem run_job {g : Opened} {env : Environment σ} {w : World σ} {job : TitleJob}
    (h : (g.run.run env w).1.2 = some job) :
    ∃ scanner, g.outcome = .ok scanner ∧ ((g.close scanner).run env w).1.2 = some job := by
  rw [run_run] at h
  cases ho : g.outcome with
  | error e =>
    rw [ho] at h
    cases h
  | ok scanner =>
    rw [ho] at h
    dsimp only at h
    split at h
    · exact ⟨scanner, rfl, h⟩
    · cases h

end Opened

end ChatRelay.Generation
