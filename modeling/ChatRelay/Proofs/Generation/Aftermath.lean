import ChatRelay.Proofs.Generation.Refusal
import ChatRelay.Proofs.Generation.StoreEffect
import ChatRelay.Proofs.Service.Transcript

/-!
# When the store fails behind an answer

Once the caller has been told that the answer is complete, any call to the store
may fail. A `Trial` is what became of keeping an exchange: every message is tried,
and then the conversation is marked as changed, whatever became of the steps
before. Each step that fails is reported, and no other.

`Settles` lists what can be seen of a generation after its answer: the calls that
it made, what it reported, the messages that it added, the events it ended with
and the job that it left. `generate_settles` says that there is nothing else.
-/

namespace ChatRelay.Generation

open Completion (Message)
open Service (Answered Environment Program World addedMessages reports)
open Service.Program (perform)
open Store (Records StoreError)
open Title (Decomposition Scanner)

variable {σ : Type}

/-- A report, as a call that was made. -/
def reported (d : Diagnostic) : Answered := ⟨.report d, ()⟩

/-- Events that were sent and heard, as calls that were made. -/
def heard (events : List Event) : List Answered :=
  events.map fun e => ⟨.deliver e, true⟩

/-! ## Trials -/

/-- What became of adding a message. -/
structure Attempt where
  role : Role
  content : String
  outcome : Except StoreError ChatMessage

namespace Attempt

/-- What was to be added. -/
def turn (a : Attempt) : Role × String := (a.role, a.content)

/-- The call that was made. -/
def call (c : Conversation) (a : Attempt) : Answered :=
  ⟨.createMessage c.id a.role a.content, a.outcome⟩

/-- The message that was added. -/
def added? (a : Attempt) : Option ChatMessage := a.outcome.toOption

/-- What is reported of an attempt that failed. -/
def fault? (c : Conversation) (a : Attempt) : Option Diagnostic :=
  match a.outcome with
  | .ok _ => none
  | .error e =>
    some
      { kind := .messagePersistFailed
        uid := some c.uid
        detail := s!"failed to save {a.role.name} message: {e.message}" }

/-- The calls of an attempt. -/
def transcript (c : Conversation) (a : Attempt) : List Answered :=
  a.call c :: (a.fault? c).toList.map reported

/-- A message that was added to a conversation is the one that was to be added. -/
def Sound (c : Conversation) (a : Attempt) : Prop :=
  ∀ m, a.outcome = .ok m → m.conversationId = c.id ∧ m.role = a.role ∧ m.content = a.content

end Attempt

/-- What became of keeping an exchange. -/
structure Trial where
  attempts : List Attempt
  /-- The conversation that was marked as changed. -/
  touched : Except StoreError Conversation

namespace Trial

/-- The call that was made to mark the conversation as changed. -/
def touch (c : Conversation) (t : Trial) : Answered :=
  ⟨.updateConversation { uid := c.uid }, t.touched⟩

/-- What is reported when a conversation could not be marked as changed. -/
def touchFault? (c : Conversation) (t : Trial) : Option Diagnostic :=
  match t.touched with
  | .ok _ => none
  | .error e =>
    some
      { kind := .conversationTouchFailed
        uid := some c.uid
        detail := "failed to update conversation timestamp: " ++ e.message }

/-- The calls of a trial. -/
def transcript (c : Conversation) (t : Trial) : List Answered :=
  t.attempts.flatMap (·.transcript c) ++ t.touch c :: (t.touchFault? c).toList.map reported

/-- What is reported of a trial. -/
def reports (c : Conversation) (t : Trial) : List Diagnostic :=
  t.attempts.filterMap (·.fault? c) ++ (t.touchFault? c).toList

/-- The messages that a trial has added. -/
def added (t : Trial) : List ChatMessage :=
  t.attempts.filterMap (·.added?)

/-- Every message of an exchange was tried once, in order. -/
structure Of (c : Conversation) (turns : List (Role × String)) (t : Trial) : Prop where
  turns : t.attempts.map Attempt.turn = turns
  sound : ∀ a ∈ t.attempts, a.Sound c

end Trial

/-! ## What can be read off a trial -/

@[simp] theorem reports_append (l l' : List Answered) :
    reports (l ++ l') = reports l ++ reports l' :=
  List.filterMap_append

@[simp] theorem addedMessages_append (l l' : List Answered) :
    addedMessages (l ++ l') = addedMessages l ++ addedMessages l' :=
  List.filterMap_append

theorem reports_reported (ds : List Diagnostic) : reports (ds.map reported) = ds := by
  induction ds with
  | nil => rfl
  | cons d ds ih => exact congrArg (d :: ·) ih

theorem addedMessages_reported (ds : List Diagnostic) :
    addedMessages (ds.map reported) = [] := by
  induction ds with
  | nil => rfl
  | cons d ds ih => exact ih

namespace Attempt

variable (c : Conversation)

theorem reports_transcript (a : Attempt) :
    Service.reports (a.transcript c) = (a.fault? c).toList :=
  reports_reported _

theorem addedMessages_transcript (a : Attempt) :
    addedMessages (a.transcript c) = a.added?.toList := by
  rcases a with ⟨role, content, e | m⟩ <;> rfl

end Attempt

namespace Trial

variable (c : Conversation)

theorem reports_attempts (attempts : List Attempt) :
    Service.reports (attempts.flatMap (·.transcript c)) = attempts.filterMap (·.fault? c) := by
  induction attempts with
  | nil => rfl
  | cons a attempts ih =>
    rw [List.flatMap_cons, reports_append, a.reports_transcript, ih, List.filterMap_cons]
    cases a.fault? c <;> rfl

theorem addedMessages_attempts (attempts : List Attempt) :
    addedMessages (attempts.flatMap (·.transcript c)) = attempts.filterMap (·.added?) := by
  induction attempts with
  | nil => rfl
  | cons a attempts ih =>
    rw [List.flatMap_cons, addedMessages_append, a.addedMessages_transcript, ih,
      List.filterMap_cons]
    cases a.added? <;> rfl

theorem reports_transcript (t : Trial) : Service.reports (t.transcript c) = t.reports c := by
  rw [transcript, reports_append, reports_attempts, reports]
  exact congrArg _ (reports_reported _)

theorem addedMessages_transcript (t : Trial) : addedMessages (t.transcript c) = t.added := by
  rw [transcript, addedMessages_append, addedMessages_attempts, added]
  exact (congrArg _ (addedMessages_reported _)).trans (List.append_nil _)

end Trial

/-! ## Keeping an exchange -/

namespace Opened

variable (env : Environment σ)

/-- Adding a message is one attempt. -/
theorem keepMessage_transcript (c : Conversation) (role : Role) (content : String) (w : World σ) :
    ∃ a : Attempt, a.turn = (role, content) ∧ a.Sound c ∧
      (keepMessage c role role.name content).transcript env w = a.transcript c := by
  refine ⟨⟨role, content, (w.step env (.createMessage c.id role content)).1⟩, rfl, ?_, ?_⟩
  · exact fun m hm => World.of_step_createMessage_ok hm
  · rw [keepMessage, Program.transcript_bind, Program.transcript_perform, Program.run_perform,
      Attempt.transcript, Attempt.fault?]
    cases (w.step env (.createMessage c.id role content)).1 <;> rfl

/-- The messages of the user are tried one by one, by induction on the messages. -/
theorem keepInputs_transcript (c : Conversation) (inputs : List Message) (w : World σ) :
    ∃ attempts : List Attempt, attempts.map Attempt.turn = userTurns inputs ∧
      (∀ a ∈ attempts, a.Sound c) ∧
      (keepInputs c inputs).transcript env w = attempts.flatMap (·.transcript c) := by
  induction inputs generalizing w with
  | nil => exact ⟨[], rfl, nofun, rfl⟩
  | cons m inputs ih =>
    rw [keepInputs_cons, userTurns_cons, Program.transcript_bind]
    by_cases hrole : m.role = .user
    · rw [if_pos hrole, if_pos hrole]
      obtain ⟨a, hturn, hsound, hfirst⟩ := keepMessage_transcript env c .user m.content w
      obtain ⟨attempts, hturns, hall, hrest⟩ :=
        ih ((keepMessage c .user "user" m.content).run env w).2
      refine ⟨a :: attempts, ?_, List.forall_mem_cons.2 ⟨hsound, hall⟩, ?_⟩
      · rw [List.map_cons, hturn, hturns]
        rfl
      · rw [List.flatMap_cons, ← hfirst, ← hrest]
        rfl
    · rw [if_neg hrole, if_neg hrole]
      exact ih w

/-- Marks a conversation as changed, or reports that it could not be marked. -/
def touch (c : Conversation) : Program Unit :=
  perform (.updateConversation { uid := c.uid }) >>= fun
    | .ok _ => pure ()
    | .error e =>
      reportFor c.uid .conversationTouchFailed
        ("failed to update conversation timestamp: " ++ e.message)

theorem keepExchange_eq (g : Opened) (c : Conversation) (content : String) :
    g.keepExchange c content =
      keepInputs c g.inputs >>= fun _ =>
        keepMessage c .assistant "assistant" content >>= fun _ => touch c := rfl

/-- Marking a conversation as changed ends a trial. -/
theorem touch_transcript (c : Conversation) (attempts : List Attempt) (w : World σ) :
    ∃ t : Trial, t.attempts = attempts ∧
      (touch c).transcript env w = t.touch c :: (t.touchFault? c).toList.map reported := by
  refine ⟨⟨attempts, (w.step env (.updateConversation { uid := c.uid })).1⟩, rfl, ?_⟩
  rw [touch, Program.transcript_bind, Program.transcript_perform, Program.run_perform, Trial.touch,
    Trial.touchFault?]
  cases (w.step env (.updateConversation { uid := c.uid })).1 <;> rfl

/-- Keeping an exchange is a trial of it. -/
theorem keepExchange_transcript (g : Opened) (c : Conversation) (content : String) (w : World σ) :
    ∃ t : Trial, t.Of c (exchange g.inputs content) ∧
      (g.keepExchange c content).transcript env w = t.transcript c := by
  obtain ⟨attempts, hturns, hall, hinputs⟩ := keepInputs_transcript env c g.inputs w
  obtain ⟨a, hturn, hsound, hanswer⟩ := keepMessage_transcript env c .assistant content
    ((keepInputs c g.inputs).run env w).2
  obtain ⟨t, ht, htouch⟩ := touch_transcript env c (attempts ++ [a])
    ((keepMessage c .assistant "assistant" content).run env
      ((keepInputs c g.inputs).run env w).2).2
  refine ⟨t, ⟨?_, ?_⟩, ?_⟩
  · rw [ht, List.map_append, hturns, List.map_singleton, hturn, exchange]
  · rw [ht]
    exact List.forall_mem_append.2 ⟨hall, List.forall_mem_singleton.2 hsound⟩
  · rw [keepExchange_eq, Program.transcript_bind, Program.transcript_bind, hinputs, htouch,
      Trial.transcript, ht, List.flatMap_append, List.flatMap_singleton, List.append_assoc,
      ← hanswer]
    rfl

end Opened

/-! ## What comes after an answer -/

/-- What can be seen of a generation after its caller was told that the answer is complete. -/
structure Aftermath where
  transcript : List Answered
  reports : List Diagnostic
  added : List ChatMessage := []
  ending : List Event := [.outputEnd none]
  job : Option TitleJob := none

/-- The call that creates a conversation, with its answer. -/
def creation (owner : UserId) (title : Option String) (answer : Except StoreError Conversation) :
    Answered :=
  ⟨.createConversation owner (title.getD Title.placeholder) .active, answer⟩

/-- What is reported when no conversation could be created. -/
def creationFault (e : StoreError) : Diagnostic :=
  { kind := .conversationCreateFailed, detail := "failed to create conversation: " ++ e.message }

/-- The call that reads a conversation back, with its answer. -/
def reload (owner : UserId) (c : Conversation)
    (answer : Except StoreError (Option Conversation)) : Answered :=
  ⟨.getConversation ((Filter.byUid c.uid).ownedBy owner), answer⟩

/-- What the caller is shown of a new conversation: what was read back, or else the conversation as
it was created. -/
def shown (c : Conversation) : Except StoreError (Option Conversation) → ConversationView
  | .ok (some c') => c'.view
  | _ => c.view

/-- What can come after an answer. A conversation that goes on gets the exchange. A new one is
created first: without it nothing else is tried. With it the exchange is kept, and the caller is
told of it whether or not it could be read back. -/
inductive Settles (g : Opened) (content : String) (title : Option String) : Aftermath → Prop where
  | continued {c : Conversation} {t : Trial} (hexisting : g.existing = some c)
      (ht : t.Of c (exchange g.inputs content)) :
      Settles g content title
        { transcript := t.transcript c, reports := t.reports c, added := t.added }
  | notCreated {e : StoreError} (hexisting : g.existing = none) :
      Settles g content title
        { transcript := [creation g.owner title (.error e), reported (creationFault e)]
          reports := [creationFault e] }
  | begun {c : Conversation} {t : Trial} {reloaded : Except StoreError (Option Conversation)}
      {now : Time.Instant} (hexisting : g.existing = none)
      (hc : c = Records.created g.owner (title.getD Title.placeholder) .active c.id c.uid now)
      (ht : t.Of c (exchange g.inputs content)) :
      Settles g content title
        { transcript :=
            creation g.owner title (.ok c) :: t.transcript c ++ [reload g.owner c reloaded]
          reports := t.reports c
          added := t.added
          ending := Opened.announcement (shown c reloaded) title ++ [.outputEnd none]
          job := if title.isNone then some (g.titleJob c content) else none }

variable {env : Environment σ} {g : Opened} {content : String} {title : Option String}
  {a : Aftermath} {w : World σ}

theorem Settles.reports_transcript (h : Settles g content title a) :
    reports a.transcript = a.reports := by
  cases h with
  | @continued c t _ _ => exact t.reports_transcript c
  | notCreated => rfl
  | @begun c t reloaded now _ _ _ =>
    have hread : reports [reload g.owner c reloaded] = [] := rfl
    rw [reports_append, hread, List.append_nil]
    exact t.reports_transcript c

theorem Settles.addedMessages_transcript (h : Settles g content title a) :
    addedMessages a.transcript = a.added := by
  cases h with
  | @continued c t _ _ => exact t.addedMessages_transcript c
  | notCreated => rfl
  | @begun c t reloaded now _ _ _ =>
    have hread : addedMessages [reload g.owner c reloaded] = [] := rfl
    rw [addedMessages_append, hread, List.append_nil]
    exact t.addedMessages_transcript c

namespace Opened

variable (env : Environment σ)

theorem loadView_transcript (g : Opened) (c : Conversation) (w : World σ) :
    ∃ reloaded, (g.loadView c).transcript env w = [reload g.owner c reloaded] ∧
      ((g.loadView c).run env w).1 = shown c reloaded := by
  refine ⟨(w.step env (.getConversation ((Filter.byUid c.uid).ownedBy g.owner))).1, ?_⟩
  simp only [loadView, Program.transcript_bind, Program.transcript_perform, Program.run_bind_eq,
    Program.run_perform]
  rcases (w.step env (.getConversation ((Filter.byUid c.uid).ownedBy g.owner))).1 with e | _ | c'
    <;> exact ⟨rfl, rfl⟩

theorem createConversation_transcript (g : Opened) (title : Option String) (w : World σ) :
    (∃ e, (g.createConversation title).transcript env w =
        [creation g.owner title (.error e), reported (creationFault e)] ∧
      ((g.createConversation title).run env w).1 = none) ∨
    ∃ c now, c = Records.created g.owner (title.getD Title.placeholder) .active c.id c.uid now ∧
      (g.createConversation title).transcript env w = [creation g.owner title (.ok c)] ∧
      ((g.createConversation title).run env w).1 = some c := by
  simp only [createConversation, Program.transcript_bind, Program.transcript_perform,
    Program.run_bind_eq, Program.run_perform]
  rcases hanswer : (w.step env (.createConversation g.owner (title.getD Title.placeholder)
    .active)).1 with e | c
  · exact .inl ⟨e, rfl, rfl⟩
  · have hc := World.of_step_createConversation_ok hanswer
    refine .inr ⟨c, env.clock w.readings, ?_, rfl, rfl⟩
    rw [hc]
    rfl

/-- Closing a generation that has an answer settles it. -/
theorem close_settles (g : Opened) {scanner : Scanner} (hraw : scanner.raw ≠ []) (w : World σ) :
    ∃ a, Settles g scanner.visibleContent scanner.title? a ∧
      (g.close scanner).transcript env w = a.transcript ∧
      ((g.close scanner).run env w).1 = (a.ending, a.job) := by
  rw [close, if_neg hraw]
  cases hexisting : g.existing with
  | some c =>
    obtain ⟨t, ht, hkept⟩ := keepExchange_transcript env g c scanner.visibleContent w
    refine ⟨_, .continued hexisting ht, ?_, ?_⟩
    · simp only [Program.transcript_bind, hkept, Program.transcript_pure, List.append_nil]
    · simp only [Program.run_bind_eq, Program.run_pure]
  | none =>
    obtain ⟨e, hcreate, hnone⟩ | ⟨c, now, hc, hcreate, hsome⟩ :=
      createConversation_transcript env g scanner.title? w
    · refine ⟨_, .notCreated (e := e) hexisting, ?_, ?_⟩
      · simp only [Program.transcript_bind, hcreate, hnone, Program.transcript_pure,
          List.append_nil]
      · simp only [Program.run_bind_eq, hnone, Program.run_pure]
    · obtain ⟨t, ht, hkept⟩ := keepExchange_transcript env g c scanner.visibleContent
        ((g.createConversation scanner.title?).run env w).2
      obtain ⟨reloaded, hread, hview⟩ := loadView_transcript env g c
        ((g.keepExchange c scanner.visibleContent).run env
          ((g.createConversation scanner.title?).run env w).2).2
      have hsettles : Settles g scanner.visibleContent scanner.title? _ :=
        @Settles.begun g _ _ c t reloaded now hexisting hc ht
      refine ⟨_, hsettles, ?_, ?_⟩
      · simp only [Program.transcript_bind, hcreate, hsome, hkept, hread, Program.transcript_pure,
          List.append_nil, List.cons_append, List.nil_append]
      · simp only [Program.run_bind_eq, hsome, hview, Program.run_pure]

/-! ## Whole runs -/

/-- Events that the caller takes are sent one by one. -/
theorem sendAll_transcript {w : World σ} (hroom : w.room = none) (events : List Event) :
    (sendAll events).transcript env w = heard events := by
  induction events generalizing w with
  | nil => rfl
  | cons e events ih =>
    have hsend : (send e).transcript env w = [⟨.deliver e, (w.deliver e).1⟩] := rfl
    have hheard : (w.deliver e).1 = true := by rw [World.deliver, hroom]
    have hrun : (send e).run env w = (.ok (), w.hear [e]) := by
      rw [send_run, hroom]
      rfl
    have hopen : (w.hear [e]).room = none := by
      rw [World.hear_room, hroom]
      rfl
    rw [sendAll, Program.andThen, Program.transcript_bind, hsend, hheard, hrun]
    exact congrArg (_ :: ·) (ih hopen)

/-- A caller that takes all events is sent the answer, and then what there is to send after it. -/
theorem run_transcript {g : Opened} {scanner : Scanner} (ho : g.outcome = .ok scanner)
    {w : World σ} (hroom : w.room = none) :
    g.run.transcript env w =
      heard g.passed ++ (g.close scanner).transcript env w ++
        heard ((g.close scanner).run env w).1.1 := by
  have hsilent := g.close_silent scanner
  have hpassed : (sendAll g.passed).run env w = (.ok (), w.hear g.passed) := by
    rw [sendAll_run, hroom]
    rfl
  have hsame : (g.close scanner).transcript env (w.hear g.passed) =
      (g.close scanner).transcript env w := hsilent.transcript_withSink env w _ _
  have hclosed : (((g.close scanner).run env w).2.hear g.passed).room = none := by
    rw [World.hear_room, hsilent.run_room, hroom]
    rfl
  rw [run_eq, pass_eq, ho]
  simp only [Program.andThen, Program.transcript_bind, Program.run_bind_eq, hpassed,
    sendAll_transcript env hroom, Program.transcript_pure, Program.run_pure, announceAll,
    hsilent.run_hear, sendAll_transcript env hclosed, hsame, List.append_nil, List.append_assoc]

end Opened

namespace TitleJob

variable (env : Environment σ)

/-- At most one failure was reported, and it concerns the conversation of a job. -/
def ReportsOne (job : TitleJob) (ds : List Diagnostic) : Prop :=
  ∃ late : Option Diagnostic, ds = late.toList ∧ ∀ d, late = some d → d.uid = some job.uid

theorem reportFor_reports (job : TitleJob) (kind : DiagnosticKind) (detail : String)
    (w : World σ) :
    job.ReportsOne (reports ((reportFor job.uid kind detail).transcript env w)) := by
  refine ⟨some { kind, uid := some job.uid, detail }, rfl, ?_⟩
  rintro d ⟨⟩
  rfl

theorem tell_reports (job : TitleJob) (view : ConversationView) (w : World σ) :
    job.ReportsOne (reports ((job.tell view).transcript env w)) := by
  have hcall : reports ((job.tell view).transcript env w) =
      reports ((if (w.deliver (.titleGenerated view (some "Title generated"))).1 then pure ()
        else reportFor job.uid .titleDeliveryFailed
          "failed to deliver title: event stream closed").transcript env
        (w.deliver (.titleGenerated view (some "Title generated"))).2) := rfl
  rw [hcall]
  split
  · exact ⟨none, rfl, nofun⟩
  · exact job.reportFor_reports env _ _ _

/-- A report is the last call of a job that fails. -/
theorem run_reports (job : TitleJob) (w : World σ) :
    job.ReportsOne (reports (job.run.transcript env w)) := by
  rw [run, Program.transcript_bind, reports_append, Program.run_perform]
  rcases (w.step env (.complete job.settings
    (titleRequest job.settings.model job.firstUserMessage job.answer))).1 with e | reply
  · exact job.reportFor_reports env _ _ _
  · dsimp only
    split
    · exact job.reportFor_reports env _ _ _
    · rw [Program.transcript_bind, reports_append, Program.run_perform]
      rcases (World.step env _ (.updateConversation
        { uid := job.uid, title := some (Title.normalizeTitle reply.content) })).1 with e | c
      · exact job.reportFor_reports env _ _ _
      · exact job.tell_reports env c.view _

end TitleJob

theorem generate_transcript (env : Environment σ) {settings : AiSettings} {caller : Option UserId}
    {request : GenerationRequest} {w : World σ} {g : Opened}
    (h : ((start settings caller request).run env w).1 = .ok g) :
    (generate settings caller request).transcript env w =
      (start settings caller request).transcript env w ++
        g.run.transcript env ((start settings caller request).run env w).2 := by
  rw [generate, Program.transcript_bind, h]

/-- A generation whose answer is complete and not empty succeeds, whatever calls to the store fail
behind the answer. What can be seen of it after the answer is one of the lists of `Settles`: nothing
more is called, reported, added or sent. A job that is left adds at most one report, whenever it is
done. -/
theorem generate_settles {settings : AiSettings} {caller : Option UserId}
    {request : GenerationRequest}
    (hstart : ((start settings caller request).run env w).1 = .ok g)
    (hscript : failure? (script env settings request w.provider) = none)
    (hanswer : String.join (texts (script env settings request w.provider)) ≠ "")
    (hroom : w.room = none) :
    let opening := (start settings caller request).transcript env w
    let full := (generate settings caller request).run env w
    let d := Decomposition.ofAnswer (String.join (texts (script env settings request w.provider)))
    ∃ a, Settles g d.stored d.title a ∧
      full.1 = (.ok (), a.job) ∧
      (generate settings caller request).transcript env w =
        opening ++ heard g.passed ++ a.transcript ++ heard a.ending ∧
      full.2.diagnostics = w.diagnostics ++ a.reports ∧
      full.2.store.messages = w.store.messages ++ a.added.map Store.MessageRow.ofMessage ∧
      full.2.delivered = w.delivered ++ g.passed ++ a.ending ∧
      ∀ (job : TitleJob) (later : World σ), a.job = some job →
        ∃ late, (job.run.run env later).2.diagnostics = later.diagnostics ++ late ∧
          job.ReportsOne late := by
  have hopens := start_run_ok hstart
  have hsilent := start_silent settings caller request
  have hdiagnostics := (start_leavesNoTrace env settings caller request w).diagnostics
  have hstore := (start_leavesNoTrace env settings caller request w).store
  have hsent := hsilent.run_delivered env w
  have hopen := (hsilent.run_room env w).trans hroom
  have ho := Opened.outcome_of_failure?_eq_none ((failure?_openingOf hopens.items).trans hscript)
  have hraw := Scanner.readAll_raw (texts g.items)
  have hstored := Scanner.readAll_stored (texts g.items)
  have htitle := Scanner.readAll_title (texts g.items)
  rw [← texts_openingOf hopens.items] at hanswer ⊢
  rw [generate_transcript env hstart, generate_run]
  rcases hrun : (start settings caller request).run env w with ⟨_, w₁⟩
  rw [hrun] at hstart hdiagnostics hstore hsent hopen
  cases hstart
  dsimp only at hdiagnostics hstore hsent hopen ⊢
  generalize (Scanner.readAll (texts g.items)).1 = scanner at *
  have hfull : scanner.raw ≠ [] := fun h => hanswer (String.toList_eq_nil_iff.1 (hraw ▸ h))
  obtain ⟨a, hsettles, hclosed, hending⟩ := g.close_settles env hfull w₁
  obtain ⟨hresult, hworld⟩ := Opened.run_of_open env ho hopen
  have hdoes := g.close_does scanner
  rw [hstored, htitle] at hsettles
  refine ⟨a, hsettles, ?_, ?_, ?_, ?_, ?_, fun job later _ => ?_⟩
  · rw [hresult, hending]
  · rw [g.run_transcript env ho hopen, hclosed, hending]
    simp only [List.append_assoc]
  · rw [hworld]
    show ((g.close scanner).run env w₁).2.diagnostics = _
    rw [Program.run_diagnostics, hdiagnostics, hclosed, hsettles.reports_transcript]
  · rw [hworld]
    show ((g.close scanner).run env w₁).2.store.messages = _
    rw [Program.run_messages hdoes (fun f h => h.2 f rfl), hstore, hclosed,
      hsettles.addedMessages_transcript]
  · rw [g.run_delivered, hopen, hsent, Opened.events, ho, List.append_assoc]
    dsimp only
    rw [hending]
    rfl
  · exact ⟨_, job.run.run_diagnostics env later, job.run_reports env later⟩

/-- Two questions, of which the store does not keep the second, and an answer. The store fails to
mark the conversation as changed as well, and then does not find it. -/
theorem generate_settles_two_faults :
    let settings : AiSettings := ⟨some "http://localhost", some "key", some "model"⟩
    let request : GenerationRequest := { messages := [⟨.user, "Hello?"⟩, ⟨.user, "Hello??"⟩] }
    let env : Environment Unit :=
      { clock := fun _ => ⟨0, 0⟩
        ids := Uuid.ofNat
        provider :=
          { create := fun _ => .ok ()
            stream := fun _ _ _ => ([.ok .connected, .ok (.textDelta "Hi.")], ())
            complete := fun _ _ _ => (.error .authenticationFailed, ()) } }
    let w : World Unit :=
      { provider := ()
        faults := fun
          | .createMessage => [.none, .fails .connection]
          | .updateConversation => [.fails .notFound]
          | .getConversation => [.findsNothing]
          | _ => [] }
    let full := (generate settings (some ⟨"ada"⟩) request).run env w
    ∃ g a, Settles g "Hi." none a ∧ full.1 = (.ok (), a.job) ∧
      full.2.diagnostics = w.diagnostics ++ a.reports ∧
      full.2.diagnostics.map (·.kind) = [.messagePersistFailed, .conversationTouchFailed] ∧
      full.2.store.messages = w.store.messages ++ a.added.map Store.MessageRow.ofMessage ∧
      full.2.store.messages.map (·.content) = [.text "Hello?", .text "Hi."] := by
  intro settings request env w
  dsimp only
  have hsettings : settings.resolve = .ok ⟨"http://localhost", "key", "model"⟩ := rfl
  have hscript : script env settings request () = [.ok .connected, .ok (.textDelta "Hi.")] := by
    rw [script, hsettings]
  have hstart : ((start settings (some ⟨"ada"⟩) request).run env w).1 = .ok
      { settings := ⟨"http://localhost", "key", "model"⟩, owner := ⟨"ada"⟩
        inputs := request.messages, existing := none, items := [.ok (.textDelta "Hi.")] } := rfl
  have hanswer : String.join (texts (script env settings request ())) = "Hi." := by
    rw [hscript]
    decide
  have hd : Decomposition.ofAnswer "Hi." =
      { visible := "Hi.", stored := "Hi.", title := none } := by decide
  obtain ⟨a, hsettles, hresult, -, hreports, hadded, -⟩ :=
    generate_settles hstart (by rw [hscript]; rfl) (by rw [hanswer]; decide) rfl
  rw [hanswer, hd] at hsettles
  exact ⟨_, a, hsettles, hresult, hreports, by decide +kernel, hadded, by decide +kernel⟩

end ChatRelay.Generation
