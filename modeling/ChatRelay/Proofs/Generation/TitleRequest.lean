import ChatRelay.Proofs.Generation.Aftermath

/-!
# When a title is asked for

A generation asks the provider for nothing as a whole. The job that it may leave
asks once (`TitleJob.run_completed`), and it is left exactly when the generation
`LacksTitle`: a conversation was begun and its answer brought no title. How much of
what comes after the answer the caller has heard makes no difference
(`Opened.run_closes`).

`generate_asks_for_title` puts the two together, with what is asked for.
-/

namespace ChatRelay.Generation

open Completion (Message Request)
open Service (Answered Environment Program World askedIn createdIn hasRoom taken)
open Service.Program (perform)
open Title (Decomposition Scanner)

variable {σ : Type}

/-- What the user said first, if anything. -/
def firstUserMessage (inputs : List Message) : String :=
  ((inputs.find? fun m => m.role == .user).map (·.content)).getD ""

/-- A generation needs a title that is asked for. The `events` are those that its caller has taken,
and the `log` is that of its calls. -/
structure LacksTitle (request : GenerationRequest) (answer : String) (events : List Event)
    (log : List Answered) : Prop where
  /-- The caller was told that the answer is complete, -/
  complete : .outputComplete ∈ events.map Event.kind
  answered : answer ≠ ""
  /-- a conversation was begun, -/
  unnamed : request.uid = none
  created : createdIn log ≠ []
  /-- and the answer brought no title. -/
  untitled : (Decomposition.ofAnswer answer).title = none

/-! ## The job asks once -/

/-- The call does not ask for anything as a whole. -/
def AsksNothing (c : Service.Call) : Prop := ∀ settings request, c ≠ .complete settings request

theorem asked?_eq_none_of_asksNothing {a : Answered} (h : AsksNothing a.call) :
    a.asked? = none := by
  rcases a with ⟨call, answer⟩
  cases call with
  | complete settings request => exact absurd rfl (h settings request)
  | _ => rfl

theorem askedIn_transcript {α : Type} {post : α → Prop} {p : Program α}
    (h : p.Does AsksNothing post) (env : Environment σ) (w : World σ) :
    askedIn (p.transcript env w) = [] :=
  List.filterMap_eq_nil_iff.2 fun a ha => asked?_eq_none_of_asksNothing (h.transcript env w a ha)

theorem reportFor_asksNothing (uid : String) (kind : DiagnosticKind) (detail : String) :
    (reportFor uid kind detail).Does AsksNothing fun _ => True :=
  .perform (fun _ _ => nofun) fun _ => trivial

namespace TitleJob

/-- What a job asks for. -/
def request (job : TitleJob) : Request :=
  titleRequest job.settings.model job.firstUserMessage job.answer

/-- A job goes on without asking for anything else. -/
theorem run_eq_complete (job : TitleJob) :
    ∃ next, job.run = perform (.complete job.settings job.request) >>= next ∧
      ∀ reply, (next reply).Does AsksNothing fun _ => True := by
  refine ⟨_, rfl, fun reply => ?_⟩
  cases reply with
  | error e => exact reportFor_asksNothing _ _ _
  | ok reply =>
    dsimp only
    split
    · exact reportFor_asksNothing _ _ _
    · refine .bind (.perform (fun _ _ => nofun) fun _ => trivial) fun updated _ => ?_
      cases updated with
      | error e => exact reportFor_asksNothing _ _ _
      | ok c =>
        refine .bind (.perform (fun _ _ => nofun) fun _ => trivial) fun heard _ => ?_
        split
        · exact .pure trivial
        · exact reportFor_asksNothing _ _ _

/-- Whatever becomes of a job, it asks once. -/
theorem run_completed (job : TitleJob) (env : Environment σ) (w : World σ) :
    (job.run.run env w).2.completed = w.completed ++ [job.request] := by
  obtain ⟨next, hrun, hnext⟩ := job.run_eq_complete
  rw [Program.run_completed, hrun, Program.transcript_bind, askedIn, List.filterMap_append]
  exact congrArg (fun l => w.completed ++ (_ :: l)) (askedIn_transcript (hnext _) env _)

end TitleJob

/-! ## What can be read off the calls behind an answer -/

namespace Trial

/-- A trial adds messages, marks the conversation as changed and reports, and calls nothing
else. -/
theorem filterMap_transcript {α : Type} {f : Answered → Option α}
    (hmessage : ∀ id role content answer, f ⟨.createMessage id role content, answer⟩ = none)
    (hupdate : ∀ u answer, f ⟨.updateConversation u, answer⟩ = none)
    (hreport : ∀ d, f (reported d) = none) (c : Conversation) (t : Trial) :
    (t.transcript c).filterMap f = [] := by
  have hreports : ∀ ds : List Diagnostic, ∀ a ∈ ds.map reported, f a = none := by
    intro ds a ha
    obtain ⟨d, -, rfl⟩ := List.mem_map.1 ha
    exact hreport d
  refine List.filterMap_eq_nil_iff.2 fun a ha => ?_
  rcases List.mem_append.1 ha with ha | ha
  · obtain ⟨attempt, -, ha⟩ := List.mem_flatMap.1 ha
    rcases List.mem_cons.1 ha with rfl | ha
    · exact hmessage _ _ _ _
    · exact hreports _ a ha
  · rcases List.mem_cons.1 ha with rfl | ha
    · exact hupdate _ _
    · exact hreports _ a ha

theorem createdIn_transcript (c : Conversation) (t : Trial) : createdIn (t.transcript c) = [] :=
  filterMap_transcript (fun _ _ _ _ => rfl) (fun _ _ => rfl) (fun _ => rfl) c t

theorem askedIn_transcript (c : Conversation) (t : Trial) : askedIn (t.transcript c) = [] :=
  filterMap_transcript (fun _ _ _ _ => rfl) (fun _ _ => rfl) (fun _ => rfl) c t

/-- The last message of a trial was tried. -/
theorem mem_transcript_of_last {c : Conversation} {turns : List (Role × String)} {role : Role}
    {content : String} {t : Trial} (h : t.Of c (turns ++ [(role, content)])) :
    ∃ outcome, ⟨.createMessage c.id role content, outcome⟩ ∈ t.transcript c := by
  have hmem : (role, content) ∈ t.attempts.map Attempt.turn := by
    rw [h.turns]
    exact List.mem_append_right _ (List.mem_singleton.2 rfl)
  obtain ⟨⟨_, _, outcome⟩, hattempt, ⟨⟩⟩ := List.mem_map.1 hmem
  refine ⟨outcome, List.mem_append_left _ (List.mem_flatMap.2 ⟨_, hattempt, ?_⟩)⟩
  exact List.mem_cons_self

end Trial

namespace Settles

variable {g : Opened} {content : String} {title : Option String} {a : Aftermath}

theorem askedIn_transcript (h : Settles g content title a) : askedIn a.transcript = [] := by
  cases h with
  | @continued c t _ _ => exact t.askedIn_transcript c
  | notCreated => rfl
  | @begun c t reloaded now _ _ _ =>
    exact (List.filterMap_append).trans (congrArg (· ++ _) (t.askedIn_transcript c))

/-- A job is left exactly when a conversation was created for an answer without a title. It is
about this conversation and about what was tried to keep. -/
theorem job_cases (h : Settles g content title a) :
    (a.job = none ∧ (createdIn a.transcript = [] ∨ title ≠ none)) ∨
      ∃ c outcome, g.existing = none ∧ title = none ∧ createdIn a.transcript = [c] ∧
        ⟨.createMessage c.id .assistant content, outcome⟩ ∈ a.transcript ∧
        a.job = some (g.titleJob c content) := by
  cases h with
  | @continued c t _ _ => exact .inl ⟨rfl, .inl (t.createdIn_transcript c)⟩
  | notCreated => exact .inl ⟨rfl, .inl rfl⟩
  | @begun c t reloaded now hexisting _ ht =>
    cases title with
    | some title => exact .inl ⟨rfl, .inr nofun⟩
    | none =>
      obtain ⟨outcome, hkept⟩ := Trial.mem_transcript_of_last ht
      refine .inr ⟨c, outcome, hexisting, rfl, ?_, ?_, rfl⟩
      · have hcreated : createdIn (t.transcript c ++ [reload g.owner c reloaded]) = [] :=
          (List.filterMap_append).trans (congrArg (· ++ _) (t.createdIn_transcript c))
        exact congrArg (c :: ·) hcreated
      · exact List.mem_append_left _ (List.mem_cons_of_mem _ hkept)

end Settles

/-! ## Runs -/

/-- The call sends an event. -/
def Delivers (c : Service.Call) : Prop := ∃ e, c = .deliver e

theorem sendAll_delivers (events : List Event) :
    (sendAll events).Does Delivers fun _ => True := by
  induction events with
  | nil => exact .pure trivial
  | cons e events ih =>
    have hsend : (send e).Does Delivers fun _ => True :=
      .bind (.perform ⟨e, rfl⟩ fun _ => trivial) fun _ _ => .pure trivial
    refine hsend.bind fun r _ => ?_
    cases r with
    | error e => exact .pure trivial
    | ok _ => exact ih

/-- What sends an event creates no conversation. -/
theorem createdIn_of_delivers {log : List Answered} (h : ∀ a ∈ log, Delivers a.call) :
    createdIn log = [] := by
  refine List.filterMap_eq_nil_iff.2 fun a ha => ?_
  rcases a with ⟨call, answer⟩
  obtain ⟨e, rfl⟩ := h _ ha
  rfl

theorem createdIn_start (env : Environment σ) (settings : AiSettings) (caller : Option UserId)
    (request : GenerationRequest) (w : World σ) :
    createdIn ((start settings caller request).transcript env w) = [] := by
  refine List.filterMap_eq_nil_iff.2 fun a ha => ?_
  have hcall := (start_does settings caller request).transcript env w a ha
  rcases a with ⟨call, answer⟩
  cases call with
  | createConversation => exact hcall.elim
  | _ => rfl

namespace Opened

variable (env : Environment σ)

/-- A caller that has heard that the answer is complete may leave then: the same calls come between
those that send something. -/
theorem run_closes {g : Opened} {scanner : Scanner} (ho : g.outcome = .ok scanner) {w : World σ}
    (hroom : hasRoom w.room g.passed = true) :
    ∃ front back, g.run.transcript env w = front ++ (g.close scanner).transcript env w ++ back ∧
      createdIn front = [] ∧ createdIn back = [] := by
  have hpassed : (sendAll g.passed).run env w = (.ok (), w.hear g.passed) := by
    rw [sendAll_run, hroom]
    rfl
  have hsame : (g.close scanner).transcript env (w.hear g.passed) =
      (g.close scanner).transcript env w := (g.close_silent scanner).transcript_withSink env w _ _
  rw [run_eq, pass_eq, ho]
  simp only [Program.andThen, Program.transcript_bind, Program.run_bind_eq, hpassed,
    Program.transcript_pure, Program.run_pure, announceAll, hsame, List.append_nil]
  rw [← List.append_assoc]
  exact ⟨_, _, rfl, createdIn_of_delivers ((sendAll_delivers _).transcript env _),
    createdIn_of_delivers ((sendAll_delivers _).transcript env _)⟩

/-- What a generation has left to do for a title. The `log` is that of its calls. -/
inductive Leaves (g : Opened) (events : List Event) (log : List Answered) :
    Option TitleJob → Prop where
  | nothing (h : .outputComplete ∈ events.map Event.kind → String.join (texts g.items) ≠ "" →
      createdIn log ≠ [] → (Decomposition.ofAnswer (String.join (texts g.items))).title ≠ none) :
      Leaves g events log none
  | job {c : Conversation} {outcome : Except Store.StoreError ChatMessage}
      (hcomplete : .outputComplete ∈ events.map Event.kind)
      (hanswer : String.join (texts g.items) ≠ "") (hexisting : g.existing = none)
      (huntitled : (Decomposition.ofAnswer (String.join (texts g.items))).title = none)
      (hcreated : createdIn log = [c])
      (hkept : ⟨.createMessage c.id .assistant
        (Decomposition.ofAnswer (String.join (texts g.items))).stored, outcome⟩ ∈ log) :
      Leaves g events log
        (some (g.titleJob c (Decomposition.ofAnswer (String.join (texts g.items))).stored))

/-- Calls that create nothing make no difference. -/
theorem Leaves.around {g : Opened} {events : List Event} {front log back : List Answered}
    {job : Option TitleJob} (h : g.Leaves events log job) (hfront : createdIn front = [])
    (hback : createdIn back = []) : g.Leaves events (front ++ log ++ back) job := by
  have hcreated : createdIn (front ++ log ++ back) = createdIn log := by
    rw [createdIn, List.filterMap_append, List.filterMap_append]
    rw [createdIn] at hfront hback
    rw [hfront, hback, List.nil_append, List.append_nil]
    rfl
  cases h with
  | nothing h => exact .nothing (hcreated ▸ h)
  | job hcomplete hanswer hexisting huntitled hone hkept =>
    exact .job hcomplete hanswer hexisting huntitled (hcreated.trans hone)
      (List.mem_append_left _ (List.mem_append_right _ hkept))

/-- The scanner that the whole answer was read with. -/
theorem scanner_of_outcome {g : Opened} {scanner : Scanner} (h : g.outcome = .ok scanner) :
    scanner = (Scanner.readAll (texts g.items)).1 := by
  cases hf : failure? g.items with
  | some e =>
    rw [outcome, hf] at h
    cases h
  | none =>
    rw [outcome_of_failure?_eq_none hf] at h
    exact (Except.ok.inj h).symm

/-- Closing a generation asks for nothing as a whole, and leaves a job when a new conversation lacks
a title. -/
theorem close_leaves {g : Opened} {scanner : Scanner} (ho : g.outcome = .ok scanner)
    {events : List Event} (hcomplete : .outputComplete ∈ events.map Event.kind) (w : World σ) :
    askedIn ((g.close scanner).transcript env w) = [] ∧
      g.Leaves events ((g.close scanner).transcript env w) ((g.close scanner).run env w).1.2 := by
  have hraw := Scanner.readAll_raw (texts g.items)
  have hstored := Scanner.readAll_stored (texts g.items)
  have htitle := Scanner.readAll_title (texts g.items)
  rw [← scanner_of_outcome ho] at hraw hstored htitle
  by_cases hempty : scanner.raw = []
  · have hclose : g.close scanner = pure ([.outputEnd none], none) := by
      rw [close, if_pos hempty]
    have hanswer : String.join (texts g.items) = "" := String.toList_eq_nil_iff.1 (hraw ▸ hempty)
    rw [hclose]
    exact ⟨rfl, .nothing fun _ h => absurd hanswer h⟩
  · have hanswer : String.join (texts g.items) ≠ "" :=
      fun h => hempty (hraw.trans (String.toList_eq_nil_iff.2 h))
    obtain ⟨a, hsettles, hclosed, hending⟩ := g.close_settles env hempty w
    rw [hstored, htitle] at hsettles
    rw [hclosed, hending]
    refine ⟨hsettles.askedIn_transcript, ?_⟩
    dsimp only
    obtain ⟨hnone, hwhy⟩ | ⟨c, outcome, hexisting, huntitled, hone, hkept, hsome⟩ :=
      hsettles.job_cases
    · rw [hnone]
      exact .nothing fun _ _ hnew => hwhy.resolve_left hnew
    · rw [hsome]
      exact .job hcomplete hanswer hexisting huntitled hone hkept

/-- A run asks for nothing as a whole, and leaves a job when a new conversation lacks a title. -/
theorem run_leaves (g : Opened) (w : World σ) :
    (g.run.run env w).2.completed = w.completed ∧
      g.Leaves (taken w.room (g.events env w)) (g.run.transcript env w)
        (g.run.run env w).1.2 := by
  by_cases hcomplete : .outputComplete ∈ (taken w.room (g.events env w)).map Event.kind
  · obtain ⟨hroom, scanner, ho⟩ := hasRoom_of_outputComplete hcomplete
    obtain ⟨hjob, hworld⟩ := run_of_hasRoom env ho hroom
    obtain ⟨front, back, hlog, hfront, hback⟩ := run_closes env ho hroom
    obtain ⟨hasked, hleaves⟩ := close_leaves env ho hcomplete w
    have hcompleted := (g.close scanner).run_completed env w
    rw [hasked, List.append_nil] at hcompleted
    rw [hjob, hworld, hlog]
    exact ⟨hcompleted, hleaves.around hfront hback⟩
  · obtain ⟨hjob, hworld⟩ := run_of_unfinished hcomplete
    rw [hjob, hworld]
    exact ⟨rfl, .nothing fun h => absurd h hcomplete⟩

end Opened

/-- A title is asked for exactly when it is lacking, and once. What is asked for tells what the user
said first and what was stored of the answer. This holds whatever the store, the faults and the
provider are, and wherever the caller leaves; the job may be done at any later time. -/
theorem generate_asks_for_title (env : Environment σ) (settings : AiSettings)
    (caller : Option UserId) (request : GenerationRequest) (w : World σ) :
    let full := (generate settings caller request).run env w
    let log := (generate settings caller request).transcript env w
    let answer := String.join (texts (script env settings request w.provider))
    let stored := (Decomposition.ofAnswer answer).stored
    ∃ events, full.2.delivered = w.delivered ++ events ∧ full.2.completed = w.completed ∧
      ∀ (env' : Environment σ) (later : World σ),
        let after := (TitleJob.runLeft full.1.2).run env' later
        (¬ LacksTitle request answer events log → after.2.completed = later.completed) ∧
        (LacksTitle request answer events log →
          ∃ asked resolved c outcome,
            after.2.completed = later.completed ++ [asked] ∧
              settings.resolve = .ok resolved ∧ asked.model = resolved.model ∧
              asked.stream = false ∧
              asked.messages = [⟨.system, titlePrompt⟩, ⟨.user, firstUserMessage request.messages⟩,
                ⟨.assistant, stored⟩, ⟨.user, titleQuestion⟩] ∧
              createdIn log = [c] ∧
              ⟨.createMessage c.id .assistant stored, outcome⟩ ∈ log) := by
  have hsent := (start_silent settings caller request).run_delivered env w
  have htrace := start_leavesNoTrace env settings caller request w
  have hnone := createdIn_start env settings caller request w
  dsimp only
  rw [generate_run]
  rcases hstart : (start settings caller request).run env w with ⟨e | g, w₁⟩
  · rw [hstart] at hsent htrace
    refine ⟨[], by rw [List.append_nil, ← hsent], htrace.completed, fun env' later => ?_⟩
    exact ⟨fun _ => rfl, fun h => nomatch h.complete⟩
  · rw [hstart] at hsent htrace
    have hopens := start_run_ok (congrArg Prod.fst hstart)
    have hlog := generate_transcript env (congrArg Prod.fst hstart)
    obtain ⟨hasked, hleaves⟩ := g.run_leaves env w₁
    have hleaves := hleaves.around hnone (rfl : createdIn [] = [])
    rw [List.append_nil] at hleaves
    rw [hstart] at hlog
    have hdelivered := (g.run_delivered env w₁).trans (congrArg (· ++ _) hsent)
    refine ⟨_, hdelivered, hasked.trans htrace.completed, fun env' later => ?_⟩
    rw [hlog, ← texts_openingOf hopens.items]
    dsimp only
    generalize (g.run.run env w₁).1.2 = job at hleaves ⊢
    generalize (start settings caller request).transcript env w ++ g.run.transcript env w₁ = log
      at hleaves ⊢
    cases hleaves with
    | nothing h =>
      refine ⟨fun _ => rfl, fun hlacks => absurd hlacks.untitled ?_⟩
      exact h hlacks.complete hlacks.answered hlacks.created
    | @job c outcome hcomplete hanswer hexisting huntitled hone hkept =>
      have hunnamed : request.uid = none := by
        rw [← Option.isNone_iff_eq_none, ← hopens.existing, hexisting]
        rfl
      have hlacks : LacksTitle request (String.join (texts g.items))
          (taken w₁.room (g.events env w₁)) log :=
        ⟨hcomplete, hanswer, hunnamed, hone ▸ List.cons_ne_nil c [], huntitled⟩
      refine ⟨fun h => absurd hlacks h, fun _ => ?_⟩
      rw [← hopens.inputs]
      exact ⟨_, _, c, outcome, TitleJob.run_completed _ env' later, hopens.settings, rfl, rfl, rfl,
        hone, hkept⟩

/-- A title that is blank is asked for, also when the store fails behind the answer and the caller
leaves before it is told of the conversation. -/
example :
    let settings : AiSettings := ⟨some "http://localhost", some "key", some "model"⟩
    let env : Environment Unit :=
      { clock := fun _ => ⟨0, 0⟩
        ids := Uuid.ofNat
        provider :=
          { create := fun _ => .ok ()
            stream := fun _ _ _ => ([.ok (.textDelta "Hi. CONVERSATION_TITLE: \n")], ())
            complete := fun _ _ _ => (.error .authenticationFailed, ()) } }
    let w : World Unit :=
      { provider := ()
        room := some 3
        faults := fun
          | .updateConversation => [.fails .notFound]
          | .getConversation => [.findsNothing]
          | _ => [] }
    let request : GenerationRequest := { messages := [⟨.user, "Hello?"⟩] }
    let full := (generate settings (some ⟨"ada"⟩) request).run env w
    let asked := ((TitleJob.runLeft full.1.2).run env full.2).2.completed
    full.2.delivered.map Event.kind = [.modelReady, .content, .outputComplete] ∧
      asked.map (·.messages.map (·.content)) = [[titlePrompt, "Hello?", "Hi.", titleQuestion]] := by
  decide +kernel

end ChatRelay.Generation
