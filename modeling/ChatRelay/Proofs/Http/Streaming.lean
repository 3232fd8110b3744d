import ChatRelay.Proofs.Generation.EventOrder
import ChatRelay.Proofs.Http.EventStream
import Mathlib.Data.List.Basic

/-!
# The stream of an answer

The interface answers a request for an answer with a stream of events, or with an
error when the generation cannot be started. `Server.handle_generate` compares
this with the service: the stream carries what a caller of the service is told
who takes every event, the title that a job brings included, and behind it the
failure, if the generation failed.

The interface starts and runs a generation in two steps and sends on a stream of
its own, so it matters that a program never looks at what was sent before
(`Program.run_behind`). It tells a failure while a job may be at work. The failure
comes last all the same, because a generation that failed while its caller was
listening has left no job (`run_whole`, `messagesOf_left`).
-/

namespace ChatRelay.Service

open Generation (Event)

variable {α σ : Type}

/-- The world in which some other events were sent before. -/
def World.behind (w : World σ) (before : List Event) : World σ :=
  { w with delivered := before ++ w.delivered }

theorem World.step_behind (env : Environment σ) (w : World σ) (before : List Event) (c : Call) :
    (w.behind before).step env c = ((w.step env c).1, (w.step env c).2.behind before) := by
  by_cases hc : c.IsSilent
  · have hroom := (Program.Silent.perform hc).run_room env w
    have hsent := (Program.Silent.perform hc).run_delivered env w
    rw [Program.run_perform] at hroom hsent
    have hworld : (w.step env c).2.behind before =
        (w.step env c).2.withSink w.room (before ++ w.delivered) := by
      rw [behind, withSink, hroom.symm, hsent]
    rw [hworld]
    exact w.step_withSink w.room (before ++ w.delivered) env hc
  · cases c with
    | deliver e =>
      show (w.behind before).deliver e = ((w.deliver e).1, (w.deliver e).2.behind before)
      rcases hroom : w.room with _ | _ | n <;> simp [deliver, behind, hroom]
    | _ =>
      refine absurd (fun e heq => ?_) hc
      cases heq

/-- A program never looks at what was sent before. -/
theorem Program.run_behind (env : Environment σ) (p : Program α) (w : World σ)
    (before : List Event) :
    p.run env (w.behind before) = ((p.run env w).1, (p.run env w).2.behind before) := by
  induction p generalizing w with
  | done a => rfl
  | call c next ih =>
    simp only [run, w.step_behind env before c]
    exact ih _ _

end ChatRelay.Service

namespace ChatRelay.Http

open Generation (Event EventKind Opened TitleJob GenerationRequest IsCourse IsEnding)
open Json (Value)
open Service (Environment Home Program World)

variable {σ : Type}

/-! ## Whole streams -/

/-- What can be told by the names of the events of a stream that was read to its end. -/
structure IsWhole (names : List String) : Prop where
  /-- It ends, or it fails. -/
  one : names.count "output_end" + names.count "error" = 1
  failed : ∀ before after, names = before ++ "error" :: after → after = []
  ended : ∀ before after, names = before ++ "output_end" :: after →
    after = [] ∨ after = ["title_generated"]

theorem IsWhole.of_failed {front : List String} (hend : "output_end" ∉ front)
    (herror : "error" ∉ front) : IsWhole (front ++ ["error"]) where
  one := by simp [List.count_eq_zero_of_not_mem hend, List.count_eq_zero_of_not_mem herror]
  failed before after h :=
    ((List.append_cons_inj_of_notMem herror List.not_mem_nil).1 h).2.2.symm
  ended before after h := by
    have : "output_end" ∈ front ++ ["error"] := by simp [h]
    simp [hend] at this

theorem IsWhole.of_ended {front late : List String} (hend : "output_end" ∉ front)
    (herror : "error" ∉ front) (hlate : late = [] ∨ late = ["title_generated"]) :
    IsWhole (front ++ "output_end" :: late) where
  one := by
    obtain rfl | rfl := hlate <;>
      simp [List.count_eq_zero_of_not_mem hend, List.count_eq_zero_of_not_mem herror]
  failed before after h := by
    have : "error" ∈ front ++ "output_end" :: late := by simp [h]
    obtain rfl | rfl := hlate <;> simp [herror] at this
  ended before after h := by
    have hnone : "output_end" ∉ late := by obtain rfl | rfl := hlate <;> simp
    rwa [← ((List.append_cons_inj_of_notMem hend hnone).1 h).2.2]

/-! ## What a generation sends on a stream of its own -/

theorem kind_name (k : EventKind) :
    (k.name = "output_end" ↔ k = .outputEnd) ∧ k.name ≠ "error" := by
  cases k <;> decide

/-- The end is the last of all events that are sent before a job. -/
theorem course_eq_append {kinds : List EventKind} (h : IsCourse kinds) :
    ∃ front, kinds = front ++ [.outputEnd] ∧ .outputEnd ∉ front := by
  obtain ⟨n, ending, hending, rfl⟩ := h
  have hsplit : ∀ most, EventKind.outputEnd ∉ most →
      ∃ front, EventKind.modelReady ::
          (List.replicate n .content ++ .outputComplete :: (most ++ [.outputEnd])) =
        front ++ [.outputEnd] ∧ .outputEnd ∉ front := fun most hmost =>
    ⟨.modelReady :: (List.replicate n .content ++ .outputComplete :: most), by simp,
      by simp [hmost]⟩
  cases hending with
  | plain => exact hsplit [] nofun
  | created => exact hsplit [.sessionUpdated] (by simp)
  | titled => exact hsplit [.sessionUpdated, .titleGenerated] (by simp)

/-- The names of what a stream carries. -/
def namesOf (messages : List StreamMessage) : List String :=
  messages.map fun m => m.frame.name

theorem namesOf_events (events : List Event) :
    namesOf (events.map .event) = (events.map Event.kind).map EventKind.name := by
  rw [namesOf, List.map_map, List.map_map]
  rfl

theorem not_mem_names {kinds : List EventKind} :
    (.outputEnd ∉ kinds → "output_end" ∉ kinds.map EventKind.name) ∧
      "error" ∉ kinds.map EventKind.name := by
  refine ⟨fun h hname => ?_, fun hname => ?_⟩
  · obtain ⟨k, hk, hend⟩ := List.mem_map.1 hname
    exact h ((kind_name k).1.1 hend ▸ hk)
  · obtain ⟨k, -, herror⟩ := List.mem_map.1 hname
    exact (kind_name k).2 herror

/-- Some events, and a failure behind all of them. -/
def failureLast (events : List Event) (result : Except ChatError Unit) : List StreamMessage :=
  events.map .event ++ Server.failureOf result

theorem namesOf_failureLast (events : List Event) (result : Except ChatError Unit) :
    namesOf (failureLast events result) =
      (events.map Event.kind).map EventKind.name ++
        match result with
        | .ok () => []
        | .error _ => ["error"] := by
  rw [failureLast, namesOf, List.map_append, ← namesOf, namesOf_events]
  cases result <;> rfl

/-- A generation whose caller listens to the end, and the job that it leaves, send a whole stream,
of which something is an event. A generation that fails leaves no job. -/
theorem run_whole (g : Opened) (env : Environment σ) {w : World σ} (hroom : w.room = none)
    (hsent : w.delivered = []) :
    let full := g.run.run env w
    let ended := ((TitleJob.runLeft full.1.2).run env full.2).2
    IsWhole (namesOf (failureLast ended.delivered full.1.1)) ∧ ended.delivered ≠ [] ∧
      ∀ e, full.1.1 = .error e → full.1.2 = none := by
  have hsome : g.events env w ≠ [] := by
    obtain ⟨rest, hrest⟩ := g.events_eq_ready_append env w
    rw [hrest]
    exact List.cons_ne_nil _ _
  have hdelivered : (g.run.run env w).2.delivered = g.events env w := by
    rw [g.run_delivered, hroom, hsent]
    rfl
  have hresult : (g.run.run env w).1.1 = g.outcome.map fun _ => () := by
    rw [g.run_result, hroom]
    rfl
  dsimp only
  rw [hresult]
  cases ho : g.outcome with
  | error e =>
    have hjob : (g.run.run env w).1.2 = none := by rw [Opened.run_run, ho]
    have hready : .outputEnd ∉ g.ready.map Event.kind := by
      simp [Opened.ready, Generation.kinds_contents, Event.kind, List.mem_replicate]
    rw [hjob, namesOf_failureLast]
    refine ⟨?_, hdelivered.symm ▸ hsome, fun _ _ => rfl⟩
    show IsWhole (((g.run.run env w).2.delivered.map Event.kind).map EventKind.name ++ ["error"])
    rw [hdelivered, Opened.events_of_error ho]
    exact .of_failed (not_mem_names.1 hready) not_mem_names.2
  | ok scanner =>
    obtain ⟨late, hlate, hcases⟩ :=
      TitleJob.runLeft_delivered (g.run.run env w).1.2 env (g.run.run env w).2
    obtain ⟨front, hfront, hnot⟩ := course_eq_append (Opened.isCourse_of_ok ho (w := w))
    have hnames : (late.map Event.kind).map EventKind.name = [] ∨
        (late.map Event.kind).map EventKind.name = ["title_generated"] := by
      obtain rfl | ⟨-, view, rfl⟩ := hcases
      · exact .inl rfl
      · exact .inr rfl
    refine ⟨?_, ?_, fun e hfailed => by cases hfailed⟩
    · rw [namesOf_failureLast, hlate, hdelivered, List.map_append, hfront]
      simp only [List.map_append, List.append_assoc, Except.map, List.append_nil]
      exact .of_ended (not_mem_names.1 hnot) not_mem_names.2 hnames
    · rw [hlate, hdelivered]
      exact List.append_ne_nil_of_left_ne_nil hsome _

/-! ## The response -/

/-- The frame in which a failure is told behind a stream that has begun. -/
def failureFrame (e : ChatError) : Frame :=
  { name := "error"
    data := (Value.object [("code", .text e.code.name), ("message", .text e.message)]).compact }

namespace Server

variable (env : Environment σ) (stamp : Stamp) (settings : AiSettings)

/-- Where no job was left behind a failure, the failure comes last, however far ahead a job would
be. -/
theorem messagesOf_left {job : Option TitleJob} {w : World σ} {result : Except ChatError Unit}
    (hleft : ∀ e, result = .error e → job = none) (lead : Nat) :
    let ended := ((TitleJob.runLeft job).run env w).2
    messagesOf w.delivered (ended.delivered.drop w.delivered.length) result lead =
      failureLast ended.delivered result := by
  obtain ⟨late, hlate, hcases⟩ := TitleJob.runLeft_delivered job env w
  dsimp only
  rw [hlate, List.drop_left, messagesOf, failureLast]
  cases result with
  | ok _ =>
    rw [failureOf, List.append_nil, List.append_nil, ← List.map_append, List.append_assoc,
      List.take_append_drop]
  | error e =>
    obtain rfl : late = [] := by
      rcases hcases with hnone | ⟨hjob, -⟩
      · exact hnone
      · rw [hleft e rfl] at hjob
        cases hjob
    rw [List.take_nil, List.drop_nil, List.map_nil, List.append_nil]

/-- What the interface makes of a generation is told by the same generation for a caller of the
service who takes every event, whatever was sent to that caller before. -/
theorem generate_eq (caller : Option UserId) (request : GenerationRequest) (w : World σ) :
    let started := ((Generation.start settings caller request).run env w).1
    let direct :=
      (Generation.generate settings caller request).run env (w.withSink none w.delivered)
    let ended := ((TitleJob.runLeft direct.1.2).run env direct.2).2
    let answered := generate env stamp settings caller request w
    ∃ events, ended.delivered = w.delivered ++ events ∧
      answered.2.withSink none [] = ended.withSink none [] ∧
      match started with
      | .error e => direct.1 = (.error e, none) ∧ events = [] ∧
          answered.1 = errorEnvelope stamp e.code.httpStatus e.code.name e.message
      | .ok _ => (∀ e, direct.1.1 = .error e → direct.1.2 = none) ∧ events ≠ [] ∧
          answered.1 =
            { status := 200
              content := .events ((failureLast events direct.1.1).map StreamMessage.frame) } ∧
          IsWhole (namesOf (failureLast events direct.1.1)) := by
  intro started direct ended answered
  have hstart := (Generation.start_silent settings caller request).run_withSink env w none
    w.delivered
  have hdirect := Generation.generate_run env settings caller request (w.withSink none w.delivered)
  rcases hrun : (Generation.start settings caller request).run env w with ⟨e | g, w₁⟩
  all_goals
    rw [hstart, hrun] at hdirect
    dsimp only [started, direct, ended, answered, generate]
    rw [hdirect, hrun]
  · exact ⟨[], (List.append_nil _).symm, rfl, rfl, rfl, rfl⟩
  · -- the stream of the interface is empty at first, and that of the caller may not be
    have hbehind : w₁.withSink none w.delivered = (w₁.withSink none []).behind w.delivered := by
      rw [World.behind, World.withSink_delivered, List.append_nil]
      rfl
    obtain ⟨hwhole, hsome, hleft⟩ := run_whole g env (w := w₁.withSink none []) rfl rfl
    have hworld : { w₁ with room := none, delivered := [] } = w₁.withSink none [] := rfl
    simp only [hbehind, Program.run_behind, hworld, messagesOf_left env hleft env.lead]
    exact ⟨_, rfl, rfl, hleft, hsome, rfl, hwhole⟩

/-- A request for an answer that can be read is answered with what the service does for the same
caller, who takes every event and has the job done that may be left. When the generation cannot be
started, its error is the response. Otherwise the response is a stream, of which a client reads what
the service sends, and behind it the failure of a generation that fails; such a generation has left
no job that could send anything while its failure is told. But for the stream of events, the world
is left as the service leaves it. -/
theorem handle_generate {r : Request} {h : Home σ} {caller : Option UserId} {keys : KeyTable}
    {request : GenerationRequest} (hroute : Route.ofTarget? r.target = some .generate)
    (hmethod : r.method = .post)
    (hcaller : callerOf r h.keys stamp.receivedAt = (.ok caller, keys))
    (hbody : r.read generationBody = .ok request) :
    let started := ((Generation.start settings caller request).run env h.world).1
    let full := (Generation.generate settings caller request).run env { h.world with room := none }
    let ended := ((TitleJob.runLeft full.1.2).run env full.2).2
    let (response, home) := handle env stamp settings r h
    ∃ events, ended.delivered = h.world.delivered ++ events ∧
      home.keys = keys ∧
      home.world.withSink none [] = ended.withSink none [] ∧
      match started with
      | .error e =>
        full.1 = (.error e, none) ∧ events = [] ∧
          response = errorEnvelope stamp e.code.httpStatus e.code.name e.message
      | .ok _ =>
        let carried := events.map (fun e => ⟨e.name, e.toJson.compact⟩) ++
          match full.1.1 with
          | .ok () => []
          | .error e => [failureFrame e]
        (∀ e, full.1.1 = .error e → full.1.2 = none) ∧
          response.status = 200 ∧ response.content.type? = some "text/event-stream" ∧
          EventStream.frames response.body = carried ∧
          IsWhole (carried.map Frame.name) := by
  have hhandle : handle env stamp settings r h =
      ({ (generate env stamp settings caller request h.world).1 with headersOnly := false },
        { world := (generate env stamp settings caller request h.world).2, keys }) := by
    unfold handle
    simp only [hroute, hmethod, Route.operation?, operate, hcaller, perform, hbody, orRefuse]
    rfl
  obtain ⟨events, hsent, hworld, hanswer⟩ :=
    generate_eq env stamp settings caller request h.world
  intro started full ended
  rw [hhandle]
  refine ⟨events, hsent, rfl, hworld, ?_⟩
  dsimp only [started]
  cases hstart : ((Generation.start settings caller request).run env h.world).1 with
  | error e =>
    rw [hstart] at hanswer
    obtain ⟨hfull, hevents, hresponse⟩ := hanswer
    refine ⟨hfull, hevents, ?_⟩
    rw [hresponse]
    rfl
  | ok g =>
    rw [hstart] at hanswer
    obtain ⟨hleft, -, hresponse, hwhole⟩ := hanswer
    have hcarried : (failureLast events full.1.1).map StreamMessage.frame =
        events.map (fun e => ⟨e.name, e.toJson.compact⟩) ++
          match full.1.1 with
          | .ok () => []
          | .error e => [failureFrame e] := by
      rw [failureLast, List.map_append, List.map_map]
      cases full.1.1 <;> rfl
    have hlegible : ∀ f ∈ (failureLast events full.1.1).map StreamMessage.frame, f.Legible :=
      List.forall_mem_map.2 fun m _ => m.frame_legible
    dsimp only
    rw [hresponse, ← hcarried]
    refine ⟨hleft, rfl, rfl, EventStream.frames_chars hlegible, ?_⟩
    rw [List.map_map]
    exact hwhole

/-- Ada asks a question, and the provider fails when it has begun to answer. -/
theorem handle_generate_failed_answer :
    let env : Environment Unit :=
      { clock := fun _ => ⟨0, 0⟩
        ids := Uuid.ofNat
        provider :=
          { create := fun _ => .ok ()
            stream := fun _ _ _ => ([.ok (.textDelta "Hello!"), .error .authenticationFailed], ())
            complete := fun _ _ _ => (.error .authenticationFailed, ()) } }
    let settings : AiSettings := ⟨some "http://localhost", some "key", some "model"⟩
    let r : Request :=
      { method := .post
        target := "/api/v1/ai/generate"
        headers := [("Content-Type", Text.encodeUtf8 "application/json"),
          ("X-API-Key", Text.encodeUtf8 "parley_")]
        body := Text.encodeUtf8
          "\x7b\"messages\":[\x7b\"role\":\"user\",\"content\":\"Hello?\"\x7d]\x7d" }
    let keys := (KeyTable.create {} ⟨"ada"⟩ "laptop" (.ofNat 0) [] ⟨0, 0⟩).2
    let home : Home Unit := { world := { provider := () }, keys }
    let names := (EventStream.frames
      (handle env ⟨.ofNat 0, ⟨0, 0⟩, ⟨0, 0⟩, 0⟩ settings r home).1.body).map Frame.name
    IsWhole names ∧ names = ["model_ready", "content", "error"] := by
  intro env settings r keys home names
  have hstart : ((Generation.start settings (some ⟨"ada"⟩)
      { messages := [⟨.user, "Hello?"⟩] }).run env home.world).1.isOk = true := by decide +kernel
  have hcaller : callerOf r home.keys ⟨0, 0⟩ =
      (.ok (some ⟨"ada"⟩), (keys.authenticate "parley_" ⟨0, 0⟩).2) := by decide +kernel
  have hbody : r.read generationBody = .ok { messages := [⟨.user, "Hello?"⟩] } := by
    decide +kernel
  obtain ⟨events, -, -, -, hanswer⟩ := handle_generate env ⟨.ofNat 0, ⟨0, 0⟩, ⟨0, 0⟩, 0⟩ settings
    (by decide +kernel) rfl hcaller hbody
  refine ⟨?_, by decide +kernel⟩
  revert hanswer
  cases hrun : ((Generation.start settings (some ⟨"ada"⟩)
      { messages := [⟨.user, "Hello?"⟩] }).run env home.world).1 with
  | error e => simp [hrun, Except.isOk, Except.toBool] at hstart
  | ok g =>
    rintro ⟨-, -, -, hframes, hwhole⟩
    rw [← hframes] at hwhole
    exact hwhole

end Server

end ChatRelay.Http
