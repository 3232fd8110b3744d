import ChatRelay.Proofs.Http.Access
import ChatRelay.Proofs.Http.Streaming
import ChatRelay.Proofs.Operations

/-!
# Who may do what over the interface

`Server.handle_identity` says what becomes of a request by what it says about its
caller. Without a known key nothing changes, and the response gives nothing away
that is stored. With the key of a user the request is the operation of that user
which its path and body ask for (`Task.asks`), and the response tells the outcome
of that operation (`answer`).

The service is compared where its caller takes every event and none was sent
before, as it is for the stream of a response.
-/

namespace ChatRelay.Http

open Generation (Event TitleJob)
open Json (Value)
open Service (Environment Home Program World)
open Service.Program (perform)

variable {α σ : Type} (env : Environment σ) (stamp : Stamp) (settings : AiSettings)

/-! ## What a request asks for -/

/-- The operation that a task with a request asks for, when the path and the body can be read. -/
def Task.asks (settings : AiSettings) (r : Request) : Task → Except Refusal ChatRelay.Operation
  | .generate => (r.read generationBody).map (.generate settings)
  | .list => .ok .list
  | .get segment => (Server.handle? segment).map .get
  | .rename segment => do
    let uid ← Server.handle? segment
    let title ← r.read titleBody
    return .rename uid title
  | .delete segment => (Server.handle? segment).map .delete

/-- The handle of the conversation that an operation is about. -/
def named : ChatRelay.Operation → String
  | .get uid | .rename uid _ | .delete uid => uid
  | .list | .generate .. => ""

/-- A response with a stream. -/
def streamed (events : List Event) (result : Except ChatError Unit) : Response :=
  { status := 200
    content := .events ((failureLast events result).map StreamMessage.frame) }

/-- The response that tells what an operation has brought. -/
def told (stamp : Stamp) (uid : String) (events : List Event) : Outcome → Response
  | .listed cs =>
    enveloped stamp (.list (cs.map fun c => c.view.toJson)) (some Server.sessionsPath)
  | .found c | .renamed c =>
    enveloped stamp c.view.toJson (some (Server.sessionsPath ++ "/" ++ uid))
  | .deleted => enveloped stamp (.object [("deleted", .bool true), ("uid", .text uid)]) none
  | .generated => streamed events (.ok ())

/-- The response to an operation that has sent some events. A failure is told by the stream if the
stream has begun. -/
def answer (stamp : Stamp) (op : ChatRelay.Operation) (result : Except ChatError Outcome)
    (events : List Event) : Response :=
  match result with
  | .ok outcome => told stamp (named op) events outcome
  | .error e =>
    if events = [] then errorEnvelope stamp e.code.httpStatus e.code.name e.message
    else streamed events (.error e)

/-! ## Services that send nothing -/

theorem list_silent (caller : Option UserId) : (Service.Conversations.list caller).Silent := by
  cases caller with
  | none => exact .pure trivial
  | some owner => exact .bind (.perform fun _ => nofun) fun _ => .pure trivial

theorem owned_silent (owner : UserId) (uid : String) :
    (Service.Conversations.owned owner uid).Silent := by
  refine .bind (.perform fun _ => nofun) fun found => ?_
  rcases found with e | _ | c <;> exact .pure trivial

theorem get_silent (caller : Option UserId) (uid : String) :
    (Service.Conversations.get caller uid).Silent := by
  cases caller with
  | none => exact .pure trivial
  | some owner => exact owned_silent owner uid

theorem rename_silent (caller : Option UserId) (uid title : String) :
    (Service.Conversations.rename caller uid title).Silent := by
  cases caller with
  | none => exact .pure trivial
  | some owner =>
    unfold Service.Conversations.rename
    dsimp only
    split
    · exact .pure trivial
    · refine .bind (owned_silent owner uid) fun c => ?_
      cases c with
      | error e => exact .pure trivial
      | ok c => exact .bind (.perform fun _ => nofun) fun _ => .pure trivial

theorem delete_silent (caller : Option UserId) (uid : String) :
    (Service.Conversations.delete caller uid).Silent := by
  cases caller with
  | none => exact .pure trivial
  | some owner =>
    refine .bind (owned_silent owner uid) fun c => ?_
    cases c with
    | error e => exact .pure trivial
    | ok c => exact .bind (.perform fun _ => nofun) fun _ => .pure trivial

/-! ## A task is an operation of its caller -/

/-- What a response and the world it leaves have to do with an operation. -/
def Answers (caller : UserId) (op : ChatRelay.Operation)
    (w : World σ) (answered : Response × World σ) : Prop :=
  let full := (op.program caller).run env (w.withSink none [])
  answered.1 = answer stamp op full.1 full.2.delivered ∧
    answered.2.withSink none [] = full.2.withSink none []

theorem serve_answers (op : ChatRelay.Operation) {caller : UserId}
    {p : Program (Except ChatError α)} (hsilent : p.Silent) {f : α → Outcome}
    (hop : op.program caller = p.mapOk f)
    {respond : α → Response} (hrespond : ∀ a, respond a = told stamp (named op) [] (f a))
    (w : World σ) : Answers env stamp caller op w (Server.serve env stamp p respond w) := by
  have hrun : (op.program caller).run env (w.withSink none []) =
      ((p.run env w).1.map f, (p.run env w).2.withSink none []) := by
    rw [hop, Program.mapOk, Program.run_bind_eq, hsilent.run_withSink]
    rfl
  rw [Answers, hrun, Server.serve]
  rcases p.run env w with ⟨e | a, w'⟩
  · exact ⟨rfl, rfl⟩
  · exact ⟨hrespond a, rfl⟩

theorem generate_answers (caller : UserId) (request : Generation.GenerationRequest) (w : World σ) :
    Answers env stamp caller (.generate settings request) w
      (Server.generate env stamp settings (some caller) request w) := by
  obtain ⟨events, hsent, hworld, hanswer⟩ :=
    Server.generate_eq env stamp settings (some caller) request w
  -- the caller of the service starts with an empty stream, and all else is the same
  have hbehind : w.withSink none w.delivered = (w.withSink none []).behind w.delivered := by
    rw [World.behind, World.withSink_delivered, List.append_nil]
    rfl
  rw [hbehind] at hsent hworld hanswer
  simp only [Program.run_behind] at hsent hworld hanswer
  have hrun : ((ChatRelay.Operation.generate settings request).program caller).run env
        (w.withSink none []) =
      ((((Generation.generate settings (some caller) request).run env
          (w.withSink none [])).1.1.map fun _ => .generated),
        ((TitleJob.runLeft ((Generation.generate settings (some caller) request).run env
          (w.withSink none [])).1.2).run env ((Generation.generate settings (some caller)
            request).run env (w.withSink none [])).2).2) := by
    rw [ChatRelay.Operation.program, Program.run_bind_eq, Program.run_bind_eq]
    rfl
  rw [Answers, hrun]
  generalize (Generation.generate settings (some caller) request).run env
    (w.withSink none []) = full at hsent hworld hanswer ⊢
  generalize (TitleJob.runLeft full.1.2).run env full.2 = last at hsent hworld ⊢
  obtain rfl : last.2.delivered = events := List.append_cancel_left hsent
  refine ⟨?_, hworld⟩
  cases hstart : ((Generation.start settings (some caller) request).run env w).1 with
  | error e =>
    rw [hstart] at hanswer
    obtain ⟨hfull, hnone, hresponse⟩ := hanswer
    rw [hresponse, hfull, hnone]
    rfl
  | ok g =>
    rw [hstart] at hanswer
    obtain ⟨-, hsome, hresponse, -⟩ := hanswer
    rw [hresponse]
    rcases full.1.1 with e | ⟨⟩
    · exact (if_neg hsome).symm
    · rfl

/-- A task that can be read is answered as the operation that it asks for. -/
theorem perform_answers (caller : UserId) (r : Request) (w : World σ) (task : Task) :
    match task.asks settings r with
    | .error f => Server.perform env stamp settings (some caller) r w task = (f.response stamp, w)
    | .ok op => Answers env stamp caller op w
        (Server.perform env stamp settings (some caller) r w task) := by
  cases task with
  | generate =>
    rw [Task.asks, Server.perform]
    cases r.read generationBody with
    | error f => rfl
    | ok request => exact generate_answers env stamp settings caller request w
  | list => exact serve_answers env stamp .list (list_silent _) rfl (fun _ => rfl) w
  | get segment =>
    rw [Task.asks, Server.perform]
    cases Server.handle? segment with
    | error f => rfl
    | ok uid => exact serve_answers env stamp (.get uid) (get_silent _ uid) rfl (fun _ => rfl) w
  | rename segment =>
    rw [Task.asks, Server.perform]
    cases Server.handle? segment with
    | error f => rfl
    | ok uid =>
      dsimp only [Server.orRefuse]
      cases r.read titleBody with
      | error f => rfl
      | ok title =>
        exact serve_answers env stamp (.rename uid title) (rename_silent _ uid title) rfl
          (fun _ => rfl) w
  | delete segment =>
    rw [Task.asks, Server.perform]
    cases Server.handle? segment with
    | error f => rfl
    | ok uid =>
      exact serve_answers env stamp (.delete uid) (delete_silent _ uid) rfl (fun _ => rfl) w

/-- Why an operation is refused to a caller without an identity. -/
def refusalOf : ChatRelay.Operation → ChatError
  | .list | .generate .. => Service.Conversations.notAuthenticated
  | .get _ | .rename .. | .delete _ => Service.Conversations.notPermitted

/-- A task of a caller without an identity is refused, and nothing is looked at but the request. -/
theorem perform_nobody (r : Request) (w : World σ) (task : Task) :
    Server.perform env stamp settings none r w task =
      (match task.asks settings r with
        | .error f => f.response stamp
        | .ok op => (Refusal.service (refusalOf op)).response stamp, w) := by
  cases task with
  | generate =>
    rw [Task.asks, Server.perform]
    cases r.read generationBody <;> rfl
  | list => rfl
  | get segment | delete segment =>
    rw [Task.asks, Server.perform]
    cases Server.handle? segment <;> rfl
  | rename segment =>
    rw [Task.asks, Server.perform]
    cases Server.handle? segment with
    | error f => rfl
    | ok uid =>
      dsimp only [Server.orRefuse]
      cases r.read titleBody <;> rfl

/-! ## The identity boundary -/

namespace Server

/-- What becomes of a request for a task is told by what it says about its caller. -/
theorem handle_task {r : Request} {route : Route} {task : Task}
    (hroute : Route.ofTarget? r.target = some route)
    (hop : route.operation? r.method = some (.task task)) (h : Home σ) :
    handle env stamp settings r h =
      match callerOf r h.keys stamp.receivedAt with
      | (.error f, keys) =>
        ({ (Refusal.access f).response stamp with headersOnly := r.method = .head },
          { h with keys })
      | (.ok caller, keys) =>
        ({ (perform env stamp settings caller r h.world task).1 with
            headersOnly := r.method = .head },
          { world := (perform env stamp settings caller r h.world task).2, keys }) := by
  rw [handle]
  simp only [hroute, hop, operate]
  rcases callerOf r h.keys stamp.receivedAt with ⟨f | caller, keys⟩ <;> rfl

/-- A request for a task is answered by what it says about its caller. If it shows a key that nobody
holds, or if a header that is looked at is not plain text, it is refused and nothing changes. If it
shows no key, nothing changes either, and it is answered the same whatever is stored. The key of a
user is noted to be used, in its row and in no other, and then it is the operation of that user that
the response and all other changes come from, if the path and the body can be read. -/
theorem handle_identity {r : Request} {route : Route} {task : Task} {h : Home σ}
    (hroute : Route.ofTarget? r.target = some route)
    (hop : route.operation? r.method = some (.task task)) (hkeys : h.keys.Reachable) :
    let answered := handle env stamp settings r h
    (r.Presents .unreadable ∨
        (∃ key, r.Presents (.key key) ∧ ∀ row ∈ h.keys.rows, row.digest ≠ Sha256.digest key) →
      answered.1.status = 401 ∧ answered.2 = h) ∧
    (r.Presents .nothing →
      answered.2 = h ∧ ∀ h' : Home σ, (handle env stamp settings r h').1 = answered.1) ∧
    ∀ key row, r.Presents (.key key) → row ∈ h.keys.rows → row.digest = Sha256.digest key →
      answered.2.keys.rows = (h.keys.rows.map fun row' =>
        if row' = row then row.usedAt stamp.receivedAt else row') ∧
      match task.asks settings r with
      | .error f =>
        answered.1 = { f.response stamp with headersOnly := r.method = .head } ∧
          answered.2.world = h.world
      | .ok op =>
        let full := (op.program row.owner).run env (h.world.withSink none [])
        answered.1 = { answer stamp op full.1 full.2.delivered with
            headersOnly := r.method = .head } ∧
          answered.2.world.withSink none [] = full.2.withSink none [] := by
  intro answered
  have hanswered : answered = _ := handle_task env stamp settings hroute hop h
  clear_value answered
  refine ⟨?_, fun hnothing => ?_, fun key row hkey hrow hdigest => ?_⟩
  · rintro (hunreadable | ⟨key, hkey, hunknown⟩)
    · obtain ⟨f, hcaller⟩ := hunreadable.callerOf_unreadable h.keys stamp.receivedAt
      rw [hanswered, hcaller]
      exact ⟨rfl, rfl⟩
    · rw [hanswered, hkey.callerOf_unknown hunknown]
      exact ⟨rfl, rfl⟩
  · rw [hanswered, hnothing.callerOf_nothing]
    simp only [perform_nobody, true_and]
    intro h'
    rw [handle_task env stamp settings hroute hop h', hnothing.callerOf_nothing]
    simp only [perform_nobody]
  · have hanswers := perform_answers env stamp settings row.owner r h.world task
    rw [hanswered, hkey.callerOf_held hkeys.distinct hrow hdigest]
    refine ⟨rfl, ?_⟩
    dsimp only
    cases hasks : task.asks settings r with
    | error f =>
      rw [hasks] at hanswers
      dsimp only at hanswers ⊢
      rw [hanswers]
      exact ⟨rfl, rfl⟩
    | ok op =>
      rw [hasks] at hanswers
      dsimp only at hanswers ⊢
      rw [hanswers.1]
      exact ⟨rfl, hanswers.2⟩

/-- Ada lists her conversations with her key. It is her list that she gets, and the use of her key
is noted. -/
theorem handle_identity_list :
    let env : Environment Unit :=
      { clock := fun _ => ⟨0, 0⟩
        ids := Uuid.ofNat
        provider :=
          { create := fun _ => .ok ()
            stream := fun _ _ _ => ([], ())
            complete := fun _ _ _ => (.error .authenticationFailed, ()) } }
    let stamp : Stamp := ⟨.ofNat 0, ⟨7, 0⟩, ⟨7, 0⟩, 0⟩
    let r : Request :=
      { method := .get
        target := "/api/v1/ai/sessions"
        headers := [("X-API-Key", [0xFF]), ("Authorization", Text.encodeUtf8 "Bearer  parley_")] }
    let keys := (KeyTable.create {} ⟨"ada"⟩ "laptop" (.ofNat 0) [] ⟨0, 0⟩).2
    let home : Home Unit := { world := { provider := () }, keys }
    let full := (ChatRelay.Operation.list.program ⟨"ada"⟩).run env (home.world.withSink none [])
    let answered := handle env stamp ⟨none, none, none⟩ r home
    answered.1 = { answer stamp .list full.1 full.2.delivered with headersOnly := false } ∧
      answered.2.keys.rows.map (·.lastUsedAt) = [some ⟨7, 0⟩] := by
  intro env stamp r keys home full answered
  have hreachable : keys.Reachable :=
    .create .empty ⟨"ada"⟩ "laptop" ⟨0, 0⟩ (fun _ => nofun) fun _ => nofun
  have hkey : r.Presents (.key "parley_") := (r.presents_iff _).2 (by decide +kernel)
  have hname : KeyTable.keyOf [] = "parley_" := by decide +kernel
  obtain ⟨-, -, hheld⟩ := handle_identity env stamp ⟨none, none, none⟩ (h := home)
    (show Route.ofTarget? r.target = some .sessions by decide +kernel) rfl hreachable
  obtain ⟨hrows, hresponse, -⟩ := hheld "parley_" _ hkey List.mem_cons_self
    (congrArg Sha256.digest hname)
  refine ⟨hresponse, ?_⟩
  rw [hrows]
  simp [home, keys, KeyTable.create, KeyRow.usedAt, stamp]

end Server

end ChatRelay.Http
