import ChatRelay.Generation.Event
import ChatRelay.Http.Body
import ChatRelay.Http.Route
import ChatRelay.Service.Home

/-!
# The interface

`Server.handle` answers a request. Before anything else it finds out who is
calling; then it reads the path and the body, and hands the rest to a service.

An answer of the provider is passed on as a stream of events. If generating it
fails when the stream has begun, the stream tells the failure; what fails before is
a response like any other. The stream is open until the generation is over and the
job is done that it may have left.
-/

namespace ChatRelay.Http

open Generation (Event GenerationRequest)
open Json (Value)
open Service (Environment Home Program World)

/-- What the stream of an answer carries. -/
inductive StreamMessage where
  | event (e : Event)
  /-- The end of an answer that failed. -/
  | failed (e : ChatError)

/-- The event of a stream for a message. -/
def StreamMessage.frame : StreamMessage → Frame
  | .event e => ⟨e.name, e.toJson.compact⟩
  | .failed e =>
    ⟨"error",
      (Value.object [("code", .text e.code.name), ("message", .text e.message)]).compact⟩

namespace Server

def health : Value := .object [("status", .text "ok"), ("version", .text "0.1.0")]

def sessionsPath : String := "/api/v1/ai/sessions"

/-- Runs a service and makes a response of its result. -/
def serve (env : Environment σ) (stamp : Stamp) (p : Program (Except ChatError α))
    (respond : α → Response) (w : World σ) : Response × World σ :=
  match p.run env w with
  | (.ok a, w) => (respond a, w)
  | (.error e, w) => (Refusal.response stamp (.service e), w)

/-- What the stream of an answer tells of its end, other than by events. -/
def failureOf : Except ChatError Unit → List StreamMessage
  | .ok () => []
  | .error e => [.failed e]

/-- What the stream of an answer carries when a generation has sent some events and the job that it
left has sent others. A failure is told when the generation is over; by then the job is at work, and
has sent the first `lead` of its events. -/
def messagesOf (events late : List Event) (result : Except ChatError Unit) (lead : Nat) :
    List StreamMessage :=
  (events ++ late.take lead).map .event ++ failureOf result ++ (late.drop lead).map .event

/-- Generates an answer. Its caller listens to the end. -/
def generate (env : Environment σ) (stamp : Stamp) (settings : AiSettings)
    (caller : Option UserId) (request : GenerationRequest) (w : World σ) : Response × World σ :=
  match (Generation.start settings caller request).run env w with
  | (.error e, w) => (Refusal.response stamp (.service e), w)
  | (.ok g, w) =>
    let ((result, job), w) := g.run.run env { w with room := none, delivered := [] }
    let ((), ended) := (Generation.TitleJob.runLeft job).run env w
    let late := ended.delivered.drop w.delivered.length
    ({ status := 200
       content := .events
         ((messagesOf w.delivered late result env.lead).map StreamMessage.frame) }, ended)

/-- Carries on with what could be read, or refuses the request. -/
def orRefuse (stamp : Stamp) (read : Except Refusal α) (w : World σ)
    (k : α → Response × World σ) : Response × World σ :=
  match read with
  | .ok a => k a
  | .error f => (f.response stamp, w)

/-- The handle in a path. -/
def handle? (segment : List Char) : Except Refusal String :=
  match handleOf? segment with
  | some uid => .ok uid
  | none => .error .path

/-- Does what a caller asks for. -/
def perform (env : Environment σ) (stamp : Stamp) (settings : AiSettings)
    (caller : Option UserId) (r : Request) (w : World σ) : Task → Response × World σ
  | .generate =>
    orRefuse stamp (r.read generationBody) w fun request =>
      generate env stamp settings caller request w
  | .list =>
    serve env stamp (Service.Conversations.list caller)
      (fun l => enveloped stamp (.list (l.map fun c => c.view.toJson)) (some sessionsPath)) w
  | .get segment =>
    orRefuse stamp (handle? segment) w fun uid =>
      serve env stamp (Service.Conversations.get caller uid)
        (fun c => enveloped stamp c.view.toJson (some (sessionsPath ++ "/" ++ uid))) w
  | .rename segment =>
    orRefuse stamp (handle? segment) w fun uid =>
      orRefuse stamp (r.read titleBody) w fun title =>
        serve env stamp (Service.Conversations.rename caller uid title)
          (fun c => enveloped stamp c.view.toJson (some (sessionsPath ++ "/" ++ uid))) w
  | .delete segment =>
    orRefuse stamp (handle? segment) w fun uid =>
      serve env stamp (Service.Conversations.delete caller uid)
        (fun _ => enveloped stamp (.object [("deleted", .bool true), ("uid", .text uid)]) none) w

/-- Answers a request for an operation. A task needs to know who is calling. -/
def operate (env : Environment σ) (stamp : Stamp) (settings : AiSettings) (r : Request)
    (h : Home σ) : Operation → Response × Home σ
  | .health => ({ status := 200, content := .json health }, h)
  | .task t =>
    match callerOf r h.keys stamp.receivedAt with
    | (.error f, keys) => ((Refusal.access f).response stamp, { h with keys })
    | (.ok caller, keys) =>
      let (response, world) := perform env stamp settings caller r h.world t
      (response, { world, keys })

/-- Answers a request. Where a method does nothing, the response tells which ones do; whoever asks
what is possible is never refused. -/
def handle (env : Environment σ) (stamp : Stamp) (settings : AiSettings) (r : Request)
    (h : Home σ) : Response × Home σ :=
  let refused (status : Nat) : Nat := if r.method = .options then 200 else status
  match Route.ofTarget? r.target with
  | none => ({ status := refused 404 }, h)
  | some route =>
    match route.operation? r.method with
    | none => ({ status := refused 405, allow := some route.allow }, h)
    | some op =>
      let (response, h) := operate env stamp settings r h op
      ({ response with headersOnly := r.method = .head }, h)

end Server

end ChatRelay.Http
