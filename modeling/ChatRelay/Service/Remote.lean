import ChatRelay.Completion.Exchange
import ChatRelay.Service.World

/-!
# Providers behind an endpoint

`remote` is the provider that sends every request to the endpoint of its
settings. The endpoints are part of its state: one of them may listen, and
answers one request after the other.
-/

namespace ChatRelay.Service

open Completion (Answer Outgoing ProviderError Reply Request)

/-- The endpoint that listens, and what it received. -/
structure Endpoint where
  authority : String := ""
  /-- The answers to the next requests. The last one stays. -/
  answers : List Answer := []
  received : List Outgoing := []

/-- Sends a request, which is answered if its address is the one of the endpoint. -/
def Endpoint.exchange (e : Endpoint) (o : Outgoing) : Option Answer × Endpoint :=
  if o.url.authority = e.authority then
    let received := e.received ++ [o]
    match e.answers with
    | [] => (none, e)
    | [a] => (some a, { e with received })
    | a :: answers => (some a, { e with received, answers })
  else (none, e)

/-- The name of the providers behind an endpoint. -/
def remoteName : String := "openai_compatible"

/-- Settings are fit for use if they name an address of the web. -/
def prepare (s : ResolvedSettings) : Except ProviderError Unit :=
  if s.baseUrl.startsWith "http://" || s.baseUrl.startsWith "https://" then .ok ()
  else .error (.invalidRequest ("base_url must be an http(s) URL, got '" ++ s.baseUrl ++ "'"))

/-- Sends a request and makes something of the answer. `fault` reports that there was none. -/
def send (s : ResolvedSettings) (r : Request) (stream : Bool) (ofAnswer : Answer → α)
    (fault : String → α) (e : Endpoint) : α × Endpoint :=
  match Completion.completionsUrl? s with
  | none => (fault "builder error", e)
  | some url =>
    match e.exchange (r.toEndpoint s url stream) with
    | (some a, e) => (ofAnswer a, e)
    | (none, e) => (fault (Completion.unreachable url), e)

/-- The provider behind an endpoint. -/
def remote : Provider Endpoint where
  create := prepare
  stream s r := send s r true Answer.items fun m => [.error (.stream m)]
  complete s r := send s r false Answer.reply fun m => .error (.provider ("http error: " ++ m))

end ChatRelay.Service
