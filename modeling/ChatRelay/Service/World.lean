import ChatRelay.Service.Program

/-!
# The world of a program

`World` is everything that a program's calls act on: the store, the provider,
the caller's stream of events and the log of diagnostics. `World.step` carries
out one call, and `run` a whole program.

Where the time comes from, and the identifiers, and what the provider says, is
given by an `Environment`. Calls to the store may be made to fail by a schedule.
-/

namespace ChatRelay.Service

open Completion (ProviderError Reply Request)
open Generation (Diagnostic Event)
open Store (StoreError)

/-- A provider whose answers depend on a state `σ` of its own. -/
structure Provider (σ : Type) where
  /-- Whether it can work with these settings. -/
  create : ResolvedSettings → Except ProviderError Unit
  stream : ResolvedSettings → Request → σ → List StreamItem × σ
  complete : ResolvedSettings → Request → σ → Except ProviderError Reply × σ

/-- What does not depend on the program. -/
structure Environment (σ : Type) where
  /-- The readings of the clock, in order. -/
  clock : Nat → Time.Instant
  /-- The identifiers that are made up, in order. -/
  ids : Nat → Uuid
  provider : Provider σ
  /-- How many events of a job get ahead of the failure of its generation, which is told while the
  job is at work. -/
  lead : Nat := 0

/-- The operations of the store that can be made to fail. -/
inductive Method where
  | createConversation
  | findConversations
  | getConversation
  | updateConversation
  | deleteConversation
  | createMessage
  | listMessages
  deriving DecidableEq, Repr

/-- What happens to one call. -/
inductive Fault where
  | none
  /-- It fails, and nothing is done. -/
  | fails (e : StoreError)
  /-- It finds nothing. -/
  | findsNothing
  deriving DecidableEq, Repr

/-- What happens to the next calls of each operation. All calls after that work. -/
abbrev Faults := Method → List Fault

/-- Everything that calls act on. -/
structure World (σ : Type) where
  store : Store := {}
  /-- How often the clock was read. -/
  readings : Nat := 0
  /-- How many identifiers were made up. -/
  idsUsed : Nat := 0
  faults : Faults := fun _ => []
  provider : σ
  /-- How many more events the caller takes, unless there is no limit. -/
  room : Option Nat := none
  delivered : List Event := []
  diagnostics : List Diagnostic := []
  /-- The settings for which providers were prepared. -/
  created : List ResolvedSettings := []
  /-- What was asked for as a stream, and as a whole. -/
  streamed : List Request := []
  completed : List Request := []

namespace World

/-- The next fault of an operation. -/
def takeFault (w : World σ) (m : Method) : Fault × World σ :=
  match w.faults m with
  | [] => (.none, w)
  | f :: rest => (f, { w with faults := fun n => if n = m then rest else w.faults n })

/-- Carries out an operation of the store, unless it is made to fail. `nothing` is the answer of an
operation that finds nothing. -/
def attempt (w : World σ) (m : Method) (nothing : Option α)
    (f : World σ → Except StoreError α × World σ) : Except StoreError α × World σ :=
  match w.takeFault m with
  | (.none, w) => f w
  | (.fails e, w) => (.error e, w)
  | (.findsNothing, w) =>
    match nothing with
    | some a => (.ok a, w)
    | none => f w

/-- An operation that only reads. -/
def reading (f : Store → Except StoreError α) (w : World σ) : Except StoreError α × World σ :=
  (f w.store, w)

/-- The caller takes no more events. -/
def hangUp (w : World σ) : World σ := { w with room := some 0 }

/-- Sends an event, unless the caller has stopped listening. -/
def deliver (w : World σ) (e : Event) : Bool × World σ :=
  match w.room with
  | none => (true, { w with delivered := w.delivered ++ [e] })
  | some 0 => (false, w)
  | some (n + 1) => (true, { w with room := some n, delivered := w.delivered ++ [e] })

/-- Carries out a call. -/
def step (env : Environment σ) (w : World σ) : (c : Call) → c.Answer × World σ
  | .createConversation owner title status =>
    w.attempt .createConversation none fun w =>
      let (r, store) := w.store.create owner title status (env.ids w.idsUsed)
        (env.ids (w.idsUsed + 1)).text (env.clock w.readings)
      (r, { w with store, readings := w.readings + 1, idsUsed := w.idsUsed + 2 })
  | .findConversations f => w.attempt .findConversations none (reading (·.find f))
  | .getConversation f => w.attempt .getConversation (some none) (reading (·.get f))
  | .updateConversation u =>
    w.attempt .updateConversation none fun w =>
      let (r, store) := w.store.update u (env.clock w.readings)
      (r, { w with store, readings := w.readings + 1 })
  | .deleteConversation f =>
    w.attempt .deleteConversation none fun w =>
      let (r, store) := w.store.delete f
      (r, { w with store })
  | .createMessage conversation role content =>
    w.attempt .createMessage none fun w =>
      let (r, store) := w.store.addMessage conversation role content (env.ids w.idsUsed)
        (env.clock w.readings)
      (r, { w with store, readings := w.readings + 1, idsUsed := w.idsUsed + 1 })
  | .listMessages id => w.attempt .listMessages none (reading (·.messagesOf id))
  | .createProvider s => (env.provider.create s, { w with created := w.created ++ [s] })
  | .stream s r =>
    let (items, provider) := env.provider.stream s r w.provider
    (items, { w with provider, streamed := w.streamed ++ [r] })
  | .complete s r =>
    let (reply, provider) := env.provider.complete s r w.provider
    (reply, { w with provider, completed := w.completed ++ [r] })
  | .deliver e => w.deliver e
  | .report d => ((), { w with diagnostics := w.diagnostics ++ [d] })

end World

/-- Carries out a program. -/
def Program.run (env : Environment σ) : Program α → World σ → α × World σ
  | .done a, w => (a, w)
  | .call c next, w =>
    let (answer, w) := w.step env c
    (next answer).run env w

theorem Program.run_bind (env : Environment σ) (p : Program α) (f : α → Program β) (w : World σ) :
    (p.bind f).run env w =
      let (a, w) := p.run env w
      (f a).run env w := by
  induction p generalizing w with
  | done a => rfl
  | call c next ih => simp [bind, run, ih]

end ChatRelay.Service
