import ChatRelay.Proofs.Generation.EventOrder
import ChatRelay.Proofs.Store.Lookup

/-!
# Generations that come to nothing

Six checks are made before a generation starts (`Check`). The first one that fails
says why it is refused (`start_error_iff`), and the caller is sent nothing. When
that is one in front of the provider's, the provider is not even prepared
(`start_run_of_early`).

A generation that was not refused can still break off before its answer is
complete. Either way the caller is not told that the answer is complete, and
`generate_unfinished` says what that means: nothing is kept, nothing is reported
and no title is asked for.
-/

namespace ChatRelay.Generation

open Service (Environment Program World hasRoom taken)
open Service.Conversations (failed notAuthenticated notFound)
open Store (StoreError)
open Title (Scanner)

variable {σ : Type}

/-- What is checked before a generation starts. -/
inductive Check where
  /-- The caller is known. -/
  | identity
  /-- There is a message. -/
  | messages
  /-- The settings are complete. -/
  | settings
  /-- The conversation of the request is there, and is the caller's. -/
  | conversation
  /-- A provider can be prepared for the settings. -/
  | provider
  /-- Its stream does not open with a failure. -/
  | stream
  deriving DecidableEq, Repr

namespace Check

/-- The checks in the order in which they are made. -/
def all : List Check := [.identity, .messages, .settings, .conversation, .provider, .stream]

/-- Whether a check is made without the provider. -/
def isEarly : Check → Bool
  | .provider | .stream => false
  | _ => true

/-- The codes of the errors that a check fails with. -/
def codes : Check → List ErrorCode
  | .identity => [.unauthenticated]
  | .messages => [.invalidArgument]
  | .settings => [.failedPrecondition]
  | .conversation => [.notFound, .internal]
  | .provider | .stream =>
    [.unauthenticated, .resourceExhausted, .failedPrecondition, .internal]

/-- What is wrong with the answer to a lookup. -/
def lookupFault (uid : String) : Except StoreError (Option Conversation) → Option ChatError
  | .error e => some (failed "get conversation" e)
  | .ok none => some (notFound uid)
  | .ok (some _) => none

/-- What is wrong with the conversation that a request names. -/
def conversationFault (env : Environment σ) (w : World σ) (owner : UserId) :
    Option String → Option ChatError
  | none => none
  | some uid =>
    lookupFault uid (w.step env (.getConversation ((Filter.byUid uid).ownedBy owner))).1

/-- The error that a check fails with, if nothing else is looked at. -/
def fault (env : Environment σ) (settings : AiSettings) (caller : Option UserId)
    (request : GenerationRequest) (w : World σ) : Check → Option ChatError
  | .identity => if caller = none then some notAuthenticated else none
  | .messages => if request.messages = [] then some noMessages else none
  | .settings =>
    match settings.resolve with
    | .error e => some e
    | .ok _ => none
  | .conversation => caller.bind fun owner => conversationFault env w owner request.uid
  | .provider =>
    match settings.resolve with
    | .error _ => none
    | .ok resolved =>
      match env.provider.create resolved with
      | .error e => some (setupError e)
      | .ok _ => none
  | .stream =>
    match script env settings request w.provider with
    | .error e :: _ => some (setupError e)
    | _ => none

end Check

variable {env : Environment σ} {settings : AiSettings} {caller : Option UserId}
  {request : GenerationRequest} {w : World σ}

/-! ## The order of the checks -/

/-- The last check fails when the stream opens with a failure. -/
theorem Check.fault_stream_iff {e : ChatError} :
    Check.stream.fault env settings caller request w = some e ↔
      openingOf (script env settings request w.provider) = .error e := by
  rw [Check.fault]
  rcases script env settings request w.provider with _ | ⟨e' | event, items⟩
  · simp [openingOf]
  · simp [openingOf]
  · cases event <;> simp [openingOf]

theorem findExisting_error_iff {owner : UserId} {uid : Option String} {e : ChatError} :
    ((findExisting owner uid).run env w).1 = .error e ↔
      Check.conversationFault env w owner uid = some e := by
  cases uid with
  | none => simp [findExisting, Check.conversationFault]
  | some uid =>
    simp only [findExisting, Check.conversationFault, Program.run_bind_eq, Program.run_perform]
    generalize (w.step env (.getConversation ((Filter.byUid uid).ownedBy owner))).1 = answer
    rcases answer with e' | _ | c <;> simp [Check.lookupFault]

/-- Opening the stream fails when the provider cannot be prepared, and when the stream opens with a
failure. -/
theorem openStream_error_iff {resolved : ResolvedSettings} {owner : UserId}
    {inputs : List Completion.Message} {existing : Option Conversation} {e : ChatError} :
    ((openStream resolved owner inputs existing).run env w).1 = .error e ↔
      (∃ e', env.provider.create resolved = .error e' ∧ setupError e' = e) ∨
      (env.provider.create resolved = .ok () ∧
        openingOf (env.provider.stream resolved
          { model := resolved.model, messages := outbound existing.isNone inputs, stream := true }
          w.provider).1 = .error e) := by
  cases hcreate : env.provider.create resolved with
  | error e' =>
    have hstep : (w.step env (.createProvider resolved)).1 = .error e' := hcreate
    simp [openStream, hstep]
  | ok =>
    rw [openStream_run hcreate]
    cases openingOf _ <;> simp [Except.map]

theorem Check.findSome?_all (fault : Check → Option ChatError) :
    Check.all.findSome? fault =
      (fault .identity).or ((fault .messages).or ((fault .settings).or
        ((fault .conversation).or ((fault .provider).or (fault .stream))))) := by
  have hcons : ∀ (check : Check) (checks : List Check),
      (check :: checks).findSome? fault = (fault check).or (checks.findSome? fault) := by
    intro check checks
    rw [List.findSome?_cons]
    cases fault check <;> rfl
  rw [Check.all]
  simp only [hcons, List.findSome?_nil, Option.or_none]

/-- The first check that fails decides. -/
theorem start_error_iff (env : Environment σ) (settings : AiSettings) (caller : Option UserId)
    (request : GenerationRequest) (w : World σ) (e : ChatError) :
    ((start settings caller request).run env w).1 = .error e ↔
      Check.all.findSome? (Check.fault env settings caller request w) = some e := by
  rw [Check.findSome?_all]
  cases caller with
  | none => simp [start, Check.fault]
  | some owner =>
    rw [start_unfold]
    by_cases hmessages : request.messages = []
    · simp [hmessages, Check.fault]
    · cases hsettings : settings.resolve with
      | error e' => simp [hmessages, hsettings, Check.fault]
      | ok resolved =>
        have hearly : Check.identity.fault env settings (some owner) request w = none ∧
            Check.messages.fault env settings (some owner) request w = none ∧
            Check.settings.fault env settings (some owner) request w = none := by
          simp [Check.fault, hmessages, hsettings]
        have hconversation : Check.conversation.fault env settings (some owner) request w =
            Check.conversationFault env w owner request.uid := rfl
        rw [hearly.1, hearly.2.1, hearly.2.2, hconversation]
        simp only [hmessages, if_false, Program.andThen, Program.run_bind_eq, Option.none_or]
        cases hfind : ((findExisting owner request.uid).run env w).1 with
        | error e' => simp [findExisting_error_iff.1 hfind]
        | ok existing =>
          have hfound : Check.conversationFault env w owner request.uid = none := by
            rw [Option.eq_none_iff_forall_ne_some]
            intro e' h
            rw [findExisting_error_iff.2 h] at hfind
            cases hfind
          dsimp only
          rw [hfound, Option.none_or, openStream_error_iff, findExisting_run_provider,
            findExisting_run_isNone hfind]
          cases hcreate : env.provider.create resolved with
          | error e' => simp [Check.fault, hsettings, hcreate]
          | ok =>
            have hprovider : Check.provider.fault env settings (some owner) request w = none := by
              simp [Check.fault, hsettings, hcreate]
            rw [hprovider, Option.none_or, Check.fault_stream_iff, script, hsettings]
            simp [streamRequest]

/-- When a generation starts, no check has failed. -/
theorem fault_eq_none_of_start_ok {g : Opened}
    (h : ((start settings caller request).run env w).1 = .ok g) (check : Check) :
    check.fault env settings caller request w = none := by
  have hnone : Check.all.findSome? (Check.fault env settings caller request w) = none := by
    rw [Option.eq_none_iff_forall_ne_some]
    intro e hfirst
    rw [(start_error_iff env settings caller request w e).2 hfirst] at h
    cases h
  exact List.findSome?_eq_none_iff.1 hnone check (by cases check <;> decide)

/-- When a check in front of the provider's fails, no provider is prepared or asked for anything. -/
theorem start_run_of_early (env : Environment σ) (settings : AiSettings)
    (caller : Option UserId) (request : GenerationRequest) (w : World σ) {check : Check}
    (hearly : check.isEarly = true) (hfault : check.fault env settings caller request w ≠ none) :
    ((start settings caller request).run env w).2.created = w.created ∧
      ((start settings caller request).run env w).2.streamed = w.streamed := by
  cases caller with
  | none => exact ⟨rfl, rfl⟩
  | some owner =>
    rw [start_unfold]
    by_cases hmessages : request.messages = []
    · simp [hmessages]
    · cases hsettings : settings.resolve with
      | error e => simp [hmessages]
      | ok resolved =>
        simp only [hmessages, if_false, Program.andThen, Program.run_bind_eq]
        cases hfind : ((findExisting owner request.uid).run env w).1 with
        | error e =>
          dsimp only [Program.run_pure]
          rw [findExisting_run_world]
          exact ⟨rfl, rfl⟩
        | ok existing =>
          -- then none of these checks has failed
          refine absurd ?_ hfault
          cases check with
          | identity | messages | settings => simp [Check.fault, hmessages, hsettings]
          | conversation =>
            rw [Option.eq_none_iff_forall_ne_some]
            intro e h
            rw [findExisting_error_iff.2 h] at hfind
            cases hfind
          | provider | stream => cases hearly

/-! ## What the checks tell the caller -/

theorem failed_code (action : String) (e : StoreError) : (failed action e).code = .internal := rfl

theorem notFound_code (uid : String) : (notFound uid).code = .notFound := rfl

theorem setupError_code (e : Completion.ProviderError) :
    (setupError e).code ∈ Check.provider.codes := by
  rw [setupError]
  cases FailureClass.ofError e <;> simp [Check.codes, invalidCredential]

theorem resolve_error {e : ChatError} (h : settings.resolve = .error e) :
    e = AiSettings.incomplete := by
  rw [AiSettings.resolve] at h
  split at h <;> cases h
  rfl

theorem Check.lookupFault_code {uid : String} {e : ChatError}
    {answer : Except StoreError (Option Conversation)} (h : lookupFault uid answer = some e) :
    e.code ∈ Check.conversation.codes := by
  rcases answer with e' | _ | c <;> cases h
  · simp [codes, failed_code]
  · simp [codes, notFound_code]

/-- The answer that nothing was found is told apart from a failure. -/
theorem Check.lookupFault_eq_notFound_iff {uid : String}
    {answer : Except StoreError (Option Conversation)} :
    lookupFault uid answer = some (notFound uid) ↔ answer = .ok none := by
  rcases answer with e | _ | c <;> simp [lookupFault, failed, notFound]

/-- A check fails with one of its codes. -/
theorem Check.fault_code {check : Check} {e : ChatError}
    (h : check.fault env settings caller request w = some e) : e.code ∈ check.codes := by
  cases check with
  | identity | messages =>
    simp only [fault, Option.ite_none_right_eq_some, Option.some.injEq] at h
    rw [← h.2]
    exact List.mem_singleton.2 rfl
  | settings =>
    rw [fault] at h
    split at h <;> cases h
    rename_i hresolve
    rw [resolve_error hresolve]
    exact List.mem_singleton.2 rfl
  | conversation =>
    simp only [fault, Option.bind_eq_some_iff] at h
    obtain ⟨owner, -, h⟩ := h
    cases huid : request.uid with
    | none => simp [huid, conversationFault] at h
    | some uid =>
      rw [huid] at h
      exact lookupFault_code h
  | provider =>
    rw [fault] at h
    split at h
    · cases h
    · split at h <;> cases h
      exact setupError_code _
  | stream =>
    rw [fault] at h
    split at h <;> cases h
    exact setupError_code _

/-- A conversation that the store was able to look for is not found when it is not there and when it
belongs to somebody else. -/
theorem Check.fault_conversation_iff {owner : UserId} {uid : String}
    (huid : request.uid = some uid) (hworks : (w.takeFault .getConversation).1 = .none) :
    Check.conversation.fault env settings (some owner) request w = some (notFound uid) ↔
      ∀ row ∈ w.store.conversations, row.uid = .text uid → row.owner ≠ .text owner.text := by
  have hstep : (w.step env (.getConversation ((Filter.byUid uid).ownedBy owner))).1 =
      w.store.get ((Filter.byUid uid).ownedBy owner) :=
    World.attempt_reading_of_works hworks _ _
  have hfault : Check.conversation.fault env settings (some owner) request w =
      lookupFault uid (w.store.get ((Filter.byUid uid).ownedBy owner)) := by
    rw [← hstep]
    simp only [fault, Option.bind_some, huid, conversationFault]
  rw [hfault, lookupFault_eq_notFound_iff, Store.get_byUid_ownedBy_eq_none_iff]

/-! ## What is left of a generation that does not finish -/

/-- On the way from one world to another nothing was kept, reported or asked for as a whole. -/
structure LeavesNoTrace (w w' : World σ) : Prop where
  store : w'.store = w.store
  diagnostics : w'.diagnostics = w.diagnostics
  completed : w'.completed = w.completed

theorem start_leavesNoTrace (env : Environment σ) (settings : AiSettings) (caller : Option UserId)
    (request : GenerationRequest) (w : World σ) :
    LeavesNoTrace w ((start settings caller request).run env w).2 := by
  have hkeeps := (start_does settings caller request).run_keeps env
    (fun w => (w.store, w.diagnostics, w.completed)) (fun c hc w => ?_) w
  · simp only [Prod.mk.injEq] at hkeeps
    exact ⟨hkeeps.1, hkeeps.2.1, hkeeps.2.2⟩
  · cases c with
    | getConversation f =>
      rw [World.step_getConversation, World.takeFault_eq]
    | createProvider | stream => rfl
    | _ => cases hc

namespace Opened

/-- When the caller is not told that the answer is complete, nothing happens but that some events
are sent. -/
theorem run_of_unfinished {g : Opened}
    (h : .outputComplete ∉ (taken w.room (g.events env w)).map Event.kind) :
    (g.run.run env w).1.2 = none ∧ (g.run.run env w).2 = w.hear g.passed := by
  rw [run_run]
  cases ho : g.outcome with
  | error e => exact ⟨rfl, rfl⟩
  | ok scanner =>
    cases hroom : hasRoom w.room g.passed with
    | false => exact ⟨rfl, rfl⟩
    | true =>
      refine absurd ?_ h
      obtain ⟨last, -, hpassed⟩ := passed_of_ok ho
      obtain ⟨ending, -, hevents⟩ := events_of_ok ho env w
      rw [hevents, Service.taken_append, Service.taken_of_hasRoom hroom, hpassed]
      simp [Event.kind]

/-- A failure after the opening is told as one of the stream, unless the caller has left. -/
theorem run_failure (g : Opened) (env : Environment σ) (w : World σ) :
    (g.run.run env w).1.1 = .error notHeard ∨
      (g.run.run env w).1.1 =
        match failure? g.items with
        | some e => .error (streamError e)
        | none => .ok () := by
  rw [run_result]
  split
  · refine .inr ?_
    rw [outcome]
    cases failure? g.items <;> rfl
  · exact .inl rfl

end Opened

/-- What becomes of a generation that the caller is not told to be complete, and of one that is
refused. Whatever the store, the faults, the provider and the room for events are:

* a generation whose events do not tell that the answer is complete keeps nothing, reports nothing,
  asks for no title and leaves no job that would;
* a generation is refused by the first check that fails, with one of its codes, and then it sends
  nothing; it goes no further than to prepare the provider, and not even that when the check is an
  early one;
* a conversation that the store was able to look for is not found when it is not there or is
  somebody else's;
* one that is not refused fails by its stream or by its caller, and not by a check. -/
theorem generate_unfinished (env : Environment σ) (settings : AiSettings) (caller : Option UserId)
    (request : GenerationRequest) (w : World σ) :
    let opened := (start settings caller request).run env w
    let full := (generate settings caller request).run env w
    let fault := Check.fault env settings caller request w
    ∃ events, full.2.delivered = w.delivered ++ events ∧
      (.outputComplete ∉ events.map Event.kind → full.1.2 = none ∧ LeavesNoTrace w full.2) ∧
      (∀ e, opened.1 = .error e ↔ Check.all.findSome? fault = some e) ∧
      (∀ e, opened.1 = .error e → full = ((.error e, none), opened.2) ∧ events = []) ∧
      (∀ check e, fault check = some e → e.code ∈ check.codes) ∧
      (∀ check, check.isEarly = true → fault check ≠ none →
        full.2.created = w.created ∧ full.2.streamed = w.streamed ∧
          full.2.completed = w.completed) ∧
      (∀ owner uid, caller = some owner → request.uid = some uid →
        (w.takeFault .getConversation).1 = .none →
          (fault .conversation = some (notFound uid) ↔
            ∀ row ∈ w.store.conversations, row.uid = .text uid → row.owner ≠ .text owner.text)) ∧
      (∀ g, opened.1 = .ok g →
        full.1.1 = .error notHeard ∨
          full.1.1 =
            match failure? (script env settings request w.provider) with
            | some e => .error (streamError e)
            | none => .ok ()) := by
  have hroom := (start_silent settings caller request).run_room env w
  have hsent := (start_silent settings caller request).run_delivered env w
  have htrace := start_leavesNoTrace env settings caller request w
  have hcheck := start_error_iff env settings caller request w
  have hearly := @start_run_of_early _ env settings caller request w
  dsimp only
  rw [generate_run]
  rcases hstart : (start settings caller request).run env w with ⟨e | g, w₁⟩
  · rw [hstart] at hsent htrace hcheck hearly
    refine ⟨[], by rw [List.append_nil, ← hsent], fun _ => ⟨rfl, htrace⟩, hcheck, ?_,
      fun _ _ => Check.fault_code, fun check h h' => ?_, ?_, nofun⟩
    · rintro e' ⟨⟩
      exact ⟨rfl, rfl⟩
    · exact ⟨(hearly h h').1, (hearly h h').2, htrace.completed⟩
    · rintro owner uid rfl huid hworks
      exact Check.fault_conversation_iff huid hworks
  · rw [hstart] at hroom hsent htrace hcheck hearly
    have hopens := start_run_ok (congrArg Prod.fst hstart)
    refine ⟨taken w₁.room (g.events env w₁), ?_, fun h => ?_, hcheck, nofun,
      fun _ _ => Check.fault_code, fun check h h' => ?_, ?_, ?_⟩
    · exact (g.run_delivered env w₁).trans (congrArg (· ++ _) hsent)
    · obtain ⟨hjob, hworld⟩ := Opened.run_of_unfinished h
      rw [hworld]
      exact ⟨hjob, htrace.store, htrace.diagnostics, htrace.completed⟩
    · exact absurd (fault_eq_none_of_start_ok (congrArg Prod.fst hstart) check) h'
    · rintro owner uid rfl huid hworks
      exact Check.fault_conversation_iff huid hworks
    · rintro g' ⟨⟩
      rw [← failure?_openingOf hopens.items]
      exact g.run_failure env w₁

end ChatRelay.Generation
