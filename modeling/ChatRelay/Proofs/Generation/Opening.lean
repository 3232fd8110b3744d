import ChatRelay.Proofs.Generation.Plan

/-!
# The opening of a generation

`start` sends nothing. When it succeeds, the generation goes on with the
provider's stream (`start_run_ok`), of which the first item was looked at but
no text was lost (`texts_openingOf`).
-/

namespace ChatRelay.Generation

open Completion (Message Request)
open Service (Environment Program StreamItem World)

variable {σ : Type}

/-- What the provider is asked for. -/
def streamRequest (settings : ResolvedSettings) (request : GenerationRequest) : Request :=
  { model := settings.model
    messages := outbound request.uid.isNone request.messages
    stream := true }

/-- What the provider's stream yields for a request, when it is asked. -/
def script (env : Environment σ) (settings : AiSettings) (request : GenerationRequest)
    (provider : σ) : List StreamItem :=
  match settings.resolve with
  | .error _ => []
  | .ok resolved => (env.provider.stream resolved (streamRequest resolved request) provider).1

/-- The world after the provider was prepared and asked for a stream. -/
def streaming (env : Environment σ) (settings : ResolvedSettings) (request : Request)
    (w : World σ) : World σ :=
  { w with
    provider := (env.provider.stream settings request w.provider).2
    created := w.created ++ [settings]
    streamed := w.streamed ++ [request] }

theorem openingOf_eq_ok {items rest : List StreamItem} (h : openingOf items = .ok rest) :
    items = rest ∨ items = .ok .connected :: rest := by
  rcases items with _ | ⟨e | event, items⟩
  · cases h
    exact .inl rfl
  · cases h
  · cases event <;> cases h <;> simp

/-- Looking at the first item loses no text. -/
theorem texts_openingOf {items rest : List StreamItem} (h : openingOf items = .ok rest) :
    texts rest = texts items := by
  rcases openingOf_eq_ok h with rfl | rfl <;> rfl

theorem failure?_openingOf {items rest : List StreamItem} (h : openingOf items = .ok rest) :
    failure? rest = failure? items := by
  rcases openingOf_eq_ok h with rfl | rfl <;> rfl

/-- A stream that does not fail is opened. -/
theorem openingOf_of_failure?_eq_none {items : List StreamItem} (h : failure? items = none) :
    ∃ rest, openingOf items = .ok rest := by
  rcases items with _ | ⟨e | event, items⟩
  · exact ⟨_, rfl⟩
  · cases h
  · cases event <;> exact ⟨_, rfl⟩

/-- The calls that a generation starts with: they look for its conversation, and prepare the
provider and ask it for an answer. -/
def IsOpeningCall : Service.Call → Prop
  | .getConversation _ | .createProvider _ | .stream .. => True
  | _ => False

theorem IsOpeningCall.silent {c : Service.Call} (h : IsOpeningCall c) : c.IsSilent := by
  rintro e rfl
  exact h

variable {known : List Conversation}

/-- The conversation that is found is known from then on. -/
theorem findExisting_actsFor (owner : UserId) (uid : Option String) :
    (findExisting owner uid).ActsFor IsOpeningCall owner known
      fun known r => ∀ c, r = .ok (some c) → c ∈ known := by
  cases uid with
  | none => exact .pure nofun
  | some uid =>
    refine .call trivial rfl fun r => ?_
    rcases r with e | _ | c
    · exact .pure nofun
    · exact .pure nofun
    · refine .pure ?_
      rintro _ ⟨⟩
      exact List.mem_cons_self

theorem openStream_actsFor (settings : ResolvedSettings) (owner : UserId) (inputs : List Message)
    {existing : Option Conversation} (hexisting : ∀ c, existing = some c → c ∈ known) :
    (openStream settings owner inputs existing).ActsFor IsOpeningCall owner known
      fun known r => ∀ g, r = .ok g →
        g.owner = owner ∧ ∀ c, g.existing = some c → c ∈ known := by
  refine .call trivial trivial fun r => ?_
  rcases r with e | ⟨⟩
  · exact .pure nofun
  · refine .call trivial trivial fun (items : List StreamItem) => .pure fun g hg => ?_
    cases hopen : openingOf items with
    | error e =>
      rw [hopen] at hg
      cases hg
    | ok rest =>
      rw [hopen] at hg
      cases hg
      exact ⟨rfl, hexisting⟩

theorem start_unfold (settings : AiSettings) (owner : UserId) (request : GenerationRequest) :
    start settings (some owner) request =
      if request.messages = [] then pure (.error noMessages)
      else
        match settings.resolve with
        | .error e => pure (.error e)
        | .ok resolved =>
          (findExisting owner request.uid).andThen fun existing =>
            openStream resolved owner request.messages existing := by
  rw [start]
  split
  · rfl
  · cases settings.resolve with
    | error e => rfl
    | ok resolved => exact Program.bind_eq_andThen (fun _ => rfl) fun _ => rfl

/-- The start acts for the caller. A generation that was started is the caller's, and the
conversation that it goes on with is known. -/
theorem start_actsFor (settings : AiSettings) (owner : UserId) (request : GenerationRequest) :
    (start settings (some owner) request).ActsFor IsOpeningCall owner known
      fun known r => ∀ g, r = .ok g →
        g.owner = owner ∧ ∀ c, g.existing = some c → c ∈ known := by
  rw [start_unfold]
  split
  · exact .pure nofun
  · cases settings.resolve with
    | error e => exact .pure nofun
    | ok resolved =>
      refine .bind (findExisting_actsFor owner request.uid) fun known r _ hfound => ?_
      cases r with
      | error e => exact .pure nofun
      | ok existing =>
        refine openStream_actsFor _ _ _ fun c hc => ?_
        rw [hc] at hfound
        exact hfound c rfl

theorem start_does (settings : AiSettings) (caller : Option UserId) (request : GenerationRequest) :
    (start settings caller request).Does IsOpeningCall fun _ => True := by
  cases caller with
  | none => exact .pure trivial
  | some owner =>
    have hacts : (start settings (some owner) request).ActsFor IsOpeningCall owner [] _ :=
      start_actsFor settings owner request
    exact ((hacts.mono fun _ _ _ => trivial).does).imp fun _ h => h.1

theorem start_silent (settings : AiSettings) (caller : Option UserId)
    (request : GenerationRequest) : (start settings caller request).Silent :=
  (start_does settings caller request).imp fun _ h => h.silent

/-- A generation acts for its caller. -/
theorem generate_actsFor (settings : AiSettings) (owner : UserId) (request : GenerationRequest) :
    (generate settings (some owner) request).ActsFor (fun _ => True) owner known fun known r =>
      ∀ job, r.2 = some job → ∃ c ∈ known, c.uid = job.uid := by
  refine .bind ((start_actsFor settings owner request).imp fun _ _ => trivial)
    fun _ r _ hstart => ?_
  cases r with
  | error e => exact .pure nofun
  | ok g =>
    obtain ⟨rfl, hexisting⟩ := hstart g rfl
    exact g.run_actsFor hexisting

variable {env : Environment σ}

/-- What is known of a generation that was started. -/
structure Opens (settings : AiSettings) (caller : Option UserId) (request : GenerationRequest)
    (script : List StreamItem) (g : Opened) : Prop where
  settings : settings.resolve = .ok g.settings
  owner : caller = some g.owner
  inputs : g.inputs = request.messages
  existing : g.existing.isNone = request.uid.isNone
  items : openingOf script = .ok g.items

/-- Looking for the conversation of a request takes note of a fault, and changes nothing else. -/
theorem findExisting_run_world (owner : UserId) (uid : Option String) (w : World σ) :
    ((findExisting owner uid).run env w).2 =
      { w with faults := ((findExisting owner uid).run env w).2.faults } := by
  cases uid with
  | none => rfl
  | some uid =>
    have hstep : ∀ f, (w.step env (.getConversation f)).2 =
        { w with faults := (w.step env (.getConversation f)).2.faults } := fun f => by
      rw [World.step_getConversation]
      exact World.takeFault_eq _ _
    simp only [findExisting, Program.run_bind_eq, Program.run_perform]
    split <;> exact hstep _

theorem findExisting_run_provider (owner : UserId) (uid : Option String) (w : World σ) :
    ((findExisting owner uid).run env w).2.provider = w.provider := by
  rw [findExisting_run_world]

theorem findExisting_run_isNone {owner : UserId} {uid : Option String} {w : World σ}
    {existing : Option Conversation}
    (h : ((findExisting owner uid).run env w).1 = .ok existing) :
    existing.isNone = uid.isNone := by
  cases uid with
  | none =>
    cases h
    rfl
  | some uid =>
    simp only [findExisting, Program.run_bind_eq, Program.run_perform] at h
    split at h <;> cases h
    rfl

theorem openStream_run {settings : ResolvedSettings}
    (hcreate : env.provider.create settings = .ok ()) (owner : UserId) (inputs : List Message)
    (existing : Option Conversation) (w : World σ) :
    ((openStream settings owner inputs existing).run env w).1 =
      (openingOf (env.provider.stream settings
          { model := settings.model, messages := outbound existing.isNone inputs, stream := true }
          w.provider).1).map fun items => { settings, owner, inputs, existing, items } := by
  have hstep : w.step env (.createProvider settings) =
      (.ok (), { w with created := w.created ++ [settings] }) := by
    rw [← hcreate]
    rfl
  simp only [openStream, Program.run_bind_eq, Program.run_perform, hstep]
  rfl

theorem openStream_run_ok {settings : ResolvedSettings} {owner : UserId} {inputs : List Message}
    {existing : Option Conversation} {w : World σ} {g : Opened}
    (h : ((openStream settings owner inputs existing).run env w).1 = .ok g) :
    ∃ items, openingOf (env.provider.stream settings
        { model := settings.model, messages := outbound existing.isNone inputs, stream := true }
        w.provider).1 = .ok items ∧
      g = { settings, owner, inputs, existing, items } := by
  cases hcreate : env.provider.create settings with
  | error e =>
    have hstep : w.step env (.createProvider settings) =
        (.error e, { w with created := w.created ++ [settings] }) := by
      rw [← hcreate]
      rfl
    simp only [openStream, Program.run_bind_eq, Program.run_perform, hstep] at h
    cases h
  | ok =>
    rw [openStream_run hcreate] at h
    cases hitems : openingOf (env.provider.stream settings
        { model := settings.model, messages := outbound existing.isNone inputs, stream := true }
        w.provider).1 with
    | error e =>
      rw [hitems] at h
      cases h
    | ok items =>
      rw [hitems] at h
      cases h
      exact ⟨items, rfl, rfl⟩

/-- A generation that was started goes on with what the provider's stream yields. -/
theorem start_run_ok {settings : AiSettings} {caller : Option UserId}
    {request : GenerationRequest} {w : World σ} {g : Opened}
    (h : ((start settings caller request).run env w).1 = .ok g) :
    Opens settings caller request (script env settings request w.provider) g := by
  cases caller with
  | none => cases h
  | some owner =>
    rw [start_unfold] at h
    split at h
    · cases h
    · cases hs : settings.resolve with
      | error e =>
        rw [hs] at h
        cases h
      | ok resolved =>
        simp only [hs, Program.andThen, Program.run_bind_eq] at h
        cases hf : ((findExisting owner request.uid).run env w).1 with
        | error e =>
          rw [hf] at h
          cases h
        | ok existing =>
          rw [hf] at h
          obtain ⟨items, hitems, rfl⟩ := openStream_run_ok h
          have hnew := findExisting_run_isNone hf
          rw [findExisting_run_provider, hnew] at hitems
          refine ⟨hs, rfl, rfl, hnew, ?_⟩
          rw [script, hs]
          exact hitems

/-- The conversation of a request is found where no call is made to fail. -/
theorem findExisting_run_found {owner : UserId} {uid : String} {w : World σ} {c : Conversation}
    (hfaults : w.faults = fun _ => [])
    (hfound : w.store.get ((Filter.byUid uid).ownedBy owner) = .ok (some c)) :
    (findExisting owner (some uid)).run env w = (.ok (some c), w) := by
  have hstep : w.step env (.getConversation ((Filter.byUid uid).ownedBy owner)) =
      (.ok (some c), w) := by
    rw [World.step, World.attempt, World.takeFault, hfaults]
    exact congrArg (·, w) hfound
  simp only [findExisting, Program.run_bind_eq, Program.run_perform, hstep]
  rfl

/-- A request finds its conversation where there is one, and none where it names none. -/
theorem findExisting_run_of_exists {owner : UserId} {named : Option String} {w : World σ}
    (hfaults : w.faults = fun _ => [])
    (hexists : ∀ uid, named = some uid →
      ∃ c, w.store.get ((Filter.byUid uid).ownedBy owner) = .ok (some c)) :
    ∃ existing, (findExisting owner named).run env w = (.ok existing, w) ∧
      ∀ uid, named = some uid → ∃ c, existing = some c ∧
        w.store.get ((Filter.byUid uid).ownedBy owner) = .ok (some c) := by
  cases named with
  | none => exact ⟨none, rfl, nofun⟩
  | some uid =>
    obtain ⟨c, hget⟩ := hexists uid rfl
    refine ⟨some c, findExisting_run_found hfaults hget, fun uid' h => ⟨c, rfl, ?_⟩⟩
    rw [← Option.some.inj h]
    exact hget

/-- A generation starts when the conversation of the request was found, the settings are complete
and the stream of the provider does not fail. Nothing is kept. -/
theorem start_run_found {settings : AiSettings} {resolved : ResolvedSettings} {owner : UserId}
    {request : GenerationRequest} {w : World σ} {existing : Option Conversation}
    (hmessages : request.messages ≠ []) (hsettings : settings.resolve = .ok resolved)
    (hfind : (findExisting owner request.uid).run env w = (.ok existing, w))
    (hcreate : env.provider.create resolved = .ok ())
    (hscript : failure? (script env settings request w.provider) = none) :
    ∃ items, openingOf (script env settings request w.provider) = .ok items ∧
      (start settings (some owner) request).run env w =
        (.ok { settings := resolved, owner, inputs := request.messages, existing, items },
          streaming env resolved (streamRequest resolved request) w) := by
  obtain ⟨items, hitems⟩ := openingOf_of_failure?_eq_none hscript
  refine ⟨items, hitems, ?_⟩
  have hnew := findExisting_run_isNone (congrArg Prod.fst hfind)
  have hstep : w.step env (.createProvider resolved) =
      (.ok (), { w with created := w.created ++ [resolved] }) := by
    rw [← hcreate]
    rfl
  have hstream : World.step env { w with created := w.created ++ [resolved] } (.stream resolved
        { model := resolved.model, messages := outbound existing.isNone request.messages
          stream := true }) =
      ((env.provider.stream resolved (streamRequest resolved request) w.provider).1,
        streaming env resolved (streamRequest resolved request) w) := by
    rw [hnew]
    rfl
  rw [script, hsettings] at hitems
  dsimp only at hitems
  rw [start_unfold, if_neg hmessages, hsettings]
  simp only [Program.andThen, Program.run_bind_eq, hfind, openStream, Program.run_perform, hstep,
    Program.run_pure, hstream, hitems]
  rfl

theorem generate_run (env : Environment σ) (settings : AiSettings) (caller : Option UserId)
    (request : GenerationRequest) (w : World σ) :
    (generate settings caller request).run env w =
      match (start settings caller request).run env w with
      | (.error e, w') => ((.error e, none), w')
      | (.ok g, w') => g.run.run env w' := by
  rw [generate, Program.run_bind_eq]
  rcases (start settings caller request).run env w with ⟨_ | _, _⟩ <;> rfl

end ChatRelay.Generation
