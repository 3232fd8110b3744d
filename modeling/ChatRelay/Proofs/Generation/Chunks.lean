import ChatRelay.Proofs.Generation.Refusal
import ChatRelay.Service.Remote

/-!
# From chunks to the start of a generation

An endpoint answers in chunks and a generation reads events. Either of them says the
same (`Said`): some text, how many tokens were used and why the answer stopped.
`Told` is what it means that events tell what chunks hold, without a loss and in order.

A stream that fails after some chunks opens unless they hold nothing, and a generation
starts if it opens (`streamItems_tells`).
-/

namespace ChatRelay.Completion

/-! ## What is said -/

/-- What is said in an answer. -/
structure Said where
  text : String := ""
  usages : List Usage := []
  stops : List StopReason := []
  deriving DecidableEq, Repr

namespace StreamEvent

def text? : StreamEvent → Option String
  | .textDelta text => some text
  | _ => none

def usage? : StreamEvent → Option Usage
  | .usage tokens => some tokens
  | _ => none

def stop? : StreamEvent → Option StopReason
  | .messageDelta reason => some reason
  | _ => none

/-- The event says something. -/
def Says (e : StreamEvent) : Prop := e ≠ .connected ∧ e ≠ .done ∧ e ≠ .textDelta ""

end StreamEvent

namespace Said

/-- One thing after another is said. -/
instance : Append Said where
  append a b := ⟨a.text ++ b.text, a.usages ++ b.usages, a.stops ++ b.stops⟩

theorem append_def (a b : Said) :
    a ++ b = ⟨a.text ++ b.text, a.usages ++ b.usages, a.stops ++ b.stops⟩ := rfl

/-- What events say. -/
def ofEvents (events : List StreamEvent) : Said :=
  { text := String.join (events.filterMap StreamEvent.text?)
    usages := events.filterMap StreamEvent.usage?
    stops := events.filterMap StreamEvent.stop? }

/-- What chunks say, each with one choice after the other. -/
def ofChunks (chunks : List Chunk) : Said :=
  let choices := chunks.flatMap (·.choices)
  { text := String.join (choices.filterMap (·.text))
    usages := chunks.filterMap (·.usage)
    stops := choices.filterMap (·.stop) }

theorem ofEvents_append (events events' : List StreamEvent) :
    ofEvents (events ++ events') = ofEvents events ++ ofEvents events' := by
  simp only [ofEvents, append_def, List.filterMap_append, String.join_append]

theorem ofChunks_append (chunks chunks' : List Chunk) :
    ofChunks (chunks ++ chunks') = ofChunks chunks ++ ofChunks chunks' := by
  simp only [ofChunks, append_def, List.flatMap_append, List.filterMap_append, String.join_append]

/-- Events of which each says something say nothing only where there are none. -/
theorem ofEvents_eq_empty_iff {events : List StreamEvent} (h : ∀ e ∈ events, e.Says) :
    ofEvents events = {} ↔ events = [] := by
  constructor
  · intro hnothing
    cases events with
    | nil => rfl
    | cons e events =>
      obtain ⟨hconnected, hdone, hfilled⟩ := h e List.mem_cons_self
      rw [← List.singleton_append, ofEvents_append, append_def, mk.injEq,
        String.append_eq_empty_iff, List.append_eq_nil_iff, List.append_eq_nil_iff] at hnothing
      obtain ⟨⟨htext, -⟩, ⟨husage, -⟩, hstop, -⟩ := hnothing
      cases e with
      | connected => exact absurd rfl hconnected
      | done => exact absurd rfl hdone
      | textDelta text =>
        replace htext : String.join [text] = "" := htext
        rw [String.join_cons, String.append_eq_empty_iff] at htext
        exact absurd (congrArg _ htext.1) hfilled
      | messageDelta => cases hstop
      | usage => cases husage
  · rintro rfl
    rfl

/-! ## The events of a chunk -/

theorem ofEvents_choice (choice : ChunkChoice) :
    ofEvents choice.events = ofChunks [{ choices := [choice] }] := by
  rcases choice with ⟨text, stop⟩
  have htext : ofEvents ((text.filter (· ≠ "")).map StreamEvent.textDelta).toList =
      ⟨text.getD "", [], []⟩ := by
    cases text with
    | none => rfl
    | some text =>
      by_cases h : text = ""
      · subst h
        rfl
      · rw [Option.filter_some_pos (by simpa using h)]
        simp [ofEvents, StreamEvent.text?, StreamEvent.usage?, StreamEvent.stop?]
  have hstop : ofEvents (stop.map StreamEvent.messageDelta).toList = ⟨"", [], stop.toList⟩ := by
    cases stop <;> rfl
  rw [ChunkChoice.events, ofEvents_append, htext, hstop]
  cases text <;> cases stop <;> simp [ofChunks, append_def]

theorem ofEvents_choices (choices : List ChunkChoice) :
    ofEvents (choices.flatMap ChunkChoice.events) = ofChunks [{ choices }] := by
  induction choices with
  | nil => rfl
  | cons choice choices ih =>
    have hsplit : ofChunks [{ choices := choice :: choices }] =
        ofChunks [{ choices := [choice] }] ++ ofChunks [{ choices }] := by
      rw [← ofChunks_append]
      rfl
    rw [List.flatMap_cons, ofEvents_append, ih, ofEvents_choice, hsplit]

theorem ofEvents_chunk (c : Chunk) : ofEvents c.events = ofChunks [c] := by
  have husage : ofEvents (c.usage.map StreamEvent.usage).toList = ⟨"", c.usage.toList, []⟩ := by
    cases c.usage <;> rfl
  rw [Chunk.events, ofEvents_append, husage, ofEvents_choices]
  cases hc : c.usage <;> simp [ofChunks, append_def, hc]

/-- What is said by the events of chunks is what the chunks say. -/
theorem ofEvents_chunks (chunks : List Chunk) :
    ofEvents (chunks.flatMap Chunk.events) = ofChunks chunks := by
  induction chunks with
  | nil => rfl
  | cons c chunks ih =>
    rw [List.flatMap_cons, ofEvents_append, ih, ofEvents_chunk, ← ofChunks_append,
      List.singleton_append]

end Said

/-- What some chunks hold is told by some events. In front of the tokens that a chunk reports stands
what was said before that chunk, and in front of the reason of a choice what was said up to the text
of that choice. -/
structure Told (chunks : List Chunk) (events : List StreamEvent) : Prop where
  said : Said.ofEvents events = Said.ofChunks chunks
  each : ∀ e ∈ events, e.Says
  usage : ∀ before c after tokens, chunks = before ++ c :: after → c.usage = some tokens →
    ∃ front back, events = front ++ .usage tokens :: back ∧
      Said.ofEvents front = Said.ofChunks before ∧
      Said.ofEvents back = Said.ofChunks ({ c with usage := none } :: after)
  stop : ∀ before c after choices choice choices' reason, chunks = before ++ c :: after →
    c.choices = choices ++ choice :: choices' → choice.stop = some reason →
    ∃ front back, events = front ++ .messageDelta reason :: back ∧
      Said.ofEvents front = Said.ofChunks
        (before ++ [{ c with choices := choices ++ [{ choice with stop := none }] }]) ∧
      Said.ofEvents back = Said.ofChunks ({ choices := choices' } :: after)

theorem ChunkChoice.says_of_mem {c : ChunkChoice} {e : StreamEvent} (h : e ∈ c.events) :
    e.Says := by
  simp only [events, List.mem_append, Option.mem_toList, Option.map_eq_some_iff,
    Option.filter_eq_some_iff, decide_eq_true_eq] at h
  obtain ⟨text, ⟨-, htext⟩, rfl⟩ | ⟨reason, -, rfl⟩ := h
  · exact ⟨nofun, nofun, fun h => htext (StreamEvent.textDelta.inj h)⟩
  · exact ⟨nofun, nofun, nofun⟩

theorem Chunk.says_of_mem {c : Chunk} {e : StreamEvent} (h : e ∈ c.events) : e.Says := by
  simp only [events, List.mem_append, Option.mem_toList, Option.map_eq_some_iff,
    List.mem_flatMap] at h
  obtain ⟨tokens, -, rfl⟩ | ⟨choice, -, h⟩ := h
  · exact ⟨nofun, nofun, nofun⟩
  · exact choice.says_of_mem h

theorem Chunk.events_of_usage {c : Chunk} {tokens : Usage} (h : c.usage = some tokens) :
    c.events = .usage tokens :: Chunk.events { c with usage := none } := by
  rw [events, h]
  rfl

theorem Chunk.events_of_stop {c : Chunk} {choices choices' : List ChunkChoice}
    {choice : ChunkChoice} {reason : StopReason} (h : c.choices = choices ++ choice :: choices')
    (hstop : choice.stop = some reason) :
    c.events = Chunk.events { c with choices := choices ++ [{ choice with stop := none }] } ++
      .messageDelta reason :: Chunk.events { choices := choices' } := by
  simp [events, ChunkChoice.events, h, hstop]

/-- The events of chunks tell what they hold. -/
theorem told_events (chunks : List Chunk) : Told chunks (chunks.flatMap Chunk.events) where
  said := Said.ofEvents_chunks chunks
  each e he := by
    obtain ⟨c, -, he⟩ := List.mem_flatMap.1 he
    exact c.says_of_mem he
  usage before c after tokens hchunks husage := by
    refine ⟨_, _, ?_, Said.ofEvents_chunks before, Said.ofEvents_chunks _⟩
    rw [hchunks, List.flatMap_append, List.flatMap_cons, Chunk.events_of_usage husage,
      List.flatMap_cons, List.cons_append]
  stop before c after choices choice choices' reason hchunks hchoices hstop := by
    refine ⟨_, _, ?_, Said.ofEvents_chunks _, Said.ofEvents_chunks _⟩
    rw [hchunks, List.flatMap_append, List.flatMap_cons, Chunk.events_of_stop hchoices hstop,
      List.flatMap_append, List.flatMap_singleton, List.flatMap_cons, List.append_assoc,
      List.append_assoc, List.cons_append]

/-! ## The items of a stream -/

theorem chunkItems_append (chunks : List Chunk) (rest : List (Except ProviderError Chunk)) :
    chunkItems (chunks.map .ok ++ rest) =
      (chunks.flatMap Chunk.events).map .ok ++ chunkItems rest := by
  induction chunks with
  | nil => rfl
  | cons c chunks ih =>
    simp only [List.map_cons, List.cons_append, chunkItems, ih, List.flatMap_cons, List.map_append,
      List.append_assoc]

/-- Chunks come until there are no more or one cannot be had, and no more is read. -/
theorem chunks_cases (items : List (Except ProviderError Chunk)) :
    ∃ chunks : List Chunk, items = chunks.map .ok ∨
      ∃ e rest, items = chunks.map .ok ++ .error e :: rest := by
  induction items with
  | nil => exact ⟨[], .inl rfl⟩
  | cons item items ih =>
    cases item with
    | error e => exact ⟨[], .inr ⟨e, items, rfl⟩⟩
    | ok c =>
      obtain ⟨chunks, rfl | ⟨e, rest, rfl⟩⟩ := ih
      · exact ⟨c :: chunks, .inl rfl⟩
      · exact ⟨c :: chunks, .inr ⟨e, rest, rfl⟩⟩

/-- A stream of chunks that ends is open, and done at its end. -/
theorem streamItems_of_ok (chunks : List Chunk) :
    streamItems (chunks.map .ok) =
      .ok .connected :: ((chunks.flatMap Chunk.events).map .ok ++ [.ok .done]) := by
  have hitems := chunkItems_append chunks []
  rw [List.append_nil, chunkItems] at hitems
  rw [streamItems, hitems]
  cases chunks.flatMap Chunk.events <;> rfl

/-- A stream of chunks that fails is open if something happened before. -/
theorem streamItems_of_error (chunks : List Chunk) (e : ProviderError)
    (rest : List (Except ProviderError Chunk)) :
    streamItems (chunks.map .ok ++ .error e :: rest) =
      match chunks.flatMap Chunk.events with
      | [] => [.error e]
      | events => .ok .connected :: (events.map .ok ++ [.error e]) := by
  rw [streamItems, chunkItems_append, chunkItems]
  cases chunks.flatMap Chunk.events <;> rfl

end ChatRelay.Completion

namespace ChatRelay.Service

open Completion (Chunk ProviderError Request streamItems)

/-- What a provider behind an endpoint streams comes of chunks, whether they end or one of them
cannot be had. -/
theorem remote_stream (s : ResolvedSettings) (r : Request) (e : Endpoint) :
    ∃ chunks : List Chunk, (remote.stream s r e).1 = streamItems (chunks.map .ok) ∨
      ∃ fault rest,
        (remote.stream s r e).1 = streamItems (chunks.map .ok ++ .error fault :: rest) := by
  have hitems : ∃ items, (remote.stream s r e).1 = streamItems items := by
    have hunreachable : ∀ m, [.error (.stream m)] = streamItems [.error (.stream m)] := fun _ => rfl
    simp only [remote, send]
    split
    · exact ⟨_, hunreachable _⟩
    · split
      · exact ⟨_, rfl⟩
      · exact ⟨_, hunreachable _⟩
  obtain ⟨items, hitems⟩ := hitems
  rw [hitems]
  obtain ⟨chunks, rfl | ⟨fault, rest, rfl⟩⟩ := Completion.chunks_cases items
  · exact ⟨chunks, .inl rfl⟩
  · exact ⟨chunks, .inr ⟨fault, rest, rfl⟩⟩

end ChatRelay.Service

namespace ChatRelay.Generation

open Completion (Chunk ProviderError Said Told streamItems)
open Service (Environment Program World)

/-- When nothing else is wrong, a generation is refused if the stream opens with a failure. -/
theorem start_error_iff_openingOf {σ : Type} {env : Environment σ} {settings : AiSettings}
    {caller : Option UserId} {request : GenerationRequest} {w : World σ}
    (h : ∀ check, check ≠ .stream → Check.fault env settings caller request w check = none)
    (x : ChatError) :
    ((start settings caller request).run env w).1 = .error x ↔
      openingOf (script env settings request w.provider) = .error x := by
  rw [start_error_iff, Check.findSome?_all, h .identity nofun, h .messages nofun,
    h .settings nofun, h .conversation nofun, h .provider nofun]
  simp only [Option.none_or]
  exact Check.fault_stream_iff

/-- The items of a stream tell what its chunks hold, without a loss and in order. When the chunks
end, the stream is open with its first item and done with its last one. When one cannot be had that
failure is the last item, and the stream is open with its first item unless the chunks before hold
nothing. Then the failure is the only item, and a generation that nothing else stands in the way of
is refused for it before an event is sent. -/
theorem streamItems_tells (chunks : List Chunk) :
    (∃ events, Told chunks events ∧
      streamItems (chunks.map .ok) = .ok .connected :: (events.map .ok ++ [.ok .done])) ∧
    ∀ (e : ProviderError) (rest : List (Except ProviderError Chunk)),
      let items := streamItems (chunks.map .ok ++ .error e :: rest)
      (∃ events, Told chunks events ∧ items =
        (if Said.ofChunks chunks = {} then [] else [.ok .connected]) ++
          (events.map .ok ++ [.error e])) ∧
      (items.head? = some (.error e) ↔ Said.ofChunks chunks = {}) ∧
      ∀ (σ : Type) (env : Environment σ) (settings : AiSettings) (caller : Option UserId)
        (request : GenerationRequest) (w : World σ),
        script env settings request w.provider = items →
        (∀ check, check ≠ .stream → Check.fault env settings caller request w check = none) →
        let started := (start settings caller request).run env w
        started.2.delivered = w.delivered ∧
          ∀ x, started.1 = .error x ↔ Said.ofChunks chunks = {} ∧ x = setupError e := by
  have htold := Completion.told_events chunks
  refine ⟨⟨_, htold, Completion.streamItems_of_ok chunks⟩, fun e rest => ?_⟩
  have hnothing : Said.ofChunks chunks = {} ↔ chunks.flatMap Chunk.events = [] := by
    rw [← htold.said]
    exact Said.ofEvents_eq_empty_iff htold.each
  have hitems := Completion.streamItems_of_error chunks e rest
  dsimp only
  generalize chunks.flatMap Chunk.events = events at htold hnothing hitems
  cases events with
  | nil =>
    replace hnothing := hnothing.2 rfl
    refine ⟨⟨[], htold, by rw [hitems, if_pos hnothing]; rfl⟩, by simp [hitems, hnothing], ?_⟩
    intro σ env settings caller request w hscript hchecks
    refine ⟨(start_silent settings caller request).run_delivered env w, fun x => ?_⟩
    rw [start_error_iff_openingOf hchecks, hscript, hitems, openingOf]
    simp [hnothing, eq_comm]
  | cons event events =>
    replace hnothing : ¬ Said.ofChunks chunks = {} := fun h => by cases hnothing.1 h
    refine ⟨⟨event :: events, htold, by rw [hitems, if_neg hnothing]; rfl⟩,
      by simp [hitems, hnothing], ?_⟩
    intro σ env settings caller request w hscript hchecks
    refine ⟨(start_silent settings caller request).run_delivered env w, fun x => ?_⟩
    rw [start_error_iff_openingOf hchecks, hscript, hitems, openingOf]
    simp [hnothing]

/-- A key is refused after a chunk that holds nothing, and that is told as the reason why the
generation was not started. After the first words it would have been. -/
theorem streamItems_tells_refused_key :
    let settings : AiSettings := ⟨some "http://localhost", some "key", some "model"⟩
    let request : GenerationRequest := { messages := [⟨.user, "Hello?"⟩] }
    let env (chunks : List Chunk) : Environment Unit :=
      { clock := fun _ => ⟨0, 0⟩
        ids := Uuid.ofNat
        provider :=
          { create := fun _ => .ok ()
            stream := fun _ _ _ =>
              (streamItems (chunks.map .ok ++ [.error .authenticationFailed]), ())
            complete := fun _ _ _ => (.error .authenticationFailed, ()) } }
    let started (chunks : List Chunk) :=
      (start settings (some ⟨"ada"⟩) request).run (env chunks) { provider := () }
    (started [{ choices := [{ text := some "" }] }]).1 =
        .error (setupError .authenticationFailed) ∧
      (started [{ choices := [{ text := some "" }] }]).2.delivered = [] ∧
      ∀ x, (started [{ choices := [{ text := some "Hi" }] }]).1 ≠ .error x := by
  intro settings request env started
  have hchecks (chunks : List Chunk) (check : Check) (h : check ≠ .stream) :
      Check.fault (env chunks) settings (some ⟨"ada"⟩) request { provider := () } check = none := by
    cases check with
    | stream => exact absurd rfl h
    | _ => rfl
  have hempty : Said.ofChunks [{ choices := [{ text := some "" }] }] = {} := by decide
  have hfilled : Said.ofChunks [{ choices := [{ text := some "Hi" }] }] ≠ {} := by decide
  have hrun (chunks : List Chunk) := ((streamItems_tells chunks).2 .authenticationFailed []).2.2
    Unit (env chunks) settings (some ⟨"ada"⟩) request { provider := () } rfl (hchecks chunks)
  obtain ⟨hsilent, hrefused⟩ := hrun [{ choices := [{ text := some "" }] }]
  obtain ⟨-, hstarted⟩ := hrun [{ choices := [{ text := some "Hi" }] }]
  exact ⟨(hrefused _).2 ⟨hempty, rfl⟩, hsilent, fun x h => hfilled ((hstarted x).1 h).1⟩

end ChatRelay.Generation
