import ChatRelay.Proofs.Generation.Opening
import ChatRelay.Proofs.Generation.TitleJob

/-!
# The order of events

Whatever happens in a generation, its events come in one order (`IsCourse`), of
which a caller sees a beginning, and all of it when the generation succeeds. The
text that a caller is sent is the beginning of what is to be seen of the answer
so far, which is what was `received` of it (`generate_events`).
-/

namespace ChatRelay.Service

open Generation (Event)

/-- A caller that does not take all of some events takes none of those behind them. -/
theorem taken_append_of_not_hasRoom {room : Option Nat} {events : List Event}
    (h : hasRoom room events = false) (events' : List Event) :
    taken room (events ++ events') = taken room events := by
  cases room with
  | none => cases h
  | some n =>
    have hlt : n < events.length := by simpa [hasRoom] using h
    exact List.take_append_of_le_length (Nat.le_of_lt hlt)

/-- A caller that takes the last of some events takes them all. -/
theorem taken_concat_of_not_hasRoom {room : Option Nat} {events : List Event} {e : Event}
    (h : hasRoom room (events ++ [e]) = false) :
    taken room (events ++ [e]) = taken room events := by
  cases room with
  | none => cases h
  | some n =>
    have hle : n ≤ events.length := by
      have : n < events.length + 1 := by simpa [hasRoom] using h
      omega
    exact List.take_append_of_le_length hle

end ChatRelay.Service

namespace ChatRelay.Generation

open Service (Environment Program StreamItem World hasRoom taken)
open Title (Decomposition Scanner fragments)

variable {σ : Type}

/-- The kinds of the events behind a complete answer. -/
inductive IsEnding : List EventKind → Prop where
  | plain : IsEnding [.outputEnd]
  | created : IsEnding [.sessionUpdated, .outputEnd]
  | titled : IsEnding [.sessionUpdated, .titleGenerated, .outputEnd]

/-- The kinds of all events of a generation that succeeds. -/
def IsCourse (kinds : List EventKind) : Prop :=
  ∃ n ending, IsEnding ending ∧
    kinds = .modelReady :: (List.replicate n .content ++ .outputComplete :: ending)

/-- The text that an event brings. -/
def Event.text? : Event → Option String
  | .content text => some text
  | _ => none

/-- The texts that some events bring, in order. -/
def contentTexts (events : List Event) : List String :=
  events.filterMap Event.text?

/-- The texts of a stream that are read until it ends or fails, or until the caller does not take
what is to be seen of one. -/
def readUntil (room : Option Nat) (scanner : Scanner) : List StreamItem → List String
  | [] => []
  | .error _ :: _ => []
  | .ok (.textDelta text) :: items =>
    let (scanner, step) := scanner.consume text
    let shown := contents step.visible.toList
    text ::
      if hasRoom room shown then readUntil (room.map (· - shown.length)) scanner items else []
  | .ok _ :: items => readUntil room scanner items

/-- The texts of a stream that a generation reads. It reads nothing before the caller has taken the
event that the provider is ready. -/
def received (room : Option Nat) (items : List StreamItem) : List String :=
  if hasRoom room [.modelReady none] then readUntil (room.map (· - 1)) {} items else []

/-! ## What is sent of the answer -/

theorem contentTexts_contents (fragments : List String) :
    contentTexts (contents fragments) = fragments := by
  rw [contentTexts, contents, List.filterMap_map]
  exact List.filterMap_some

theorem contentTexts_append (events events' : List Event) :
    contentTexts (events ++ events') = contentTexts events ++ contentTexts events' :=
  List.filterMap_append

theorem toList_join_isPrefix {texts texts' : List String} (h : texts <+: texts') :
    (String.join texts).toList <+: (String.join texts').toList := by
  obtain ⟨rest, rfl⟩ := h
  rw [String.join_append, String.toList_append]
  exact List.prefix_append _ _

/-- What the caller takes comes from what was read. -/
theorem taken_contents_isPrefix (room : Option Nat) (scanner : Scanner) (items : List StreamItem) :
    taken room (contents (fragments (scanner.feed (texts items)).2)) <+:
      contents (fragments (scanner.feed (readUntil room scanner items)).2) := by
  induction items generalizing room scanner with
  | nil => exact Service.taken_isPrefix _ _
  | cons item items ih =>
    rcases item with e | event
    · exact Service.taken_isPrefix _ _
    · cases event with
      | textDelta text =>
        rw [texts, readUntil]
        simp only [Scanner.feed_cons, Title.fragments_cons, contents_append]
        split
        · rename_i h
          rw [Service.taken_append, Service.taken_of_hasRoom h]
          exact (List.prefix_append_right_inj _).2 (ih _ _)
        · rename_i h
          rw [Service.taken_append_of_not_hasRoom (Bool.eq_false_iff.2 h)]
          exact (Service.taken_isPrefix _ _).trans (List.prefix_append _ _)
      | connected | messageDelta | usage | done => exact ih room scanner

/-- A caller that takes everything is the reason to read everything. -/
theorem readUntil_of_hasRoom {room : Option Nat} {scanner : Scanner} {items : List StreamItem}
    (h : hasRoom room (contents (fragments (scanner.feed (texts items)).2)) = true) :
    readUntil room scanner items = texts items := by
  induction items generalizing room scanner with
  | nil => rfl
  | cons item items ih =>
    rcases item with e | event
    · rfl
    · cases event with
      | textDelta text =>
        simp only [texts, Scanner.feed_cons, Title.fragments_cons, contents_append,
          Service.hasRoom_append, Bool.and_eq_true] at h
        simp only [texts, readUntil, h.1, if_true, ih h.2]
      | connected | messageDelta | usage | done => exact ih h

/-- What the scanner forwards is the beginning of what is to be seen of the texts. -/
theorem fragments_feed_isPrefix (increments : List String) :
    (String.join (fragments (Scanner.feed {} increments).2)).toList <+:
      (Decomposition.ofAnswer (String.join increments)).visible.toList := by
  rw [← Scanner.readAll_visible, Scanner.readAll_eq_feed]
  refine toList_join_isPrefix ?_
  rw [Title.fragments_append]
  exact List.prefix_append _ _

namespace Opened

/-- The events in front of the end of the answer that come as the answer is read. -/
def ready (g : Opened) : List Event :=
  .modelReady none :: contents (fragments (Scanner.feed {} (texts g.items)).2)

theorem events_of_error {g : Opened} {e : ChatError} (h : g.outcome = .error e)
    (env : Environment σ) (w : World σ) : g.events env w = g.ready := by
  rw [events, h]
  rw [outcome] at h
  cases hf : failure? g.items with
  | none =>
    rw [hf] at h
    cases h
  | some e => simp [passed, scanned, ready, hf]

/-- The caller has been sent all that is to be seen when it is told that the answer is complete. -/
theorem passed_of_ok {g : Opened} {scanner : Scanner} (h : g.outcome = .ok scanner) :
    ∃ last, fragments (Scanner.readAll (texts g.items)).2 =
        fragments (Scanner.feed {} (texts g.items)).2 ++ last ∧
      g.passed = g.ready ++ contents last ++ [.outputComplete none] := by
  refine ⟨_, by rw [Scanner.readAll_eq_feed, Title.fragments_append], ?_⟩
  rw [outcome] at h
  cases hf : failure? g.items with
  | some e =>
    rw [hf] at h
    cases h
  | none => simp [passed, scanned, ready, hf, Scanner.readAll_eq_feed]

/-- Behind the end of the answer there is one of three lists of events. -/
theorem events_of_ok {g : Opened} {scanner : Scanner} (h : g.outcome = .ok scanner)
    (env : Environment σ) (w : World σ) :
    ∃ ending, Closing ending ((g.close scanner).run env w).1.2 ∧
      g.events env w = g.passed ++ ending := by
  refine ⟨_, (g.close_does scanner).run env w, ?_⟩
  rw [events, h]

theorem Closing.isEnding {ending : List Event} {job : Option TitleJob} (h : Closing ending job) :
    IsEnding (ending.map Event.kind) := by
  cases h with
  | plain => exact .plain
  | untitled => exact .created
  | titled => exact .titled

theorem Closing.contentTexts {ending : List Event} {job : Option TitleJob}
    (h : Closing ending job) : contentTexts ending = [] := by
  cases h <;> rfl

theorem Closing.untitled_of_job {ending : List Event} {job : Option TitleJob}
    (h : Closing ending job) (hjob : job.isSome) :
    .titleGenerated ∉ ending.map Event.kind := by
  cases h with
  | plain | titled => cases hjob
  | untitled => simp [Event.kind]

end Opened

/-! ## What a caller sees of a run -/

/-- What holds of the events that a caller takes of a generation whose provider's stream yields
`script`. -/
structure Follows (room : Option Nat) (script : List StreamItem) (result : Except ChatError Unit)
    (job : Option TitleJob) (events : List Event) : Prop where
  /-- They are the beginning of all events, -/
  order : ∃ course, IsCourse course ∧ events.map Event.kind <+: course
  /-- and all of them in the end. -/
  complete : result = .ok () → IsCourse (events.map Event.kind)
  nonempty : ∀ text ∈ contentTexts events, text ≠ ""
  /-- The caller has seen the beginning of what is to be seen of the texts that were received, -/
  seen : (String.join (contentTexts events)).toList <+:
    (Decomposition.ofAnswer (String.join (received room script))).visible.toList
  /-- and all of it when the answer is complete. -/
  seenAll : .outputComplete ∈ events.map Event.kind →
    received room script = texts script ∧
      String.join (contentTexts events) =
        (Decomposition.ofAnswer (String.join (texts script))).visible
  /-- No title is looked for when there is one. -/
  untitled : job.isSome → .titleGenerated ∉ events.map Event.kind

theorem kinds_contents (fragments : List String) :
    (contents fragments).map Event.kind = List.replicate fragments.length .content := by
  induction fragments with
  | nil => rfl
  | cons fragment fragments ih => exact congrArg (EventKind.content :: ·) ih

theorem contentTexts_ready (g : Opened) :
    contentTexts g.ready = fragments (Scanner.feed {} (texts g.items)).2 :=
  contentTexts_contents _

/-- What a caller takes while the answer is read comes from what was received. -/
theorem contentTexts_taken_ready (room : Option Nat) (g : Opened) :
    contentTexts (taken room g.ready) <+:
      fragments (Scanner.feed {} (received room g.items)).2 := by
  rw [Opened.ready, ← List.singleton_append, Service.taken_append, contentTexts_append, received]
  split
  · rename_i h
    rw [Service.taken_of_hasRoom h]
    have := (taken_contents_isPrefix (room.map (· - 1)) {} g.items).filterMap Event.text?
    rwa [← contentTexts, ← contentTexts, contentTexts_contents] at this
  · rename_i h
    rcases room with _ | _ | n
    · exact absurd rfl h
    · simp [taken, contentTexts]
    · exact absurd (by simp [hasRoom]) h

/-- When there is room for all that comes as the answer is read, everything is received. -/
theorem received_of_hasRoom {room : Option Nat} {g : Opened} (h : hasRoom room g.ready = true) :
    received room g.items = texts g.items := by
  rw [Opened.ready, ← List.singleton_append, Service.hasRoom_append, Bool.and_eq_true] at h
  rw [received, if_pos h.1]
  exact readUntil_of_hasRoom h.2

namespace Opened

variable {g : Opened} {env : Environment σ} {w : World σ} {room : Option Nat}

/-- When the caller is told that the answer is complete, it is. -/
theorem hasRoom_of_outputComplete
    (h : .outputComplete ∈ (taken room (g.events env w)).map Event.kind) :
    hasRoom room g.passed = true ∧ ∃ scanner, g.outcome = .ok scanner := by
  cases ho : g.outcome with
  | error e =>
    rw [events_of_error ho] at h
    have hin := ((Service.taken_isPrefix room g.ready).map Event.kind).subset h
    simp [ready, kinds_contents, Event.kind, List.mem_replicate] at hin
  | ok scanner =>
    refine ⟨?_, scanner, rfl⟩
    obtain ⟨last, -, hpassed⟩ := passed_of_ok ho
    obtain ⟨ending, -, hevents⟩ := events_of_ok ho env w
    cases hroom : hasRoom room g.passed with
    | true => rfl
    | false =>
      rw [hevents, Service.taken_append_of_not_hasRoom hroom] at h
      rw [hpassed] at hroom h
      rw [Service.taken_concat_of_not_hasRoom hroom] at h
      have hin := ((Service.taken_isPrefix room _).map Event.kind).subset h
      simp [ready, kinds_contents, Event.kind, List.mem_replicate] at hin

/-- The texts of all events are the beginning of what is to be seen of the answer. -/
theorem contentTexts_events (g : Opened) (env : Environment σ) (w : World σ) :
    (String.join (contentTexts (g.events env w))).toList <+:
        (Decomposition.ofAnswer (String.join (texts g.items))).visible.toList ∧
      ∀ text ∈ contentTexts (g.events env w), text ≠ "" := by
  cases ho : g.outcome with
  | error e =>
    rw [events_of_error ho, contentTexts_ready]
    exact ⟨fragments_feed_isPrefix _, (Scanner.sound_init.feed _).2.nonempty⟩
  | ok scanner =>
    obtain ⟨last, hlast, hpassed⟩ := passed_of_ok ho
    obtain ⟨ending, hclosing, hevents⟩ := events_of_ok ho env w
    have htexts : contentTexts (g.events env w) =
        fragments (Scanner.readAll (texts g.items)).2 := by
      rw [hevents, hpassed, hlast]
      simp only [contentTexts_append, contentTexts_ready, contentTexts_contents,
        hclosing.contentTexts, List.append_nil]
      exact List.append_nil _
    rw [htexts, Scanner.readAll_visible]
    exact ⟨List.prefix_refl _, Scanner.readAll_nonempty _⟩

theorem events_eq_ready_append (g : Opened) (env : Environment σ) (w : World σ) :
    ∃ rest, g.events env w = g.ready ++ rest := by
  cases ho : g.outcome with
  | error e => exact ⟨[], by rw [events_of_error ho, List.append_nil]⟩
  | ok scanner =>
    obtain ⟨last, -, hpassed⟩ := passed_of_ok ho
    obtain ⟨ending, -, hevents⟩ := events_of_ok ho env w
    exact ⟨contents last ++ [.outputComplete none] ++ ending, by
      rw [hevents, hpassed, List.append_assoc, List.append_assoc, List.append_assoc]⟩

theorem isCourse_of_ok {scanner : Scanner} (h : g.outcome = .ok scanner) :
    IsCourse ((g.events env w).map Event.kind) := by
  obtain ⟨last, -, hpassed⟩ := passed_of_ok h
  obtain ⟨ending, hclosing, hevents⟩ := events_of_ok h env w
  have hkinds := kinds_contents (fragments (Scanner.feed {} (texts g.items)).2 ++ last)
  refine ⟨(fragments (Scanner.feed {} (texts g.items)).2 ++ last).length, _, hclosing.isEnding, ?_⟩
  rw [hevents, hpassed, ready, List.cons_append, List.cons_append, List.cons_append, List.map_cons,
    List.append_assoc, ← contents_append, List.map_append, hkinds]
  rfl

theorem order (g : Opened) (env : Environment σ) (w : World σ) :
    ∃ course, IsCourse course ∧ (g.events env w).map Event.kind <+: course := by
  cases ho : g.outcome with
  | error e =>
    rw [events_of_error ho, ready, List.map_cons, kinds_contents]
    exact ⟨_, ⟨_, _, .plain, rfl⟩, (List.prefix_cons_inj _).2 (List.prefix_append _ _)⟩
  | ok scanner => exact ⟨_, isCourse_of_ok ho, List.prefix_refl _⟩

/-- A caller that is told that the answer is complete has seen all of it. -/
theorem seenAll (h : .outputComplete ∈ (taken room (g.events env w)).map Event.kind) :
    received room g.items = texts g.items ∧
      String.join (contentTexts (taken room (g.events env w))) =
        (Decomposition.ofAnswer (String.join (texts g.items))).visible := by
  obtain ⟨hroom, scanner, ho⟩ := hasRoom_of_outputComplete h
  obtain ⟨last, hlast, hpassed⟩ := passed_of_ok ho
  obtain ⟨ending, hclosing, hevents⟩ := events_of_ok ho env w
  have hending : ∀ room, contentTexts (taken room ending) = [] := fun room =>
    List.prefix_nil.1 (hclosing.contentTexts ▸ (Service.taken_isPrefix room ending).filterMap _)
  refine ⟨received_of_hasRoom ?_, ?_⟩
  · rw [hpassed, List.append_assoc, Service.hasRoom_append, Bool.and_eq_true] at hroom
    exact hroom.1
  · have hcomplete : contentTexts [.outputComplete none] = [] := rfl
    rw [hevents, Service.taken_append, Service.taken_of_hasRoom hroom, contentTexts_append, hending,
      hpassed, contentTexts_append, contentTexts_append, contentTexts_ready, contentTexts_contents,
      ← hlast, ← Scanner.readAll_visible, hcomplete, List.append_nil, List.append_nil]

theorem untitled_of_job (h : (g.run.run env w).1.2.isSome) :
    .titleGenerated ∉ (g.events env w).map Event.kind := by
  obtain ⟨job, hjob⟩ := Option.isSome_iff_exists.1 h
  obtain ⟨scanner, ho, hclose⟩ := run_job hjob
  obtain ⟨last, -, hpassed⟩ := passed_of_ok ho
  obtain ⟨ending, hclosing, hevents⟩ := events_of_ok ho env w
  rw [hclose] at hclosing
  have hending := hclosing.untitled_of_job rfl
  simp [hevents, hpassed, ready, kinds_contents, Event.kind, List.mem_replicate] at hending ⊢
  exact hending

/-- What a caller takes of a run is as it should be. -/
theorem follows (g : Opened) (env : Environment σ) (w : World σ) :
    Follows w.room g.items (g.run.run env w).1.1 (g.run.run env w).1.2
      (taken w.room (g.events env w)) := by
  have hpre := Service.taken_isPrefix w.room (g.events env w)
  obtain ⟨hseen, hnonempty⟩ := g.contentTexts_events env w
  refine ⟨?_, fun hok => ?_, fun text h => ?_, ?_, fun h => ?_, fun hjob => ?_⟩
  · obtain ⟨course, hcourse, hevents⟩ := g.order env w
    exact ⟨course, hcourse, (hpre.map _).trans hevents⟩
  · rw [run_result] at hok
    split at hok
    · rename_i hroom
      cases ho : g.outcome with
      | error e =>
        rw [ho] at hok
        cases hok
      | ok scanner =>
        rw [Service.taken_of_hasRoom hroom]
        exact isCourse_of_ok ho
    · cases hok
  · exact hnonempty text ((hpre.filterMap _).subset h)
  · -- either all texts were received, or what was taken comes from those that were
    cases hroom : hasRoom w.room g.ready with
    | true =>
      rw [received_of_hasRoom hroom]
      exact (toList_join_isPrefix (hpre.filterMap _)).trans hseen
    | false =>
      obtain ⟨rest, hrest⟩ := g.events_eq_ready_append env w
      rw [hrest, Service.taken_append_of_not_hasRoom hroom]
      exact (toList_join_isPrefix (contentTexts_taken_ready w.room g)).trans
        (fragments_feed_isPrefix _)
  · exact seenAll h
  · exact fun h => untitled_of_job hjob ((hpre.map _).subset h)

end Opened

theorem Follows.nil {room : Option Nat} {script : List StreamItem} {e : ChatError} :
    Follows room script (.error e) none [] where
  order := ⟨_, ⟨0, _, .plain, rfl⟩, List.nil_prefix⟩
  complete := nofun
  nonempty := nofun
  seen := List.nil_prefix
  seenAll := nofun
  untitled := nofun

theorem received_openingOf {items rest : List StreamItem} (h : openingOf items = .ok rest)
    (room : Option Nat) : received room rest = received room items := by
  rcases openingOf_eq_ok h with rfl | rfl <;> rfl

/-- That the first item was looked at makes no difference. -/
theorem Follows.of_openingOf {room : Option Nat} {items rest : List StreamItem}
    {result : Except ChatError Unit} {job : Option TitleJob} {events : List Event}
    (hopen : openingOf items = .ok rest) (h : Follows room rest result job events) :
    Follows room items result job events := by
  have hreceived := received_openingOf hopen room
  have htexts := texts_openingOf hopen
  exact { h with seen := hreceived ▸ h.seen, seenAll := hreceived ▸ htexts ▸ h.seenAll }

/-- Whatever happens in a generation, its events are as they should be. Behind them comes nothing
but a title that was looked for, when none was sent before. -/
theorem generate_events (env : Environment σ) (settings : AiSettings) (caller : Option UserId)
    (request : GenerationRequest) (w : World σ) :
    let ((result, job), w') := (generate settings caller request).run env w
    ∃ events, w'.delivered = w.delivered ++ events ∧
      Follows w.room (script env settings request w.provider) result job events ∧
      ∀ (env' : Environment σ) (later : World σ), ∃ late,
        ((TitleJob.runLeft job).run env' later).2.delivered = later.delivered ++ late ∧
          (late = [] ∨ .titleGenerated ∉ events.map Event.kind ∧
            ∃ view, late = [.titleGenerated view (some "Title generated")]) := by
  have hroom := (start_silent settings caller request).run_room env w
  have hsent := (start_silent settings caller request).run_delivered env w
  rw [generate_run]
  rcases hstart : (start settings caller request).run env w with ⟨e | g, w₁⟩
  · rw [hstart] at hsent
    refine ⟨[], by rw [List.append_nil, ← hsent], .nil, fun env' later => ?_⟩
    exact ⟨[], (List.append_nil _).symm, .inl rfl⟩
  · rw [hstart] at hroom hsent
    have hopens := start_run_ok (congrArg Prod.fst hstart)
    refine ⟨taken w₁.room (g.events env w₁), ?_, ?_, fun env' later => ?_⟩
    · exact (g.run_delivered env w₁).trans (congrArg (· ++ _) hsent)
    · rw [← hroom]
      exact (g.follows env w₁).of_openingOf hopens.items
    · obtain ⟨late, hlate, hcases⟩ := TitleJob.runLeft_delivered (g.run.run env w₁).1.2 env' later
      exact ⟨late, hlate, hcases.imp_right fun h => ⟨(g.follows env w₁).untitled h.1, h.2⟩⟩

end ChatRelay.Generation
