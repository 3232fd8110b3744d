import ChatRelay.Proofs.Generation.Keeping
import ChatRelay.Proofs.Generation.Opening
import ChatRelay.Proofs.Store.Reachable
import ChatRelay.Proofs.Store.Reading

/-!
# What is stored of a generation

A generation that nothing stands in the way of adds one exchange to the store and
changes nothing else (`generate_keeps`). The exchange goes on with a conversation
(`Continues`) or begins one (`Begins`); a conversation that begins has the title
of the answer, or else the one that a job brings.
-/

namespace ChatRelay.Generation

open Service (Environment Program World hasRoom)
open Store (Records)
open Time (Instant)
open Title (Decomposition Scanner)

variable {σ : Type}

/-- Behind the messages of `r` there are in `r'` those of an exchange, in a conversation that is
there and counts as changed at the time `t`. All else is the same. -/
structure Continues (r r' : Records) (c : Conversation) (turns : List (Role × String))
    (t : Instant) : Prop where
  conversations : r'.conversations =
    r.conversations.map fun c' => if c' = c then { c with updatedAt := t } else c'
  messages : ∃ ms, Says ms c.id turns ∧ r'.messages = r.messages ++ ms
  later : c.updatedAt ≤ t

/-- Behind the conversations of `r` there is in `r'` a new one, and behind the messages those of an
exchange in it. All else is the same. -/
structure Begins (r r' : Records) (c : Conversation) (turns : List (Role × String)) : Prop where
  conversations : r'.conversations = r.conversations ++ [c]
  messages : ∃ ms, Says ms c.id turns ∧ r'.messages = r.messages ++ ms

variable {env : Environment σ} {reading : Instant → Prop} {r : Records} {k : Nat} {w : World σ}
  {c : Conversation} {ms : List ChatMessage} {turns : List (Role × String)} {now : Instant}

theorem continues_change (h : r.Sound reading now) (hc : c ∈ r.conversations)
    (hms : Says ms c.id turns) {t : Instant} (ht : now ≤ t) :
    Continues r ((r.addMessages ms).change { uid := c.uid } t) c turns t.truncate := by
  have hkept := h.conversations c hc
  refine ⟨List.map_congr_left fun c' hc' => ?_, ⟨ms, hms, rfl⟩,
    Records.le_truncate hkept.updated (Instant.le_trans hkept.past ht)⟩
  rw [Records.changed]
  by_cases hsame : c'.uid = c.uid
  · rw [h.keyed.eq_of_shared hc' hc (.inr hsame), if_pos rfl, if_pos rfl]
    rfl
  · rw [if_neg hsame, if_neg fun heq => hsame (by rw [heq])]

/-! ## What is read of it -/

theorem Says.filter (h : Says ms c.id turns) :
    (ms.filter fun m => m.conversationId == c.id) = ms :=
  List.filter_eq_self.2 fun m hm => beq_iff_eq.2 (h.placed m hm)

/-- A conversation that went on is read as before, with the exchange behind its messages. -/
theorem Continues.get_rows {r' : Records} {t later : Instant} (h : Continues r r' c turns t)
    (hsound : r'.Sound Instant.Storable later) (hc : c ∈ r.conversations) :
    ∃ ms, Says ms c.id turns ∧
      r'.rows.get ((Filter.byUid c.uid).ownedBy c.owner) =
        .ok (some { c with updatedAt := t, messages := (r.withMessages c).messages ++ ms }) := by
  obtain ⟨ms, hms, hmessages⟩ := h.messages
  have hc' : { c with updatedAt := t } ∈ r'.conversations := by
    rw [h.conversations]
    exact List.mem_map.2 ⟨c, hc, if_pos rfl⟩
  refine ⟨ms, hms, (hsound.get_rows_of_mem hc').trans ?_⟩
  simp only [Records.withMessages, hmessages, List.filter_append, hms.filter]

/-- A conversation that began is read with the exchange alone. -/
theorem Begins.get_rows {r' : Records} {later : Instant} (h : Begins r r' c turns)
    (hplaced : ∀ m ∈ r.messages, ∃ c' ∈ r.conversations, c'.id = m.conversationId)
    (hsound : r'.Sound Instant.Storable later) :
    ∃ ms, Says ms c.id turns ∧
      r'.rows.get ((Filter.byUid c.uid).ownedBy c.owner) =
        .ok (some { c with messages := ms }) := by
  obtain ⟨ms, hms, hmessages⟩ := h.messages
  have hc : c ∈ r'.conversations := by
    rw [h.conversations]
    exact List.mem_append_right _ (List.mem_singleton.2 rfl)
  have hother : (r.messages.filter fun m => m.conversationId == c.id) = [] := by
    refine List.filter_eq_nil_iff.2 fun m hm heq => ?_
    obtain ⟨c', hc', hid⟩ := hplaced m hm
    have hdistinct := hsound.distinct
    rw [h.conversations, List.pairwise_append] at hdistinct
    exact (hdistinct.2.2 c' hc' c (List.mem_singleton.2 rfl)).1 (hid.trans (beq_iff_eq.1 heq))
  refine ⟨ms, hms, (hsound.get_rows_of_mem hc).trans ?_⟩
  simp only [Records.withMessages, hmessages, List.filter_append, hms.filter, hother,
    List.nil_append]

/-! ## Runs -/

namespace Opened

/-- A caller that takes all events sees a complete answer succeed. -/
theorem run_of_open {g : Opened} {scanner : Scanner} (env : Environment σ)
    (ho : g.outcome = .ok scanner) (hroom : w.room = none) :
    (g.run.run env w).1 = (.ok (), ((g.close scanner).run env w).1.2) ∧
      (g.run.run env w).2 = ((g.close scanner).run env w).2.hear (g.events env w) := by
  have hresult := g.run_result env w
  rw [hroom, ho] at hresult
  obtain ⟨hjob, hworld⟩ := run_of_hasRoom env ho (w := w) (by rw [hroom]; rfl)
  exact ⟨Prod.ext hresult hjob, hworld⟩

/-- A world is as calm after some events as before them. -/
theorem calm_hear (h : w.Calm env reading r k) (events : List Event) :
    (w.hear events).Calm env reading r k :=
  ⟨h.store, h.faults, h.sound, h.steady, h.fresh⟩

/-- Without an answer nothing is stored, and nothing is left to do. -/
theorem run_unanswered {g : Opened} {scanner : Scanner} (env : Environment σ)
    (hroom : w.room = none) (ho : g.outcome = .ok scanner) (hraw : scanner.raw = []) :
    (g.run.run env w).1 = (.ok (), none) ∧ (g.run.run env w).2.store = w.store := by
  obtain ⟨hresult, hworld⟩ := run_of_open env ho hroom
  rw [hresult, hworld, close, if_pos hraw]
  exact ⟨rfl, rfl⟩

/-- A generation that goes on with a conversation adds its exchange there. -/
theorem run_continued {g : Opened} {scanner : Scanner} {found : Conversation}
    (h : w.Calm env reading r (0 + 1 + g.inputs.length)) (hroom : w.room = none)
    (ho : g.outcome = .ok scanner) (hraw : scanner.raw ≠ []) (hexisting : g.existing = some found)
    (hc : c ∈ r.conversations) (hid : found.id = c.id) (huid : found.uid = c.uid) :
    (g.run.run env w).1 = (.ok (), none) ∧
      ∃ r' later i, (g.run.run env w).2.store = r'.rows ∧ r'.Sound reading later ∧
        w.readings ≤ i ∧
        Continues r r' c (exchange g.inputs scanner.visibleContent) (env.clock i).truncate := by
  obtain ⟨hresult, hworld⟩ := run_of_open env ho hroom
  obtain ⟨hjob, ms, i, hms, hi, hkept⟩ := close_continued h hraw hexisting ⟨c, hc, hid.symm⟩
  rw [hid] at hms
  rw [huid] at hkept
  rw [hresult, hjob, hworld]
  exact ⟨rfl, _, _, i, hkept.store, hkept.sound, hi,
    continues_change h.sound hc hms (h.steady.le hi)⟩

/-- A generation that begins a conversation creates it with its exchange. Its title is the one of
the answer, or else the one that the job brings. -/
theorem run_begun {g : Opened} {scanner : Scanner}
    (h : w.Calm env reading r (0 + 1 + g.inputs.length + 2)) (hroom : w.room = none)
    (ho : g.outcome = .ok scanner) (hraw : scanner.raw ≠ []) (hexisting : g.existing = none) :
    (g.run.run env w).1.1 = .ok () ∧
      ∃ r' later c,
        ((TitleJob.runLeft (g.run.run env w).1.2).run env (g.run.run env w).2).2.store = r'.rows ∧
        r'.Sound reading later ∧ c.owner = g.owner ∧ c.status = .active ∧
        c.title = (scanner.title?.or (titleOf?
          ((g.titleJob c scanner.visibleContent).reply env w.provider))).getD Title.placeholder ∧
        Begins r r' c (exchange g.inputs scanner.visibleContent) := by
  obtain ⟨hresult, hworld⟩ := run_of_open env ho hroom
  obtain ⟨c, ms, howner, htitle, hstatus, hnew, hms, hjob, hkept⟩ := close_begun h hraw hexisting
  rw [hresult, hworld, hjob]
  refine ⟨rfl, ?_⟩
  cases hscanned : scanner.title? with
  | some title =>
    rw [hscanned] at htitle
    exact ⟨_, _, c, hkept.store, hkept.sound, howner, hstatus, htitle, rfl, ms, hms, rfl⟩
  | none =>
    rw [hscanned] at htitle
    obtain ⟨hstore, later, hsound⟩ := TitleJob.run_keeps (g.titleJob c scanner.visibleContent)
      (calm_hear hkept.toCalm (g.events env w))
    rw [TitleJob.retitled, World.hear_provider, hkept.provider] at hstore hsound
    cases hreply : titleOf? ((g.titleJob c scanner.visibleContent).reply env w.provider) with
    | none =>
      rw [hreply] at hstore hsound
      refine ⟨_, _, c, hstore, hsound, howner, hstatus, ?_, rfl, ms, hms, rfl⟩
      rw [hreply]
      exact htitle
    | some title =>
      rw [hreply] at hstore hsound
      dsimp only at hstore hsound
      rw [Records.change_addMessages, Records.change_addConversation hnew rfl] at hstore hsound
      refine ⟨_, _, { c with title, updatedAt := _ }, hstore, hsound, howner, hstatus, ?_, rfl, ms,
        hms, rfl⟩
      exact (congrArg (fun reply => (none.or reply).getD Title.placeholder) hreply).symm

end Opened

/-- The first thing that the user says. -/
def firstUserText (inputs : List Completion.Message) : String :=
  ((inputs.find? fun m => m.role == .user).map (·.content)).getD ""

/-- A generation that nothing stands in the way of: the user is known and says something, the
settings are complete, the stream of the provider does not fail, no call to the store does, the
caller listens, and the clock and the identifiers are as they should be. Without an answer nothing
is stored. Otherwise the conversation of the request goes on, or one begins that has the title of
the answer, or else the one that the provider replies with, or else the placeholder. -/
theorem generate_keeps {settings : AiSettings} {resolved : ResolvedSettings} {owner : UserId}
    {request : GenerationRequest} (hreach : w.store.Reachable reading now)
    (hmessages : request.messages ≠ []) (hsettings : settings.resolve = .ok resolved)
    (hcreate : env.provider.create resolved = .ok ())
    (hscript : failure? (script env settings request w.provider) = none)
    (hfaults : w.faults = fun _ => []) (hroom : w.room = none)
    (hnow : now ≤ env.clock w.readings) (hclock : env.Steady reading w.readings)
    (hids : env.Fresh w.store w.idsUsed (request.messages.length + 3))
    (hexists : ∀ uid, request.uid = some uid →
      ∃ c, w.store.get ((Filter.byUid uid).ownedBy owner) = .ok (some c)) :
    let full := (generate settings (some owner) request).run env w
    let final := (TitleJob.runLeft full.1.2).run env full.2
    let answer := String.join (texts (script env settings request w.provider))
    let d := Decomposition.ofAnswer answer
    let turns := exchange request.messages d.stored
    let provider := (env.provider.stream resolved (streamRequest resolved request) w.provider).2
    let reply := (env.provider.complete resolved
      (titleRequest resolved.model (firstUserText request.messages) d.stored) provider).1
    full.1.1 = .ok () ∧
      (answer = "" → final.2.store = w.store) ∧
      (answer ≠ "" → ∃ (r r' : Records) (later : Instant),
        w.store = r.rows ∧ r.Sound reading now ∧
        final.2.store = r'.rows ∧ r'.Sound reading later ∧
        match request.uid with
        | some uid => ∃ c ∈ r.conversations, c.uid = uid ∧ c.owner = owner ∧
            ∃ i, w.readings ≤ i ∧ Continues r r' c turns (env.clock i).truncate
        | none => ∃ c, c.owner = owner ∧ c.status = .active ∧
            c.title = (d.title.or (titleOf? reply)).getD Title.placeholder ∧
            Begins r r' c turns) := by
  obtain ⟨r, hstore, hsound⟩ := hreach.records
  rw [hstore] at hids
  obtain ⟨existing, hfind, hfound⟩ := findExisting_run_of_exists hfaults hexists
  have hisNone := findExisting_run_isNone (congrArg Prod.fst hfind)
  obtain ⟨items, hitems, hstart⟩ := start_run_found hmessages hsettings hfind hcreate hscript
  have hraw := Scanner.readAll_raw (texts (script env settings request w.provider))
  have hstored := Scanner.readAll_stored (texts (script env settings request w.provider))
  have htitle := Scanner.readAll_title (texts (script env settings request w.provider))
  rw [← texts_openingOf hitems] at hraw hstored htitle ⊢
  rw [generate_run, hstart]
  have ho := Opened.outcome_of_failure?_eq_none
    (g := { settings := resolved, owner, inputs := request.messages, existing, items })
    ((failure?_openingOf hitems).trans hscript)
  dsimp only at ho ⊢
  generalize (Scanner.readAll (texts items)).1 = scanner at *
  generalize Decomposition.ofAnswer (String.join (texts items)) = d at *
  generalize String.join (texts items) = answer at *
  have hcalm : (streaming env resolved (streamRequest resolved request) w).Calm env reading r
      (request.messages.length + 3) :=
    ⟨hstore, hfaults, hsound.mono hnow, hclock, hids⟩
  have hopen : (streaming env resolved (streamRequest resolved request) w).room = none := hroom
  by_cases hanswer : answer = ""
  · have hempty : scanner.raw = [] := by
      rw [hraw, hanswer]
      rfl
    obtain ⟨hresult, hkept⟩ := Opened.run_unanswered env hopen ho hempty
    rw [hresult]
    exact ⟨rfl, fun _ => hkept, fun h => absurd hanswer h⟩
  · have hfull : scanner.raw ≠ [] := fun h => hanswer (String.toList_eq_nil_iff.1 (hraw ▸ h))
    cases huid : request.uid with
    | some uid =>
      obtain ⟨found, rfl, hget⟩ := hfound uid huid
      rw [hstore] at hget
      obtain ⟨c, hc, hcuid, howner, hid, hsame⟩ := Records.of_get_rows_byUid hget
      obtain ⟨hresult, r', later, i, hkept, hsound', hi, hcontinues⟩ :=
        Opened.run_continued (hcalm.becomes.mono (by dsimp only; omega)).toCalm hopen ho hfull rfl
          hc hid hsame
      rw [hresult]
      rw [hstored] at hcontinues
      exact ⟨rfl, fun h => absurd h hanswer, fun _ =>
        ⟨r, r', later, hstore, hsound, hkept, hsound', c, hc, hcuid, howner, i, hi, hcontinues⟩⟩
    | none =>
      rw [huid, Option.isNone_none, Option.isNone_iff_eq_none] at hisNone
      subst hisNone
      obtain ⟨hresult, r', later, c, hkept, hsound', howner, hstatus, hctitle, hbegins⟩ :=
        Opened.run_begun (hcalm.becomes.mono (by dsimp only; omega)).toCalm hopen ho hfull rfl
      rw [hstored] at hctitle hbegins
      rw [htitle] at hctitle
      exact ⟨hresult, fun h => absurd h hanswer, fun _ =>
        ⟨r, r', later, hstore, hsound, hkept, hsound', c, howner, hstatus, hctitle, hbegins⟩⟩

/-- A first question to a provider that answers with a title. -/
theorem generate_keeps_first_answer :
    let settings : AiSettings := ⟨some "http://localhost", some "key", some "model"⟩
    let request : GenerationRequest := { messages := [⟨.user, "Hello?"⟩] }
    let env : Environment Unit :=
      { clock := fun _ => ⟨0, 0⟩
        ids := Uuid.ofNat
        provider :=
          { create := fun _ => .ok ()
            stream := fun _ _ _ =>
              ([.ok .connected, .ok (.textDelta "Hi.\n\nCONVERSATION_"),
                .ok (.textDelta "TITLE: Greeting"), .ok .done], ())
            complete := fun _ _ _ => (.error .authenticationFailed, ()) } }
    let w : World Unit := { provider := () }
    let full := (generate settings (some ⟨"ada"⟩) request).run env w
    let final := (TitleJob.runLeft full.1.2).run env full.2
    full.1.1 = .ok () ∧ ∃ (r' : Records) (c : Conversation) (ms : List ChatMessage),
      final.2.store = r'.rows ∧ r'.conversations = [c] ∧ c.title = "Greeting" ∧
      c.owner = ⟨"ada"⟩ ∧ r'.messages = ms ∧
      Says ms c.id [(.user, "Hello?"), (.assistant, "Hi.")] := by
  intro settings request env w
  have hsettings : settings.resolve = .ok ⟨"http://localhost", "key", "model"⟩ := rfl
  have hstorable : (⟨0, 0⟩ : Instant).Storable := ⟨by decide, by decide, by decide⟩
  have hscript : script env settings request () = [.ok .connected,
      .ok (.textDelta "Hi.\n\nCONVERSATION_"), .ok (.textDelta "TITLE: Greeting"), .ok .done] := by
    rw [script, hsettings]
  have hanswer : String.join (texts (script env settings request ())) =
      "Hi.\n\nCONVERSATION_TITLE: Greeting" := by
    rw [hscript]
    decide
  have hd : Decomposition.ofAnswer "Hi.\n\nCONVERSATION_TITLE: Greeting" =
      { visible := "Hi.", stored := "Hi.", title := some "Greeting" } := by decide
  have hdistinct : ∀ i j, 0 ≤ i → i < j → j < 0 + 4 → env.ids i ≠ env.ids j := by
    intro i j _ hij hj heq
    have := congrArg (fun u : Uuid => u.bits.toNat) heq
    simp [env, Uuid.ofNat] at this
    omega
  have hreach : w.store.Reachable Instant.Storable ⟨0, 0⟩ := .empty _
  have hclock : env.Steady Instant.Storable w.readings :=
    ⟨fun _ _ => hstorable, fun _ _ => Instant.le_refl _⟩
  have hids : env.Fresh w.store w.idsUsed (request.messages.length + 3) :=
    ⟨hdistinct, fun _ _ _ _ hrow => absurd hrow List.not_mem_nil,
      fun _ _ _ _ hrow => absurd hrow List.not_mem_nil⟩
  have hexists : ∀ uid, request.uid = some uid →
      ∃ c, w.store.get ((Filter.byUid uid).ownedBy ⟨"ada"⟩) = .ok (some c) := by
    intro uid huid
    cases huid
  obtain ⟨hresult, -, hkept⟩ := generate_keeps hreach (by decide) hsettings rfl
    (by rw [hscript]; rfl) rfl rfl (Instant.le_refl _) hclock hids hexists
  rw [hanswer, hd] at hkept
  obtain ⟨r, r', later, hr, -, hfinal, -, c, howner, -, htitle, hbegins⟩ := hkept (by decide)
  have hconversations : r.conversations = [] :=
    List.map_eq_nil_iff.1 (congrArg Store.conversations hr).symm
  have hmessages : r.messages = [] := List.map_eq_nil_iff.1 (congrArg Store.messages hr).symm
  obtain ⟨ms, hsays, hms⟩ := hbegins.messages
  refine ⟨hresult, r', c, ms, hfinal, ?_, htitle, howner, ?_, hsays⟩
  · rw [hbegins.conversations, hconversations]
    rfl
  · rw [hms, hmessages]
    rfl

end ChatRelay.Generation
