import ChatRelay.Proofs.Generation.TitleRequest
import ChatRelay.Proofs.Service.Always

/-!
# Titles that are told are stored

The caller is told of a new conversation, and of its title, with a view. It comes from
what was read back, from what was created, or from what an update has returned, and any
call to the store may fail in between. `Shows` is what it has in common with the store
at that moment, whichever of these it comes from.

A job for a title stores what it finds before it tells the caller, and reports what it
could not do (`TitleJob.Ends`, `TitleJob.Accounts`).
-/

namespace ChatRelay.Generation

open Completion (ProviderError Reply)
open Service (Answered Call Environment Program World createdIn)
open Service.Program (perform)
open Store (ConversationRow StoreError storedTime)
open Time (Instant)
open Title (Scanner)

variable {σ : Type}

/-- The conversation that an event tells of, as new or as having its title. -/
def Event.told? : Event → Option ConversationView
  | .sessionUpdated view _ | .titleGenerated view _ => some view
  | _ => none

/-- A conversation is in a store as its owner is told of it: it is one of those that were created,
there is no other with its handle, it belongs to the caller, and it has the title of the view. -/
structure Shows (caller : Option UserId) (created : List Conversation) (s : Store)
    (view : ConversationView) : Prop where
  created : ∃ c ∈ created, c.uid = view.uid
  stored : ∃ row owner, s.rowsOf view.uid = [row] ∧ caller = some owner ∧
    row.owner = .text owner.text ∧ row.title = .text view.title

/-- If the call tells of a conversation, the store shows it when the call is made. -/
def Truthful (caller : Option UserId) (created : List Conversation) (w : World σ)
    (a : Answered) : Prop :=
  ∀ e view, a.call = .deliver e → e.told? = some view → Shows caller created w.store view

variable {env : Environment σ} {w : World σ} {caller : Option UserId}
  {created : List Conversation} {c : Conversation} {view : ConversationView}

/-- A conversation that is kept, with its title or another one, is shown as it is. -/
theorem shows_of_keeps {s : Store} {title : String} (h : s.Keeps { c with title })
    (hcaller : caller = some c.owner) (hcreated : ∃ c' ∈ created, c'.uid = c.uid)
    (huid : view.uid = c.uid) (htitle : view.title = title) : Shows caller created s view := by
  obtain ⟨t, -, hrow⟩ := h.row
  refine ⟨huid ▸ hcreated, _, _, huid ▸ hrow, hcaller, rfl, ?_⟩
  rw [htitle]
  rfl

/-- A program that sends nothing tells of nothing. -/
theorem truthful_of_silent {α : Type} {p : Program α} (h : p.Silent) :
    p.Always env (Truthful caller created) w :=
  h.always fun _ _ hsilent e _ he _ => absurd he (hsilent e)

theorem reportFor_truthful (uid : String) (kind : DiagnosticKind) (detail : String) :
    (reportFor uid kind detail).Always env (Truthful caller created) w :=
  truthful_of_silent (.perform fun _ => nofun)

theorem createdIn_append (l l' : List Answered) :
    createdIn (l ++ l') = createdIn l ++ createdIn l' :=
  List.filterMap_append

/-! ## Sending -/

/-- Sending leaves the store as it is, so what is true at first is true of all events. -/
theorem sendAll_truthful {events : List Event}
    (h : ∀ e ∈ events, ∀ view, e.told? = some view → Shows caller created w.store view) :
    (sendAll events).Always env (Truthful caller created) w := by
  induction events generalizing w with
  | nil => exact Program.always_pure _
  | cons e events ih =>
    obtain ⟨hfirst, hrest⟩ := List.forall_mem_cons.1 h
    have hcall : Truthful caller created w ⟨.deliver e, (w.step env (.deliver e)).1⟩ := by
      rintro _ view ⟨⟩ hview
      exact hfirst view hview
    have hsend : (send e).Always env (Truthful caller created) w :=
      Program.always_bind.2 ⟨Program.always_perform.2 hcall, Program.always_pure _⟩
    refine Program.always_bind.2 ⟨hsend, ?_⟩
    rw [send_run]
    cases Service.hasRoom w.room [e] with
    | false => exact Program.always_pure _
    | true => exact ih hrest

theorem told?_of_mem_announcement {title : Option String} {e : Event}
    (he : e ∈ Opened.announcement view title ++ [.outputEnd none]) {view' : ConversationView}
    (hview : e.told? = some view') : view' = view := by
  have hall : ∀ e ∈ Opened.announcement view title ++ [.outputEnd none],
      ∀ view', e.told? = some view' → view = view' := by
    cases title <;> simp [Opened.announcement, Event.told?]
  exact (hall e he view' hview).symm

namespace Opened

variable {g : Opened}

/-- What is sent of an answer tells of no conversation. -/
theorem told?_of_mem_passed {e : Event} (he : e ∈ g.passed) : e.told? = none := by
  rw [passed] at he
  rcases List.mem_append.1 he with he | he
  · rcases List.mem_cons.1 he with rfl | he
    · rfl
    · obtain ⟨text, -, rfl⟩ := List.mem_map.1 he
      rfl
  · split at he
    · rw [List.mem_singleton.1 he]
      rfl
    · cases he

theorem pass_truthful : g.pass.Always env (Truthful caller created) w := by
  rw [pass_eq]
  refine Program.always_bind.2 ⟨sendAll_truthful fun e he view hview => ?_, ?_⟩
  · rw [told?_of_mem_passed he] at hview
    cases hview
  · split <;> exact Program.always_pure _

/-! ## Keeping the exchange -/

/-- The calls that an exchange is kept with, and that a view of the conversation is read with: they
add messages, mark the conversation as changed, read it back and report. -/
def IsKeepingCall : Call → Prop
  | .createMessage .. | .getConversation _ | .report _ => True
  | .updateConversation u => u.title = none
  | _ => False

theorem IsKeepingCall.keepsTitles {call : Call} (h : IsKeepingCall call) : call.KeepsTitles := by
  cases call with
  | updateConversation u => exact h
  | deleteConversation f => exact h
  | _ => trivial

theorem reportFor_keeping (uid : String) (kind : DiagnosticKind) (detail : String) :
    (reportFor uid kind detail).Does IsKeepingCall fun _ => True :=
  .perform trivial fun _ => trivial

theorem keepMessage_keeping (role : Role) (what content : String) :
    (keepMessage c role what content).Does IsKeepingCall fun _ => True := by
  refine .bind (.perform trivial fun _ => trivial) fun r _ => ?_
  cases r with
  | ok m => exact .pure trivial
  | error e => exact reportFor_keeping _ _ _

theorem keepInputs_keeping (inputs : List Completion.Message) :
    (keepInputs c inputs).Does IsKeepingCall fun _ => True := by
  induction inputs with
  | nil => exact .pure trivial
  | cons m inputs ih =>
    have hfirst : (if m.role = .user then keepMessage c .user "user" m.content
        else pure ()).Does IsKeepingCall fun _ => True := by
      split
      · exact keepMessage_keeping _ _ _
      · exact .pure trivial
    rw [keepInputs_cons]
    exact hfirst.bind fun _ _ => ih

/-- That the conversation counts as changed gives it no other title. -/
theorem keepExchange_keeping (g : Opened) (c : Conversation) (content : String) :
    (g.keepExchange c content).Does IsKeepingCall fun _ => True := by
  rw [keepExchange_eq]
  refine .bind (keepInputs_keeping _) fun _ _ => ?_
  refine .bind (keepMessage_keeping _ _ _) fun _ _ => ?_
  refine .bind (.perform rfl fun _ => trivial) fun r _ => ?_
  cases r with
  | ok c => exact .pure trivial
  | error e => exact reportFor_keeping _ _ _

theorem loadView_keeping (g : Opened) (c : Conversation) :
    (g.loadView c).Does IsKeepingCall fun _ => True := by
  refine .bind (.perform trivial fun _ => trivial) fun r _ => ?_
  rcases r with e | _ | c' <;> exact .pure trivial

/-- Whether or not a conversation that is kept can be read back, its view has its handle and its
title. -/
theorem loadView_of_keeps (g : Opened) (env : Environment σ) (h : w.store.Keeps c) :
    ((g.loadView c).run env w).1.uid = c.uid ∧ ((g.loadView c).run env w).1.title = c.title := by
  have hf : (Call.getConversation ((Filter.byUid c.uid).ownedBy g.owner)).act? env w = some _ := rfl
  simp only [loadView, Program.run_bind_eq, Program.run_perform]
  obtain ⟨faults, hstep | ⟨a, ⟨e, rfl⟩ | rfl, hstep⟩⟩ := World.step_cases_self hf
  · rw [hstep]
    dsimp only
    rcases hread : w.store.get ((Filter.byUid c.uid).ownedBy g.owner) with e | _ | found
    · exact ⟨rfl, rfl⟩
    · exact ⟨rfl, rfl⟩
    · exact h.of_get hread
  · rw [hstep]
    exact ⟨rfl, rfl⟩
  · rw [hstep]
    exact ⟨rfl, rfl⟩

/-- What is known of the end of a generation: what it has still to tell is so, and a job that it
leaves is about a conversation that it has created and that is there. -/
structure Tells (g : Opened) (created : List Conversation) (rest : List Event × Option TitleJob)
    (s : Store) : Prop where
  events : ∀ e ∈ rest.1, ∀ view, e.told? = some view → Shows (some g.owner) created s view
  job : ∀ job, rest.2 = some job → ∃ c ∈ created, c.owner = g.owner ∧ c.uid = job.uid ∧ s.Keeps c

theorem tells_plain {s : Store} : g.Tells created ([.outputEnd none], none) s where
  events e he view hview := by
    rw [List.mem_singleton.1 he] at hview
    cases hview
  job _ hjob := by cases hjob

/-- That more conversations were created makes no difference. -/
theorem Tells.mono {created' : List Conversation} {rest : List Event × Option TitleJob} {s : Store}
    (h : g.Tells created rest s) (hsub : created ⊆ created') : g.Tells created' rest s where
  events e he view hview := by
    obtain ⟨⟨c, hc, huid⟩, hstored⟩ := h.events e he view hview
    exact ⟨⟨c, hsub hc, huid⟩, hstored⟩
  job job hjob := by
    obtain ⟨c, hc, hkept⟩ := h.job job hjob
    exact ⟨c, hsub hc, hkept⟩

theorem createConversation_keeps (hclock : ∀ i, (env.clock i).Writable) {title : Option String}
    (h : ((g.createConversation title).run env w).1 = some c) :
    c ∈ createdIn ((g.createConversation title).transcript env w) ∧ c.owner = g.owner ∧
      ((g.createConversation title).run env w).2.store.Keeps c := by
  simp only [createConversation, Program.transcript_bind, Program.transcript_perform,
    Program.run_bind_eq, Program.run_perform] at h ⊢
  cases hanswer : (w.step env (.createConversation g.owner (title.getD Title.placeholder)
    .active)).1 with
  | error e =>
    rw [hanswer] at h
    cases h
  | ok c' =>
    rw [hanswer] at h
    cases h
    exact ⟨List.mem_cons_self, World.keeps_of_created (hclock _) hanswer⟩

/-- A conversation that was created keeps its title up to the end of a generation. -/
theorem close_tells (scanner : Scanner) (hclock : ∀ i, (env.clock i).Writable) (w : World σ) :
    g.Tells (createdIn ((g.close scanner).transcript env w)) ((g.close scanner).run env w).1
      ((g.close scanner).run env w).2.store := by
  rw [close]
  split
  · exact tells_plain
  · split
    · simp only [Program.run_bind_eq, Program.run_pure]
      exact tells_plain
    · simp only [Program.transcript_bind, Program.run_bind_eq]
      cases hcreate : ((g.createConversation scanner.title?).run env w).1 with
      | none => exact tells_plain
      | some c =>
        obtain ⟨hcreated, howner, hnew⟩ := createConversation_keeps hclock hcreate
        have hexchange := (g.keepExchange_keeping c scanner.visibleContent).imp
          fun _ h => h.keepsTitles
        have hread := hexchange.run_keeps_title hclock hnew
        obtain ⟨huid, htitle⟩ := g.loadView_of_keeps env hread
        have hview := (g.loadView_keeping c).imp fun _ h => h.keepsTitles
        have hkept := hview.run_keeps_title hclock hread
        simp only [Program.transcript_bind, Program.run_bind_eq, Program.run_pure]
        rw [createdIn_append]
        refine ⟨fun e he view hview => ?_, fun job hjob => ?_⟩
        · rw [told?_of_mem_announcement he hview]
          exact shows_of_keeps hkept (by rw [howner]) ⟨c, List.mem_append_left _ hcreated, rfl⟩
            huid htitle
        · dsimp only at hjob
          split at hjob <;> cases hjob
          exact ⟨c, List.mem_append_left _ hcreated, howner, rfl, hkept⟩

/-- A run tells of nothing that the store does not show, and leaves a job for a conversation that is
kept. -/
theorem run_tells (hclock : ∀ i, (env.clock i).Writable)
    (hcreated : createdIn (g.run.transcript env w) ⊆ created) :
    g.run.Always env (Truthful (some g.owner) created) w ∧
      g.Tells created ([], (g.run.run env w).1.2) (g.run.run env w).2.store := by
  have hpass : g.pass.Always env (Truthful (some g.owner) created) w := pass_truthful
  rw [run_eq] at hcreated ⊢
  rw [Program.always_bind, Program.run_bind_eq]
  rw [Program.transcript_bind] at hcreated
  generalize (g.pass.run env w).1 = result, (g.pass.run env w).2 = w₁ at *
  cases result with
  | error e =>
    refine ⟨⟨hpass, Program.always_pure _⟩, List.forall_mem_nil _, fun job hjob => ?_⟩
    cases hjob
  | ok scanner =>
    have hsub : createdIn ((g.close scanner).transcript env w₁) ⊆ created := fun c hc => by
      apply hcreated
      simp only [createdIn_append, Program.transcript_bind]
      exact List.mem_append_right _ (List.mem_append_left _ hc)
    have htells := (g.close_tells scanner hclock w₁).mono hsub
    have hclose : (g.close scanner).Always env (Truthful (some g.owner) created) w₁ :=
      truthful_of_silent (g.close_silent scanner)
    simp only [Program.always_bind, Program.run_bind_eq, announceAll, Program.run_pure, sendAll_run]
    exact ⟨⟨hpass, hclose, sendAll_truthful htells.events, Program.always_pure _⟩,
      List.forall_mem_nil _, htells.job⟩

end Opened

/-! ## Jobs -/

namespace TitleJob

/-- What a job reports. -/
def fault (job : TitleJob) (kind : DiagnosticKind) (detail : String) : Answered :=
  reported { kind, uid := some job.uid, detail }

/-- What a job can come to: the calls that it makes, and what it leaves of the store that it finds.
The clock shows `now` when it stores a title. -/
inductive Ends (job : TitleJob) (now : Instant) (s : Store) : List Answered → Store → Prop where
  | noReply (e : ProviderError) :
      Ends job now s
        [⟨.complete job.settings job.request, .error e⟩,
          job.fault .titleRequestFailed ("failed to generate title: " ++ e.message)] s
  | blank {reply : Reply} (hblank : Text.isBlank reply.content = true) :
      Ends job now s
        [⟨.complete job.settings job.request, .ok reply⟩,
          job.fault .titleEmpty "title generation returned an empty response"] s
  | notStored {reply : Reply} (hblank : Text.isBlank reply.content = false) (e : StoreError) :
      Ends job now s
        [⟨.complete job.settings job.request, .ok reply⟩,
          ⟨.updateConversation
            { uid := job.uid, title := some (Title.normalizeTitle reply.content) }, .error e⟩,
          job.fault .titlePersistFailed ("failed to update conversation title: " ++ e.message)] s
  | stored {reply : Reply} (hblank : Text.isBlank reply.content = false) (c : Conversation)
      (heard : Bool) :
      Ends job now s
        (⟨.complete job.settings job.request, .ok reply⟩ ::
          ⟨.updateConversation
            { uid := job.uid, title := some (Title.normalizeTitle reply.content) }, .ok c⟩ ::
          ⟨.deliver (.titleGenerated c.view (some "Title generated")), heard⟩ ::
          if heard then []
          else [job.fault .titleDeliveryFailed "failed to deliver title: event stream closed"])
        (s.retitled job.uid (Title.normalizeTitle reply.content) now)

variable {job : TitleJob}

/-- Telling the caller is one call, and a report if the caller does not listen. -/
theorem tell_transcript (job : TitleJob) (env : Environment σ) (view : ConversationView)
    (w : World σ) : ∃ heard : Bool, (job.tell view).transcript env w =
      ⟨.deliver (.titleGenerated view (some "Title generated")), heard⟩ ::
        if heard then []
        else [job.fault .titleDeliveryFailed "failed to deliver title: event stream closed"] := by
  have hcall : (job.tell view).transcript env w =
      ⟨.deliver (.titleGenerated view (some "Title generated")),
        (w.deliver (.titleGenerated view (some "Title generated"))).1⟩ ::
        (if (w.deliver (.titleGenerated view (some "Title generated"))).1 then pure ()
          else reportFor job.uid .titleDeliveryFailed
            "failed to deliver title: event stream closed").transcript env
          (w.deliver (.titleGenerated view (some "Title generated"))).2 := rfl
  refine ⟨(w.deliver (.titleGenerated view (some "Title generated"))).1, ?_⟩
  rw [hcall]
  cases (w.deliver (.titleGenerated view (some "Title generated"))).1 <;> rfl

theorem tell_truthful (h : Shows caller created w.store view) :
    (job.tell view).Always env (Truthful caller created) w := by
  refine Program.always_bind.2 ⟨Program.always_perform.2 ?_, ?_⟩
  · rintro _ view' ⟨⟩ ⟨⟩
    exact h
  · split
    · exact Program.always_pure _
    · exact reportFor_truthful _ _ _

/-- A job whose conversation is kept comes to one of these ends, and what it tells is so. -/
theorem run_ends (hkept : w.store.Keeps c) (huid : job.uid = c.uid)
    (hnow : (env.clock w.readings).Writable) (hcaller : caller = some c.owner)
    (hcreated : ∃ c' ∈ created, c'.uid = c.uid) :
    job.Ends (env.clock w.readings) w.store (job.run.transcript env w)
        (job.run.run env w).2.store ∧
      job.run.Always env (Truthful caller created) w := by
  have hcomplete : ∀ a, Truthful caller created w ⟨.complete job.settings job.request, a⟩ := by
    rintro a e view ⟨⟩
  obtain ⟨reply, asked, hask, hstore, hreadings⟩ : ∃ reply asked,
      w.step env (.complete job.settings (titleRequest job.settings.model job.firstUserMessage
        job.answer)) = (reply, asked) ∧
      asked.store = w.store ∧ asked.readings = w.readings := ⟨_, _, rfl, rfl, rfl⟩
  rw [← hstore] at hkept ⊢
  rw [← hreadings] at hnow ⊢
  simp only [run, Program.transcript_bind, Program.transcript_perform, Program.run_bind_eq,
    Program.run_perform, Program.always_bind, Program.always_perform, hask]
  rcases reply with e | reply
  · exact ⟨.noReply e, hcomplete _, reportFor_truthful _ _ _⟩
  · dsimp only
    split
    · exact ⟨.blank ‹_›, hcomplete _, reportFor_truthful _ _ _⟩
    · rename_i hblank
      have hblank := Bool.eq_false_iff.2 hblank
      have hupdate : ∀ a, Truthful caller created asked ⟨.updateConversation
          { uid := job.uid, title := some (Title.normalizeTitle reply.content) }, a⟩ := by
        rintro a e view ⟨⟩
      simp only [Program.transcript_bind, Program.transcript_perform, Program.run_bind_eq,
        Program.run_perform, Program.always_bind, Program.always_perform]
      obtain ⟨e, w', hstep, hsame⟩ | ⟨c', w', hstep, hsameUid, htitle, hstored, hkept⟩ :=
        World.step_update_of_keeps hkept hnow huid (Title.normalizeTitle reply.content)
      · simp only [hstep]
        refine ⟨?_, hcomplete _, hupdate _, reportFor_truthful _ _ _⟩
        rw [← hsame]
        exact .notStored hblank e
      · have hshows : Shows caller created w'.store c'.view :=
          shows_of_keeps hkept hcaller hcreated hsameUid htitle
        obtain ⟨heard, htell⟩ := job.tell_transcript env c'.view w'
        obtain ⟨-, hsame⟩ := job.tell_run c'.view env w'
        simp only [hstep]
        refine ⟨?_, hcomplete _, hupdate _, tell_truthful hshows⟩
        have hends : job.Ends (env.clock asked.readings) asked.store _ _ := .stored hblank c' heard
        rw [← htell, ← hstored, ← hsame] at hends
        exact hends

/-- The calls of a job tell that it has stored a title: the provider has replied with more than
blanks, and the conversation was given the title of the reply. -/
def Stored (job : TitleJob) (log : List Answered) (title : String) : Prop :=
  ∃ reply c, ⟨.complete job.settings job.request, .ok reply⟩ ∈ log ∧
    Text.isBlank reply.content = false ∧ Title.normalizeTitle reply.content = title ∧
    ⟨.updateConversation { uid := job.uid, title := some title }, .ok c⟩ ∈ log

/-- What a job can report. -/
def faultKinds : List DiagnosticKind :=
  [.titleRequestFailed, .titleEmpty, .titlePersistFailed, .titleDeliveryFailed]

/-- On the way from one world to another the caller was told of a title, or else one failure of a
job was reported. -/
def HeardOrReported (job : TitleJob) (w w' : World σ) : Prop :=
  (∃ view, w'.delivered = w.delivered ++ [.titleGenerated view (some "Title generated")] ∧
    w'.diagnostics = w.diagnostics) ∨
  w'.delivered = w.delivered ∧ ∃ d, w'.diagnostics = w.diagnostics ++ [d] ∧
    d.uid = some job.uid ∧ d.kind ∈ faultKinds

/-- A job is answerable for what it does: -/
structure Accounts (job : TitleJob) (env : Environment σ) (w : World σ) : Prop where
  /-- when it has stored a title, the title and the time of the last change are all that changes, -/
  stored : ∀ title, job.Stored (job.run.transcript env w) title →
    (job.run.run env w).2.store = w.store.retitled job.uid title (env.clock w.readings)
  /-- and otherwise nothing does; -/
  unchanged : (∀ title, ¬ job.Stored (job.run.transcript env w) title) →
    (job.run.run env w).2.store = w.store
  /-- so the store is another one exactly when a title was stored, unless the same one was stored at
  the same time before; -/
  changes : (∀ row ∈ w.store.rowsOf job.uid,
      row.updatedAt ≠ .text (storedTime (env.clock w.readings).truncate)) →
    ((job.run.run env w).2.store ≠ w.store ↔
      ∃ title, job.Stored (job.run.transcript env w) title)
  /-- it sends an event only after it has stored a title; -/
  sends : ∀ front e heard back,
    job.run.transcript env w = front ++ ⟨.deliver e, heard⟩ :: back →
      ∃ title, job.Stored front title
  /-- and either the event is delivered, or one failure is reported. -/
  reports : job.HeardOrReported w (job.run.run env w).2

variable {now : Instant} {s s' : Store} {log : List Answered}

/-- A job that comes to an end has stored no title and changed nothing, or it has stored one title,
and then sends an event. -/
theorem Ends.stored_cases (h : job.Ends now s log s') :
    ((∀ title, ¬ job.Stored log title) ∧ s' = s ∧ ∀ e heard, ⟨.deliver e, heard⟩ ∉ log) ∨
      ∃ title, (∀ t, job.Stored log t → t = title) ∧ job.Stored log title ∧
        s' = s.retitled job.uid title now ∧
        ∀ front e heard back, log = front ++ ⟨.deliver e, heard⟩ :: back →
          job.Stored front title := by
  cases h with
  | noReply | blank | notStored =>
    exact .inl ⟨by grind [Stored, fault, reported], rfl, by grind [fault, reported]⟩
  | @stored reply hblank c heard =>
    let title := Title.normalizeTitle reply.content
    have hstored : ∀ rest : List Answered,
        job.Stored (⟨.complete job.settings job.request, .ok reply⟩ ::
          ⟨.updateConversation { uid := job.uid, title := some title }, .ok c⟩ :: rest) title :=
      fun _ => ⟨reply, c, List.mem_cons_self, hblank, rfl,
        List.mem_cons_of_mem _ List.mem_cons_self⟩
    refine .inr ⟨_, ?_, hstored _, rfl, fun front e heard back hlog => ?_⟩
    · grind [Stored, fault, reported]
    · obtain ⟨rfl, hfirst⟩ | ⟨front, rfl, hrest⟩ := List.cons_eq_append_iff.1 hlog
      · cases hfirst
      · obtain ⟨rfl, hsecond⟩ | ⟨front, rfl, -⟩ := List.cons_eq_append_iff.1 hrest
        · cases hsecond
        · exact hstored front

/-- A job that comes to an end was heard, or else it has reported one failure. -/
theorem Ends.heardOrReported {w' : World σ} (h : job.Ends now s log s')
    (hdelivered : w'.delivered = w.delivered ++ log.filterMap Answered.taken?)
    (hdiagnostics : w'.diagnostics = w.diagnostics ++ Service.reports log) :
    job.HeardOrReported w w' := by
  cases h with
  | noReply | blank | notStored =>
    exact .inr ⟨hdelivered.trans (List.append_nil _), _, hdiagnostics, rfl, by simp [faultKinds]⟩
  | stored hblank c heard =>
    cases heard with
    | true => exact .inl ⟨c.view, hdelivered, hdiagnostics.trans (List.append_nil _)⟩
    | false =>
      exact .inr ⟨hdelivered.trans (List.append_nil _), _, hdiagnostics, rfl, by simp [faultKinds]⟩

/-- A store in which a conversation was given a title at another time than that of its last change
is another one. -/
theorem retitled_ne {uid title : String} {row : ConversationRow} (hrow : row ∈ s.rowsOf uid)
    (hnow : row.updatedAt ≠ .text (storedTime now.truncate)) : s.retitled uid title now ≠ s := by
  intro hsame
  obtain ⟨hmem, huid⟩ := List.mem_filter.1 hrow
  have hrows := (congrArg Store.conversations hsame).trans (List.map_id s.conversations).symm
  have hrow := List.map_inj_left.1 hrows row hmem
  rw [if_pos huid] at hrow
  exact hnow (congrArg ConversationRow.updatedAt hrow).symm

theorem Ends.accounts (h : job.Ends (env.clock w.readings) w.store (job.run.transcript env w)
    (job.run.run env w).2.store) (hthere : w.store.rowsOf job.uid ≠ []) : job.Accounts env w := by
  have hreports := h.heardOrReported (job.run.run_delivered env w) (job.run.run_diagnostics env w)
  obtain ⟨hnone, hsame, hunsent⟩ | ⟨title, honly, hstored, hchanged, hsends⟩ := h.stored_cases
  · refine ⟨fun title h => absurd h (hnone title), fun _ => hsame, fun _ => ?_, ?_, hreports⟩
    · simp [hsame, hnone]
    · intro front e heard back hlog
      refine absurd ?_ (hunsent e heard)
      rw [hlog]
      exact List.mem_append_right _ List.mem_cons_self
  · refine ⟨fun t ht => ?_, fun h => absurd hstored (h title), fun hnow => ?_, ?_, hreports⟩
    · rw [honly t ht, hchanged]
    · obtain ⟨row, hrow⟩ := List.exists_mem_of_ne_nil _ hthere
      exact ⟨fun _ => ⟨title, hstored⟩, fun _ => hchanged ▸ retitled_ne hrow (hnow row hrow)⟩
    · exact fun front e heard back hlog => ⟨title, hsends front e heard back hlog⟩

end TitleJob

/-! ## Whole runs -/

/-- What a generation and its job tell the caller of a conversation is so when it is told, whatever
the store, the faults, the provider and the room for events are: the conversation is in the store,
it belongs to the caller and was created by the generation, and it has the title that the caller is
told. The job may be done at any later time, with whatever was done in between but to delete the
conversation, and it accounts for what it does. -/
theorem generate_tells_stored_titles (env : Environment σ) (hclock : ∀ i, (env.clock i).Writable)
    (settings : AiSettings) (caller : Option UserId) (request : GenerationRequest) (w : World σ) :
    let full := (generate settings caller request).run env w
    let created := createdIn ((generate settings caller request).transcript env w)
    (generate settings caller request).Always env (Truthful caller created) w ∧
    ∀ job, full.1.2 = some job → ∀ (β : Type) (others : Program β),
      others.Does (fun call => ∀ row ∈ full.2.store.rowsOf job.uid, call.SparesRow row)
        (fun _ => True) →
      ∀ (env' : Environment σ) (later : World σ), (∀ i, (env'.clock i).Writable) →
        later.store = (others.run env full.2).2.store →
        job.run.Always env' (Truthful caller created) later ∧ job.Accounts env' later := by
  dsimp only
  have hopening : (start settings caller request).Always env (Truthful caller
      (createdIn ((generate settings caller request).transcript env w))) w :=
    truthful_of_silent (start_silent settings caller request)
  rcases hstart : (start settings caller request).run env w with ⟨e | g, w₁⟩
  · rw [generate_run, generate, Program.always_bind, hstart]
    refine ⟨⟨hopening, Program.always_pure _⟩, fun job hjob => ?_⟩
    cases hjob
  · have hcaller := (start_run_ok (congrArg Prod.fst hstart)).owner
    subst hcaller
    have hlog := generate_transcript env (congrArg Prod.fst hstart)
    rw [hstart] at hlog
    rw [hlog, createdIn_append, createdIn_start, List.nil_append] at hopening ⊢
    obtain ⟨htruthful, htells⟩ := g.run_tells hclock (List.Subset.refl (createdIn
      (g.run.transcript env w₁)))
    rw [generate_run, generate, Program.always_bind, hstart]
    refine ⟨⟨hopening, htruthful⟩, fun job hjob β others hothers env' later hclock' hlater => ?_⟩
    obtain ⟨c, hcreated, howner, huid, hkept⟩ := htells.job job hjob
    obtain ⟨t, -, hrow⟩ := hkept.row
    have hmem : .ofConversation { c with updatedAt := t } ∈
        (g.run.run env w₁).2.store.rowsOf job.uid := by
      rw [← huid, hrow]
      exact List.mem_singleton.2 rfl
    have hspares : others.Does (·.SparesRow (.ofConversation c)) fun _ => True :=
      hothers.imp fun call hcall f hf => (hcall _ hmem f hf :)
    obtain ⟨title, hlaterKept⟩ := hspares.run_keeps_row hclock hkept
    rw [← hlater] at hlaterKept
    obtain ⟨hends, htold⟩ := TitleJob.run_ends hlaterKept huid.symm (hclock' _)
      (congrArg some howner.symm) ⟨c, hcreated, rfl⟩
    obtain ⟨t', -, hrow'⟩ := hlaterKept.row
    refine ⟨htold, hends.accounts ?_⟩
    rw [← huid]
    exact hrow' ▸ List.cons_ne_nil _ _

/-- A new conversation is not found when it is read back, so that its owner is told of it as it was
created. Somebody else creates another one before the title comes. -/
theorem generate_tells_stored_titles_late :
    let settings : AiSettings := ⟨some "http://localhost", some "key", some "model"⟩
    let caller : Option UserId := some ⟨"ada"⟩
    let request : GenerationRequest := { messages := [⟨.user, "Hello?"⟩] }
    let env : Environment Unit :=
      { clock := fun i => if i < 5 then ⟨0, 0⟩ else ⟨60, 0⟩
        ids := Uuid.ofNat
        provider :=
          { create := fun _ => .ok ()
            stream := fun _ _ _ => ([.ok (.textDelta "Hi.")], ())
            complete := fun _ _ _ => (.ok ⟨"", "A greeting", "model", .endTurn, {}⟩, ()) } }
    let w : World Unit :=
      { provider := ()
        faults := fun
          | .getConversation => [.findsNothing]
          | _ => [] }
    let created := createdIn ((generate settings caller request).transcript env w)
    let job : TitleJob :=
      ⟨⟨"http://localhost", "key", "model"⟩, (Uuid.ofNat 1).text, "Hello?", "Hi."⟩
    let others := perform (.createConversation ⟨"bob"⟩ "Notes" .active)
    let later := (others.run env ((generate settings caller request).run env w).2).2
    let after := (job.run.run env later).2
    ((generate settings caller request).run env w).1.2 = some job ∧
      (generate settings caller request).Always env (Truthful caller created) w ∧
      job.run.Always env (Truthful caller created) later ∧
      (∃ title, after.store = later.store.retitled job.uid title (env.clock later.readings)) ∧
      after.store.conversations.map (·.title) = [.text "A greeting", .text "Notes"] ∧
      after.delivered.map Event.kind =
        [.modelReady, .content, .outputComplete, .sessionUpdated, .outputEnd, .titleGenerated] := by
  intro settings caller request env w created job others later after
  have hstart : (⟨0, 0⟩ : Instant).Writable := ⟨by decide, by decide, .inl (by decide)⟩
  have hend : (⟨60, 0⟩ : Instant).Writable := ⟨by decide, by decide, .inl (by decide)⟩
  have hclock : ∀ i, (env.clock i).Writable := fun i => by
    show (if i < 5 then ⟨0, 0⟩ else ⟨60, 0⟩ : Instant).Writable
    split
    · exact hstart
    · exact hend
  obtain ⟨hjob, hrows, hchanged, htitles, hkinds⟩ :
      ((generate settings caller request).run env w).1.2 = some job ∧
      (∀ row ∈ later.store.rowsOf job.uid,
        row.updatedAt ≠ .text (storedTime (env.clock later.readings).truncate)) ∧
      after.store ≠ later.store ∧
      after.store.conversations.map (·.title) = [.text "A greeting", .text "Notes"] ∧
      after.delivered.map Event.kind =
        [.modelReady, .content, .outputComplete, .sessionUpdated, .outputEnd,
          .titleGenerated] := by
    decide +kernel
  have hspares : others.Does (fun call =>
      ∀ row ∈ ((generate settings caller request).run env w).2.store.rowsOf job.uid,
        call.SparesRow row) fun _ => True := .perform (fun row _ f => nofun) fun _ => trivial
  have hlater : later.store =
      (others.run env ((generate settings caller request).run env w).2).2.store := rfl
  have htold := generate_tells_stored_titles env hclock settings caller request w
  have hlate : job.run.Always env (Truthful caller created) later ∧ job.Accounts env later :=
    htold.2 job hjob _ others hspares env later hclock hlater
  obtain ⟨title, hstored⟩ := (hlate.2.changes hrows).1 hchanged
  exact ⟨hjob, htold.1, hlate.1, ⟨title, hlate.2.stored title hstored⟩, htitles, hkinds⟩

end ChatRelay.Generation
