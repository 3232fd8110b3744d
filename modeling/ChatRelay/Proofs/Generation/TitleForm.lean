import ChatRelay.Proofs.Generation.Announcement
import ChatRelay.Proofs.Operations
import ChatRelay.Proofs.Service.Turns
import ChatRelay.Proofs.Title.Normal

/-!
# Stored titles can be shown

A title is stored when a conversation is created, when it is renamed and when a job has
found one, and each of these writers cleans it up in a way of its own. What they have in
common is told of their calls: the titles that a call gives can be shown
(`serve_givesPresentable`), so those in the store can, whoever takes turns
(`Chain.titlesPresentable`).

The titles of a job can be told from the others, since a generation gives none by an
update before it leaves the job (`serve_generate_makes`).
-/

namespace ChatRelay

open Title (Presentable)

/-! ## Calls that give titles -/

/-- All titles in the store can be shown. -/
def Store.TitlesPresentable (s : Store) : Prop :=
  ∀ row ∈ s.conversations, ∃ title, row.title = .text title ∧ Presentable title

namespace Service

variable {σ ι : Type} {env : Environment σ} {w w' : World σ}

/-- The title that a call gives to a conversation. -/
def Call.title? : Call → Option String
  | .createConversation _ title _ => some title
  | .updateConversation u => u.title
  | _ => none

/-- What the call gives for a title, if it gives one, is such a title. -/
def Call.Gives (P : String → Prop) (c : Call) : Prop := ∀ title ∈ c.title?, P title

theorem Call.gives_of_eq_none {P : String → Prop} {c : Call} (h : c.title? = none) : c.Gives P := by
  intro title htitle
  rw [h] at htitle
  cases htitle

/-- A call that gives no other titles leaves none that cannot be shown. -/
theorem World.step_titlesPresentable (h : w.store.TitlesPresentable) {c : Call}
    (hc : c.Gives Presentable) : (w.step env c).2.store.TitlesPresentable := by
  have halters := w.alters_step env c
  generalize (w.step env c).1 = a, (w.step env c).2 = w' at halters ⊢
  cases halters with
  | nothing _ hstore => rwa [hstore]
  | @create owner title status c hnewest _ hstore =>
    intro row hrow
    rw [hstore] at hrow
    rcases List.mem_append.1 hrow with hrow | hrow
    · exact h row hrow
    · rw [List.mem_singleton.1 hrow, hnewest]
      exact ⟨title, rfl, hc title rfl⟩
  | @update u _ hrow' hstore =>
    intro row hrow
    rw [hstore, Store.update, hrow'] at hrow
    obtain ⟨before, hbefore, rfl⟩ := List.mem_map.1 hrow
    obtain ⟨title, htitle, hshown⟩ := h before hbefore
    split
    · cases hgiven : u.title with
      | none => exact ⟨title, by simpa [Store.ConversationRow.change, hgiven] using htitle, hshown⟩
      | some given =>
        exact ⟨given, by simp [Store.ConversationRow.change, hgiven], hc given hgiven⟩
    · exact ⟨title, htitle, hshown⟩
  | delete _ hstore =>
    intro row hrow
    rw [hstore] at hrow
    exact h row (List.mem_filter.1 hrow).1
  | addMessage _ _ _ hstore =>
    rw [hstore]
    exact h

theorem World.Takes.titlesPresentable {c : Call} {a : c.Answer} (h : w.Takes env c a w')
    (hw : w.store.TitlesPresentable) (hc : c.Gives Presentable) : w'.store.TitlesPresentable := by
  cases h with
  | store => exact World.step_titlesPresentable hw hc
  | elsewhere _ _ hstore => rwa [hstore]

/-- As long as no call gives another title, the titles in the store can be shown at every turn, by
induction on the turns. -/
theorem Chain.titlesPresentable {log : List (Turn ι σ)} (h : Chain env w log w')
    (hw : w.store.TitlesPresentable) (hcalls : ∀ t ∈ log, t.made.call.Gives Presentable) :
    (∀ t ∈ log, t.after.store.TitlesPresentable) ∧ w'.store.TitlesPresentable := by
  induction log generalizing w with
  | nil =>
    rw [Chain] at h
    exact ⟨List.forall_mem_nil _, h ▸ hw⟩
  | cons t log ih =>
    obtain ⟨rfl, htakes, hrest⟩ := h
    obtain ⟨hfirst, hothers⟩ := List.forall_mem_cons.1 hcalls
    have hafter := htakes.titlesPresentable hw hfirst
    obtain ⟨hall, hlast⟩ := ih hrest hafter hothers
    exact ⟨List.forall_mem_cons.2 ⟨hafter, hall⟩, hlast⟩

end Service

/-! ## What is written by whom -/

namespace Title

/-- The title that is found in an answer can be shown. -/
theorem presentable_of_ofAnswer {answer title : String}
    (h : (Decomposition.ofAnswer answer).title = some title) : Presentable title := by
  rw [Decomposition.ofAnswer] at h
  split at h
  · cases h
  · rename_i after _
    have hstripped := Text.trim_stripped (titleLine after).1
    dsimp only at h
    rw [Scanner.titleOfLine_eq] at h
    split at h
    · cases h
    · cases h
      exact presentable_ofList ‹_› hstripped.front hstripped.back

end Title

namespace Generation

open Service (Answered Call Program)
open Service.Program (perform)
open Title (FromReply Scanner)

/-- If the call gives a title, it is the first of a conversation, and it can be shown. -/
def GivesFirst : Call → Prop
  | .createConversation _ title _ => Presentable title
  | .updateConversation u => u.title = none
  | _ => True

theorem GivesFirst.gives {c : Call} (h : GivesFirst c) : c.Gives Presentable := by
  cases c with
  | createConversation owner given status =>
    rintro title ⟨⟩
    exact h
  | updateConversation u => exact Call.gives_of_eq_none h
  | _ => exact Call.gives_of_eq_none rfl

theorem IsOpeningCall.givesFirst {c : Call} (h : IsOpeningCall c) : GivesFirst c := by
  cases c with
  | createConversation | updateConversation => exact h.elim
  | _ => trivial

theorem Delivers.givesFirst {c : Call} (h : Delivers c) : GivesFirst c := by
  obtain ⟨e, rfl⟩ := h
  trivial

namespace Opened

theorem IsKeepingCall.givesFirst {c : Call} (h : IsKeepingCall c) : GivesFirst c := by
  cases c with
  | createConversation => exact h.elim
  | updateConversation u => exact h
  | _ => trivial

/-- What the scanner of a whole answer takes for its title can be shown. -/
theorem title_presentable {g : Opened} {scanner : Scanner} (h : g.outcome = .ok scanner) :
    Presentable (scanner.title?.getD Title.placeholder) := by
  cases htitle : scanner.title? with
  | none => exact Title.presentable_placeholder
  | some title =>
    rw [outcome] at h
    split at h
    · cases h
    · rename_i hfailure
      cases h
      rw [scanned, hfailure, Scanner.readAll_title] at htitle
      exact Title.presentable_of_ofAnswer htitle

/-- A conversation that is created has the title of the answer, or the placeholder. -/
theorem close_givesFirst {g : Opened} {scanner : Scanner}
    (h : Presentable (scanner.title?.getD Title.placeholder)) :
    (g.close scanner).Does GivesFirst fun _ => True := by
  have hexchange : ∀ c, (g.keepExchange c scanner.visibleContent).Does GivesFirst fun _ => True :=
    fun c => (g.keepExchange_keeping c _).imp fun _ h => IsKeepingCall.givesFirst h
  have hview : ∀ c, (g.loadView c).Does GivesFirst fun _ => True :=
    fun c => (g.loadView_keeping c).imp fun _ h => IsKeepingCall.givesFirst h
  have hcreate : (g.createConversation scanner.title?).Does GivesFirst fun _ => True := by
    refine .bind (.perform h fun _ => trivial) fun r _ => ?_
    cases r with
    | ok c => exact .pure trivial
    | error e => exact .bind (.perform trivial fun _ => trivial) fun _ _ => .pure trivial
  rw [close]
  split
  · exact .pure trivial
  · split
    · exact (hexchange _).bind fun _ _ => .pure trivial
    · refine hcreate.bind fun created _ => ?_
      cases created with
      | none => exact .pure trivial
      | some c => exact (hexchange c).bind fun _ _ => (hview c).bind fun _ _ => .pure trivial

theorem run_givesFirst (g : Opened) : g.run.Does GivesFirst fun _ => True := by
  have hsend : ∀ events, (sendAll events).Does GivesFirst fun _ => True :=
    fun events => (sendAll_delivers events).imp fun _ h => h.givesFirst
  have hpass : g.pass.Does GivesFirst fun r => ∀ scanner, r = .ok scanner →
      g.outcome = .ok scanner := by
    rw [pass_eq]
    refine (hsend g.passed).bind fun r _ => ?_
    cases r with
    | error e => exact .pure nofun
    | ok _ => exact .pure fun _ h => h
  rw [run_eq]
  refine hpass.bind fun r hr => ?_
  cases r with
  | error e => exact .pure trivial
  | ok scanner =>
    have hclose : (g.close scanner).Does GivesFirst fun _ => True :=
      close_givesFirst (title_presentable (hr scanner rfl))
    exact hclose.bind fun rest _ => (hsend rest.1).bind fun _ _ => .pure trivial

end Opened

theorem generate_givesFirst (settings : AiSettings) (caller : Option UserId)
    (request : GenerationRequest) :
    (generate settings caller request).Does GivesFirst fun _ => True := by
  have hstart := (start_does settings caller request).imp fun _ h => h.givesFirst
  refine hstart.bind fun r _ => ?_
  cases r with
  | error e => exact .pure trivial
  | ok g => exact g.run_givesFirst

namespace TitleJob

/-- After a reply a job gives no title but the one that is made of it, and without a reply none. -/
theorem run_gives (job : TitleJob) :
    ∃ next, job.run = perform (.complete job.settings job.request) >>= next ∧
      (∀ e, (next (.error e)).Does (·.Gives fun _ => False) fun _ => True) ∧
      ∀ reply, (next (.ok reply)).Does (·.Gives (· = Title.normalizeTitle reply.content))
        fun _ => True := by
  have hreport : ∀ (P : String → Prop) kind detail,
      (reportFor job.uid kind detail).Does (·.Gives P) fun _ => True :=
    fun _ _ _ => .perform (Call.gives_of_eq_none rfl) fun _ => trivial
  refine ⟨_, rfl, fun e => hreport _ _ _, fun reply => ?_⟩
  dsimp only
  split
  · exact hreport _ _ _
  · have hupdate : (Call.updateConversation
        { uid := job.uid, title := some (Title.normalizeTitle reply.content) }).Gives
          (· = Title.normalizeTitle reply.content) := by
      rintro title ⟨⟩
      rfl
    refine .bind (.perform hupdate fun _ => trivial) fun updated _ => ?_
    cases updated with
    | error e => exact hreport _ _ _
    | ok c =>
      refine .bind (.perform (Call.gives_of_eq_none rfl) fun _ => trivial) fun heard _ => ?_
      split
      · exact .pure trivial
      · exact hreport _ _ _

theorem run_givesPresentable (job : TitleJob) :
    job.run.Does (·.Gives Presentable) fun _ => True := by
  obtain ⟨next, hrun, herror, hok⟩ := job.run_gives
  rw [hrun]
  refine .bind (.perform (Call.gives_of_eq_none rfl) fun _ => trivial) fun r _ => ?_
  cases r with
  | error e => exact (herror e).imp fun _ hc title htitle => (hc title htitle).elim
  | ok reply =>
    refine (hok reply).imp fun _ hc title htitle => ?_
    rw [hc title htitle]
    exact Title.normalizeTitle_presentable _

/-- A title that a job gives is made of the reply that it was given. -/
theorem run_makes (job : TitleJob) {calls : List Answered} (h : job.run.Makes calls ())
    {a : Answered} (ha : a ∈ calls) {title : String} (htitle : title ∈ a.call.title?) :
    ∃ reply, ⟨.complete job.settings job.request, .ok reply⟩ ∈ calls ∧
      title = Title.normalizeTitle reply.content := by
  obtain ⟨next, hrun, herror, hok⟩ := job.run_gives
  rw [hrun, Program.makes_perform_bind] at h
  obtain ⟨r, rest, rfl, hrest⟩ := h
  rcases List.mem_cons.1 ha with rfl | hlater
  · cases htitle
  · cases r with
    | error e => exact (((herror e).makes hrest).1 a hlater title htitle).elim
    | ok reply =>
      exact ⟨reply, List.mem_cons_self, ((hok reply).makes hrest).1 a hlater title htitle⟩

end TitleJob

end Generation

namespace Service.Conversations

open Program (perform)

theorem perform_givesPresentable {c : Call} (h : c.title? = none) :
    (perform c).Does (·.Gives Presentable) fun _ => True :=
  .perform (Call.gives_of_eq_none h) fun _ => trivial

theorem list_givesPresentable (caller : Option UserId) :
    (list caller).Does (·.Gives Presentable) fun _ => True := by
  cases caller with
  | none => exact .pure trivial
  | some owner => exact (perform_givesPresentable rfl).bind fun _ _ => .pure trivial

theorem owned_givesPresentable (owner : UserId) (uid : String) :
    (owned owner uid).Does (·.Gives Presentable) fun _ => True := by
  refine (perform_givesPresentable rfl).bind fun r _ => ?_
  rcases r with e | _ | c <;> exact .pure trivial

theorem get_givesPresentable (caller : Option UserId) (uid : String) :
    (get caller uid).Does (·.Gives Presentable) fun _ => True := by
  cases caller with
  | none => exact .pure trivial
  | some owner => exact owned_givesPresentable owner uid

/-- What is left of a title is refused when it is empty. -/
theorem rename_givesPresentable (caller : Option UserId) (uid title : String) :
    (rename caller uid title).Does (·.Gives Presentable) fun _ => True := by
  cases caller with
  | none => exact .pure trivial
  | some owner =>
    rw [rename]
    split
    · exact .pure trivial
    · rename_i hne
      have hupdate : (Call.updateConversation
          { uid, title := some (Text.trimText title) }).Gives Presentable := by
        rintro given ⟨⟩
        exact Title.presentable_trimText hne
      refine (owned_givesPresentable owner uid).bind fun r _ => ?_
      cases r with
      | error e => exact .pure trivial
      | ok c => exact .bind (.perform hupdate fun _ => trivial) fun _ _ => .pure trivial

theorem delete_givesPresentable (caller : Option UserId) (uid : String) :
    (delete caller uid).Does (·.Gives Presentable) fun _ => True := by
  cases caller with
  | none => exact .pure trivial
  | some owner =>
    refine (owned_givesPresentable owner uid).bind fun r _ => ?_
    cases r with
    | error e => exact .pure trivial
    | ok c => exact (perform_givesPresentable rfl).bind fun _ _ => .pure trivial

end Service.Conversations

/-! ## The service -/

namespace Operation

open Generation (GenerationRequest GivesFirst TitleJob generate_givesFirst)
open Service (Answered Call Environment Interleaved Program Turn World callsOf)
open Title (FromReply)

variable {σ ι : Type}

/-- What the service does when somebody asks for an operation, who may not have signed in. A job
that is left is done as well. -/
def serve (caller : Option UserId) : Operation → Program Unit
  | .list => Service.Conversations.list caller >>= fun _ => pure ()
  | .get uid => Service.Conversations.get caller uid >>= fun _ => pure ()
  | .rename uid title => Service.Conversations.rename caller uid title >>= fun _ => pure ()
  | .delete uid => Service.Conversations.delete caller uid >>= fun _ => pure ()
  | .generate settings request =>
    Generation.generate settings caller request >>= fun (_, job) => TitleJob.runLeft job

/-- The service gives only titles that can be shown. -/
theorem serve_givesPresentable (caller : Option UserId) (op : Operation) :
    (op.serve caller).Does (·.Gives Presentable) fun _ => True := by
  cases op with
  | list =>
    exact (Service.Conversations.list_givesPresentable caller).bind fun _ _ => .pure trivial
  | get uid =>
    exact (Service.Conversations.get_givesPresentable caller uid).bind fun _ _ => .pure trivial
  | rename uid title =>
    have hrename := Service.Conversations.rename_givesPresentable caller uid title
    exact hrename.bind fun _ _ => .pure trivial
  | delete uid =>
    exact (Service.Conversations.delete_givesPresentable caller uid).bind fun _ _ => .pure trivial
  | generate settings request =>
    have hgenerate := (generate_givesFirst settings caller request).imp fun _ h => h.gives
    refine hgenerate.bind fun r _ => ?_
    rcases r with ⟨_, _ | job⟩
    · exact .pure trivial
    · exact job.run_givesPresentable

/-- What a generation gives for a title to a conversation that is there is made by its job, of the
reply to its question. -/
theorem serve_generate_makes {caller : Option UserId} {settings : AiSettings}
    {request : GenerationRequest} {calls : List Answered}
    (h : ((generate settings request).serve caller).Makes calls ()) {u : Store.Update}
    {answer : (Call.updateConversation u).Answer} (hu : ⟨.updateConversation u, answer⟩ ∈ calls)
    {title : String} (htitle : u.title = some title) :
    ∃ job : TitleJob, ∃ reply, ⟨.complete job.settings job.request, .ok reply⟩ ∈ calls ∧
      title = Title.normalizeTitle reply.content := by
  obtain ⟨first, rest, ⟨_, job⟩, rfl, hfirst, hrest⟩ := Program.makes_bind.1 h
  rcases List.mem_append.1 hu with hu | hu
  · have hgives : GivesFirst (.updateConversation u) :=
      ((generate_givesFirst settings caller request).makes hfirst).1 _ hu
    rw [show u.title = none from hgives] at htitle
    cases htitle
  · cases job with
    | none =>
      obtain ⟨rfl, -⟩ := hrest
      cases hu
    | some job =>
      obtain ⟨reply, hreply, hmade⟩ := job.run_makes hrest hu htitle
      exact ⟨job, reply, List.mem_append_right _ hreply, hmade⟩

/-- However the service is used from the beginning, every stored title can be shown at every turn.
What a generation gives for a title to the conversation that it has created is made of the reply
that its job was given: the placeholder, a piece of the reply or the beginning of one. -/
theorem titles_presentable [DecidableEq ι] {asked : ι → Option UserId × Operation}
    {env : Environment σ} {w w' : World σ} {log : List (Turn ι σ)} (hempty : w.store = {})
    (h : Interleaved env (fun i => (asked i).2.serve (asked i).1) w log w') :
    (∀ t ∈ log, t.after.store.TitlesPresentable) ∧ w'.store.TitlesPresentable ∧
      ∀ i settings request, (asked i).2 = .generate settings request →
        ∀ u answer title, ⟨.updateConversation u, answer⟩ ∈ callsOf i log →
          u.title = some title →
          title.length ≤ 53 ∧
            ∃ job : TitleJob, ∃ reply,
              ⟨.complete job.settings job.request, .ok reply⟩ ∈ callsOf i log ∧
                FromReply reply.content title := by
  have hstart : w.store.TitlesPresentable := by
    rw [hempty]
    exact List.forall_mem_nil _
  have hgives : ∀ t ∈ log, t.made.call.Gives Presentable := fun t ht => by
    have hcall : t.made ∈ callsOf t.party log :=
      List.mem_map_of_mem (List.mem_filter.2 ⟨ht, decide_eq_true rfl⟩)
    exact ((serve_givesPresentable _ _).makes (h.makes t.party)).1 _ hcall
  obtain ⟨hturns, hlast⟩ := h.chain.titlesPresentable hstart hgives
  refine ⟨hturns, hlast, fun i settings request hi u answer title hu htitle => ?_⟩
  have hmakes : ((generate settings request).serve (asked i).1).Makes (callsOf i log) () :=
    hi ▸ h.makes i
  obtain ⟨job, reply, hreply, rfl⟩ := serve_generate_makes hmakes hu htitle
  have hfrom := Title.normalizeTitle_fromReply reply.content
  exact ⟨hfrom.length_le, job, reply, hreply, hfrom⟩

/-- Ada's question cannot be kept. She renames the new conversation while its job waits for the
provider. Then the job stores the beginning of the reply, which is cut in the middle of some
blanks. -/
theorem titles_presentable_late_title :
    let env : Environment Unit :=
      { clock := fun _ => ⟨0, 0⟩
        ids := Uuid.ofNat
        provider :=
          { create := fun _ => .ok ()
            stream := fun _ _ _ => ([.ok (.textDelta "Grind it fresh.")], ())
            complete := fun _ _ _ =>
              (.ok ⟨"", " \"A comparison of several ways to brew café crème   at home\" ", "model",
                .endTurn, {}⟩, ()) } }
    let settings : AiSettings := ⟨some "http://localhost", some "key", some "model"⟩
    let asked : Fin 2 → Option UserId × Operation
      | 0 => (some ⟨"ada"⟩, .generate settings { messages := [⟨.user, "How do I brew coffee?"⟩] })
      | 1 => (some ⟨"ada"⟩, .rename (Uuid.ofNat 1).text "\u3000Coffee\n")
    let w : World Unit :=
      { provider := ()
        faults := fun
          | .createMessage => [.fails .notFound]
          | _ => [] }
    let order := List.replicate 14 0 ++ [1, 1, 0, 0]
    let parties (i : Fin 2) := (asked i).2.serve (asked i).1
    let run := Service.takeTurns env order parties w
    let titles (i : Fin 2) := (callsOf i run.1).filterMap (·.call.title?)
    titles 0 = [Title.placeholder, "A comparison of several ways to brew café crème..."] ∧
      titles 1 = ["Coffee"] ∧ (∀ t ∈ run.1, t.after.store.TitlesPresentable) ∧
      ∀ u answer title, ⟨.updateConversation u, answer⟩ ∈ callsOf 0 run.1 →
        u.title = some title → title.length ≤ 53 := by
  intro env settings asked w order parties run titles
  obtain ⟨hdone, hgiven, hrenamed⟩ :
      (∀ i, ((Service.takeTurns env order parties w).2.1 i).isDone = true) ∧
        titles 0 = [Title.placeholder, "A comparison of several ways to brew café crème..."] ∧
        titles 1 = ["Coffee"] := by
    decide +kernel
  have hserved := Service.interleaved_takeTurns hdone
  obtain ⟨hturns, -, hjobs⟩ := @titles_presentable Unit (Fin 2) _ asked env w _ _ rfl hserved
  refine ⟨hgiven, hrenamed, hturns, fun u answer title hu htitle => ?_⟩
  exact (hjobs 0 _ _ rfl u answer title hu htitle).1

end Operation

end ChatRelay
