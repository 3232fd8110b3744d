import ChatRelay.Proofs.Generation.Plan
import ChatRelay.Proofs.Generation.TitleJob
import ChatRelay.Proofs.Service.Keeping

/-!
# What a generation keeps

What the parts of a generation do to the records of a calm world: the messages of
the user are added in order (`keepInputs_becomes`), then the answer, and the
conversation counts as changed (`keepExchange_becomes`). A new conversation is
created first (`close_begun`), and may get another title from a job that is left
(`TitleJob.run_keeps`).
-/

namespace ChatRelay.Generation

open Completion (Message ProviderError Reply)
open Service (Environment Program World)
open Store (Records)
open Time (Instant)
open Title (Scanner)

variable {σ : Type}

/-- The messages of the user, as they are kept. -/
def userTurns (inputs : List Message) : List (Role × String) :=
  (inputs.filter fun m => m.role == .user).map fun m => (.user, m.content)

/-- What is kept of an exchange: the messages of the user, and then the answer. -/
def exchange (inputs : List Message) (answer : String) : List (Role × String) :=
  userTurns inputs ++ [(.assistant, answer)]

/-- The messages belong to a conversation, and what they say, in order. -/
structure Says (ms : List ChatMessage) (id : Uuid) (turns : List (Role × String)) : Prop where
  placed : ∀ m ∈ ms, m.conversationId = id
  turns : ms.map (fun m => (m.role, m.content)) = turns

theorem Says.append {ms ms' : List ChatMessage} {id : Uuid} {turns turns' : List (Role × String)}
    (h : Says ms id turns) (h' : Says ms' id turns') : Says (ms ++ ms') id (turns ++ turns') := by
  refine ⟨fun m hm => ?_, by rw [List.map_append, h.turns, h'.turns]⟩
  exact (List.mem_append.1 hm).elim (h.placed m) (h'.placed m)

theorem userTurns_cons (m : Message) (inputs : List Message) :
    userTurns (m :: inputs) =
      (if m.role = .user then [(.user, m.content)] else []) ++ userTurns inputs := by
  by_cases h : m.role = .user <;> simp [userTurns, h]

namespace Opened

variable {env : Environment σ} {reading : Instant → Prop} {r : Records} {k : Nat} {w : World σ}
  {c : Conversation}

theorem keepMessage_becomes (h : w.Calm env reading r (k + 1))
    (hplace : ∃ c' ∈ r.conversations, c'.id = c.id) (role : Role) (what content : String) :
    ∃ ms, Says ms c.id [(role, content)] ∧
      w.Becomes env reading (r.addMessages ms) k
        ((keepMessage c role what content).run env w).2 := by
  obtain ⟨hanswer, hbecomes⟩ := h.step_createMessage hplace role content
  refine ⟨[World.newMessage env w c.id role content], ⟨by simp [World.newMessage], rfl⟩, ?_⟩
  simp only [keepMessage, Program.run_bind_eq, Program.run_perform, hanswer]
  exact hbecomes

/-- The messages of the user are added in order, by induction on the messages. -/
theorem keepInputs_becomes {inputs : List Message} (h : w.Calm env reading r (k + inputs.length))
    (hplace : ∃ c' ∈ r.conversations, c'.id = c.id) :
    ∃ ms, Says ms c.id (userTurns inputs) ∧
      w.Becomes env reading (r.addMessages ms) k ((keepInputs c inputs).run env w).2 := by
  induction inputs generalizing w r with
  | nil =>
    refine ⟨[], ⟨nofun, rfl⟩, ?_⟩
    rw [Records.addMessages_nil]
    exact h.becomes
  | cons m inputs ih =>
    rw [keepInputs_cons, Program.run_bind_eq, userTurns_cons]
    split
    · obtain ⟨ms, hms, hfirst⟩ := keepMessage_becomes (c := c) h hplace .user "user" m.content
      obtain ⟨ms', hms', hrest⟩ := ih hfirst.toCalm hplace
      refine ⟨ms ++ ms', hms.append hms', ?_⟩
      rw [Records.addMessages_append]
      exact hfirst.trans hrest
    · exact ih (h.becomes.mono (Nat.le_succ _)).toCalm hplace

/-- An exchange is added to a conversation, which counts as changed. -/
theorem keepExchange_becomes {g : Opened} (h : w.Calm env reading r (k + 1 + g.inputs.length))
    (hplace : ∃ c' ∈ r.conversations, c'.id = c.id) (content : String) :
    ∃ ms i, Says ms c.id (exchange g.inputs content) ∧ w.readings ≤ i ∧
      w.Becomes env reading ((r.addMessages ms).change { uid := c.uid } (env.clock i)) k
        ((g.keepExchange c content).run env w).2 := by
  obtain ⟨ms, hms, hinputs⟩ := keepInputs_becomes (c := c) h hplace
  obtain ⟨ms', hms', hanswer⟩ :=
    keepMessage_becomes (c := c) hinputs.toCalm hplace .assistant "assistant" content
  have hadded := hinputs.trans hanswer
  have htouch := hanswer.toCalm.step_updateConversation { uid := c.uid }
  rw [← Records.addMessages_append] at htouch
  have hall := hadded.trans htouch
  refine ⟨ms ++ ms', _, hms.append hms', hadded.readings, ?_⟩
  simp only [keepExchange, Program.run_bind_eq, Program.run_perform]
  split
  · exact hall
  · exact hall.report _

theorem createConversation_becomes {g : Opened} (h : w.Calm env reading r (k + 2))
    (title : Option String) :
    ∃ c, c.owner = g.owner ∧ c.title = title.getD Title.placeholder ∧ c.status = .active ∧
      (∀ c' ∈ r.conversations, c'.uid ≠ c.uid) ∧
      ((g.createConversation title).run env w).1 = some c ∧
      w.Becomes env reading (r.addConversation c) k ((g.createConversation title).run env w).2 := by
  obtain ⟨hnew, hanswer, hbecomes⟩ :=
    h.step_createConversation g.owner (title.getD Title.placeholder) .active
  refine ⟨World.newConversation env w g.owner (title.getD Title.placeholder) .active, rfl, rfl, rfl,
    hnew, ?_⟩
  simp only [createConversation, Program.run_bind_eq, Program.run_perform, hanswer]
  exact ⟨rfl, hbecomes⟩

/-- Looking at a conversation changes nothing. -/
theorem loadView_run (g : Opened) (h : w.Calm env reading r k) (c : Conversation) :
    ((g.loadView c).run env w).2 = w := by
  simp only [loadView, Program.run_bind_eq, Program.run_perform, h.step_getConversation]
  rcases w.store.get ((Filter.byUid c.uid).ownedBy g.owner) with e | _ | c' <;> rfl

/-- A conversation that goes on gets the exchange, and nothing is left to do. -/
theorem close_continued {g : Opened} {scanner : Scanner}
    (h : w.Calm env reading r (k + 1 + g.inputs.length)) (hraw : scanner.raw ≠ [])
    (hexisting : g.existing = some c) (hplace : ∃ c' ∈ r.conversations, c'.id = c.id) :
    ((g.close scanner).run env w).1.2 = none ∧
      ∃ ms i, Says ms c.id (exchange g.inputs scanner.visibleContent) ∧ w.readings ≤ i ∧
        w.Becomes env reading ((r.addMessages ms).change { uid := c.uid } (env.clock i)) k
          ((g.close scanner).run env w).2 := by
  obtain ⟨ms, i, hms, hi, hkept⟩ := keepExchange_becomes h hplace scanner.visibleContent
  simp only [close, hraw, if_false, hexisting, Program.run_bind_eq]
  exact ⟨rfl, ms, i, hms, hi, hkept⟩

/-- A new conversation is created and gets the exchange. A title that the answer did not have is
left to a job. -/
theorem close_begun {g : Opened} {scanner : Scanner}
    (h : w.Calm env reading r (k + 1 + g.inputs.length + 2)) (hraw : scanner.raw ≠ [])
    (hexisting : g.existing = none) :
    ∃ c ms, c.owner = g.owner ∧ c.title = scanner.title?.getD Title.placeholder ∧
      c.status = .active ∧ (∀ c' ∈ r.conversations, c'.uid ≠ c.uid) ∧
      Says ms c.id (exchange g.inputs scanner.visibleContent) ∧
      ((g.close scanner).run env w).1.2 =
        (if scanner.title?.isNone then some (g.titleJob c scanner.visibleContent) else none) ∧
      w.Becomes env reading ((r.addConversation c).addMessages ms) k
        ((g.close scanner).run env w).2 := by
  obtain ⟨c, howner, htitle, hstatus, hnew, hcreated, hcreate⟩ :=
    createConversation_becomes (g := g) h scanner.title?
  have hplace : ∃ c' ∈ (r.addConversation c).conversations, c'.id = c.id :=
    ⟨c, List.mem_append_right _ (List.mem_singleton.2 rfl), rfl⟩
  obtain ⟨ms, i, hms, -, hkept⟩ :=
    keepExchange_becomes (g := g) hcreate.toCalm hplace scanner.visibleContent
  have hview := g.loadView_run hkept.toCalm c
  have hall := hcreate.trans hkept
  rw [Records.change_addMessages, Records.change_addConversation hnew rfl] at hall
  refine ⟨{ c with updatedAt := (env.clock i).truncate }, ms, howner, htitle, hstatus, hnew, hms,
    ?_⟩
  simp only [close, hraw, if_false, hexisting, Program.run_bind_eq, hcreated, Program.run_pure,
    hview]
  exact ⟨rfl, hall⟩

end Opened

/-- The title that the reply of the provider brings. -/
def titleOf? : Except ProviderError Reply → Option String
  | .error _ => none
  | .ok reply =>
    if Text.isBlank reply.content then none else some (Title.normalizeTitle reply.content)

namespace TitleJob

variable {env : Environment σ} {reading : Instant → Prop} {r : Records} {k : Nat} {w : World σ}

/-- What the provider answers a job. -/
def reply (job : TitleJob) (env : Environment σ) (provider : σ) : Except ProviderError Reply :=
  (env.provider.complete job.settings
    (titleRequest job.settings.model job.firstUserMessage job.answer) provider).1

/-- What a job does to the records: a title that the reply brings is stored. -/
def retitled (job : TitleJob) (env : Environment σ) (w : World σ) (r : Records) : Records :=
  match titleOf? (job.reply env w.provider) with
  | none => r
  | some title => r.change { uid := job.uid, title := some title } (env.clock w.readings)

theorem run_keeps (job : TitleJob) (h : w.Calm env reading r k) :
    (job.run.run env w).2.store = (job.retitled env w r).rows ∧
      ∃ now, (job.retitled env w r).Sound reading now := by
  obtain ⟨asked, hask, hcalm, hclock⟩ : ∃ asked : World σ,
      w.step env (.complete job.settings
          (titleRequest job.settings.model job.firstUserMessage job.answer)) =
        (job.reply env w.provider, asked) ∧
      asked.Calm env reading r k ∧ asked.readings = w.readings :=
    ⟨_, rfl, ⟨h.store, h.faults, h.sound, h.steady, h.fresh⟩, rfl⟩
  rw [run_store, retitled, ← hclock]
  simp only [search, Program.run_bind_eq, Program.run_perform, hask]
  rcases job.reply env w.provider with e | reply
  · exact ⟨hcalm.store, _, hcalm.sound⟩
  · dsimp only [titleOf?]
    split
    · exact ⟨hcalm.store, _, hcalm.sound⟩
    · have hupdate := hcalm.step_updateConversation
        { uid := job.uid, title := some (Title.normalizeTitle reply.content) }
      refine ⟨?_, _, hupdate.sound⟩
      simp only [Program.run_bind_eq, Program.run_perform]
      split <;> exact hupdate.store

end TitleJob

end ChatRelay.Generation
