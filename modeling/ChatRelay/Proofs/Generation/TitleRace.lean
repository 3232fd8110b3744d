import ChatRelay.Proofs.Generation.Aftermath
import ChatRelay.Proofs.Service.Shared
import Mathlib.Data.Fintype.Option
import Mathlib.Data.List.Induction

/-!
# A job for a title and those who rename

A job that was left for the title of a conversation is done at some later time,
while the owner may already rename the conversation. The job looks at no title
before it writes its own, so that of all titles that are written the last one
stays (`Titled`), whoever has written it.

The job writes at most once. A title that is given after that is not lost to it
(`rename_stays`), and one that is given before can be (`rename_lost`).
-/

namespace ChatRelay.Generation

open Completion (ProviderError Reply)
open Service (Answered Call Effect Environment Interleaved Program Shared SharedTurn Turn World
  callsOf)
open Store (Records)
open Time (Instant)

variable {σ ι : Type}

/-! ## Titles that are written -/

/-- The title that a call has given to the conversation with a handle. -/
def retitled? (uid : String) : Answered → Option String
  | ⟨.updateConversation u, .ok _⟩ => if u.uid = uid then u.title else none
  | _ => none

/-- The titles that were given to a conversation, in order. -/
def titles (c : Conversation) (log : List (Turn ι σ)) : List String :=
  log.filterMap fun t => retitled? c.uid t.made

/-- The title that a conversation has after some turns: the one that was given last. -/
def lastTitle (c : Conversation) (log : List (Turn ι σ)) : String :=
  (titles c log).getLast?.getD c.title

theorem titles_append (c : Conversation) (log log' : List (Turn ι σ)) :
    titles c (log ++ log') = titles c log ++ titles c log' :=
  List.filterMap_append

theorem titles_singleton (c : Conversation) (t : Turn ι σ) :
    titles c [t] = (retitled? c.uid t.made).toList := by
  rw [titles, List.filterMap_cons]
  cases retitled? c.uid t.made <;> rfl

/-- A conversation has a title in a store, if it is there. -/
def HasTitle (s : Store) (c : Conversation) (title : String) : Prop :=
  ∀ row ∈ s.conversations, row.uid = .text c.uid → row.title = .text title

instance (s : Store) (c : Conversation) (title : String) : Decidable (HasTitle s c title) :=
  inferInstanceAs (Decidable (∀ row ∈ s.conversations, row.uid = .text c.uid →
    row.title = .text title))

/-- The records have the title that was given last. -/
def Titled (c : Conversation) (past : List (Turn ι σ)) (r : Records) : Prop :=
  ∀ c' ∈ r.conversations, c'.uid = c.uid → c'.title = lastTitle c past

theorem Titled.hasTitle {c : Conversation} {past : List (Turn ι σ)} {r : Records} {s : Store}
    (h : Titled c past r) (hs : s = r.rows) : HasTitle s c (lastTitle c past) := by
  subst hs
  intro row hrow huid
  obtain ⟨c', hc', rfl⟩ := List.mem_map.1 hrow
  exact congrArg Store.Cell.text (h c' hc' (Store.Cell.text.inj huid))

/-- What a call makes of the title of a conversation that was not created by it. -/
theorem title_of_effect {env : Environment σ} {w : World σ} {r r' : Records} {call : Call}
    {a : call.Answer} (h : Effect env w r call a r') {uid : String}
    (hold : ∀ c ∈ r'.conversations, c.uid = uid → ∃ c' ∈ r.conversations, c'.uid = uid)
    {c : Conversation} (hc : c ∈ r'.conversations) (huid : c.uid = uid) :
    ∃ c' ∈ r.conversations, c'.uid = uid ∧
      c.title = (retitled? uid ⟨call, a⟩).getD c'.title := by
  cases h with
  | created hnew =>
    rcases List.mem_append.1 hc with hc | hc
    · exact ⟨c, hc, huid, rfl⟩
    · obtain ⟨c', hc', huid'⟩ := hold c (List.mem_append_right _ hc) huid
      rw [List.mem_singleton.1 hc] at huid
      exact absurd (huid'.trans huid.symm) (hnew c' hc')
  | @changed u =>
    obtain ⟨c', hc', rfl⟩ := List.mem_map.1 hc
    rw [Records.changed_uid] at huid
    refine ⟨c', hc', huid, ?_⟩
    rw [Records.changed, retitled?, huid]
    by_cases hmeant : u.uid = uid
    · rw [if_pos hmeant.symm, if_pos hmeant]
    · rw [if_neg fun heq => hmeant heq.symm, if_neg hmeant]
      rfl
  | deleted => exact ⟨c, (List.mem_filter.1 hc).1, huid, rfl⟩
  | elsewhere hf =>
    cases call with
    | updateConversation => cases hf
    | _ => exact ⟨c, hc, huid, rfl⟩
  | unchanged | notDeleted | added | notAdded | found | got | listed =>
    exact ⟨c, hc, huid, rfl⟩

/-- A turn keeps the title that was given last, or gives another one. -/
theorem Titled.turn {env : Environment σ} {c : Conversation} {last : Nat} {r r' : Records}
    {past : List (Turn ι σ)} {t : Turn ι σ} (h : Titled c past r)
    (ht : SharedTurn env c last r t r') : Titled c (past ++ [t]) r' := by
  have hold : ∀ d ∈ r'.conversations, d.uid = c.uid → ∃ d' ∈ r.conversations, d'.uid = c.uid := by
    intro d hd huid
    by_contra hmissing
    refine ht.gone (fun ⟨d', hd', hid⟩ => ?_) ⟨d, hd, (ht.after.tied d hd).2 huid⟩
    exact hmissing ⟨d', hd', (ht.before.tied d' hd').1 hid⟩
  intro d hd huid
  obtain ⟨d', hd', huid', htitle⟩ := title_of_effect ht.effect hold hd huid
  rw [htitle, h d' hd' huid', lastTitle, lastTitle, titles_append, titles_singleton]
  cases retitled? c.uid t.made with
  | none => rw [Option.toList_none, List.append_nil, Option.getD_none]
  | some title => rw [Option.toList_some, List.getLast?_concat]; rfl

/-! ## Who takes turns -/

/-- Who takes turns with a job. -/
inductive Contender where
  | rename (caller : Option UserId) (title : String)
  | other (p : Program Unit)

def Contender.program (uid : String) : Contender → Program Unit
  | rename caller title => Service.Conversations.rename caller uid title >>= fun _ => pure ()
  | other p => p

/-- A job for the title of a conversation, and others who take turns with it. -/
def racing (job : TitleJob) (contenders : ι → Contender) : Option ι → Program Unit
  | none => job.run
  | some i => (contenders i).program job.uid

/-- The title that was last given to a conversation by somebody else than the job. -/
def lastRename? (c : Conversation) (log : List (Turn (Option ι) σ)) : Option String :=
  (titles c (log.filter (·.party.isSome))).getLast?

/-- Once a conversation was renamed, it has the title that it was last renamed to. -/
def RenamesStay (c : Conversation) (log : List (Turn (Option ι) σ)) : Prop :=
  ∀ past t rest title, log = past ++ t :: rest → lastRename? c (past ++ [t]) = some title →
    HasTitle t.after.store c title

/-- The job writes no title behind a rename. -/
def JobFirst (c : Conversation) (log : List (Turn (Option ι) σ)) : Prop :=
  log.Pairwise fun t u => t.party.isSome → (retitled? c.uid t.made).isSome → u.party.isNone →
    retitled? c.uid u.made = none

instance (c : Conversation) (log : List (Turn (Option ι) σ)) : Decidable (JobFirst c log) :=
  inferInstanceAs (Decidable (log.Pairwise fun t u => t.party.isSome →
    (retitled? c.uid t.made).isSome → u.party.isNone → retitled? c.uid u.made = none))

/-- If the job writes no title behind a rename, the last title that was given is the last rename,
if there is one. By induction on the turns, from the last one back. -/
theorem JobFirst.lastTitle_eq {c : Conversation} {log : List (Turn (Option ι) σ)}
    (h : JobFirst c log) {title : String} (hlast : lastRename? c log = some title) :
    lastTitle c log = title := by
  induction log using List.reverseRecOn with
  | nil => cases hlast
  | append_singleton log t ih =>
    obtain ⟨hlog, -, hbehind⟩ := List.pairwise_append.1 h
    have hfilter : [t].filter (·.party.isSome) = if t.party.isSome then [t] else [] :=
      List.filter_cons
    rw [lastRename?, List.filter_append, titles_append, hfilter] at hlast
    rw [lastTitle, titles_append, titles_singleton]
    cases hwritten : retitled? c.uid t.made with
    | none =>
      have hquiet : titles c (if t.party.isSome then [t] else []) = [] := by
        split
        · rw [titles_singleton, hwritten, Option.toList_none]
        · rfl
      rw [hquiet, List.append_nil] at hlast
      rw [Option.toList_none, List.append_nil]
      exact ih hlog hlast
    | some written =>
      rw [Option.toList_some, List.getLast?_concat, Option.getD_some]
      cases hparty : t.party with
      | some i =>
        rw [hparty, Option.isSome_some, if_pos rfl, titles_singleton, hwritten, Option.toList_some,
          List.getLast?_concat] at hlast
        exact Option.some.inj hlast
      | none =>
        -- The job has written a title, so nobody else has given one before.
        have hfirst : titles c (log.filter (·.party.isSome)) = [] := by
          refine List.filterMap_eq_nil_iff.2 fun u hu => ?_
          obtain ⟨hu, hother⟩ := List.mem_filter.1 hu
          by_contra hgiven
          have := hbehind u hu t (List.mem_singleton.2 rfl) hother
            (Option.isSome_iff_ne_none.2 hgiven) (by rw [hparty]; rfl)
          rw [hwritten] at this
          cases this
        rw [hfirst, hparty] at hlast
        cases hlast

/-! ## What each of them writes -/

theorem titles_of_report {uid uid' : String} {kind : DiagnosticKind} {detail : String}
    {calls : List Answered} (h : (reportFor uid' kind detail).Makes calls ()) :
    calls.filterMap (retitled? uid) = [] := by
  obtain ⟨_, _, rfl, rfl, -⟩ := h
  rfl

/-- A job writes at most one title, which is the one that the provider has replied. -/
theorem TitleJob.titles_of_makes {job : TitleJob} {calls : List Answered}
    (h : job.run.Makes calls ()) :
    ∃ reply : Except ProviderError Reply,
      ⟨.complete job.settings (titleRequest job.settings.model job.firstUserMessage job.answer),
        reply⟩ ∈ calls ∧
      calls.filterMap (retitled? job.uid) <+: (titleOf? reply).toList := by
  rw [run, Program.makes_perform_bind] at h
  obtain ⟨reply, rest, rfl, h⟩ := h
  refine ⟨reply, List.mem_cons_self, ?_⟩
  rw [List.filterMap_cons_none rfl]
  cases reply with
  | error e =>
    rw [titles_of_report h]
    exact List.nil_prefix
  | ok reply =>
    rw [titleOf?]
    dsimp only at h
    split at h
    · rw [titles_of_report h]
      exact List.nil_prefix
    · rename_i hblank
      rw [if_neg hblank]
      rw [Program.makes_perform_bind] at h
      obtain ⟨updated, rest, rfl, h⟩ := h
      cases updated with
      | error e =>
        rw [List.filterMap_cons_none rfl, titles_of_report h]
        exact List.nil_prefix
      | ok c =>
        obtain ⟨heard, rest, rfl, hrest⟩ := (Program.makes_perform_bind (.deliver _)).1 h
        have hquiet : rest.filterMap (retitled? job.uid) = [] := by
          split at hrest
          · rw [hrest.1]
            rfl
          · exact titles_of_report hrest
        have hwritten : retitled? job.uid ⟨.updateConversation
            { uid := job.uid, title := some (Title.normalizeTitle reply.content) }, .ok c⟩ =
            some (Title.normalizeTitle reply.content) := if_pos rfl
        rw [List.filterMap_cons_some hwritten, List.filterMap_cons_none rfl, hquiet]
        exact List.prefix_refl _

/-- Renaming writes at most the one title, without the blanks around it. -/
theorem titles_of_rename {caller : Option UserId} {uid title : String} {calls : List Answered}
    {result : Except ChatError Conversation}
    (h : (Service.Conversations.rename caller uid title).Makes calls result) :
    calls.filterMap (retitled? uid) <+: [Text.trimText title] := by
  cases caller with
  | none =>
    rw [h.1]
    exact List.nil_prefix
  | some owner =>
    rw [Service.Conversations.rename] at h
    split at h
    · rw [h.1]
      exact List.nil_prefix
    · rw [Program.makes_bind] at h
      obtain ⟨first, rest, found, rfl, hfirst, h⟩ := h
      have hlooks : first.filterMap (retitled? uid) = [] := by
        obtain ⟨answer, rest, rfl, hrest⟩ := (Program.makes_perform_bind _).1 hfirst
        have hdone : rest = [] := by rcases answer with e | _ | c <;> exact hrest.1
        rw [hdone]
        rfl
      rw [List.filterMap_append, hlooks, List.nil_append]
      cases found with
      | error e =>
        rw [h.1]
        exact List.nil_prefix
      | ok c =>
        obtain ⟨updated, rest, rfl, hrest⟩ := (Program.makes_perform_bind _).1 h
        rw [hrest.1]
        cases updated with
        | error e => exact List.nil_prefix
        | ok c =>
          have hwritten : retitled? uid ⟨.updateConversation
              { uid, title := some (Text.trimText title) }, .ok c⟩ = some (Text.trimText title) :=
            if_pos rfl
          rw [List.filterMap_cons_some hwritten]
          exact List.prefix_refl _

/-! ## Races -/

/-- A job for the title of a conversation takes turns with others, who may rename the conversation.
After every turn the conversation has the title that was given last. The job gives at most one,
which is the reply of the provider, and a rename at most its own. So a rename stays until the next
one, if the job gives no title behind a rename. -/
theorem rename_stays [DecidableEq ι] {env : Environment σ} {w w' : World σ}
    {log : List (Turn (Option ι) σ)} {c : Conversation} {f : Filter} {job : TitleJob}
    {contenders : ι → Contender}
    (hreached : w.store.Reachable Instant.Storable (env.clock w.readings))
    (hthere : w.store.get f = .ok (some c)) (hfaults : w.faults = fun _ => [])
    (hclock : env.Steady Instant.Storable w.readings)
    (hids : env.Fresh w.store w.idsUsed (w'.idsUsed - w.idsUsed)) (hjob : job.uid = c.uid)
    (h : Interleaved env (racing job contenders) w log w') :
    (∀ past t rest, log = past ++ t :: rest →
      HasTitle t.after.store c (lastTitle c (past ++ [t]))) ∧
    (∃ reply : Except ProviderError Reply,
      ⟨.complete job.settings (titleRequest job.settings.model job.firstUserMessage job.answer),
        reply⟩ ∈ callsOf none log ∧
      (callsOf none log).filterMap (retitled? c.uid) <+: (titleOf? reply).toList) ∧
    (∀ i caller title, contenders i = .rename caller title →
      (callsOf (some i) log).filterMap (retitled? c.uid) <+: [Text.trimText title]) ∧
    (JobFirst c log → RenamesStay c log) := by
  have hlast := Nat.le_refl w'.idsUsed
  obtain ⟨r, hshared, -, d, hd, hsame⟩ := Shared.start (ι := Option ι) hreached hthere hfaults
    hclock h.chain.idsUsed_le hids
  have hstart : Titled c ([] : List (Turn (Option ι) σ)) r := by
    intro d' hd' huid
    rw [hsame] at huid ⊢
    rw [hshared.calm.sound.keyed.eq_of_shared hd' hd (.inr huid)]
    rfl
  have htitled : ∀ past t rest, log = past ++ t :: rest →
      HasTitle t.after.store c (lastTitle c (past ++ [t])) := by
    rintro past t rest rfl
    obtain ⟨r, r', ht, hpast⟩ := hshared.at_turn h.chain hlast hstart
      fun _ _ _ _ _ _ ht hpast => hpast.turn ht
    exact (hpast.turn ht).hasTitle ht.after.calm.store
  refine ⟨htitled, ?_, fun i caller title hi => ?_, fun hfirst past t rest title hlog hrename => ?_⟩
  · rw [← hjob]
    exact TitleJob.titles_of_makes (h.makes none)
  · have hmakes := h.makes (some i)
    rw [racing, hi, Contender.program, Program.makes_bind] at hmakes
    obtain ⟨first, rest, result, hcalls, hrename, rfl, -⟩ := hmakes
    rw [hcalls, List.append_nil, ← hjob]
    exact titles_of_rename hrename
  · have hpast : JobFirst c (past ++ [t]) := by
      rw [hlog, List.append_cons] at hfirst
      exact (List.pairwise_append.1 hfirst).1
    rw [← hpast.lastTitle_eq hrename]
    exact htitled past t rest hlog

/-- The owner renames a new conversation behind the job for its title, and keeps the title. -/
theorem rename_stays_behind_job :
    let env : Environment Unit :=
      { clock := fun _ => ⟨0, 0⟩
        ids := fun i => .ofNat (i + 2)
        provider :=
          { create := fun _ => .ok ()
            stream := fun _ _ _ => ([], ())
            complete := fun _ _ _ => (.ok ⟨"", "A greeting", "model", .endTurn, {}⟩, ()) } }
    let c : Conversation :=
      Records.created ⟨"ada"⟩ Title.placeholder .active (.ofNat 0) (Uuid.ofNat 1).text ⟨0, 0⟩
    let w : World Unit :=
      { store := (({} : Store).create ⟨"ada"⟩ Title.placeholder .active (.ofNat 0) c.uid ⟨0, 0⟩).2
        provider := () }
    let job : TitleJob := ⟨⟨"http://localhost", "key", "model"⟩, c.uid, "Hello", "Hello!"⟩
    let parties := racing job fun _ : Unit => .rename (some ⟨"ada"⟩) "Mine"
    let order : List (Option Unit) := [none, some (), none, some (), none]
    let log := (Service.takeTurns env order parties w).1
    titles c log = ["A greeting", "Mine"] ∧ RenamesStay c log := by
  intro env c w job parties order log
  have hstorable : (⟨0, 0⟩ : Instant).Storable := ⟨by decide, by decide, by decide⟩
  have hreached : w.store.Reachable Instant.Storable (env.clock w.readings) :=
    .create (.empty _) hstorable (Instant.le_refl _) _ _ _ _ _
  have hthere : w.store.get ((Filter.byUid c.uid).ownedBy c.owner) = .ok (some c) :=
    Records.get_created _ _ _ _ _ hstorable
  have hclock : env.Steady Instant.Storable w.readings :=
    ⟨fun _ _ => hstorable, fun _ _ => Instant.le_refl _⟩
  have hdone : ∀ i, ((Service.takeTurns env order parties w).2.1 i).isDone = true := by
    decide +kernel
  have hused : (Service.takeTurns env order parties w).2.2.idsUsed - w.idsUsed = 0 := by
    decide +kernel
  have hids : env.Fresh w.store w.idsUsed
      ((Service.takeTurns env order parties w).2.2.idsUsed - w.idsUsed) := by
    rw [hused]
    exact ⟨fun i j _ _ hj => absurd hj (by omega), fun i _ hi => absurd hi (by omega), nofun⟩
  have hrace := Service.interleaved_takeTurns hdone
  obtain ⟨-, -, -, hstays⟩ := rename_stays hreached hthere rfl hclock hids rfl hrace
  have hfirst : JobFirst c log := by decide +kernel
  exact ⟨by decide +kernel, hstays hfirst⟩

/-- A generation leaves the title of its conversation to a job. The owner renames the conversation
while the job waits for the reply of the provider, and the rename is lost. -/
theorem rename_lost :
    let env : Environment Unit :=
      { clock := fun _ => ⟨0, 0⟩
        ids := Uuid.ofNat
        provider :=
          { create := fun _ => .ok ()
            stream := fun _ _ _ => ([.ok (.textDelta "Hello!")], ())
            complete := fun _ _ _ => (.ok ⟨"", "A greeting", "model", .endTurn, {}⟩, ()) } }
    let caller : Option UserId := some ⟨"ada"⟩
    let settings : AiSettings := ⟨some "http://localhost", some "key", some "model"⟩
    let generated := (generate settings caller ⟨[⟨.system, "Say hello."⟩], none⟩).run env
      { provider := () }
    let w := generated.2
    ∃ job c log w', generated.1.2 = some job ∧ c.uid = job.uid ∧ c.title = Title.placeholder ∧
      .ofConversation c ∈ w.store.conversations ∧
      Interleaved env (racing job fun _ : Unit => .rename caller "Mine") w log w' ∧
      ¬ RenamesStay c log := by
  intro env caller settings generated w
  let job : TitleJob := ⟨⟨"http://localhost", "key", "model"⟩, (Uuid.ofNat 1).text, "", "Hello!"⟩
  let c : Conversation :=
    Records.created ⟨"ada"⟩ Title.placeholder .active (.ofNat 0) job.uid ⟨0, 0⟩
  let parties := racing job fun _ : Unit => .rename caller "Mine"
  let order : List (Option Unit) := [none, some (), some (), none, none]
  let log := (Service.takeTurns env order parties w).1
  have hjob : generated.1.2 = some job := by decide +kernel
  have hthere : .ofConversation c ∈ w.store.conversations := by decide +kernel
  have hdone : ∀ i, ((Service.takeTurns env order parties w).2.1 i).isDone = true := by
    decide +kernel
  have hrace := Service.interleaved_takeTurns hdone
  have hlong : 3 < log.length := by decide +kernel
  have hlost : ∀ h : 3 < log.length,
      lastRename? c (log.take 3 ++ [log[3]]) = some "Mine" ∧
      ¬ HasTitle log[3].after.store c "Mine" := by decide +kernel
  have hlog : log = log.take 3 ++ log[3] :: log.drop 4 := by
    rw [← List.drop_eq_getElem_cons, List.take_append_drop]
  exact ⟨job, c, log, _, hjob, rfl, rfl, hthere, hrace, fun hstay =>
    (hlost hlong).2 (hstay _ _ _ _ hlog (hlost hlong).1)⟩

end ChatRelay.Generation
