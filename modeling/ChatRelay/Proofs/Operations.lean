import ChatRelay.Proofs.Generation.Opening
import ChatRelay.Proofs.Service.History
import ChatRelay.Proofs.Service.Owned

/-!
# What a user can do

An `Operation` is what a user can do: list, read, rename and delete conversations,
and have an answer generated, with the job that is left.

`Operation.program_confined` is about two stores in which a user has the same, and
others have what they have. An operation leaves what others have as it is, and has
the same result and the same effect in both. There is one exception, for an
operation that names a conversation by its handle and compares the owner after
that (`Operation.handle?`): a user is told that the conversation is somebody
else's, where in the other store there is none. To generate an answer is not such
an operation, since the handle is looked for among the conversations of the user.
-/

namespace ChatRelay

open Service (Environment Isolated Program Reached TellsApart World isolated_of_same
  ownedAnswer owned_andThen_run owned_isolated)
open Service.Conversations (failed notFound notPermitted owned)
open Service.Program (perform)
open Store (Records StoreError mem_ofOthers)
open Time (Instant)

variable {σ : Type} {env : Environment σ} {owner : UserId} {r : Records} {w : World σ}

/-! ## Operations -/

/-- What a user can do. -/
inductive Operation where
  | list
  | get (uid : String)
  | rename (uid title : String)
  | delete (uid : String)
  /-- A job that is left is done as well. -/
  | generate (settings : AiSettings) (request : Generation.GenerationRequest)

/-- What an operation brings that succeeds. -/
inductive Outcome where
  | listed (conversations : List Conversation)
  | found (conversation : Conversation)
  | renamed (conversation : Conversation)
  | deleted
  | generated

/-- A program with another result when it succeeds. -/
def Service.Program.mapOk {α β : Type} (f : α → β) (p : Program (Except ChatError α)) :
    Program (Except ChatError β) :=
  p >>= fun result => pure (result.map f)

namespace Operation

/-- What the service does when a user asks for an operation. -/
def program (caller : UserId) : Operation → Program (Except ChatError Outcome)
  | .list => (Service.Conversations.list (some caller)).mapOk .listed
  | .get uid => (Service.Conversations.get (some caller) uid).mapOk .found
  | .rename uid title => (Service.Conversations.rename (some caller) uid title).mapOk .renamed
  | .delete uid => (Service.Conversations.delete (some caller) uid).mapOk fun _ => .deleted
  | .generate settings request =>
    Generation.generate settings (some caller) request >>= fun (result, job) =>
      Generation.TitleJob.runLeft job >>= fun _ => pure (result.map fun _ => .generated)

/-- The handle that an operation looks up. -/
def handle? : Operation → Option String
  | .get uid | .delete uid => some uid
  | .rename uid title => if Text.trimText title = "" then none else some uid
  | .list | .generate .. => none

variable {n : Nat}

theorem list_isolated (hw : w.Serves env owner n [] r)
    (hn : (((list).program owner).run env w).2.idsUsed ≤ n) :
    Isolated env owner none w (list.program owner) := by
  have hacts : (list.program owner).ActsFor (fun _ => True) owner [] fun _ _ => True :=
    have hlist : (Service.Conversations.list (some owner)).ActsFor (fun _ => True) owner []
        fun _ _ => True := .call trivial rfl fun _ => .pure trivial
    hlist.bind fun _ _ _ _ => .pure trivial
  exact isolated_of_same (hacts.runsAlone hw hn) nofun

theorem get_isolated (hw : w.Serves env owner n [] r) (hlegible : r.Legible)
    (uid : String) : Isolated env owner (some uid) w ((get uid).program owner) := by
  have hprogram : (get uid).program owner =
      (owned owner uid).andThen fun c => pure (.ok (.found c)) :=
    Program.bind_eq_andThen (fun _ => rfl) fun _ => rfl
  rw [hprogram]
  exact owned_isolated hw hlegible fun _ _ _ _ _ _ => ⟨rfl, rfl⟩

/-- A call that makes no difference to others makes none at the end of a program. -/
theorem runsAlone_of_alone {α : Type} {c : Service.Call} {known : List Conversation}
    (h : w.Alone env owner n known c) (f : c.Answer → α) :
    (Service.Program.perform c >>= fun a => pure (f a)).RunsAlone env owner w := by
  refine ⟨?_, h.others⟩
  rw [Program.run_bind_eq, Program.run_perform, h.alone]
  rfl

theorem rename_isolated (hw : w.Serves env owner n [] r) (hlegible : r.Legible)
    (hn : w.idsUsed ≤ n) (uid title : String) :
    Isolated env owner (rename uid title).handle? w ((rename uid title).program owner) := by
  by_cases htitle : Text.trimText title = ""
  · have hprogram : (rename uid title).program owner =
        pure (.error ⟨.invalidArgument, "title cannot be empty"⟩) := by
      simp [program, Service.Program.mapOk, Service.Conversations.rename, htitle, Except.map]
    rw [hprogram, handle?, if_pos htitle]
    exact isolated_of_same ⟨rfl, rfl⟩ nofun
  · have hprogram : (rename uid title).program owner =
        (owned owner uid).andThen fun _ =>
          perform (.updateConversation { uid, title := some (Text.trimText title) }) >>=
            fun updated => pure ((Except.mapError (failed "update conversation") updated).map
              Outcome.renamed) := by
      rw [program, Service.Program.mapOk, Service.Conversations.rename, if_neg htitle]
      simp only [bind_assoc]
      refine Program.bind_eq_andThen (fun _ => rfl) fun _ => ?_
      simp only [bind_assoc, pure_bind]
    rw [hprogram, handle?, if_neg htitle]
    refine owned_isolated hw hlegible fun c w' hc huid hw' hids => ?_
    have hknown : w'.Serves env owner n [c] r :=
      { hw' with known := List.forall_mem_singleton.2 hc }
    have hused := (w'.step_idsUsed env (.updateConversation
      { uid, title := some (Text.trimText title) })).2
    have hfor : (Service.Call.updateConversation
        { uid, title := some (Text.trimText title) }).IsFor owner [c] :=
      ⟨c, List.mem_singleton.2 rfl, huid⟩
    exact runsAlone_of_alone (hknown.step hfor (Nat.le_trans hused (hids ▸ hn))) _

theorem delete_program (owner : UserId) (uid : String) :
    (delete uid).program owner =
      (owned owner uid).andThen fun _ =>
        perform (.deleteConversation (.byUid uid)) >>=
          fun deleted => pure ((Except.mapError (failed "delete conversation") deleted).map
            fun _ => Outcome.deleted) := by
  rw [program, Service.Program.mapOk, Service.Conversations.delete]
  simp only [bind_assoc]
  refine Program.bind_eq_andThen (fun _ => rfl) fun _ => ?_
  simp only [bind_assoc, pure_bind]

theorem delete_isolated (hw : w.Serves env owner n [] r) (hlegible : r.Legible)
    (uid : String) : Isolated env owner (some uid) w ((delete uid).program owner) := by
  rw [delete_program]
  refine owned_isolated hw hlegible fun c w' hc huid hw' _ => ?_
  have howner : ∀ c' ∈ r.conversations, c'.uid = uid → c'.owner = owner := fun c' hc' huid' => by
    obtain ⟨d, hd, -, hduid, howner⟩ := hc
    rw [hw'.keyed.eq_of_shared hc' hd (.inr (huid'.trans (hduid.trans huid).symm)), howner]
  have hprivate := Records.delete_private hw'.keyed howner
  obtain ⟨faults, hstep | ⟨a, ha, hstep⟩⟩ :=
    w'.step_cases env (c := .deleteConversation (.byUid uid)) rfl
  · exact runsAlone_of_alone
      (hw'.alone_of_private hprivate hstep (hw'.fresh.remove _) nofun) _
  · exact runsAlone_of_alone (hw'.alone_of_skipped hstep rfl) _

theorem generate_isolated (hw : w.Serves env owner n [] r) (settings : AiSettings)
    (request : Generation.GenerationRequest)
    (hn : (((generate settings request).program owner).run env w).2.idsUsed ≤ n) :
    Isolated env owner none w ((generate settings request).program owner) := by
  have hacts : ((generate settings request).program owner).ActsFor (fun _ => True) owner []
      fun _ _ => True := by
    refine .bind (Generation.generate_actsFor settings owner request) fun known r _ hjob => ?_
    have hleft : (Generation.TitleJob.runLeft r.2).ActsFor (fun _ => True) owner known
        fun _ _ => True := by
      rcases r with ⟨result, _ | job⟩
      · exact .pure trivial
      · obtain ⟨c, hc, huid⟩ := hjob job rfl
        exact job.run_actsFor hc huid
    exact hleft.bind fun _ _ _ _ => .pure trivial
  exact isolated_of_same (hacts.runsAlone hw hn) nofun

/-- Others make no difference to an operation but the one. -/
theorem program_isolated (op : Operation) (hw : w.Serves env owner n [] r)
    (hlegible : r.Legible) (hn : ((op.program owner).run env w).2.idsUsed ≤ n) :
    Isolated env owner op.handle? w (op.program owner) := by
  cases op with
  | list => exact list_isolated hw hn
  | get uid => exact get_isolated hw hlegible uid
  | rename uid title =>
    exact rename_isolated hw hlegible (Nat.le_trans (Program.run_idsUsed_le env _ w) hn) uid title
  | delete uid => exact delete_isolated hw hlegible uid
  | generate settings request => exact generate_isolated hw settings request hn

/-- The identifiers that an operation makes up are new to the store, and different. -/
def MakesUpNew (op : Operation) (env : Environment σ) (caller : UserId) (w : World σ) : Prop :=
  env.Fresh w.store w.idsUsed (((op.program caller).run env w).2.idsUsed - w.idsUsed)

/-- In a store that is reached, others make no difference to an operation but the one. -/
theorem isolated_of_reached (op : Operation) (hreached : Reached w.store)
    (hnew : op.MakesUpNew env owner w) :
    Isolated env owner op.handle? w (op.program owner) ∧
      ∃ r : Records, w.store = r.rows ∧ r.Keyed := by
  obtain ⟨r, hstore, hkeyed, hlegible⟩ := hreached.records
  have hserves : w.Serves env owner ((op.program owner).run env w).2.idsUsed [] r :=
    ⟨hstore, hkeyed, hstore ▸ hnew, nofun⟩
  exact ⟨op.program_isolated hserves hlegible (Nat.le_refl _), r, hstore, hkeyed⟩

/-- What a user does leaves everything of others as it is, and what is created belongs to the user.
In two stores in which the user has the same, it has the same result and leaves the same behind,
for the user and in the rest of the world, but that a user who names a conversation of somebody
else by its handle is told so. -/
theorem program_confined (op : Operation) {s : Store} (hreached : Reached w.store)
    (hreached' : Reached s) (hsame : s.ofOwner owner = w.store.ofOwner owner)
    (hnew : op.MakesUpNew env owner w) (hnew' : op.MakesUpNew env owner { w with store := s }) :
    let full := (op.program owner).run env w
    let other := (op.program owner).run env { w with store := s }
    full.2.store.ofOthers owner = w.store.ofOthers owner ∧
      (∀ row ∈ full.2.store.conversations, row ∈ w.store.conversations ∨
        row.owner = .text owner.text) ∧
      other.2.onlyOf owner = full.2.onlyOf owner ∧
      (other.1 = full.1 ∨ ∃ uid, op.handle? = some uid ∧
        (TellsApart owner uid w.store s full.1 other.1 ∨
          TellsApart owner uid s w.store other.1 full.1)) := by
  intro full other
  obtain ⟨hfull, r, hr, hkeyed⟩ := op.isolated_of_reached hreached hnew
  obtain ⟨hother, r', hr', hkeyed'⟩ :=
    op.isolated_of_reached (w := { w with store := s }) hreached' hnew'
  have honly : ({ w with store := s } : World σ).onlyOf owner = w.onlyOf owner := by
    rw [World.onlyOf, World.onlyOf, hsame]
  refine ⟨hfull.others, fun row hrow => ?_, ?_, ?_⟩
  · by_cases howner : row.owner = .text owner.text
    · exact .inr howner
    · have hthere := mem_ofOthers.2 ⟨hrow, howner⟩
      rw [hfull.others] at hthere
      exact .inl (mem_ofOthers.1 hthere).1
  · rw [← hother.world, honly, hfull.world]
  · exact hfull.result_eq_or hother hr hkeyed hr' hkeyed' hsame

/-- Ada wants to delete a conversation of Bob's. She is told that it is his, and where Bob has none,
that there is none. Nothing else tells the two stores apart. -/
theorem program_confined_two_users :
    let env : Environment Unit :=
      { clock := fun _ => ⟨0, 0⟩
        ids := Uuid.ofNat
        provider :=
          { create := fun _ => .ok ()
            stream := fun _ _ _ => ([], ())
            complete := fun _ _ _ => (.error .authenticationFailed, ()) } }
    let create (owner title : String) : Program Unit :=
      perform (.createConversation ⟨owner⟩ title .active) >>= fun _ => pure ()
    let s := ((create "ada" "Notes").run env { provider := () }).2.store
    let w := ((create "ada" "Notes" >>= fun _ => create "bob" "Plans").run env { provider := () }).2
    let uid := (Uuid.ofNat 3).text
    let full := ((delete uid).program ⟨"ada"⟩).run env w
    let other := ((delete uid).program ⟨"ada"⟩).run env { w with store := s }
    TellsApart ⟨"ada"⟩ uid w.store s full.1 other.1 ∧
      full.2.store.ofOthers ⟨"ada"⟩ = w.store.ofOthers ⟨"ada"⟩ ∧
      other.2.onlyOf ⟨"ada"⟩ = full.2.onlyOf ⟨"ada"⟩ := by
  intro env create s w uid
  dsimp only
  have hstorable : (⟨0, 0⟩ : Instant).Storable := ⟨by decide, by decide, by decide⟩
  have hreached : Reached w.store :=
    ⟨Unit, env, { provider := () }, create "ada" "Notes" >>= fun _ => create "bob" "Plans",
      fun _ => hstorable, rfl, rfl⟩
  have hreached' : Reached s :=
    ⟨Unit, env, { provider := () }, create "ada" "Notes", fun _ => hstorable, rfl, rfl⟩
  have hsame : s.ofOwner ⟨"ada"⟩ = w.store.ofOwner ⟨"ada"⟩ := by decide +kernel
  have hheld : w.store.HeldByOther ⟨"ada"⟩ uid := by
    rw [Store.HeldByOther]
    decide +kernel
  have hlacks : ∀ row ∈ s.conversations, row.fits (.byUid uid) = false := by decide +kernel
  have hfaults : w.faults .getConversation = [] := by decide +kernel
  clear_value w s uid
  have htake : ∀ s', World.takeFault { w with store := s' } .getConversation =
      (.none, { w with store := s' }) := fun s' => by rw [World.takeFault, hfaults]
  have hread : ∀ s', (World.step env { w with store := s' } (.getConversation (.byUid uid))).1 =
      s'.get (.byUid uid) := fun s' =>
    World.attempt_reading_of_works (congrArg Prod.fst (htake s')) _ _
  have hfull : ((delete uid).program ⟨"ada"⟩).run env w = (.error notPermitted, w) := by
    obtain ⟨r, hr, hkeyed, hlegible⟩ := hreached.records
    obtain ⟨⟨c, hget, howner⟩, -⟩ := Records.get_byUid_of_held hlegible hkeyed (hr ▸ hheld)
    rw [delete_program, owned_andThen_run, hread w.store, hr, hget, ownedAnswer, if_neg howner]
    exact congrArg (_, ·) (congrArg Prod.snd (htake w.store))
  have hother : ((delete uid).program ⟨"ada"⟩).run env { w with store := s } =
      (.error (notFound uid), { w with store := s }) := by
    rw [delete_program, owned_andThen_run, hread, (Store.get_eq_none_iff s _).2 hlacks, ownedAnswer,
      htake]
  have hnew (w' : World Unit) : env.Fresh w'.store w'.idsUsed (w'.idsUsed - w'.idsUsed) :=
    ⟨fun i j _ _ _ => by omega, fun i _ _ => by omega, fun i _ _ => by omega⟩
  obtain ⟨hothers, -, hpart, hresult⟩ := program_confined (delete uid) hreached hreached' hsame
    (by rw [MakesUpNew, hfull]; exact hnew w) (by rw [MakesUpNew, hother]; exact hnew _)
  refine ⟨?_, hothers, hpart⟩
  rw [hfull, hother] at hresult ⊢
  obtain hresult | ⟨_, ⟨⟩, hresult | hresult⟩ := hresult
  · cases hresult
  · exact hresult
  · cases hresult.refused

end Operation

end ChatRelay
