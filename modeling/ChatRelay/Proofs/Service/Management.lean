import ChatRelay.Proofs.Service.Owned
import ChatRelay.Proofs.Service.Steps
import ChatRelay.Proofs.Store.Unreadable

/-!
# Managing conversations whatever the store holds

The store changes a row before it reads it, and so an update can fail that has changed
something. A user does not see this. Before anything is changed the conversation is
looked up (`Conversations.onOwned_cases`), and every column is read for that which is
read after the change. So what a user asks for is done, or it fails and the store is as
it was (`Conversations.manage_all_or_nothing`).
-/

namespace ChatRelay.Service

open Conversations (failed owned)
open Program (perform)
open Store (ConversationRow StoreError storedTime)

variable {σ : Type} {env : Environment σ} {w : World σ} {owner : UserId} {uid : String}

/-! ## Looking up first -/

/-- The call only looks for conversations. -/
def Call.IsLookup : Call → Prop
  | .findConversations _ | .getConversation _ => True
  | _ => False

/-- A call to the store does its work there, or it leaves the store alone. -/
theorem World.step_store_cases (env : Environment σ) (w : World σ) {c : Call}
    {f : Store → c.Answer × Store} (hf : c.act? env w = some f) :
    (∃ a w', c.Skipped a ∧ w'.store = w.store ∧ w.step env c = (a, w')) ∨
      ∃ w', w'.store = (f w.store).2 ∧ w.step env c = ((f w.store).1, w') := by
  obtain ⟨faults, hstep | ⟨a, ha, hstep⟩⟩ := World.step_cases_self hf
  · exact .inr ⟨_, rfl, hstep⟩
  · exact .inl ⟨a, { w with faults }, ha, rfl, hstep⟩

theorem World.step_lookup (env : Environment σ) {c : Call} (hc : c.IsLookup) (w : World σ) :
    (w.step env c).2.store = w.store := by
  cases c with
  | findConversations f =>
    have hstep : (w.step env (.findConversations f)).2 = (w.takeFault .findConversations).2 :=
      w.attempt_reading _ _ _
    rw [hstep, w.takeFault_eq]
  | getConversation f => rw [w.step_getConversation, w.takeFault_eq]
  | _ => cases hc

namespace Conversations

/-- What is done to a conversation of a user, which is looked up by its handle before. `action`
says what it is for. -/
def onOwned {α : Type} (owner : UserId) (uid action : String)
    (p : Program (Except StoreError α)) : Program (Except ChatError α) :=
  (owned owner uid).andThen fun _ => p >>= fun done => pure (Except.mapError (failed action) done)

theorem rename_eq (owner : UserId) (uid : String) {title : String}
    (h : Text.trimText title ≠ "") :
    rename (some owner) uid title =
      onOwned owner uid "update conversation"
        (perform (.updateConversation { uid, title := some (Text.trimText title) })) := by
  rw [rename, if_neg h]
  exact Program.bind_eq_andThen (fun _ => rfl) fun _ => rfl

theorem delete_eq (owner : UserId) (uid : String) :
    delete (some owner) uid =
      onOwned owner uid "delete conversation" (perform (.deleteConversation (.byUid uid))) :=
  Program.bind_eq_andThen (fun _ => rfl) fun _ => rfl

theorem list_lookups (caller : Option UserId) :
    (list caller).Does Call.IsLookup fun _ => True := by
  cases caller with
  | none => exact .pure trivial
  | some owner => exact .bind (.perform trivial fun _ => trivial) fun _ _ => .pure trivial

theorem get_lookups (caller : Option UserId) (uid : String) :
    (get caller uid).Does Call.IsLookup fun _ => True := by
  cases caller with
  | none => exact .pure trivial
  | some owner =>
    refine .bind (.perform trivial fun _ => trivial) fun found _ => ?_
    rcases found with e | _ | c <;> exact .pure trivial

/-- A lookup that is refused fails and leaves the store alone. Otherwise the conversation can be
read, with its messages, and it is the user's. -/
theorem onOwned_cases {α : Type} (env : Environment σ) (owner : UserId) (uid action : String)
    (p : Program (Except StoreError α)) (w : World σ) :
    (∃ e w', w'.store = w.store ∧ (onOwned owner uid action p).run env w = (.error e, w')) ∨
      ∃ c w', w.store.get (.byUid uid) = .ok (some c) ∧ c.owner = owner ∧
        w'.store = w.store ∧ w'.readings = w.readings ∧
        ∀ answer w'', p.run env w' = (answer, w'') →
          (onOwned owner uid action p).run env w = (answer.mapError (failed action), w'') := by
  have hrun := owned_andThen_run
    (fun _ => p >>= fun done => pure (Except.mapError (failed action) done)) env owner uid w
  have hsame : (w.takeFault .getConversation).2.store = w.store ∧
      (w.takeFault .getConversation).2.readings = w.readings := by
    rw [w.takeFault_eq]
    exact ⟨rfl, rfl⟩
  rw [onOwned]
  cases htold : ownedAnswer owner uid (w.step env (.getConversation (.byUid uid))).1 with
  | error e =>
    rw [htold] at hrun
    exact .inl ⟨e, _, hsame.1, hrun⟩
  | ok c =>
    rw [htold] at hrun
    refine .inr ⟨c, _, ?_, ?_, hsame.1, hsame.2, fun answer w'' hp => ?_⟩
    · have hfound := of_ownedAnswer_ok htold
      by_cases hlooks : w.LooksUp
      · exact (World.attempt_reading_of_works hlooks _ _).symm.trans hfound
      · -- a call that is made to fail finds no conversation
        obtain ⟨a, ha, hsame⟩ := World.attempt_reading_of_fault hlooks none
          (Store.get · (.byUid uid))
        have hanswer : a = .ok (some c) := (hsame w.store).symm.trans hfound
        obtain rfl | ⟨e, rfl⟩ := ha <;> cases hanswer
    · rw [of_ownedAnswer_ok htold, ownedAnswer] at htold
      split at htold
      · assumption
      · cases htold
    · rw [hrun, Program.run_bind_eq, hp]
      rfl

/-- A program does its work in the store, which may depend on the reading of the clock, or it fails
and leaves the store alone. -/
def Tries {α : Type} (env : Environment σ) (p : Program (Except StoreError α))
    (work : Nat → Store → Except StoreError α × Store) : Prop :=
  ∀ w, (∃ e w', w'.store = w.store ∧ p.run env w = (.error e, w')) ∨
    ∃ w', w'.store = (work w.readings w.store).2 ∧
      p.run env w = ((work w.readings w.store).1, w')

theorem tries_update (env : Environment σ) (u : Store.Update) :
    Tries env (perform (.updateConversation u)) fun n s => s.update u (env.clock n) := by
  intro w
  obtain ⟨_, w', ⟨e, rfl⟩, hkept, hstep⟩ | hdone :=
    w.step_store_cases env (c := .updateConversation u) rfl
  · exact .inl ⟨e, w', hkept, hstep⟩
  · exact .inr hdone

theorem tries_delete (env : Environment σ) (f : Filter) :
    Tries env (perform (.deleteConversation f)) fun _ s => s.delete f := by
  intro w
  obtain ⟨_, w', ⟨e, rfl⟩, hkept, hstep⟩ | hdone :=
    w.step_store_cases env (c := .deleteConversation f) rfl
  · exact .inl ⟨e, w', hkept, hstep⟩
  · exact .inr hdone

/-- What is done to a conversation of a user is done where there is one row with the handle, and
that row can be read and is the user's. -/
theorem onOwned_row_cases {α : Type} {p : Program (Except StoreError α)}
    {work : Nat → Store → Except StoreError α × Store} (hp : Tries env p work)
    (hhandles : w.store.DistinctHandles) (owner : UserId) (uid action : String) :
    (∃ e w', w'.store = w.store ∧ (onOwned owner uid action p).run env w = (.error e, w')) ∨
      ∃ row c w', w.store.rowsOf uid = [row] ∧ row.Reads c ∧ c.owner = owner ∧
        w'.store = (work w.readings w.store).2 ∧
        (onOwned owner uid action p).run env w =
          ((work w.readings w.store).1.mapError (failed action), w') := by
  obtain hrefused | ⟨c, w', hget, howner, hstore, hreadings, hrun⟩ :=
    onOwned_cases env owner uid action p w
  · exact .inl hrefused
  · obtain ⟨e, w'', hkept, hstep⟩ | ⟨w'', hdone, hstep⟩ := hp w'
    · exact .inl ⟨_, w'', hkept.trans hstore, hrun _ _ hstep⟩
    · rw [hstore, hreadings] at hdone hstep
      obtain ⟨row, hrow, hreads⟩ := Store.reads_of_get_byUid hhandles hget
      exact .inr ⟨row, _, w'', hrow, hreads, howner, hdone, hrun _ _ hstep⟩

/-! ## All or nothing -/

/-- The title of a conversation is changed, and it is the user's, or it fails and the store is as it
was. -/
theorem rename_cases (hhandles : w.store.DistinctHandles)
    (hnow : (env.clock w.readings).Writable) (caller : Option UserId) (uid title : String) :
    (∃ e w', w'.store = w.store ∧ (rename caller uid title).run env w = (.error e, w')) ∨
      ∃ owner row c w', caller = some owner ∧ row.uid = .text uid ∧ row.Reads c ∧
        c.owner = owner ∧
        w.store.Replaces w'.store row
          (row.change { uid, title := some (Text.trimText title) } (env.clock w.readings)) ∧
        (rename caller uid title).run env w =
          (.ok
            { c with
              title := Text.trimText title
              updatedAt := (env.clock w.readings).truncate }, w') := by
  cases caller with
  | none => exact .inl ⟨_, w, rfl, rfl⟩
  | some owner =>
    by_cases htitle : Text.trimText title = ""
    · refine .inl ⟨⟨.invalidArgument, "title cannot be empty"⟩, w, rfl, ?_⟩
      rw [rename, if_pos htitle]
      rfl
    · rw [rename_eq owner uid htitle]
      generalize hu : ({ uid, title := some (Text.trimText title) } : Store.Update) = u
      obtain hfailed | ⟨row, c, w', hrow, hreads, howner, hstore, hrun⟩ :=
        onOwned_row_cases (tries_update env u) hhandles owner uid "update conversation"
      · exact .inl hfailed
      · -- the row that was looked up can be read, and so it can be after the change
        obtain ⟨hdecode, hreplaces⟩ := Store.update_of_rowsOf (u := u)
          (by rw [← hu]; exact hrow) (env.clock w.readings)
        have hread := ConversationRow.decode_eq_ok_iff.2 (hreads.change u hnow)
        refine .inr ⟨owner, row, c, w', rfl, (Store.split_of_rowsOf hrow).1, hreads, howner,
          hstore ▸ hreplaces, ?_⟩
        rw [hrun, hdecode, hread, ← hu]
        rfl

/-- A conversation is deleted, and it is the user's, or it fails and the store is as it was. -/
theorem delete_cases (env : Environment σ) (hhandles : w.store.DistinctHandles)
    (caller : Option UserId) (uid : String) :
    (∃ e w', w'.store = w.store ∧ (delete caller uid).run env w = (.error e, w')) ∨
      ∃ owner row c w', caller = some owner ∧ row.uid = .text uid ∧ row.Reads c ∧
        c.owner = owner ∧ w.store.Drops w'.store row ∧
        (delete caller uid).run env w = (.ok (), w') := by
  cases caller with
  | none => exact .inl ⟨_, w, rfl, rfl⟩
  | some owner =>
    rw [delete_eq]
    obtain hfailed | ⟨row, c, w', hrow, hreads, howner, hstore, hrun⟩ :=
      onOwned_row_cases (tries_delete env (.byUid uid)) hhandles owner uid "delete conversation"
    · exact .inl hfailed
    · obtain ⟨hdeleted, hdrops⟩ := Store.delete_of_rowsOf hrow
      refine .inr ⟨owner, row, c, w', rfl, (Store.split_of_rowsOf hrow).1, hreads, howner,
        hstore ▸ hdrops, ?_⟩
      rw [hrun, hdeleted]
      rfl

/-- Whatever the rows hold and whichever calls are made to fail, to list and to read conversations
changes nothing. What fails to be renamed or deleted changes nothing either. A conversation that is
renamed is the user's, its row has the title without the blanks around it and the time of the
change, and the answer is what is read of that row. A conversation that is deleted is the user's,
and its row and those of its messages are gone. -/
theorem manage_all_or_nothing (hhandles : w.store.DistinctHandles)
    (hnow : (env.clock w.readings).Writable) (caller : Option UserId) (uid title : String) :
    let renamed := (rename caller uid title).run env w
    let deleted := (delete caller uid).run env w
    ((list caller).run env w).2.store = w.store ∧
    ((get caller uid).run env w).2.store = w.store ∧
    (∀ e, renamed.1 = .error e → renamed.2.store = w.store) ∧
    (∀ c, renamed.1 = .ok c → caller = some c.owner ∧ c.uid = uid ∧
      c.title = Text.trimText title ∧ c.messages = [] ∧ ∃ row row',
        row' =
          { row with
            title := .text (Text.trimText title)
            updatedAt := .text (storedTime (env.clock w.readings).truncate) } ∧
        row.uid = .text uid ∧ w.store.Replaces renamed.2.store row row' ∧
        row'.decode = .ok c) ∧
    (∀ e, deleted.1 = .error e → deleted.2.store = w.store) ∧
    (deleted.1 = .ok () → ∃ owner row, caller = some owner ∧ row.uid = .text uid ∧
      row.owner.read "owner_id" = .ok owner.text ∧ w.store.Drops deleted.2.store row) := by
  intro renamed deleted
  refine ⟨(list_lookups caller).run_keeps env World.store (fun _ hc w => w.step_lookup env hc) w,
    (get_lookups caller uid).run_keeps env World.store (fun _ hc w => w.step_lookup env hc) w,
    ?_⟩
  rw [← and_assoc]
  refine ⟨?_, ?_⟩
  · obtain ⟨e, w', hstore, hrun⟩ | ⟨owner, row, c, w', hcaller, huid, hreads, howner, hreplaces,
      hrun⟩ := rename_cases hhandles hnow caller uid title
    · simp only [renamed, hrun]
      exact ⟨fun _ _ => hstore, nofun⟩
    · simp only [renamed, hrun]
      refine ⟨nofun, ?_⟩
      rintro _ ⟨⟩
      have hread := hreads.change { uid, title := some (Text.trimText title) } hnow
      have hcuid : c.uid = uid := by
        have := hreads.uid
        rw [huid] at this
        exact (Except.ok.inj this).symm
      exact ⟨howner ▸ hcaller, hcuid, rfl, hread.bare, row, _, rfl, huid, hreplaces,
        ConversationRow.decode_eq_ok_iff.2 hread⟩
  · obtain ⟨e, w', hstore, hrun⟩ | ⟨owner, row, c, w', hcaller, huid, hreads, howner, hdrops,
      hrun⟩ := delete_cases env hhandles caller uid
    · simp only [deleted, hrun]
      exact ⟨fun _ _ => hstore, nofun⟩
    · simp only [deleted, hrun]
      exact ⟨nofun, fun _ => ⟨owner, row, hcaller, huid, howner ▸ hreads.owner, hdrops⟩⟩

/-- Beside a conversation of Bob's that cannot be read, Ada gives hers another title. That it cannot
be deleted then does no harm. -/
theorem manage_all_or_nothing_beside_unreadable :
    let env : Environment Unit :=
      { clock := fun _ => ⟨1577923200, 0⟩
        ids := Uuid.ofNat
        provider :=
          { create := fun _ => .ok ()
            stream := fun _ _ _ => ([], ())
            complete := fun _ _ _ => (.error .authenticationFailed, ()) } }
    let bobs : ConversationRow :=
      { Store.dateless with id := .raw [0xff], uid := .text "c2", owner := .text "bob" }
    let adas : ConversationRow :=
      { Store.dateless with createdAt := .text "2020-01-01T00:00:00.000000Z" }
    let w : World Unit :=
      { store := { conversations := [bobs, adas] }
        faults := fun m => if m = .deleteConversation then [.fails .connection] else []
        provider := () }
    let renamed := (rename (some ⟨"ada"⟩) "c1" " Plans ").run env w
    let deleted := (delete (some ⟨"ada"⟩) "c1").run env w
    w.store.DistinctHandles ∧ (env.clock w.readings).Writable ∧
      (∃ c row row', renamed.1 = .ok c ∧ c.title = "Plans" ∧
        w.store.Replaces renamed.2.store row row' ∧ row'.decode = .ok c) ∧
      deleted.1 = .error (failed "delete conversation" .connection) ∧
      deleted.2.store = w.store := by
  intro env bobs adas w renamed deleted
  have hhandles : w.store.DistinctHandles := by
    simp [Store.DistinctHandles, w, bobs, adas, Store.dateless]
  have hnow : (env.clock w.readings).Writable := ⟨by decide, by decide, by decide⟩
  have hrenamed : ∃ c, renamed.1 = .ok c := by
    have hok : renamed.1.isOk = true := by decide +kernel
    cases h : renamed.1 with
    | error e =>
      rw [h] at hok
      cases hok
    | ok c => exact ⟨c, rfl⟩
  have hdeleted : deleted.1 = .error (failed "delete conversation" .connection) := by
    decide +kernel
  obtain ⟨c, hok⟩ := hrenamed
  obtain ⟨-, -, -, hdone, hkept, -⟩ :=
    manage_all_or_nothing hhandles hnow (some ⟨"ada"⟩) "c1" " Plans "
  obtain ⟨-, -, htitle, -, row, row', -, -, hreplaces, hread⟩ := hdone c hok
  have htrim : Text.trimText " Plans " = "Plans" := by decide +kernel
  exact ⟨hhandles, hnow, ⟨c, row, row', hok, htitle.trans htrim, hreplaces, hread⟩, hdeleted,
    hkept _ hdeleted⟩

end Conversations

end ChatRelay.Service
