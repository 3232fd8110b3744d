import ChatRelay.Proofs.Service.Isolation
import ChatRelay.Proofs.Store.Changes
import ChatRelay.Proofs.Store.Lookup
import ChatRelay.Service.Conversations

/-!
# Looking for a conversation of one's own

A user who names a conversation by its handle may name somebody else's. It is
looked for among the conversations of all users, and only then is the owner
compared. So the user is told that it is somebody else's (`notPermitted`), where
in a world without the others it would not be there (`notFound`).

`Isolated` says that this is the only difference that others make to a program,
and `owned_isolated` that it is so for whatever follows on such a lookup.
-/

namespace ChatRelay

open Time (Instant)

namespace Store

/-- A conversation with a handle is somebody else's. -/
def HeldByOther (s : Store) (owner : UserId) (uid : String) : Prop :=
  ∃ row ∈ s.conversations, row.uid = .text uid ∧ row.owner ≠ .text owner.text

/-- No conversation has a handle. -/
def Lacks (s : Store) (uid : String) : Prop :=
  ∀ row ∈ s.conversations, row.uid ≠ .text uid

namespace Records

variable {r : Records} {owner : UserId} {uid : String}

theorem heldByOther_rows :
    r.rows.HeldByOther owner uid ↔ ∃ c ∈ r.conversations, c.uid = uid ∧ c.owner ≠ owner := by
  constructor
  · rintro ⟨row, hrow, huid, howner⟩
    obtain ⟨c, hc, rfl⟩ := List.mem_map.1 hrow
    exact ⟨c, hc, Cell.text.inj huid, fun heq => howner (by rw [← heq]; rfl)⟩
  · rintro ⟨c, hc, huid, howner⟩
    refine ⟨_, List.mem_map_of_mem hc, congrArg Cell.text huid, fun heq => howner ?_⟩
    exact congrArg UserId.mk (Cell.text.inj heq)

/-- A handle that is somebody else's in one store is nobody's in another in which the user has the
same and nobody else has it. -/
theorem lacks_of_held {s : Store} (h : r.Keyed) (hsame : s.ofOwner owner = r.rows.ofOwner owner)
    (hheld : r.rows.HeldByOther owner uid) (hnot : ¬ s.HeldByOther owner uid) : s.Lacks uid := by
  intro row hrow huid
  by_cases howner : row.owner = .text owner.text
  · have hmine : row ∈ (r.rows.ofOwner owner).conversations :=
      hsame ▸ mem_ofOwner.2 ⟨hrow, howner⟩
    obtain ⟨c, hc, rfl⟩ := List.mem_map.1 (mem_ofOwner.1 hmine).1
    obtain ⟨c', hc', huid', howner'⟩ := heldByOther_rows.1 hheld
    rw [h.eq_of_shared hc' hc (.inr (huid'.trans (Cell.text.inj huid).symm))] at howner'
    exact howner' (congrArg UserId.mk (Cell.text.inj howner))
  · exact hnot ⟨row, hrow, huid, howner⟩

/-- A conversation that is not somebody else's is looked for among those of the user. -/
theorem get_byUid_of_not_held (h : r.Keyed) (hheld : ¬ r.rows.HeldByOther owner uid) :
    (r.rows.ofOwner owner).get (.byUid uid) = r.rows.get (.byUid uid) ∧
      ∀ c, r.rows.get (.byUid uid) = .ok (some c) → r.Holds owner c ∧ c.uid = uid := by
  have howner : ∀ c ∈ r.conversations,
      (ConversationRow.ofConversation c).fits (.byUid uid) = true →
        c.uid = uid ∧ c.owner = owner := fun c hc hfits => by
    rw [fits_byUid, beq_iff_eq] at hfits
    refine ⟨hfits, Classical.byContradiction fun hne => hheld ?_⟩
    exact heldByOther_rows.2 ⟨c, hc, hfits, hne⟩
  constructor
  · rw [ofOwner_rows, get_remove h fun c hc hfits => by simp [(howner c hc hfits).2]]
  · intro c hget
    obtain ⟨c', hc', hfits, hid, huid, -⟩ := of_get_rows hget
    obtain ⟨huid', howner'⟩ := howner c' hc' hfits
    exact ⟨⟨c', hc', hid.symm, huid.symm, howner'⟩, huid.trans huid'⟩

/-- A conversation that is somebody else's is found, but not among those of the user. -/
theorem get_byUid_of_held (h : r.Legible) (hkeyed : r.Keyed)
    (hheld : r.rows.HeldByOther owner uid) :
    (∃ c, r.rows.get (.byUid uid) = .ok (some c) ∧ c.owner ≠ owner) ∧
      (r.rows.ofOwner owner).get (.byUid uid) = .ok none := by
  obtain ⟨c, hc, huid, howner⟩ := heldByOther_rows.1 hheld
  have hsame : ∀ c' ∈ r.conversations, c'.uid = uid → c' = c := fun c' hc' huid' =>
    hkeyed.eq_of_shared hc' hc (.inr (huid'.trans huid.symm))
  constructor
  · obtain ⟨hnone, -⟩ | ⟨c', hc', hfits, messages, hget⟩ := h.get_rows_cases (.byUid uid)
    · have := hnone c hc
      simp [fits_byUid, huid] at this
    · rw [fits_byUid, beq_iff_eq] at hfits
      rw [hsame c' hc' hfits] at hget
      exact ⟨_, hget, howner⟩
  · rw [ofOwner_rows, get_eq_none_iff]
    intro row hrow
    obtain ⟨c', hc', rfl⟩ := List.mem_map.1 hrow
    obtain ⟨hc', hmine⟩ := mem_remove.1 hc'
    rw [fits_byUid, beq_eq_false_iff_ne]
    intro huid'
    rw [hsame c' hc' huid'] at hmine
    simp [howner] at hmine

end Records

end Store

namespace Service

open Conversations (failed notFound notPermitted owned)
open Store (Records StoreError)

variable {σ : Type} {env : Environment σ} {owner : UserId} {uid : String} {r : Records}
  {w : World σ}

/-- The next lookup of a conversation is carried out. -/
def World.LooksUp (w : World σ) : Prop := (w.takeFault .getConversation).1 = .none

/-- What a user is told who looks for a conversation by its handle. -/
def ownedAnswer (owner : UserId) (uid : String) :
    Except StoreError (Option Conversation) → Except ChatError Conversation
  | .error e => .error (failed "get conversation" e)
  | .ok none => .error (notFound uid)
  | .ok (some c) => if c.owner = owner then .ok c else .error notPermitted

theorem of_ownedAnswer_ok {found : Except StoreError (Option Conversation)} {c : Conversation}
    (h : ownedAnswer owner uid found = .ok c) : found = .ok (some c) := by
  rcases found with e | _ | c'
  · cases h
  · cases h
  · rw [ownedAnswer] at h
    split at h <;> cases h
    rfl

/-- What follows on a lookup depends on what the user is told. -/
theorem owned_andThen_run {α : Type} (k : Conversation → Program (Except ChatError α))
    (env : Environment σ) (owner : UserId) (uid : String) (w : World σ) :
    ((owned owner uid).andThen k).run env w =
      match ownedAnswer owner uid (w.step env (.getConversation (.byUid uid))).1 with
      | .error e => (.error e, (w.takeFault .getConversation).2)
      | .ok c => (k c).run env (w.takeFault .getConversation).2 := by
  have howned : (owned owner uid).run env w =
      (ownedAnswer owner uid (w.step env (.getConversation (.byUid uid))).1,
        (w.takeFault .getConversation).2) := by
    rw [← w.step_getConversation env (.byUid uid), owned, Program.run_bind_eq,
      Program.run_perform]
    rcases (w.step env (.getConversation (.byUid uid))).1 with e | _ | c <;> rfl
  rw [Program.andThen, Program.run_bind_eq, howned]
  cases ownedAnswer owner uid (w.step env (.getConversation (.byUid uid))).1 <;> rfl

/-- A program whose run makes no difference to others, nor do they to it, but that a user who looks
for a conversation of theirs is told so, and not that there is none. -/
structure Isolated (env : Environment σ) (owner : UserId) (handle : Option String) (w : World σ)
    {α : Type} (p : Program (Except ChatError α)) : Prop where
  others : (p.run env w).2.store.ofOthers owner = w.store.ofOthers owner
  world : (p.run env (w.onlyOf owner)).2 = (p.run env w).2.onlyOf owner
  same : (∀ uid, handle = some uid → w.LooksUp → ¬ w.store.HeldByOther owner uid) →
    (p.run env (w.onlyOf owner)).1 = (p.run env w).1
  refused : ∀ uid, handle = some uid → w.LooksUp → w.store.HeldByOther owner uid →
    (p.run env w).1 = .error notPermitted ∧
      (p.run env (w.onlyOf owner)).1 = .error (notFound uid)

/-- Either a user is told the same as where the others are not, or that a conversation is somebody
else's. -/
theorem Isolated.result_cases {handle : Option String} {α : Type} {p : Program (Except ChatError α)}
    (h : Isolated env owner handle w p) :
    ((∀ uid, handle = some uid → w.LooksUp → ¬ w.store.HeldByOther owner uid) ∧
        (p.run env (w.onlyOf owner)).1 = (p.run env w).1) ∨
      ∃ uid, handle = some uid ∧ w.LooksUp ∧ w.store.HeldByOther owner uid ∧
        (p.run env w).1 = .error notPermitted ∧
        (p.run env (w.onlyOf owner)).1 = .error (notFound uid) := by
  by_cases hheld : ∃ uid, handle = some uid ∧ w.LooksUp ∧ w.store.HeldByOther owner uid
  · obtain ⟨uid, huid, hlooks, hheld⟩ := hheld
    exact .inr ⟨uid, huid, hlooks, hheld, h.refused uid huid hlooks hheld⟩
  · have hnot : ∀ uid, handle = some uid → w.LooksUp → ¬ w.store.HeldByOther owner uid :=
      fun uid huid hlooks hother => hheld ⟨uid, huid, hlooks, hother⟩
    exact .inl ⟨hnot, h.same hnot⟩

/-- A user is told that a conversation is somebody else's in a store in which it is, and that there
is none in another store in which nobody has it. -/
structure TellsApart {α : Type} (owner : UserId) (uid : String) (s s' : Store)
    (result result' : Except ChatError α) : Prop where
  held : s.HeldByOther owner uid
  refused : result = .error notPermitted
  lacks : s'.Lacks uid
  missing : result' = .error (notFound uid)

/-- In two stores in which a user has the same, that user is told the same, or the stores are told
apart by a handle that is somebody else's. -/
theorem Isolated.result_eq_or {handle : Option String} {α : Type} {p : Program (Except ChatError α)}
    {s : Store} {r' : Records} (h : Isolated env owner handle w p)
    (h' : Isolated env owner handle { w with store := s } p) (hr : w.store = r.rows)
    (hkeyed : r.Keyed) (hr' : s = r'.rows) (hkeyed' : r'.Keyed)
    (hsame : s.ofOwner owner = w.store.ofOwner owner) :
    (p.run env { w with store := s }).1 = (p.run env w).1 ∨ ∃ uid, handle = some uid ∧
      (TellsApart owner uid w.store s (p.run env w).1 (p.run env { w with store := s }).1 ∨
        TellsApart owner uid s w.store (p.run env { w with store := s }).1 (p.run env w).1) := by
  have honly : ({ w with store := s } : World σ).onlyOf owner = w.onlyOf owner := by
    rw [World.onlyOf, World.onlyOf, hsame]
  have hlooks : ({ w with store := s } : World σ).LooksUp ↔ w.LooksUp := by
    rw [World.LooksUp, World.takeFault_withStore, World.LooksUp]
  have hcases' := h'.result_cases
  rw [honly, hlooks] at hcases'
  subst hr'
  rcases h.result_cases with ⟨hnot, halone⟩ | ⟨uid, huid, hlooks, hheld, hrefused, hmissing⟩ <;>
    rcases hcases' with ⟨hnot', halone'⟩ | ⟨uid', huid', hlooks', hheld', hrefused', hmissing'⟩
  · exact .inl (halone'.symm.trans halone)
  · have hlacks : w.store.Lacks uid' :=
      Records.lacks_of_held hkeyed' hsame.symm hheld' (hnot uid' huid' hlooks')
    exact .inr ⟨uid', huid', .inr ⟨hheld', hrefused', hlacks, halone.symm.trans hmissing'⟩⟩
  · have hlacks : r'.rows.Lacks uid :=
      Records.lacks_of_held hkeyed (hr ▸ hsame) (hr ▸ hheld) (hnot' uid huid hlooks)
    exact .inr ⟨uid, huid, .inl ⟨hheld, hrefused, hlacks, halone'.symm.trans hmissing⟩⟩
  · exact .inl (hrefused'.trans hrefused.symm)

theorem isolated_of_same {handle : Option String} {α : Type} {p : Program (Except ChatError α)}
    (h : p.RunsAlone env owner w)
    (hnot : ∀ uid, handle = some uid → w.LooksUp → ¬ w.store.HeldByOther owner uid) :
    Isolated env owner handle w p :=
  ⟨h.others, by rw [h.alone], fun _ => by rw [h.alone],
    fun uid huid hlooks hheld => absurd hheld (hnot uid huid hlooks)⟩

theorem isolated_of_refused {α : Type} {p : Program (Except ChatError α)} {w' : World σ}
    (hwhole : p.run env w = (.error notPermitted, w'))
    (hmine : p.run env (w.onlyOf owner) = (.error (notFound uid), w'.onlyOf owner))
    (hstore : w'.store = w.store) (hlooks : w.LooksUp) (hheld : w.store.HeldByOther owner uid) :
    Isolated env owner (some uid) w p := by
  refine ⟨by rw [hwhole, hstore], by rw [hwhole, hmine],
    fun h => absurd hheld (h uid rfl hlooks), ?_⟩
  rintro _ ⟨⟩ - -
  rw [hwhole, hmine]
  exact ⟨rfl, rfl⟩

/-- What a user does with a conversation that is looked for by its handle. -/
theorem owned_isolated {n : Nat} {α : Type} {k : Conversation → Program (Except ChatError α)}
    (hw : w.Serves env owner n [] r) (hlegible : r.Legible)
    (hk : ∀ c w', r.Holds owner c → c.uid = uid → w'.Serves env owner n [] r →
      w'.idsUsed = w.idsUsed → (k c).RunsAlone env owner w') :
    Isolated env owner (some uid) w ((owned owner uid).andThen k) := by
  have hnext : (w.takeFault .getConversation).2.Serves env owner n [] r ∧
      (w.takeFault .getConversation).2.idsUsed = w.idsUsed := by
    rw [w.takeFault_eq]
    exact ⟨⟨hw.store, hw.keyed, hw.fresh, hw.known⟩, rfl⟩
  have hstore : (w.takeFault .getConversation).2.store = w.store := by rw [w.takeFault_eq]
  have hpart : ((w.onlyOf owner).takeFault .getConversation).2 =
      (w.takeFault .getConversation).2.onlyOf owner := by
    rw [World.onlyOf, World.takeFault_withStore, World.onlyOf, w.takeFault_eq]
  have hwhole := owned_andThen_run k env owner uid w
  have hmine := owned_andThen_run k env owner uid (w.onlyOf owner)
  rw [hpart] at hmine
  generalize (w.takeFault .getConversation).2 = w' at *
  by_cases hlooks : w.LooksUp
  · have hlooks' : (w.onlyOf owner).LooksUp := by
      rw [World.LooksUp, World.onlyOf, World.takeFault_withStore]
      exact hlooks
    have hanswer : (w.step env (.getConversation (.byUid uid))).1 = r.rows.get (.byUid uid) := by
      rw [← hw.store]
      exact World.attempt_reading_of_works hlooks _ _
    have hanswer' : ((w.onlyOf owner).step env (.getConversation (.byUid uid))).1 =
        (r.rows.ofOwner owner).get (.byUid uid) := by
      rw [← hw.store]
      exact World.attempt_reading_of_works hlooks' _ _
    rw [hanswer] at hwhole
    rw [hanswer'] at hmine
    by_cases hheld : w.store.HeldByOther owner uid
    · -- the user is refused, where there would be nothing without the others
      obtain ⟨⟨c, hget, howner⟩, hnone⟩ :=
        Records.get_byUid_of_held hlegible hw.keyed (hw.store ▸ hheld)
      rw [hget, ownedAnswer, if_neg howner] at hwhole
      rw [hnone] at hmine
      exact isolated_of_refused hwhole hmine hstore hlooks hheld
    · obtain ⟨hget, hfound⟩ := Records.get_byUid_of_not_held hw.keyed (hw.store ▸ hheld)
      rw [hget] at hmine
      refine isolated_of_same ?_ fun _ huid _ => Option.some.inj huid ▸ hheld
      cases htold : ownedAnswer owner uid (r.rows.get (.byUid uid)) with
      | error e =>
        rw [htold] at hwhole hmine
        exact ⟨by rw [hwhole, hmine], by rw [hwhole, hstore]⟩
      | ok c =>
        rw [htold] at hwhole hmine
        dsimp only at hwhole hmine
        obtain ⟨hholds, huid⟩ := hfound c (of_ownedAnswer_ok htold)
        have hk := hk c w' hholds huid hnext.1 hnext.2
        exact ⟨by rw [hwhole, hmine, hk.alone], by rw [hwhole, hk.others, hstore]⟩
  · -- the lookup is not carried out, and whatever is kept the user is told the same
    refine isolated_of_same ?_ fun _ _ h => absurd h hlooks
    obtain ⟨a, ha, hsame⟩ := World.attempt_reading_of_fault hlooks none
      (Store.get · (.byUid uid))
    have hanswer : (w.step env (.getConversation (.byUid uid))).1 = a := hsame w.store
    have hanswer' : ((w.onlyOf owner).step env (.getConversation (.byUid uid))).1 = a := hsame _
    obtain ⟨e, he⟩ : ∃ e, ownedAnswer owner uid a = .error e := by
      obtain rfl | ⟨e, rfl⟩ := ha <;> exact ⟨_, rfl⟩
    rw [hanswer, he] at hwhole
    rw [hanswer', he] at hmine
    exact ⟨by rw [hwhole, hmine], by rw [hwhole, hstore]⟩

end Service

end ChatRelay
