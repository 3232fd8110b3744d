import ChatRelay.Proofs.Service.Transcript
import Mathlib.Logic.Function.Basic

/-!
# Programs that take turns

Several programs share a store. They take turns, and a turn is one call
(`Interleaved`). What a call to the store is answered is told by the store as it is
at that turn. Every program has a provider and a caller of its own, so all other
calls may be answered anything.

* `Interleaved.makes`: the turns of one program are calls that it makes by itself.
* `Interleaved.chain`: every turn begins in the world that the turn before has left.
* `interleaved_takeTurns`: programs that come to their end in a given order have taken
  turns.
-/

namespace ChatRelay.Service

variable {α β σ ι : Type}

/-! ## The calls that a program can make -/

namespace Program

/-- When its calls are answered so, a program makes these calls and comes to this result. -/
def Makes : Program α → List Answered → α → Prop
  | .done a, calls, result => calls = [] ∧ result = a
  | .call c next, calls, result =>
    ∃ answer rest, calls = ⟨c, answer⟩ :: rest ∧ (next answer).Makes rest result

variable {calls : List Answered} {result : α}

/-- A program goes on with the answer of its first call. -/
theorem makes_perform_bind (c : Call) {f : c.Answer → Program β} {result : β} :
    (perform c >>= f).Makes calls result ↔
      ∃ answer rest, calls = ⟨c, answer⟩ :: rest ∧ (f answer).Makes rest result := Iff.rfl

/-- A program that goes on with another makes the calls of both. -/
theorem makes_bind {p : Program α} {f : α → Program β} {result : β} :
    (p >>= f).Makes calls result ↔
      ∃ first rest a, calls = first ++ rest ∧ p.Makes first a ∧ (f a).Makes rest result := by
  rw [bind_eq]
  induction p generalizing calls with
  | done a =>
    constructor
    · exact fun h => ⟨[], calls, a, rfl, ⟨rfl, rfl⟩, h⟩
    · rintro ⟨_, rest, _, rfl, ⟨rfl, rfl⟩, h⟩
      exact h
  | call c next ih =>
    constructor
    · rintro ⟨answer, rest, rfl, h⟩
      obtain ⟨first, last, a, rfl, hp, hf⟩ := (ih answer).1 h
      exact ⟨⟨c, answer⟩ :: first, last, a, rfl, ⟨answer, first, rfl, hp⟩, hf⟩
    · rintro ⟨_, last, a, rfl, ⟨answer, first, rfl, hp⟩, hf⟩
      exact ⟨answer, first ++ last, rfl, (ih answer).2 ⟨first, last, a, rfl, hp, hf⟩⟩

/-- A program that fails makes no more calls. -/
theorem makes_andThen {ε : Type} {p : Program (Except ε α)} {f : α → Program (Except ε β)}
    {result : Except ε β} :
    (p.andThen f).Makes calls result ↔
      (∃ e, p.Makes calls (.error e) ∧ result = .error e) ∨
      ∃ first rest a, calls = first ++ rest ∧ p.Makes first (.ok a) ∧ (f a).Makes rest result := by
  rw [andThen, makes_bind]
  constructor
  · rintro ⟨first, rest, e | a, rfl, hp, hrest⟩
    · obtain ⟨rfl, rfl⟩ := hrest
      rw [List.append_nil]
      exact .inl ⟨e, hp, rfl⟩
    · exact .inr ⟨first, rest, a, rfl, hp, hrest⟩
  · rintro (⟨e, hp, rfl⟩ | ⟨first, rest, a, rfl, hp, hrest⟩)
    · exact ⟨calls, [], .error e, (List.append_nil calls).symm, hp, rfl, rfl⟩
    · exact ⟨first, rest, .ok a, rfl, hp, hrest⟩

/-- All calls are allowed, and the result is as it should be. -/
theorem Does.makes {allowed : Call → Prop} {post : α → Prop} {p : Program α}
    (h : p.Does allowed post) (hmakes : p.Makes calls result) :
    (∀ made ∈ calls, allowed made.call) ∧ post result := by
  induction p generalizing calls with
  | done a =>
    obtain ⟨rfl, rfl⟩ := hmakes
    exact ⟨List.forall_mem_nil _, h⟩
  | call c next ih =>
    obtain ⟨answer, rest, rfl, hrest⟩ := hmakes
    obtain ⟨hall, hpost⟩ := ih answer (h.2 answer) hrest
    exact ⟨List.forall_mem_cons.2 ⟨h.1, hall⟩, hpost⟩

end Program

/-! ## Turns -/

/-- A call to the store is carried out. What any other call is answered is not for the store to say,
and the store has no part in it. -/
inductive World.Takes (env : Environment σ) (w : World σ) : (c : Call) → c.Answer → World σ → Prop
    where
  | store {c : Call} (h : (c.act? env w).isSome) : w.Takes env c (w.step env c).1 (w.step env c).2
  | elsewhere {c : Call} (h : c.act? env w = none) (a : c.Answer) {w' : World σ}
      (hstore : w'.store = w.store) (hreadings : w'.readings = w.readings)
      (hids : w'.idsUsed = w.idsUsed) (hfaults : w'.faults = w.faults) : w.Takes env c a w'

/-- A turn: who made which call, and the world before and after it. -/
structure Turn (ι σ : Type) where
  party : ι
  made : Answered
  before : World σ
  after : World σ

/-- Some parties take turns until all of them have come to their end. -/
inductive Interleaved [DecidableEq ι] (env : Environment σ) :
    (ι → Program Unit) → World σ → List (Turn ι σ) → World σ → Prop where
  | done {parties : ι → Program Unit} {w : World σ} (h : ∀ i, parties i = .done ()) :
      Interleaved env parties w [] w
  | turn {parties : ι → Program Unit} {w w' w'' : World σ} {log : List (Turn ι σ)} (i : ι)
      {c : Call} {next : c.Answer → Program Unit} {answer : c.Answer}
      (hcall : parties i = .call c next) (htakes : w.Takes env c answer w')
      (hrest : Interleaved env (Function.update parties i (next answer)) w' log w'') :
      Interleaved env parties w (⟨i, ⟨c, answer⟩, w, w'⟩ :: log) w''

/-- The calls of a party. -/
def callsOf [DecidableEq ι] (i : ι) (log : List (Turn ι σ)) : List Answered :=
  (log.filter (·.party = i)).map Turn.made

/-- The turns lead from one world to another. -/
def Chain (env : Environment σ) : World σ → List (Turn ι σ) → World σ → Prop
  | w, [], w' => w' = w
  | w, t :: log, w' =>
    t.before = w ∧ w.Takes env t.made.call t.made.answer t.after ∧ Chain env t.after log w'

variable {env : Environment σ} {w w' : World σ} {log log' : List (Turn ι σ)}

/-- The turns of a party are the calls that it makes by itself, by induction on the turns. -/
theorem Interleaved.makes [DecidableEq ι] {parties : ι → Program Unit}
    (h : Interleaved env parties w log w') (i : ι) : (parties i).Makes (callsOf i log) () := by
  induction h with
  | done h =>
    rw [h i]
    exact ⟨rfl, rfl⟩
  | @turn parties w w' w'' log j c next answer hcall _ _ ih =>
    by_cases hij : i = j
    · rw [hij] at ih ⊢
      rw [Function.update_self] at ih
      have hcalls : callsOf j (⟨j, ⟨c, answer⟩, w, w'⟩ :: log) =
          ⟨c, answer⟩ :: callsOf j log := by
        simp [callsOf]
      rw [hcall, hcalls]
      exact ⟨answer, _, rfl, ih⟩
    · rw [Function.update_of_ne hij] at ih
      have hcalls : callsOf i (⟨j, ⟨c, answer⟩, w, w'⟩ :: log) = callsOf i log := by
        simp [callsOf, Ne.symm hij]
      rwa [hcalls]

theorem Interleaved.chain [DecidableEq ι] {parties : ι → Program Unit}
    (h : Interleaved env parties w log w') : Chain env w log w' := by
  induction h with
  | done => rfl
  | turn i hcall htakes _ ih => exact ⟨rfl, htakes, ih⟩

theorem World.Takes.idsUsed_le {c : Call} {a : c.Answer} (h : w.Takes env c a w') :
    w.idsUsed ≤ w'.idsUsed := by
  cases h with
  | store => exact (w.step_idsUsed env c).1
  | elsewhere _ _ _ _ hids => exact Nat.le_of_eq hids.symm

theorem Chain.idsUsed_le (h : Chain env w log w') : w.idsUsed ≤ w'.idsUsed := by
  induction log generalizing w with
  | nil =>
    rw [Chain] at h
    exact h ▸ Nat.le_refl _
  | cons t log ih => exact Nat.le_trans h.2.1.idsUsed_le (ih h.2.2)

theorem chain_append :
    Chain env w (log ++ log') w' ↔ ∃ mid, Chain env w log mid ∧ Chain env mid log' w' := by
  induction log generalizing w with
  | nil =>
    constructor
    · exact fun h => ⟨w, rfl, h⟩
    · rintro ⟨_, rfl, h⟩
      exact h
  | cons t log ih =>
    constructor
    · rintro ⟨hbefore, htakes, h⟩
      obtain ⟨mid, hfirst, hrest⟩ := ih.1 h
      exact ⟨mid, ⟨hbefore, htakes, hfirst⟩, hrest⟩
    · rintro ⟨mid, ⟨hbefore, htakes, hfirst⟩, hrest⟩
      exact ⟨hbefore, htakes, ih.2 ⟨mid, hfirst, hrest⟩⟩

/-! ## Schedules -/

def Program.isDone : Program α → Bool
  | .done _ => true
  | .call .. => false

/-- Some programs take turns in an order that is given. The turns, what is left of the programs, and
the world that comes of it. -/
def takeTurns [DecidableEq ι] (env : Environment σ) :
    List ι → (ι → Program Unit) → World σ → List (Turn ι σ) × (ι → Program Unit) × World σ
  | [], parties, w => ([], parties, w)
  | i :: order, parties, w =>
    match parties i with
    | .done _ => takeTurns env order parties w
    | .call c next =>
      let (answer, w') := w.step env c
      let (log, rest) := takeTurns env order (Function.update parties i (next answer)) w'
      (⟨i, ⟨c, answer⟩, w, w'⟩ :: log, rest)

/-- Carrying out a call is a turn. -/
theorem World.takes_step (env : Environment σ) (w : World σ) (c : Call) :
    w.Takes env c (w.step env c).1 (w.step env c).2 := by
  cases hf : c.act? env w with
  | some f => exact .store (hf ▸ rfl)
  | none =>
    have hfaults : (w.step env c).2.faults = w.faults := by
      cases c with
      | createProvider | stream | complete | report => rfl
      | deliver e =>
        rw [step, deliver]
        rcases w.room with _ | _ | n <;> rfl
      | _ => cases hf
    have hstep := (step_of_act?_eq_none hf).2
    have hstore := congrArg World.store hstep
    have hreadings := congrArg World.readings hstep
    have hids := congrArg World.idsUsed hstep
    exact .elsewhere hf _ hstore hreadings hids hfaults

/-- Programs that come to their end in some order have taken turns. -/
theorem interleaved_takeTurns [DecidableEq ι] {order : List ι} {parties : ι → Program Unit}
    (h : ∀ i, ((takeTurns env order parties w).2.1 i).isDone = true) :
    Interleaved env parties w (takeTurns env order parties w).1
      (takeTurns env order parties w).2.2 := by
  induction order generalizing parties w with
  | nil =>
    refine .done fun i => ?_
    have hi : (parties i).isDone = true := h i
    cases hp : parties i with
    | done => rfl
    | call => rw [hp] at hi; cases hi
  | cons i order ih =>
    rw [takeTurns] at h ⊢
    split
    · rename_i hp
      simp only [hp] at h
      exact ih h
    · rename_i c next hp
      simp only [hp] at h
      exact .turn i hp (w.takes_step env c) (ih h)

end ChatRelay.Service
