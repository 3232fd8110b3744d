import ChatRelay.Service.World

/-!
# Which calls a program makes

`Program.Does allowed post` says of a program that every call it can make is
allowed and every result it can have satisfies `post`, whatever the calls are
answered with.

A program that sends no event (`Silent`) knows nothing of its caller's stream:
it runs the same whatever was delivered and whatever room is left
(`Silent.run_withSink`).
-/

namespace ChatRelay.Service

open Generation (Event)

variable {α β γ σ ε : Type}

namespace Program

/-- Goes on with the result of a program that may fail. -/
def andThen (p : Program (Except ε α)) (f : α → Program (Except ε β)) :
    Program (Except ε β) :=
  p >>= fun
    | .error e => pure (.error e)
    | .ok a => f a

theorem bind_eq (p : Program α) (f : α → Program β) : p >>= f = p.bind f := rfl

@[simp] theorem run_pure (env : Environment σ) (a : α) (w : World σ) :
    (pure a : Program α).run env w = (a, w) := rfl

@[simp] theorem run_perform (env : Environment σ) (c : Call) (w : World σ) :
    (perform c).run env w = w.step env c := rfl

@[simp] theorem run_bind_eq (env : Environment σ) (p : Program α) (f : α → Program β)
    (w : World σ) :
    (p >>= f).run env w = (f (p.run env w).1).run env (p.run env w).2 :=
  run_bind env p f w

theorem andThen_ok (a : α) (f : α → Program (Except ε β)) :
    (pure (.ok a) : Program (Except ε α)).andThen f = f a := rfl

theorem andThen_error (e : ε) (f : α → Program (Except ε β)) :
    (pure (.error e) : Program (Except ε α)).andThen f = pure (.error e) := rfl

/-- A program goes on by `andThen` when it hands on every failure. -/
theorem bind_eq_andThen {p : Program (Except ε α)} {next : Except ε α → Program (Except ε β)}
    {f : α → Program (Except ε β)} (herror : ∀ e, next (.error e) = pure (.error e))
    (hok : ∀ a, next (.ok a) = f a) : p >>= next = p.andThen f := by
  refine congrArg (p >>= ·) (funext fun r => ?_)
  cases r with
  | error e => exact herror e
  | ok a => exact hok a

theorem andThen_assoc (p : Program (Except ε α)) (f : α → Program (Except ε β))
    (g : β → Program (Except ε γ)) :
    (p.andThen f).andThen g = p.andThen fun a => (f a).andThen g := by
  simp only [andThen, bind_eq, bind_assoc]
  congr 1
  funext r
  cases r <;> rfl

/-- A program goes on with nothing more. -/
theorem andThen_pure_ok (p : Program (Except ε Unit)) :
    (p.andThen fun _ => pure (.ok ())) = p := by
  have hnext : p >>= pure = p.andThen fun _ => pure (.ok ()) :=
    bind_eq_andThen (fun _ => rfl) fun _ => rfl
  exact hnext.symm.trans (bind_done p)

/-- All calls are allowed, and all results are as they should be. -/
def Does (allowed : Call → Prop) (post : α → Prop) : Program α → Prop
  | .done a => post a
  | .call c next => allowed c ∧ ∀ answer, (next answer).Does allowed post

variable {allowed : Call → Prop}

theorem Does.pure {post : α → Prop} {a : α} (h : post a) :
    (Pure.pure a : Program α).Does allowed post := h

theorem Does.perform {c : Call} {post : c.Answer → Prop} (hc : allowed c)
    (h : ∀ answer, post answer) : (Program.perform c).Does allowed post := ⟨hc, h⟩

theorem Does.bind {mid : α → Prop} {post : β → Prop} {p : Program α} {f : α → Program β}
    (hp : p.Does allowed mid) (hf : ∀ a, mid a → (f a).Does allowed post) :
    (p >>= f).Does allowed post := by
  rw [bind_eq]
  induction p with
  | done a => exact hf a hp
  | call c next ih => exact ⟨hp.1, fun answer => ih answer (hp.2 answer)⟩

theorem Does.mono {post post' : α → Prop} {p : Program α} (h : p.Does allowed post)
    (hpost : ∀ a, post a → post' a) : p.Does allowed post' := by
  induction p with
  | done a => exact hpost a h
  | call c next ih => exact ⟨h.1, fun answer => ih answer (h.2 answer)⟩

/-- A program that makes some calls makes no others. -/
theorem Does.imp {allowed' : Call → Prop} {post : α → Prop} {p : Program α}
    (h : p.Does allowed post) (himp : ∀ c, allowed c → allowed' c) : p.Does allowed' post := by
  induction p with
  | done a => exact h
  | call c next ih => exact ⟨himp c h.1, fun answer => ih answer (h.2 answer)⟩

/-- What every allowed call leaves alone, a run leaves alone. -/
theorem Does.run_keeps (env : Environment σ) (get : World σ → γ)
    (hstep : ∀ c, allowed c → ∀ w : World σ, get (w.step env c).2 = get w) {post : α → Prop}
    {p : Program α} (h : p.Does allowed post) (w : World σ) :
    get (p.run env w).2 = get w := by
  induction p generalizing w with
  | done a => rfl
  | call c next ih => exact (ih _ (h.2 _) _).trans (hstep c h.1 w)

/-- What every allowed call keeps true, a run keeps true. -/
theorem Does.run_invariant (env : Environment σ) {P : World σ → Prop}
    (hstep : ∀ c, allowed c → ∀ w : World σ, P w → P (w.step env c).2) {post : α → Prop}
    {p : Program α} (h : p.Does allowed post) {w : World σ} (hw : P w) : P (p.run env w).2 := by
  induction p generalizing w with
  | done a => exact hw
  | call c next ih => exact ih _ (h.2 _) (hstep c h.1 w hw)

/-- In every world the result is as it should be. -/
theorem Does.run {post : α → Prop} {p : Program α} (h : p.Does allowed post)
    (env : Environment σ) (w : World σ) : post (p.run env w).1 := by
  induction p generalizing w with
  | done a => exact h
  | call c next ih => exact ih _ (h.2 _) _

end Program

/-! ## Reading the store -/

namespace World

theorem takeFault_eq (w : World σ) (m : Method) :
    (w.takeFault m).2 = { w with faults := (w.takeFault m).2.faults } := by
  rw [takeFault]
  cases w.faults m <;> rfl

/-- Whether an operation fails does not depend on the store. -/
theorem takeFault_withStore (w : World σ) (s : Store) (m : Method) :
    takeFault { w with store := s } m =
      ((w.takeFault m).1, { w with store := s, faults := (w.takeFault m).2.faults }) := by
  simp only [takeFault]
  cases w.faults m <;> rfl

/-- An operation that reads takes note of a fault, and changes nothing else. -/
theorem attempt_reading (w : World σ) (m : Method) (nothing : Option α)
    (f : Store → Except Store.StoreError α) :
    (w.attempt m nothing (reading f)).2 = (w.takeFault m).2 := by
  rw [attempt]
  rcases w.takeFault m with ⟨fault, w'⟩
  cases fault with
  | none | fails e => rfl
  | findsNothing => cases nothing <;> rfl

/-- An operation that reads is answered by the store, unless it is made to fail. -/
theorem attempt_reading_of_works {w : World σ} {m : Method} (h : (w.takeFault m).1 = .none)
    (nothing : Option α) (f : Store → Except Store.StoreError α) :
    (w.attempt m nothing (reading f)).1 = f w.store := by
  have hstore : (w.takeFault m).2.store = w.store := by rw [takeFault_eq]
  rw [attempt, ← hstore]
  rcases htake : w.takeFault m with ⟨fault, w'⟩
  rw [htake] at h
  subst h
  rfl

/-- An operation that is made to fail or to find nothing is answered the same by every store. -/
theorem attempt_reading_of_fault {w : World σ} {m : Method} (h : (w.takeFault m).1 ≠ .none)
    (nothing : α) (f : Store → Except Store.StoreError α) :
    ∃ a, (a = .ok nothing ∨ ∃ e, a = .error e) ∧
      ∀ s, (attempt { w with store := s } m (some nothing) (reading f)).1 = a := by
  cases hfault : (w.takeFault m).1 with
  | none => exact absurd hfault h
  | fails e =>
    exact ⟨.error e, .inr ⟨e, rfl⟩, fun s => by rw [attempt, takeFault_withStore, hfault]⟩
  | findsNothing =>
    exact ⟨.ok nothing, .inl rfl, fun s => by rw [attempt, takeFault_withStore, hfault]⟩

theorem step_getConversation (env : Environment σ) (w : World σ) (f : Filter) :
    (w.step env (.getConversation f)).2 = (w.takeFault .getConversation).2 :=
  w.attempt_reading _ _ _

end World

/-! ## Programs that send nothing -/

/-- The call sends no event. -/
def Call.IsSilent (c : Call) : Prop := ∀ e, c ≠ .deliver e

/-- The program sends no event. -/
abbrev Program.Silent (p : Program α) : Prop := p.Does Call.IsSilent fun _ => True

/-- The world with another stream of events. -/
def World.withSink (w : World σ) (room : Option Nat) (delivered : List Event) : World σ :=
  { w with room, delivered }

namespace World

variable (w : World σ) (room room' : Option Nat) (sent sent' : List Event)

@[simp] theorem withSink_room : (w.withSink room sent).room = room := rfl
@[simp] theorem withSink_delivered : (w.withSink room sent).delivered = sent := rfl
@[simp] theorem withSink_store : (w.withSink room sent).store = w.store := rfl
@[simp] theorem withSink_withSink :
    (w.withSink room sent).withSink room' sent' = w.withSink room' sent' := rfl
@[simp] theorem withSink_self : w.withSink w.room w.delivered = w := rfl

/-- An operation of the store that does not look at the stream of events still does not when it may
be made to fail. -/
theorem attempt_withSink (m : Method) (nothing : Option α)
    (f : World σ → Except Store.StoreError α × World σ)
    (hf : ∀ w : World σ, f (w.withSink room sent) = ((f w).1, (f w).2.withSink room sent)) :
    (w.withSink room sent).attempt m nothing f =
      ((w.attempt m nothing f).1, (w.attempt m nothing f).2.withSink room sent) := by
  have htake : (w.withSink room sent).takeFault m =
      ((w.takeFault m).1, (w.takeFault m).2.withSink room sent) := by
    simp only [takeFault, withSink]
    cases w.faults m <;> rfl
  simp only [attempt, htake]
  rcases w.takeFault m with ⟨fault, w'⟩
  cases fault with
  | none => exact hf w'
  | fails e => rfl
  | findsNothing =>
    cases nothing with
    | none => exact hf w'
    | some a => rfl

theorem step_withSink (env : Environment σ) {c : Call} (hc : c.IsSilent) :
    (w.withSink room sent).step env c =
      ((w.step env c).1, (w.step env c).2.withSink room sent) := by
  cases c with
  | deliver e => exact absurd rfl (hc e)
  | createProvider | stream | complete | report => rfl
  | createConversation | findConversations | getConversation | updateConversation
  | deleteConversation | createMessage | listMessages =>
    unfold step
    apply attempt_withSink
    exact fun _ => rfl

end World

namespace Program.Silent

variable {p : Program α}

theorem perform {c : Call} (hc : c.IsSilent) : (Program.perform c).Silent :=
  Does.perform hc fun _ => trivial

theorem bind {f : α → Program β} (hp : p.Silent) (hf : ∀ a, (f a).Silent) : (p >>= f).Silent :=
  Does.bind hp fun a _ => hf a

/-- What a program does that sends nothing is the same whatever was sent before. -/
theorem run_withSink (h : p.Silent) (env : Environment σ) (w : World σ) (room : Option Nat)
    (sent : List Event) :
    p.run env (w.withSink room sent) =
      ((p.run env w).1, (p.run env w).2.withSink room sent) := by
  induction p generalizing w with
  | done a => rfl
  | call c next ih =>
    simp only [Program.run, World.step_withSink w room sent env h.1]
    exact ih _ (h.2 _) _

/-- It leaves the stream of events alone. -/
theorem run_sink (h : p.Silent) (env : Environment σ) (w : World σ) :
    (p.run env w).2 = (p.run env w).2.withSink w.room w.delivered := by
  have := congrArg Prod.snd (h.run_withSink env w w.room w.delivered)
  rwa [World.withSink_self] at this

theorem run_room (h : p.Silent) (env : Environment σ) (w : World σ) :
    (p.run env w).2.room = w.room := by
  rw [h.run_sink env w, World.withSink_room]

theorem run_delivered (h : p.Silent) (env : Environment σ) (w : World σ) :
    (p.run env w).2.delivered = w.delivered := by
  rw [h.run_sink env w, World.withSink_delivered]

end Program.Silent

end ChatRelay.Service
