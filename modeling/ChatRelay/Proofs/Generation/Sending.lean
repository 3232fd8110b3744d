import ChatRelay.Generation.Relay
import ChatRelay.Proofs.Service.Calls

/-!
# Sending events

`sendAll` sends some events, one after the other, until the caller has stopped
listening. `sendAll_run` says what comes of it: the caller takes the events
there is room for (`World.hear`), and the result tells whether that was all.
-/

namespace ChatRelay.Service

open Generation (Event)

variable {σ : Type}

/-- The events of a list that a caller takes. -/
def taken (room : Option Nat) (events : List Event) : List Event :=
  match room with
  | none => events
  | some n => events.take n

/-- Whether there is room for all events of a list. -/
def hasRoom (room : Option Nat) (events : List Event) : Bool :=
  room.all fun n => decide (events.length ≤ n)

/-- The world after the caller took the events of a list for which there was room. -/
def World.hear (w : World σ) (events : List Event) : World σ :=
  w.withSink (w.room.map (· - events.length)) (w.delivered ++ taken w.room events)

theorem taken_isPrefix (room : Option Nat) (events : List Event) :
    taken room events <+: events := by
  cases room with
  | none => exact List.prefix_refl _
  | some n => exact List.take_prefix n events

theorem taken_of_hasRoom {room : Option Nat} {events : List Event}
    (h : hasRoom room events = true) : taken room events = events := by
  cases room with
  | none => rfl
  | some n => exact List.take_of_length_le (by simpa [hasRoom] using h)

theorem taken_append (room : Option Nat) (events events' : List Event) :
    taken room (events ++ events') =
      taken room events ++ taken (room.map (· - events.length)) events' := by
  cases room with
  | none => rfl
  | some n => exact List.take_append

theorem hasRoom_append (room : Option Nat) (events events' : List Event) :
    hasRoom room (events ++ events') =
      (hasRoom room events && hasRoom (room.map (· - events.length)) events') := by
  cases room with
  | none => rfl
  | some n =>
    simp only [hasRoom, Option.map_some, Option.all_some, List.length_append, ← Bool.decide_and,
      decide_eq_decide]
    omega

namespace World

@[simp] theorem hear_nil (w : World σ) : w.hear [] = w := by
  have htaken : taken w.room [] = [] := List.prefix_nil.1 (taken_isPrefix w.room [])
  have hroom : w.room.map (· - ([] : List Event).length) = w.room := by cases w.room <;> rfl
  rw [hear, htaken, hroom, List.append_nil, withSink_self]

@[simp] theorem hear_room (w : World σ) (events : List Event) :
    (w.hear events).room = w.room.map (· - events.length) := rfl

@[simp] theorem hear_delivered (w : World σ) (events : List Event) :
    (w.hear events).delivered = w.delivered ++ taken w.room events := rfl

@[simp] theorem hear_provider (w : World σ) (events : List Event) :
    (w.hear events).provider = w.provider := rfl

theorem hear_append (w : World σ) (events events' : List Event) :
    w.hear (events ++ events') = (w.hear events).hear events' := by
  have hroom : w.room.map (· - (events ++ events').length) =
      (w.room.map (· - events.length)).map (· - events'.length) := by
    cases w.room with
    | none => rfl
    | some n => simp [Nat.sub_sub]
  simp only [hear, withSink_room, withSink_delivered, withSink_withSink, hroom, taken_append,
    List.append_assoc]

/-- A caller that did not take all of some events takes no more. -/
theorem hear_of_not_hasRoom {w : World σ} {events : List Event}
    (h : hasRoom w.room events = false) (events' : List Event) :
    (w.hear events).hear events' = w.hear events := by
  have hroom : w.room.map (· - events.length) = some 0 := by
    rcases hw : w.room with _ | n
    · simp [hw, hasRoom] at h
    · have hlt : n < events.length := by simpa [hw, hasRoom] using h
      rw [Option.map_some, Nat.sub_eq_zero_of_le (Nat.le_of_lt hlt)]
  rw [hear, hear_room, hear_delivered, hroom]
  simp [taken, hear, hroom]

end World

/-- A program that sends nothing does the same after some events as before them. -/
theorem Program.Silent.run_hear {α : Type} {p : Program α} (h : p.Silent) (env : Environment σ)
    (w : World σ) (events : List Event) :
    p.run env (w.hear events) = ((p.run env w).1, (p.run env w).2.hear events) := by
  rw [World.hear, h.run_withSink, World.hear, h.run_room, h.run_delivered]

end ChatRelay.Service

namespace ChatRelay.Generation

open Service (Environment Program World hasRoom taken)

variable {α σ : Type}

/-- Sends some events, until the caller has stopped listening. -/
def sendAll : List Event → Program (Except ChatError Unit)
  | [] => pure (.ok ())
  | e :: events => (send e).andThen fun _ => sendAll events

theorem sendAll_append (events events' : List Event) :
    sendAll (events ++ events') = (sendAll events).andThen fun _ => sendAll events' := by
  induction events with
  | nil => rfl
  | cons e events ih => rw [List.cons_append, sendAll, sendAll, Program.andThen_assoc, ih]

theorem send_run (env : Environment σ) (w : World σ) (e : Event) :
    (send e).run env w =
      (if hasRoom w.room [e] then .ok () else .error notHeard, w.hear [e]) := by
  have hcall : (send e).run env w =
      (if (w.deliver e).1 then .ok () else .error notHeard, (w.deliver e).2) := rfl
  rw [hcall]
  rcases hw : w.room with _ | _ | n
  · simp [World.deliver, World.hear, World.withSink, taken, hasRoom, hw]
  · have hself : { w with room := some 0 } = w := by rw [← hw]
    simp [World.deliver, World.hear, World.withSink, taken, hasRoom, hw, hself]
  · simp [World.deliver, World.hear, World.withSink, taken, hasRoom, hw]

theorem sendAll_run (env : Environment σ) (w : World σ) (events : List Event) :
    (sendAll events).run env w =
      (if hasRoom w.room events then .ok () else .error notHeard, w.hear events) := by
  induction events generalizing w with
  | nil =>
    have hroom : hasRoom w.room [] = true := by cases w.room <;> simp [hasRoom]
    rw [hroom, World.hear_nil]
    rfl
  | cons e events ih =>
    rw [sendAll, Program.andThen, Program.bind_eq, Program.run_bind, send_run,
      show e :: events = [e] ++ events from rfl, Service.hasRoom_append, World.hear_append]
    cases h : hasRoom w.room [e] with
    | true => simpa using ih (w.hear [e])
    | false =>
      rw [World.hear_of_not_hasRoom h]
      rfl

end ChatRelay.Generation
