/-!
# Detached tasks

Work that goes on after the request that started it has been answered. A pool
keeps track of it on a clock of milliseconds: a task starts when its pool next
waits, and finishes a fixed time later. The clock goes on while the pool waits,
from the end of one task to the end of the next.

Who waits for a pool is told that no task is left once the pool is closed.
`TaskPool.drain` closes it, waits for all tasks and opens it again.
`TaskPool.shutdown` closes it for good, waits for a limited time and cancels what
is left; from then on no task starts any more. A task that would finish at the
very end of a wait has not finished yet.
-/

namespace ChatRelay

/-- A task that has not started. -/
structure Task where
  id : String
  duration : Nat
  deriving DecidableEq, Repr

/-- A task that runs until the clock shows `due`. -/
structure RunningTask where
  id : String
  due : Nat
  deriving DecidableEq, Repr

/-- A task and the time at which it finished. -/
structure FinishedTask where
  id : String
  time : Nat
  deriving DecidableEq, Repr

/-- The running task that is due first; of several, the one that started first. -/
def earliest : List RunningTask → Option RunningTask
  | [] => none
  | t :: ts =>
    match earliest ts with
    | none => some t
    | some s => if t.due ≤ s.due then some t else some s

theorem earliest_mem {ts : List RunningTask} {t : RunningTask} (h : earliest ts = some t) :
    t ∈ ts := by
  induction ts with
  | nil => cases h
  | cons s ts ih =>
    rw [earliest] at h
    split at h
    · cases h
      exact List.mem_cons_self
    · split at h
      · cases h
        exact List.mem_cons_self
      · cases h
        exact List.mem_cons_of_mem _ (ih ‹_›)

/-- The tasks of a program. -/
structure TaskPool where
  now : Nat := 0
  /-- Tasks that start when the pool next waits. -/
  fresh : List Task := []
  running : List RunningTask := []
  /-- In the order in which they finished. -/
  finished : List FinishedTask := []
  /-- Who waits is told when no task is left. Tasks can be added all the same. -/
  closed : Bool := false
  /-- No task starts any more. -/
  cancelled : Bool := false
  deriving DecidableEq, Repr

namespace TaskPool

/-- How many tasks have not finished. -/
def size (p : TaskPool) : Nat :=
  p.fresh.length + p.running.length

def isEmpty (p : TaskPool) : Bool :=
  p.size == 0

def close (p : TaskPool) : TaskPool := { p with closed := true }

def reopen (p : TaskPool) : TaskPool := { p with closed := false }

/-- Nobody has to wait. -/
def isIdle (p : TaskPool) : Bool :=
  p.closed && p.isEmpty

def spawn (p : TaskPool) (t : Task) : TaskPool :=
  { p with fresh := p.fresh ++ [t] }

/-- Starts the fresh tasks, or drops them when the pool is cancelled. (Whether one that takes no
time would still finish is a matter of luck; here it does not.) -/
def start (p : TaskPool) : TaskPool :=
  if p.cancelled then { p with fresh := [] }
  else
    { p with
      fresh := []
      running := p.running ++ p.fresh.map fun t => ⟨t.id, p.now + t.duration⟩ }

/-- The clock goes on until a running task is due, which then finishes. -/
def finish (p : TaskPool) (t : RunningTask) : TaskPool :=
  let now := max p.now t.due
  { p with now, running := p.running.erase t, finished := p.finished ++ [⟨t.id, now⟩] }

/-- Finishes one task after the other, as long as the next one is due before the limit. -/
def finishBefore (limit : Option Nat) (p : TaskPool) : TaskPool :=
  match _h : earliest p.running with
  | none => p
  | some t => if limit.all (t.due < ·) then (p.finish t).finishBefore limit else p
termination_by p.running.length
decreasing_by
  have hmem := earliest_mem ‹_›
  have hlength := List.length_erase_of_mem hmem
  have hpos := List.length_pos_of_mem hmem
  simp only [finish]
  omega

/-- Waits until nobody has to wait any more, or else until the limit, and tells which it was. -/
def await (limit : Option Nat) (p : TaskPool) : TaskPool × Bool :=
  let q := p.start.finishBefore limit
  if q.isIdle then (q, true) else ({ q with now := limit.getD q.now }, false)

/-- Lets time pass. -/
def wait (p : TaskPool) (ms : Nat) : TaskPool :=
  if ms = 0 then p
  else
    let time := p.now + ms
    { p.start.finishBefore (some time) with now := time }

/-- Waits until all tasks have finished. -/
def drain (p : TaskPool) : TaskPool :=
  (p.close.await none).1.reopen

/-- Waits until all tasks have finished, but no longer than `grace`: what is not finished before
then is cancelled. Tells whether all tasks finished. -/
def shutdown (p : TaskPool) (grace : Nat) : TaskPool × Bool :=
  match p.close.await (some (p.now + grace)) with
  | (q, true) => (q, true)
  | (q, false) => ({ q with running := [], cancelled := true }, false)

end TaskPool

end ChatRelay
