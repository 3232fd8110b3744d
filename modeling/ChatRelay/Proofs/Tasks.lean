import ChatRelay.Tasks
import Mathlib.Data.List.Perm.Subperm

/-!
# What becomes of detached tasks

A pool goes through a history of steps: tasks are added, time passes, and somebody waits
for the tasks that there are. `pending` is what is still to finish, and when. Every step
divides it into what has finished meanwhile and what is still to finish
(`finishBefore_progress`), so as long as the pool is not cancelled, what has finished and
what is pending make up everything that was added (`Sound.run_balance`).

* `Settled`: what is so while no shutdown has failed.
* `Ended`: what is so after one has failed.
-/

namespace ChatRelay

/-! ## The next task -/

theorem earliest_eq_none {ts : List RunningTask} : earliest ts = none ↔ ts = [] := by
  cases ts with
  | nil => exact iff_of_true rfl rfl
  | cons t ts =>
    refine iff_of_false ?_ (List.cons_ne_nil t ts)
    rw [earliest]
    split
    · exact Option.some_ne_none _
    · split <;> exact Option.some_ne_none _

theorem due_le_of_earliest {ts : List RunningTask} {t : RunningTask} (h : earliest ts = some t) :
    ∀ s ∈ ts, t.due ≤ s.due := by
  induction ts generalizing t with
  | nil => exact nofun
  | cons s ts ih =>
    rw [earliest] at h
    split at h
    · rename_i hnone
      cases h
      rw [earliest_eq_none.1 hnone]
      exact List.forall_mem_singleton.2 (Nat.le_refl _)
    · rename_i u hu
      split at h <;> cases h
      · exact List.forall_mem_cons.2 ⟨Nat.le_refl _, fun v hv => Nat.le_trans ‹_› (ih hu v hv)⟩
      · exact List.forall_mem_cons.2 ⟨Nat.le_of_not_le ‹_›, ih hu⟩

/-- The end that a running task comes to. -/
def RunningTask.ending (t : RunningTask) : FinishedTask := ⟨t.id, t.due⟩

/-- The end that a task comes to that starts now. -/
def Task.ending (t : Task) (now : Nat) : FinishedTask := ⟨t.id, now + t.duration⟩

namespace TaskPool

variable {p q : TaskPool} {limit : Option Nat} {done : List FinishedTask} {now now' : Nat}

/-! ## Starting -/

@[simp] theorem start_fresh (p : TaskPool) : p.start.fresh = [] := by
  rw [start]
  split <;> rfl

@[simp] theorem start_now (p : TaskPool) : p.start.now = p.now := by
  rw [start]
  split <;> rfl

@[simp] theorem start_finished (p : TaskPool) : p.start.finished = p.finished := by
  rw [start]
  split <;> rfl

@[simp] theorem start_closed (p : TaskPool) : p.start.closed = p.closed := by
  rw [start]
  split <;> rfl

@[simp] theorem start_cancelled (p : TaskPool) : p.start.cancelled = p.cancelled := by
  rw [start]
  split <;> rfl

theorem start_running (p : TaskPool) :
    p.start.running =
      if p.cancelled then p.running
      else p.running ++ p.fresh.map fun t => ⟨t.id, p.now + t.duration⟩ := by
  rw [start]
  split <;> rfl

/-- What is still to finish, and when: the fresh tasks start as soon as the pool waits. -/
def pending (p : TaskPool) : List FinishedTask := p.start.running.map RunningTask.ending

theorem pending_of_fresh_nil (h : p.fresh = []) : p.pending = p.running.map RunningTask.ending := by
  rw [pending, start_running, h]
  split <;> simp

theorem pending_close (p : TaskPool) : p.close.pending = p.pending := by
  simp only [pending, start_running, close]

theorem pending_spawn (p : TaskPool) (t : Task) :
    (p.spawn t).pending = p.pending ++ if p.cancelled then [] else [t.ending p.now] := by
  simp only [pending, start_running, spawn]
  split <;> simp [RunningTask.ending, Task.ending]

/-- No task is overdue, none finishes in the future, and a pool that is cancelled runs none. -/
structure Sound (p : TaskPool) : Prop where
  ahead : ∀ t ∈ p.running, p.now ≤ t.due
  past : ∀ f ∈ p.finished, f.time ≤ p.now
  still : p.cancelled = true → p.running = []

namespace Sound

/-- What has finished before and what has finished meanwhile has finished. -/
theorem past_append (h : p.Sound) (hfinished : q.finished = p.finished ++ done)
    (hnow : p.now ≤ q.now) (hdone : ∀ f ∈ done, f.time ≤ q.now) :
    ∀ f ∈ q.finished, f.time ≤ q.now := by
  rw [hfinished]
  exact List.forall_mem_append.2 ⟨fun f hf => Nat.le_trans (h.past f hf) hnow, hdone⟩

theorem start_ahead (h : p.Sound) : ∀ t ∈ p.start.running, p.start.now ≤ t.due := by
  intro t ht
  rw [start_now]
  rw [start_running] at ht
  split at ht
  · exact h.ahead t ht
  · rcases List.mem_append.1 ht with ht | ht
    · exact h.ahead t ht
    · obtain ⟨s, -, rfl⟩ := List.mem_map.1 ht
      exact Nat.le_add_right _ _

theorem pending_eq_nil (h : p.Sound) (hcancelled : p.cancelled = true) : p.pending = [] := by
  rw [pending, start_running, if_pos hcancelled, h.still hcancelled, List.map_nil]

theorem pending_ahead (h : p.Sound) : ∀ f ∈ p.pending, p.now ≤ f.time := by
  intro f hf
  obtain ⟨t, ht, rfl⟩ := List.mem_map.1 hf
  exact p.start_now ▸ h.start_ahead t ht

end Sound

/-! ## Finishing -/

/-- The clock went on while some tasks finished, up to the end of the last one. -/
structure GoesOn (now : Nat) (done : List FinishedTask) (now' : Nat) : Prop where
  le : now ≤ now'
  all : ∀ f ∈ done, f.time ≤ now'
  last : done = [] ∧ now' = now ∨ ∃ f ∈ done, f.time = now'

theorem GoesOn.refl (now : Nat) : GoesOn now [] now :=
  ⟨Nat.le_refl _, List.forall_mem_nil _, .inl ⟨rfl, rfl⟩⟩

/-- A task finishes before others do. -/
theorem GoesOn.cons {f : FinishedTask} (hf : now ≤ f.time) (h : GoesOn f.time done now') :
    GoesOn now (f :: done) now' where
  le := Nat.le_trans hf h.le
  all := List.forall_mem_cons.2 ⟨h.le, h.all⟩
  last := by
    rcases h.last with ⟨-, rfl⟩ | ⟨g, hg, hlast⟩
    · exact .inr ⟨f, List.mem_cons_self, rfl⟩
    · exact .inr ⟨g, List.mem_cons_of_mem _ hg, hlast⟩

theorem GoesOn.perm {done' : List FinishedTask} (h : GoesOn now done now')
    (hperm : done.Perm done') : GoesOn now done' now' where
  le := h.le
  all f hf := h.all f (hperm.mem_iff.2 hf)
  last := by
    rcases h.last with ⟨rfl, rfl⟩ | ⟨f, hf, hlast⟩
    · exact .inl ⟨List.nil_perm.1 hperm, rfl⟩
    · exact .inr ⟨f, hperm.mem_iff.1 hf, hlast⟩

/-- The running tasks that are due before a limit finish, and the others do not. -/
structure Progress (limit : Option Nat) (p q : TaskPool) (done : List FinishedTask) : Prop where
  fresh : q.fresh = p.fresh
  closed : q.closed = p.closed
  cancelled : q.cancelled = p.cancelled
  finished : q.finished = p.finished ++ done
  divided : (done ++ q.running.map RunningTask.ending).Perm (p.running.map RunningTask.ending)
  before : ∀ f ∈ done, ∀ l, limit = some l → f.time < l
  after : ∀ t ∈ q.running, ∃ l, limit = some l ∧ l ≤ t.due
  clock : GoesOn p.now done q.now
  ahead : ∀ t ∈ q.running, q.now ≤ t.due

/-- Nothing is left to finish before the limit. -/
theorem Progress.refl (hahead : ∀ t ∈ p.running, p.now ≤ t.due)
    (hafter : ∀ t ∈ p.running, ∃ l, limit = some l ∧ l ≤ t.due) : Progress limit p p [] where
  fresh := rfl
  closed := rfl
  cancelled := rfl
  finished := (List.append_nil _).symm
  divided := .refl _
  before := List.forall_mem_nil _
  after := hafter
  clock := .refl _
  ahead := hahead

theorem Progress.not_before {l : Nat} (h : Progress (some l) p q done) :
    ∀ t ∈ q.running, l ≤ t.due := by
  intro t ht
  obtain ⟨_, hl, hle⟩ := h.after t ht
  cases hl
  exact hle

/-- A task that is due next finishes first. -/
theorem Progress.finish {t : RunningTask} (hahead : ∀ s ∈ p.running, p.now ≤ s.due)
    (ht : t ∈ p.running) (hbefore : ∀ l, limit = some l → t.due < l)
    (h : Progress limit (p.finish t) q done) : Progress limit p q (t.ending :: done) where
  fresh := h.fresh
  closed := h.closed
  cancelled := h.cancelled
  finished := by
    rw [h.finished, TaskPool.finish, Nat.max_eq_right (hahead t ht), List.append_assoc]
    rfl
  divided := by
    have herase := (List.perm_cons_erase ht).map RunningTask.ending
    exact (h.divided.cons t.ending).trans herase.symm
  before := List.forall_mem_cons.2 ⟨hbefore, h.before⟩
  after := h.after
  clock := by
    have hclock := h.clock
    rw [TaskPool.finish, Nat.max_eq_right (hahead t ht)] at hclock
    exact hclock.cons (hahead t ht)
  ahead := h.ahead

theorem finishBefore_of_none (h : earliest p.running = none) : p.finishBefore limit = p := by
  rw [finishBefore]
  split
  · rfl
  · rename_i hsome
    rw [h] at hsome
    cases hsome

theorem finishBefore_of_some {t : RunningTask} (h : earliest p.running = some t) :
    p.finishBefore limit =
      if limit.all (t.due < ·) then (p.finish t).finishBefore limit else p := by
  rw [finishBefore]
  split
  · rename_i hnone
    rw [h] at hnone
    cases hnone
  · rename_i hsome
    rw [h] at hsome
    cases hsome
    rfl

/-- Tasks finish in the order in which they are due, by induction on those that are left. -/
theorem finishBefore_progress (limit : Option Nat) (hahead : ∀ t ∈ p.running, p.now ≤ t.due) :
    ∃ done, Progress limit p (p.finishBefore limit) done := by
  induction p using finishBefore.induct limit with
  | case1 p hnone =>
    rw [finishBefore_of_none hnone]
    refine ⟨[], .refl hahead ?_⟩
    rw [earliest_eq_none.1 hnone]
    exact List.forall_mem_nil _
  | case2 p t hnext hdue ih =>
    have hfirst := due_le_of_earliest hnext
    have hahead' : ∀ s ∈ (p.finish t).running, (p.finish t).now ≤ s.due := fun s hs =>
      Nat.max_le.2 ⟨hahead s (List.mem_of_mem_erase hs), hfirst s (List.mem_of_mem_erase hs)⟩
    obtain ⟨done, hdone⟩ := ih hahead'
    rw [finishBefore_of_some hnext, if_pos hdue]
    exact ⟨_, hdone.finish hahead (earliest_mem hnext) (by simpa [Option.all_eq_true] using hdue)⟩
  | case3 p t hnext hdue =>
    -- the one that is due first is not due before the limit, so none is
    obtain ⟨l, hl, hle⟩ : ∃ l, limit = some l ∧ l ≤ t.due := by
      simpa [Option.all_eq_true] using hdue
    rw [finishBefore_of_some hnext, if_neg hdue]
    exact ⟨[], .refl hahead fun s hs => ⟨l, hl, Nat.le_trans hle (due_le_of_earliest hnext s hs)⟩⟩

/-! ## Waiting -/

/-- While somebody waits, the pending tasks are divided into those that finish and the others. -/
theorem Sound.progress (h : p.Sound) (limit : Option Nat) :
    ∃ done, Progress limit p.start (p.start.finishBefore limit) done :=
  finishBefore_progress limit h.start_ahead

/-- What a step leads to: some tasks finish, and what was pending or is added is divided into these
and what is pending then. Only a pool that is cancelled leaves something out. -/
structure Leads (p q : TaskPool) (added done : List FinishedTask) : Prop where
  finished : q.finished = p.finished ++ done
  part : (done ++ q.pending).Subperm (p.pending ++ added)
  whole : q.cancelled = false → (done ++ q.pending).Perm (p.pending ++ added)
  sound : q.Sound

/-- All pending tasks finish. -/
structure Drains (p q : TaskPool) (done : List FinishedTask) : Prop where
  fresh : q.fresh = []
  running : q.running = []
  cancelled : q.cancelled = p.cancelled
  finished : q.finished = p.finished ++ done
  all : done.Perm p.pending
  clock : GoesOn p.now done q.now

/-- The tasks that are not due before a limit are cancelled. -/
structure Cuts (limit : Nat) (p q : TaskPool) (done left : List FinishedTask) : Prop where
  fresh : q.fresh = []
  running : q.running = []
  cancelled : q.cancelled = true
  now : q.now = limit
  finished : q.finished = p.finished ++ done
  divided : (done ++ left).Perm p.pending
  before : ∀ f ∈ done, f.time < limit
  after : ∀ f ∈ left, limit ≤ f.time
  nonempty : left ≠ []

theorem pending_eq_nil (hfresh : q.fresh = []) (hrunning : q.running = []) : q.pending = [] := by
  rw [pending_of_fresh_nil hfresh, hrunning, List.map_nil]

theorem Drains.leads (h : p.Sound) (hdrains : Drains p q done) : Leads p q [] done := by
  have hpending := pending_eq_nil hdrains.fresh hdrains.running
  have hall : (done ++ q.pending).Perm (p.pending ++ []) := by
    rw [hpending, List.append_nil, List.append_nil]
    exact hdrains.all
  refine ⟨hdrains.finished, hall.subperm, fun _ => hall, ?_,
    h.past_append hdrains.finished hdrains.clock.le hdrains.clock.all, fun _ => hdrains.running⟩
  rw [hdrains.running]
  exact List.forall_mem_nil _

theorem Cuts.leads {limit : Nat} {left : List FinishedTask} (h : p.Sound) (hnow : p.now ≤ limit)
    (hcuts : Cuts limit p q done left) : Leads p q [] done := by
  have hpending := pending_eq_nil hcuts.fresh hcuts.running
  have hpast : ∀ f ∈ done, f.time ≤ q.now := fun f hf =>
    hcuts.now ▸ Nat.le_of_lt (hcuts.before f hf)
  refine ⟨hcuts.finished, ?_, fun hnot => ?_, ?_,
    h.past_append hcuts.finished (hcuts.now ▸ hnow) hpast, fun _ => hcuts.running⟩
  · rw [hpending, List.append_nil, List.append_nil]
    exact (List.sublist_append_left _ _).subperm.trans hcuts.divided.subperm
  · rw [hcuts.cancelled] at hnot
    cases hnot
  · rw [hcuts.running]
    exact List.forall_mem_nil _

theorem Sound.close (h : p.Sound) : p.close.Sound := ⟨h.ahead, h.past, h.still⟩

/-- Whether somebody is told that no task is left depends on whether one is, for a closed pool. -/
theorem await_eq (hclosed : p.closed = true) (limit : Option Nat) {r : TaskPool}
    (hr : Progress limit p.start r done) (hfinish : p.start.finishBefore limit = r) :
    p.await limit =
      if r.running = [] then (r, true) else ({ r with now := limit.getD r.now }, false) := by
  have hidle : r.isIdle = decide (r.running = []) := by
    rw [isIdle, hr.closed, start_closed, hclosed, isEmpty, size, hr.fresh, start_fresh]
    cases r.running <;> rfl
  rw [TaskPool.await, hfinish, hidle]
  simp

/-- When somebody waits for a pool that is closed until nothing runs, it is drained. -/
theorem Progress.drains (h : Progress limit p.close.start q done) (hrunning : q.running = []) :
    Drains p q done where
  fresh := h.fresh.trans p.close.start_fresh
  running := hrunning
  cancelled := h.cancelled.trans p.close.start_cancelled
  finished := p.close.start_finished ▸ h.finished
  all := by
    have hdivided := h.divided
    rw [hrunning, List.map_nil, List.append_nil] at hdivided
    exact p.pending_close ▸ hdivided
  clock := p.close.start_now ▸ h.clock

theorem Drains.reopen (h : Drains p q done) : Drains p q.reopen done :=
  ⟨h.fresh, h.running, h.cancelled, h.finished, h.all, h.clock⟩

/-- A wait without a limit comes to its end, when all tasks have finished. -/
theorem Sound.drains (h : p.Sound) :
    (p.close.await none).2 = true ∧ ∃ done, Drains p p.drain done := by
  obtain ⟨done, hr⟩ := h.close.progress none
  have hnone : (p.close.start.finishBefore none).running = [] :=
    List.eq_nil_iff_forall_not_mem.2 fun t ht => by
      obtain ⟨l, hl, -⟩ := hr.after t ht
      cases hl
  have hawait := await_eq rfl none hr rfl
  rw [if_pos hnone] at hawait
  refine ⟨by rw [hawait], done, ?_⟩
  rw [drain, hawait]
  exact (hr.drains hnone).reopen

/-- A shutdown tells that all pending tasks have finished in time, or it cancels some. -/
theorem Sound.shuts (h : p.Sound) (grace : Nat) :
    (∃ done, (p.shutdown grace).2 = true ∧ Drains p (p.shutdown grace).1 done ∧
        ∀ f ∈ done, f.time < p.now + grace) ∨
      ∃ done left, (p.shutdown grace).2 = false ∧
        Cuts (p.now + grace) p (p.shutdown grace).1 done left := by
  obtain ⟨done, hr⟩ := h.close.progress (some (p.now + grace))
  have hawait := await_eq rfl _ hr rfl
  have hbefore : ∀ f ∈ done, f.time < p.now + grace := fun f hf => hr.before f hf _ rfl
  generalize p.close.start.finishBefore (some (p.now + grace)) = r at hr hawait
  rw [TaskPool.shutdown]
  by_cases hnone : r.running = []
  · rw [if_pos hnone] at hawait
    rw [hawait]
    exact .inl ⟨done, rfl, hr.drains hnone, hbefore⟩
  · rw [if_neg hnone] at hawait
    rw [hawait]
    refine .inr ⟨done, r.running.map RunningTask.ending, rfl,
      hr.fresh.trans p.close.start_fresh, rfl, rfl, rfl, p.close.start_finished ▸ hr.finished,
      p.pending_close ▸ hr.divided, hbefore, fun f hf => ?_, ?_⟩
    · obtain ⟨t, ht, rfl⟩ := List.mem_map.1 hf
      exact hr.not_before t ht
    · simpa using hnone

theorem wait_eq {ms : Nat} (h : ms ≠ 0) :
    p.wait ms = { p.start.finishBefore (some (p.now + ms)) with now := p.now + ms } :=
  if_neg h

/-- Time passes, and what is due meanwhile finishes. -/
theorem Sound.wait_leads (h : p.Sound) (ms : Nat) : ∃ done, Leads p (p.wait ms) [] done := by
  by_cases hms : ms = 0
  · have hsame : p.wait ms = p := if_pos hms
    have hall : ([] ++ p.pending).Perm (p.pending ++ []) :=
      (List.append_nil p.pending).symm ▸ .refl _
    rw [hsame]
    exact ⟨[], (List.append_nil _).symm, hall.subperm, fun _ => hall, h⟩
  · rw [wait_eq hms]
    obtain ⟨done, hr⟩ := h.progress (some (p.now + ms))
    generalize p.start.finishBefore (some (p.now + ms)) = r at hr ⊢
    have hfinished := p.start_finished ▸ hr.finished
    have hpending : TaskPool.pending { r with now := p.now + ms } =
        r.running.map RunningTask.ending := pending_of_fresh_nil (hr.fresh.trans p.start_fresh)
    have hall : (done ++ TaskPool.pending { r with now := p.now + ms }).Perm (p.pending ++ []) := by
      rw [hpending, List.append_nil]
      exact hr.divided
    have hpast : ∀ f ∈ done, f.time ≤ p.now + ms := fun f hf =>
      Nat.le_of_lt (hr.before f hf _ rfl)
    refine ⟨done, hfinished, hall.subperm, fun _ => hall, hr.not_before,
      h.past_append hfinished (Nat.le_add_right _ _) hpast, fun hcancelled => ?_⟩
    have hnone := h.pending_eq_nil ((hr.cancelled.trans p.start_cancelled).symm.trans hcancelled)
    have hdivided : (done ++ r.running.map RunningTask.ending).Perm p.pending := hr.divided
    rw [hnone, List.perm_nil, List.append_eq_nil_iff, List.map_eq_nil_iff] at hdivided
    exact hdivided.2

/-! ## Histories -/

/-- What can be done with a pool. -/
inductive Step where
  | spawn (t : Task)
  | wait (ms : Nat)
  | drain
  | shutdown (grace : Nat)
  deriving DecidableEq, Repr

/-- The pool after a step. -/
def take (p : TaskPool) : Step → TaskPool
  | .spawn t => p.spawn t
  | .wait ms => p.wait ms
  | .drain => p.drain
  | .shutdown grace => (p.shutdown grace).1

/-- The pool after some steps. -/
def run (p : TaskPool) (steps : List Step) : TaskPool := steps.foldl take p

/-- The task that a step adds. -/
def Step.task? : Step → Option Task
  | .spawn t => some t
  | _ => none

/-- The tasks that are added by some steps, each with the time that the clock shows then. -/
def added (p : TaskPool) : List Step → List (Task × Nat)
  | [] => []
  | s :: steps => s.task?.toList.map (·, p.now) ++ (p.take s).added steps

/-- The ends that tasks come to that start at these times. -/
def endings (tasks : List (Task × Nat)) : List FinishedTask :=
  tasks.map fun (t, now) => t.ending now

/-- A shutdown has failed. -/
def HasFailed (p : TaskPool) (steps : List Step) : Prop :=
  ∃ front grace back, steps = front ++ .shutdown grace :: back ∧
    ((p.run front).shutdown grace).2 = false

variable {s : Step} {steps : List Step}

theorem endings_append (tasks tasks' : List (Task × Nat)) :
    endings (tasks ++ tasks') = endings tasks ++ endings tasks' := List.map_append

/-- One case per step. -/
theorem Sound.take_leads (h : p.Sound) (s : Step) :
    ∃ done, Leads p (p.take s) (endings (p.added [s])) done := by
  cases s with
  | spawn t =>
    refine ⟨[], (List.append_nil _).symm, ?_, fun hcancelled => ?_, h.ahead, h.past, h.still⟩
    · rw [take, pending_spawn, List.nil_append]
      split
      · exact ((List.Sublist.refl _).append (List.nil_sublist _)).subperm
      · exact .refl _
    · have hgoing : p.cancelled = false := hcancelled
      rw [take, pending_spawn, hgoing, List.nil_append]
      exact .refl _
  | wait ms => exact h.wait_leads ms
  | drain =>
    obtain ⟨-, done, hdrains⟩ := h.drains
    exact ⟨done, hdrains.leads h⟩
  | shutdown grace =>
    rcases h.shuts grace with ⟨done, -, hdrains, -⟩ | ⟨done, left, -, hcuts⟩
    · exact ⟨done, hdrains.leads h⟩
    · exact ⟨done, hcuts.leads h (Nat.le_add_right _ _)⟩

/-- A pool is cancelled by a shutdown that fails, and by nothing else. -/
theorem take_cancelled (h : p.Sound) (s : Step) :
    (p.take s).cancelled = true ↔
      p.cancelled = true ∨ ∃ grace, s = .shutdown grace ∧ (p.shutdown grace).2 = false := by
  have hsame : ∀ q : TaskPool, q.cancelled = p.cancelled → (∀ grace, s ≠ .shutdown grace) →
      (q.cancelled = true ↔
        p.cancelled = true ∨ ∃ grace, s = .shutdown grace ∧ (p.shutdown grace).2 = false) := by
    intro q hq hs
    rw [hq]
    exact ⟨.inl, fun hor => hor.resolve_right fun ⟨grace, heq, _⟩ => hs grace heq⟩
  cases s with
  | spawn t => exact hsame _ rfl nofun
  | wait ms =>
    refine hsame (p.wait ms) ?_ nofun
    by_cases hms : ms = 0
    · rw [show p.wait ms = p from if_pos hms]
    · rw [wait_eq hms]
      obtain ⟨done, hr⟩ := h.progress (some (p.now + ms))
      exact hr.cancelled.trans p.start_cancelled
  | drain =>
    obtain ⟨-, done, hdrains⟩ := h.drains
    exact hsame _ hdrains.cancelled nofun
  | shutdown grace =>
    rw [take]
    rcases h.shuts grace with ⟨done, htrue, hdrains, -⟩ | ⟨done, left, hfalse, hcuts⟩
    · rw [hdrains.cancelled]
      refine ⟨.inl, fun hor => hor.resolve_right ?_⟩
      rintro ⟨_, ⟨⟩, hfalse⟩
      rw [htrue] at hfalse
      cases hfalse
    · exact iff_of_true hcuts.cancelled (.inr ⟨grace, rfl, hfalse⟩)

theorem Sound.run (h : p.Sound) (steps : List Step) : (p.run steps).Sound := by
  induction steps generalizing p with
  | nil => exact h
  | cons s steps ih =>
    obtain ⟨done, hleads⟩ := h.take_leads s
    exact ih hleads.sound

theorem run_cancelled (h : p.Sound) (steps : List Step) :
    (p.run steps).cancelled = true ↔ p.cancelled = true ∨ p.HasFailed steps := by
  induction steps generalizing p with
  | nil =>
    refine ⟨.inl, fun hor => hor.resolve_right ?_⟩
    rintro ⟨front, grace, back, heq, -⟩
    exact absurd heq.symm (by simp)
  | cons s steps ih =>
    obtain ⟨done, hleads⟩ := h.take_leads s
    have hrun : (p.run (s :: steps)).cancelled = true ↔ _ := ih hleads.sound
    rw [hrun, take_cancelled h s, or_assoc]
    refine or_congr_right ⟨?_, ?_⟩
    · rintro (⟨grace, rfl, hfalse⟩ | ⟨front, grace, back, rfl, hfalse⟩)
      · exact ⟨[], grace, steps, rfl, hfalse⟩
      · exact ⟨s :: front, grace, back, rfl, hfalse⟩
    · rintro ⟨front, grace, back, heq, hfalse⟩
      obtain ⟨rfl, hcons⟩ | ⟨front, rfl, rfl⟩ := List.cons_eq_append_iff.1 heq
      · cases hcons
        exact .inl ⟨grace, rfl, hfalse⟩
      · exact .inr ⟨front, grace, back, rfl, hfalse⟩

/-- What has finished and what is pending are among the tasks that there were and that were added,
and nothing else is as long as the pool is not cancelled. By induction on the steps. -/
theorem Sound.run_balance (h : p.Sound) (steps : List Step) :
    ((p.run steps).finished ++ (p.run steps).pending).Subperm
        (p.finished ++ p.pending ++ endings (p.added steps)) ∧
      ((p.run steps).cancelled = false →
        ((p.run steps).finished ++ (p.run steps).pending).Perm
          (p.finished ++ p.pending ++ endings (p.added steps))) := by
  induction steps generalizing p with
  | nil =>
    have hall : (p.finished ++ p.pending).Perm (p.finished ++ p.pending ++ endings (p.added [])) :=
      (List.append_nil (p.finished ++ p.pending)).symm ▸ .refl _
    exact ⟨hall.subperm, fun _ => hall⟩
  | cons s steps ih =>
    obtain ⟨done, hleads⟩ := h.take_leads s
    obtain ⟨hpart, hwhole⟩ := ih hleads.sound
    have hadded : p.added (s :: steps) = p.added [s] ++ (p.take s).added steps := by
      simp [added]
    have hfinished : (p.take s).finished ++ (p.take s).pending =
        p.finished ++ (done ++ (p.take s).pending) := by
      rw [hleads.finished, List.append_assoc]
    have hregroup : p.finished ++ p.pending ++ endings (p.added (s :: steps)) =
        p.finished ++ (p.pending ++ endings (p.added [s])) ++ endings ((p.take s).added steps) := by
      rw [hadded, endings_append]
      simp only [List.append_assoc]
    rw [hregroup]
    rw [hfinished] at hpart hwhole
    refine ⟨hpart.trans ?_, fun hgoing => (hwhole hgoing).trans ?_⟩
    · exact (List.subperm_append_right _).2 ((List.subperm_append_left _).2 hleads.part)
    · have hbefore : (p.take s).cancelled = false := by
        by_contra hcancelled
        have := (run_cancelled hleads.sound steps).2 (.inl (by simpa using hcancelled))
        rw [show (p.run (s :: steps)).cancelled = _ from this] at hgoing
        cases hgoing
      exact ((hleads.whole hbefore).append_left _).append_right _

/-! ## Pools that are cancelled -/

theorem GoesOn.eq_of_nil (h : GoesOn now [] now') : now' = now := by
  rcases h.last with ⟨-, heq⟩ | ⟨f, hf, -⟩
  · exact heq
  · cases hf

/-- Nothing finishes in a pool that is cancelled. -/
theorem Sound.take_of_cancelled (h : p.Sound) (hcancelled : p.cancelled = true) (s : Step) :
    (p.take s).finished = p.finished := by
  have hnothing : ∀ s : Step, s.task? = none → (p.take s).finished = p.finished := by
    intro s hs
    obtain ⟨done, hleads⟩ := h.take_leads s
    have hpart := hleads.part
    rw [h.pending_eq_nil hcancelled, added, hs, added, endings, List.nil_append, Option.toList_none,
      List.map_nil, List.nil_append, List.map_nil, List.subperm_nil, List.append_eq_nil_iff]
      at hpart
    rw [hleads.finished, hpart.1, List.append_nil]
  cases s with
  | spawn t => rfl
  | wait | drain | shutdown => exact hnothing _ rfl

theorem Sound.run_of_cancelled (h : p.Sound) (hcancelled : p.cancelled = true)
    (steps : List Step) : (p.run steps).finished = p.finished := by
  induction steps generalizing p with
  | nil => rfl
  | cons s steps ih =>
    obtain ⟨done, hleads⟩ := h.take_leads s
    have hrun : (p.run (s :: steps)).finished = (p.take s).finished :=
      ih hleads.sound ((take_cancelled h s).2 (.inl hcancelled))
    rw [hrun, h.take_of_cancelled hcancelled]

/-- Nobody has to wait for a pool that is cancelled. -/
theorem Sound.now_of_cancelled (h : p.Sound) (hcancelled : p.cancelled = true) :
    p.drain.now = p.now ∧ ∀ grace, (p.shutdown grace).1.now = p.now := by
  have hnone := h.pending_eq_nil hcancelled
  have hsame : ∀ q done, Drains p q done → q.now = p.now := fun q done hdrains => by
    have hclock := hdrains.clock.perm hdrains.all
    rw [hnone] at hclock
    exact hclock.eq_of_nil
  refine ⟨?_, fun grace => ?_⟩
  · obtain ⟨-, done, hdrains⟩ := h.drains
    exact hsame _ done hdrains
  · rcases h.shuts grace with ⟨done, -, hdrains, -⟩ | ⟨done, left, -, hcuts⟩
    · exact hsame _ done hdrains
    · have hdivided := hcuts.divided
      rw [hnone, List.perm_nil, List.append_eq_nil_iff] at hdivided
      exact absurd hdivided.2 hcuts.nonempty

/-! ## What becomes of all tasks -/

/-- A pool that nothing was done with. -/
def new : TaskPool := {}

theorem new_sound : new.Sound := ⟨List.forall_mem_nil _, List.forall_mem_nil _, nofun⟩

/-- What is so of a new pool after some steps, none of which was a shutdown that failed. -/
structure Settled (steps : List Step) (p : TaskPool) : Prop where
  /-- Every task that was added has finished or is pending, and none is overdue. -/
  whole : (p.finished ++ p.pending).Perm (endings (new.added steps))
  ahead : ∀ f ∈ p.pending, p.now ≤ f.time
  /-- To drain the pool comes to an end, when the last task finishes. -/
  drain_returns : (p.close.await none).2 = true
  drain_now : GoesOn p.now p.pending p.drain.now
  drain_finished : p.drain.finished.Perm (endings (new.added steps))
  /-- A shutdown waits for the tasks that finish in time, -/
  shutdown_in_time : ∀ grace, (∀ f ∈ p.pending, f.time < p.now + grace) →
    (p.shutdown grace).2 = true ∧
      (p.shutdown grace).1.finished.Perm (endings (new.added steps))
  /-- and fails if there is one that does not. Those that are due before its end finish, and those
  that are due after it do not. -/
  shutdown_too_late : ∀ grace, (∃ f ∈ p.pending, p.now + grace < f.time) →
    (p.shutdown grace).2 = false ∧ ∃ done,
      (p.shutdown grace).1.finished = p.finished ++ done ∧
      (p.pending.filter (·.time < p.now + grace)).Subperm done ∧
      done.Subperm (p.pending.filter (·.time ≤ p.now + grace))

/-- What is so of a pool that was shut down in vain, after some more steps. -/
structure Ended (p : TaskPool) (later : List Step) : Prop where
  /-- If anything finishes, it is tasks that were added later and take no time. -/
  finished : ∃ late, (p.run later).finished = p.finished ++ late ∧
    late.Subperm (endings ((p.added later).filter (·.1.duration = 0)))
  /-- Nobody has to wait for anything. -/
  drain_now : (p.run later).drain.now = (p.run later).now
  shutdown_now : ∀ grace, ((p.run later).shutdown grace).1.now = (p.run later).now

theorem Cuts.done_perm {limit : Nat} {left : List FinishedTask}
    (h : Cuts limit p q done left) : (p.pending.filter (·.time < limit)).Perm done := by
  have hdone : done.filter (·.time < limit) = done :=
    List.filter_eq_self.2 fun f hf => by simpa using h.before f hf
  have hleft : left.filter (·.time < limit) = [] :=
    List.filter_eq_nil_iff.2 fun f hf => by simpa using h.after f hf
  have hfilter := h.divided.filter (·.time < limit)
  rw [List.filter_append, hdone, hleft, List.append_nil] at hfilter
  exact hfilter.symm

/-- When all pending tasks finish, every task that was added has finished. -/
theorem Drains.finished_perm {tasks : List FinishedTask} (h : Drains p q done)
    (hwhole : (p.finished ++ p.pending).Perm tasks) : q.finished.Perm tasks := by
  rw [h.finished]
  exact (h.all.append_left _).trans hwhole

theorem settled {steps : List Step} (hrun : new.run steps = p) (h : p.Sound)
    (hgoing : p.cancelled = false) : Settled steps p := by
  have hwhole : (p.finished ++ p.pending).Perm (endings (new.added steps)) :=
    hrun ▸ (new_sound.run_balance steps).2 (hrun ▸ hgoing)
  obtain ⟨hreturns, done, hdrains⟩ := h.drains
  refine ⟨hwhole, h.pending_ahead, hreturns, hdrains.clock.perm hdrains.all,
    hdrains.finished_perm hwhole, fun grace hbefore => ?inTime, fun grace hafter => ?tooLate⟩
  case inTime =>
    rcases h.shuts grace with ⟨done, htrue, hdrains, -⟩ | ⟨done, left, -, hcuts⟩
    · exact ⟨htrue, hdrains.finished_perm hwhole⟩
    · obtain ⟨f, hf⟩ := List.exists_mem_of_ne_nil _ hcuts.nonempty
      have hpending := hcuts.divided.mem_iff.1 (List.mem_append_right done hf)
      exact absurd (hbefore f hpending) (Nat.not_lt.2 (hcuts.after f hf))
  case tooLate =>
    obtain ⟨f, hf, hlate⟩ := hafter
    rcases h.shuts grace with ⟨done, -, hdrains, hbefore⟩ | ⟨done, left, hfalse, hcuts⟩
    · exact absurd (hbefore f (hdrains.all.mem_iff.2 hf)) (Nat.lt_asymm hlate)
    · have hperm := hcuts.done_perm
      have hsub : (p.pending.filter (·.time < p.now + grace)).Sublist
          (p.pending.filter (·.time ≤ p.now + grace)) :=
        List.monotone_filter_right _ fun f hf => by simpa using Nat.le_of_lt (by simpa using hf)
      exact ⟨hfalse, done, hcuts.finished, hperm.subperm, hperm.symm.subperm.trans hsub.subperm⟩

theorem ended (h : p.Sound) (hcancelled : p.cancelled = true) (later : List Step) :
    Ended p later := by
  have hlater : (p.run later).cancelled = true := (run_cancelled h later).2 (.inl hcancelled)
  obtain ⟨hdrain, hshutdown⟩ := (h.run later).now_of_cancelled hlater
  refine ⟨⟨[], ?_, List.nil_subperm⟩, hdrain, hshutdown⟩
  rw [h.run_of_cancelled hcancelled, List.append_nil]

theorem isEmpty_of_nil (hfresh : p.fresh = []) (hrunning : p.running = []) : p.isEmpty = true := by
  rw [isEmpty, size, hfresh, hrunning]
  rfl

/-- Whatever is done with a pool, a task finishes at most once, when it has run for as long as it
takes, and nothing runs any more when somebody has waited for all tasks. Until a shutdown fails,
nothing is lost. When one fails, what is due after its end is lost, and tasks that are added later
do not start. Nothing else cancels a pool. -/
theorem run_accounts (steps : List Step) :
    let p := new.run steps
    p.finished.Subperm (endings (new.added steps)) ∧ (∀ f ∈ p.finished, f.time ≤ p.now) ∧
      p.drain.isEmpty = true ∧ (∀ grace, (p.shutdown grace).1.isEmpty = true) ∧
      (p.cancelled = true ↔ new.HasFailed steps) ∧
      (¬ new.HasFailed steps → Settled steps p) ∧
      ∀ grace later, (p.shutdown grace).2 = false → Ended (p.shutdown grace).1 later := by
  intro p
  have h : p.Sound := new_sound.run steps
  have hcancelled : p.cancelled = true ↔ new.HasFailed steps := by
    rw [run_cancelled new_sound]
    exact or_iff_right nofun
  refine ⟨?once, h.past, ?drained, fun grace => ?shut, hcancelled, fun hnot => ?settled,
    fun grace later hfalse => ?ended⟩
  case once =>
    have hpart := (new_sound.run_balance steps).1
    exact (List.sublist_append_left _ _).subperm.trans hpart
  case drained =>
    obtain ⟨-, done, hdrains⟩ := h.drains
    exact isEmpty_of_nil hdrains.fresh hdrains.running
  case shut =>
    rcases h.shuts grace with ⟨done, -, hdrains, -⟩ | ⟨done, left, -, hcuts⟩
    · exact isEmpty_of_nil hdrains.fresh hdrains.running
    · exact isEmpty_of_nil hcuts.fresh hcuts.running
  case settled => exact settled rfl h (by simpa using mt hcancelled.1 hnot)
  case ended =>
    obtain ⟨done, hleads⟩ := h.take_leads (.shutdown grace)
    have hfails := (take_cancelled h (.shutdown grace)).2 (.inr ⟨grace, rfl, hfalse⟩)
    exact ended hleads.sound hfails later

end TaskPool

end ChatRelay
