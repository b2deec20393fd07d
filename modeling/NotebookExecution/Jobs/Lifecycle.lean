import NotebookExecution.Library.Runs

/-! Starting and stopping the scheduler. Its loop is a task of the event loop, and so are the callers of
`start` and `stop`; each runs from one `await` that suspends it to the next. -/

namespace NotebookExecution.Jobs.Lifecycle

open Library.Runs

inductive LoopPhase
  | created | evaluating | sleeping | ended
  deriving DecidableEq

/-- `cancelled` stands for a cancellation that has been requested and is not yet delivered. -/
structure LoopTask where
  phase : LoopPhase
  cancelled : Bool
  deriving DecidableEq

namespace LoopTask

def enter (running : Bool) : LoopTask := ⟨if running then .evaluating else .ended, false⟩

def cancel (l : LoopTask) : LoopTask := if l.phase = .ended then l else { l with cancelled := true }

/-- The task goes on to its next suspension. A submission inside an evaluation may swallow the cancellation
that is delivered to it. -/
def resume (running swallows : Bool) (l : LoopTask) : Option LoopTask :=
  match l.phase, l.cancelled with
  | .created, false => some (enter running)
  -- It has not entered the loop, or nothing in the loop takes the cancellation but the sleep, which breaks.
  | .created, true | .sleeping, true => some ⟨.ended, false⟩
  | .evaluating, false => some ⟨.sleeping, false⟩
  | .evaluating, true => some ⟨if swallows then .evaluating else .ended, false⟩
  | .sleeping, false => some (enter running)
  | .ended, _ => none

end LoopTask

structure JobScheduler where
  running : Bool
  task : Option ℕ
  loops : List LoopTask
  waiting : List ℕ

namespace JobScheduler

inductive Action
  | start
  | stop
  | stopped (j : ℕ)
  | resume (j : ℕ) (swallows : Bool)
  deriving DecidableEq

def new : JobScheduler := ⟨false, none, [], []⟩

def start (s : JobScheduler) : JobScheduler :=
  if s.running then s
  else { s with running := true, task := some s.loops.length, loops := s.loops ++ [⟨.created, false⟩] }

def stop (s : JobScheduler) : JobScheduler :=
  if !s.running then s
  else
    match s.task with
    | none => { s with running := false }
    | some j => { s with
        running := false
        loops := s.loops.modify j LoopTask.cancel
        waiting := s.waiting ++ [j] }

def ended (s : JobScheduler) (j : ℕ) : Bool := s.loops[j]?.any fun l => l.phase = .ended

def step (s : JobScheduler) : Action → Option JobScheduler
  | .start => some s.start
  | .stop => some s.stop
  | .stopped j => if j ∈ s.waiting ∧ s.ended j then some { s with waiting := s.waiting.erase j } else none
  | .resume j swallows => do
    let l ← s.loops[j]?
    let l' ← l.resume s.running swallows
    pure { s with loops := s.loops.set j l' }

variable {s t : JobScheduler} {a : Action} {j : ℕ} {l : LoopTask}

/-- A running scheduler has a current loop, not cancelled; every other loop that has not ended is one that
a suspended `stop` waits for. -/
structure Accounted (s : JobScheduler) : Prop where
  current : s.running = true → ∃ j l, s.task = some j ∧ s.loops[j]? = some l ∧ l.phase ≠ .ended ∧
    l.cancelled = false
  others : ∀ j l, s.loops[j]? = some l → l.phase ≠ .ended →
    (s.running = true ∧ s.task = some j) ∨ j ∈ s.waiting

lemma cancel_phase (l : LoopTask) : l.cancel.phase = l.phase := by
  rw [LoopTask.cancel]
  split <;> rfl

lemma resume_ended {running swallows : Bool} {l' : LoopTask} (h : l.resume running swallows = some l') :
    l.phase ≠ .ended := by
  obtain ⟨phase, cancelled⟩ := l
  rintro rfl
  cases cancelled <;> cases h

lemma resume_running {swallows : Bool} {l' : LoopTask} (h : l.resume true swallows = some l')
    (hc : l.cancelled = false) : l'.phase ≠ .ended ∧ l'.cancelled = false := by
  obtain ⟨phase, cancelled⟩ := l
  obtain rfl : cancelled = false := hc
  cases phase with
  | ended => cases h
  | _ =>
    cases h
    exact ⟨LoopPhase.noConfusion, rfl⟩

lemma Accounted.start (h : Accounted s) : Accounted s.start := by
  rw [JobScheduler.start]
  split
  · exact h
  case isFalse hr =>
    refine ⟨fun _ => ⟨s.loops.length, ⟨.created, false⟩, rfl, List.getElem?_concat_length, ?_, rfl⟩, ?_⟩
    · exact LoopPhase.noConfusion
    · intro j l hj hne
      rw [List.getElem?_append] at hj
      split at hj
      · rcases h.others j l hj hne with ⟨hrun, -⟩ | hw
        · exact absurd hrun hr
        · exact .inr hw
      case isFalse hlt =>
        have hlen := (List.getElem?_eq_some_iff.mp hj).1
        have hj' : s.loops.length = j := by
          rw [List.length_singleton] at hlen
          omega
        exact .inl ⟨rfl, congrArg some hj'⟩

lemma Accounted.stop (h : Accounted s) : Accounted s.stop := by
  rw [JobScheduler.stop]
  split
  · exact h
  case isFalse hr =>
    obtain ⟨j, l, ht, -⟩ := h.current (by simpa using hr)
    rw [ht]
    refine ⟨fun hrun => absurd hrun Bool.false_ne_true, fun i x hi hne => .inr ?_⟩
    have hold : ∃ y, s.loops[i]? = some y ∧ y.phase ≠ .ended := by
      rw [List.getElem?_modify] at hi
      obtain ⟨y, hy, hyx⟩ := Option.map_eq_some_iff.mp hi
      refine ⟨y, hy, ?_⟩
      split at hyx
      · rw [← cancel_phase, hyx]
        exact hne
      · rw [← hyx] at hne
        exact hne
    obtain ⟨y, hy, hye⟩ := hold
    rcases h.others i y hy hye with ⟨-, hti⟩ | hw
    · have hij : j = i := Option.some_inj.mp (ht.symm.trans hti)
      exact List.mem_append_right _ (List.mem_singleton.mpr hij.symm)
    · exact List.mem_append_left _ hw

lemma Accounted.resume {swallows : Bool} {l' : LoopTask} (h : Accounted s) (hj : s.loops[j]? = some l)
    (hl : l.resume s.running swallows = some l') : Accounted { s with loops := s.loops.set j l' } := by
  have hlt := (List.getElem?_eq_some_iff.mp hj).1
  refine ⟨fun hr => ?_, fun i x hi hne => ?_⟩
  · obtain ⟨k, y, ht, hk, hy, hc⟩ := h.current hr
    by_cases hjk : j = k
    · rw [hjk, hk] at hj
      cases hj
      rw [hr] at hl
      obtain ⟨hne, hc'⟩ := resume_running hl hc
      exact ⟨k, l', ht, by rw [hjk, List.getElem?_set_self (hjk ▸ hlt)], hne, hc'⟩
    · exact ⟨k, y, ht, (List.getElem?_set_ne hjk).trans hk, hy, hc⟩
  · by_cases hji : j = i
    · exact h.others i l (hji ▸ hj) (resume_ended hl)
    · exact h.others i x ((List.getElem?_set_ne hji).symm.trans hi) hne

lemma Accounted.step (h : Accounted s) (ht : s.step a = some t) : Accounted t := by
  cases a with
  | start =>
    cases ht
    exact h.start
  | stop =>
    cases ht
    exact h.stop
  | stopped j =>
    obtain ⟨⟨-, he⟩, ht⟩ := Option.ite_none_right_eq_some.mp ht
    cases ht
    refine ⟨h.current, fun i l hi hne => (h.others i l hi hne).imp_right fun hw => ?_⟩
    have hij : i ≠ j := by
      rintro rfl
      rw [ended, hi, Option.any_some, decide_eq_true_eq] at he
      exact hne he
    exact (List.mem_erase_of_ne hij).mpr hw
  | resume j swallows =>
    obtain ⟨l, hj, ht⟩ := Option.bind_eq_some_iff.mp ht
    obtain ⟨l', hl, ht⟩ := Option.bind_eq_some_iff.mp ht
    cases ht
    exact h.resume hj hl

theorem loops_accounted {as : List Action} (h : exec step new as = some s) : Accounted s :=
  exec_history (R := fun _ => Accounted) (fun _ _ _ _ hs ht => hs.step ht)
    ⟨fun hr => absurd hr Bool.false_ne_true, fun _ _ hj => by cases hj⟩ h

def resumes (j : ℕ) : Action → Bool
  | .resume i _ => i = j
  | _ => false

def remaining (l : LoopTask) : ℕ :=
  match l.phase, l.cancelled with
  | .evaluating, true => 3
  | .evaluating, false => 2
  | .created, _ | .sleeping, _ => 1
  | .ended, _ => 0

def left (s : JobScheduler) (j : ℕ) : ℕ := s.loops[j]?.elim 1 remaining

lemma resume_remaining {swallows : Bool} {l' : LoopTask} (h : l.resume false swallows = some l') :
    remaining l' + 1 ≤ remaining l := by
  obtain ⟨phase, cancelled⟩ := l
  cases phase with
  | evaluating =>
    cases cancelled with
    | false =>
      cases h
      exact le_rfl
    | true => cases swallows <;> cases h <;> decide
  | ended => cases h
  | _ => cases cancelled <;> cases h <;> decide

lemma left_le (s : JobScheduler) (j : ℕ) : s.left j ≤ 3 := by
  rw [left]
  cases s.loops[j]? with
  | none => exact Nat.le_of_ble_eq_true rfl
  | some l =>
    obtain ⟨phase, cancelled⟩ := l
    cases phase <;> cases cancelled <;> decide

lemma left_step (hr : s.running = false) (ha : a ≠ .start) (ht : s.step a = some t) :
    t.running = false ∧ (if resumes j a then 1 else 0) + t.left j ≤ s.left j := by
  cases a with
  | start => exact absurd rfl ha
  | stop =>
    cases ht
    have hstop : s.stop = s := if_pos (by rw [hr]; rfl)
    rw [hstop]
    exact ⟨hr, (Nat.zero_add _).le⟩
  | stopped i =>
    obtain ⟨-, ht⟩ := Option.ite_none_right_eq_some.mp ht
    cases ht
    exact ⟨hr, (Nat.zero_add _).le⟩
  | resume i swallows =>
    obtain ⟨l, hi, ht⟩ := Option.bind_eq_some_iff.mp ht
    obtain ⟨l', hl, ht⟩ := Option.bind_eq_some_iff.mp ht
    cases ht
    refine ⟨hr, ?_⟩
    rw [hr] at hl
    have hpace := resume_remaining hl
    by_cases hij : i = j
    · have hget := List.getElem?_set_self (a := l') (List.getElem?_eq_some_iff.mp hi).1
      rw [hij] at hi hget
      simp only [resumes, left, hij, hi, hget, decide_true, if_true, Option.elim_some]
      omega
    · simp only [resumes, left, hij, decide_false, Bool.false_eq_true, if_false, Nat.zero_add,
        List.getElem?_set_ne hij, le_refl]

lemma left_exec {as : List Action} (h : exec step s as = some t) (hr : s.running = false)
    (hs : .start ∉ as) (j : ℕ) : as.countP (resumes j) + t.left j ≤ s.left j := by
  induction as generalizing s with
  | nil =>
    cases h
    rw [List.countP_nil, Nat.zero_add]
  | cons a as ih =>
    rw [exec] at h
    obtain ⟨u, hu, h⟩ := Option.bind_eq_some_iff.mp h
    rw [List.mem_cons, not_or] at hs
    obtain ⟨hru, hle⟩ := left_step (j := j) hr (Ne.symm hs.1) hu
    have hrest := ih h hru hs.2
    rw [List.countP_cons]
    omega

lemma ended_of_left (h : s.left j = 0) : s.ended j = true := by
  rw [left] at h
  rw [ended]
  cases hj : s.loops[j]? with
  | none =>
    rw [hj] at h
    cases h
  | some l =>
    rw [hj, Option.elim_some] at h
    obtain ⟨phase, cancelled⟩ := l
    cases phase with
    | ended => rfl
    | _ => cases cancelled <;> cases h

theorem stopped_loop_ends {as : List Action} (h : exec step s as = some t) (hr : s.running = false)
    (hs : .start ∉ as) (j : ℕ) : as.countP (resumes j) ≤ 3 ∧
      (as.countP (resumes j) = 3 → t.ended j = true) := by
  have hle := left_exec h hr hs j
  have hthree := left_le s j
  exact ⟨by omega, fun hc => ended_of_left (by omega)⟩

def restarted : List Action :=
  [.start, .resume 0 false, .stop, .start, .resume 0 true, .resume 0 false, .resume 0 false, .resume 1 false]

/-- The first loop swallows its cancellation and goes on: there are two. -/
example : ((exec step new restarted).map fun s => (s.loops.map LoopTask.phase, s.waiting)) =
    some ([.evaluating, .evaluating], [0]) := by decide

theorem restarted_accounted : ∃ s, exec step new restarted = some s ∧ Accounted s :=
  ⟨_, rfl, loops_accounted (rfl : exec step new restarted = some _)⟩

def stopping : JobScheduler := ⟨false, some 0, [⟨.evaluating, true⟩], [0]⟩

theorem stopping_ends : ∃ t, exec step stopping [.resume 0 true, .resume 0 false, .resume 0 false] = some t ∧
    t.ended 0 = true :=
  ⟨_, rfl, (stopped_loop_ends (rfl : exec step stopping [.resume 0 true, .resume 0 false, .resume 0 false] = some _)
    rfl (by decide) 0).2 rfl⟩

end JobScheduler

end NotebookExecution.Jobs.Lifecycle
