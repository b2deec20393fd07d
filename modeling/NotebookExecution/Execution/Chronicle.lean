import NotebookExecution.Execution.Completion

/-! How the tasks of the registry go on over a run, and which of them `_running_tasks` holds. -/

namespace NotebookExecution.Execution

open Library.Runs

variable {ν : Type} {I : Interpreter ν}

def ExecutionStatus.rank : ExecutionStatus → ℕ
  | .queued | .validating | .running => 0
  | .cancelling => 1
  | .succeeded | .failed | .timedOut | .cancelled => 2

namespace ExecutionTask

structure SameIdentity (u v : ExecutionTask) : Prop where
  sessionId : v.sessionId = u.sessionId
  notebookId : v.notebookId = u.notebookId
  cellId : v.cellId = u.cellId
  code : v.code = u.code
  timeoutSeconds : v.timeoutSeconds = u.timeoutSeconds
  createdAt : v.createdAt = u.createdAt

structure Advanced (u v : ExecutionTask) : Prop where
  identity : SameIdentity u v
  startedAt : v.startedAt = u.startedAt
  completedAt : ∀ i, u.completedAt = some i → ∃ j, v.completedAt = some j ∧ i ≤ j
  rank : u.status.rank ≤ v.status.rank

structure Dated (now : Instant) (u : ExecutionTask) : Prop where
  created : u.createdAt ≤ now
  started : ∀ i, u.startedAt = some i → u.createdAt ≤ i ∧ i ≤ now
  completed : ∀ j, u.completedAt = some j → u.createdAt ≤ j ∧ j ≤ now ∧ ∀ i, u.startedAt = some i → i ≤ j

structure Steps (now : Instant) (u v : ExecutionTask) : Prop where
  identity : SameIdentity u v
  startedAt : v.startedAt = u.startedAt
  completedAt : v.completedAt = u.completedAt ∨ v.completedAt = some now
  rank : u.status.rank ≤ v.status.rank

variable {u v w : ExecutionTask} {now now' : Instant}

lemma SameIdentity.refl (u : ExecutionTask) : SameIdentity u u := ⟨rfl, rfl, rfl, rfl, rfl, rfl⟩

lemma SameIdentity.trans (h : SameIdentity u v) (h' : SameIdentity v w) : SameIdentity u w where
  sessionId := h'.sessionId.trans h.sessionId
  notebookId := h'.notebookId.trans h.notebookId
  cellId := h'.cellId.trans h.cellId
  code := h'.code.trans h.code
  timeoutSeconds := h'.timeoutSeconds.trans h.timeoutSeconds
  createdAt := h'.createdAt.trans h.createdAt

lemma Advanced.refl (u : ExecutionTask) : Advanced u u := ⟨.refl u, rfl, fun i hi => ⟨i, hi, le_rfl⟩, le_rfl⟩

lemma Advanced.trans (h : Advanced u v) (h' : Advanced v w) : Advanced u w where
  identity := h.identity.trans h'.identity
  startedAt := h'.startedAt.trans h.startedAt
  completedAt i hi := by
    obtain ⟨j, hj, hij⟩ := h.completedAt i hi
    obtain ⟨k, hk, hjk⟩ := h'.completedAt j hj
    exact ⟨k, hk, hij.trans hjk⟩
  rank := h.rank.trans h'.rank

lemma Steps.refl (now : Instant) (u : ExecutionTask) : Steps now u u := ⟨.refl u, rfl, .inl rfl, le_rfl⟩

lemma Steps.complete (h : Steps now u v) : Steps now u (v.complete now) :=
  ⟨h.identity.trans ⟨rfl, rfl, rfl, rfl, rfl, rfl⟩, h.startedAt, .inr rfl, h.rank⟩

lemma Steps.advanced (h : Steps now u v) (hu : Dated now u) : Advanced u v where
  identity := h.identity
  startedAt := h.startedAt
  completedAt i hi := by
    rcases h.completedAt with hv | hv
    · exact ⟨i, hv.trans hi, le_rfl⟩
    · exact ⟨now, hv, (hu.completed i hi).2.1⟩
  rank := h.rank

lemma Steps.dated (h : Steps now u v) (hu : Dated now u) : Dated now v where
  created := h.identity.createdAt ▸ hu.created
  started i hi := by
    rw [h.identity.createdAt]
    exact hu.started i (h.startedAt ▸ hi)
  completed j hj := by
    rw [h.identity.createdAt, h.startedAt]
    rcases h.completedAt with hv | hv
    · exact hu.completed j (hv ▸ hj)
    · obtain rfl : now = j := Option.some_inj.mp (hv.symm.trans hj)
      exact ⟨hu.created, le_rfl, fun i hi => (hu.started i hi).2⟩

lemma Dated.later (h : Dated now u) (hle : now ≤ now') : Dated now' u where
  created := h.created.trans hle
  started i hi := ⟨(h.started i hi).1, (h.started i hi).2.trans hle⟩
  completed j hj := ⟨(h.completed j hj).1, (h.completed j hj).2.1.trans hle, (h.completed j hj).2.2⟩

lemma rank_le_two (u : ExecutionTask) : u.status.rank ≤ 2 := by
  cases u.status <;> decide

lemma rank_cancellable {status : ExecutionStatus} (h : ExecutionManager.cancellable status = true) :
    status.rank = 0 := by
  cases status <;> first | rfl | cases h

lemma steps_receive (now : Instant) (m : Message) (u : ExecutionTask) : Steps now u (u.receive m) := by
  rw [receive]
  split
  · exact ⟨⟨rfl, rfl, rfl, rfl, rfl, rfl⟩, rfl, .inl rfl, rank_le_two u⟩
  · exact ⟨⟨rfl, rfl, rfl, rfl, rfl, rfl⟩, rfl, .inl rfl, rank_le_two u⟩

lemma steps_fail (now : Instant) (err : Failure) (u : ExecutionTask) : Steps now u (u.fail err) :=
  ⟨⟨rfl, rfl, rfl, rfl, rfl, rfl⟩, rfl, .inl rfl, rank_le_two u⟩

lemma steps_timeOut (now : Instant) (u : ExecutionTask) : Steps now u u.timeOut :=
  ⟨⟨rfl, rfl, rfl, rfl, rfl, rfl⟩, rfl, .inl rfl, rank_le_two u⟩

lemma steps_cancelByError (now : Instant) (u : ExecutionTask) : Steps now u u.cancelByError :=
  ⟨⟨rfl, rfl, rfl, rfl, rfl, rfl⟩, rfl, .inl rfl, rank_le_two u⟩

lemma steps_cancelled (now : Instant) (u : ExecutionTask) : Steps now u (u.cancelled now) :=
  ⟨⟨rfl, rfl, rfl, rfl, rfl, rfl⟩, rfl, .inr rfl, rank_le_two u⟩

lemma steps_cancelling (now : Instant) (h : ExecutionManager.cancellable u.status = true) :
    Steps now u u.cancelling :=
  ⟨⟨rfl, rfl, rfl, rfl, rfl, rfl⟩, rfl, .inl rfl, by rw [rank_cancellable h]; exact Nat.zero_le _⟩

lemma dated_refuse (now : Instant) (req : ExecutionRequestPayload) (err : Failure) :
    Dated now ((queued now req).refuse err now) where
  created := le_rfl
  started i hi := by cases hi
  completed j hj := by
    cases hj
    exact ⟨le_rfl, le_rfl, fun i hi => by cases hi⟩

lemma dated_begin (now : Instant) (req : ExecutionRequestPayload) : Dated now ((queued now req).begin now) where
  created := le_rfl
  started i hi := by
    cases hi
    exact ⟨le_rfl, le_rfl⟩
  completed j hj := by cases hj

end ExecutionTask

namespace ExecutionManager

open ExecutionTask

variable {s t : ExecutionManager ν} {a : Action} {e : ExecutionId} {u v : ExecutionTask}

/-! ## Tasks -/

inductive TaskStep (s t : ExecutionManager ν) : Prop
  | registered (v : ExecutionTask) (tasks : t.tasks = Function.update s.tasks s.next (some v))
      (dated : Dated s.now v)
  | stepped (e : ExecutionId) (u v : ExecutionTask) (here : s.tasks e = some u)
      (tasks : t.tasks = Function.update s.tasks e (some v)) (steps : Steps s.now u v)
  | untouched (tasks : t.tasks = s.tasks)

lemma taskStep_handleReset {x : ExecutionSession ν} {spawn : Spawn} (hu : s.tasks e = some u)
    (h : Steps s.now u v) : TaskStep s (s.handleReset I e v spawn x) := by
  obtain ⟨w, hw, hv⟩ := handleReset_tasks I e v spawn x s
  refine .stepped e u w hu hw ?_
  rcases hv with rfl | rfl
  · exact h
  · exact h.complete

lemma taskStep (ht : Stride I s a t) : TaskStep s t := by
  cases ht with
  | refused req err => exact .registered _ rfl (dated_refuse s.now req err)
  | accepted hx ha => exact .registered _ rfl (dated_begin s.now _)
  | timedOut hu hx hs ho hp hl => exact taskStep_handleReset hu (steps_timeOut s.now _)
  | received hu hx hs ho => exact .stepped _ _ _ hu rfl (steps_receive s.now _ _).complete
  | failed hu hx hs ho => exact .stepped _ _ _ hu rfl (steps_fail s.now _ _).complete
  | aborted hu hx hs ho hp => exact taskStep_handleReset hu (steps_cancelByError s.now _)
  | finished hu hx hs hr => exact .stepped _ _ _ hu rfl (Steps.refl s.now _).complete
  | cancelledAlone hu hc hx =>
    exact .stepped _ _ _ hu (Function.update_idem ..) (steps_cancelled s.now _)
  | cancelledAtOnce hu hc hx hr =>
    exact .stepped _ _ _ hu (Function.update_idem ..) (steps_cancelled s.now _)
  | cancelling hu hc hx hr => exact .stepped _ _ _ hu rfl (steps_cancelling s.now hc)
  | concluded hu hx hs hr => exact .stepped _ _ _ hu rfl (steps_cancelled s.now _)
  | _ => exact .untouched rfl

lemma handleReset_now {x : ExecutionSession ν} {spawn : Spawn} : (s.handleReset I e u spawn x).now = s.now := by
  rw [handleReset]
  dsimp only
  split <;> rfl

lemma stride_now (ht : Stride I s a t) : s.now ≤ t.now := by
  cases ht with
  | timedOut => exact handleReset_now.ge
  | aborted => exact handleReset_now.ge
  | ticked d => exact Int.le_add_of_nonneg_right (Int.natCast_nonneg d)
  | _ => exact le_refl s.now

structure Registered (s : ExecutionManager ν) : Prop where
  fresh : Fresh s
  dated : ∀ e u, s.tasks e = some u → Dated s.now u

lemma registered_step (h : Registered s) (ht : Stride I s a t) : Registered t := by
  refine ⟨fresh_step h.fresh ht, fun e v hv => ?_⟩
  have hnow := stride_now ht
  cases taskStep ht with
  | registered w tasks dated =>
    rw [tasks] at hv
    rcases update_eq_some hv with ⟨-, rfl⟩ | ⟨-, hold⟩
    · exact dated.later hnow
    · exact (h.dated e v hold).later hnow
  | stepped i u w here tasks steps =>
    rw [tasks] at hv
    rcases update_eq_some hv with ⟨-, rfl⟩ | ⟨-, hold⟩
    · exact (steps.dated (h.dated i u here)).later hnow
    · exact (h.dated e v hold).later hnow
  | untouched tasks =>
    rw [tasks] at hv
    exact (h.dated e v hv).later hnow

lemma handleReset_next {x : ExecutionSession ν} {spawn : Spawn} :
    (s.handleReset I e u spawn x).next = s.next + 1 := by
  rw [handleReset]
  dsimp only
  split <;> rfl

lemma stride_next (ht : Stride I s a t) : s.next ≤ t.next := by
  cases ht with
  | timedOut => exact handleReset_next.ge.trans' (Nat.le_succ _)
  | aborted => exact handleReset_next.ge.trans' (Nat.le_succ _)
  | refused => exact Nat.le_succ s.next
  | accepted => exact Nat.le_succ s.next
  | cancelledAtOnce => exact Nat.le_succ s.next
  | cancelling => exact Nat.le_succ s.next
  | entered => exact Nat.le_succ s.next
  | _ => exact le_refl s.next

structure Later (s t : ExecutionManager ν) : Prop where
  next : s.next ≤ t.next
  tasks : ∀ e < s.next, Option.Rel Advanced (s.tasks e) (t.tasks e)

lemma advanced_refl (o : Option ExecutionTask) : Option.Rel Advanced o o := by
  cases o with
  | none => exact .none
  | some u => exact .some (.refl u)

lemma Later.refl (s : ExecutionManager ν) : Later s s := ⟨le_rfl, fun _ _ => advanced_refl _⟩

lemma Later.trans {r : ExecutionManager ν} (h : Later s t) (h' : Later t r) : Later s r where
  next := h.next.trans h'.next
  tasks e he := by
    have hst := h.tasks e he
    have htr := h'.tasks e (he.trans_le h.next)
    generalize s.tasks e = o at hst ⊢
    generalize t.tasks e = o' at hst htr
    generalize r.tasks e = o'' at htr ⊢
    cases hst with
    | none =>
      cases htr
      exact .none
    | some huv =>
      cases htr with
      | some hvw => exact .some (huv.trans hvw)

lemma later_step (h : Registered s) (ht : Stride I s a t) : Later s t := by
  refine ⟨stride_next ht, fun e he => ?_⟩
  cases taskStep ht with
  | registered w tasks dated =>
    rw [tasks, Function.update_of_ne he.ne]
    exact advanced_refl _
  | stepped i u w here tasks steps =>
    rw [tasks]
    by_cases hi : e = i
    · rw [hi, here, Function.update_self]
      exact .some (steps.advanced (h.dated i u here))
    · rw [Function.update_of_ne hi]
      exact advanced_refl _
  | untouched tasks =>
    rw [tasks]
    exact advanced_refl _

lemma registered_exec {as : List Action} (h : Registered s) (ht : exec (step I) s as = some t) :
    Registered t ∧ Later s t := by
  refine exec_history (R := fun _ t => Registered t ∧ Later s t) ?_ ⟨h, .refl s⟩ ht
  rintro - x a y ⟨hx, hsx⟩ hy
  have hstride := step_stride hy
  exact ⟨registered_step hx hstride, hsx.trans (later_step hx hstride)⟩

lemma registered_runs {now : Instant} {as bs : List Action} (hs : exec (step I) (empty now) as = some s)
    (ht : exec (step I) s bs = some t) : Registered s ∧ Registered t ∧ Later s t := by
  have hreg : Registered s := (registered_exec ⟨empty_fresh now, fun _ _ hu => by cases hu⟩ hs).1
  exact ⟨hreg, registered_exec hreg ht⟩

theorem tasks_advance (I : Interpreter ν) (now : Instant) {as bs : List Action}
    (hs : exec (step I) (empty now) as = some s) (ht : exec (step I) s bs = some t)
    (hu : s.tasks e = some u) : ∃ v, t.tasks e = some v ∧ Advanced u v ∧ Dated t.now v := by
  obtain ⟨hreg, hlast, hlater⟩ := registered_runs hs ht
  have he : e < s.next := by
    by_contra hn
    rw [hreg.fresh.tasks e (not_lt.mp hn)] at hu
    cases hu
  have hrel := hlater.tasks e he
  rw [hu] at hrel
  generalize hv : t.tasks e = o at hrel
  cases hrel with
  | some huv => exact ⟨_, rfl, huv, hlast.dated e _ hv⟩

def tasksOf (l : List ExecutionId) (s : ExecutionManager ν) : List (ExecutionId × ExecutionTask) :=
  l.filterMap fun e => (s.tasks e).map (e, ·)

/-- Tasks are registered in the order of their identifiers. -/
def listBySession (sessionId : Option SessionId) (s : ExecutionManager ν) :
    List (ExecutionId × ExecutionTask) :=
  let tasks := s.tasksOf (List.range s.next)
  match sessionId with
  | none => tasks
  | some k => tasks.filter fun p => p.2.sessionId = k

def Earlier (p q : ExecutionId × ExecutionTask) : Prop := p.1 = q.1 ∧ Advanced p.2 q.2

def Extends (s : ExecutionManager ν) (l l' : List (ExecutionId × ExecutionTask)) : Prop :=
  ∃ earlier later, l' = earlier ++ later ∧ List.Forall₂ Earlier l earlier ∧ ∀ p ∈ later, s.next ≤ p.1

lemma earlier_tasksOf (h : Later s t) (l : List ExecutionId) (hl : ∀ e ∈ l, e < s.next) :
    List.Forall₂ Earlier (s.tasksOf l) (t.tasksOf l) := by
  induction l with
  | nil => exact .nil
  | cons e l ih =>
    have hrest := ih fun i hi => hl i (List.mem_cons_of_mem e hi)
    have he := h.tasks e (hl e List.mem_cons_self)
    rw [tasksOf, tasksOf, List.filterMap_cons, List.filterMap_cons]
    generalize s.tasks e = o at he ⊢
    generalize t.tasks e = o' at he ⊢
    cases he with
    | none => exact hrest
    | some huv => exact .cons ⟨rfl, huv⟩ hrest

lemma extends_tasksOf (h : Later s t) : Extends s (s.listBySession none) (t.listBySession none) := by
  obtain ⟨n, hn⟩ := Nat.exists_eq_add_of_le h.next
  refine ⟨t.tasksOf (List.range s.next), t.tasksOf ((List.range n).map (s.next + ·)), ?_,
    earlier_tasksOf h _ fun e he => List.mem_range.mp he, fun p hp => ?_⟩
  · rw [listBySession, hn, List.range_add]
    exact List.filterMap_append
  · obtain ⟨e, he, hep⟩ := List.mem_filterMap.mp hp
    obtain ⟨i, -, rfl⟩ := List.mem_map.mp he
    obtain ⟨u, -, rfl⟩ := Option.map_eq_some_iff.mp hep
    exact Nat.le_add_right s.next i

lemma Extends.filter {l l' : List (ExecutionId × ExecutionTask)} (h : Extends s l l') (k : SessionId) :
    Extends s (l.filter fun p => p.2.sessionId = k) (l'.filter fun p => p.2.sessionId = k) := by
  obtain ⟨earlier, later, rfl, hl, hlater⟩ := h
  refine ⟨_, _, List.filter_append .., List.rel_filter ?_ hl, fun p hp => hlater p (List.mem_of_mem_filter hp)⟩
  intro p q hpq
  have hk : q.2.sessionId = p.2.sessionId := hpq.2.identity.sessionId
  simp [hk]

theorem listings_extend (I : Interpreter ν) (now : Instant) {as bs : List Action}
    (hs : exec (step I) (empty now) as = some s) (ht : exec (step I) s bs = some t)
    (sessionId : Option SessionId) :
    Extends s (s.listBySession sessionId) (t.listBySession sessionId) := by
  have hall := extends_tasksOf (registered_runs hs ht).2.2
  cases sessionId with
  | none => exact hall
  | some k => exact hall.filter k

/-- `submit_execution` has created the task of the cell call and has not ended. -/
def Underway (s : ExecutionManager ν) (e : ExecutionId) : Prop :=
  (∃ limit, s.submissions e = some (.awaiting limit)) ∨ ∃ r, s.submissions e = some (.resetting r)

def Holds (s : ExecutionManager ν) (e : ExecutionId) : Prop := s.runningTasks e = true ↔ s.Underway e

variable {x : ExecutionSession ν} {spawn : Spawn} {limit : Limit}

lemma holds_same (h : Holds s e) (hs : t.submissions e = s.submissions e)
    (hr : t.runningTasks e = s.runningTasks e) : Holds t e := by
  rw [Holds, Underway, hs, hr]
  exact h

lemma holds_awaiting (hr : t.runningTasks e = true) (hs : t.submissions e = some (.awaiting limit)) : Holds t e :=
  iff_of_true hr (.inl ⟨limit, hs⟩)

lemma holds_finalize : Holds (s.finalize e u) e := by
  have hr : (s.finalize e u).runningTasks e = false := Function.update_self ..
  have hs : (s.finalize e u).submissions e = some .returned := Function.update_self ..
  rw [Holds, hr, Underway, hs]
  refine iff_of_false Bool.false_ne_true ?_
  rintro (⟨limit, h⟩ | ⟨r, h⟩) <;> cases h

lemma holds_handleReset (h : s.runningTasks e = true) : Holds (s.handleReset I e u spawn x) e := by
  rw [handleReset]
  dsimp only
  split
  · exact holds_finalize
  · exact iff_of_true h (.inr ⟨s.next, Function.update_self ..⟩)

lemma holds_refuse {err : Failure} (h : s.runningTasks e = false) : Holds (s.refuse e u err) e := by
  have hs : (s.refuse e u err).submissions e = some (.refused err) := Function.update_self ..
  have hr : (s.refuse e u err).runningTasks e = false := h
  rw [Holds, hr, Underway, hs]
  refine iff_of_false Bool.false_ne_true ?_
  rintro (⟨limit, h⟩ | ⟨r, h⟩) <;> cases h

lemma holds_step (hf : Fresh s) (h : ∀ e, Holds s e) (ht : Stride I s a t) (e : ExecutionId) : Holds t e := by
  by_cases he : a.subject s.next = some e
  · cases ht with
    | created | entered | turned | ticked => cases he
    | refused req err =>
      cases he
      refine holds_refuse (Bool.eq_false_iff.mpr fun hr => ?_)
      have hnone := hf.submissions _ (le_refl s.next)
      rcases (h s.next).mp hr with ⟨limit, hs⟩ | ⟨r, hs⟩ <;> rw [hnone] at hs <;> cases hs
    | accepted hx ha =>
      cases he
      exact holds_awaiting (Function.update_self ..) (Function.update_self ..)
    | timedOut hu hx hs ho hp hl =>
      cases he
      exact holds_handleReset ((h e).mpr (.inl ⟨_, hs⟩))
    | aborted hu hx hs ho hp =>
      cases he
      exact holds_handleReset ((h e).mpr (.inl ⟨_, hs⟩))
    | received hu hx hs ho =>
      cases he
      exact holds_finalize
    | failed hu hx hs ho =>
      cases he
      exact holds_finalize
    | finished hu hx hs hr =>
      cases he
      exact holds_finalize
    | late hu hx hs hend =>
      cases he
      exact holds_awaiting ((h e).mpr (.inl ⟨_, hs⟩)) (Function.update_self ..)
    | fired hu hx hs hend =>
      cases he
      exact holds_awaiting ((h e).mpr (.inl ⟨_, hs⟩)) (Function.update_self ..)
    | _ => exact holds_same (h e) rfl rfl
  · have hold := untouched ht he
    exact holds_same (h e) hold.submission hold.running

theorem running_tasks_exact (I : Interpreter ν) (now : Instant) {as : List Action}
    (hs : exec (step I) (empty now) as = some s) (e : ExecutionId) :
    s.runningTasks e = true ↔ s.Underway e := by
  have hrun : Fresh s ∧ ∀ e, Holds s e := by
    refine exec_history (R := fun _ s => Fresh s ∧ ∀ e, Holds s e) ?_ ⟨empty_fresh now, fun e => ?_⟩ hs
    · rintro - x a y ⟨hf, hx⟩ hy
      have hstride := step_stride hy
      exact ⟨fresh_step hf hstride, holds_step hf hx hstride⟩
    · refine iff_of_false Bool.false_ne_true ?_
      rintro (⟨limit, h⟩ | ⟨r, h⟩) <;> cases h
  exact hrun.2 e

theorem withdrawn_advances : ∃ s t u, exec (step echo) (empty 0) withdrawn.1 = some s ∧
    exec (step echo) s withdrawn.2 = some t ∧ s.tasks 0 = some u ∧
      ∃ v, t.tasks 0 = some v ∧ Advanced u v ∧ Dated t.now v :=
  ⟨_, _, _, rfl, rfl, rfl, tasks_advance echo 0 (rfl : exec (step echo) (empty 0) withdrawn.1 = some _)
    (rfl : exec (step echo) _ withdrawn.2 = some _) rfl⟩

theorem withdrawn_listed : ∃ s t, exec (step echo) (empty 0) withdrawn.1 = some s ∧
    exec (step echo) s withdrawn.2 = some t ∧ Extends s (s.listBySession (some "s")) (t.listBySession (some "s")) :=
  ⟨_, _, rfl, rfl, listings_extend echo 0 (rfl : exec (step echo) (empty 0) withdrawn.1 = some _)
    (rfl : exec (step echo) _ withdrawn.2 = some _) (some "s")⟩

theorem withdrawn_runs : ∃ s, exec (step echo) (empty 0) withdrawn.1 = some s ∧
    (s.runningTasks 0 = true ↔ s.Underway 0) :=
  ⟨_, rfl, running_tasks_exact echo 0 (rfl : exec (step echo) (empty 0) withdrawn.1 = some _) 0⟩

end ExecutionManager

end NotebookExecution.Execution
