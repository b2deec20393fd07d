import NotebookExecution.Execution.Sessions

/-! Everything one step of the manager can do, and what follows for fresh numbers, for the
sessions and for the calls on them. -/

namespace NotebookExecution.Execution

variable {ν : Type} {I : Interpreter ν}

namespace ExecutionManager

variable {s t : ExecutionManager ν} {a : Action} {k j : SessionId} {x y : ExecutionSession ν}
  {e : ExecutionId} {spawn : Spawn}

@[simp] lemma setSession_submissions : (s.setSession k x).submissions = s.submissions := rfl

@[simp] lemma setTask_submissions {u : ExecutionTask} : (s.setTask e u).submissions = s.submissions := rfl

lemma handleReset_sessions {u : ExecutionTask} :
    (s.handleReset I e u spawn x).sessions =
      Function.update s.sessions u.sessionId (some (reset I e spawn x s.next)) := by
  rw [handleReset]
  dsimp only
  split <;> rfl

lemma handleReset_cancellations {u : ExecutionTask} :
    (s.handleReset I e u spawn x).cancellations = s.cancellations := by
  rw [handleReset]
  dsimp only
  split <;> rfl

lemma handleReset_runningTasks {u : ExecutionTask} {i : ExecutionId} (hi : i ≠ e) :
    (s.handleReset I e u spawn x).runningTasks i = s.runningTasks i := by
  rw [handleReset]
  dsimp only
  split
  · exact Function.update_of_ne hi ..
  · rfl

lemma handleReset_tasks (I : Interpreter ν) (e : ExecutionId) (u : ExecutionTask) (spawn : Spawn)
    (x : ExecutionSession ν) (s : ExecutionManager ν) :
    ∃ v, (s.handleReset I e u spawn x).tasks = Function.update s.tasks e (some v) ∧
      (v = u ∨ v = u.complete s.now) := by
  rw [handleReset]
  dsimp only
  split
  · exact ⟨u.complete s.now, rfl, Or.inr rfl⟩
  · exact ⟨u, rfl, Or.inl rfl⟩

lemma handleReset_submissions (I : Interpreter ν) (e : ExecutionId) (u : ExecutionTask)
    (spawn : Spawn) (x : ExecutionSession ν) (s : ExecutionManager ν) :
    ∃ b, (s.handleReset I e u spawn x).submissions = Function.update s.submissions e (some b) ∧
      (b = .returned ∧ (reset I e spawn x s.next).isEnded s.next = true ∨
        b = .resetting s.next ∧ (reset I e spawn x s.next).isEnded s.next = false) := by
  rw [handleReset]
  dsimp only
  cases h : (reset I e spawn x s.next).isEnded s.next with
  | true => exact ⟨.returned, rfl, Or.inl ⟨rfl, rfl⟩⟩
  | false => exact ⟨.resetting s.next, rfl, Or.inr ⟨rfl, rfl⟩⟩

/-! ## Everything one step of the manager can do -/

inductive Stride (I : Interpreter ν) (s : ExecutionManager ν) : Action → ExecutionManager ν → Prop
  | created {k id} (hk : s.sessions k = none) :
      Stride I s (.createSession k id) (s.setSession k (.created I k id))
  | refused (req : ExecutionRequestPayload) (err : Failure) :
      Stride I s (.submit req)
        ({ s with next := s.next + 1 }.refuse s.next (.queued s.now req) err)
  | accepted {req x} (hx : s.sessions req.sessionId = some x) (ha : x.status = .active) :
      Stride I s (.submit req)
        ({ s with next := s.next + 1 }.accept s.next (.queued s.now req) x)
  | timedOut {e u x k p late spawn limit} (hu : s.tasks e = some u)
      (hx : s.sessions u.sessionId = some x) (hs : s.submissions e = some (.awaiting limit))
      (ho : x.ops e = some ⟨k, p⟩) (hp : p.ended = true)
      (hl : limit = .fired ∨ limit = .late ∧ late = true) :
      Stride I s (.resume e late spawn) (s.handleReset I e u.timeOut spawn x)
  | received {e u x k m late spawn limit} (hu : s.tasks e = some u)
      (hx : s.sessions u.sessionId = some x) (hs : s.submissions e = some (.awaiting limit))
      (ho : x.ops e = some ⟨k, .returned m⟩) :
      Stride I s (.resume e late spawn) (s.finalize e (u.receive m))
  | failed {e u x k err late spawn limit} (hu : s.tasks e = some u)
      (hx : s.sessions u.sessionId = some x) (hs : s.submissions e = some (.awaiting limit))
      (ho : x.ops e = some ⟨k, .raised err⟩) :
      Stride I s (.resume e late spawn) (s.finalize e (u.fail err))
  | aborted {e u x k p late spawn limit} (hu : s.tasks e = some u)
      (hx : s.sessions u.sessionId = some x) (hs : s.submissions e = some (.awaiting limit))
      (ho : x.ops e = some ⟨k, p⟩) (hp : p.aborted = true ∨ p = .finished) :
      Stride I s (.resume e late spawn) (s.handleReset I e u.cancelByError spawn x)
  | finished {e u x r} (hu : s.tasks e = some u) (hx : s.sessions u.sessionId = some x)
      (hs : s.submissions e = some (.resetting r)) (hr : x.isEnded r = true) :
      Stride I s (.finish e) (s.finalize e u)
  | late {e u x} (hu : s.tasks e = some u) (hx : s.sessions u.sessionId = some x)
      (hs : s.submissions e = some (.awaiting .pending)) (he : x.isEnded e = true) :
      Stride I s (.timer e) (s.setSubmission e (.awaiting .late))
  | fired {e u x} (hu : s.tasks e = some u) (hx : s.sessions u.sessionId = some x)
      (hs : s.submissions e = some (.awaiting .pending)) (he : x.isEnded e = false) :
      Stride I s (.timer e)
        ((s.setSession u.sessionId (x.cancel e)).setSubmission e (.awaiting .fired))
  | cancelledAlone {e u spawn} (hu : s.tasks e = some u) (hc : cancellable u.status = true)
      (hx : s.sessions u.sessionId = none) :
      Stride I s (.cancel e spawn) ((s.setTask e u.cancelling).conclude e u.cancelling)
  | cancelledAtOnce {e u x spawn} (hu : s.tasks e = some u) (hc : cancellable u.status = true)
      (hx : s.sessions u.sessionId = some x)
      (hr : (reset I e spawn (s.cancelCell e x) s.next).isEnded s.next = true) :
      Stride I s (.cancel e spawn)
        ({ (s.setTask e u.cancelling).setSession u.sessionId
            (reset I e spawn (s.cancelCell e x) s.next) with
          next := s.next + 1 }.conclude e u.cancelling)
  | cancelling {e u x spawn} (hu : s.tasks e = some u) (hc : cancellable u.status = true)
      (hx : s.sessions u.sessionId = some x)
      (hr : (reset I e spawn (s.cancelCell e x) s.next).isEnded s.next = false) :
      Stride I s (.cancel e spawn)
        ({ (s.setTask e u.cancelling).setSession u.sessionId
            (reset I e spawn (s.cancelCell e x) s.next) with
          next := s.next + 1 }.setCancellation e (.resetting s.next))
  | concluded {e u x r} (hu : s.tasks e = some u) (hx : s.sessions u.sessionId = some x)
      (hs : s.cancellations e = some (.resetting r)) (hr : x.isEnded r = true) :
      Stride I s (.concluded e) (s.conclude e u)
  | entered {k x kind} (hx : s.sessions k = some x) (hk : ∀ e, kind ≠ .reset (some e)) :
      Stride I s (.enter k kind)
        { s.setSession k (x.schedule s.next kind) with next := s.next + 1 }
  | turned {k x b y} (hx : s.sessions k = some x) (hy : x.step I b = some y) :
      Stride I s (.inSession k b) (s.setSession k y)
  | ticked (d : ℕ) : Stride I s (.tick d) { s with now := s.now + d }

theorem step_stride (ht : s.step I a = some t) : Stride I s a t := by
  cases a with
  | createSession k id =>
    simp only [step, createSession] at ht
    split at ht
    · next hk =>
      cases ht
      exact .created hk
    · cases ht
  | submit req =>
    obtain rfl : s.submit req = t := Option.some_inj.mp ht
    rw [submit]
    dsimp only
    split
    · exact .refused req _
    · next x hx =>
      split
      · exact .refused req _
      · next ha => exact .accepted hx (by simpa using ha)
  | resume e late spawn =>
    simp only [step, resume, Option.bind_eq_bind, Option.bind_eq_some_iff] at ht
    obtain ⟨u, hu, x, hx, p, hp, ht⟩ := ht
    obtain ⟨⟨k, p'⟩, ho, rfl⟩ := Option.map_eq_some_iff.mp hp
    split at ht
    · next limit hs =>
      split at ht
      · cases ht
      next hend =>
      split at ht
      · next hl =>
        cases ht
        exact .timedOut hu hx hs ho (by simpa using hend) hl
      · split at ht
        · next m hm =>
          cases ht
          exact .received hu hx hs (by rw [ho, ← hm])
        · next err hm =>
          cases ht
          exact .failed hu hx hs (by rw [ho, ← hm])
        · next hm he =>
          cases ht
          refine .aborted hu hx hs ho ?_
          cases p' <;> simp_all [Phase.ended, Phase.aborted]
    · cases ht
  | finish e =>
    simp only [step, finish, Option.bind_eq_bind, Option.bind_eq_some_iff] at ht
    obtain ⟨u, hu, x, hx, ht⟩ := ht
    split at ht
    · next r hs =>
      split at ht
      · next hr =>
        cases ht
        exact .finished hu hx hs hr
      · cases ht
    · cases ht
  | timer e =>
    simp only [step, timer, Option.bind_eq_bind, Option.bind_eq_some_iff] at ht
    obtain ⟨u, hu, x, hx, ht⟩ := ht
    split at ht
    · next hs =>
      split at ht
      · next he =>
        cases ht
        exact .late hu hx hs he
      · next he =>
        cases ht
        exact .fired hu hx hs (by simpa using he)
    · cases ht
  | cancel e spawn =>
    simp only [step, cancel, Option.bind_eq_bind, Option.bind_eq_some_iff] at ht
    obtain ⟨u, hu, ht⟩ := ht
    split at ht
    · cases ht
    next hc =>
    have hc' : cancellable u.status = true := by simpa using hc
    split at ht
    · next hx =>
      cases ht
      exact .cancelledAlone hu hc' hx
    · next x hx =>
      split at ht
      · next hr =>
        cases ht
        exact .cancelledAtOnce hu hc' hx hr
      · next hr =>
        cases ht
        exact .cancelling hu hc' hx (Bool.eq_false_iff.mpr hr)
  | concluded e =>
    simp only [step, concluded, Option.bind_eq_bind, Option.bind_eq_some_iff] at ht
    obtain ⟨u, hu, x, hx, ht⟩ := ht
    split at ht
    · next r hs =>
      split at ht
      · next hr =>
        cases ht
        exact .concluded hu hx hs hr
      · cases ht
    · cases ht
  | enter k kind =>
    simp only [step, enter, Option.bind_eq_bind, Option.bind_eq_some_iff] at ht
    obtain ⟨x, hx, ht⟩ := ht
    split at ht
    · cases ht
    · next hk =>
      cases ht
      exact .entered hx hk
  | inSession k b =>
    simp only [step, inSession, Option.bind_eq_bind, Option.bind_eq_some_iff] at ht
    obtain ⟨x, hx, y, hy, ht⟩ := ht
    cases ht
    exact .turned hx hy
  | tick d =>
    obtain rfl : _ = t := Option.some_inj.mp ht
    exact .ticked d

structure Fresh (s : ExecutionManager ν) : Prop where
  tasks : ∀ e ≥ s.next, s.tasks e = none
  submissions : ∀ e ≥ s.next, s.submissions e = none
  cancellations : ∀ e ≥ s.next, s.cancellations e = none
  ops : ∀ k x, s.sessions k = some x → ∀ c ≥ s.next, x.ops c = none

lemma empty_fresh (now : Instant) : Fresh (empty now : ExecutionManager ν) :=
  ⟨fun _ _ => rfl, fun _ _ => rfl, fun _ _ => rfl, fun _ _ h => by cases h⟩

lemma setSession_all {P : SessionId → ExecutionSession ν → Prop}
    (h : ∀ k x, s.sessions k = some x → P k x) (hy : P j y) :
    ∀ k x, (s.setSession j y).sessions k = some x → P k x := by
  intro k x hx
  by_cases hk : k = j
  · subst hk
    obtain rfl : y = x := by simpa [setSession] using hx
    exact hy
  · exact h k x (by simpa [setSession, Function.update_of_ne hk] using hx)

lemma update_fresh {α : Type} {f : ℕ → Option α} {n e : ℕ} {v : Option α}
    (h : ∀ i ≥ n, f i = none) (he : e < n) : ∀ i ≥ n, Function.update f e v i = none := by
  intro i hi
  rw [Function.update_of_ne (by omega)]
  exact h i hi

lemma update_eq_some {α : Type} {f : ℕ → Option α} {e i : ℕ} {v w : α}
    (h : Function.update f e (some v) i = some w) : i = e ∧ w = v ∨ i ≠ e ∧ f i = some w := by
  by_cases hi : i = e
  · subst hi
    rw [Function.update_self] at h
    exact Or.inl ⟨rfl, (Option.some_inj.mp h).symm⟩
  · rw [Function.update_of_ne hi] at h
    exact Or.inr ⟨hi, h⟩

lemma lt_of_some {α : Type} {f : ℕ → Option α} {n e : ℕ} {v : α} (h : ∀ i ≥ n, f i = none)
    (he : f e = some v) : e < n := by
  by_contra hn
  rw [h e (by omega)] at he
  cases he

namespace Fresh

variable {u : ExecutionTask} {b : Submission} {z : Cancellation} {n : ℕ}

lemma setTask (h : Fresh s) (he : e < s.next) : Fresh (s.setTask e u) :=
  ⟨update_fresh h.tasks he, h.submissions, h.cancellations, h.ops⟩

lemma setSubmission (h : Fresh s) (he : e < s.next) : Fresh (s.setSubmission e b) :=
  ⟨h.tasks, update_fresh h.submissions he, h.cancellations, h.ops⟩

lemma setCancellation (h : Fresh s) (he : e < s.next) : Fresh (s.setCancellation e z) :=
  ⟨h.tasks, h.submissions, update_fresh h.cancellations he, h.ops⟩

lemma finalize (h : Fresh s) (he : e < s.next) : Fresh (s.finalize e u) :=
  ⟨update_fresh h.tasks he, update_fresh h.submissions he, h.cancellations, h.ops⟩

lemma conclude (h : Fresh s) (he : e < s.next) : Fresh (s.conclude e u) :=
  ⟨update_fresh h.tasks he, h.submissions, update_fresh h.cancellations he, h.ops⟩

lemma setSession (h : Fresh s) (hy : ∀ c ≥ s.next, y.ops c = none) : Fresh (s.setSession k y) :=
  ⟨h.tasks, h.submissions, h.cancellations, setSession_all h.ops hy⟩

lemma bump (h : Fresh s) : Fresh { s with next := s.next + 1 } :=
  ⟨fun i hi => h.tasks i (by dsimp at hi; omega), fun i hi => h.submissions i (by dsimp at hi; omega),
    fun i hi => h.cancellations i (by dsimp at hi; omega),
    fun k x hx i hi => h.ops k x hx i (by dsimp at hi; omega)⟩

lemma setSession_bump (h : Fresh s) (hy : ∀ c ≥ s.next + 1, y.ops c = none) :
    Fresh { s.setSession k y with next := s.next + 1 } :=
  h.bump.setSession (s := { s with next := s.next + 1 }) hy

end Fresh

lemma reset_ops_none {n : ℕ} (h : ∀ d ≥ n, x.ops d = none) :
    ∀ d ≥ n + 1, (reset I e spawn x n).ops d = none := fun d hd =>
  ExecutionSession.step_ops_none (ExecutionSession.reset_step e x n)
    (ExecutionSession.schedule_ops_none h d hd)

lemma cancelCell_ops_none {d : OpId} (h : x.ops d = none) : (s.cancelCell e x).ops d = none := by
  rw [cancelCell]
  split
  · exact ExecutionSession.cancel_ops_none h
  · exact h

lemma Fresh.handleReset {u : ExecutionTask} (h : Fresh s) (he : e < s.next)
    (hx : s.sessions u.sessionId = some x) : Fresh (s.handleReset I e u spawn x) := by
  have hb : Fresh { s.setSession u.sessionId (reset I e spawn x s.next) with next := s.next + 1 } :=
    h.setSession_bump (reset_ops_none (h.ops _ x hx))
  have he' : e < s.next + 1 := Nat.lt_succ_of_lt he
  rw [ExecutionManager.handleReset]
  dsimp only
  split
  · exact hb.finalize he'
  · exact (hb.setTask he').setSubmission he'

theorem fresh_step (h : Fresh s) (ht : Stride I s a t) : Fresh t := by
  cases ht with
  | created hk => exact h.setSession fun _ _ => rfl
  | refused req err =>
    exact (h.bump.setTask (Nat.lt_succ_self _)).setSubmission (Nat.lt_succ_self _)
  | @accepted req x hx ha =>
    have hs : Fresh { s.setSession req.sessionId (x.schedule s.next
        (.executeCell req.code (req.timeout.getD "30.0"))) with next := s.next + 1 } :=
      h.setSession_bump (ExecutionSession.schedule_ops_none (h.ops _ x hx))
    exact ⟨update_fresh hs.tasks (Nat.lt_succ_self _), update_fresh hs.submissions (Nat.lt_succ_self _),
      hs.cancellations, hs.ops⟩
  | timedOut hu hx hs ho hp hl => exact h.handleReset (lt_of_some h.tasks hu) hx
  | received hu hx hs ho => exact h.finalize (lt_of_some h.tasks hu)
  | failed hu hx hs ho => exact h.finalize (lt_of_some h.tasks hu)
  | aborted hu hx hs ho hp => exact h.handleReset (lt_of_some h.tasks hu) hx
  | finished hu hx hs hr => exact h.finalize (lt_of_some h.tasks hu)
  | late hu hx hs he => exact h.setSubmission (lt_of_some h.tasks hu)
  | fired hu hx hs he =>
    have hn := h.ops _ _ hx
    exact (h.setSession fun c hc => ExecutionSession.cancel_ops_none (hn c hc)).setSubmission
      (lt_of_some h.tasks hu)
  | cancelledAlone hu hc hx =>
    have he := lt_of_some h.tasks hu
    exact (h.setTask he).conclude he
  | cancelledAtOnce hu hc hx hr =>
    have he := lt_of_some h.tasks hu
    have hn := h.ops _ _ hx
    exact ((h.setTask he).setSession_bump (reset_ops_none fun c hc =>
      cancelCell_ops_none (hn c hc))).conclude (Nat.lt_succ_of_lt he)
  | cancelling hu hc hx hr =>
    have he := lt_of_some h.tasks hu
    have hn := h.ops _ _ hx
    exact ((h.setTask he).setSession_bump (reset_ops_none fun c hc =>
      cancelCell_ops_none (hn c hc))).setCancellation (Nat.lt_succ_of_lt he)
  | concluded hu hx hs hr => exact h.conclude (lt_of_some h.tasks hu)
  | entered hx hk =>
    exact h.setSession_bump (ExecutionSession.schedule_ops_none (h.ops _ _ hx))
  | turned hx hy =>
    have hn := h.ops _ _ hx
    exact h.setSession fun c hc => ExecutionSession.step_ops_none hy (hn c hc)
  | ticked d => exact ⟨h.tasks, h.submissions, h.cancellations, h.ops⟩

def belongs (k : SessionId) (e : ExecutionId) (s : ExecutionManager ν) : Bool :=
  (s.tasks e).any fun u => u.sessionId = k

inductive Change (I : Interpreter ν) (s : ExecutionManager ν) (a : Action) (k : SessionId) :
    ExecutionSession ν → Prop
  | same {x : ExecutionSession ν} (hx : s.sessions k = some x) : Change I s a k x
  | created (id : String) (hk : s.sessions k = none) : Change I s a k (.created I k id)
  | scheduled {x : ExecutionSession ν} {m} (hx : s.sessions k = some x)
      (hm : ∀ e, m ≠ .reset (some e)) : Change I s a k (x.schedule s.next m)
  | stepped {x y : ExecutionSession ν} {b} (hx : s.sessions k = some x) (ha : a = .inSession k b)
      (hy : x.step I b = some y) : Change I s a k y
  | settled {x : ExecutionSession ν} {e : ExecutionId} {spawn : Spawn} {m p limit}
      (hx : s.sessions k = some x) (hb : s.belongs k e = true)
      (hs : s.submissions e = some (.awaiting limit)) (ho : x.ops e = some ⟨m, p⟩)
      (hp : p.aborted = true ∨ p = .finished ∨ limit ≠ .pending) :
      Change I s a k (reset I e spawn x s.next)
  | stopped {x : ExecutionSession ν} {e : ExecutionId} (hx : s.sessions k = some x)
      (ha : a = .timer e) (hb : s.belongs k e = true) : Change I s a k (x.cancel e)
  | cancelled {x : ExecutionSession ν} {e : ExecutionId} {spawn : Spawn}
      (hx : s.sessions k = some x) (ha : a = .cancel e spawn) (hb : s.belongs k e = true) :
      Change I s a k (reset I e spawn (s.cancelCell e x) s.next)

lemma belongs_self {u : ExecutionTask} (hu : s.tasks e = some u) (hk : u.sessionId = k) :
    s.belongs k e = true := by
  simp [belongs, hu, hk]

lemma change_set (h : ∀ x, s.sessions k = some x → Change I s a k x) (hy : k = j → Change I s a j y) :
    ∀ z, (s.setSession j y).sessions k = some z → Change I s a k z := by
  intro z hz
  by_cases hk : k = j
  · subst hk
    obtain rfl : y = z := by simpa [setSession] using hz
    exact hy rfl
  · exact h z (by simpa [setSession, Function.update_of_ne hk] using hz)

theorem stride_change (ht : Stride I s a t) : ∀ x, t.sessions k = some x → Change I s a k x := by
  have hsame : ∀ x, s.sessions k = some x → Change I s a k x := fun x hx => .same hx
  cases ht with
  | created hk =>
    apply change_set hsame
    rintro rfl
    exact .created _ hk
  | accepted hx ha => exact change_set hsame fun _ => .scheduled hx (by simp)
  | timedOut hu hx hs ho hp hl =>
    rw [handleReset_sessions]
    refine change_set hsame fun _ => .settled hx (belongs_self hu rfl) hs ho (Or.inr (Or.inr ?_))
    rcases hl with rfl | ⟨rfl, -⟩ <;> simp
  | aborted hu hx hs ho hp =>
    rw [handleReset_sessions]
    refine change_set hsame fun _ => .settled hx (belongs_self hu rfl) hs ho ?_
    rcases hp with hp | hp
    · exact Or.inl hp
    · exact Or.inr (Or.inl hp)
  | fired hu hx hs he => exact change_set hsame fun _ => .stopped hx rfl (belongs_self hu rfl)
  | cancelledAtOnce hu hc hx hr => exact change_set hsame fun _ => .cancelled hx rfl (belongs_self hu rfl)
  | cancelling hu hc hx hr => exact change_set hsame fun _ => .cancelled hx rfl (belongs_self hu rfl)
  | entered hx hk => exact change_set hsame fun _ => .scheduled hx hk
  | turned hx hy =>
    apply change_set hsame
    rintro rfl
    exact .stepped hx rfl hy
  | _ => exact hsame

def AllSessions (P : ExecutionSession ν → Prop) (s : ExecutionManager ν) : Prop :=
  ∀ k x, s.sessions k = some x → P x

lemma cancelCell_closed {P : ExecutionSession ν → Prop} (hc : ExecutionSession.Closed I P)
    (hp : P x) : P (s.cancelCell e x) := by
  rw [cancelCell]
  split
  · exact hc.cancel x e hp
  · exact hp

theorem allSessions_step {P : ExecutionSession ν → Prop} (hc : ExecutionSession.Closed I P)
    (hf : Fresh s) (h : AllSessions P s) (ht : Stride I s a t) : AllSessions P t := by
  intro k y hy
  cases stride_change ht y hy with
  | same hx => exact h k y hx
  | created id hk => exact hc.created k id
  | scheduled hx hk => exact hc.schedule _ _ _ (hf.ops k _ hx _ le_rfl) (h k _ hx)
  | stepped hx ha hy => exact hc.step _ _ _ (h k _ hx) hy
  | settled hx hb hs ho hp => exact hc.reset (hf.ops k _ hx _ le_rfl) (h k _ hx)
  | stopped hx ha hb => exact hc.cancel _ _ (h k _ hx)
  | cancelled hx ha hb =>
    exact hc.reset (cancelCell_ops_none (hf.ops k _ hx _ le_rfl)) (cancelCell_closed hc (h k _ hx))

def SessionsKeep (s t : ExecutionManager ν) : Prop :=
  ∀ k x, s.sessions k = some x → ∃ y, t.sessions k = some y ∧ x.Keeps y

def SameRequest (u v : ExecutionTask) : Prop :=
  v.sessionId = u.sessionId ∧ v.code = u.code ∧ v.timeoutSeconds = u.timeoutSeconds

def TasksKeep (s t : ExecutionManager ν) : Prop :=
  ∀ e u, s.tasks e = some u → ∃ v, t.tasks e = some v ∧ SameRequest u v

lemma SessionsKeep.refl (s : ExecutionManager ν) : SessionsKeep s s :=
  fun _ x hx => ⟨x, hx, .refl x⟩

lemma sessionsKeep_set (hx : s.sessions k = some x) (h : x.Keeps y) :
    SessionsKeep s (s.setSession k y) := by
  intro j z hz
  by_cases hj : j = k
  · subst hj
    obtain rfl : x = z := Option.some_inj.mp (hx.symm.trans hz)
    exact ⟨y, by simp [setSession], h⟩
  · exact ⟨z, by simpa [setSession, Function.update_of_ne hj] using hz, .refl z⟩

lemma keeps_cancelCell : x.Keeps (s.cancelCell e x) := by
  rw [cancelCell]
  split
  · exact ExecutionSession.keeps_cancel
  · exact .refl x

theorem sessionsKeep (hf : Fresh s) (ht : Stride I s a t) : SessionsKeep s t := by
  cases ht with
  | created hk =>
    intro j z hz
    have hj : j ≠ _ := fun h => by rw [h, hk] at hz; cases hz
    exact ⟨z, by simpa [setSession, Function.update_of_ne hj] using hz, .refl z⟩
  | accepted hx ha =>
    exact sessionsKeep_set hx (ExecutionSession.keeps_schedule (hf.ops _ _ hx _ le_rfl))
  | timedOut hu hx hs ho hp hl =>
    rw [SessionsKeep]
    rw [handleReset_sessions]
    exact sessionsKeep_set hx (ExecutionSession.keeps_reset (hf.ops _ _ hx _ le_rfl))
  | aborted hu hx hs ho hp =>
    rw [SessionsKeep]
    rw [handleReset_sessions]
    exact sessionsKeep_set hx (ExecutionSession.keeps_reset (hf.ops _ _ hx _ le_rfl))
  | fired hu hx hs he => exact sessionsKeep_set hx ExecutionSession.keeps_cancel
  | cancelledAtOnce hu hcl hx hr =>
    have hn := hf.ops _ _ hx _ le_rfl
    exact sessionsKeep_set hx
      (keeps_cancelCell.trans (ExecutionSession.keeps_reset (cancelCell_ops_none hn)))
  | cancelling hu hcl hx hr =>
    have hn := hf.ops _ _ hx _ le_rfl
    exact sessionsKeep_set hx
      (keeps_cancelCell.trans (ExecutionSession.keeps_reset (cancelCell_ops_none hn)))
  | entered hx hk =>
    exact sessionsKeep_set hx (ExecutionSession.keeps_schedule (hf.ops _ _ hx _ le_rfl))
  | turned hx hy => exact sessionsKeep_set hx (ExecutionSession.keeps_step hy)
  | _ => exact SessionsKeep.refl s

lemma sameRequest_refl (u : ExecutionTask) : SameRequest u u := ⟨rfl, rfl, rfl⟩

lemma sameRequest_receive (m : Message) (u : ExecutionTask) : SameRequest u (u.receive m) := by
  rw [ExecutionTask.receive]
  split <;> exact ⟨rfl, rfl, rfl⟩

lemma TasksKeep.refl (s : ExecutionManager ν) : TasksKeep s s :=
  fun _ u hu => ⟨u, hu, sameRequest_refl u⟩

lemma tasksKeep_update {u v : ExecutionTask} (ht : t.tasks = Function.update s.tasks e (some v))
    (hu : s.tasks e = some u) (h : SameRequest u v) : TasksKeep s t := by
  intro i w hw
  rw [ht]
  by_cases hi : i = e
  · subst hi
    obtain rfl : u = w := Option.some_inj.mp (hu.symm.trans hw)
    exact ⟨v, Function.update_self .., h⟩
  · exact ⟨w, by rw [Function.update_of_ne hi, hw], sameRequest_refl w⟩

lemma tasksKeep_fresh {v : ExecutionTask} (hf : Fresh s)
    (ht : t.tasks = Function.update s.tasks s.next (some v)) : TasksKeep s t := by
  intro i w hw
  have hi : i ≠ s.next := by
    rintro rfl
    rw [hf.tasks _ le_rfl] at hw
    cases hw
  exact ⟨w, by rw [ht, Function.update_of_ne hi, hw], sameRequest_refl w⟩

lemma tasksKeep_handleReset {u v : ExecutionTask} (hu : s.tasks e = some u) (h : SameRequest u v) :
    TasksKeep s (s.handleReset I e v spawn x) := by
  obtain ⟨w, hw, hv⟩ := handleReset_tasks I e v spawn x s
  apply tasksKeep_update hw hu
  rcases hv with rfl | rfl
  · exact h
  · exact h

theorem tasksKeep (hf : Fresh s) (ht : Stride I s a t) : TasksKeep s t := by
  cases ht with
  | refused req err => exact tasksKeep_fresh hf rfl
  | accepted hx ha => exact tasksKeep_fresh hf rfl
  | timedOut hu hx hs ho hp hl => exact tasksKeep_handleReset hu ⟨rfl, rfl, rfl⟩
  | received hu hx hs ho => exact tasksKeep_update rfl hu (sameRequest_receive _ _)
  | failed hu hx hs ho => exact tasksKeep_update rfl hu ⟨rfl, rfl, rfl⟩
  | aborted hu hx hs ho hp => exact tasksKeep_handleReset hu ⟨rfl, rfl, rfl⟩
  | finished hu hx hs hr => exact tasksKeep_update rfl hu ⟨rfl, rfl, rfl⟩
  | cancelledAlone hu hc hx =>
    exact tasksKeep_update (Function.update_idem ..) hu ⟨rfl, rfl, rfl⟩
  | cancelledAtOnce hu hc hx hr =>
    exact tasksKeep_update (Function.update_idem ..) hu ⟨rfl, rfl, rfl⟩
  | cancelling hu hc hx hr => exact tasksKeep_update rfl hu ⟨rfl, rfl, rfl⟩
  | concluded hu hx hs hr => exact tasksKeep_update rfl hu ⟨rfl, rfl, rfl⟩
  | _ => exact TasksKeep.refl s

structure CellOf (s : ExecutionManager ν) (e : ExecutionId) (u : ExecutionTask)
    (x : ExecutionSession ν) (p : Phase) : Prop where
  task : s.tasks e = some u
  session : s.sessions u.sessionId = some x
  op : x.ops e = some ⟨.executeCell u.code u.timeoutSeconds, p⟩

def Linked (s : ExecutionManager ν) : Prop :=
  ∀ e limit, s.submissions e = some (.awaiting limit) → ∃ u x p, CellOf s e u x p

lemma CellOf.keep {u : ExecutionTask} {p : Phase} (h : CellOf s e u x p) (hs : SessionsKeep s t)
    (ht : TasksKeep s t) :
    ∃ v y q, CellOf t e v y q ∧ (p.ended = true → q = p ∨ p.stray = true ∧ q = .cancelled) := by
  obtain ⟨v, hv, hsid, hcode, htime⟩ := ht e u h.task
  obtain ⟨y, hy, hk⟩ := hs u.sessionId x h.session
  obtain ⟨q, hq, hp⟩ := hk e _ p h.op
  exact ⟨v, y, q, ⟨hv, by rw [hsid]; exact hy, by rw [hcode, htime]; exact hq⟩, hp⟩

lemma awaiting_update {f : ℕ → Option Submission} {i : ExecutionId} {b : Submission} {limit : Limit}
    (hb : ∀ limit, b ≠ .awaiting limit)
    (h : Function.update f i (some b) e = some (.awaiting limit)) : f e = some (.awaiting limit) := by
  by_cases he : e = i
  · subst he
    rw [Function.update_self] at h
    exact absurd (Option.some_inj.mp h) (hb limit)
  · rwa [Function.update_of_ne he] at h

lemma awaiting_handleReset {u : ExecutionTask} {i : ExecutionId} {limit : Limit}
    (h : (s.handleReset I i u spawn x).submissions e = some (.awaiting limit)) :
    s.submissions e = some (.awaiting limit) := by
  obtain ⟨b, hb, hc⟩ := handleReset_submissions I i u spawn x s
  rw [hb] at h
  refine awaiting_update (fun l => ?_) h
  rcases hc with ⟨rfl, -⟩ | ⟨rfl, -⟩ <;> simp

lemma awaiting_stride {limit : Limit} (ht : Stride I s a t)
    (h : t.submissions e = some (.awaiting limit)) :
    (∃ limit', s.submissions e = some (.awaiting limit') ∧ (limit' = limit ∨ a = .timer e)) ∨
      e = s.next ∧ limit = .pending ∧ ∃ u x, CellOf t e u x .scheduled := by
  cases ht with
  | refused req err => exact Or.inl ⟨limit, awaiting_update (by simp) h, Or.inl rfl⟩
  | @accepted req x hx ha =>
    by_cases he : e = s.next
    · subst he
      have hl : limit = .pending := by
        simpa [accept, setSubmission, eq_comm] using h
      refine Or.inr ⟨rfl, hl, (ExecutionTask.queued s.now req).begin s.now,
        x.schedule s.next (.executeCell req.code (req.timeout.getD "30.0")), ?_, ?_, ?_⟩
      · exact Function.update_self ..
      · exact Function.update_self ..
      · exact ExecutionSession.schedule_self
    · refine Or.inl ⟨limit, ?_, Or.inl rfl⟩
      simpa [accept, setSubmission, Function.update_of_ne he] using h
  | timedOut => exact Or.inl ⟨limit, awaiting_handleReset h, Or.inl rfl⟩
  | received => exact Or.inl ⟨limit, awaiting_update (by simp) h, Or.inl rfl⟩
  | failed => exact Or.inl ⟨limit, awaiting_update (by simp) h, Or.inl rfl⟩
  | aborted => exact Or.inl ⟨limit, awaiting_handleReset h, Or.inl rfl⟩
  | finished => exact Or.inl ⟨limit, awaiting_update (by simp) h, Or.inl rfl⟩
  | @late i u x hu hx hs he =>
    by_cases hi : e = i
    · exact Or.inl ⟨.pending, hi ▸ hs, Or.inr (hi ▸ rfl)⟩
    · refine Or.inl ⟨limit, ?_, Or.inl rfl⟩
      simpa [setSubmission, Function.update_of_ne hi] using h
  | @fired i u x hu hx hs he =>
    by_cases hi : e = i
    · exact Or.inl ⟨.pending, hi ▸ hs, Or.inr (hi ▸ rfl)⟩
    · refine Or.inl ⟨limit, ?_, Or.inl rfl⟩
      simpa [setSubmission, Function.update_of_ne hi] using h
  | _ => exact Or.inl ⟨limit, h, Or.inl rfl⟩

lemma awaiting_old {u : ExecutionTask} {limit : Limit} (hf : Fresh s) (ht : Stride I s a t)
    (hu : s.tasks e = some u) (h : t.submissions e = some (.awaiting limit)) :
    ∃ limit', s.submissions e = some (.awaiting limit') := by
  rcases awaiting_stride ht h with ⟨limit', hs, -⟩ | ⟨rfl, -⟩
  · exact ⟨limit', hs⟩
  · rw [hf.tasks _ le_rfl] at hu
    cases hu

theorem linked_step (hf : Fresh s) (hl : Linked s) (ht : Stride I s a t) : Linked t := by
  intro e limit h
  rcases awaiting_stride ht h with ⟨limit', hs, -⟩ | ⟨-, -, u, x, hc⟩
  · obtain ⟨u, x, p, hc⟩ := hl e limit' hs
    obtain ⟨v, y, q, hq, -⟩ := hc.keep (sessionsKeep hf ht) (tasksKeep hf ht)
    exact ⟨v, y, q, hq⟩
  · exact ⟨u, x, _, hc⟩

end ExecutionManager

end NotebookExecution.Execution
