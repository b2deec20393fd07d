import NotebookExecution.Execution.Finality

/-! What the task of a submission looks like once the submission has ended, in whatever way. -/

namespace NotebookExecution.Execution

open Library.Runs

variable {ν : Type} {I : Interpreter ν}

namespace ExecutionManager

variable {s t : ExecutionManager ν} {a : Action} {e : ExecutionId} {u v : ExecutionTask}

def Ended (s : ExecutionManager ν) (e : ExecutionId) : Prop :=
  s.submissions e = some .returned ∨ ∃ err, s.submissions e = some (.refused err)

def ResultOk (s : ExecutionManager ν) (e : ExecutionId) (u : ExecutionTask) : Prop :=
  ∃ x m, CellOf s e u x (.returned m) ∧ m.status = "ok"

structure Finalised (s : ExecutionManager ν) (e : ExecutionId) (u : ExecutionTask) : Prop where
  task : s.tasks e = some u
  terminal : u.status.terminal = true
  completed : u.completedAt.isSome = true
  idle : s.runningTasks e = false
  ok : u.status = .succeeded → s.ResultOk e u

def Excused (u : ExecutionTask) : Prop := u.status = .timedOut ∨ u.status = .cancelled

structure Orderly (s : ExecutionManager ν) (e : ExecutionId) : Prop where
  known : s.runningTasks e = true → ∃ u, s.tasks e = some u
  excused : ∀ r, s.submissions e = some (.resetting r) → ∃ u, s.tasks e = some u ∧ Excused u
  finalised : s.Ended e → ∃ u, s.Finalised e u

lemma Excused.terminal (h : Excused u) : u.status.terminal = true := by
  rcases h with h | h <;> rw [h] <;> rfl

lemma Excused.not_succeeded (h : Excused u) : u.status ≠ .succeeded := by
  rcases h with h | h <;> rw [h] <;> exact fun hs => by cases hs

lemma not_ended_awaiting {limit : Limit} (h : s.submissions e = some (.awaiting limit)) : ¬ s.Ended e := by
  rintro (hr | ⟨err, hr⟩) <;> rw [h] at hr <;> cases hr

lemma not_ended_resetting {r : OpId} (h : s.submissions e = some (.resetting r)) : ¬ s.Ended e := by
  rintro (hr | ⟨err, hr⟩) <;> rw [h] at hr <;> cases hr

lemma ResultOk.keep (h : s.ResultOk e u) (hu : t.tasks e = some u) (hf : Fresh s) (ht : Stride I s a t) :
    t.ResultOk e u := by
  obtain ⟨x, m, hc, hm⟩ := h
  obtain ⟨w, y, q, hw, hend⟩ := hc.keep (sessionsKeep hf ht) (tasksKeep hf ht)
  obtain rfl : w = u := Option.some_inj.mp (hw.task.symm.trans hu)
  rcases hend rfl with rfl | ⟨hst, -⟩
  · exact ⟨y, m, hw, hm⟩
  · cases hst

lemma Orderly.carry (h : Orderly s e) (hf : Fresh s) (ht : Stride I s a t) (hs : Untouched s t e) :
    Orderly t e where
  known hr := by
    rw [hs.running] at hr
    rw [hs.task]
    exact h.known hr
  excused r hr := by
    rw [hs.submission] at hr
    rw [hs.task]
    exact h.excused r hr
  finalised he := by
    rw [Ended, hs.submission] at he
    obtain ⟨u, hu⟩ := h.finalised he
    have htask : t.tasks e = some u := hs.task.trans hu.task
    exact ⟨u, htask, hu.terminal, hu.completed, hs.running.trans hu.idle, fun ho => (hu.ok ho).keep htask hf ht⟩

section Settling

variable {x : ExecutionSession ν} {spawn : Spawn} {limit : Limit}

lemma orderly_awaiting (hu : t.tasks e = some u) (hs : t.submissions e = some (.awaiting limit)) :
    Orderly t e where
  known _ := ⟨u, hu⟩
  excused r hr := by
    rw [hs] at hr
    cases hr
  finalised he := absurd he (not_ended_awaiting hs)

lemma orderly_refuse {err : Failure} (hr : s.runningTasks e = false) : Orderly (s.refuse e u err) e where
  known _ := ⟨_, Function.update_self ..⟩
  excused r hs := by
    have hs' : (s.refuse e u err).submissions e = some (.refused err) := Function.update_self ..
    rw [hs'] at hs
    cases hs
  finalised _ := ⟨u.refuse err s.now, Function.update_self .., rfl, rfl, hr, fun h => by cases h⟩

lemma orderly_finalize (hv : v.status.terminal = true) (hok : v.status = .succeeded →
    ∃ x m, s.sessions v.sessionId = some x ∧
      x.ops e = some ⟨.executeCell v.code v.timeoutSeconds, .returned m⟩ ∧ m.status = "ok") :
    Orderly (s.finalize e v) e where
  known _ := ⟨_, Function.update_self ..⟩
  excused r hr := by
    have hs : (s.finalize e v).submissions e = some .returned := Function.update_self ..
    rw [hs] at hr
    cases hr
  finalised _ := by
    refine ⟨v.complete s.now, Function.update_self .., hv, rfl, Function.update_self .., fun h => ?_⟩
    obtain ⟨x, m, hx, ho, hm⟩ := hok h
    exact ⟨x, m, ⟨Function.update_self .., hx, ho⟩, hm⟩

lemma orderly_handleReset (hv : Excused v) : Orderly (s.handleReset I e v spawn x) e := by
  rw [handleReset]
  dsimp only
  split
  · exact orderly_finalize hv.terminal fun h => absurd h hv.not_succeeded
  · next hr =>
    refine ⟨fun _ => ⟨v, Function.update_self ..⟩, fun r _ => ⟨v, Function.update_self .., hv⟩, ?_⟩
    exact fun he => absurd he (not_ended_resetting (Function.update_self ..))

lemma orderly_cancel (h : Orderly s e) (hu : s.tasks e = some u) (hc : cancellable u.status = true)
    (hv : t.tasks e = some v) (hs : t.submissions = s.submissions) : Orderly t e where
  known _ := ⟨v, hv⟩
  excused r hr := by
    rw [hs] at hr
    obtain ⟨w, hw, hex⟩ := h.excused r hr
    cases hu.symm.trans hw
    rw [cancellable_of_terminal hex.terminal] at hc
    cases hc
  finalised he := by
    rw [Ended, hs] at he
    obtain ⟨w, hw⟩ := h.finalised he
    cases hu.symm.trans hw.task
    rw [cancellable_of_terminal hw.terminal] at hc
    cases hc

lemma orderly_conclude (h : Orderly s e) : Orderly (s.conclude e u) e where
  known _ := ⟨_, Function.update_self ..⟩
  excused r hr := ⟨u.cancelled s.now, Function.update_self .., Or.inr rfl⟩
  finalised he := by
    obtain ⟨w, hw⟩ := h.finalised he
    exact ⟨u.cancelled s.now, Function.update_self .., rfl, rfl, hw.idle, fun h => by cases h⟩

lemma receive_succeeded {m : Message} (h : (u.receive m).status = .succeeded) : m.status = "ok" := by
  rw [ExecutionTask.receive] at h
  split at h
  · next hm => exact hm
  · cases h

lemma orderly_received {k : Kind} {m : Message} (hl : Linked s) (hu : s.tasks e = some u)
    (hx : s.sessions u.sessionId = some x) (hs : s.submissions e = some (.awaiting limit))
    (ho : x.ops e = some ⟨k, .returned m⟩) : Orderly (s.finalize e (u.receive m)) e := by
  obtain ⟨u', x', p, hc⟩ := hl e limit hs
  cases hu.symm.trans hc.task
  cases hx.symm.trans hc.session
  have hk := ho.symm.trans hc.op
  obtain ⟨h1, h2, h3⟩ := sameRequest_receive m u
  refine orderly_finalize (receive_terminal m u) fun h => ⟨x, m, ?_, ?_, receive_succeeded h⟩
  · rw [h1]
    exact hx
  · rw [h2, h3, ho]
    cases hk
    rfl

end Settling

structure Finalising (s : ExecutionManager ν) : Prop where
  fresh : Fresh s
  linked : Linked s
  orderly : ∀ e, Orderly s e

lemma empty_finalising (now : Instant) : Finalising (empty now : ExecutionManager ν) := by
  refine ⟨empty_fresh now, fun _ _ h => (by cases h), fun e => ⟨fun h => (by cases h), fun r h => (by cases h), ?_⟩⟩
  rintro (h | ⟨err, h⟩) <;> cases h

lemma orderly_step (h : Finalising s) (ht : Stride I s a t) (e : ExecutionId) : Orderly t e := by
  by_cases he : a.subject s.next = some e
  · cases ht with
    | created | entered | turned | ticked => cases he
    | refused req err =>
      cases he
      apply orderly_refuse
      apply Bool.eq_false_iff.mpr
      intro hr
      obtain ⟨u, hu⟩ := (h.orderly s.next).known hr
      rw [h.fresh.tasks _ le_rfl] at hu
      cases hu
    | accepted hx ha =>
      cases he
      exact orderly_awaiting (Function.update_self ..) (Function.update_self ..)
    | timedOut hu hx hs ho hp hl =>
      cases he
      exact orderly_handleReset (Or.inl rfl)
    | received hu hx hs ho =>
      cases he
      exact orderly_received h.linked hu hx hs ho
    | failed hu hx hs ho =>
      cases he
      exact orderly_finalize rfl fun hf => by cases hf
    | aborted hu hx hs ho hp =>
      cases he
      exact orderly_handleReset (Or.inr rfl)
    | finished hu hx hs hr =>
      cases he
      obtain ⟨w, hw, hex⟩ := (h.orderly _).excused _ hs
      cases hu.symm.trans hw
      exact orderly_finalize hex.terminal fun hf => absurd hf hex.not_succeeded
    | late hu hx hs hend =>
      cases he
      exact orderly_awaiting hu (Function.update_self ..)
    | fired hu hx hs hend =>
      cases he
      exact orderly_awaiting hu (Function.update_self ..)
    | cancelledAlone hu hc hx =>
      cases he
      exact orderly_cancel (h.orderly _) hu hc (Function.update_self ..) rfl
    | cancelledAtOnce hu hc hx hr =>
      cases he
      exact orderly_cancel (h.orderly _) hu hc (Function.update_self ..) rfl
    | cancelling hu hc hx hr =>
      cases he
      exact orderly_cancel (h.orderly _) hu hc (Function.update_self ..) rfl
    | concluded hu hx hs hr =>
      cases he
      exact orderly_conclude (h.orderly _)
  · exact (h.orderly e).carry h.fresh ht (untouched ht he)

lemma finalising_step (h : Finalising s) (ht : Stride I s a t) : Finalising t :=
  ⟨fresh_step h.fresh ht, linked_step h.fresh h.linked ht, orderly_step h ht⟩

theorem submission_finalised (I : Interpreter ν) (now : Instant) (as : List Action) (e : ExecutionId)
    (hs : exec (step I) (empty now) as = some s) (he : s.Ended e) : ∃ u, s.Finalised e u := by
  have keep : ∀ (bs : List Action) (s : ExecutionManager ν) (a : Action) (t : ExecutionManager ν),
      Finalising s → step I s a = some t → Finalising t := fun _ _ _ _ h ht => finalising_step h (step_stride ht)
  have h : Finalising s := exec_history (R := fun _ s => Finalising s) keep (empty_finalising now) hs
  exact (h.orderly e).finalised he

theorem withdrawn_finalised : ∃ s, exec (step echo) (empty 0) (withdrawn.1 ++ withdrawn.2) = some s ∧
    s.Ended 0 ∧ ∃ u, s.Finalised 0 u :=
  ⟨_, rfl, Or.inl rfl, submission_finalised echo 0 (withdrawn.1 ++ withdrawn.2) 0 rfl (Or.inl rfl)⟩

end ExecutionManager

end NotebookExecution.Execution
