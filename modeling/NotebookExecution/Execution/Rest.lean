import NotebookExecution.Execution.Chronicle
import NotebookExecution.Execution.Queues

/-! Whether what is under way can come to its end. Resets wait for the lock of their session without a
limit, behind the cells and resets that asked for it before. -/

namespace NotebookExecution.Execution

open Library.Runs Library.Progress

variable {ν : Type} {I : Interpreter ν}

/-- The cell is run by `execute_in_session`, past `submit_execution` and its limit. -/
def Action.direct : Action → Bool
  | .enter _ (.executeCell _ _) => true
  | _ => false

def Action.carriesOn : Action → Bool
  | .resume _ _ _ | .finish _ | .timer _ | .concluded _ | .inSession _ _ => true
  | _ => false

lemma Action.not_direct_of_carriesOn {a : Action} (h : a.carriesOn = true) : a.direct = false := by
  cases a <;> first | rfl | cases h

namespace ExecutionManager

open ExecutionSession

variable {s t : ExecutionManager ν} {a : Action} {e : ExecutionId} {r c : OpId} {k : SessionId}
  {x y : ExecutionSession ν} {u : ExecutionTask}

def Owned (s : ExecutionManager ν) : Prop :=
  ∀ k x c code timeout p, s.sessions k = some x → x.ops c = some ⟨.executeCell code timeout, p⟩ →
    p.ended = false → s.submissions c = some (.awaiting .pending) ∧ s.belongs k c = true

def Resetting (s : ExecutionManager ν) (e : ExecutionId) (r : OpId) : Prop :=
  s.submissions e = some (.resetting r) ∨ s.cancellations e = some (.resetting r)

def Tracked (s : ExecutionManager ν) (e : ExecutionId) (r : OpId) : Prop :=
  ∃ u x cause p, s.tasks e = some u ∧ s.sessions u.sessionId = some x ∧ x.ops r = some ⟨.reset cause, p⟩

structure Sound (s : ExecutionManager ν) : Prop extends Finalising s where
  submitted : ∀ e u, s.tasks e = some u → ∃ b, s.submissions e = some b
  queues : AllSessions (fun x => x.Queue) s
  owned : Owned s
  tracked : ∀ e r, Resetting s e r → Tracked s e r

lemma empty_sound (now : Instant) : Sound (empty now : ExecutionManager ν) where
  toFinalising := empty_finalising now
  submitted _ _ h := by cases h
  queues _ _ h := by cases h
  owned _ _ _ _ _ _ h := by cases h
  tracked _ _ h := by rcases h with h | h <;> cases h

/-! ## Owners of cells -/

lemma kept_back {m : Kind} {q : Phase} (h : x.Keeps y) (hn : x.ops c = none → y.ops c = none)
    (hy : y.ops c = some ⟨m, q⟩) (hq : q.ended = false) : ∃ p, x.ops c = some ⟨m, p⟩ ∧ p.ended = false := by
  cases hx : x.ops c with
  | none =>
    rw [hn hx] at hy
    cases hy
  | some o =>
    obtain ⟨m', p⟩ := o
    obtain ⟨q', hq', hend⟩ := h c m' p hx
    cases hy.symm.trans hq'
    refine ⟨p, rfl, ?_⟩
    by_contra hp
    rw [Bool.not_eq_false] at hp
    rcases hend hp with rfl | ⟨-, rfl⟩
    · rw [hp] at hq
      cases hq
    · cases hq

lemma reset_none {n : OpId} {spawn : Spawn} (hc : c ≠ n) (h : x.ops c = none) :
    (reset I e spawn x n).ops c = none :=
  step_ops_none (reset_step e x n) ((schedule_other hc).trans h)

lemma reset_op (I : Interpreter ν) (e : ExecutionId) (spawn : Spawn) (x : ExecutionSession ν) (n : OpId) :
    ∃ p, (reset I e spawn x n).ops n = some ⟨.reset (some e), p⟩ := by
  have hstep : (x.schedule n (.reset (some e))).step I (.begin n spawn) = some (reset I e spawn x n) :=
    reset_step e x n
  obtain ⟨p, hp, -⟩ := keeps_step hstep n _ _ schedule_self
  exact ⟨p, hp⟩

lemma old_cell {m : Kind} {q : Phase} (hf : Fresh s) (ht : Stride I s a t) (hc : c ≠ s.next)
    (hy : t.sessions k = some y) (ho : y.ops c = some ⟨m, q⟩) (hq : q.ended = false) :
    ∃ x p, s.sessions k = some x ∧ x.ops c = some ⟨m, p⟩ ∧ p.ended = false := by
  cases stride_change ht y hy with
  | same hx => exact ⟨y, q, hx, ho, hq⟩
  | created => cases ho
  | scheduled hx =>
    rw [schedule_other hc] at ho
    exact ⟨_, q, hx, ho, hq⟩
  | stepped hx _ hstep =>
    obtain ⟨p, hp⟩ := kept_back (keeps_step hstep) (step_ops_none hstep) ho hq
    exact ⟨_, p, hx, hp⟩
  | settled hx =>
    obtain ⟨p, hp⟩ := kept_back (keeps_reset (hf.ops k _ hx _ le_rfl)) (reset_none hc) ho hq
    exact ⟨_, p, hx, hp⟩
  | stopped hx =>
    obtain ⟨p, hp⟩ := kept_back keeps_cancel cancel_ops_none ho hq
    exact ⟨_, p, hx, hp⟩
  | @cancelled x e spawn hx =>
    have hn : (s.cancelCell e x).ops s.next = none := cancelCell_ops_none (hf.ops k x hx _ le_rfl)
    obtain ⟨p, hp⟩ := kept_back (keeps_cancelCell.trans (keeps_reset hn))
      (fun h => reset_none hc (cancelCell_ops_none h)) ho hq
    exact ⟨_, p, hx, hp⟩

def NoCell (c : OpId) (x : ExecutionSession ν) : Prop :=
  ∀ code timeout p, x.ops c ≠ some ⟨.executeCell code timeout, p⟩

lemma noCell_none (h : x.ops c = none) : NoCell c x := by
  intro code timeout p ho
  rw [h] at ho
  cases ho

lemma noCell_reset {spawn : Spawn} {n : OpId} : NoCell n (reset I e spawn x n) := by
  intro code timeout p ho
  obtain ⟨q, hq⟩ := reset_op I e spawn x n
  cases ho.symm.trans hq

lemma new_cell {code : String} {timeout : Seconds} {p : Phase} (hf : Fresh s) (ht : Stride I s a t)
    (ha : a.direct = false) (hy : t.sessions k = some y)
    (ho : y.ops s.next = some ⟨.executeCell code timeout, p⟩) :
    t.submissions s.next = some (.awaiting .pending) ∧ t.belongs k s.next = true := by
  have hnone : ∀ j x, s.sessions j = some x → x.ops s.next = none := fun j x hx => hf.ops j x hx _ le_rfl
  have hold : ∀ j x, s.sessions j = some x → NoCell s.next x := fun j x hx => noCell_none (hnone j x hx)
  have hset (j : SessionId) (z : ExecutionSession ν) (hz : NoCell s.next z)
      (hy : (s.setSession j z).sessions k = some y) : False :=
    setSession_all (P := fun _ x => NoCell s.next x) hold hz k y hy code timeout p ho
  cases ht with
  | created => exact (hset _ _ (noCell_none rfl) hy).elim
  | @accepted req x hx =>
    by_cases hk : k = req.sessionId
    · subst hk
      exact ⟨Function.update_self .., belongs_self (Function.update_self ..) rfl⟩
    · have hs : s.sessions k = some y := (Function.update_of_ne hk ..).symm.trans hy
      exact (hold k y hs code timeout p ho).elim
  | timedOut =>
    rw [handleReset_sessions] at hy
    exact (hset _ _ noCell_reset hy).elim
  | aborted =>
    rw [handleReset_sessions] at hy
    exact (hset _ _ noCell_reset hy).elim
  | fired hu hx => exact (hset _ _ (noCell_none (cancel_ops_none (hnone _ _ hx))) hy).elim
  | cancelledAtOnce => exact (hset _ _ noCell_reset hy).elim
  | cancelling => exact (hset _ _ noCell_reset hy).elim
  | @entered j x kind hx =>
    refine (hset _ _ (fun code' timeout' p' ho' => ?_) hy).elim
    rw [schedule_self] at ho'
    cases ho'
    cases ha
  | turned hx hstep => exact (hset _ _ (noCell_none (step_ops_none hstep (hnone _ _ hx))) hy).elim
  | _ => exact (hold k y hy code timeout p ho).elim

lemma belongs_keep (h : s.belongs k e = true) (ht : TasksKeep s t) : t.belongs k e = true := by
  rw [belongs, Option.any_eq_true_iff_get] at h
  obtain ⟨hsome, hk⟩ := h
  obtain ⟨u, hu⟩ := Option.isSome_iff_exists.mp hsome
  obtain ⟨v, hv, hid, -⟩ := ht e u hu
  refine belongs_self hv (hid.trans ?_)
  simpa [hu] using hk

lemma belongs_task (h : s.belongs k e = true) (hu : s.tasks e = some u) : u.sessionId = k := by
  simpa [belongs, hu] using h

lemma awaited_step {m : Kind} {p q : Phase} (ht : Stride I s a t) (hc : c ≠ s.next)
    (hs : s.submissions c = some (.awaiting .pending)) (hb : s.belongs k c = true) (hx : s.sessions k = some x)
    (ho : x.ops c = some ⟨m, p⟩) (hp : p.ended = false) (hy : t.sessions k = some y)
    (ho' : y.ops c = some ⟨m, q⟩) (hq : q.ended = false) : t.submissions c = some (.awaiting .pending) := by
  by_cases hsub : a.subject s.next = some c
  · have hended {u : ExecutionTask} {z : ExecutionSession ν} {m' : Kind} {p' : Phase} (hu : s.tasks c = some u)
        (hz : s.sessions u.sessionId = some z) (hz' : z.ops c = some ⟨m', p'⟩) (hp' : p'.ended = true) : False := by
      rw [belongs_task hb hu, hx] at hz
      cases hz
      cases ho.symm.trans hz'
      rw [hp] at hp'
      cases hp'
    cases ht with
    | created | entered | turned | ticked => cases hsub
    | refused | accepted =>
      cases hsub
      exact absurd rfl hc
    | timedOut hu hz _ hz' hp' =>
      cases hsub
      exact (hended hu hz hz' hp').elim
    | received hu hz _ hz' =>
      cases hsub
      exact (hended hu hz hz' rfl).elim
    | failed hu hz _ hz' =>
      cases hsub
      exact (hended hu hz hz' rfl).elim
    | aborted hu hz _ hz' hp' =>
      cases hsub
      rcases hp' with hp' | rfl
      · exact (hended hu hz hz' (Phase.ended_of_aborted hp')).elim
      · exact (hended hu hz hz' rfl).elim
    | finished _ _ hs' =>
      cases hsub
      rw [hs] at hs'
      cases hs'
    | late hu hz _ he =>
      cases hsub
      rw [belongs_task hb hu, hx] at hz
      cases hz
      rw [isEnded, phaseOf_eq ho] at he
      exact absurd he (by rw [Option.any_some, hp]; exact Bool.false_ne_true)
    | fired hu hz =>
      cases hsub
      have hid := belongs_task hb hu
      rw [hid, hx] at hz
      cases hz
      have hself : (s.setSession k (x.cancel c)).sessions k = some (x.cancel c) := Function.update_self ..
      rw [hid] at hy
      cases hself.symm.trans hy
      rw [cancel_live ho hp, leave_ops ho, Function.update_self] at ho'
      cases ho'
      rw [Phase.ended_cancelled] at hq
      cases hq
    | cancelledAlone | cancelledAtOnce | cancelling | concluded => exact hs
  · rw [(untouched ht hsub).submission, hs]

lemma owned_step (hf : Fresh s) (h : Owned s) (ht : Stride I s a t) (ha : a.direct = false) : Owned t := by
  intro k y c code timeout q hy ho hq
  by_cases hc : c = s.next
  · subst hc
    exact new_cell hf ht ha hy ho
  · obtain ⟨x, p, hx, hop, hp⟩ := old_cell hf ht hc hy ho hq
    obtain ⟨hs, hb⟩ := h k x c code timeout p hx hop hp
    exact ⟨awaited_step ht hc hs hb hx hop hp hy ho hq, belongs_keep hb (tasksKeep hf ht)⟩

lemma Tracked.keep (h : Tracked s e r) (hs : SessionsKeep s t) (ht : TasksKeep s t) : Tracked t e r := by
  obtain ⟨u, x, cause, p, hu, hx, ho⟩ := h
  obtain ⟨v, hv, hid, -⟩ := ht e u hu
  obtain ⟨y, hy, hk⟩ := hs u.sessionId x hx
  obtain ⟨q, hq, -⟩ := hk r _ p ho
  exact ⟨v, y, cause, q, hv, hid ▸ hy, hq⟩

lemma update_ne_resetting {b : Submission} (hb : ∀ r, b ≠ .resetting r)
    (h : Function.update s.submissions e (some b) e = some (.resetting r)) : False := by
  rw [Function.update_self] at h
  exact hb r (Option.some_inj.mp h)

lemma resetting_handleReset {spawn : Spawn} (h : Resetting (s.handleReset I e u spawn x) e r) :
    s.cancellations e = some (.resetting r) ∨ Tracked (s.handleReset I e u spawn x) e r := by
  rcases h with h | h
  · obtain ⟨b, hb, hcases⟩ := handleReset_submissions I e u spawn x s
    rw [hb, Function.update_self] at h
    obtain rfl : b = .resetting r := Option.some_inj.mp h
    rcases hcases with ⟨hb', -⟩ | ⟨hb', -⟩
    · cases hb'
    · cases hb'
      obtain ⟨v, hv, hvu⟩ := handleReset_tasks I e u spawn x s
      obtain ⟨p, hp⟩ := reset_op I e spawn x s.next
      have hid : v.sessionId = u.sessionId := by rcases hvu with rfl | rfl <;> rfl
      refine Or.inr ⟨v, reset I e spawn x s.next, some e, p, ?_, ?_, hp⟩
      · rw [hv, Function.update_self]
      · rw [handleReset_sessions, hid, Function.update_self]
  · rw [handleReset_cancellations] at h
    exact Or.inl h

lemma tracked_step (hf : Fresh s) (h : ∀ e r, Resetting s e r → Tracked s e r) (ht : Stride I s a t) (e : ExecutionId)
    (r : OpId) (hr : Resetting t e r) : Tracked t e r := by
  have hkeep (hs : Resetting s e r) : Tracked t e r := (h e r hs).keep (sessionsKeep hf ht) (tasksKeep hf ht)
  by_cases hsub : a.subject s.next = some e
  · have hsubmission {b : Submission} (hb : ∀ r, b ≠ .resetting r)
        (hu : t.submissions = Function.update s.submissions e (some b))
        (hc : t.cancellations = s.cancellations) : Tracked t e r := by
      rcases hr with hr | hr
      · rw [hu] at hr
        exact (update_ne_resetting hb hr).elim
      · rw [hc] at hr
        exact hkeep (Or.inr hr)
    have hcancelled (hc : t.cancellations = Function.update s.cancellations e (some .returned))
        (hu : t.submissions = s.submissions) : Tracked t e r := by
      rcases hr with hr | hr
      · rw [hu] at hr
        exact hkeep (Or.inl hr)
      · rw [hc, Function.update_self] at hr
        cases hr
    cases ht with
    | created | entered | turned | ticked => cases hsub
    | refused | accepted | received | failed | finished | late | fired =>
      cases hsub
      exact hsubmission (fun r => by simp) rfl rfl
    | timedOut | aborted =>
      cases hsub
      rcases resetting_handleReset hr with hold | hnew
      · exact hkeep (Or.inr hold)
      · exact hnew
    | cancelledAlone | cancelledAtOnce | concluded =>
      cases hsub
      exact hcancelled rfl rfl
    | @cancelling _ u x spawn hu hc hx =>
      cases hsub
      rcases hr with hr | hr
      · exact hkeep (Or.inl hr)
      · cases (Function.update_self ..).symm.trans hr
        obtain ⟨p, hp⟩ := reset_op I e spawn (s.cancelCell e x) s.next
        exact ⟨u.cancelling, _, some e, p, Function.update_self .., Function.update_self .., hp⟩
  · have hold := untouched ht hsub
    rw [Resetting, hold.submission, hold.cancellation] at hr
    exact hkeep hr

lemma submitted_step (h : ∀ e u, s.tasks e = some u → ∃ b, s.submissions e = some b) (ht : Stride I s a t)
    (e : ExecutionId) (v : ExecutionTask) (hv : t.tasks e = some v) : ∃ b, t.submissions e = some b := by
  by_cases hsub : a.subject s.next = some e
  · cases ht with
    | created | entered | turned | ticked => cases hsub
    | timedOut | aborted =>
      cases hsub
      obtain ⟨b, hb, -⟩ := handleReset_submissions I e _ _ _ s
      exact ⟨b, by rw [hb, Function.update_self]⟩
    | cancelledAlone hu | cancelledAtOnce hu | cancelling hu | concluded hu =>
      cases hsub
      exact h e _ hu
    | _ =>
      cases hsub
      exact ⟨_, Function.update_self ..⟩
  · have hold := untouched ht hsub
    rw [hold.submission]
    exact h e v (hold.task.symm.trans hv)

theorem sound_step (h : Sound s) (ht : Stride I s a t) (ha : a.direct = false) : Sound t where
  toFinalising := finalising_step h.toFinalising ht
  submitted := submitted_step h.submitted ht
  queues := allSessions_step queue_closed h.fresh h.queues ht
  owned := owned_step h.fresh h.owned ht ha
  tracked := tracked_step h.fresh h.tracked ht

structure Carried (s t : ExecutionManager ν) : Prop where
  tasks : t.tasks = s.tasks
  cancellations : t.cancellations = s.cancellations
  submissions : ∀ e r, s.submissions e = some (.resetting r) → t.submissions e = some (.resetting r)

lemma Carried.trans {w : ExecutionManager ν} (h : Carried s t) (h' : Carried t w) : Carried s w where
  tasks := h'.tasks.trans h.tasks
  cancellations := h'.cancellations.trans h.cancellations
  submissions e r he := h'.submissions e r (h.submissions e r he)

lemma carried_session : Carried s (s.setSession k x) := ⟨rfl, rfl, fun _ _ h => h⟩

lemma setSession_setSession : (s.setSession k x).setSession k y = s.setSession k y := by
  rw [setSession, setSession, setSession]
  simp

lemma setSession_same (hx : s.sessions k = some x) : s.setSession k x = s := by
  rw [setSession, Function.update_eq_self_iff.mpr hx.symm]

lemma session_self : (s.setSession k x).sessions k = some x := Function.update_self ..

lemma leads_inSession (hx : s.sessions k = some x)
    (h : Leads (ExecutionSession.step I) (fun _ => true) x y) :
    Leads (step I) Action.carriesOn s (s.setSession k y) := by
  obtain ⟨as, has, -⟩ := h
  induction as generalizing s x with
  | nil =>
    obtain rfl : x = y := Option.some_inj.mp has
    rw [setSession_same hx]
    exact .refl s
  | cons b as ih =>
    cases hstep : x.step I b with
    | none => simp [exec, hstep] at has
    | some z =>
      rw [exec_cons hstep] at has
      have hz : s.step I (.inSession k b) = some (s.setSession k z) := by
        simp [step, inSession, hx, hstep]
      have hrest := ih (s := s.setSession k z) session_self has
      rw [setSession_setSession] at hrest
      exact (Leads.single hz rfl).trans hrest

lemma sound_carriesOn (s : ExecutionManager ν) (a : Action) (t : ExecutionManager ν) (ha : a.carriesOn = true)
    (h : Sound s) (ht : step I s a = some t) : Sound t :=
  sound_step h (step_stride ht) (Action.not_direct_of_carriesOn ha)

lemma sound_leads (h : Sound s) (ht : Leads (step I) Action.carriesOn s t) : Sound t :=
  ht.keeps sound_carriesOn h

def Released (I : Interpreter ν) (k : SessionId) (r : OpId) (s : ExecutionManager ν) : Prop :=
  ∃ t y, Leads (step I) Action.carriesOn s t ∧ t.sessions k = some y ∧ y.isEnded r = true ∧ Carried s t

lemma Released.after (h : Released I k r t) (hs : Leads (step I) Action.carriesOn s t) (hc : Carried s t) :
    Released I k r s := by
  obtain ⟨w, y, hw, hy, he, hc'⟩ := h
  exact ⟨w, y, hs.trans hw, hy, he, hc.trans hc'⟩

lemma isEnded_of_op {m : Kind} {p : Phase} (ho : x.ops c = some ⟨m, p⟩) : x.isEnded c = p.ended := by
  rw [isEnded, phaseOf_eq ho]
  rfl

lemma fire_step (I : Interpreter ν) (hu : s.tasks e = some u) (hx : s.sessions u.sessionId = some x)
    (hs : s.submissions e = some (.awaiting .pending)) (he : x.isEnded e = false) :
    s.step I (.timer e) =
      some ((s.setSession u.sessionId (x.cancel e)).setSubmission e (.awaiting .fired)) := by
  simp [step, timer, hu, hx, hs, he]

lemma head_released {l : List OpId} (h : Sound s) (hx : s.sessions k = some x) (hl : x.lock = c :: l) :
    ∃ t y, Leads (step I) Action.carriesOn s t ∧ t.sessions k = some y ∧ Ends c x y ∧ Carried s t := by
  have hq := h.queues k x hx
  obtain ⟨m, p, ho, hm, hp⟩ := (hq.mem c).mp (hl ▸ List.mem_cons_self)
  cases m with
  | executeCell code timeout =>
    have hlive : p.ended = false := by
      by_contra he
      rw [Phase.not_placed_of_ended (by simpa using he)] at hp
      cases hp
    obtain ⟨hs, hb⟩ := h.owned k x c code timeout p hx ho hlive
    obtain ⟨u, y, q, hcell⟩ := h.linked c .pending hs
    have hid := belongs_task hb hcell.task
    have hstep := fire_step I hcell.task (hid ▸ hx) hs (by rw [isEnded_of_op ho, hlive])
    refine ⟨_, x.cancel c, .single hstep rfl, by rw [hid]; exact session_self, ?_, ?_⟩
    · rw [cancel_live ho hlive]
      exact leave_ends ho rfl rfl (Phase.ended_cancelled p)
    · refine ⟨rfl, rfl, fun e r he => ?_⟩
      have hne : e ≠ c := by
        rintro rfl
        rw [hs] at he
        cases he
      exact (Function.update_of_ne hne ..).trans he
  | reset cause =>
    obtain ⟨y, hy, hends⟩ := head_ends (I := I) hq hl ho
    exact ⟨s.setSession k y, y, leads_inSession hx hy, session_self, hends, carried_session⟩
  | _ => cases hm

lemma queued_released (h : Sound s) (hx : s.sessions k = some x) (hr : r ∈ x.lock) : Released I k r s := by
  generalize hl : x.lock = l at hr
  induction l generalizing s x with
  | nil => cases hr
  | cons c l ih =>
    obtain ⟨t, y, ht, hy, hends, hc⟩ := head_released (I := I) h hx hl
    by_cases hrc : r = c
    · exact ⟨t, y, ht, hy, hrc ▸ hends.ended, hc⟩
    · have hlock : y.lock = l := by
        rw [hends.lock, hl]
        exact List.erase_cons_head ..
      have hmem : r ∈ l := (List.mem_cons.mp hr).resolve_left hrc
      exact (ih (sound_leads h ht) hy hlock hmem).after ht hc

lemma reset_released {cause : Option ExecutionId} {p : Phase} (h : Sound s) (hx : s.sessions k = some x)
    (ho : x.ops r = some ⟨.reset cause, p⟩) : Released I k r s := by
  have hplaced {s : ExecutionManager ν} {x : ExecutionSession ν} {p : Phase} (h : Sound s)
      (hx : s.sessions k = some x) (ho : x.ops r = some ⟨.reset cause, p⟩)
      (hp : p.ended = true ∨ p.placed = true) : Released I k r s := by
    rcases hp with hp | hp
    · exact ⟨s, x, .refl s, hx, (isEnded_of_op ho).trans hp, rfl, rfl, fun _ _ he => he⟩
    · exact queued_released h hx (((h.queues k x hx).mem r).mpr ⟨_, p, ho, rfl, hp⟩)
  by_cases hp : p = .scheduled
  · subst hp
    obtain ⟨q, hq⟩ : ∃ q, Advances I x r (.begin r .up) (.reset cause) .scheduled q (x.run I r .up (.reset cause)) :=
      run_advances ho
    have hstep : x.step I (.begin r .up) = some (x.run I r .up (.reset cause)) := by
      simp only [ExecutionSession.step, ho]
    have hleads : Leads (step I) Action.carriesOn s (s.setSession k _) := leads_inSession hx (.single hstep rfl)
    refine (hplaced (sound_leads h hleads) session_self hq.self ?_).after hleads carried_session
    exact lockMove_placed hq.lock rfl
  · exact hplaced h hx ho (Phase.ended_or_placed hp)

/-! ## Coming to rest -/

lemma resetting_returns (h : Sound s) (hs : s.submissions e = some (.resetting r)) :
    ∃ t, Leads (step I) Action.carriesOn s t ∧ t.submissions e = some .returned := by
  obtain ⟨u, x, cause, p, hu, hx, ho⟩ := h.tracked e r (Or.inl hs)
  obtain ⟨t, y, ht, hy, he, hc⟩ := reset_released (I := I) h hx ho
  have hstep : t.step I (.finish e) = some (t.finalize e u) := by
    simp [step, finish, hc.tasks, hu, hy, hc.submissions e r hs, he]
  exact ⟨t.finalize e u, ht.trans (.single hstep rfl), Function.update_self ..⟩

lemma cancelling_returns (h : Sound s) (hs : s.cancellations e = some (.resetting r)) :
    ∃ t, Leads (step I) Action.carriesOn s t ∧ t.cancellations e = some .returned := by
  obtain ⟨u, x, cause, p, hu, hx, ho⟩ := h.tracked e r (Or.inr hs)
  obtain ⟨t, y, ht, hy, he, hc⟩ := reset_released (I := I) h hx ho
  have hstep : t.step I (.concluded e) = some (t.conclude e u) := by
    simp [step, ExecutionManager.concluded, hc.tasks, hu, hy, hc.cancellations, hs, he]
  exact ⟨t.conclude e u, ht.trans (.single hstep rfl), Function.update_self ..⟩

lemma late_step (I : Interpreter ν) (hu : s.tasks e = some u) (hx : s.sessions u.sessionId = some x)
    (hs : s.submissions e = some (.awaiting .pending)) (he : x.isEnded e = true) :
    s.step I (.timer e) = some (s.setSubmission e (.awaiting .late)) := by
  simp [step, timer, hu, hx, hs, he]

lemma limit_passes {limit : Limit} (h : Sound s) (hs : s.submissions e = some (.awaiting limit)) :
    ∃ t limit', Leads (step I) Action.carriesOn s t ∧ t.submissions e = some (.awaiting limit') ∧
      limit' ≠ .pending := by
  by_cases hl : limit = .pending
  · subst hl
    obtain ⟨u, x, p, hcell⟩ := h.linked e .pending hs
    cases he : x.isEnded e with
    | true =>
      exact ⟨_, .late, .single (late_step I hcell.task hcell.session hs he) rfl, Function.update_self .., by simp⟩
    | false =>
      exact ⟨_, .fired, .single (fire_step I hcell.task hcell.session hs he) rfl, Function.update_self .., by simp⟩
  · exact ⟨s, limit, .refl s, hs, hl⟩

lemma resume_step (I : Interpreter ν) {limit : Limit} {m : Kind} {p : Phase} (hu : s.tasks e = some u)
    (hx : s.sessions u.sessionId = some x) (hs : s.submissions e = some (.awaiting limit))
    (hl : limit ≠ .pending) (ho : x.ops e = some ⟨m, p⟩) (hp : p.ended = true) :
    s.step I (.resume e true .up) = some (s.handleReset I e u.timeOut .up x) := by
  have hlimit : limit = .fired ∨ limit = .late := by
    cases limit with
    | pending => exact absurd rfl hl
    | fired => exact Or.inl rfl
    | late => exact Or.inr rfl
  simp [step, resume, hu, hx, phaseOf_eq ho, hs, hp, hlimit]

lemma awaiting_returns {limit : Limit} (h : Sound s) (hs : s.submissions e = some (.awaiting limit)) :
    ∃ t, Leads (step I) Action.carriesOn s t ∧ t.submissions e = some .returned := by
  obtain ⟨t, limit', hst, ht, hl⟩ := limit_passes (I := I) h hs
  have hsound := sound_leads h hst
  obtain ⟨u, x, p, hcell⟩ := hsound.linked e limit' ht
  have hp : p.ended = true := by
    by_contra hn
    obtain ⟨hpending, -⟩ := hsound.owned _ x e _ _ p hcell.session hcell.op (by simpa using hn)
    rw [ht] at hpending
    cases hpending
    exact hl rfl
  have hleads := hst.trans (.single (resume_step I hcell.task hcell.session ht hl hcell.op hp) rfl)
  obtain ⟨b, hb, hcases⟩ := handleReset_submissions I e u.timeOut .up x t
  have hself : (t.handleReset I e u.timeOut .up x).submissions e = some b := by rw [hb, Function.update_self]
  rcases hcases with ⟨rfl, -⟩ | ⟨rfl, -⟩
  · exact ⟨_, hleads, hself⟩
  · obtain ⟨w, hw, hreturned⟩ := resetting_returns (I := I) (sound_leads h hleads) hself
    exact ⟨w, hleads.trans hw, hreturned⟩

structure AtRest (s : ExecutionManager ν) (e : ExecutionId) : Prop where
  submission : ¬ s.Underway e
  cancellation : ∀ r, s.cancellations e ≠ some (.resetting r)

lemma submission_step (ha : a.carriesOn = true) (h : ¬ s.Underway e) (ht : Stride I s a t) : ¬ t.Underway e := by
  by_cases hsub : a.subject s.next = some e
  · cases ht with
    | timedOut _ _ hs | received _ _ hs | failed _ _ hs | aborted _ _ hs | late _ _ hs | fired _ _ hs =>
      cases hsub
      exact absurd (Or.inl ⟨_, hs⟩) h
    | finished _ _ hs =>
      cases hsub
      exact absurd (Or.inr ⟨_, hs⟩) h
    | concluded => exact h
    | turned => cases hsub
    | _ => cases ha
  · rw [Underway, (untouched ht hsub).submission]
    exact h

lemma cancellation_step (ha : a.carriesOn = true) (h : ∀ r, s.cancellations e ≠ some (.resetting r))
    (ht : Stride I s a t) (r : OpId) : t.cancellations e ≠ some (.resetting r) := by
  by_cases hsub : a.subject s.next = some e
  · cases ht with
    | timedOut | aborted =>
      rw [handleReset_cancellations]
      exact h r
    | received | failed | finished | late | fired => exact h r
    | concluded =>
      cases hsub
      intro hr
      cases (Function.update_self ..).symm.trans hr
    | turned => cases hsub
    | _ => cases ha
  · rw [(untouched ht hsub).cancellation]
    exact h r

lemma atRest_step (e : ExecutionId) (s : ExecutionManager ν) (a : Action) (t : ExecutionManager ν)
    (ha : a.carriesOn = true) (h : AtRest s e) (ht : step I s a = some t) : AtRest t e :=
  ⟨submission_step ha h.submission (step_stride ht), cancellation_step ha h.cancellation (step_stride ht)⟩

lemma submission_rests (h : Sound s) (e : ExecutionId) :
    ∃ t, Leads (step I) Action.carriesOn s t ∧ ¬ t.Underway e := by
  by_cases hu : s.Underway e
  · obtain ⟨t, ht, hr⟩ : ∃ t, Leads (step I) Action.carriesOn s t ∧ t.submissions e = some .returned := by
      rcases hu with ⟨limit, hs⟩ | ⟨r, hs⟩
      · exact awaiting_returns h hs
      · exact resetting_returns h hs
    refine ⟨t, ht, ?_⟩
    rintro (⟨limit, hs⟩ | ⟨r, hs⟩) <;> rw [hr] at hs <;> cases hs
  · exact ⟨s, .refl s, hu⟩

lemma each_rests (h : Sound s) (e : ExecutionId) : ∃ t, Leads (step I) Action.carriesOn s t ∧ AtRest t e := by
  obtain ⟨t, hst, hsub⟩ := submission_rests (I := I) h e
  by_cases hc : ∃ r, t.cancellations e = some (.resetting r)
  · obtain ⟨r, hr⟩ := hc
    obtain ⟨w, htw, hw⟩ := cancelling_returns (I := I) (sound_leads h hst) hr
    have keep (s : ExecutionManager ν) (a : Action) (t : ExecutionManager ν) (ha : a.carriesOn = true)
        (hs : ¬ s.Underway e) (ht : step I s a = some t) : ¬ t.Underway e :=
      submission_step ha hs (step_stride ht)
    refine ⟨w, hst.trans htw, htw.keeps (I := fun s => ¬ s.Underway e) keep hsub, fun r hr => ?_⟩
    rw [hw] at hr
    cases hr
  · exact ⟨t, hst, hsub, fun r hr => hc ⟨r, hr⟩⟩

lemma sound_exec {now : Instant} {as : List Action} (hs : exec (step I) (empty now) as = some s)
    (hd : ∀ a ∈ as, a.direct = false) : Sound s := by
  refine exec_history (R := fun as s => (∀ a ∈ as, a.direct = false) → Sound s) ?_ (fun _ => empty_sound now) hs hd
  intro as s a t h ht hd
  have hs := h fun b hb => hd b (List.mem_append_left _ hb)
  exact sound_step hs (step_stride ht) (hd a (List.mem_append_right _ List.mem_cons_self))

lemma terminal_at_rest (h : Sound s) (he : AtRest s e) (hu : s.tasks e = some u) : u.status.terminal = true := by
  have hend : s.Ended e := by
    obtain ⟨b, hb⟩ := h.submitted e u hu
    cases b with
    | awaiting limit => exact absurd (Or.inl ⟨limit, hb⟩) he.submission
    | resetting r => exact absurd (Or.inr ⟨r, hb⟩) he.submission
    | returned => exact Or.inl hb
    | refused err => exact Or.inr ⟨err, hb⟩
  obtain ⟨v, hv⟩ := (h.orderly e).finalised hend
  cases hu.symm.trans hv.task
  exact hv.terminal

/-- Whatever is under way, all of it can be brought to its end without a further request, so that every task
has a terminal status; provided that cells are run by `submit_execution` only, each within its limit. -/
theorem comes_to_rest (I : Interpreter ν) (now : Instant) {as : List Action}
    (hs : exec (step I) (empty now) as = some s) (hd : ∀ a ∈ as, a.direct = false) :
    ∃ bs t, exec (step I) s bs = some t ∧ (∀ b ∈ bs, b.carriesOn = true) ∧ (∀ e, t.AtRest e) ∧
      ∀ e u, t.tasks e = some u → u.status.terminal = true := by
  have hsound := sound_exec hs hd
  have lasts (e : ExecutionId) (s : ExecutionManager ν) (a : Action) (t : ExecutionManager ν)
      (ha : a.carriesOn = true) (_ : Sound s) (hr : AtRest s e) (ht : step I s a = some t) : AtRest t e :=
    atRest_step e s a t ha hr ht
  obtain ⟨t, hst, hlow⟩ := leads_to_all sound_carriesOn lasts (fun e s h => each_rests h e) (List.range s.next) hsound
  have hall (e : ExecutionId) : t.AtRest e := by
    by_cases he : e < s.next
    · exact hlow e (List.mem_range.mpr he)
    · refine hst.keeps (I := fun s => AtRest s e) (atRest_step e) ⟨?_, fun r hr => ?_⟩
      · rintro (⟨limit, h⟩ | ⟨r, h⟩) <;> rw [hsound.fresh.submissions e (not_lt.mp he)] at h <;> cases h
      · rw [hsound.fresh.cancellations e (not_lt.mp he)] at hr
        cases hr
  have hlast := sound_leads hsound hst
  obtain ⟨bs, hbs, hb⟩ := hst
  exact ⟨bs, t, hbs, hb, hall, fun e u hu => terminal_at_rest hlast (hall e) hu⟩

/-- One cell is sent to the worker, another waits behind it, and the first is cancelled. -/
def crowded : List Action :=
  [.createSession "s" "r", .submit ⟨"s", "a", none, none, none⟩, .inSession "s" (.begin 0 .up),
    .inSession "s" (.send 0), .submit ⟨"s", "b", none, none, none⟩, .inSession "s" (.begin 1 .up), .cancel 0 .up]

theorem crowded_rests : ∃ s, exec (step echo) (empty 0) crowded = some s ∧
    ∃ bs t, exec (step echo) s bs = some t ∧ (∀ b ∈ bs, b.carriesOn = true) ∧ (∀ e, t.AtRest e) ∧
      ∀ e u, t.tasks e = some u → u.status.terminal = true :=
  ⟨_, rfl, comes_to_rest echo 0 (rfl : exec (step echo) (empty 0) crowded = some _) (by decide)⟩

end ExecutionManager

end NotebookExecution.Execution
