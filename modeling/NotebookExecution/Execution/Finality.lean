import NotebookExecution.Execution.Strides

/-! When a terminal status is final. The submitter and the canceller of a task both write its
status around a reset they wait for; they agree when the cancellation reaches the cell call before
the submitter can see any other end of it. -/

namespace NotebookExecution.Execution

open Library.Runs

variable {ν : Type} {I : Interpreter ν}

def Action.subject (n : ℕ) : Action → Option ExecutionId
  | .submit _ => some n
  | .resume e _ _ | .finish e | .timer e | .cancel e _ | .concluded e => some e
  | _ => none

namespace ExecutionManager

variable {s t w : ExecutionManager ν} {a : Action} {e : ExecutionId} {u v : ExecutionTask}

def Final (s t : ExecutionManager ν) : Prop :=
  ∀ e u, s.tasks e = some u → u.status.terminal = true →
    ∃ v, t.tasks e = some v ∧ v.status = u.status

def cellEnded (s : ExecutionManager ν) (e : ExecutionId) : Bool :=
  (s.tasks e).any fun u => (s.sessions u.sessionId).any (·.isEnded e)

/-- A cancellation is accepted only before the cell call has ended and before its time limit has
passed; the submitter of a cancelled task is not told that the limit passed after all. -/
def Timely (s : ExecutionManager ν) (a : Action) (_ : ExecutionManager ν) : Prop :=
  match a with
  | .cancel e _ => s.submissions e = some (.awaiting .pending) ∧ s.cellEnded e = false
  | .resume e late _ => late = true → s.submissions e = some (.awaiting .late) →
      (s.tasks e).map (·.status) = some .running
  | _ => True

instance decidableTimely (s : ExecutionManager ν) :
    (a : Action) → (t : ExecutionManager ν) → Decidable (Timely s a t)
  | .cancel _ _, _ => inferInstanceAs (Decidable (_ ∧ _))
  | .resume _ _ _, _ => inferInstanceAs (Decidable (_ → _ → _))
  | .createSession _ _, _ | .submit _, _ | .finish _, _ | .timer _, _ | .concluded _, _
  | .enter _ _, _ | .inSession _ _, _ | .tick _, _ => .isTrue trivial

lemma Final.refl (s : ExecutionManager ν) : Final s s := fun _ u hu _ => ⟨u, hu, rfl⟩

lemma Final.trans (h : Final s t) (h' : Final t w) : Final s w := by
  intro e u hu ht
  obtain ⟨v, hv, he⟩ := h e u hu ht
  obtain ⟨v', hv', he'⟩ := h' e v hv (by rw [he, ht])
  exact ⟨v', hv', he'.trans he⟩

def Withdrawn (s : ExecutionManager ν) (e : ExecutionId) (u : ExecutionTask) : Prop :=
  ∃ x k p, s.sessions u.sessionId = some x ∧ x.ops e = some ⟨k, p⟩ ∧ p.aborted = true

inductive Life (s : ExecutionManager ν) (e : ExecutionId) (u : ExecutionTask) : Prop
  | running {limit} (hu : u.status = .running) (hs : s.submissions e = some (.awaiting limit))
      (hr : s.runningTasks e = true) (hc : s.cancellations e = none)
  | withdrawn {limit} (hu : u.status = .cancelling ∨ u.status = .cancelled)
      (hs : s.submissions e = some (.awaiting limit)) (hl : limit ≠ .fired) (hw : Withdrawn s e u)
  | settled (hu : u.status.terminal = true)
      (hs : ∀ limit, s.submissions e ≠ some (.awaiting limit))
      (hc : u.status = .cancelled ∨ s.cancellations e = none)

def Lives (s : ExecutionManager ν) : Prop := ∀ e u, s.tasks e = some u → Life s e u

lemma Withdrawn.keep (h : Withdrawn s e u) (hs : SessionsKeep s t)
    (hv : v.sessionId = u.sessionId) : Withdrawn t e v := by
  obtain ⟨x, k, p, hx, ho, hp⟩ := h
  obtain ⟨y, hy, hk⟩ := hs u.sessionId x hx
  obtain ⟨q, hq, hend⟩ := hk e k p ho
  refine ⟨y, k, q, hv ▸ hy, hq, ?_⟩
  rcases hend (Phase.ended_of_aborted hp) with rfl | ⟨-, rfl⟩
  · exact hp
  · rfl

lemma Life.awaits {limit : Limit} (h : Life s e u) (hs : s.submissions e = some (.awaiting limit)) :
    u.status = .running ∧ s.runningTasks e = true ∧ s.cancellations e = none ∨
      (u.status = .cancelling ∨ u.status = .cancelled) ∧ limit ≠ .fired ∧ Withdrawn s e u := by
  cases h with
  | running hu hs' hr hc => exact Or.inl ⟨hu, hr, hc⟩
  | withdrawn hu hs' hl hw =>
    rw [hs] at hs'
    cases hs'
    exact Or.inr ⟨hu, hl, hw⟩
  | settled hu hs' hc => exact absurd hs (hs' limit)

lemma cancellable_of_terminal {status : ExecutionStatus} (h : status.terminal = true) :
    cancellable status = false := by
  cases status <;> first | rfl | cases h

lemma Life.cancellable (h : Life s e u) (hc : cancellable u.status = true) :
    u.status = .running ∧ s.runningTasks e = true := by
  cases h with
  | running hu hs hr hn => exact ⟨hu, hr⟩
  | withdrawn hu hs hl hw => rcases hu with hu | hu <;> rw [hu] at hc <;> cases hc
  | settled hu hs hn =>
    rw [cancellable_of_terminal hu] at hc
    cases hc

lemma Life.withdrawing {r : OpId} (h : Life s e u) (hc : s.cancellations e = some (.resetting r)) :
    u.status = .cancelling ∨ u.status = .cancelled := by
  cases h with
  | running hu hs hr hn => rw [hc] at hn; cases hn
  | withdrawn hu hs hl hw => exact hu
  | settled hu hs hn =>
    rcases hn with hn | hn
    · exact Or.inr hn
    · rw [hc] at hn
      cases hn

structure Untouched (s t : ExecutionManager ν) (e : ExecutionId) : Prop where
  task : t.tasks e = s.tasks e
  submission : t.submissions e = s.submissions e
  cancellation : t.cancellations e = s.cancellations e
  running : t.runningTasks e = s.runningTasks e

lemma Life.carry (h : Life s e u) (ht : Untouched s t e) (hs : SessionsKeep s t) : Life t e u := by
  cases h with
  | running hu hs' hr hc =>
    exact .running hu (ht.submission.trans hs') (ht.running.trans hr) (ht.cancellation.trans hc)
  | withdrawn hu hs' hl hw => exact .withdrawn hu (ht.submission.trans hs') hl (hw.keep hs rfl)
  | settled hu hs' hc =>
    refine .settled hu (fun limit => ?_) (hc.imp_right ht.cancellation.trans)
    rw [ht.submission]
    exact hs' limit

lemma untouched_handleReset {i : ExecutionId} {x : ExecutionSession ν} {spawn : Spawn}
    (he : e ≠ i) : Untouched s (s.handleReset I i u spawn x) e := by
  obtain ⟨v, hv, -⟩ := handleReset_tasks I i u spawn x s
  obtain ⟨b, hb, -⟩ := handleReset_submissions I i u spawn x s
  refine ⟨?_, ?_, ?_, handleReset_runningTasks he⟩
  · rw [hv, Function.update_of_ne he]
  · rw [hb, Function.update_of_ne he]
  · rw [handleReset_cancellations]

lemma untouched (ht : Stride I s a t) (he : a.subject s.next ≠ some e) : Untouched s t e := by
  have hne : ∀ {i}, some i ≠ some e → e ≠ i := fun h h' => h (congrArg some h'.symm)
  cases ht with
  | timedOut => exact untouched_handleReset (hne he)
  | aborted => exact untouched_handleReset (hne he)
  | refused | accepted | received | failed | finished | late | fired | cancelledAlone
  | cancelledAtOnce | cancelling | concluded =>
    have hi := hne he
    constructor <;>
      simp [refuse, accept, finalize, conclude, setTask, setSubmission, setCancellation, setSession,
        Function.update_of_ne hi]
  | _ => exact ⟨rfl, rfl, rfl, rfl⟩

/-! ## What a step does to its task -/

def Goes (t : ExecutionManager ν) (e : ExecutionId) (u : ExecutionTask) : Prop :=
  ∃ v, t.tasks e = some v ∧ Life t e v ∧ (u.status.terminal = true → v.status = u.status)

section Settling

variable {x : ExecutionSession ν} {spawn : Spawn} {k : Kind} {p : Phase} {limit : Limit}

lemma goes_finalize (hv : v.status.terminal = true)
    (hc : v.status = .cancelled ∨ s.cancellations e = none)
    (hu : u.status.terminal = true → v.status = u.status) : Goes (s.finalize e v) e u := by
  refine ⟨v.complete s.now, Function.update_self .., .settled hv (fun limit => ?_) hc, hu⟩
  simp [finalize, setSubmission]

lemma goes_handleReset (hv : v.status.terminal = true)
    (hc : v.status = .cancelled ∨ s.cancellations e = none)
    (hu : u.status.terminal = true → v.status = u.status) :
    Goes (s.handleReset I e v spawn x) e u := by
  obtain ⟨w, hw, hwv⟩ := handleReset_tasks I e v spawn x s
  obtain ⟨b, hb, hbr⟩ := handleReset_submissions I e v spawn x s
  have hst : w.status = v.status := by rcases hwv with rfl | rfl <;> rfl
  refine ⟨w, by rw [hw, Function.update_self], .settled (by rw [hst, hv]) (fun limit => ?_) ?_, ?_⟩
  · rw [hb, Function.update_self]
    rcases hbr with ⟨rfl, -⟩ | ⟨rfl, -⟩ <;> simp
  · rw [hst, handleReset_cancellations]
    exact hc
  · rw [hst]
    exact hu

lemma Withdrawn.phase (h : Withdrawn s e u) (hx : s.sessions u.sessionId = some x)
    (ho : x.ops e = some ⟨k, p⟩) : p.aborted = true := by
  obtain ⟨x', k', p', hx', ho', hp'⟩ := h
  cases hx.symm.trans hx'
  cases ho.symm.trans ho'
  exact hp'

lemma not_terminal_of_running (hu : u.status = .running) : ¬ u.status.terminal = true := by
  rw [hu]
  decide

lemma receive_terminal (m : Message) (u : ExecutionTask) :
    (u.receive m).status.terminal = true := by
  rw [ExecutionTask.receive]
  split <;> rfl

lemma goes_returned (h : Life s e u) (hx : s.sessions u.sessionId = some x)
    (hs : s.submissions e = some (.awaiting limit)) (ho : x.ops e = some ⟨k, p⟩)
    (hp : p.aborted = false) (hv : v.status.terminal = true) : Goes (s.finalize e v) e u := by
  rcases h.awaits hs with ⟨hu, -, hc⟩ | ⟨-, -, hw⟩
  · exact goes_finalize hv (Or.inr hc) fun ht => absurd ht (not_terminal_of_running hu)
  · rw [hw.phase hx ho] at hp
    cases hp

lemma goes_timedOut {late : Bool} (h : Life s e u) (hu : s.tasks e = some u)
    (hs : s.submissions e = some (.awaiting limit)) (hl : limit = .fired ∨ limit = .late ∧ late = true)
    (hc : Timely s (.resume e late spawn) t) : Goes (s.handleReset I e u.timeOut spawn x) e u := by
  rcases h.awaits hs with ⟨hr, -, hn⟩ | ⟨hst, hf, -⟩
  · exact goes_handleReset rfl (Or.inr hn) fun ht => absurd ht (not_terminal_of_running hr)
  · rcases hl with rfl | ⟨rfl, hlate⟩
    · exact absurd rfl hf
    · have hr : u.status = .running := by simpa [hu] using hc hlate hs
      rcases hst with hst | hst <;> rw [hr] at hst <;> cases hst

lemma goes_aborted (h : Life s e u) (hs : s.submissions e = some (.awaiting limit)) :
    Goes (s.handleReset I e u.cancelByError spawn x) e u := by
  apply goes_handleReset rfl (Or.inl rfl)
  intro ht
  rcases h.awaits hs with ⟨hr, -, -⟩ | ⟨hst, -, -⟩
  · exact absurd ht (not_terminal_of_running hr)
  · rcases hst with hst | hst
    · rw [hst] at ht
      cases ht
    · exact hst.symm

lemma goes_finished {r : OpId} (h : Life s e u) (hs : s.submissions e = some (.resetting r)) :
    Goes (s.finalize e u) e u := by
  cases h with
  | running hu hs' hr hc => rw [hs] at hs'; cases hs'
  | withdrawn hu hs' hl hw => rw [hs] at hs'; cases hs'
  | settled hu hs' hc => exact goes_finalize hu hc fun _ => rfl

lemma goes_late (h : Life s e u) (hu : s.tasks e = some u)
    (hs : s.submissions e = some (.awaiting .pending)) :
    Goes (s.setSubmission e (.awaiting .late)) e u := by
  refine ⟨u, hu, ?_, fun _ => rfl⟩
  rcases h.awaits hs with ⟨hr, hrun, hn⟩ | ⟨hst, -, hw⟩
  · exact .running hr (Function.update_self ..) hrun hn
  · exact .withdrawn hst (Function.update_self ..) (by simp) hw

lemma goes_fired (h : Life s e u) (hu : s.tasks e = some u)
    (hs : s.submissions e = some (.awaiting .pending)) (hx : s.sessions u.sessionId = some x)
    (he : x.isEnded e = false) :
    Goes ((s.setSession u.sessionId (x.cancel e)).setSubmission e (.awaiting .fired)) e u := by
  refine ⟨u, hu, ?_, fun _ => rfl⟩
  rcases h.awaits hs with ⟨hr, hrun, hn⟩ | ⟨-, -, x', k, p, hx', ho, hp⟩
  · exact .running hr (Function.update_self ..) hrun hn
  · cases hx.symm.trans hx'
    have hend : x.isEnded e = p.ended := by
      simp [ExecutionSession.isEnded, ExecutionSession.phaseOf, ho]
    rw [hend, Phase.ended_of_aborted hp] at he
    cases he

lemma withdrawn_cancel (hn : x.ops s.next = none) (hr : s.runningTasks e = true)
    (ho : x.ops e = some ⟨k, p⟩) (hp : p.ended = false) :
    ∃ q, (reset I e spawn (s.cancelCell e x) s.next).ops e = some ⟨k, q⟩ ∧ q.aborted = true := by
  have hcancel : (s.cancelCell e x).ops e = some ⟨k, ExecutionSession.cancelled p⟩ := by
    rw [cancelCell, if_pos hr, ExecutionSession.cancel_live ho hp, ExecutionSession.leave_ops ho,
      Function.update_self]
  have haborted : (ExecutionSession.cancelled p).aborted = true := by cases p <;> rfl
  have hkeeps : (s.cancelCell e x).Keeps (reset I e spawn (s.cancelCell e x) s.next) :=
    ExecutionSession.keeps_reset (cancelCell_ops_none hn)
  obtain ⟨q, hq, hend⟩ := hkeeps e k _ hcancel
  refine ⟨q, hq, ?_⟩
  rcases hend (Phase.ended_of_aborted haborted) with rfl | ⟨-, rfl⟩
  · exact haborted
  · rfl

lemma goes_cancelled (h : Life s e u) (hf : Fresh s) (hl : Linked s) (hu : s.tasks e = some u)
    (hc : cancellable u.status = true) (hx : s.sessions u.sessionId = some x)
    (ht : Timely s (.cancel e spawn) t) (htask : t.tasks e = some v)
    (hv : v.status = .cancelling ∨ v.status = .cancelled) (hsid : v.sessionId = u.sessionId)
    (hsub : t.submissions = s.submissions)
    (hses : t.sessions u.sessionId = some (reset I e spawn (s.cancelCell e x) s.next)) :
    Goes t e u := by
  obtain ⟨hrun, hrunning⟩ := h.cancellable hc
  obtain ⟨hs, hend⟩ := ht
  obtain ⟨u', x', p, hcell⟩ := hl e _ hs
  obtain rfl : u = u' := Option.some_inj.mp (hu.symm.trans hcell.task)
  obtain rfl : x = x' := Option.some_inj.mp (hx.symm.trans hcell.session)
  have hp : p.ended = false := by
    simpa [cellEnded, hu, hx, ExecutionSession.isEnded, ExecutionSession.phaseOf, hcell.op] using hend
  obtain ⟨q, hq, ha⟩ := withdrawn_cancel (hf.ops _ _ hx _ le_rfl) hrunning hcell.op hp
  refine ⟨v, htask, .withdrawn hv (hsub ▸ hs) (by simp) ⟨_, _, q, ?_, hq, ha⟩, fun hterm => ?_⟩
  · rw [hsid, hses]
  · exact absurd hterm (not_terminal_of_running hrun)

lemma goes_concluded {r : OpId} (h : Life s e u) (hs : s.cancellations e = some (.resetting r)) :
    Goes (s.conclude e u) e u := by
  refine ⟨u.cancelled s.now, Function.update_self .., ?_, fun ht => ?_⟩
  · cases h with
    | running hu hs' hr hc => rw [hs] at hc; cases hc
    | withdrawn hu hs' hl hw => exact .withdrawn (Or.inr rfl) hs' hl hw
    | settled hu hs' hc => exact .settled rfl hs' (Or.inl rfl)
  · rcases h.withdrawing hs with hst | hst
    · rw [hst] at ht
      cases ht
    · exact hst.symm

end Settling

theorem goes_step (hf : Fresh s) (hl : Linked s) (h : Life s e u) (hu : s.tasks e = some u)
    (ht : Stride I s a t) (hc : Timely s a t) : Goes t e u := by
  by_cases he : a.subject s.next = some e
  · cases ht with
    | created | entered | turned | ticked => cases he
    | refused | accepted =>
      cases he
      rw [hf.tasks _ le_rfl] at hu
      cases hu
    | timedOut hu' hx hs ho hp hl =>
      cases he
      cases hu.symm.trans hu'
      exact goes_timedOut h hu hs hl hc
    | received hu' hx hs ho =>
      cases he
      cases hu.symm.trans hu'
      exact goes_returned h hx hs ho rfl (receive_terminal _ _)
    | failed hu' hx hs ho =>
      cases he
      cases hu.symm.trans hu'
      exact goes_returned h hx hs ho rfl rfl
    | aborted hu' hx hs ho hp =>
      cases he
      cases hu.symm.trans hu'
      exact goes_aborted h hs
    | finished hu' hx hs hr =>
      cases he
      cases hu.symm.trans hu'
      exact goes_finished h hs
    | late hu' hx hs hend =>
      cases he
      exact goes_late h hu hs
    | fired hu' hx hs hend =>
      cases he
      cases hu.symm.trans hu'
      exact goes_fired h hu hs hx hend
    | cancelledAlone hu' hcl hx =>
      cases he
      cases hu.symm.trans hu'
      obtain ⟨u', x, p, hcell⟩ := hl e _ hc.1
      cases hu.symm.trans hcell.task
      cases hx.symm.trans hcell.session
    | cancelledAtOnce hu' hcl hx hr =>
      cases he
      cases hu.symm.trans hu'
      exact goes_cancelled h hf hl hu hcl hx hc (Function.update_self ..) (Or.inr rfl) rfl rfl
        (Function.update_self ..)
    | cancelling hu' hcl hx hr =>
      cases he
      cases hu.symm.trans hu'
      exact goes_cancelled h hf hl hu hcl hx hc (Function.update_self ..) (Or.inl rfl) rfl rfl
        (Function.update_self ..)
    | concluded hu' hx hs hr =>
      cases he
      cases hu.symm.trans hu'
      exact goes_concluded h hs
  · have hsame := untouched ht he
    exact ⟨u, hsame.task.trans hu, h.carry hsame (sessionsKeep hf ht), fun _ => rfl⟩

lemma life_created (hf : Fresh s) (ht : Stride I s a t) (hs : s.tasks e = none)
    (hv : t.tasks e = some v) : Life t e v := by
  by_cases he : a.subject s.next = some e
  · cases ht with
    | created | entered | turned | ticked => cases he
    | refused req err =>
      cases he
      obtain ⟨-, rfl⟩ | ⟨hne, -⟩ := update_eq_some hv
      swap
      · exact absurd rfl hne
      refine .settled rfl (fun limit => ?_) (Or.inr (hf.cancellations _ le_rfl))
      simp [refuse, setSubmission]
    | accepted hx ha =>
      cases he
      obtain ⟨-, rfl⟩ | ⟨hne, -⟩ := update_eq_some hv
      swap
      · exact absurd rfl hne
      exact .running rfl (Function.update_self ..) (Function.update_self ..)
        (hf.cancellations _ le_rfl)
    | timedOut hu | received hu | failed hu | aborted hu | finished hu | late hu | fired hu
    | cancelledAlone hu | cancelledAtOnce hu | cancelling hu | concluded hu =>
      cases he
      rw [hs] at hu
      cases hu
  · rw [(untouched ht he).task, hs] at hv
    cases hv

structure Ruled (s : ExecutionManager ν) : Prop where
  fresh : Fresh s
  linked : Linked s
  lives : Lives s

lemma empty_ruled (now : Instant) : Ruled (empty now : ExecutionManager ν) :=
  ⟨empty_fresh now, fun _ _ h => (by cases h), fun _ _ h => (by cases h)⟩

lemma ruled_step (h : Ruled s) (ht : Stride I s a t) (hc : Timely s a t) : Ruled t ∧ Final s t := by
  refine ⟨⟨fresh_step h.fresh ht, linked_step h.fresh h.linked ht, fun e v hv => ?_⟩, ?_⟩
  · cases hu : s.tasks e with
    | none => exact life_created h.fresh ht hu hv
    | some u =>
      obtain ⟨v', hv', hlife, -⟩ := goes_step h.fresh h.linked (h.lives e u hu) hu ht hc
      cases hv.symm.trans hv'
      exact hlife
  · intro e u hu hterm
    obtain ⟨v, hv, -, hsame⟩ := goes_step h.fresh h.linked (h.lives e u hu) hu ht hc
    exact ⟨v, hv, hsame hterm⟩

theorem terminal_final (I : Interpreter ν) (now : Instant) (as bs : List Action)
    (hc : Along (step I) Timely (empty now) (as ++ bs)) (hs : exec (step I) (empty now) as = some s)
    (ht : exec (step I) s bs = some t) : Final s t := by
  have hrun : Along (step I) (fun s _ t => Final s t) (empty now) (as ++ bs) :=
    along_of_invariant (fun _ _ _ h hst hc => ruled_step h (step_stride hst) hc) (empty_ruled now) hc
  exact (hrun.drop hs).chain Final.refl (fun _ _ _ => Final.trans) ht

/-- The task is cancelled on the worker; its submitter goes on after the canceller has returned. -/
def withdrawn : List Action × List Action :=
  ([.createSession "s" "r", .submit ⟨"s", "a", none, none, none⟩, .inSession "s" (.begin 0 .up),
      .inSession "s" (.send 0), .cancel 0 .up, .inSession "s" .exit, .inSession "s" (.joined 1 .up),
      .concluded 0],
    [.resume 0 false .up, .inSession "s" .exit, .inSession "s" (.joined 2 .up), .finish 0])

theorem withdrawn_stays_cancelled :
    ∃ s t, exec (step echo) (empty 0) withdrawn.1 = some s ∧ exec (step echo) s withdrawn.2 = some t ∧
      (s.tasks 0).map (·.status) = some .cancelled ∧ Final s t :=
  ⟨_, _, rfl, rfl, rfl, terminal_final echo 0 withdrawn.1 withdrawn.2 (by decide) rfl rfl⟩

/-- The cell call has returned when the task is cancelled, and its submitter goes on while the
canceller waits for the reset. -/
def overruled : List Action × List Action :=
  ([.createSession "s" "r", .submit ⟨"s", "a", none, none, none⟩, .inSession "s" (.begin 0 .up),
      .inSession "s" (.send 0), .inSession "s" (.work quietMachine), .inSession "s" (.check 0),
      .inSession "s" (.probe 0), .inSession "s" (.fetch 0), .inSession "s" (.recv 0), .cancel 0 .up,
      .resume 0 false .up],
    [.inSession "s" .exit, .inSession "s" (.joined 1 .up), .concluded 0])

theorem overruled_succeeds_then_is_cancelled :
    ∃ s t, exec (step echo) (empty 0) overruled.1 = some s ∧ exec (step echo) s overruled.2 = some t ∧
      s.submissions 0 = some .returned ∧ (s.tasks 0).map (·.status) = some .succeeded ∧
      (t.tasks 0).map (·.status) = some .cancelled ∧ ¬ Final s t := by
  refine ⟨_, _, rfl, rfl, rfl, rfl, rfl, fun h => ?_⟩
  obtain ⟨v, hv, hst⟩ := h 0 _ rfl rfl
  cases hv
  cases hst

end ExecutionManager

end NotebookExecution.Execution
