import NotebookExecution.Jobs.Effects
import NotebookExecution.Jobs.History

/-! What the rows that no operation moves on do to the triggers that come later. -/

namespace NotebookExecution.Jobs

open Library.Transaction Library.Table Library.Runs Store JobManager JobSystem

variable {E : Environment} {i n : ℕ} {d d' : Database} {s t : JobSystem} {job : Job} {k : Uuid}
  {u : Trigger} {m : Move} {p : Phase}

lemma history_step {a : Action} (ht : step E s a = some t) :
    s.committed.jobExecutions <+: t.committed.jobExecutions := by
  cases step_writes ht with
  | nothing still history => rw [history]
  | row i u row r done own status history here returned =>
    rw [history]
    exact List.prefix_append _ _

lemma history_exec {as : List Action} (h : exec (step E) s as = some t) :
    s.committed.jobExecutions <+: t.committed.jobExecutions :=
  Along.chain (R := fun x y : JobSystem => x.committed.jobExecutions <+: y.committed.jobExecutions)
    (fun _ => List.prefix_rfl) (fun _ _ _ => List.IsPrefix.trans) (along_of_step fun _ _ _ => history_step) h

def Lingering (k : Uuid) (d : Database) : Prop := ∃ r ∈ d.jobExecutions, r.jobId = k ∧ isOpen r = true

lemma Lingering.mono (h : Lingering k d) (hd : d.jobExecutions <+: d'.jobExecutions) : Lingering k d' := by
  obtain ⟨r, hr, hk, ho⟩ := h
  exact ⟨r, hd.subset hr, hk, ho⟩

lemma Lingering.found (h : Lingering k d) :
    (JobExecutionRepository.historyOf k d).any isOpen = true := by
  obtain ⟨r, hr, hk, ho⟩ := h
  rw [List.any_eq_true]
  refine ⟨r, ?_, ho⟩
  rw [JobExecutionRepository.historyOf, List.mem_insertionSort, List.mem_filter]
  exact ⟨hr, decide_eq_true hk⟩

/-! ## Triggers that come later -/

def Phase.admitted : Phase → Bool
  | .loading | .checking _ | .raised _ => false
  | _ => true

def Trigger.waits (u : Trigger) : Prop :=
  match u.phase with
  | .loading => ∀ job, u.origin.known = some job → job.id = u.jobId
  | .checking job => job.id = u.jobId
  | .raised _ => True
  | _ => False

lemma Trigger.waits.not_admitted (h : u.waits) : u.phase.admitted = false := by
  obtain ⟨k, origin, q⟩ := u
  cases q with
  | loading => rfl
  | checking job => rfl
  | raised err => rfl
  | _ => exact h.elim

def checksOverlap (k : Uuid) (s : JobSystem) : Action → Bool
  | .move i .check =>
    match s.triggers[i]? with
    | some ⟨_, _, .checking job⟩ => decide (job.id = k) → preventsOverlap job
    | _ => true
  | _ => true

lemma loaded_id {known : Option Job} {v : Session Database} (hk : ∀ job, known = some job → job.id = k)
    (h : loadJob known k (.open d) = (.ok job, v)) : job.id = k := by
  cases known with
  | some old =>
    rw [loadJob_known h]
    exact hk old rfl
  | none =>
    obtain ⟨row, v', hg, hr⟩ := bind_ok_inv h
    have hrow : row.id = k := lookup_key (getJob_inv hg).1
    dsimp only [Option.getD_none] at hr
    split at hr
    · cases hr
    · cases hr
      exact hrow

lemma move_waits (hm : move E i u d m = some (p, d')) (hu : u.waits) (hl : Lingering u.jobId d)
    (hc : ∀ job, m = .check → u.phase = .checking job → preventsOverlap job = true) :
    Trigger.waits { u with phase := p } := by
  obtain ⟨k, origin, q⟩ := u
  cases m with
  | load =>
    cases q <;> cases hm
    obtain ⟨r, v, hr⟩ : ∃ r v, loadJob origin.known k (.open d) = (r, v) := ⟨_, _, rfl⟩
    rw [hr]
    cases r with
    | ok job => exact loaded_id hu hr
    | error err => exact trivial
  | check =>
    cases q <;> cases hm
    next job =>
      have hjob : job.id = k := hu
      have hopen : checkOverlap job (.open d) = (.error (.concurrency (toString job.id)), .open d) :=
        checkOverlap_open ⟨hc job rfl rfl, (hjob ▸ hl : Lingering job.id d).found⟩
      rw [hopen]
      exact trivial
  | _ => cases q <;> first | exact hu.elim | cases hm

structure Wedged (n : ℕ) (k : Uuid) (s : JobSystem) : Prop where
  count : n ≤ s.triggers.length
  lingering : Lingering k s.committed
  waiting : ∀ i u, n ≤ i → s.triggers[i]? = some u → u.jobId = k → u.waits

lemma Wedged.append {evaluations : List Evaluation} (h : Wedged n k s) (hu : u.waits) :
    Wedged n k ⟨s.committed, s.triggers ++ [u], evaluations⟩ where
  count := by
    rw [List.length_append]
    exact h.count.trans (Nat.le_add_right _ _)
  lingering := h.lingering
  waiting i v hi hv hk := by
    rw [List.getElem?_append] at hv
    split at hv
    · exact h.waiting i v hi hv hk
    · rw [List.getElem?_singleton] at hv
      split at hv
      · cases hv
        exact hu
      · cases hv

lemma wedged_step {a : Action} (h : Wedged n k s) (ht : step E s a = some t)
    (hc : checksOverlap k s a = true) : Wedged n k t := by
  have hl : Lingering k t.committed := h.lingering.mono (history_step ht)
  cases a with
  | call c =>
    cases ht
    exact ⟨h.count, hl, h.waiting⟩
  | run j =>
    cases ht
    exact h.append fun job hj => by cases hj
  | evaluate now =>
    cases ht
    exact ⟨h.count, hl, h.waiting⟩
  | fireNext j =>
    obtain ⟨now, job, rest, current, -, rfl⟩ := fireNext_step ht
    apply h.append
    intro job' hj
    cases hj
    rfl
  | move i m =>
    obtain ⟨v, p, d', hv, hm, rfl⟩ := move_step ht
    refine ⟨by rw [List.length_set]; exact h.count, hl, fun j w hj hw hk => ?_⟩
    rw [List.getElem?_set] at hw
    split at hw
    · split at hw
      · cases hw
        subst j
        have hk' : v.jobId = k := hk
        refine move_waits hm (h.waiting i v hj hv hk') (hk' ▸ h.lingering) fun job hcheck hphase => ?_
        obtain rfl := hcheck
        obtain ⟨k', origin, q⟩ := v
        obtain rfl : q = .checking job := hphase
        have hjob : job.id = k' := h.waiting i _ hj hv hk'
        simp only [checksOverlap, hv] at hc
        exact of_decide_eq_true hc (decide_eq_true (hjob.trans hk'))
      · cases hw
    · exact h.waiting j w hj hw hk

theorem never_run_again (E : Environment) {s t : JobSystem} {as : List Action} {k : Uuid}
    (hs : Lingering k s.committed) (hc : Along (step E) (fun u a _ => checksOverlap k u a = true) s as)
    (h : exec (step E) s as = some t) :
    s.committed.jobExecutions <+: t.committed.jobExecutions ∧
      ∀ i u, s.triggers.length ≤ i → t.triggers[i]? = some u → u.jobId = k → u.phase.admitted = false := by
  have hstart : Wedged s.triggers.length k s := by
    refine ⟨le_rfl, hs, fun i u hi hu _ => ?_⟩
    rw [List.getElem?_eq_none hi] at hu
    cases hu
  have hend : Wedged s.triggers.length k t :=
    Along.invariant (fun _ _ _ => wedged_step) hstart hc h
  exact ⟨history_exec h, fun i u hi hu hk => (hend.waiting i u hi hu hk).not_admitted⟩

theorem nightly_never_run_again :
    ∃ s t, exec (step world) (.start (withoutJobs oneNotebook)) (onceAndAgain.take 8) = some s ∧
      exec (step world) s (onceAndAgain.drop 8) = some t ∧
      s.committed.jobExecutions <+: t.committed.jobExecutions ∧
      ∀ i u, s.triggers.length ≤ i → t.triggers[i]? = some u → u.jobId = 2 → u.phase.admitted = false := by
  refine ⟨_, _, rfl, rfl, @never_run_again world _ _ (onceAndAgain.drop 8) 2 ?_ ?_ rfl⟩
  · exact ⟨lingeringRow, List.mem_singleton.mpr rfl, rfl, rfl⟩
  · decide

end NotebookExecution.Jobs
