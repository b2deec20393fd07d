import NotebookExecution.Jobs.Firing
import NotebookExecution.Jobs.NotebookRuns
import NotebookExecution.Jobs.Timezones
import NotebookExecution.Jobs.Triggers

/-! Whether PREVENT_OVERLAP keeps the runs of a job apart. The check reads the history, and a
trigger enters the history when its run is done. -/

namespace NotebookExecution.Jobs

open Library.Transaction Library.Table Library.Runs Store JobManager JobSystem

variable {E : Environment} {i : ℕ} {d d' : Database} {s t : JobSystem}

def Phase.runs : Phase → Option Uuid
  | .running job _ => if preventsOverlap job then some job.id else none
  | _ => none

def Phase.holder : Phase → Option Uuid
  | .opening job | .running job _ => if preventsOverlap job then some job.id else none
  | _ => none

def Trigger.runs (k : Uuid) (t : Trigger) : Bool := decide (t.phase.runs = some k)

def Trigger.holds (k : Uuid) (t : Trigger) : Bool := decide (t.phase.holder = some k)

def NoOverlap (s : JobSystem) : Prop := ∀ k, s.triggers.countP (Trigger.runs k) ≤ 1

/-- When a trigger comes to the check, no other trigger of the job has been let through and is not
yet done with its run, unless the history has an open row. -/
def guarded (s : JobSystem) : Action → Bool
  | .move i .check =>
    match s.triggers[i]? with
    | some ⟨_, _, .checking job⟩ =>
      (JobExecutionRepository.historyOf job.id s.committed).any isOpen ||
        !(preventsOverlap job && s.triggers.any (Trigger.holds job.id))
    | _ => true
  | _ => true

lemma countP_set_le {α : Type} {p : α → Bool} {l : List α} {n : ℕ} {x y : α} (h : l[n]? = some y)
    (hp : p x = true → p y = true) : (l.set n x).countP p ≤ l.countP p := by
  induction l generalizing n with
  | nil => exact le_rfl
  | cons a l ih =>
    cases n with
    | zero =>
      obtain rfl : a = y := by simpa using h
      rw [List.set_cons_zero, List.countP_cons, List.countP_cons]
      by_cases hx : p x = true
      · simp [hx, hp hx]
      · simp [hx]
    | succ n =>
      have hl : (l.set n x).countP p ≤ l.countP p := ih (by simpa using h)
      rw [List.set_cons_succ, List.countP_cons, List.countP_cons]
      omega

lemma countP_set_succ {α : Type} {p : α → Bool} {l : List α} {n : ℕ} {x : α} :
    (l.set n x).countP p ≤ l.countP p + 1 := by
  induction l generalizing n with
  | nil => exact Nat.zero_le _
  | cons a l ih =>
    cases n with
    | zero =>
      rw [List.set_cons_zero, List.countP_cons, List.countP_cons]
      split <;> omega
    | succ n =>
      have hl : (l.set n x).countP p ≤ l.countP p + 1 := ih
      rw [List.set_cons_succ, List.countP_cons, List.countP_cons]
      omega

def Exclusive (s : JobSystem) : Prop := ∀ k, s.triggers.countP (Trigger.holds k) ≤ 1

lemma Exclusive.noOverlap (h : Exclusive s) : NoOverlap s := by
  intro k
  refine le_trans (List.countP_mono_left fun t ht hr => ?_) (h k)
  simp only [Trigger.runs, Trigger.holds, decide_eq_true_eq] at hr ⊢
  cases hp : t.phase with
  | running job rest =>
    rw [hp] at hr
    exact hr
  | _ =>
    rw [hp] at hr
    cases hr

lemma after_holder {α : Type} {next : α → Phase} (h : ∀ a, (next a).holder = none)
    (r : Except JobFailure α) : (Phase.after next r).holder = none := by
  cases r with
  | ok a => exact h a
  | error err => rfl

lemma submitNext_holder (job : Job) (executionId : String) (rest : List NotebookCell) :
    (Phase.submitNext job executionId rest).holder = none ∨
      (Phase.submitNext job executionId rest).holder = (Phase.opening job).holder := by
  cases rest with
  | nil => exact Or.inl rfl
  | cons cell rest =>
    cases hp : payload job cell with
    | ok p =>
      simp only [Phase.submitNext, hp, Phase.after]
      exact Or.inr rfl
    | error err =>
      simp only [Phase.submitNext, hp, Phase.after]
      exact Or.inl rfl

lemma start_holder (job : Job) (d : Database) :
    (Phase.start job d).holder = none ∨ (Phase.start job d).holder = (Phase.opening job).holder := by
  cases hc : codeCells job.notebookId d with
  | nil =>
    simp only [Phase.start, hc]
    exact Or.inr rfl
  | cons cell rest =>
    simp only [Phase.start, hc]
    exact submitNext_holder job "" (cell :: rest)

lemma move_holder {t : Trigger} {m : Move} {p : Phase} (h : move E i t d m = some (p, d')) :
    p.holder = none ∨ p.holder = t.phase.holder ∨
      ∃ job, t.phase = .checking job ∧ m = .check ∧ p = .opening job ∧
        checkOverlap job (.open d) = (.ok (), .open d) := by
  obtain ⟨k, origin, q⟩ := t
  cases m with
  | load =>
    cases q <;> cases h
    exact Or.inl (after_holder (fun _ => rfl) _)
  | check =>
    cases q <;> cases h
    next job =>
      obtain ⟨r, s, hr⟩ : ∃ r s, checkOverlap job (.open d) = (r, s) := ⟨_, _, rfl⟩
      have hs : s = .open d := (congrArg Prod.snd hr).symm.trans checkOverlap_session
      cases r with
      | ok u =>
        refine Or.inr (Or.inr ⟨job, rfl, rfl, ?_, hs ▸ hr⟩)
        rw [hr]
        rfl
      | error err =>
        rw [hr]
        exact Or.inl rfl
  | openSession outcome =>
    cases q <;> cases h
    next job =>
      cases outcome with
      | some err => exact Or.inl rfl
      | none => exact (start_holder job d).imp_right Or.inl
  | answer result =>
    cases q <;> cases h
    next job rest =>
      cases result with
      | ok executionId => exact (submitNext_holder job executionId rest).imp_right Or.inl
      | error err => exact Or.inl rfl
  | record now =>
    cases q <;> cases h
    exact Or.inl (after_holder (fun _ => rfl) _)
  | commit =>
    cases q <;> try cases h
    next job executionId now =>
      simp only [move] at h
      split at h
      · cases h
        exact Or.inl rfl
      · cases h
        exact Or.inl rfl

lemma exclusive_append {l : List Trigger} {k : Uuid} {t : Trigger} (ht : t.phase = .loading)
    (h : l.countP (Trigger.holds k) ≤ 1) : (l ++ [t]).countP (Trigger.holds k) ≤ 1 := by
  have hn : Trigger.holds k t = false := by
    rw [Trigger.holds, ht]
    rfl
  rw [List.countP_append, List.countP_singleton, hn]
  exact h

lemma none_holds {u : Trigger} {job : Job} {k : Uuid} (hu : s.triggers[i]? = some u)
    (hp : u.phase = .checking job) (hk : Trigger.holds k { u with phase := .opening job } = true)
    (hg : guarded s (.move i .check) = true)
    (hc : checkOverlap job (.open s.committed) = (.ok (), .open s.committed)) :
    s.triggers.countP (Trigger.holds k) = 0 := by
  obtain ⟨j, origin, p⟩ := u
  obtain rfl : p = .checking job := hp
  have hprevents : preventsOverlap job = true := by
    by_contra hn
    simp [Trigger.holds, Phase.holder, hn] at hk
  obtain rfl : job.id = k := by
    simpa [Trigger.holds, Phase.holder, hprevents] using hk
  have hopen : (JobExecutionRepository.historyOf job.id s.committed).any isOpen = false := by
    rw [Bool.eq_false_iff]
    intro ho
    rw [checkOverlap_open (s := .open s.committed) ⟨hprevents, ho⟩] at hc
    cases hc
  simp only [guarded, hu, hopen, hprevents, Bool.false_or, Bool.true_and, Bool.not_eq_true',
    List.any_eq_false] at hg
  rw [List.countP_eq_zero]
  exact hg

lemma exclusive_step {a : Action} (h : Exclusive s) (hg : guarded s a = true)
    (ht : step E s a = some t) : Exclusive t := by
  intro k
  cases a with
  | call c =>
    cases ht
    exact h k
  | run jobId =>
    cases ht
    exact exclusive_append rfl (h k)
  | evaluate now =>
    cases ht
    exact h k
  | fireNext n =>
    obtain ⟨now, job, rest, current, -, rfl⟩ := fireNext_step ht
    exact exclusive_append rfl (h k)
  | move i m =>
    obtain ⟨u, p, d', hu, hm, rfl⟩ := move_step ht
    cases move_holder hm with
    | inl hn =>
      refine le_trans (countP_set_le hu fun hp => ?_) (h k)
      simp [Trigger.holds, hn] at hp
    | inr hm =>
      cases hm with
      | inl hsame =>
        refine le_trans (countP_set_le hu fun hp => ?_) (h k)
        simpa [Trigger.holds, hsame] using hp
      | inr hpass =>
        obtain ⟨job, hphase, rfl, rfl, hc⟩ := hpass
        by_cases hk : Trigger.holds k { u with phase := .opening job } = true
        · have hnone := none_holds hu hphase hk hg hc
          apply le_trans countP_set_succ
          rw [hnone]
        · exact le_trans (countP_set_le hu fun hp => absurd hp hk) (h k)

theorem overlap_prevented (E : Environment) (d : Database) (as : List Action)
    (h : Along (step E) (fun s a _ => guarded s a = true) (.start d) as) :
    Along (step E) (fun _ _ t => NoOverlap t) (.start d) as := by
  have hd : Exclusive (.start d) := fun k => Nat.zero_le 1
  refine along_of_invariant (fun s a t hs ht hg => ?_) hd h
  have he : Exclusive t := exclusive_step hs hg ht
  exact ⟨he, he.noOverlap⟩

def oneByOne : List Action :=
  [.run 2, .move 0 .load, .move 0 .check, .move 0 (.openSession none), .move 0 (.answer (.ok "exec-1")),
    .move 0 (.record 1000), .move 0 .commit, .run 2, .move 1 .load, .move 1 .check]

def atOnce : List Action :=
  [.run 2, .run 2, .move 0 .load, .move 0 .check, .move 1 .load, .move 1 .check,
    .move 0 (.openSession none), .move 1 (.openSession none)]

theorem one_by_one_apart :
    Along (step world) (fun _ _ t => NoOverlap t) (.start (withJob [])) oneByOne :=
  overlap_prevented world (withJob []) oneByOne (by decide)

theorem at_once_overlap :
    ∃ t, exec (step world) (.start (withJob [])) atOnce = some t ∧
      t.triggers.map (·.phase) = [.running nightly [], .running nightly []] ∧
      nightly.concurrencyPolicy = "PREVENT_OVERLAP" ∧ ¬ NoOverlap t := by
  refine ⟨_, rfl, rfl, rfl, fun h => ?_⟩
  have hc := h 2
  revert hc
  decide

end NotebookExecution.Jobs
