import NotebookExecution.Jobs.Firing
import NotebookExecution.Jobs.Routes

/-! The loop of an evaluation: it fires job after job, each in a transaction of its own, and ends
with the first that raises. -/

namespace NotebookExecution.Jobs

open Library.Transaction Library.Table Store JobManager JobScheduler

variable {E : Environment} {now : Instant} {w : Uuid → Outside} {job : Job} {jobs rest : List Job}
  {d : Database} {nextRun : Option Instant}

def Fires (E : Environment) (now : Instant) (w : Outside) (job : Job) (d : Database)
    (nextRun : Option Instant) : Prop :=
  refusal w job d = none ∧ nextFrom E now job = .ok nextRun

lemma fires_or (E : Environment) (now : Instant) (w : Outside) (job : Job) (d : Database) :
    (∃ nextRun, Fires E now w job d nextRun) ∨ ∀ nextRun, ¬ Fires E now w job d nextRun := by
  by_cases h : ∃ nextRun, Fires E now w job d nextRun
  · exact Or.inl h
  · exact Or.inr (not_exists.mp h)

lemma evaluate_fires (h : Ready d job) (hf : Fires E now (w job.id) job d nextRun) :
    evaluateJobs E now w false (job :: rest) (.open d) =
      (⟨job.id, true⟩ ::
          (evaluateJobs E now w false rest (.open (fired now (w job.id) job nextRun d))).1,
        (evaluateJobs E now w false rest (.open (fired now (w job.id) job nextRun d))).2) := by
  have he := fire_eq E now (w job.id) h
  rw [hf.1, hf.2] at he
  simp only [evaluateJobs, nameOf, Bool.false_eq_true, if_false, he]

lemma evaluate_stops (h : Ready d job) (hf : ∀ nextRun, ¬ Fires E now (w job.id) job d nextRun) :
    evaluateJobs E now w false (job :: rest) (.open d) = ([⟨job.id, false⟩], .open d) := by
  have he := fire_eq E now (w job.id) h
  cases hr : refusal (w job.id) job d with
  | some err =>
    rw [hr] at he
    simp only [evaluateJobs, nameOf, Bool.false_eq_true, if_false, he, if_true]
    rfl
  | none =>
    cases hn : nextFrom E now job with
    | ok nextRun => exact absurd ⟨hr, hn⟩ (hf nextRun)
    | error err =>
      rw [hr, hn] at he
      simp only [evaluateJobs, nameOf, Bool.false_eq_true, if_false, he, if_true]
      rfl

structure Queue (d : Database) (jobs : List Job) : Prop where
  ready : ∀ job ∈ jobs, Ready d job
  apart : jobs.Pairwise fun x y => y.id ≠ x.id

lemma Queue.head (h : Queue d (job :: rest)) : Ready d job := h.ready job List.mem_cons_self

lemma Queue.other (h : Queue d (job :: rest)) {x : Job} (hx : x ∈ rest) : x.id ≠ job.id :=
  (List.pairwise_cons.mp h.apart).1 x hx

lemma Queue.tail (h : Queue d (job :: rest)) : Queue d rest where
  ready x hx := h.ready x (List.mem_cons_of_mem _ hx)
  apart := (List.pairwise_cons.mp h.apart).2

lemma Queue.fired (h : Queue d (job :: rest)) (w : Outside) (nextRun : Option Instant) :
    Queue (fired now w job nextRun d) rest where
  ready x hx := h.head.fired (h.tail.ready x hx) (h.other hx) nextRun
  apart := h.tail.apart

lemma evaluate_find_other (h : Queue d jobs) {k : Uuid} (hk : ∀ job ∈ jobs, k ≠ job.id) :
    jobTable.find k (evaluateJobs E now w false jobs (.open d)).2.committed = jobTable.find k d := by
  induction jobs generalizing d with
  | nil => rfl
  | cons job rest ih =>
    cases fires_or E now (w job.id) job d with
    | inl hf =>
      obtain ⟨nextRun, hf⟩ := hf
      have hq : Queue (fired now (w job.id) job nextRun d) rest := h.fired (w job.id) nextRun
      rw [evaluate_fires h.head hf, ih hq fun x hx => hk x (List.mem_cons_of_mem _ hx)]
      exact fired_find_other (hk job List.mem_cons_self) nextRun
    | inr hf =>
      rw [evaluate_stops h.head hf]
      rfl

lemma evaluate_ids (h : Queue d jobs) {f : Fired}
    (hf : f ∈ (evaluateJobs E now w false jobs (.open d)).1) : ∃ job ∈ jobs, job.id = f.jobId := by
  induction jobs generalizing d with
  | nil => cases hf
  | cons job rest ih =>
    cases fires_or E now (w job.id) job d with
    | inl hj =>
      obtain ⟨nextRun, hj⟩ := hj
      rw [evaluate_fires h.head hj] at hf
      cases List.mem_cons.mp hf with
      | inl he => exact ⟨job, List.mem_cons_self, by rw [he]⟩
      | inr hr =>
        obtain ⟨x, hx, hi⟩ := ih (h.fired (w job.id) nextRun) hr
        exact ⟨x, List.mem_cons_of_mem _ hx, hi⟩
    | inr hj =>
      rw [evaluate_stops h.head hj] at hf
      exact ⟨job, List.mem_cons_self, by rw [List.mem_singleton.mp hf]⟩

inductive Left (E : Environment) (now : Instant) (w : Uuid → Outside) (job : Job) (fired : List Fired)
    (row : Option Job) : Prop
  | settled (nextRun : Option Instant) (next : nextFrom E now job = .ok nextRun)
      (once : fired.filter (fun f => f.jobId = job.id) = [⟨job.id, true⟩])
      (left : row = some (settledRow now (w job.id) job nextRun))
  | kept (none : ⟨job.id, true⟩ ∉ fired) (left : row = some job)

theorem evaluate_left (h : Queue d jobs) (hj : job ∈ jobs) :
    Left E now w job (evaluateJobs E now w false jobs (.open d)).1
      (jobTable.find job.id (evaluateJobs E now w false jobs (.open d)).2.committed) := by
  induction jobs generalizing d with
  | nil => cases hj
  | cons x rest ih =>
    cases fires_or E now (w x.id) x d with
    | inl hf =>
      obtain ⟨nextRun, hf⟩ := hf
      have hq : Queue (fired now (w x.id) x nextRun d) rest := h.fired (w x.id) nextRun
      rw [evaluate_fires h.head hf]
      cases List.mem_cons.mp hj with
      | inl he =>
        rw [he]
        refine .settled nextRun hf.2 ?_ ?_
        · have hn : (evaluateJobs E now w false rest
              (.open (fired now (w x.id) x nextRun d))).1.filter (fun f => f.jobId = x.id) = [] := by
            rw [List.filter_eq_nil_iff]
            intro f hm hi
            obtain ⟨y, hy, hyi⟩ := evaluate_ids hq hm
            exact h.other hy (hyi.trans (of_decide_eq_true hi))
          rw [List.filter_cons_of_pos (p := fun f : Fired => f.jobId = x.id) (by simp), hn]
        · rw [evaluate_find_other hq fun y hy => (h.other hy).symm]
          exact fired_find h.head nextRun
      | inr hr =>
        have hi : x.id ≠ job.id := (h.other hr).symm
        cases ih hq hr with
        | settled o ho hs hl =>
          refine .settled o ho ?_ hl
          rw [List.filter_cons_of_neg (by simpa using hi), hs]
        | kept hn hl =>
          refine .kept (fun hm => ?_) hl
          cases List.mem_cons.mp hm with
          | inl he => exact hi (congrArg Fired.jobId he).symm
          | inr ht => exact hn ht
    | inr hf =>
      rw [evaluate_stops h.head hf]
      refine .kept (fun hm => ?_) (h.ready job hj).found
      cases congrArg Fired.committed (List.mem_singleton.mp hm)

variable {P : Database → Prop}

lemma reschedule_keeps (I : Session Database → Prop)
    (put : ∀ s job new, I s → jobTable.find job.id s.view = some job → new.id = job.id →
      jobClash s.view new = false → I { s with view := jobTable.put job.id new s.view })
    (E : Environment) (now : Instant) (e : Env) (job : Job) : Keeps I (reschedule E now e job) :=
  .bind (jobTable.getById_keeps _) fun _ => .bind (.ofExcept _) fun _ =>
    .bind (update_keeps I put e _ _) fun _ => .pure _

lemma fire_keeps (h : Stable P) (record : ∀ {d r}, P d → P (jobExecutionTable.append r d))
    (E : Environment) (now : Instant) (w : Outside) (job : Job) :
    Keeps (fun s => P s.committed ∧ P s.view) (fire E now w job) := by
  have put (s : Session Database) (job new : Job) (hs : P s.committed ∧ P s.view)
      (hf : jobTable.find job.id s.view = some job) (hi : new.id = job.id)
      (hc : jobClash s.view new = false) :
      P s.committed ∧ P (jobTable.put job.id new s.view) := ⟨hs.1, h.put hs.2 hf hi hc⟩
  refine .bind (trigger_keeps _ put (fun s r hs => ⟨hs.1, record hs.2⟩) w _ _ _) fun _ => ?_
  exact .bind (reschedule_keeps _ put E now w.env job) fun _ => fun s hs => ⟨hs.2, hs.2⟩

theorem evaluate_keeps (h : Stable P) (record : ∀ {d r}, P d → P (jobExecutionTable.append r d))
    (expired : Bool) (jobs : List Job) {s : Session Database} (hs : P s.committed ∧ P s.view) :
    P (evaluateJobs E now w expired jobs s).2.committed := by
  induction jobs generalizing expired s with
  | nil => exact hs.1
  | cons job rest ih =>
    cases expired with
    | true => exact hs.1
    | false =>
      have ht := fire_keeps h record E now (w job.id) job s hs
      obtain ⟨r, t, hr⟩ : ∃ r t, fire E now (w job.id) job s = (r, t) := ⟨_, _, rfl⟩
      rw [hr] at ht
      cases r with
      | ok u =>
        simp only [evaluateJobs, nameOf, Bool.false_eq_true, if_false, hr]
        exact ih false ht
      | error err =>
        simp only [evaluateJobs, nameOf, Bool.false_eq_true, if_false, hr, if_true]
        exact ht.1

end NotebookExecution.Jobs
