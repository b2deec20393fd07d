import NotebookExecution.Jobs.Evaluation
import NotebookExecution.Jobs.NotebookRuns
import NotebookExecution.Jobs.Timezones

/-! Whether the jobs of one evaluation are isolated from each other's failures. The rollback that
follows a failure expires every job of the list, and the handler reads one of them: the evaluation
ends there. -/

namespace NotebookExecution.Jobs

open Library.Transaction Library.Table Store JobManager JobScheduler

variable {E : Environment} {now : Instant} {w : Uuid → Outside} {job : Job} {jobs rest : List Job}
  {d : Database} {nextRun : Option Instant}

structure Keys (d : Database) : Prop where
  ids : (d.jobs.map Job.id).Nodup
  names : (d.jobs.map Job.name).Nodup

lemma Keys.ready (h : Keys d) (hj : job ∈ d.jobs) (hp : job.status ≠ .paused)
    (hd : job.status ≠ .disabled) : Ready d job where
  found := lookup_of_mem h.ids hj
  paused := hp
  disabled := hd
  named := named_apart h.names (lookup_of_mem h.ids hj)

lemma Keys.due (h : Keys d) (now : Instant) : Queue d (dueJobs now d) where
  ready job hj := by
    obtain ⟨hm, hd⟩ := List.mem_filter.mp hj
    have ha : job.status = .active := by
      simp only [JobRepository.isDue, Bool.and_eq_true, decide_eq_true_eq] at hd
      exact hd.1
    exact h.ready hm (by simp [ha]) (by simp [ha])
  apart := by
    have hp : d.jobs.Pairwise fun x y => x.id ≠ y.id := List.pairwise_map.mp h.ids
    exact (hp.filter _).imp Ne.symm

def fails (w : Uuid → Outside) (d : Database) (job : Job) : Bool :=
  !(triggerJobExecution (w job.id) (some job) job.id .scheduled (.open d)).1.isOk

def evaluated (E : Environment) (now : Instant) (w : Uuid → Outside) (d : Database) (jobs : List Job) :
    Database :=
  (evaluateJobs E now w false jobs (.open d)).2.committed

structure Isolates (E : Environment) (now : Instant) (w : Uuid → Outside) (d : Database) : Prop where
  once : ∀ job ∈ dueJobs now d, fails w d job = false →
    (evaluateSessionJobs E now w d).1.filter (fun f => f.jobId = job.id) = [⟨job.id, true⟩]
  commits : ∀ job ∈ dueJobs now d, fails w d job = false →
    ∃ nextRun row, nextFrom E now job = .ok nextRun ∧
      jobTable.find job.id (evaluateSessionJobs E now w d).2 = some row ∧
      row.nextRunAt = nextRun.or job.nextRunAt ∧ row.lastRunAt = some now
  alike : (evaluateSessionJobs E now w d).2 =
    evaluated E now w d ((dueJobs now d).filter fun job => !fails w d job)
  spares : ∀ job ∈ dueJobs now d, fails w d job = true →
    jobTable.find job.id (evaluateSessionJobs E now w d).2 = some job

lemma fails_eq_false (h : Ready d job) : fails w d job = false ↔ refusal (w job.id) job d = none := by
  have ht := trigger_eq (w job.id) (some job) .scheduled h rfl
  cases hr : refusal (w job.id) job d with
  | none =>
    rw [hr] at ht
    exact iff_of_true (by rw [fails, ht]; rfl) rfl
  | some err =>
    rw [hr] at ht
    refine iff_of_false ?_ (by simp)
    rw [fails, ht]
    exact Bool.noConfusion

lemma fails_fired (h : Ready d job) {x : Job} (hx : Ready d x) (hi : x.id ≠ job.id)
    (hu : (w job.id).env.uuid ≠ (w x.id).env.uuid) :
    fails w (fired now (w job.id) job nextRun d) x = fails w d x := by
  rw [Bool.eq_iff_iff, ← not_iff_not, Bool.not_eq_true, Bool.not_eq_true, fails_eq_false hx,
    fails_eq_false (h.fired hx hi nextRun), refusal_fired hi hu nextRun]

def Fresh (w : Uuid → Outside) (jobs : List Job) : Prop :=
  jobs.Pairwise fun x y => (w x.id).env.uuid ≠ (w y.id).env.uuid

instance (w : Uuid → Outside) (jobs : List Job) : Decidable (Fresh w jobs) :=
  inferInstanceAs (Decidable (jobs.Pairwise fun x y => (w x.id).env.uuid ≠ (w y.id).env.uuid))

lemma Fresh.head (hu : Fresh w (job :: rest)) {x : Job} (hx : x ∈ rest) :
    (w job.id).env.uuid ≠ (w x.id).env.uuid :=
  (List.pairwise_cons.mp hu).1 x hx

lemma Fresh.tail (hu : Fresh w (job :: rest)) : Fresh w rest := (List.pairwise_cons.mp hu).2

lemma evaluate_passed (E : Environment) (now : Instant) (h : Queue d jobs) (hu : Fresh w jobs) :
    jobs.Pairwise fun x y =>
      ⟨y.id, true⟩ ∈ (evaluateJobs E now w false jobs (.open d)).1 → fails w d x = false := by
  induction jobs generalizing d with
  | nil => exact .nil
  | cons job rest ih =>
    rw [List.pairwise_cons]
    cases fires_or E now (w job.id) job d with
    | inr hf =>
      rw [evaluate_stops h.head hf]
      have hno (y : Job) : (⟨y.id, true⟩ : Fired) ∉ [(⟨job.id, false⟩ : Fired)] := fun hm => by
        cases congrArg Fired.committed (List.mem_singleton.mp hm)
      exact ⟨fun y hy hm => absurd hm (hno y), List.pairwise_of_forall fun x y hm => absurd hm (hno y)⟩
    | inl hf =>
      obtain ⟨nextRun, hf⟩ := hf
      have hq : Queue (fired now (w job.id) job nextRun d) rest := h.fired (w job.id) nextRun
      rw [evaluate_fires h.head hf]
      refine ⟨fun y hy hm => (fails_eq_false h.head).mpr hf.1, ?_⟩
      refine (List.pairwise_iff_forall_sublist.mpr fun {x y} hs hm => ?_)
      have hx : x ∈ rest := hs.subset List.mem_cons_self
      have hy : y ∈ rest := hs.subset (List.mem_cons_of_mem _ List.mem_cons_self)
      have ht : ⟨y.id, true⟩ ∈ (evaluateJobs E now w false rest
          (.open (fired now (w job.id) job nextRun d))).1 := by
        cases List.mem_cons.mp hm with
        | inl he => exact absurd (congrArg Fired.jobId he) (h.other hy)
        | inr ht => exact ht
      have hp := List.pairwise_iff_forall_sublist.mp (ih hq hu.tail) hs ht
      rwa [fails_fired h.head (h.tail.ready x hx) (h.other hx) (hu.head hx)] at hp

lemma evaluate_suffix (h : Queue d jobs) (hu : Fresh w jobs)
    (hn : ∀ job ∈ jobs, fails w d job = false → ∃ nextRun, nextFrom E now job = .ok nextRun)
    (hs : jobs.Pairwise fun x y => fails w d x = true → fails w d y = true) :
    (∀ job ∈ jobs, ⟨job.id, true⟩ ∈ (evaluateJobs E now w false jobs (.open d)).1 ↔
      fails w d job = false) ∧
    evaluated E now w d jobs = evaluated E now w d (jobs.filter fun job => !fails w d job) := by
  induction jobs generalizing d with
  | nil => exact ⟨fun job hj => absurd hj List.not_mem_nil, rfl⟩
  | cons job rest ih =>
    obtain ⟨hj, hrest⟩ := List.pairwise_cons.mp hs
    cases hf : fails w d job with
    | true =>
      have hall : ∀ x ∈ job :: rest, fails w d x = true := by
        intro x hx
        cases List.mem_cons.mp hx with
        | inl he => rw [he, hf]
        | inr hr => exact hj x hr hf
      have hno : ∀ nextRun, ¬ Fires E now (w job.id) job d nextRun := fun nextRun hfire => by
        have hc := (fails_eq_false h.head).mpr hfire.1
        rw [hf] at hc
        cases hc
      have hnil : (job :: rest).filter (fun x => !fails w d x) = [] := by
        rw [List.filter_eq_nil_iff]
        intro x hx
        simp [hall x hx]
      refine ⟨fun x hx => ?_, ?_⟩
      · rw [evaluate_stops h.head hno, hall x hx]
        refine iff_of_false (fun hm => ?_) Bool.noConfusion
        cases congrArg Fired.committed (List.mem_singleton.mp hm)
      · rw [hnil, evaluated, evaluate_stops h.head hno]
        rfl
    | false =>
      obtain ⟨nextRun, hnext⟩ := hn job List.mem_cons_self hf
      have hfire : Fires E now (w job.id) job d nextRun := ⟨(fails_eq_false h.head).mp hf, hnext⟩
      have hsame : ∀ x ∈ rest, fails w (fired now (w job.id) job nextRun d) x = fails w d x :=
        fun x hx => fails_fired h.head (h.tail.ready x hx) (h.other hx) (hu.head hx)
      have hi := ih (d := fired now (w job.id) job nextRun d) (h.fired (w job.id) nextRun) hu.tail
        (fun x hx hfx => hn x (List.mem_cons_of_mem _ hx) (by rwa [hsame x hx] at hfx))
        (List.Pairwise.imp_of_mem (fun hx hy hxy => by rwa [hsame _ hx, hsame _ hy]) hrest)
      have hfilter : (job :: rest).filter (fun x => !fails w d x) =
          job :: rest.filter fun x => !fails w (fired now (w job.id) job nextRun d) x := by
        rw [List.filter_cons_of_pos (by simp [hf])]
        congr 1
        exact List.filter_congr fun x hx => by rw [hsame x hx]
      refine ⟨fun x hx => ?_, ?_⟩
      · rw [evaluate_fires h.head hfire]
        cases List.mem_cons.mp hx with
        | inl he =>
          rw [he, hf]
          exact iff_of_true List.mem_cons_self rfl
        | inr hr =>
          rw [← hsame x hr, ← hi.1 x hr]
          refine ⟨fun hm => ?_, List.mem_cons_of_mem _⟩
          cases List.mem_cons.mp hm with
          | inl he => exact absurd (congrArg Fired.jobId he) (h.other hr)
          | inr ht => exact ht
      · have hq : Queue d (job :: rest.filter fun x => !fails w (fired now (w job.id) job nextRun d) x) :=
          ⟨fun x hx => h.ready x (List.cons_subset_cons job (List.filter_subset_self _) hx),
            h.apart.sublist (List.filter_sublist.cons_cons job)⟩
        rw [hfilter, evaluated, evaluated, evaluate_fires h.head hfire, evaluate_fires hq.head hfire]
        exact hi.2

theorem isolates_iff (E : Environment) (now : Instant) (w : Uuid → Outside) (h : Keys d)
    (hu : Fresh w (dueJobs now d)) :
    Isolates E now w d ↔
      (∀ job ∈ dueJobs now d, fails w d job = false → ∃ nextRun, nextFrom E now job = .ok nextRun) ∧
      (dueJobs now d).Pairwise fun x y => fails w d x = true → fails w d y = true := by
  have hq : Queue d (dueJobs now d) := h.due now
  constructor
  · intro hi
    refine ⟨fun job hj hf => ?_, ?_⟩
    · obtain ⟨nextRun, row, hn, -⟩ := hi.commits job hj hf
      exact ⟨nextRun, hn⟩
    · refine (evaluate_passed E now hq hu).imp_of_mem fun {x y} hx hy hp hfx => ?_
      by_contra hfy
      have ho := hi.once y hy (Bool.eq_false_iff.mpr hfy)
      have hm : ⟨y.id, true⟩ ∈ (evaluateSessionJobs E now w d).1 :=
        List.mem_of_mem_filter (ho ▸ List.mem_singleton_self _)
      rw [hp hm] at hfx
      cases hfx
  · rintro ⟨hn, hs⟩
    obtain ⟨hfires, halike⟩ := evaluate_suffix hq hu hn hs
    have hleft (job : Job) (hj : job ∈ dueJobs now d) :
        Left E now w job (evaluateSessionJobs E now w d).1
          (jobTable.find job.id (evaluateSessionJobs E now w d).2) := evaluate_left hq hj
    refine ⟨fun job hj hf => ?_, fun job hj hf => ?_, halike, fun job hj hf => ?_⟩
    · cases hleft job hj with
      | settled nextRun hnext hone hrow => exact hone
      | kept hno hrow => exact absurd ((hfires job hj).mpr hf) hno
    · cases hleft job hj with
      | settled nextRun hnext hone hrow =>
        exact ⟨nextRun, _, hnext, hrow, by simp [settledRow, ran], by simp [settledRow, ran]⟩
      | kept hno hrow => exact absurd ((hfires job hj).mpr hf) hno
    · cases hleft job hj with
      | kept hno hrow => exact hrow
      | settled nextRun hnext hone hrow =>
        have hm : ⟨job.id, true⟩ ∈ (evaluateSessionJobs E now w d).1 :=
          List.mem_of_mem_filter (hone ▸ List.mem_singleton_self _)
        have hc := (hfires job hj).mp hm
        rw [hf] at hc
        cases hc

def atTwo (id : Uuid) (name : String) : Job :=
  { nightly with
    id := id
    name := name
    scheduleType := "CRON"
    cronExpression := some "0 2 * * *"
    nextRunAt := some 0 }

def twoJobs (jobs : List Job) : Database := { Database.empty with jobs := jobs }

def crew (k : Uuid) : Outside :=
  { willing with
    session := if k = 2 then some (.executionManager "Worker process failed to start.") else none
    env := ⟨k + 10, 1000⟩ }

lemma twoOClock_next (hs : job.scheduleType = "CRON") (hc : job.cronExpression = some "0 2 * * *")
    (hz : job.timezone = "UTC") : nextFrom world 0 job = .ok (some 7200000000) := by
  obtain ⟨t, ht, hi⟩ : ∃ t, nextRun world 0 "0 2 * * *" "UTC" (some (utc.at 0)) = .ok (some t) ∧
      t.instant = 7200000000 :=
    (nextRun_reaches rfl rfl (by decide) rfl _).mpr (Or.inl utc_first)
  have hcron : job.scheduleType = "CRON" ∧ job.cronExpression.any (fun c => c ≠ "") := by
    simp [hs, hc]
  rw [nextFrom, nextRunOf, if_pos hcron, hc, hz]
  change instantOf (nextRun world 0 "0 2 * * *" "UTC" (some (utc.at 0))) = _
  rw [ht, ← hi]
  rfl

lemma atTwo_next (id : Uuid) (name : String) :
    nextFrom world 0 (atTwo id name) = .ok (some 7200000000) :=
  twoOClock_next rfl rfl rfl

theorem failing_last_isolated :
    Isolates world 0 crew (twoJobs [atTwo 1 "report", atTwo 2 "broken"]) :=
  (isolates_iff world 0 crew ⟨by decide, by decide⟩ (by decide)).mpr
    ⟨fun job hj _ => by
      have hm : job ∈ [atTwo 1 "report", atTwo 2 "broken"] := hj
      cases List.mem_pair.mp hm with
      | inl he => exact ⟨_, he ▸ atTwo_next 1 "report"⟩
      | inr he => exact ⟨_, he ▸ atTwo_next 2 "broken"⟩, by decide⟩

theorem failing_first_ends :
    evaluateSessionJobs world 0 crew (twoJobs [atTwo 2 "broken", atTwo 3 "report"]) =
        ([⟨2, false⟩], twoJobs [atTwo 2 "broken", atTwo 3 "report"]) ∧
      fails crew (twoJobs [atTwo 2 "broken", atTwo 3 "report"]) (atTwo 3 "report") = false ∧
      ¬ Isolates world 0 crew (twoJobs [atTwo 2 "broken", atTwo 3 "report"]) := by
  have he : evaluateSessionJobs world 0 crew (twoJobs [atTwo 2 "broken", atTwo 3 "report"]) =
      ([⟨2, false⟩], twoJobs [atTwo 2 "broken", atTwo 3 "report"]) := rfl
  refine ⟨he, by decide, fun h => ?_⟩
  have ho := h.once (atTwo 3 "report") (by decide) (by decide)
  rw [he] at ho
  cases ho

end NotebookExecution.Jobs
