import NotebookExecution.Jobs.Schedule

/-! In whose timezone a schedule is evaluated. croniter reads the expression on the clocks of the
base time, and `calculate_next_run` hands the base on in the zone it came in. -/

namespace NotebookExecution.Jobs

open Library.Calendar

variable {E : Environment} {now i : ℤ} {c tz : String} {z : Zone} {m : ℤ → Bool} {s : DateTime}

/-- The base the search starts from; without one it is the present on the job's own clocks. -/
def startOf (z : Zone) (now : ℤ) (base : Option DateTime) : DateTime := base.getD (z.at now)

def nextRun (E : Environment) (now : ℤ) (c tz : String) (base : Option DateTime) :
    Except JobFailure (Option DateTime) :=
  calculateNextRun E now (some c) tz (base.map .aware)

def Reaches (c : String) (m : ℤ → Bool) (s : DateTime) (i : ℤ) : Prop :=
  IsLeast (s.zone.after m s.instant) i ∨
    s.zone.after m s.instant = ∅ ∧ ∃ d, fallback c s = .ok d ∧ d.instant = i

def Meets (c : String) (m : ℤ → Bool) (z : Zone) (s : DateTime) : Prop :=
  ∃ i, IsLeast (z.after m s.instant) i ∧ Reaches c m s i

lemma nextRun_eq (hv : validateTimezone E tz = .ok true) (hz : E.zoneInfo tz = .ok z)
    (hc : validateCronExpression c = true) (base : Option DateTime) :
    nextRun E now c tz base =
      match E.croniter.getNext c (startOf z now base) with
      | some d => .ok (some d)
      | none => (fallback c (startOf z now base)).map some := by
  have hne : c ≠ "" := by
    rintro rfl
    cases hc
  have hs : ((base.map BaseTime.aware).getD (.aware (z.at now))).start z = startOf z now base := by
    cases base <;> rfl
  simp only [nextRun, calculateNextRun, hne, if_false, hv, hc, hz, hs, bind, Except.bind, pure,
    Except.pure, Bool.not_true, Bool.false_eq_true]
  cases E.croniter.getNext c (startOf z now base) with
  | some d => rfl
  | none => cases fallback c (startOf z now base) <;> rfl

lemma getNext_some {d : DateTime} (hm : E.croniter.accepts c = some m)
    (h : E.croniter.getNext c s = some d) : IsLeast (s.zone.after m s.instant) d.instant := by
  obtain ⟨m', hm', hl⟩ := E.croniter.getNext_least c s d h
  obtain rfl : m = m' := Option.some_inj.mp (hm.symm.trans hm')
  exact hl

lemma getNext_none (hm : E.croniter.accepts c = some m) (h : E.croniter.getNext c s = none) :
    s.zone.after m s.instant = ∅ := by
  by_contra hne
  have hs := E.croniter.getNext_isSome c s m hm (Set.nonempty_iff_ne_empty.mpr hne)
  rw [h] at hs
  cases hs

lemma nextRun_reaches (hv : validateTimezone E tz = .ok true) (hz : E.zoneInfo tz = .ok z)
    (hc : validateCronExpression c = true) (hm : E.croniter.accepts c = some m)
    (base : Option DateTime) :
    (∃ d, nextRun E now c tz base = .ok (some d) ∧ d.instant = i) ↔
      Reaches c m (startOf z now base) i := by
  rw [nextRun_eq hv hz hc]
  cases hn : E.croniter.getNext c (startOf z now base) with
  | some d =>
    have hl := getNext_some hm hn
    constructor
    · rintro ⟨d', hd, rfl⟩
      cases hd
      exact Or.inl hl
    · rintro (hi | ⟨he, -⟩)
      · exact ⟨d, rfl, hl.unique hi⟩
      · have hd := hl.1
        rw [he] at hd
        cases hd
  | none =>
    have he := getNext_none hm hn
    constructor
    · rintro ⟨d, hd, rfl⟩
      cases hf : fallback c (startOf z now base) with
      | error e =>
        rw [hf] at hd
        cases hd
      | ok d' =>
        rw [hf] at hd
        cases hd
        exact Or.inr ⟨he, d, hf, rfl⟩
    · rintro (hi | ⟨-, d, hf, rfl⟩)
      · have hd := hi.1
        rw [he] at hd
        cases hd
      · refine ⟨d, ?_, rfl⟩
        rw [hf]
        rfl

def Agree (E : Environment) (now : ℤ) (c tz : String) (m : ℤ → Bool) (z : Zone)
    (b₁ b₂ : Option DateTime) : Prop :=
  ∃ d₁ d₂, nextRun E now c tz b₁ = .ok (some d₁) ∧ nextRun E now c tz b₂ = .ok (some d₂) ∧
    d₁.instant = d₂.instant ∧ IsLeast (z.after m (startOf z now b₁).instant) d₁.instant

theorem agree_iff (E : Environment) (now : ℤ) (hv : validateTimezone E tz = .ok true)
    (hz : E.zoneInfo tz = .ok z) (hc : validateCronExpression c = true)
    (hm : E.croniter.accepts c = some m) (b₁ b₂ : Option DateTime)
    (hb : (startOf z now b₁).instant = (startOf z now b₂).instant) :
    Agree E now c tz m z b₁ b₂ ↔ Meets c m z (startOf z now b₁) ∧ Meets c m z (startOf z now b₂) := by
  constructor
  · rintro ⟨d₁, d₂, h₁, h₂, he, hl⟩
    refine ⟨⟨d₁.instant, hl, ?_⟩, ⟨d₁.instant, hb ▸ hl, ?_⟩⟩
    · exact (nextRun_reaches hv hz hc hm b₁).mp ⟨d₁, h₁, rfl⟩
    · exact (nextRun_reaches hv hz hc hm b₂).mp ⟨d₂, h₂, he.symm⟩
  · rintro ⟨⟨i, hi, hr₁⟩, ⟨j, hj, hr₂⟩⟩
    obtain rfl : i = j := hi.unique (hb ▸ hj)
    have h₁ : ∃ d, nextRun E now c tz b₁ = .ok (some d) ∧ d.instant = i :=
      (nextRun_reaches hv hz hc hm b₁).mpr hr₁
    have h₂ : ∃ d, nextRun E now c tz b₂ = .ok (some d) ∧ d.instant = i :=
      (nextRun_reaches hv hz hc hm b₂).mpr hr₂
    obtain ⟨d₁, h₁, rfl⟩ := h₁
    obtain ⟨d₂, h₂, he⟩ := h₂
    exact ⟨d₁, d₂, h₁, h₂, he.symm, hi⟩

lemma meets_own (h : (z.after m i).Nonempty) : Meets c m z (z.at i) := by
  obtain ⟨j, hj⟩ := after_least h
  have hj' : IsLeast (z.after m (z.at i).instant) j := by
    rw [DateTime.instant_at]
    exact hj
  exact ⟨j, hj', Or.inl hj'⟩

open Classical in
noncomputable def Croniter.ofPatterns (accepts : String → Option (ℤ → Bool)) : Croniter where
  accepts := accepts
  getNext c s := (accepts c).bind fun m =>
    if h : (s.zone.after m s.instant).Nonempty then some (s.zone.at (after_least h).choose) else none
  getNext_least c s d h := by
    obtain ⟨m, hm, hd⟩ := Option.bind_eq_some_iff.mp h
    refine ⟨m, hm, ?_⟩
    split at hd
    · next hne =>
      cases hd
      rw [DateTime.instant_at]
      exact (after_least hne).choose_spec
    · cases hd
  getNext_isSome c s m hm h := by
    simp [hm, h]

def twoOClock (r : ℤ) : Bool := decide (r % 86400000000 = 7200000000)

def kolkata : Zone := Zone.fixed 19800000000

noncomputable def world : Environment where
  zoneInfo tzName :=
    if tzName = "UTC" then .ok utc
    else if tzName = "Asia/Kolkata" then .ok kolkata
    else .error .notFound
  croniter := .ofPatterns fun c => if c = "0 2 * * *" then some twoOClock else none

lemma kolkata_first : IsLeast (kolkata.after twoOClock 0) 73800000000 := by
  have h : IsLeast (kolkata.after twoOClock 0) (93600000000 - 19800000000) := by
    apply least_fixed (by decide) (by decide)
    intro q h₁ h₂
    simp only [twoOClock, decide_eq_false_iff_not]
    omega
  exact h

lemma utc_first : IsLeast (utc.after twoOClock 0) 7200000000 := by
  have h : IsLeast (utc.after twoOClock 0) (7200000000 - 0) := by
    apply least_fixed (by decide) (by decide)
    intro q h₁ h₂
    simp only [twoOClock, decide_eq_false_iff_not]
    omega
  exact h

theorem own_clock_agrees :
    Agree world 0 "0 2 * * *" "Asia/Kolkata" twoOClock kolkata none (some (kolkata.at 0)) :=
  (agree_iff world 0 rfl rfl (by decide) rfl none (some (kolkata.at 0)) rfl).mpr
    ⟨meets_own ⟨_, kolkata_first.1⟩, meets_own ⟨_, kolkata_first.1⟩⟩

lemma world_reaches {i : ℤ} (base : Option DateTime) :
    (∃ d, nextRun world 0 "0 2 * * *" "Asia/Kolkata" base = .ok (some d) ∧ d.instant = i) ↔
      Reaches "0 2 * * *" twoOClock (startOf kolkata 0 base) i :=
  nextRun_reaches rfl rfl (by decide) rfl base

/-- At two o'clock every night in Kolkata: the manager searches from the present in Kolkata, the
scheduler from the present in UTC. -/
theorem scheduler_disagrees :
    (∃ d₁ d₂, nextRun world 0 "0 2 * * *" "Asia/Kolkata" none = .ok (some d₁) ∧
      nextRun world 0 "0 2 * * *" "Asia/Kolkata" (some (utc.at 0)) = .ok (some d₂) ∧
      d₁.instant = 73800000000 ∧ d₂.instant = 7200000000) ∧
    ¬ Agree world 0 "0 2 * * *" "Asia/Kolkata" twoOClock kolkata none (some (utc.at 0)) := by
  obtain ⟨d₁, h₁, hi₁⟩ := (world_reaches none).mpr (Or.inl kolkata_first)
  obtain ⟨d₂, h₂, hi₂⟩ := (world_reaches (some (utc.at 0))).mpr (Or.inl utc_first)
  refine ⟨⟨d₁, d₂, h₁, h₂, hi₁, hi₂⟩, ?_⟩
  rintro ⟨e₁, e₂, g₁, g₂, he, -⟩
  cases h₁.symm.trans g₁
  cases h₂.symm.trans g₂
  rw [hi₁, hi₂] at he
  cases he

end NotebookExecution.Jobs
