import NotebookExecution.Library.Civil
import NotebookExecution.Jobs.Progress

/-! Whether a run time found without croniter lies in the schedule. The fallback looks at one field of
the five. -/

namespace NotebookExecution.Jobs

open Library.Calendar Library.Text

namespace Cron

def Item.limits (bounds : ℕ × ℕ) (i : Item) : ℕ × ℕ :=
  match i.span with
  | .any => bounds
  | .number n => (value n, if i.step.isSome then bounds.2 else value n)
  | .range n m => (value n, value m)

def Item.admits (bounds : ℕ × ℕ) (i : Item) (v : ℕ) : Bool :=
  decide ((i.limits bounds).1 ≤ v ∧ v ≤ (i.limits bounds).2) &&
    i.step.all fun k => decide (0 < value k ∧ (v - (i.limits bounds).1) % value k = 0)

structure ClockField where
  bounds : ℕ × ℕ
  shown : ℤ → ℕ
  names : ℕ → List ℕ

def clockFields : List ClockField :=
  [⟨(0, 59), minuteOf, fun v => [v]⟩,
    ⟨(0, 23), hourOf, fun v => [v]⟩,
    ⟨(1, 31), dayOf, fun v => [v]⟩,
    ⟨(1, 12), monthOf, fun v => [v]⟩,
    ⟨(0, 6), weekdayOf, fun v => if v = 0 then [0, 7] else [v]⟩]

def ClockField.Admits (f : ClockField) (field : List Char) (v : ℕ) : Prop :=
  ∃ n ∈ f.names v, ∃ i ∈ itemsOf field, i.admits f.bounds n = true

def Matches (cron : String) (r : ℤ) : Prop :=
  ∀ p ∈ clockFields.zip (words cron), p.1.Admits p.2 (p.1.shown r)

def Full (cron : String) : Prop :=
  ∀ p ∈ clockFields.zip (words cron), ∀ v, p.1.bounds.1 ≤ v → v ≤ p.1.bounds.2 → p.1.Admits p.2 v

instance (f : ClockField) (field : List Char) (v : ℕ) : Decidable (f.Admits field v) :=
  inferInstanceAs (Decidable (∃ n ∈ _, ∃ i ∈ _, _))

instance (cron : String) (r : ℤ) : Decidable (Matches cron r) :=
  inferInstanceAs (Decidable (∀ p ∈ _, _))

-- 29 February 2024, a Thursday, at 13:37.
example : Matches "*/37 12-14 29 2 4" 1709213820000000 := by decide
example : ¬ Matches "37 13 29 2 5,7" 1709213820000000 := by decide

lemma shown_mem {f : ClockField} (hf : f ∈ clockFields) (r : ℤ) :
    f.bounds.1 ≤ f.shown r ∧ f.shown r ≤ f.bounds.2 := by
  simp only [clockFields, List.mem_cons, List.not_mem_nil, or_false] at hf
  rcases hf with rfl | rfl | rfl | rfl | rfl
  · exact ⟨Nat.zero_le _, minuteOf_le r⟩
  · exact ⟨Nat.zero_le _, hourOf_le r⟩
  · exact dayOf_bounds r
  · exact monthOf_bounds r
  · exact ⟨Nat.zero_le _, weekdayOf_le r⟩

lemma shown_onto {f : ClockField} (hf : f ∈ clockFields) {v : ℕ} (h₁ : f.bounds.1 ≤ v)
    (h₂ : v ≤ f.bounds.2) : ∃ r : ℤ, 0 ≤ r ∧ r < 366 * 86400000000 ∧ f.shown r = v := by
  simp only [clockFields, List.mem_cons, List.not_mem_nil, or_false] at hf
  rcases hf with rfl | rfl | rfl | rfl | rfl
  all_goals dsimp only at h₁ h₂ ⊢
  · exact ⟨v * 60000000, by omega, by omega, minuteOf_minutes h₂⟩
  · exact ⟨v * 3600000000, by omega, by omega, hourOf_hours h₂⟩
  · exact ⟨(v - 1) * 86400000000, by omega, by omega, dayOf_days h₁ h₂⟩
  · exact ⟨(v - 1) * 31 * 86400000000, by omega, by omega, monthOf_days h₁ h₂⟩
  · exact ⟨(v + 3) * 86400000000, by omega, by omega, weekdayOf_days h₂⟩

lemma matches_of_full {cron : String} (h : Full cron) (r : ℤ) : Matches cron r := by
  intro p hp
  have hf : p.1 ∈ clockFields := (List.of_mem_zip hp).1
  exact h p hp (p.1.shown r) (shown_mem hf r).1 (shown_mem hf r).2

lemma full_of_matches {cron : String}
    (h : ∀ r : ℤ, 0 ≤ r → r < 366 * 86400000000 → Matches cron r) : Full cron := by
  intro p hp v h₁ h₂
  obtain ⟨r, hr₀, hr, rfl⟩ := shown_onto (List.of_mem_zip hp).1 h₁ h₂
  exact h r hr₀ hr p hp

end Cron

/-! ## Run times outside of croniter -/

variable {E : Environment} {now : ℤ} {c tz : String} {z : Zone}

structure Adheres (E : Environment) (now : ℤ) (c tz : String) (z : Zone) (base : Option DateTime) :
    Prop where
  fits : ∀ d, E.croniter.getNext c (startOf z now base) = none →
    nextRun E now c tz base = .ok (some d) → Cron.Matches c (z.shows d.instant).1
  never : (∀ r, ¬ Cron.Matches c r) → (∀ m, E.croniter.accepts c = some m → ∀ r, m r = false) →
    ∀ d, nextRun E now c tz base ≠ .ok (some d)

/-- The wall clock in `z`, once the clock of `s` has been moved forward by the stride. -/
def reached (c : String) (z : Zone) (s : DateTime) : ℤ := (z.shows (s.plus (stride c)).instant).1

lemma silent_of_never {s : DateTime} (h : ∀ m, E.croniter.accepts c = some m → ∀ r, m r = false) :
    E.croniter.getNext c s = none := by
  cases hn : E.croniter.getNext c s with
  | none => rfl
  | some d =>
    obtain ⟨m, hm, hl⟩ := E.croniter.getNext_least c s d hn
    have hd : m (s.zone.shows d.instant).1 = true := hl.1.2
    rw [h m hm] at hd
    cases hd

lemma nextRun_silent (hv : validateTimezone E tz = .ok true) (hz : E.zoneInfo tz = .ok z)
    (hc : validateCronExpression c = true) {base : Option DateTime} {d : DateTime}
    (hn : E.croniter.getNext c (startOf z now base) = none) :
    nextRun E now c tz base = .ok (some d) ↔
      representable ((startOf z now base).reading + stride c) = true ∧
        d = (startOf z now base).plus (stride c) := by
  rw [nextRun_eq hv hz hc, hn, fallback_eq hc]
  by_cases hr : representable ((startOf z now base).reading + stride c) = true
  · rw [if_pos hr]
    constructor
    · intro h
      cases h
      exact ⟨hr, rfl⟩
    · rintro ⟨-, rfl⟩
      rfl
  · rw [if_neg hr]
    constructor
    · intro h
      cases h
    · rintro ⟨h, -⟩
      exact absurd h hr

lemma adheres_base_iff (hv : validateTimezone E tz = .ok true) (hz : E.zoneInfo tz = .ok z)
    (hc : validateCronExpression c = true) (base : Option DateTime) :
    Adheres E now c tz z base ↔
      Finds E c (startOf z now base) ∨
        representable ((startOf z now base).reading + stride c) = false ∨
        Cron.Matches c (reached c z (startOf z now base)) := by
  constructor
  · intro h
    cases hn : E.croniter.getNext c (startOf z now base) with
    | some d => exact Or.inl (finds_iff.mpr ⟨d, hn⟩)
    | none =>
      cases hr : representable ((startOf z now base).reading + stride c) with
      | false => exact Or.inr (Or.inl rfl)
      | true => exact Or.inr (Or.inr (h.fits _ hn ((nextRun_silent hv hz hc hn).mpr ⟨hr, rfl⟩)))
  · intro h
    have hfits : ∀ d, E.croniter.getNext c (startOf z now base) = none →
        nextRun E now c tz base = .ok (some d) → Cron.Matches c (z.shows d.instant).1 := by
      intro d hn hd
      obtain ⟨hr, rfl⟩ := (nextRun_silent hv hz hc hn).mp hd
      rcases h with ha | ho | hm
      · obtain ⟨d, hd⟩ := finds_iff.mp ha
        rw [hn] at hd
        cases hd
      · rw [hr] at ho
        cases ho
      · exact hm
    refine ⟨hfits, ?_⟩
    intro hnone hsilent d hd
    exact hnone _ (hfits d (silent_of_never hsilent) hd)

lemma adheres_everywhere_iff {offset : ℤ} (hv : validateTimezone E tz = .ok true)
    (hz : E.zoneInfo tz = .ok (Zone.fixed offset)) (hc : validateCronExpression c = true)
    (ho : -86400000000 < offset ∧ offset < 86400000000)
    (hp : Cron.pace (Cron.minuteItems c) ≤ 1000000000)
    (hs : ∀ m, E.croniter.accepts c = some m → ∀ r, m r = false) :
    (∀ base : DateTime, representable base.reading = true →
      Adheres E now c tz (Zone.fixed offset) (some base)) ↔ Cron.Full c := by
  constructor
  · intro h
    apply Cron.full_of_matches
    intro r hr₀ hr
    have hstride : stride c = Cron.pace (Cron.minuteItems c) * 60000000 := rfl
    have hreading : (utc.at (r - offset - stride c)).reading = r - offset - stride c := by
      change r - offset - stride c + 0 = _
      omega
    have hbase : representable (utc.at (r - offset - stride c)).reading = true := by
      rw [hreading, representable, decide_eq_true_eq]
      omega
    rcases (adheres_base_iff hv hz hc _).mp (h _ hbase) with ha | hout | hm
    · obtain ⟨d, hd⟩ := finds_iff.mp ha
      rw [silent_of_never hs] at hd
      cases hd
    · rw [startOf, Option.getD_some, hreading, representable, decide_eq_false_iff_not] at hout
      omega
    · have hreached : reached c (Zone.fixed offset) (utc.at (r - offset - stride c)) = r := by
        rw [reached, utc, DateTime.plus_fixed]
        change r - offset - stride c + stride c + offset = r
        omega
      rwa [startOf, Option.getD_some, hreached] at hm
  · intro h base _
    exact (adheres_base_iff hv hz hc _).mpr (Or.inr (Or.inr (Cron.matches_of_full h _)))

/-- The time given lies in the schedule when croniter gave it, when the clock that was moved forward
happens to stop at such a time, or when there is none because the calendar ends before. -/
theorem adheres_iff (E : Environment) (hv : validateTimezone E tz = .ok true)
    (hz : E.zoneInfo tz = .ok z) (hc : validateCronExpression c = true) :
    (∀ now base, Adheres E now c tz z base ↔
      Finds E c (startOf z now base) ∨
        representable ((startOf z now base).reading + stride c) = false ∨
        Cron.Matches c (reached c z (startOf z now base))) ∧
    ∀ now offset, z = Zone.fixed offset → -86400000000 < offset ∧ offset < 86400000000 →
      Cron.pace (Cron.minuteItems c) ≤ 1000000000 →
      (∀ m, E.croniter.accepts c = some m → ∀ r, m r = false) →
      ((∀ base : DateTime, representable base.reading = true → Adheres E now c tz z (some base)) ↔
        Cron.Full c) := by
  refine ⟨fun now base => adheres_base_iff hv hz hc base, ?_⟩
  rintro now offset rfl ho hp hs
  exact adheres_everywhere_iff hv hz hc ho hp hs

/-- croniter as it answers for 31 February: an expression like any other, that no date fits. For every
other expression it stands for a croniter that is not there, and the fallback answers. -/
noncomputable def winter : Environment :=
  { world with croniter := .ofPatterns fun c => if c = "0 2 31 2 *" then some fun _ => false else none }

theorem five_minutes_adhere : Adheres winter 0 "*/5 * * * *" "UTC" utc (some (utc.at 0)) :=
  ((adheres_iff winter rfl rfl (by decide)).1 0 (some (utc.at 0))).mpr
    (Or.inr (Or.inr (by decide)))

/-- A minute past midnight is given as a time for two o'clock on 31 February. -/
theorem february_given_time : validateTimezone winter "UTC" = .ok true ∧
    validateCronExpression "0 2 31 2 *" = true ∧
    ¬ Adheres winter 0 "0 2 31 2 *" "UTC" utc (some (utc.at 0)) := by
  have hc : validateCronExpression "0 2 31 2 *" = true := by decide
  refine ⟨rfl, hc, ?_⟩
  intro h
  have hs : winter.croniter.getNext "0 2 31 2 *" (utc.at 0) = none := by
    apply silent_of_never
    intro m hm r
    cases hm
    rfl
  have hn : nextRun winter 0 "0 2 31 2 *" "UTC" (some (utc.at 0)) =
      .ok (some ((utc.at 0).plus (stride "0 2 31 2 *"))) :=
    (nextRun_silent rfl rfl hc hs).mpr ⟨by decide, rfl⟩
  exact absurd (h.fits _ hs hn) (by decide)

end NotebookExecution.Jobs
