import NotebookExecution.Jobs.Cron
import NotebookExecution.Jobs.Timezones

/-! Whether a schedule moves on: where croniter finds no time to come, `calculate_next_run` adds to the
base the minutes that it reads in the minute field. -/

namespace NotebookExecution.Jobs

open Library.Calendar Library.Text

/-! ## The pace of a minute field -/

namespace Cron

def closing : List Item → Option (List Char)
  | [] => none
  | [i] => i.step
  | i :: items => if i.step = none then closing items else none

/-- A step counts when it ends the field; without steps the number that the field starts with does. -/
def pace (items : List Item) : ℕ :=
  if items.any (·.step.isSome) then ((closing items).bind int).getD 1
  else
    match items.head?.map Item.span with
    | some (.number n) => (int n).elim 1 (max 1)
    | _ => 1

def minuteItems (cron : String) : List Item := itemsOf ((words cron)[0]?.getD [])

lemma splitOn_behind {c : Char} {a : List Char} (ha : c ∉ a) (b : List Char) :
    (a ++ b).splitOn c = (b.splitOn c).modifyHead (a ++ ·) := by
  induction a with
  | nil =>
    cases h : b.splitOn c with
    | nil => exact absurd h (List.splitOn_ne_nil c b)
    | cons x l => simpa using h
  | cons x a ih =>
    have hx : (x == c) = false := beq_eq_false_iff_ne.mpr fun h => ha (h ▸ List.mem_cons_self)
    have hb := ih fun h => ha (List.mem_cons_of_mem x h)
    rw [List.cons_append, List.splitOn_cons_eq_if_modifyHead, hx, hb]
    cases h : b.splitOn c with
    | nil => rfl
    | cons y l => rfl

lemma int_none {l : List Char} {c : Char} (hl : c ∈ l) (hc : isDigit c = false) : int l = none := by
  have hn : isNumber l = false := by
    rw [← Bool.not_eq_true]
    exact fun hn => digit_free hn hc hl
  rw [int, hn]
  rfl

lemma fieldText_single (i : Item) : fieldText [i] = i.text := by
  rw [fieldText, List.map_singleton, List.intercalate_singleton]

lemma fieldText_cons (i j : Item) (items : List Item) :
    fieldText (i :: j :: items) = i.text ++ ',' :: fieldText (j :: items) := by
  rw [fieldText, List.map_cons, List.map_cons, List.intercalate_cons_cons, fieldText, List.map_cons]
  simp

lemma Item.slash_iff {i : Item} (hi : i.Digits) : '/' ∈ i.text ↔ i.step.isSome = true := by
  have hspan : '/' ∉ i.span.text := Span.text_free hi.1 (by decide) (by decide) (by decide)
  obtain ⟨s, step⟩ := i
  cases step with
  | none => simpa [Item.text] using hspan
  | some k => simp [Item.text]

lemma slash_iff {items : List Item} (hi : ∀ i ∈ items, i.Digits) :
    '/' ∈ fieldText items ↔ items.any (·.step.isSome) = true := by
  induction items with
  | nil => decide
  | cons i items ih =>
    have hd : '/' ∈ i.text ↔ i.step.isSome = true := Item.slash_iff (hi i List.mem_cons_self)
    cases items with
    | nil => simpa [fieldText_single] using hd
    | cons j rest =>
      have hrest := ih fun x hx => hi x (List.mem_cons_of_mem i hx)
      rw [fieldText_cons, List.any_cons, Bool.or_eq_true, ← hd, ← hrest]
      simp

lemma behind_slash {items : List Item} (hi : ∀ i ∈ items, i.Digits) :
    ((fieldText items).splitOn '/')[1]?.bind int = (closing items).bind int := by
  induction items with
  | nil => rfl
  | cons i items ih =>
    have hd : i.Digits := hi i List.mem_cons_self
    have hspan : '/' ∉ i.span.text := Span.text_free hd.1 (by decide) (by decide) (by decide)
    have htext : i.text = i.span.text ++ i.step.elim [] fun k => '/' :: k := rfl
    cases items with
    | nil =>
      rw [fieldText_single, htext, closing]
      cases hk : i.step with
      | none => rw [Option.elim_none, List.append_nil, List.splitOn_eq_singleton hspan]; rfl
      | some k =>
        have hfree : '/' ∉ k := digit_free (hd.2 k hk) (by decide)
        rw [Option.elim_some, splitOn_pair hspan hfree]
        rfl
    | cons j rest =>
      have hrest := ih fun x hx => hi x (List.mem_cons_of_mem i hx)
      rw [fieldText_cons, htext, closing]
      · cases hk : i.step with
        | none =>
          have hfree : '/' ∉ i.span.text ++ [','] := by simpa using hspan
          have hsplit := splitOn_behind hfree (fieldText (j :: rest))
          rw [List.append_assoc, List.singleton_append] at hsplit
          rw [Option.elim_none, List.append_nil, hsplit, List.getElem?_modifyHead, if_pos rfl, ← hrest]
          simp
        | some k =>
          have hfree : '/' ∉ k ++ [','] := by
            simpa using digit_free (hd.2 k hk) (by decide : isDigit '/' = false)
          have hsplit := splitOn_behind hfree (fieldText (j :: rest))
          rw [List.append_assoc, List.singleton_append] at hsplit
          rw [Option.elim_some, List.append_assoc, List.cons_append,
            List.splitOn_append_cons_self_of_not_mem hspan, hsplit]
          cases hb : (fieldText (j :: rest)).splitOn '/' with
          | nil => exact absurd hb (List.splitOn_ne_nil _ _)
          | cons x l =>
            have hcomma : ',' ∈ k ++ [','] ++ x := by simp
            exact int_none hcomma (by decide)
      · exact List.cons_ne_nil _ _

lemma minuteStep_eq {l : List Char} (h : isField l = true) : minuteStep l = pace (itemsOf l) := by
  obtain ⟨hne, hd, htext⟩ := itemsOf_field h
  have hslash := slash_iff hd
  have hbehind := behind_slash hd
  have hfirst : (l.splitOn ',')[0]? = (itemsOf l).head?.map Item.text := by
    nth_rewrite 1 [htext]
    rw [splitOn_fieldText hne hd, List.getElem?_map, List.head?_eq_getElem?]
  rw [← htext] at hslash hbehind
  rw [← List.contains_iff_mem] at hslash
  rw [minuteStep, pace]
  by_cases hs : l.contains '/' = true
  · rw [if_pos hs, if_pos (hslash.mp hs), hbehind]
  · have hany : ¬ (itemsOf l).any (·.step.isSome) = true := fun ha => hs (hslash.mpr ha)
    rw [if_neg hs, if_neg hany, hfirst]
    cases hi : itemsOf l with
    | nil => exact absurd hi hne
    | cons i rest =>
      have hmem : i ∈ itemsOf l := hi ▸ List.mem_cons_self
      have hstep : i.step = none := by
        by_contra hn
        exact hany (List.any_eq_true.mpr ⟨i, hmem, Option.isSome_iff_ne_none.mpr hn⟩)
      have hitem : i.text = i.span.text := by rw [Item.text, hstep, Option.elim_none, List.append_nil]
      rw [List.head?_cons, Option.map_some, Option.map_some, Option.bind_some, hitem]
      cases hspan : i.span with
      | any =>
        have hstar : int ['*'] = none := int_none List.mem_cons_self (by decide)
        rw [Span.text, hstar]
        exact ite_self 1
      | number n =>
        have hl : l ≠ ['*'] := by
          rintro rfl
          have hany : itemsOf ['*'] = [⟨.any, none⟩] := by decide
          rw [hany] at hmem
          rw [List.mem_singleton.mp hmem] at hspan
          cases hspan
        rw [if_pos hl]
        rfl
      | range n m =>
        have hdash : int (n ++ '-' :: m) = none :=
          int_none (List.mem_append_right n List.mem_cons_self) (by decide)
        rw [Span.text, hdash]
        exact ite_self 1

lemma fallbackStep_eq {cron : String} (h : validateCronExpression cron = true) :
    fallbackStep cron = pace (minuteItems cron) := by
  obtain ⟨hlen, hfields⟩ := validate_inv h
  cases hw : words cron with
  | nil =>
    rw [hw] at hlen
    cases hlen
  | cons w rest =>
    have hf : isField w = true := hfields w (by rw [hw]; exact List.mem_cons_self)
    rw [fallbackStep, minuteItems, hw, List.getElem?_cons_zero, Option.map_some, Option.getD_some,
      Option.getD_some, minuteStep_eq hf]

lemma closing_any {items : List Item} {k : List Char} (h : closing items = some k) :
    items.any (·.step.isSome) = true := by
  induction items with
  | nil => cases h
  | cons i items ih =>
    rw [List.any_cons, Bool.or_eq_true]
    by_cases hi : i.step = none
    · cases items with
      | nil => exact absurd (hi.symm.trans h) (Option.some_ne_none k).symm
      | cons j rest =>
        rw [closing, if_pos hi] at h
        · exact Or.inr (ih h)
        · exact List.cons_ne_nil j rest
    · exact Or.inl (Option.isSome_iff_ne_none.mpr hi)

lemma pace_eq_zero {items : List Item} :
    pace items = 0 ↔ ∃ k, closing items = some k ∧ int k = some 0 := by
  rw [pace]
  split
  · constructor
    · intro h
      cases hb : (closing items).bind int with
      | none =>
        rw [hb] at h
        cases h
      | some n =>
        rw [hb] at h
        obtain rfl : n = 0 := h
        exact Option.bind_eq_some_iff.mp hb
    · rintro ⟨k, hk, hz⟩
      rw [hk, Option.bind_some, hz]
      rfl
  · next hany =>
    constructor
    · intro h
      split at h
      · next n hn =>
        cases hz : int n with
        | none =>
          rw [hz] at h
          cases h
        | some m =>
          rw [hz, Option.elim_some] at h
          omega
      · cases h
    · rintro ⟨k, hk, -⟩
      exact absurd (closing_any hk) hany

end Cron

variable {E : Environment} {now : ℤ} {c tz : String} {z : Zone}

def Progresses (E : Environment) (now : ℤ) (c tz : String) (base : DateTime) : Prop :=
  ∃ d, nextRun E now c tz (some base) = .ok (some d) ∧ base.instant < d.instant

def Finds (E : Environment) (c : String) (s : DateTime) : Prop :=
  ∃ m, E.croniter.accepts c = some m ∧ (s.zone.after m s.instant).Nonempty

def stride (c : String) : ℤ := Cron.pace (Cron.minuteItems c) * 60000000

def MovesOn (c : String) (s : DateTime) : Prop :=
  representable (s.reading + stride c) = true ∧
    s.zone.utcoffset (s.reading + stride c) false - s.zone.utcoffset s.reading s.fold < stride c

lemma movesOn_fixed {offset i : ℤ} : MovesOn c ((Zone.fixed offset).at i) ↔
    representable (i + offset + stride c) = true ∧ 0 < Cron.pace (Cron.minuteItems c) := by
  have hstride : stride c = Cron.pace (Cron.minuteItems c) * 60000000 := rfl
  constructor
  · rintro ⟨hr, hlt⟩
    have hlt' : offset - offset < stride c := hlt
    exact ⟨hr, by omega⟩
  · rintro ⟨hr, hpos⟩
    have hlt : offset - offset < stride c := by omega
    exact ⟨hr, hlt⟩

lemma finds_iff {s : DateTime} : Finds E c s ↔ ∃ d, E.croniter.getNext c s = some d := by
  rw [← Option.isSome_iff_exists]
  constructor
  · rintro ⟨m, hm, hne⟩
    exact E.croniter.getNext_isSome c s m hm hne
  · intro h
    obtain ⟨d, hd⟩ := Option.isSome_iff_exists.mp h
    obtain ⟨m, hm, hl⟩ := E.croniter.getNext_least c s d hd
    exact ⟨m, hm, d.instant, hl.1⟩

lemma fallback_eq {s : DateTime} (hc : validateCronExpression c = true) :
    fallback c s = if representable (s.reading + stride c) then .ok (s.plus (stride c))
      else .error (.overflowError "date value out of range") := by
  rw [fallback, Cron.fallbackStep_eq hc]
  rfl

lemma instant_plus {s : DateTime} {delta : ℤ} : s.instant < (s.plus delta).instant ↔
    s.zone.utcoffset (s.reading + delta) false - s.zone.utcoffset s.reading s.fold < delta := by
  have h₁ : s.instant = s.reading - s.zone.utcoffset s.reading s.fold := rfl
  have h₂ : (s.plus delta).instant = s.reading + delta - s.zone.utcoffset (s.reading + delta) false := rfl
  rw [h₁, h₂]
  omega

theorem progresses_iff (E : Environment) (now : ℤ) (hv : validateTimezone E tz = .ok true)
    (hz : E.zoneInfo tz = .ok z) (hc : validateCronExpression c = true) (base : DateTime) :
    Progresses E now c tz base ↔ Finds E c base ∨ MovesOn c base := by
  rw [Progresses, nextRun_eq hv hz hc, finds_iff, startOf, Option.getD_some]
  cases hn : E.croniter.getNext c base with
  | some d =>
    obtain ⟨m, -, hl⟩ := E.croniter.getNext_least c base d hn
    exact ⟨fun h => Or.inl ⟨d, rfl⟩, fun h => ⟨d, rfl, least_after hl⟩⟩
  | none =>
    rw [fallback_eq hc]
    constructor
    · rintro ⟨d, hd, hlt⟩
      by_cases hr : representable (base.reading + stride c) = true
      · rw [if_pos hr] at hd
        cases hd
        exact Or.inr ⟨hr, instant_plus.mp hlt⟩
      · rw [if_neg hr] at hd
        cases hd
    · rintro (⟨d, hd⟩ | ⟨hr, hlt⟩)
      · cases hd
      · rw [if_pos hr]
        exact ⟨_, rfl, instant_plus.mpr hlt⟩

theorem nightly_progresses : Progresses world 0 "0 2 * * *" "Asia/Kolkata" (utc.at 0) :=
  (progresses_iff world 0 rfl rfl (by decide) (utc.at 0)).mpr
    (Or.inl ⟨twoOClock, rfl, _, utc_first.1⟩)

/-- Every zeroth minute: croniter refuses it, and the fallback gives the base itself. -/
theorem zero_step_stays : validateTimezone world "UTC" = .ok true ∧
    validateCronExpression "*/0 * * * *" = true ∧
    ¬ Progresses world 0 "*/0 * * * *" "UTC" (utc.at 0) := by
  refine ⟨rfl, by decide, ?_⟩
  rintro ⟨d, hd, hlt⟩
  have hn : nextRun world 0 "*/0 * * * *" "UTC" (some (utc.at 0)) = .ok (some (utc.at 0)) := by
    have hc : validateCronExpression "*/0 * * * *" = true := by decide
    have hr : representable ((utc.at 0).reading + stride "*/0 * * * *") = true := by decide
    rw [nextRun_eq rfl rfl hc, startOf, Option.getD_some, fallback_eq hc, if_pos hr]
    rfl
  rw [hn] at hd
  cases hd
  exact lt_irrefl _ hlt

end NotebookExecution.Jobs
