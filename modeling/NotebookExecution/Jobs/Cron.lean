import NotebookExecution.Jobs.Schedule

/-! The texts that the cron validator accepts, as lists of items, and the ranges that a field of a
schedule may name. -/

namespace NotebookExecution.Jobs.Cron

open Library.Text

inductive Span
  | any
  | number (n : List Char)
  | range (n m : List Char)
  deriving DecidableEq

structure Item where
  span : Span
  step : Option (List Char)
  deriving DecidableEq

def value (l : List Char) : ℕ := l.foldl (fun n c => 10 * n + (c.toNat - 48)) 0

namespace Span

def text : Span → List Char
  | .any => ['*']
  | .number n => n
  | .range n m => n ++ '-' :: m

def numbers : Span → List (List Char)
  | .any => []
  | .number n => [n]
  | .range n m => [n, m]

def Digits (s : Span) : Prop := ∀ n ∈ s.numbers, isNumber n = true

def read (l : List Char) : Span :=
  if l = ['*'] then .any
  else
    match l.splitOn '-' with
    | [n, m] => .range n m
    | _ => .number l

end Span

namespace Item

def text (i : Item) : List Char := i.span.text ++ i.step.elim [] fun k => '/' :: k

def Digits (i : Item) : Prop := i.span.Digits ∧ ∀ k ∈ i.step, isNumber k = true

def Within (bounds : ℕ × ℕ) (i : Item) : Prop :=
  (∀ n ∈ i.span.numbers, bounds.1 ≤ value n ∧ value n ≤ bounds.2) ∧ ∀ k ∈ i.step, 1 ≤ value k

instance (bounds : ℕ × ℕ) (i : Item) : Decidable (i.Within bounds) :=
  inferInstanceAs (Decidable (_ ∧ _))

def read (l : List Char) : Item :=
  match l.splitOn '/' with
  | [a, k] => ⟨.read a, some k⟩
  | _ => ⟨.read l, none⟩

end Item

def fieldText (items : List Item) : List Char := [','].intercalate (items.map Item.text)

def itemsOf (field : List Char) : List Item := (field.splitOn ',').map Item.read

/-- Minute, hour, day of month, month and day of week. -/
def fieldBounds : List (ℕ × ℕ) := [(0, 59), (0, 23), (1, 31), (1, 12), (0, 7)]

lemma digit_free {n : List Char} {c : Char} (hn : isNumber n = true) (hc : isDigit c = false) : c ∉ n := by
  intro hmem
  rw [isNumber, Bool.and_eq_true, List.all_eq_true] at hn
  rw [hn.2 c hmem] at hc
  cases hc

lemma splitOn_pair {a b : List Char} {c : Char} (ha : c ∉ a) (hb : c ∉ b) :
    (a ++ c :: b).splitOn c = [a, b] := by
  rw [List.splitOn_append_cons_self_of_not_mem ha, List.splitOn_eq_singleton hb]

namespace Span

variable {s : Span} {c : Char}

lemma text_free (hs : s.Digits) (hc : isDigit c = false) (hstar : c ≠ '*') (hdash : c ≠ '-') :
    c ∉ s.text := by
  cases s with
  | any => simpa [text] using hstar
  | number n => exact digit_free (hs n (by simp [numbers])) hc
  | range n m =>
    have hn := digit_free (hs n (by simp [numbers])) hc
    have hm := digit_free (hs m (by simp [numbers])) hc
    simp [text, hn, hm, hdash]

lemma read_text (hs : s.Digits) : read s.text = s := by
  have hdash : isDigit '-' = false := by decide
  have hstar : isDigit '*' = false := by decide
  cases s with
  | any => rfl
  | number n =>
    have hn := hs n (by simp [numbers])
    have hne : n ≠ ['*'] := by
      rintro rfl
      exact digit_free hn hstar List.mem_cons_self
    rw [read, text, if_neg hne, List.splitOn_eq_singleton (digit_free hn hdash)]
  | range n m =>
    have hn := hs n (by simp [numbers])
    have hm := hs m (by simp [numbers])
    have hne : n ++ '-' :: m ≠ ['*'] := by
      intro he
      have hmem : '-' ∈ ['*'] := he ▸ List.mem_append_right _ List.mem_cons_self
      exact absurd hmem (by decide)
    rw [read, text, if_neg hne, splitOn_pair (digit_free hn hdash) (digit_free hm hdash)]

lemma isSpan_iff {l : List Char} : isSpan l = true ↔ ∃ s : Span, s ≠ .any ∧ s.Digits ∧ l = s.text := by
  have hdash : isDigit '-' = false := by decide
  constructor
  · intro h
    have hl : ['-'].intercalate (l.splitOn '-') = l := List.intercalate_splitOn '-'
    rw [isSpan] at h
    split at h
    · next a ha =>
      rw [ha] at hl
      refine ⟨.number a, by simp, by simpa [Digits, numbers] using h, ?_⟩
      simpa [text] using hl.symm
    · next a b hab =>
      rw [hab] at hl
      rw [Bool.and_eq_true] at h
      refine ⟨.range a b, by simp, by simpa [Digits, numbers] using h, ?_⟩
      simpa [text] using hl.symm
    · cases h
  · rintro ⟨s, hs, hd, rfl⟩
    cases s with
    | any => exact absurd rfl hs
    | number n =>
      have hn := hd n (by simp [numbers])
      rw [isSpan, text, List.splitOn_eq_singleton (digit_free hn hdash)]
      exact hn
    | range n m =>
      have hn := hd n (by simp [numbers])
      have hm := hd m (by simp [numbers])
      rw [isSpan, text, splitOn_pair (digit_free hn hdash) (digit_free hm hdash)]
      simp [hn, hm]

end Span

namespace Item

variable {i : Item}

lemma text_comma (hi : i.Digits) : ',' ∉ i.text := by
  have hcomma : isDigit ',' = false := by decide
  have hspan : ',' ∉ i.span.text := Span.text_free hi.1 hcomma (by decide) (by decide)
  obtain ⟨s, step⟩ := i
  cases step with
  | none => simpa [text] using hspan
  | some k =>
    have hk := digit_free (hi.2 k rfl) hcomma
    simp [text, hk]
    exact hspan

lemma read_text (hi : i.Digits) : read i.text = i := by
  have hslash : isDigit '/' = false := by decide
  have hspan : '/' ∉ i.span.text := Span.text_free hi.1 hslash (by decide) (by decide)
  obtain ⟨s, step⟩ := i
  cases step with
  | none =>
    have ht : text ⟨s, none⟩ = s.text := List.append_nil _
    rw [read, ht, List.splitOn_eq_singleton hspan, Span.read_text hi.1]
  | some k =>
    have ht : text ⟨s, some k⟩ = s.text ++ '/' :: k := rfl
    rw [read, ht, splitOn_pair hspan (digit_free (hi.2 k rfl) hslash)]
    dsimp only
    rw [Span.read_text hi.1]

lemma isStepped_iff {p : List Char → Bool} {Q : Span → Prop}
    (hp : ∀ a, p a = true ↔ ∃ s : Span, Q s ∧ s.Digits ∧ a = s.text) {l : List Char} :
    isStepped p l = true ↔ ∃ i : Item, Q i.span ∧ i.Digits ∧ l = i.text := by
  have hslash : isDigit '/' = false := by decide
  constructor
  · intro h
    have hl : ['/'].intercalate (l.splitOn '/') = l := List.intercalate_splitOn '/'
    rw [isStepped] at h
    split at h
    · next a ha =>
      obtain ⟨s, hq, hs, rfl⟩ := (hp a).mp h
      rw [ha] at hl
      refine ⟨⟨s, none⟩, hq, ⟨hs, by simp⟩, ?_⟩
      simpa [text] using hl.symm
    · next a k hak =>
      rw [Bool.and_eq_true] at h
      obtain ⟨s, hq, hs, rfl⟩ := (hp a).mp h.1
      rw [hak] at hl
      refine ⟨⟨s, some k⟩, hq, ⟨hs, by simpa using h.2⟩, ?_⟩
      simpa [text] using hl.symm
    · cases h
  · rintro ⟨⟨s, step⟩, hq, hi, rfl⟩
    have hspan : '/' ∉ s.text := Span.text_free hi.1 hslash (by decide) (by decide)
    have hs : p s.text = true := (hp _).mpr ⟨s, hq, hi.1, rfl⟩
    cases step with
    | none =>
      have ht : text ⟨s, none⟩ = s.text := List.append_nil _
      rw [isStepped, ht, List.splitOn_eq_singleton hspan]
      exact hs
    | some k =>
      have hk := hi.2 k rfl
      have ht : text ⟨s, some k⟩ = s.text ++ '/' :: k := rfl
      rw [isStepped, ht, splitOn_pair hspan (digit_free hk hslash)]
      simp [hs, hk]

end Item

lemma splitOn_fieldText {items : List Item} (hne : items ≠ []) (hi : ∀ i ∈ items, i.Digits) :
    (fieldText items).splitOn ',' = items.map Item.text := by
  apply List.splitOn_intercalate
  · intro l hl
    obtain ⟨i, hmem, rfl⟩ := List.mem_map.mp hl
    exact Item.text_comma (hi i hmem)
  · simpa using hne

lemma itemsOf_fieldText {items : List Item} (hne : items ≠ []) (hi : ∀ i ∈ items, i.Digits) :
    itemsOf (fieldText items) = items := by
  rw [itemsOf, splitOn_fieldText hne hi, List.map_map]
  refine (List.map_congr_left fun i hmem => ?_).trans (List.map_id items)
  exact Item.read_text (hi i hmem)

theorem isField_iff {l : List Char} : isField l = true ↔
    ∃ head items, head.Digits ∧ (∀ i ∈ items, i.span ≠ .any ∧ i.Digits) ∧
      l = fieldText (head :: items) := by
  have hhead : ∀ a, (decide (a = ['*']) || isSpan a) = true ↔
      ∃ s : Span, True ∧ s.Digits ∧ a = s.text := by
    intro a
    rw [Bool.or_eq_true, decide_eq_true_eq, Span.isSpan_iff]
    constructor
    · rintro (rfl | ⟨s, -, hs, rfl⟩)
      · exact ⟨.any, trivial, by simp [Span.Digits, Span.numbers], rfl⟩
      · exact ⟨s, trivial, hs, rfl⟩
    · rintro ⟨s, -, hs, rfl⟩
      by_cases ha : s = .any
      · exact Or.inl (by rw [ha]; rfl)
      · exact Or.inr ⟨s, ha, hs, rfl⟩
  constructor
  · intro h
    have hl : [','].intercalate (l.splitOn ',') = l := List.intercalate_splitOn ','
    rw [isField] at h
    split at h
    · next a rest hsplit =>
      rw [Bool.and_eq_true, List.all_eq_true] at h
      obtain ⟨head, -, hd, rfl⟩ := (Item.isStepped_iff hhead).mp h.1
      have hrest : ∀ b ∈ rest, (Item.read b).span ≠ .any ∧ (Item.read b).Digits ∧ (Item.read b).text = b := by
        intro b hb
        obtain ⟨i, hi, hdi, rfl⟩ := (Item.isStepped_iff fun a => Span.isSpan_iff).mp (h.2 b hb)
        rw [Item.read_text hdi]
        exact ⟨hi, hdi, rfl⟩
      refine ⟨head, rest.map Item.read, hd, ?_, ?_⟩
      · intro i hi
        obtain ⟨b, hb, rfl⟩ := List.mem_map.mp hi
        exact ⟨(hrest b hb).1, (hrest b hb).2.1⟩
      · have hm : (rest.map Item.read).map Item.text = rest := by
          rw [List.map_map]
          exact (List.map_congr_left fun b hb => (hrest b hb).2.2).trans (List.map_id rest)
        rw [fieldText, List.map_cons, hm, ← hsplit, hl]
    · cases h
  · rintro ⟨head, items, hd, hi, rfl⟩
    have hall : ∀ i ∈ head :: items, i.Digits := by
      intro i hmem
      rcases List.mem_cons.mp hmem with rfl | hmem
      · exact hd
      · exact (hi i hmem).2
    rw [isField, splitOn_fieldText (List.cons_ne_nil _ _) hall, List.map_cons]
    dsimp only
    rw [Bool.and_eq_true, List.all_eq_true]
    refine ⟨(Item.isStepped_iff hhead).mpr ⟨head, trivial, hd, rfl⟩, ?_⟩
    intro b hb
    obtain ⟨i, hmem, rfl⟩ := List.mem_map.mp hb
    exact (Item.isStepped_iff fun a => Span.isSpan_iff).mpr ⟨i, (hi i hmem).1, (hi i hmem).2, rfl⟩

lemma itemsOf_field {l : List Char} (h : isField l = true) :
    itemsOf l ≠ [] ∧ (∀ i ∈ itemsOf l, i.Digits) ∧ l = fieldText (itemsOf l) := by
  obtain ⟨head, items, hd, hi, rfl⟩ := isField_iff.mp h
  have hne : head :: items ≠ [] := List.cons_ne_nil _ _
  have hall : ∀ i ∈ head :: items, i.Digits := by
    intro i hmem
    rcases List.mem_cons.mp hmem with rfl | hmem
    · exact hd
    · exact (hi i hmem).2
  rw [itemsOf_fieldText hne hall]
  exact ⟨hne, hall, rfl⟩

lemma validate_inv {cron : String} (h : validateCronExpression cron = true) :
    (words cron).length = 5 ∧ ∀ w ∈ words cron, isField w = true := by
  rw [validateCronExpression, Bool.and_eq_true, Bool.and_eq_true, decide_eq_true_eq, List.all_eq_true] at h
  exact ⟨of_decide_eq_true h.1.2, h.2⟩

def SoundField (bounds : ℕ × ℕ) (field : List Char) : Prop :=
  ∃ items, items ≠ [] ∧ (∀ i ∈ items, i.Digits ∧ i.Within bounds) ∧ field = fieldText items

def Sound (cron : String) : Prop := List.Forall₂ SoundField fieldBounds (words cron)

def InBounds (cron : String) : Prop :=
  ∀ p ∈ fieldBounds.zip (words cron), ∀ i ∈ itemsOf p.2, i.Within p.1

instance (cron : String) : Decidable (InBounds cron) := inferInstanceAs (Decidable (∀ p ∈ _, _))

lemma soundField_iff {bounds : ℕ × ℕ} {field : List Char} (h : isField field = true) :
    SoundField bounds field ↔ ∀ i ∈ itemsOf field, i.Within bounds := by
  obtain ⟨hne, hd, htext⟩ := itemsOf_field h
  constructor
  · rintro ⟨items, hne', hi, rfl⟩
    rw [itemsOf_fieldText hne' fun i hmem => (hi i hmem).1]
    exact fun i hmem => (hi i hmem).2
  · intro hw
    exact ⟨itemsOf field, hne, fun i hmem => ⟨hd i hmem, hw i hmem⟩, htext⟩

theorem sound_iff_inBounds {cron : String} (h : validateCronExpression cron = true) :
    Sound cron ↔ InBounds cron := by
  obtain ⟨hlen, hfields⟩ := validate_inv h
  have hlen' : fieldBounds.length = (words cron).length := hlen.symm
  rw [Sound, List.forall₂_iff_zip, InBounds]
  constructor
  · rintro ⟨-, hz⟩ ⟨b, w⟩ hp
    exact (soundField_iff (hfields w (List.of_mem_zip hp).2)).mp (hz hp)
  · intro hw
    refine ⟨hlen', fun {b w} hp => ?_⟩
    exact (soundField_iff (hfields w (List.of_mem_zip hp).2)).mpr (hw (b, w) hp)

theorem nightly_sound : Sound "0 2 * * 1-5" := (sound_iff_inBounds (by decide)).mpr (by decide)

theorem far_minute_accepted : ¬ ∀ cron, validateCronExpression cron = true → Sound cron := by
  intro h
  have hv : validateCronExpression "61 25 32 13 */0" = true := by decide
  exact absurd ((sound_iff_inBounds hv).mp (h _ hv)) (by decide)

end NotebookExecution.Jobs.Cron
