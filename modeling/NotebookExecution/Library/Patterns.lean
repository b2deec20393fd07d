import Mathlib.Computability.Language
import Mathlib.Tactic

/-! Patterns of texts as the languages of what they match in full: character classes, sequences, options,
repetitions, and lists between separators. -/

namespace NotebookExecution.Library.Patterns

open scoped Computability

variable {α : Type} {p : α → Bool} {L : Language α} {a : α} {l w : List α}

/-- `[…]` -/
def oneOf (p : α → Bool) : Language α := {l | ∃ c, p c = true ∧ l = [c]}

def exactly (w : List α) : Language α := {w}

/-- `L?` -/
def atMostOne (L : Language α) : Language α := 1 + L

/-- `L+` -/
def repeated (L : Language α) : Language α := L * L∗

/-- `L(aL)*` -/
def listed (a : α) (L : Language α) : Language α := L * (exactly [a] * L)∗

lemma mem_exactly : l ∈ exactly w ↔ l = w := Iff.rfl

lemma mem_atMostOne : l ∈ atMostOne L ↔ l = [] ∨ l ∈ L := by
  rw [atMostOne, Language.mem_add, Language.mem_one]

lemma mem_star_oneOf : l ∈ (oneOf p)∗ ↔ ∀ c ∈ l, p c = true := by
  constructor
  · intro h
    obtain ⟨ws, rfl, hws⟩ := Language.mem_kstar.mp h
    intro c hc
    obtain ⟨w, hw, hcw⟩ := List.mem_flatten.mp hc
    obtain ⟨d, hd, rfl⟩ := hws w hw
    rw [List.mem_singleton.mp hcw]
    exact hd
  · intro h
    have hl : l = (l.map fun c => [c]).flatten := by
      rw [← List.flatMap_def, List.flatMap_singleton']
    rw [hl]
    apply Language.join_mem_kstar
    intro w hw
    obtain ⟨c, hc, rfl⟩ := List.mem_map.mp hw
    exact ⟨c, h c hc, rfl⟩

lemma mem_repeated_oneOf : l ∈ repeated (oneOf p) ↔ l ≠ [] ∧ ∀ c ∈ l, p c = true := by
  rw [repeated, Language.mem_mul]
  constructor
  · rintro ⟨_, ⟨c, hc, rfl⟩, b, hb, rfl⟩
    refine ⟨List.cons_ne_nil c b, ?_⟩
    rw [List.singleton_append, List.forall_mem_cons]
    exact ⟨hc, mem_star_oneOf.mp hb⟩
  · rintro ⟨hne, h⟩
    cases l with
    | nil => exact absurd rfl hne
    | cons c l =>
      rw [List.forall_mem_cons] at h
      exact ⟨[c], ⟨c, h.1, rfl⟩, l, mem_star_oneOf.mpr h.2, rfl⟩

lemma star_slide (K N : Language α) : (K * N)∗ * K = K * (N * K)∗ := by
  apply le_antisymm
  · apply kstar_mul_le
    · exact le_mul_of_one_le_right' one_le_kstar
    · rw [mul_assoc, ← mul_assoc N]
      exact mul_le_mul_right mul_kstar_le_kstar K
  · apply mul_kstar_le
    · exact le_mul_of_one_le_left' one_le_kstar
    · rw [mul_assoc, ← mul_assoc K, ← mul_assoc]
      exact mul_le_mul_left kstar_mul_le_kstar K

lemma mem_star_headed : l ∈ (exactly [a] * L)∗ ↔
    ∃ ws : List (List α), (∀ w ∈ ws, w ∈ L) ∧ l = (ws.map fun w => a :: w).flatten := by
  rw [Language.mem_kstar]
  constructor
  · rintro ⟨vs, rfl, hvs⟩
    induction vs with
    | nil => exact ⟨[], fun w hw => (List.not_mem_nil hw).elim, rfl⟩
    | cons v vs ih =>
      rw [List.forall_mem_cons] at hvs
      obtain ⟨ws, hws, hl⟩ := ih hvs.2
      obtain ⟨_, rfl, w, hw, rfl⟩ := Language.mem_mul.mp hvs.1
      refine ⟨w :: ws, List.forall_mem_cons.mpr ⟨hw, hws⟩, ?_⟩
      rw [List.flatten_cons, hl, List.map_cons, List.flatten_cons, List.singleton_append]
  · rintro ⟨ws, hws, rfl⟩
    refine ⟨_, rfl, fun v hv => ?_⟩
    obtain ⟨w, hw, rfl⟩ := List.mem_map.mp hv
    exact Language.mem_mul.mpr ⟨[a], rfl, w, hws w hw, rfl⟩

lemma intercalate_headed (w : List α) (ws : List (List α)) :
    [a].intercalate (w :: ws) = w ++ (ws.map fun w => a :: w).flatten := by
  induction ws generalizing w with
  | nil => simp
  | cons v ws ih =>
    rw [List.intercalate_cons_cons, ih, List.map_cons, List.flatten_cons]
    simp

lemma mem_listed : l ∈ listed a L ↔ ∃ ws, ws ≠ [] ∧ (∀ w ∈ ws, w ∈ L) ∧ l = [a].intercalate ws := by
  rw [listed, Language.mem_mul]
  constructor
  · rintro ⟨w, hw, b, hb, rfl⟩
    obtain ⟨ws, hws, rfl⟩ := mem_star_headed.mp hb
    exact ⟨w :: ws, List.cons_ne_nil w ws, List.forall_mem_cons.mpr ⟨hw, hws⟩, (intercalate_headed w ws).symm⟩
  · rintro ⟨ws, hne, hws, rfl⟩
    cases ws with
    | nil => exact absurd rfl hne
    | cons w ws =>
      rw [List.forall_mem_cons] at hws
      rw [intercalate_headed]
      exact ⟨w, hws.1, _, mem_star_headed.mpr ⟨ws, hws.2, rfl⟩, rfl⟩

lemma forall_mem_intercalate {q : α → Prop} {ws : List (List α)} (ha : q a) :
    (∀ c ∈ [a].intercalate ws, q c) ↔ ∀ w ∈ ws, ∀ c ∈ w, q c := by
  cases ws with
  | nil => exact iff_of_true (fun c hc => (List.not_mem_nil hc).elim) fun w hw => (List.not_mem_nil hw).elim
  | cons w ws =>
    rw [intercalate_headed, List.forall_mem_append, List.forall_mem_flatten, List.forall_mem_map,
      List.forall_mem_cons]
    refine and_congr_right fun _ => forall₂_congr fun v _ => ?_
    rw [List.forall_mem_cons]
    exact and_iff_right ha

lemma listed_restrict {K : Language α} {q : α → Prop} (ha : q a) (h : ∀ w, w ∈ K ↔ w ∈ L ∧ ∀ c ∈ w, q c) :
    l ∈ listed a K ↔ l ∈ listed a L ∧ ∀ c ∈ l, q c := by
  rw [mem_listed, mem_listed]
  constructor
  · rintro ⟨ws, hne, hws, rfl⟩
    refine ⟨⟨ws, hne, fun w hw => ((h w).mp (hws w hw)).1, rfl⟩, ?_⟩
    exact (forall_mem_intercalate ha).mpr fun w hw => ((h w).mp (hws w hw)).2
  · rintro ⟨⟨ws, hne, hws, rfl⟩, hq⟩
    rw [forall_mem_intercalate ha] at hq
    exact ⟨ws, hne, fun w hw => (h w).mpr ⟨hws w hw, hq w hw⟩, rfl⟩

lemma splitOn_listed [DecidableEq α] (h : ∀ w ∈ L, a ∉ w) : (∀ w ∈ l.splitOn a, w ∈ L) ↔ l ∈ listed a L := by
  rw [mem_listed]
  constructor
  · intro hl
    exact ⟨l.splitOn a, List.splitOn_ne_nil a l, hl, (List.intercalate_splitOn a).symm⟩
  · rintro ⟨ws, hne, hws, rfl⟩
    have hs : ([a].intercalate ws).splitOn a = ws := List.splitOn_intercalate a (fun w hw => h w (hws w hw)) hne
    rw [hs]
    exact hws

end NotebookExecution.Library.Patterns
