import NotebookExecution.Library.Capitals
import Mathlib.Data.List.DropRight
import Mathlib.Tactic

/-! What is used of Python's `str`. Small letters cover the characters whose image is ASCII; every
other character is left alone: no comparison with an ASCII word can tell the difference. -/

namespace NotebookExecution.Library.Text

def lowerChar (c : Char) : List Char :=
  if c = '\u212a' then ['k'] else [c.toLower]

def lower (s : String) : String := String.ofList (s.toList.flatMap lowerChar)

example : lower "PyThon" = "python" := by decide

def isSpace (c : Char) : Bool :=
  [0x9, 0xa, 0xb, 0xc, 0xd, 0x1c, 0x1d, 0x1e, 0x1f, 0x20, 0x85, 0xa0, 0x1680, 0x2028, 0x2029, 0x202f,
    0x205f, 0x3000].contains c.toNat || decide (0x2000 ≤ c.toNat ∧ c.toNat ≤ 0x200a)

def words (s : String) : List (List Char) :=
  -- `str.split()`: the maximal runs of characters that are no white space.
  (s.toList.splitOnP isSpace).filter fun w => !w.isEmpty

def strip (s : String) : String :=
  String.ofList ((s.toList.dropWhile isSpace).reverse.dropWhile isSpace).reverse

def isDigit (c : Char) : Bool := decide ('0' ≤ c ∧ c ≤ '9')

def isAlphanumeric (c : Char) : Bool :=
  isDigit c || decide ('a' ≤ c ∧ c ≤ 'z') || decide ('A' ≤ c ∧ c ≤ 'Z')

def isNumber (l : List Char) : Bool := !l.isEmpty && l.all isDigit

/-- `int` on a word of ASCII characters without sign, underscore or white space; it gives up on
more than 4300 digits. -/
def int (l : List Char) : Option ℕ :=
  if isNumber l && decide (l.length ≤ 4300) then
    some (l.foldl (fun n c => 10 * n + (c.toNat - 48)) 0)
  else none

example : words " 0  2 * * *\n" = [['0'], ['2'], ['*'], ['*'], ['*']] := by decide
example : int ['1', '5'] = some 15 := by decide

lemma strip_toList (s : String) :
    (strip s).toList = (s.toList.dropWhile isSpace).rdropWhile isSpace := by
  rw [strip, String.toList_ofList, List.rdropWhile]

def Stripped (s : String) : Prop :=
  (∀ c ∈ s.toList.head?, isSpace c = false) ∧ ∀ c ∈ s.toList.getLast?, isSpace c = false

lemma stripped_strip (s : String) : Stripped (strip s) := by
  rw [Stripped, strip_toList]
  constructor
  · intro c hc
    have hp : (s.toList.dropWhile isSpace).rdropWhile isSpace <+: s.toList.dropWhile isSpace :=
      List.rdropWhile_prefix isSpace _
    have hd : (s.toList.dropWhile isSpace).head? = some c :=
      List.singleton_prefix_iff_head?_eq_some.mp
        ((List.singleton_prefix_iff_head?_eq_some.mpr hc).trans hp)
    have hn := List.head?_dropWhile_not isSpace s.toList
    rw [hd] at hn
    exact hn
  · intro c hc
    have hne : (s.toList.dropWhile isSpace).rdropWhile isSpace ≠ [] := by
      intro h
      rw [h] at hc
      cases hc
    have hl := List.rdropWhile_last_not isSpace _ hne
    have hg := List.getLast?_eq_some_getLast hne
    rw [Option.mem_def, hg] at hc
    cases hc
    simpa using hl

lemma Stripped.strip_eq {s : String} (h : Stripped s) : strip s = s := by
  have hd : s.toList.dropWhile isSpace = s.toList := by
    cases hl : s.toList with
    | nil => rfl
    | cons c l =>
      have hc : isSpace c = false := h.1 c (by rw [hl]; rfl)
      rw [List.dropWhile_cons_of_neg (by simp [hc])]
  have hr : s.toList.rdropWhile isSpace = s.toList := by
    rw [List.rdropWhile_eq_self_iff]
    intro hne
    have hc := h.2 _ (List.getLast?_eq_some_getLast hne)
    simp [hc]
  rw [← String.toList_inj, strip_toList, hd, hr]

lemma strip_strip (s : String) : strip (strip s) = strip s := (stripped_strip s).strip_eq

lemma mem_strip {s : String} {c : Char} (hc : isSpace c = false) (h : c ∈ s.toList) : c ∈ (strip s).toList := by
  rw [← List.takeWhile_append_dropWhile (p := isSpace) (l := s.toList)] at h
  have hd : c ∈ s.toList.dropWhile isSpace := by
    refine (List.mem_append.mp h).resolve_left fun ht => ?_
    rw [List.mem_takeWhile_imp ht] at hc
    cases hc
  rw [← List.rdropWhile_append_rtakeWhile (p := isSpace) (l := s.toList.dropWhile isSpace)] at hd
  rw [strip_toList]
  refine (List.mem_append.mp hd).resolve_right fun ht => ?_
  rw [List.mem_rtakeWhile_imp ht] at hc
  cases hc

def before (sep : List Char) : List Char → List Char
  | [] => []
  | c :: l => if sep.isPrefixOf (c :: l) then [] else c :: before sep l

section

variable {sep p q l : List Char} {c : Char}

lemma before_begins (sep l : List Char) : before sep l <+: l := by
  induction l with
  | nil => exact List.prefix_refl []
  | cons c l ih =>
    rw [before]
    split
    · exact List.nil_prefix
    · exact List.cons_prefix_cons.mpr ⟨rfl, ih⟩

lemma before_append (h : c ∉ p) : before (c :: sep) (p ++ q) = p ++ before (c :: sep) q := by
  induction p with
  | nil => rfl
  | cons d p ih =>
    rw [List.mem_cons, not_or] at h
    have hd : (c :: sep).isPrefixOf (d :: (p ++ q)) = false := by
      simp [List.isPrefixOf, h.1]
    rw [List.cons_append, before, hd, ih h.2]
    rfl

lemma before_self : before (c :: sep) (c :: sep ++ l) = [] := by
  have hp : (c :: sep).isPrefixOf (c :: (sep ++ l)) = true :=
    List.isPrefixOf_iff_prefix.mpr (List.prefix_append (c :: sep) l)
  rw [List.cons_append, before, if_pos hp]

lemma not_mem_before (c : Char) (l : List Char) : c ∉ before [c] l := by
  induction l with
  | nil => exact List.not_mem_nil
  | cons d l ih =>
    rw [before]
    split
    · exact List.not_mem_nil
    · next hd =>
      have hne : c ≠ d := by
        rintro rfl
        exact hd (by simp [List.isPrefixOf])
      rw [List.mem_cons, not_or]
      exact ⟨hne, ih⟩

end

def lowered (c : Char) : Char := if c = '\u212a' then 'k' else c.toLower

lemma lower_toList (s : String) : (lower s).toList = s.toList.map lowered := by
  have hc : lowerChar = fun c => [lowered c] := by
    funext c
    rw [lowerChar, lowered]
    split <;> rfl
  rw [lower, String.toList_ofList, hc, List.map_eq_flatMap]

lemma toLower_cases (c : Char) :
    c.toLower = c ∨ 0x41 ≤ c.toNat ∧ c.toNat ≤ 0x5a ∧ c.toLower.toNat = c.toNat + 32 := by
  by_cases h : c.val ≥ 'A'.val ∧ c.val ≤ 'Z'.val
  · apply Or.inr
    have ha : 0x41 ≤ c.toNat := UInt32.le_iff_toNat_le.mp h.1
    have hz : c.toNat ≤ 0x5a := UInt32.le_iff_toNat_le.mp h.2
    refine ⟨ha, hz, ?_⟩
    have hl : c.toLower.val = c.val + 32 := congrArg Char.val (dif_pos h)
    change c.toLower.val.toNat = c.val.toNat + 32
    rw [hl, UInt32.toNat_add]
    exact Nat.mod_eq_of_lt (by change c.toNat + 32 < _; omega)
  · exact Or.inl (dif_neg h)

lemma isSpace_printed {c : Char} (ha : 0x21 ≤ c.toNat) (hz : c.toNat ≤ 0x7e) : isSpace c = false := by
  have hm : c.toNat ∉ [0x9, 0xa, 0xb, 0xc, 0xd, 0x1c, 0x1d, 0x1e, 0x1f, 0x20, 0x85, 0xa0, 0x1680, 0x2028,
      0x2029, 0x202f, 0x205f, 0x3000] := by simp; omega
  rw [isSpace, List.contains_eq_mem, decide_eq_false hm, decide_eq_false (by omega)]
  rfl

lemma lowered_cases (c : Char) :
    lowered c = c ∨ 0x61 ≤ (lowered c).toNat ∧ (lowered c).toNat ≤ 0x7a ∧ isSpace c = false := by
  by_cases hk : c = '\u212a'
  · rw [hk]
    exact Or.inr (by decide)
  rw [lowered, if_neg hk]
  rcases toLower_cases c with h | ⟨ha, hz, h⟩
  · exact Or.inl h
  · exact Or.inr ⟨by omega, by omega, isSpace_printed (by omega) (by omega)⟩

lemma lowered_small {c : Char} (hz : c.toNat ≤ 0x7a) (ha : 0x61 ≤ c.toNat) : lowered c = c := by
  have hk : c ≠ '\u212a' := by
    rintro rfl
    exact absurd hz (by decide)
  rw [lowered, if_neg hk]
  rcases toLower_cases c with h | ⟨-, hz', -⟩
  · exact h
  · omega

lemma lowered_lowered (c : Char) : lowered (lowered c) = lowered c := by
  rcases lowered_cases c with h | ⟨ha, hz, -⟩
  · rw [h, h]
  · exact lowered_small hz ha

lemma isSpace_lowered (c : Char) : isSpace (lowered c) = isSpace c := by
  rcases lowered_cases c with h | ⟨ha, hz, hs⟩
  · rw [h]
  · rw [hs, isSpace_printed (by omega) (by omega)]

lemma lower_lower (s : String) : lower (lower s) = lower s := by
  rw [← String.toList_inj, lower_toList, lower_toList, List.map_map]
  exact List.map_congr_left fun c _ => lowered_lowered c

lemma strip_lower (s : String) : strip (lower s) = lower (strip s) := by
  have hp : isSpace ∘ lowered = isSpace := funext isSpace_lowered
  rw [← String.toList_inj, strip_toList, lower_toList, lower_toList, strip_toList, List.dropWhile_map, hp,
    List.rdropWhile, ← List.map_reverse, List.dropWhile_map, hp, ← List.map_reverse]
  rfl

end NotebookExecution.Library.Text
