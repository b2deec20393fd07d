import Mathlib.Tactic

/-! The size of a text in UTF-8, against the number of its characters. -/

namespace NotebookExecution.Library.Text

def isAscii (c : Char) : Bool := decide (c.toNat < 128)

lemma isAscii_iff {c : Char} : isAscii c = true ↔ c.utf8Size = 1 := by
  rw [isAscii, decide_eq_true_eq, Char.utf8Size_eq_one_iff]
  change c.val.toNat < 128 ↔ c.val.toNat ≤ 127
  omega

def sizeOfChars (l : List Char) : ℕ := (l.map Char.utf8Size).sum

lemma utf8ByteSize_ofList (l : List Char) : (String.ofList l).utf8ByteSize = sizeOfChars l := by
  induction l with
  | nil => rfl
  | cons c l ih =>
    rw [← List.singleton_append, String.ofList_append, String.utf8ByteSize_append, ih,
      ← String.singleton_eq_ofList, String.utf8ByteSize_singleton]
    simp [sizeOfChars]

lemma length_le_size (l : List Char) : l.length ≤ sizeOfChars l := by
  induction l with
  | nil => exact Nat.zero_le _
  | cons c l ih =>
    have hc := Char.utf8Size_pos c
    simp only [sizeOfChars, List.map_cons, List.sum_cons, List.length_cons] at ih ⊢
    omega

lemma size_eq_length {l : List Char} : sizeOfChars l = l.length ↔ l.all isAscii = true := by
  induction l with
  | nil => exact iff_of_true rfl rfl
  | cons c l ih =>
    have hc := Char.utf8Size_pos c
    have hl := length_le_size l
    simp only [sizeOfChars, List.map_cons, List.sum_cons, List.length_cons, List.all_cons, Bool.and_eq_true,
      isAscii_iff] at ih hl ⊢
    rw [← ih]
    omega

lemma size_take {l : List Char} {n : ℕ} (h : n ≤ l.length) :
    sizeOfChars (l.take n) ≤ n ↔ (l.take n).all isAscii = true := by
  have hlen : (l.take n).length = n := List.length_take_of_le h
  have hsize := length_le_size (l.take n)
  rw [← size_eq_length, hlen]
  rw [hlen] at hsize
  omega

end NotebookExecution.Library.Text
