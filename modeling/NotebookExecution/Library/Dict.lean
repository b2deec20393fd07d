import Mathlib.Tactic

/-! Dictionaries that keep the order in which their keys came; a key that is set again keeps its place. -/

namespace NotebookExecution.Library

variable {κ β : Type} [DecidableEq κ]

def setItem (k : κ) (v : β) : List (κ × β) → List (κ × β)
  | [] => [(k, v)]
  | x :: l => if x.1 = k then (k, v) :: l else x :: setItem k v l

lemma keys_setItem (k : κ) (v : β) (l : List (κ × β)) :
    (setItem k v l).map Prod.fst = l.map Prod.fst ∨
      k ∉ l.map Prod.fst ∧ (setItem k v l).map Prod.fst = l.map Prod.fst ++ [k] := by
  induction l with
  | nil => exact Or.inr ⟨List.not_mem_nil, rfl⟩
  | cons x l ih =>
    by_cases hx : x.1 = k
    · left
      rw [setItem, if_pos hx, List.map_cons, List.map_cons, hx]
    · rw [setItem, if_neg hx, List.map_cons, List.map_cons]
      rcases ih with h | ⟨hk, h⟩
      · exact Or.inl (by rw [h])
      · refine Or.inr ⟨?_, by rw [h, List.cons_append]⟩
        rw [List.mem_cons, not_or]
        exact ⟨fun he => hx he.symm, hk⟩

lemma nodup_setItem {l : List (κ × β)} (h : (l.map Prod.fst).Nodup) (k : κ) (v : β) :
    ((setItem k v l).map Prod.fst).Nodup := by
  rcases keys_setItem k v l with hk | ⟨hk, he⟩
  · rwa [hk]
  · rw [he, ← List.concat_eq_append]
    exact h.concat hk

structure Dict (κ β : Type) where
  items : List (κ × β)
  nodup : (items.map Prod.fst).Nodup

namespace Dict

variable {d : Dict κ β} {k j : κ} {v w : β}

def empty : Dict κ β := ⟨[], .nil⟩

def get? (k : κ) (d : Dict κ β) : Option β := d.items.lookup k

def set (k : κ) (v : β) (d : Dict κ β) : Dict κ β := ⟨setItem k v d.items, nodup_setItem d.nodup k v⟩

def values (d : Dict κ β) : List β := d.items.map Prod.snd

@[simp] lemma get?_set_self : (d.set k v).get? k = some v := by
  have h : ∀ l : List (κ × β), (setItem k v l).lookup k = some v := by
    intro l
    induction l with
    | nil => simp [setItem]
    | cons x l ih =>
      by_cases hx : x.1 = k
      · simp [setItem, hx]
      · have hb : (k == x.1) = false := by simpa using fun he : k = x.1 => hx he.symm
        rw [setItem, if_neg hx, List.lookup_cons, hb]
        exact ih
  exact h d.items

lemma get?_set_other (hj : j ≠ k) : (d.set k v).get? j = d.get? j := by
  have h : ∀ l : List (κ × β), (setItem k v l).lookup j = l.lookup j := by
    intro l
    induction l with
    | nil => simp [setItem, hj]
    | cons x l ih =>
      by_cases hx : x.1 = k
      · have hb : (j == k) = false := by simpa using hj
        rw [setItem, if_pos hx, List.lookup_cons, List.lookup_cons, hx, hb]
      · rw [setItem, if_neg hx, List.lookup_cons, List.lookup_cons, ih]
  exact h d.items

lemma get?_set : (d.set k v).get? j = if j = k then some v else d.get? j := by
  by_cases hj : j = k
  · rw [if_pos hj, hj, get?_set_self]
  · rw [if_neg hj, get?_set_other hj]

lemma mem_items : (k, v) ∈ d.items ↔ d.get? k = some v := by
  rw [get?, List.lookup_eq_some_iff]
  constructor
  · intro h
    obtain ⟨l₁, l₂, hl⟩ := List.append_of_mem h
    refine ⟨l₁, l₂, hl, fun p hp => ?_⟩
    have hn := d.nodup
    rw [hl, List.map_append, List.map_cons, List.nodup_append] at hn
    simpa using (hn.2.2 p.1 (List.mem_map_of_mem hp) k List.mem_cons_self).symm
  · rintro ⟨l₁, l₂, hl, -⟩
    rw [hl]
    exact List.mem_append_right l₁ List.mem_cons_self

lemma mem_values : v ∈ d.values ↔ ∃ k, d.get? k = some v := by
  rw [values, List.mem_map]
  constructor
  · rintro ⟨⟨k, w⟩, hp, rfl⟩
    exact ⟨k, mem_items.mp hp⟩
  · rintro ⟨k, hk⟩
    exact ⟨(k, v), mem_items.mpr hk, rfl⟩

end Dict

end NotebookExecution.Library
