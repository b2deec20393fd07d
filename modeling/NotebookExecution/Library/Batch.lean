import NotebookExecution.Library.Table

/-! Rows that move to other slots one after another, while no two of them may hold one slot. -/

namespace NotebookExecution.Library.Batch

open Table

variable {ρ κ σ : Type} {key : ρ → κ} {move : ρ → ρ} {slot : ρ → σ} {done : List κ} {t : List ρ} {r : ρ}

section Partway

variable [DecidableEq κ]

def partway (key : ρ → κ) (move : ρ → ρ) (done : List κ) (t : List ρ) : List ρ :=
  t.map fun r => if key r ∈ done then move r else r

lemma partway_nil : partway key move [] t = t := by
  rw [partway]
  simp

lemma partway_cons {x : ρ} : partway key move done (x :: t) =
    (if key x ∈ done then move x else x) :: partway key move done t := rfl

lemma partway_filter {p : ρ → Bool} (hp : ∀ x, p (move x) = p x) :
    (partway key move done t).filter p = partway key move done (t.filter p) := by
  induction t with
  | nil => rfl
  | cons x t ih =>
    have hx : p (if key x ∈ done then move x else x) = p x := by
      split
      · exact hp x
      · rfl
    rw [partway_cons, List.filter_cons, hx, List.filter_cons, ih]
    cases p x <;> rfl

lemma partway_apart (h : ∀ x ∈ t, key x ≠ key r) :
    partway key move (done ++ [key r]) t = partway key move done t := by
  apply List.map_congr_left
  intro x hx
  have hm : key x ∈ done ++ [key r] ↔ key x ∈ done := by simp [h x hx]
  simp only [hm]

lemma lookup_partway (hn : (t.map key).Nodup) (hm : ∀ x, key (move x) = key x) (hr : r ∈ t)
    (hd : key r ∉ done) : lookup key (key r) (partway key move done t) = some r := by
  have hk : (partway key move done t).map key = t.map key := by
    rw [partway, List.map_map]
    apply List.map_congr_left
    intro x _
    by_cases hx : key x ∈ done
    · simp [hx, hm]
    · simp [hx]
  apply lookup_of_mem (hk ▸ hn)
  refine List.mem_map.mpr ⟨r, hr, if_neg hd⟩

lemma replace_partway (hn : (t.map key).Nodup) (hm : ∀ x, key (move x) = key x) (hr : r ∈ t) :
    replace key (key r) (move r) (partway key move done t) = partway key move (done ++ [key r]) t := by
  induction t with
  | nil => cases hr
  | cons x t ih =>
    rw [List.map_cons, List.nodup_cons] at hn
    have hx : key (if key x ∈ done then move x else x) = key x := by
      split
      · exact hm x
      · rfl
    rw [partway_cons, partway_cons, replace, hx]
    by_cases hxr : key x = key r
    · have he : x = r := by
        cases List.mem_cons.mp hr with
        | inl h => exact h.symm
        | inr h => exact absurd (List.mem_map.mpr ⟨r, h, hxr.symm⟩) hn.1
      have ht : ∀ y ∈ t, key y ≠ key r := fun y hy h => hn.1 (List.mem_map.mpr ⟨y, hy, h.trans hxr.symm⟩)
      rw [if_pos hxr, partway_apart ht, he]
      simp
    · have hrt : r ∈ t := (List.mem_cons.mp hr).resolve_left fun h => hxr (h ▸ rfl)
      have hd' : key x ∈ done ++ [key r] ↔ key x ∈ done := by simp [hxr]
      rw [if_neg hxr, ih hn.2 hrt]
      simp only [hd']

lemma held_iff (hn : (t.map fun x => slot (move x)).Nodup) (hm : ∀ x, key (move x) = key x) (hr : r ∈ t) :
    (∃ y ∈ partway key move done t, key y ≠ key r ∧ slot y = slot (move r)) ↔
      ∃ y ∈ t, key y ∉ done ∧ key y ≠ key r ∧ slot y = slot (move r) := by
  constructor
  · rintro ⟨y, hy, hk, hs⟩
    obtain ⟨x, hx, rfl⟩ := List.mem_map.mp hy
    by_cases hd : key x ∈ done
    · rw [if_pos hd] at hk hs
      have hxr : x = r := List.inj_on_of_nodup_map hn hx hr hs
      exact absurd (hxr ▸ hm x) hk
    · rw [if_neg hd] at hk hs
      exact ⟨x, hx, hd, hk, hs⟩
  · rintro ⟨y, hy, hd, hk, hs⟩
    exact ⟨y, List.mem_map.mpr ⟨y, hy, if_neg hd⟩, hk, hs⟩

end Partway

lemma pairwise_iff [LinearOrder κ] {l : List ρ} (hl : l.Pairwise fun x y => key x < key y) :
    (l.Pairwise fun x y => slot (move x) ≠ slot y) ↔
      ∀ x ∈ l, ∀ y ∈ l, slot (move x) = slot y → key y ≤ key x := by
  constructor
  · intro h x hx y hy hs
    have hp : ∀ x ∈ l, ∀ y ∈ l, key x < key y → slot (move x) ≠ slot y := by
      apply List.Pairwise.forall_of_forall_of_flip
      · intro x _ hlt
        exact absurd hlt (lt_irrefl _)
      · refine h.imp ?_
        intro x y hne _
        exact hne
      · exact hl.imp fun hlt hgt => absurd hgt hlt.asymm
    exact le_of_not_gt fun hlt => hp x hx y hy hlt hs
  · intro h
    refine hl.imp_of_mem ?_
    intro x y hx hy hlt hs
    exact absurd (h x hx y hy hs) hlt.not_ge

end NotebookExecution.Library.Batch
