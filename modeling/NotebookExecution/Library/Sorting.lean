import Mathlib.Data.List.Sort
import Mathlib.Tactic

/-! Answers of a query that is ordered by a key: rows with equal keys may come in any order. -/

namespace NotebookExecution.Library.Sorting

variable {α β : Type} [LinearOrder β] {key : α → β} {l answer : List α}

def Answers (key : α → β) (rows answer : List α) : Prop :=
  answer.Perm rows ∧ answer.Pairwise fun x y => key x ≤ key y

lemma answers_insertionSort (key : α → β) (rows : List α) :
    Answers key rows (rows.insertionSort fun x y => key x ≤ key y) := by
  have : Std.Total fun x y : α => key x ≤ key y := ⟨fun x y => le_total _ _⟩
  have : IsTrans α fun x y => key x ≤ key y := ⟨fun x y z => le_trans⟩
  exact ⟨List.perm_insertionSort _ rows, List.pairwise_insertionSort _ rows⟩

lemma Answers.eq_of_strict (hs : l.Pairwise fun x y => key x < key y) (h : Answers key l answer) :
    answer = l := by
  have hk : (l.map key).Nodup := List.pairwise_map.mpr (hs.imp fun h => h.ne)
  have hle : l.Pairwise fun x y => key x ≤ key y := hs.imp fun h => h.le
  refine h.1.eq_of_pairwise ?_ h.2 hle
  intro x y hx hy hxy hyx
  exact List.inj_on_of_nodup_map hk (h.1.subset hx) hy (le_antisymm hxy hyx)

lemma strict_of_only (hn : l.Nodup) (h : ∀ answer, Answers key l answer → answer = l) :
    l.Pairwise fun x y => key x < key y := by
  have hl : l.Pairwise fun x y => key x ≤ key y := by
    have ha := answers_insertionSort key l
    rw [h _ ha] at ha
    exact ha.2
  induction l with
  | nil => exact .nil
  | cons x t ih =>
    rw [List.nodup_cons] at hn
    rw [List.pairwise_cons] at hl ⊢
    have ht : t.Pairwise fun x y => key x < key y := by
      refine ih hn.2 (fun answer ha => ?_) hl.2
      have hx : Answers key (x :: t) (x :: answer) :=
        ⟨ha.1.cons x, List.pairwise_cons.mpr ⟨fun y hy => hl.1 y (ha.1.subset hy), ha.2⟩⟩
      exact (List.cons.inj (h _ hx)).2
    refine ⟨fun y hy => lt_of_le_of_ne (hl.1 y hy) fun he => ?_, ht⟩
    cases t with
    | nil => cases hy
    | cons z t =>
      -- A tie is one with the head of the rest, which may then come first.
      have hz : key z ≤ key x := by
        rw [he]
        cases List.mem_cons.mp hy with
        | inl hyz => rw [hyz]
        | inr hyt => exact ((List.pairwise_cons.mp ht).1 y hyt).le
      have hswap : Answers key (x :: z :: t) (z :: x :: t) := by
        refine ⟨.swap x z t, List.pairwise_cons.mpr ⟨?_, List.pairwise_cons.mpr ⟨?_, ?_⟩⟩⟩
        · intro w hw
          cases List.mem_cons.mp hw with
          | inl hwx => rwa [hwx]
          | inr hwt => exact ((List.pairwise_cons.mp ht).1 w hwt).le
        · exact fun w hw => hl.1 w (List.mem_cons_of_mem _ hw)
        · exact (List.pairwise_cons.mp hl.2).2
      have hzx : z = x := (List.cons.inj (h _ hswap)).1
      exact hn.1 (hzx ▸ List.mem_cons_self)

theorem only_answer_iff (hn : l.Nodup) :
    (∀ answer, Answers key l answer → answer = l) ↔ l.Pairwise fun x y => key x < key y :=
  ⟨strict_of_only hn, fun hs _ ha => ha.eq_of_strict hs⟩

end NotebookExecution.Library.Sorting
