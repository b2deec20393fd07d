import Mathlib.Tactic

/-! A channel to a server that answers its requests in order. `sent` lists the requests handed in
so far and `taken` counts the answers taken out; the answers waiting to be taken and the requests
waiting for an answer are what lies between. -/

namespace NotebookExecution.Library.Channel

variable {κ : Type} {sent answered pending new : List κ} {taken : ℕ} {k : κ}

structure InOrder (sent : List κ) (taken : ℕ) (answered : List κ) : Prop where
  bound : taken ≤ sent.length
  order : answered <+: sent.drop taken

structure Complete (sent : List κ) (taken : ℕ) (answered pending : List κ) : Prop where
  bound : taken ≤ sent.length
  order : sent.drop taken = answered ++ pending

lemma InOrder.empty : InOrder ([] : List κ) 0 [] := ⟨le_rfl, List.nil_prefix⟩

lemma Complete.empty : Complete ([] : List κ) 0 [] [] := ⟨le_rfl, rfl⟩

lemma Complete.inOrder (h : Complete sent taken answered pending) : InOrder sent taken answered :=
  ⟨h.bound, pending, h.order.symm⟩

lemma InOrder.send (h : InOrder sent taken answered) : InOrder (sent ++ new) taken answered := by
  refine ⟨?_, ?_⟩
  · have hb := h.bound
    rw [List.length_append]
    omega
  · rw [List.drop_append_of_le_length h.bound]
    exact h.order.trans (List.prefix_append _ _)

lemma Complete.send (h : Complete sent taken answered pending) :
    Complete (sent ++ new) taken answered (pending ++ new) := by
  refine ⟨?_, ?_⟩
  · have hb := h.bound
    rw [List.length_append]
    omega
  · rw [List.drop_append_of_le_length h.bound, h.order, List.append_assoc]

lemma Complete.answer (h : Complete sent taken answered (k :: pending)) :
    Complete sent taken (answered ++ [k]) pending :=
  ⟨h.bound, by rw [h.order, List.append_assoc, List.singleton_append]⟩

lemma InOrder.bound_lt (h : InOrder sent taken (k :: answered)) : taken < sent.length := by
  have hl := h.order.length_le
  simp only [List.length_cons, List.length_drop] at hl
  omega

lemma drop_cons (h : InOrder sent taken (k :: answered)) :
    sent.drop taken = k :: sent.drop (taken + 1) := by
  have hd := List.drop_eq_getElem_cons h.bound_lt
  have ho := h.order
  rw [hd, List.cons_prefix_cons] at ho
  rw [hd, ← ho.1]

theorem InOrder.head (h : InOrder sent taken (k :: answered)) : sent[taken]? = some k := by
  have hd := congrArg List.head? (drop_cons h)
  rwa [List.head?_drop, List.head?_cons] at hd

lemma InOrder.take (h : InOrder sent taken (k :: answered)) : InOrder sent (taken + 1) answered := by
  refine ⟨h.bound_lt, ?_⟩
  have ho := h.order
  rw [drop_cons h, List.cons_prefix_cons] at ho
  exact ho.2

lemma Complete.take (h : Complete sent taken (k :: answered) pending) :
    Complete sent (taken + 1) answered pending := by
  refine ⟨h.inOrder.bound_lt, ?_⟩
  have ho := h.order
  rw [drop_cons h.inOrder, List.cons_append, List.cons.injEq] at ho
  exact ho.2

end NotebookExecution.Library.Channel
