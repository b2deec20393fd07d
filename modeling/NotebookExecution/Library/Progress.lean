import NotebookExecution.Library.Runs

/-! What a system can still be brought to by actions of one kind. -/

namespace NotebookExecution.Library.Progress

open Runs

variable {σ α ι : Type} {step : σ → α → Option σ} {only : α → Bool} {s t u : σ} {a : α}

def Leads (step : σ → α → Option σ) (only : α → Bool) (s t : σ) : Prop :=
  ∃ as, exec step s as = some t ∧ ∀ a ∈ as, only a = true

lemma Leads.refl (s : σ) : Leads step only s s := ⟨[], rfl, fun _ h => by cases h⟩

lemma Leads.trans (h : Leads step only s t) (h' : Leads step only t u) : Leads step only s u := by
  obtain ⟨as, has, ha⟩ := h
  obtain ⟨bs, hbs, hb⟩ := h'
  refine ⟨as ++ bs, (exec_append has).trans hbs, fun a hab => ?_⟩
  rcases List.mem_append.mp hab with h | h
  · exact ha a h
  · exact hb a h

lemma Leads.single (h : step s a = some t) (ha : only a = true) : Leads step only s t := by
  refine ⟨[a], exec_cons h, fun b hb => ?_⟩
  rw [List.mem_singleton.mp hb]
  exact ha

lemma Leads.keeps {I : σ → Prop} (keep : ∀ s a t, only a = true → I s → step s a = some t → I t) (hs : I s)
    (h : Leads step only s t) : I t := by
  obtain ⟨as, has, ha⟩ := h
  induction as generalizing s with
  | nil =>
    obtain rfl : s = t := Option.some_inj.mp has
    exact hs
  | cons a as ih =>
    cases hstep : step s a with
    | none => simp [exec, hstep] at has
    | some u =>
      rw [exec_cons hstep] at has
      exact ih (keep s a u (ha a List.mem_cons_self) hs hstep) has fun b hb => ha b (List.mem_cons_of_mem a hb)

theorem leads_to_all {I : σ → Prop} {Done : ι → σ → Prop}
    (keep : ∀ s a t, only a = true → I s → step s a = some t → I t)
    (lasts : ∀ i s a t, only a = true → I s → Done i s → step s a = some t → Done i t)
    (each : ∀ i s, I s → ∃ t, Leads step only s t ∧ Done i t) (l : List ι) (hs : I s) :
    ∃ t, Leads step only s t ∧ ∀ i ∈ l, Done i t := by
  induction l with
  | nil => exact ⟨s, .refl s, fun i hi => by cases hi⟩
  | cons i l ih =>
    obtain ⟨t, hst, hl⟩ := ih
    have ht : I t := hst.keeps keep hs
    obtain ⟨u, htu, hi⟩ := each i t ht
    refine ⟨u, hst.trans htu, fun j hj => ?_⟩
    rcases List.mem_cons.mp hj with rfl | hj
    · exact hi
    · have hboth : I u ∧ Done j u := by
        refine htu.keeps (I := fun v => I v ∧ Done j v) (fun v a w ha hv hstep => ?_) ⟨ht, hl j hj⟩
        exact ⟨keep v a w ha hv.1 hstep, lasts j v a w ha hv.1 hv.2 hstep⟩
      exact hboth.2

end NotebookExecution.Library.Progress
