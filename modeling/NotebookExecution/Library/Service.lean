import Mathlib.Tactic

/-! A service serves requests one after the other, each at the state that the ones before it have left. -/

namespace NotebookExecution.Library.Service

variable {σ ρ β : Type}

def run (serve : ρ → σ → β × σ) : List ρ → σ → List (ρ × β) × σ
  | [], d => ([], d)
  | r :: l, d =>
    let o := serve r d
    let rest := run serve l o.2
    ((r, o.1) :: rest.1, rest.2)

variable {serve serve' : ρ → σ → β × σ} {I : σ → Prop} {l : List ρ} {d : σ} {r : ρ}

lemma run_cons : run serve (r :: l) d =
    ((r, (serve r d).1) :: (run serve l (serve r d).2).1, (run serve l (serve r d).2).2) := rfl

lemma run_keeps (h : ∀ r d, I d → I (serve r d).2) (hd : I d) : I (run serve l d).2 := by
  induction l generalizing d with
  | nil => exact hd
  | cons r l ih => exact ih (h r d hd)

lemma run_mem {b : β} (h : (r, b) ∈ (run serve l d).1) :
    ∃ before after, l = before ++ r :: after ∧ (serve r (run serve before d).2).1 = b := by
  induction l generalizing d with
  | nil => cases h
  | cons x l ih =>
    rcases List.mem_cons.mp h with hx | hl
    · cases hx
      exact ⟨[], l, rfl, rfl⟩
    · obtain ⟨before, after, rfl, hb⟩ := ih hl
      exact ⟨x :: before, after, rfl, hb⟩

section Traces

variable (succeeds : β → Bool)

def FailsClean (I : σ → Prop) (serve : ρ → σ → β × σ) : Prop :=
  ∀ r d, I d → succeeds (serve r d).1 = true ∨ (serve r d).2 = d

def successes (serve : ρ → σ → β × σ) (l : List ρ) (d : σ) : List (ρ × β) :=
  (run serve l d).1.filter fun x => succeeds x.2

variable {succeeds}

theorem run_successes (hk : ∀ r d, I d → I (serve r d).2) (hf : FailsClean succeeds I serve) (hd : I d)
    (l : List ρ) : run serve ((successes succeeds serve l d).map Prod.fst) d =
      (successes succeeds serve l d, (run serve l d).2) := by
  induction l generalizing d with
  | nil => rfl
  | cons r l ih =>
    have hl := ih (hk r d hd)
    rw [successes, run_cons, List.filter_cons]
    cases hs : succeeds (serve r d).1 with
    | true =>
      rw [if_pos rfl, List.map_cons, run_cons]
      rw [successes] at hl
      rw [hl]
    | false =>
      have hsame : (serve r d).2 = d := (hf r d hd).resolve_left (by simp [hs])
      rw [hsame] at hl ⊢
      exact hl

end Traces

def guarded (deny : ρ → Option β) (serve : ρ → σ → β × σ) (r : ρ) (d : σ) : β × σ :=
  match deny r with
  | some b => (b, d)
  | none => serve r d

variable {deny : ρ → Option β}

lemma guarded_denied {b : β} (h : deny r = some b) : guarded deny serve r d = (b, d) := by
  rw [guarded, h]

lemma guarded_admitted (h : deny r = none) : guarded deny serve r d = serve r d := by
  rw [guarded, h]

lemma guarded_keeps (h : ∀ r d, I d → I (serve r d).2) (r : ρ) (d : σ) (hd : I d) :
    I (guarded deny serve r d).2 := by
  cases hr : deny r with
  | some b =>
    rw [guarded_denied hr]
    exact hd
  | none =>
    rw [guarded_admitted hr]
    exact h r d hd

lemma guarded_failsClean {succeeds : β → Bool} (h : FailsClean succeeds I serve) :
    FailsClean succeeds I (guarded deny serve) := by
  intro r d hd
  cases hr : deny r with
  | some b => exact Or.inr (congrArg Prod.snd (guarded_denied hr))
  | none =>
    rw [guarded_admitted hr]
    exact h r d hd

theorem guarded_run (deny : ρ → Option β) (serve : ρ → σ → β × σ) (l : List ρ) (d : σ) :
    ((run (guarded deny serve) l d).1.filter fun x => (deny x.1).isNone,
        (run (guarded deny serve) l d).2) =
      run serve (l.filter fun r => (deny r).isNone) d := by
  induction l generalizing d with
  | nil => rfl
  | cons r l ih =>
    rw [run_cons, List.filter_cons, List.filter_cons]
    cases hr : deny r with
    | some b =>
      rw [guarded_denied hr]
      exact ih d
    | none =>
      rw [guarded_admitted hr]
      simp only [Option.isNone_none, if_true]
      rw [run_cons, ← ih]

theorem guarded_answer {b b' : β} (h : (r, b) ∈ (run (guarded deny serve) l d).1) (hr : deny r = some b') :
    b = b' := by
  obtain ⟨before, after, -, hb⟩ := run_mem h
  rw [guarded_denied hr] at hb
  exact hb.symm

def Indistinct (Q : ρ → ρ → Prop) (R : σ → σ → Prop) (serve : ρ → σ → β × σ) : Prop :=
  ∀ r r' d d', Q r r' → R d d' → (serve r d).1 = (serve r' d').1 ∧ R (serve r d).2 (serve r' d').2

variable {Q : ρ → ρ → Prop} {R : σ → σ → Prop} {l' : List ρ} {d' : σ}

lemma guarded_indistinct (h : Indistinct Q R serve) (hq : ∀ r r', Q r r' → deny r = deny r') :
    Indistinct Q R (guarded deny serve) := by
  intro r r' d d' hr hd
  have hdeny := hq r r' hr
  cases ho : deny r with
  | some b =>
    rw [guarded_denied ho, guarded_denied (hdeny.symm.trans ho)]
    exact ⟨rfl, hd⟩
  | none =>
    rw [guarded_admitted ho, guarded_admitted (hdeny.symm.trans ho)]
    exact h r r' d d' hr hd

theorem run_indistinct (h : Indistinct Q R serve) (hl : List.Forall₂ Q l l') (hd : R d d') :
    (run serve l d).1.map Prod.snd = (run serve l' d').1.map Prod.snd ∧
      R (run serve l d).2 (run serve l' d').2 := by
  induction hl generalizing d d' with
  | nil => exact ⟨rfl, hd⟩
  | @cons r r' l l' hr _ ih =>
    obtain ⟨hanswer, hnext⟩ := h r r' d d' hr hd
    obtain ⟨hanswers, hlast⟩ := ih hnext
    rw [run_cons, run_cons, List.map_cons, List.map_cons]
    exact ⟨List.cons_eq_cons.mpr ⟨hanswer, hanswers⟩, hlast⟩

end NotebookExecution.Library.Service
