import Mathlib.Tactic

/-! Runs of a system that answers each action with one step or refuses it. -/

namespace NotebookExecution.Library.Runs

variable {σ α : Type} {step : σ → α → Option σ} {P Q : σ → α → σ → Prop} {s t u : σ}

def exec (step : σ → α → Option σ) : σ → List α → Option σ
  | s, [] => some s
  | s, a :: as => (step s a).bind fun t => exec step t as

/-- Every step of the run of these actions satisfies `P`; a refused action ends the run. -/
def Along (step : σ → α → Option σ) (P : σ → α → σ → Prop) : σ → List α → Prop
  | _, [] => True
  | s, a :: as => (step s a).elim True fun t => P s a t ∧ Along step P t as

instance decidableElim {p : σ → Prop} [∀ t, Decidable (p t)] :
    (o : Option σ) → Decidable (o.elim True p)
  | none => .isTrue trivial
  | some t => inferInstanceAs (Decidable (p t))

instance decidableAlong [∀ s a t, Decidable (P s a t)] :
    (s : σ) → (as : List α) → Decidable (Along step P s as)
  | _, [] => .isTrue trivial
  | s, a :: as =>
    have (t : σ) : Decidable (Along step P t as) := decidableAlong t as
    decidableElim (step s a)

lemma along_cons {a : α} {as : List α} :
    Along step P s (a :: as) ↔ ∀ t, step s a = some t → P s a t ∧ Along step P t as := by
  rw [Along]
  cases step s a <;> simp

lemma exec_cons {a : α} {as : List α} (h : step s a = some t) :
    exec step s (a :: as) = exec step t as := by
  rw [exec, h]
  rfl

lemma exec_append {as bs : List α} (h : exec step s as = some t) :
    exec step s (as ++ bs) = exec step t bs := by
  induction as generalizing s with
  | nil =>
    obtain rfl : s = t := by simpa [exec] using h
    rfl
  | cons a as ih =>
    cases ha : step s a with
    | none => simp [exec, ha] at h
    | some u =>
      rw [exec_cons ha] at h
      rw [List.cons_append, exec_cons ha]
      exact ih h

lemma exec_concat {a : α} {as : List α} (h : exec step s (as ++ [a]) = some t) :
    ∃ u, exec step s as = some u ∧ step u a = some t := by
  induction as generalizing s with
  | nil =>
    rw [List.nil_append] at h
    cases ha : step s a with
    | none => simp [exec, ha] at h
    | some u =>
      rw [exec_cons ha] at h
      obtain rfl : u = t := by simpa [exec] using h
      exact ⟨s, rfl, ha⟩
  | cons b as ih =>
    cases hb : step s b with
    | none => simp [exec, hb] at h
    | some v =>
      rw [List.cons_append, exec_cons hb] at h
      rw [exec_cons hb]
      exact ih h

def trace {β : Type} (step : σ → α → Option σ) (f : σ → α → Option β) : σ → List α → List β
  | _, [] => []
  | s, a :: as => (f s a).toList ++ (step s a).elim [] fun t => trace step f t as

lemma trace_concat {β : Type} {f : σ → α → Option β} {a : α} {as : List α}
    (h : exec step s as = some t) (hu : step t a = some u) :
    trace step f s (as ++ [a]) = trace step f s as ++ (f t a).toList := by
  induction as generalizing s with
  | nil =>
    obtain rfl : s = t := by simpa [exec] using h
    simp [trace, hu]
  | cons b as ih =>
    cases hb : step s b with
    | none => simp [exec, hb] at h
    | some v =>
      rw [exec_cons hb] at h
      simp only [List.cons_append, trace, hb, Option.elim_some, ih h, List.append_assoc]

/-- The system whose actions come to nothing that are not taken. -/
def taking (takes : σ → α → Bool) (step : σ → α → Option σ) (s : σ) (a : α) : Option σ :=
  if takes s a then step s a else some s

lemma taking_inv {takes : σ → α → Bool} {a : α} (h : taking takes step s a = some t) :
    takes s a = true ∧ step s a = some t ∨ takes s a = false ∧ s = t := by
  rw [taking] at h
  split at h
  · next ha => exact Or.inl ⟨ha, h⟩
  · next ha => exact Or.inr ⟨Bool.eq_false_iff.mpr ha, Option.some_inj.mp h⟩

/-! ## Rules -/

lemma exec_history {R : List α → σ → Prop} {as : List α}
    (keep : ∀ as s a t, R as s → step s a = some t → R (as ++ [a]) t) (hs : R [] s)
    (h : exec step s as = some t) : R as t := by
  induction as using List.reverseRecOn generalizing t with
  | nil =>
    obtain rfl : s = t := by simpa [exec] using h
    exact hs
  | append_singleton as a ih =>
    obtain ⟨u, hu, hstep⟩ := exec_concat h
    exact keep as u a t (ih hu) hstep

lemma along_of_step {as : List α} (h : ∀ s a t, step s a = some t → P s a t) : Along step P s as := by
  induction as generalizing s with
  | nil => trivial
  | cons a as ih =>
    rw [along_cons]
    intro t ht
    exact ⟨h s a t ht, ih⟩

lemma Along.imp {as : List α} (h : ∀ s a t, step s a = some t → P s a t → Q s a t)
    (hp : Along step P s as) : Along step Q s as := by
  induction as generalizing s with
  | nil => trivial
  | cons a as ih =>
    rw [along_cons] at hp ⊢
    intro t ht
    obtain ⟨hs, hr⟩ := hp t ht
    exact ⟨h s a t ht hs, ih hr⟩

lemma Along.take {as bs : List α} (hp : Along step P s (as ++ bs)) : Along step P s as := by
  induction as generalizing s with
  | nil => trivial
  | cons a as ih =>
    rw [List.cons_append, along_cons] at hp
    rw [along_cons]
    intro t ht
    obtain ⟨hs, hr⟩ := hp t ht
    exact ⟨hs, ih hr⟩

lemma Along.drop {as bs : List α} (hp : Along step P s (as ++ bs)) (ht : exec step s as = some t) :
    Along step P t bs := by
  induction as generalizing s with
  | nil =>
    obtain rfl : s = t := by simpa [exec] using ht
    exact hp
  | cons b as ih =>
    cases hb : step s b with
    | none => simp [exec, hb] at ht
    | some v =>
      rw [exec_cons hb] at ht
      exact ih (along_cons.mp hp v hb).2 ht

lemma Along.chain {R : σ → σ → Prop} {as : List α} (refl : ∀ s, R s s)
    (trans : ∀ s t u, R s t → R t u → R s u) (hp : Along step (fun s _ t => R s t) s as)
    (h : exec step s as = some t) : R s t := by
  induction as generalizing s with
  | nil =>
    obtain rfl : s = t := by simpa [exec] using h
    exact refl s
  | cons a as ih =>
    cases ha : step s a with
    | none => simp [exec, ha] at h
    | some v =>
      rw [exec_cons ha] at h
      obtain ⟨hv, hr⟩ := along_cons.mp hp v ha
      exact trans s v t hv (ih hr h)

lemma Along.reach {G : σ → Prop} {as : List α} (hg : G s)
    (hp : Along step (fun _ _ t => G t) s as) (h : exec step s as = some t) : G t := by
  induction as generalizing s with
  | nil =>
    obtain rfl : s = t := by simpa [exec] using h
    exact hg
  | cons a as ih =>
    cases ha : step s a with
    | none => simp [exec, ha] at h
    | some v =>
      rw [exec_cons ha] at h
      obtain ⟨hv, hr⟩ := along_cons.mp hp v ha
      exact ih hv hr h

lemma Along.and {as : List α} (hp : Along step P s as) (hq : Along step Q s as) :
    Along step (fun s a t => P s a t ∧ Q s a t) s as := by
  induction as generalizing s with
  | nil => trivial
  | cons a as ih =>
    rw [along_cons] at hp hq ⊢
    intro t ht
    obtain ⟨hs, hr⟩ := hp t ht
    obtain ⟨hs', hr'⟩ := hq t ht
    exact ⟨⟨hs, hs'⟩, ih hr hr'⟩

lemma Along.history {R : List α → σ → Prop} {as : List α}
    (keep : ∀ as t a u, exec step s as = some t → R as t → step t a = some u → P t a u →
      R (as ++ [a]) u)
    (hs : R [] s) (hp : Along step P s as) (h : exec step s as = some t) : R as t := by
  induction as using List.reverseRecOn generalizing t with
  | nil =>
    obtain rfl : s = t := by simpa [exec] using h
    exact hs
  | append_singleton as a ih =>
    obtain ⟨u, hu, hstep⟩ := exec_concat h
    have hlast : P u a t := (along_cons.mp (hp.drop hu) t hstep).1
    exact keep as u a t hu (ih hp.take hu) hstep hlast

lemma along_of_unmarked {M : σ → Prop} {as : List α} (lasts : ∀ s a t, M s → step s a = some t → M t)
    (hP : ∀ s a t, step s a = some t → ¬ M t → P s a t) (h : exec step s as = some t) (hm : ¬ M t) :
    Along step P s as := by
  induction as generalizing s with
  | nil => trivial
  | cons a as ih =>
    rw [along_cons]
    intro u hu
    rw [exec_cons hu] at h
    refine ⟨hP s a u hu fun hmu => hm ?_, ih h⟩
    exact exec_history (R := fun _ v => M v) (fun _ v b w => lasts v b w) hmu h

theorem along_of_invariant {I : σ → Prop} {as : List α}
    (keep : ∀ s a t, I s → step s a = some t → P s a t → I t ∧ Q s a t) (hi : I s)
    (hp : Along step P s as) : Along step Q s as := by
  induction as generalizing s with
  | nil => trivial
  | cons a as ih =>
    rw [along_cons] at hp ⊢
    intro t ht
    obtain ⟨hs, hr⟩ := hp t ht
    obtain ⟨ht', hq⟩ := keep s a t hi ht hs
    exact ⟨hq, ih ht' hr⟩

lemma Along.invariant {J : σ → Prop} {as : List α}
    (keep : ∀ s a t, J s → step s a = some t → P s a t → J t) (hj : J s) (hp : Along step P s as)
    (h : exec step s as = some t) : J t :=
  Along.reach hj (along_of_invariant (fun s a t hs ht hc => ⟨keep s a t hs ht hc, keep s a t hs ht hc⟩)
    hj hp) h

/-- If, from a good state, a step reaches a good state exactly when it meets `C`, then a run only
reaches good states exactly when all its steps meet `C`. -/
theorem along_iff_of_invariant {I G : σ → Prop} {C : σ → α → σ → Prop} {as : List α}
    (keep : ∀ s a t, I s → step s a = some t → I t)
    (exact : ∀ s a t, I s → G s → step s a = some t → (G t ↔ C s a t)) (hi : I s) (hg : G s) :
    Along step (fun _ _ t => G t) s as ↔ Along step C s as := by
  induction as generalizing s with
  | nil => exact iff_of_true trivial trivial
  | cons a as ih =>
    rw [along_cons, along_cons]
    apply forall₂_congr
    intro t ht
    have hi' := keep s a t hi ht
    constructor
    · rintro ⟨hg', hr⟩
      exact ⟨(exact s a t hi hg ht).mp hg', (ih hi' hg').mp hr⟩
    · rintro ⟨hc, hr⟩
      have hg' := (exact s a t hi hg ht).mpr hc
      exact ⟨hg', (ih hi' hg').mpr hr⟩

/-- What is not taken changes nothing, so only the actions that are taken have to meet `C`. -/
theorem along_taking_iff {I G : σ → Prop} {C : σ → α → Prop} {takes : σ → α → Bool} {as : List α}
    (keep : ∀ s a t, I s → step s a = some t → I t)
    (exact : ∀ s a t, I s → G s → step s a = some t → (G t ↔ C s a)) (hi : I s) (hg : G s) :
    Along (taking takes step) (fun _ _ t => G t) s as ↔
      Along (taking takes step) (fun s a _ => takes s a = true → C s a) s as := by
  refine along_iff_of_invariant (I := I) (fun s a t hs ht => ?_) (fun s a t hs hg ht => ?_) hi hg
  · rcases taking_inv ht with ⟨-, ht⟩ | ⟨-, rfl⟩
    · exact keep s a t hs ht
    · exact hs
  · rcases taking_inv ht with ⟨ha, ht⟩ | ⟨ha, rfl⟩
    · rw [exact s a t hs hg ht, forall_prop_of_true ha]
    · refine iff_of_true hg fun h => ?_
      rw [ha] at h
      cases h

theorem along_iff_of_keeps {I : σ → Prop} {C : σ → α → σ → Prop} {as : List α}
    (keep : ∀ s a t, I s → step s a = some t → C s a t → I t)
    (exact : ∀ s a t, I s → step s a = some t → (P s a t ↔ C s a t)) (hi : I s) :
    Along step P s as ↔ Along step C s as := by
  induction as generalizing s with
  | nil => exact iff_of_true trivial trivial
  | cons a as ih =>
    rw [along_cons, along_cons]
    apply forall₂_congr
    intro t ht
    rw [exact s a t hi ht]
    apply and_congr_right
    intro hc
    exact ih (keep s a t hi ht hc)

end NotebookExecution.Library.Runs
