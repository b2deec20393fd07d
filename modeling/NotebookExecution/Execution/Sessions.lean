import NotebookExecution.Execution.Manager
import NotebookExecution.Execution.Turns

/-! How a session changes: it is given a new call, advanced by one turn, or has a call cancelled.
A call keeps its kind, and one that has ended stays as it is. -/

namespace NotebookExecution.Execution

variable {ν : Type} {I : Interpreter ν}

namespace ExecutionSession

variable {s t : ExecutionSession ν} {c d : OpId} {a : SessionAction} {k : Kind} {p q : Phase}
  {spawn : Spawn}

lemma Advances.other (h : Advances I s c a k p q t) (hd : d ≠ c) : t.ops d = s.ops d := by
  rw [h.ops, Function.update_of_ne hd]

lemma Advances.self (h : Advances I s c a k p q t) : t.ops c = some ⟨k, q⟩ := by
  rw [h.ops, Function.update_self]

lemma step_ops_none (ht : s.step I a = some t) (hd : s.ops d = none) : t.ops d = none := by
  rcases step_cases ht with ⟨r, -, rfl⟩ | ⟨c, k, p, q, hc, h⟩
  · exact hd
  · have hdc : d ≠ c := by
      rintro rfl
      rw [hc] at hd
      cases hd
    rw [h.other hdc, hd]

lemma cancel_live (h : s.ops c = some ⟨k, p⟩) (hp : p.ended = false) :
    s.cancel c = s.leave c (cancelled p) := by
  simp [cancel, h, hp]

lemma cancel_ended (h : s.ops c = some ⟨k, p⟩) (hp : p.ended = true) : s.cancel c = s := by
  simp [cancel, h, hp]

lemma cancel_none (h : s.ops c = none) : s.cancel c = s := by
  simp [cancel, h]

lemma cancel_cases (c : OpId) (s : ExecutionSession ν) :
    s.cancel c = s ∨ ∃ k p, s.ops c = some ⟨k, p⟩ ∧ p.ended = false ∧
      s.cancel c = s.leave c (cancelled p) := by
  cases h : s.ops c with
  | none => exact Or.inl (cancel_none h)
  | some o =>
    obtain ⟨k, p⟩ := o
    cases hp : p.ended with
    | true => exact Or.inl (cancel_ended h hp)
    | false => exact Or.inr ⟨k, p, rfl, hp, cancel_live h hp⟩

@[simp] lemma cancel_runtime : (s.cancel c).runtime = s.runtime := by
  rcases cancel_cases c s with h | ⟨k, p, -, -, h⟩ <;> rw [h]
  rfl

lemma cancel_other (hd : d ≠ c) : (s.cancel c).ops d = s.ops d := by
  rcases cancel_cases c s with h | ⟨k, p, hc, -, h⟩
  · rw [h]
  · rw [h, leave_ops hc, Function.update_of_ne hd]

lemma cancel_ops_none (hd : s.ops d = none) : (s.cancel c).ops d = none := by
  rcases cancel_cases c s with h | ⟨k, p, hc, -, h⟩
  · rw [h, hd]
  · have hdc : d ≠ c := by
      rintro rfl
      rw [hc] at hd
      cases hd
    rw [h, leave_ops hc, Function.update_of_ne hdc, hd]

@[simp] lemma schedule_self : (s.schedule c k).ops c = some ⟨k, .scheduled⟩ :=
  Function.update_self ..

lemma schedule_other (hd : d ≠ c) : (s.schedule c k).ops d = s.ops d := Function.update_of_ne hd ..

lemma schedule_ops_none {n : ℕ} (h : ∀ d ≥ n, s.ops d = none) :
    ∀ d ≥ n + 1, (s.schedule n k).ops d = none := by
  intro d hd
  have hne : d ≠ n := by omega
  rw [schedule_other hne]
  exact h d (by omega)

lemma reset_step (e : ExecutionId) (x : ExecutionSession ν) (r : OpId) :
    (x.schedule r (.reset (some e))).step I (.begin r spawn) =
      some (ExecutionManager.reset I e spawn x r) := by
  simp only [step, schedule_self]
  rfl

lemma turn_ended {r r' : PythonRuntime ν} (h : Turn I r c a k p q r') (hp : p.ended = true) :
    p.stray = true ∧ q = .cancelled := by
  cases h with
  | raise e he => rw [he] at hp; cases hp
  | call ha | idle ha | shut ha | shutIdle ha => cases ha <;> cases hp
  | bounce e hk hs hb =>
    cases hs with
    | idle ha | direct ha => cases ha <;> cases hp
    | joined spawn o => cases hp
  | respawn spawn hk hs hb hq =>
    cases hs with
    | idle ha | direct ha => cases ha <;> cases hp
    | joined spawn o => cases hp
  | straySent | strayUnsent | strayTook | strayClosed => exact ⟨rfl, rfl⟩
  | _ => cases hp

def Keeps (s t : ExecutionSession ν) : Prop :=
  ∀ c k p, s.ops c = some ⟨k, p⟩ →
    ∃ q, t.ops c = some ⟨k, q⟩ ∧ (p.ended = true → q = p ∨ p.stray = true ∧ q = .cancelled)

lemma Keeps.refl (s : ExecutionSession ν) : Keeps s s :=
  fun _ _ p h => ⟨p, h, fun _ => Or.inl rfl⟩

lemma Keeps.trans {u : ExecutionSession ν} (h : Keeps s t) (h' : Keeps t u) : Keeps s u := by
  intro c k p hc
  obtain ⟨q, hq, hp⟩ := h c k p hc
  obtain ⟨q', hq', hp'⟩ := h' c k q hq
  refine ⟨q', hq', fun he => ?_⟩
  rcases hp he with rfl | ⟨hs, rfl⟩
  · exact hp' he
  · rcases hp' rfl with rfl | ⟨hs', -⟩
    · exact Or.inr ⟨hs, rfl⟩
    · cases hs'

lemma keeps_step (ht : s.step I a = some t) : Keeps s t := by
  rcases step_cases ht with ⟨r, -, rfl⟩ | ⟨c, k, p, q, hc, h⟩
  · exact Keeps.refl s
  · intro d j p' hd
    by_cases hdc : d = c
    · subst hdc
      obtain ⟨rfl, rfl⟩ : k = j ∧ p = p' := by simpa [hc] using hd
      exact ⟨q, h.self, fun he => Or.inr (turn_ended h.turn he)⟩
    · exact ⟨p', (h.other hdc).trans hd, fun _ => Or.inl rfl⟩

lemma keeps_schedule (h : s.ops c = none) : Keeps s (s.schedule c k) := by
  intro d j p hd
  have hdc : d ≠ c := by
    rintro rfl
    rw [h] at hd
    cases hd
  exact ⟨p, (schedule_other hdc).trans hd, fun _ => Or.inl rfl⟩

lemma keeps_cancel : Keeps s (s.cancel c) := by
  rcases cancel_cases c s with h | ⟨k, p, hc, hp, h⟩
  · rw [h]
    exact Keeps.refl s
  · rw [h]
    intro d j p' hd
    by_cases hdc : d = c
    · subst hdc
      obtain ⟨rfl, rfl⟩ : k = j ∧ p = p' := by simpa [hc] using hd
      refine ⟨cancelled p, by rw [leave_ops hc, Function.update_self], fun he => ?_⟩
      rw [hp] at he
      cases he
    · exact ⟨p', by rw [leave_ops hc, Function.update_of_ne hdc, hd], fun _ => Or.inl rfl⟩

lemma keeps_reset {e : ExecutionId} {r : OpId} (h : s.ops r = none) :
    Keeps s (ExecutionManager.reset I e spawn s r) :=
  (keeps_schedule h).trans (keeps_step (reset_step e s r))

structure Closed (I : Interpreter ν) (P : ExecutionSession ν → Prop) : Prop where
  created : ∀ k id, P (.created I k id)
  schedule : ∀ x c k, x.ops c = none → P x → P (x.schedule c k)
  step : ∀ x a y, P x → x.step I a = some y → P y
  cancel : ∀ x c, P x → P (x.cancel c)

lemma Closed.reset {P : ExecutionSession ν → Prop} (h : Closed I P) {e : ExecutionId} {r : OpId}
    (hr : s.ops r = none) (hp : P s) : P (ExecutionManager.reset I e spawn s r) :=
  h.step _ _ _ (h.schedule s r (.reset (some e)) hr hp) (reset_step e s r)

end ExecutionSession

end NotebookExecution.Execution
