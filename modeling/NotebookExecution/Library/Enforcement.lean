import NotebookExecution.Library.Constraints
import NotebookExecution.Library.Isolation

/-! Unique constraints that an engine checks when a change is flushed, under every interleaving of the
transactions. -/

namespace NotebookExecution.Library.Enforcement

open Statements Constraints Isolation Runs

variable {δ ω ρ κ υ θ ε α π : Type} [DecidableEq κ] [DecidableEq υ]

structure Part (E : Engine δ ω) (U : UniqueTable δ ρ κ υ) where
  change : ω → Option (Change U)
  apply : ∀ w x d, change w = some x → E.apply w d = x.apply d
  stored : ∀ w x d, change w = some x → E.flush w d = .stored →
    x.refused d = false ∧ x.missed d = false
  apart : ∀ v w x y d, change v = some x → change w = some y → E.apart d v w = true →
    x.apart d y = true
  elsewhere : ∀ w d, change w = none → (U.table.rows (E.apply w d)).Sublist (U.table.rows d)

namespace Part

variable {E : Engine δ ω} {U : UniqueTable δ ρ κ υ} (P : Part E U) {c : ℕ}
  {program : π → Program θ δ ω ε α} {s t : Server θ δ ω ε α π} {as : List (Action π)}

def pending (l : List (ℕ × ω)) : List (ℕ × Change U) :=
  l.filterMap fun p => (P.change p.2).map fun x => (p.1, x)

lemma mem_pending {l : List (ℕ × ω)} {p : ℕ × Change U} :
    p ∈ P.pending l ↔ ∃ w, (p.1, w) ∈ l ∧ P.change w = some p.2 := by
  rw [pending, List.mem_filterMap]
  constructor
  · rintro ⟨⟨d, w⟩, hl, hp⟩
    obtain ⟨x, hx, rfl⟩ := Option.map_eq_some_iff.mp hp
    exact ⟨w, hl, hx⟩
  · rintro ⟨w, hl, hx⟩
    exact ⟨(p.1, w), hl, Option.map_eq_some_iff.mpr ⟨p.2, hx, rfl⟩⟩

def Keeps (s : Server θ δ ω ε α π) : Prop := Kept U s.database (P.pending s.flushed)

variable {P}

lemma Keeps.effect (h : P.Keeps s) (he : Server.Effect E s t) : P.Keeps t := by
  cases he with
  | keep hd hf =>
    rw [Keeps, hd]
    refine h.mono fun p hp => ?_
    obtain ⟨w, hw, hx⟩ := P.mem_pending.mp hp
    exact P.mem_pending.mpr ⟨w, hf _ hw, hx⟩
  | flush c w hw ha hd hf =>
    rw [Keeps, hd]
    cases hc : P.change w with
    | none =>
      refine h.mono fun p hp => ?_
      obtain ⟨v, hv, hx⟩ := P.mem_pending.mp hp
      rcases hf _ hv with hcw | hv
      · obtain ⟨-, rfl⟩ := Prod.mk.inj hcw
        rw [hc] at hx
        cases hx
      · exact P.mem_pending.mpr ⟨v, hv, hx⟩
    | some x =>
      obtain ⟨hr, hm⟩ := P.stored w x _ hc hw
      refine h.flush (c := c) hr hm ?_ ?_
      · intro p hp
        obtain ⟨v, hv, hy⟩ := P.mem_pending.mp hp
        exact P.apart w v x p.2 _ hc hy (ha _ hv)
      · intro p hp
        obtain ⟨v, hv, hy⟩ := P.mem_pending.mp hp
        rcases hf _ hv with hcw | hv
        · obtain ⟨hpc, rfl⟩ := Prod.mk.inj hcw
          rw [hc] at hy
          exact Or.inl (Prod.ext hpc (Option.some_inj.mp hy).symm)
        · exact Or.inr (P.mem_pending.mpr ⟨v, hv, hy⟩)
  | commit c w hw hd hf =>
    rw [Keeps, hd]
    have hpending : ∀ p ∈ P.pending t.flushed, p ∈ P.pending s.flushed ∧ p.1 ≠ c := by
      intro p hp
      obtain ⟨v, hv, hy⟩ := P.mem_pending.mp hp
      obtain ⟨hv, hpc⟩ := hf _ hv
      exact ⟨P.mem_pending.mpr ⟨v, hv, hy⟩, hpc⟩
    cases hc : P.change w with
    | none => exact (h.shrink (P.elsewhere w _ hc)).mono fun p hp => (hpending p hp).1
    | some x =>
      rw [P.apply w x _ hc]
      exact h.commit (P.mem_pending.mpr ⟨w, hw, hc⟩) hpending

lemma keeps_opened {d : δ} (hk : ((U.table.rows d).map U.table.key).Nodup)
    (hu : ((U.table.rows d).map U.unique).Nodup) :
    P.Keeps (Server.opened d : Server θ δ ω ε α π) :=
  ⟨hk, hu, fun p hp => (by cases hp), fun p hp => by cases hp⟩

theorem keeps_exec (h : exec (Server.step E program) s as = some t) (hs : P.Keeps s) : P.Keeps t := by
  refine exec_history (R := fun _ => P.Keeps) ?_ hs h
  intro as u a v hu hv
  exact hu.effect (Server.step_effect hv)

lemma Keeps.view (h : P.Keeps s) : ((U.table.rows (s.view E c)).map U.unique).Nodup := by
  rcases Server.view_cases E c s with hv | ⟨w, hw, hv⟩
  · rw [hv]
    exact h.values
  · rw [hv]
    cases hc : P.change w with
    | none => exact (h.shrink (P.elsewhere w _ hc)).values
    | some x =>
      rw [P.apply w x _ hc]
      exact ((h.fits (c, x) (P.mem_pending.mpr ⟨w, hw, hc⟩)).nodup h.keys h.values).2

end Part

end NotebookExecution.Library.Enforcement
