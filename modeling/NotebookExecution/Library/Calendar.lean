import Mathlib.Data.Int.LeastGreatest
import Mathlib.Tactic

/-! Instants and the readings of clocks, both in microseconds. A zone says what its clocks show at an
instant and which offset a reading carries; a reading that is shown twice is told apart by its fold. -/

namespace NotebookExecution.Library.Calendar

structure Zone where
  utcoffset : ℤ → Bool → ℤ
  shows : ℤ → ℤ × Bool
  offset_shows : ∀ i, (shows i).1 - utcoffset (shows i).1 (shows i).2 = i

structure DateTime where
  zone : Zone
  reading : ℤ
  fold : Bool

def Zone.fixed (offset : ℤ) : Zone where
  utcoffset _ _ := offset
  shows i := (i + offset, false)
  offset_shows i := by omega

def Zone.at (z : Zone) (i : ℤ) : DateTime := ⟨z, (z.shows i).1, (z.shows i).2⟩

namespace DateTime

def instant (d : DateTime) : ℤ := d.reading - d.zone.utcoffset d.reading d.fold

/-- Addition moves the reading; the zone takes no part in it. -/
def plus (delta : ℤ) (d : DateTime) : DateTime := ⟨d.zone, d.reading + delta, false⟩

@[simp] lemma instant_at (z : Zone) (i : ℤ) : (z.at i).instant = i := z.offset_shows i

lemma plus_fixed (offset delta : ℤ) (i : ℤ) :
    (((Zone.fixed offset).at i).plus delta).instant = i + delta := by
  change i + offset + delta - offset = i + delta
  omega

end DateTime

variable {z : Zone} {m : ℤ → Bool} {b i j : ℤ}

def Zone.after (z : Zone) (m : ℤ → Bool) (b : ℤ) : Set ℤ :=
  {i | b < i ∧ m (z.shows i).1 = true}

lemma after_least (h : (z.after m b).Nonempty) : ∃ i, IsLeast (z.after m b) i := by
  have hb : ∃ l : ℤ, ∀ i : ℤ, i ∈ z.after m b → l ≤ i := ⟨b, fun i hi => hi.1.le⟩
  obtain ⟨i, hi, hl⟩ := Int.exists_least_of_bdd hb h
  exact ⟨i, hi, hl⟩

lemma least_after (h : IsLeast (z.after m b) i) : b < i := h.1.1

lemma least_fixed {offset : ℤ} {r : ℤ} (hb : b + offset < r) (hr : m r = true)
    (hmin : ∀ q, b + offset < q → q < r → m q = false) :
    IsLeast ((Zone.fixed offset).after m b) (r - offset) := by
  -- In a zone of fixed offset a pattern may be looked up on the reading itself.
  constructor
  · have hshow : ((Zone.fixed offset).shows (r - offset)).1 = r := by
      change r - offset + offset = r
      omega
    refine ⟨by omega, ?_⟩
    rw [hshow]
    exact hr
  · intro i hi
    by_contra hlt
    have hq : m (i + offset) = true := hi.2
    have hbi : b < i := hi.1
    rw [hmin (i + offset) (by omega) (by omega)] at hq
    cases hq

end NotebookExecution.Library.Calendar
