import NotebookExecution.Library.Table

/-! Changes of tables whose rows have a key and a unique value, and what becomes of the unique
constraints when changes that have been flushed are committed in any order. -/

namespace NotebookExecution.Library.Constraints

open Table

variable {δ ρ κ υ : Type} [DecidableEq κ]

/-- A table with a unique value beside its key. `clash` is what the database refuses, and `cascade`
what a deletion takes with it in other tables. -/
structure UniqueTable (δ ρ κ υ : Type) where
  table : TableOf δ ρ κ
  unique : ρ → υ
  clash : δ → ρ → Bool
  cascade : κ → δ → δ
  clash_false : ∀ d r, clash d r = false →
    ∀ x ∈ table.rows d, table.key x ≠ table.key r → unique x ≠ unique r
  cascade_rows : ∀ k d, table.rows (cascade k d) = table.rows d

inductive Change (U : UniqueTable δ ρ κ υ)
  | insert (r : ρ)
  | update (k : κ) (set : ρ → ρ) (key_set : ∀ r, U.table.key (set r) = U.table.key r)
  | delete (k : κ)

namespace Change

variable {U : UniqueTable δ ρ κ υ}

def row : Change U → κ
  | .insert r => U.table.key r
  | .update k _ _ | .delete k => k

def value (d : δ) : Change U → Option υ
  | .insert r => some (U.unique r)
  | .update k set _ => (U.table.find k d).map fun r => U.unique (set r)
  | .delete _ => none

def apply (d : δ) : Change U → δ
  | .insert r => U.table.append r d
  | .update k set _ => (U.table.find k d).elim d fun r => U.table.put k (set r) d
  | .delete k => (U.table.find k d).elim d fun _ => U.cascade k (U.table.drop k d)

def refused (d : δ) : Change U → Bool
  | .insert r => U.table.occupied U.clash r d
  | .update k set _ => (U.table.find k d).any fun r => U.clash d (set r)
  | .delete _ => false

def missed (d : δ) : Change U → Bool
  | .update k _ _ => (U.table.find k d).isNone
  | _ => false

def apart [DecidableEq υ] (d : δ) (x y : Change U) : Bool :=
  x.row ≠ y.row && (x.value d).all fun v => y.value d ≠ some v

lemma mem_apply {d : δ} {x : Change U} {r : ρ} (h : r ∈ U.table.rows (x.apply d)) :
    r ∈ U.table.rows d ∨ U.table.key r = x.row ∧ x.value d = some (U.unique r) := by
  cases x with
  | insert n =>
    rw [apply, TableOf.rows_append, List.mem_append, List.mem_singleton] at h
    rcases h with h | rfl
    · exact Or.inl h
    · exact Or.inr ⟨rfl, rfl⟩
  | update k set hset =>
    cases hf : U.table.find k d with
    | none =>
      rw [apply, hf] at h
      exact Or.inl h
    | some o =>
      rw [apply, hf] at h
      rcases U.table.mem_put h with rfl | h
      · refine Or.inr ⟨(hset o).trans (lookup_key hf), ?_⟩
        rw [value, hf]
        rfl
      · exact Or.inl h
  | delete k =>
    cases hf : U.table.find k d with
    | none =>
      rw [apply, hf] at h
      exact Or.inl h
    | some o =>
      rw [apply, hf, Option.elim_some, U.cascade_rows, TableOf.rows_drop, mem_erase] at h
      exact Or.inl h.1

lemma find_apply {d : δ} {x : Change U} {k : κ} (hk : k ≠ x.row) :
    U.table.find k (x.apply d) = U.table.find k d := by
  cases x with
  | insert r =>
    have hr : U.table.key r ≠ k := fun h => hk h.symm
    rw [apply, TableOf.find_append, if_neg hr, Option.or_none]
  | update j set hset =>
    cases hf : U.table.find j d with
    | none => rw [apply, hf, Option.elim_none]
    | some o =>
      rw [apply, hf, Option.elim_some]
      exact U.table.find_put_other ((hset o).trans (lookup_key hf)) hk
  | delete j =>
    cases hf : U.table.find j d with
    | none => rw [apply, hf, Option.elim_none]
    | some o =>
      rw [apply, hf, Option.elim_some, TableOf.find, U.cascade_rows]
      exact U.table.find_drop_other hk

lemma value_apply {d : δ} {x y : Change U} (h : x.row ≠ y.row) : y.value (x.apply d) = y.value d := by
  cases y with
  | update k set hset =>
    have hk : k ≠ x.row := h.symm
    rw [value, value, find_apply hk]
  | _ => rfl

lemma elsewhere {σ : Type} {rows : δ → List σ} {d : δ} (x : Change U)
    (hstore : ∀ l d, rows (U.table.store l d) = rows d)
    (hcascade : ∀ k d, (rows (U.cascade k d)).Sublist (rows d)) :
    (rows (x.apply d)).Sublist (rows d) := by
  cases x with
  | insert r =>
    have hr : rows (Change.apply d (.insert (U := U) r)) = rows d := hstore _ d
    rw [hr]
  | update k set hset =>
    cases hf : U.table.find k d with
    | none => rw [apply, hf, Option.elim_none]
    | some o =>
      have ho : rows (U.table.put k (set o) d) = rows d := hstore _ d
      rw [apply, hf, Option.elim_some, ho]
  | delete k =>
    cases hf : U.table.find k d with
    | none => rw [apply, hf, Option.elim_none]
    | some o =>
      have ho : rows (U.table.drop k d) = rows d := hstore _ d
      rw [apply, hf, Option.elim_some, ← ho]
      exact hcascade k _

structure Fits (d : δ) (x : Change U) : Prop where
  value : ∀ v, x.value d = some v → ∀ z ∈ U.table.rows d, U.table.key z ≠ x.row → U.unique z ≠ v
  fresh : ∀ r, x = .insert r → ∀ z ∈ U.table.rows d, U.table.key z ≠ U.table.key r

structure Apart (d : δ) (x y : Change U) : Prop where
  row : x.row ≠ y.row
  value : ∀ v, x.value d = some v → y.value d ≠ some v

lemma apart_iff [DecidableEq υ] {d : δ} {x y : Change U} : x.apart d y = true ↔ Apart d x y := by
  rw [apart, Bool.and_eq_true, Option.all_eq_true, decide_eq_true_eq]
  constructor
  · rintro ⟨hr, hv⟩
    exact ⟨hr, fun v hx => of_decide_eq_true (hv v hx)⟩
  · intro h
    exact ⟨h.row, fun v hx => decide_eq_true (h.value v hx)⟩

lemma Apart.symm {d : δ} {x y : Change U} (h : Apart d x y) : Apart d y x :=
  ⟨h.row.symm, fun v hy hx => h.value v hx hy⟩

lemma fits_of_stored {d : δ} {x : Change U} (hr : x.refused d = false) (hm : x.missed d = false) :
    Fits d x := by
  cases x with
  | insert r =>
    obtain ⟨hf, hc⟩ := U.table.occupied_inv hr
    refine ⟨?_, ?_⟩
    · intro v hv z hz hk
      obtain rfl : U.unique r = v := Option.some_inj.mp hv
      exact U.clash_false d r hc z hz hk
    · intro r' hr' z hz
      cases hr'
      exact lookup_none.mp hf z hz
  | update k set hset =>
    refine ⟨?_, fun r hr => by cases hr⟩
    intro v hv z hz hk
    obtain ⟨r, hf, rfl⟩ := Option.map_eq_some_iff.mp hv
    rw [refused, hf] at hr
    have hkey : U.table.key (set r) = k := (hset r).trans (lookup_key hf)
    apply U.clash_false d (set r) hr z hz
    rw [hkey]
    exact hk
  | delete k => exact ⟨fun v hv => (by cases hv), fun r hr => by cases hr⟩

lemma Fits.nodup {d : δ} {x : Change U} (h : Fits d x) (hk : ((U.table.rows d).map U.table.key).Nodup)
    (hu : ((U.table.rows d).map U.unique).Nodup) :
    ((U.table.rows (x.apply d)).map U.table.key).Nodup ∧
      ((U.table.rows (x.apply d)).map U.unique).Nodup := by
  cases x with
  | insert r =>
    have hfresh := h.fresh r rfl
    rw [apply, TableOf.rows_append]
    exact ⟨concat_map_nodup hk hfresh,
      concat_map_nodup hu fun z hz => h.value _ rfl z hz (hfresh z hz)⟩
  | update k set hset =>
    cases hf : U.table.find k d with
    | none =>
      rw [apply, hf]
      exact ⟨hk, hu⟩
    | some o =>
      have hkey : U.table.key (set o) = k := (hset o).trans (lookup_key hf)
      have hv : (Change.update (U := U) k set hset).value d = some (U.unique (set o)) := by
        rw [Change.value, hf]
        rfl
      rw [apply, hf, Option.elim_some, TableOf.rows_put, replace_map_key hkey]
      exact ⟨hk, replace_map_nodup hk hu fun z hz hz' => h.value _ hv z hz hz'⟩
  | delete k =>
    cases hf : U.table.find k d with
    | none =>
      rw [apply, hf]
      exact ⟨hk, hu⟩
    | some o =>
      have hsub : (erase U.table.key k (U.table.rows d)).Sublist (U.table.rows d) := List.filter_sublist
      rw [apply, hf, Option.elim_some, U.cascade_rows, TableOf.rows_drop]
      exact ⟨hk.sublist (hsub.map _), hu.sublist (hsub.map _)⟩

lemma Fits.apply {d : δ} {x y : Change U} (h : Fits d y) (hxy : Apart d x y) : Fits (x.apply d) y := by
  constructor
  · intro v hv z hz hk
    rw [value_apply hxy.row] at hv
    rcases mem_apply hz with hz | ⟨-, hx⟩
    · exact h.value v hv z hz hk
    · rintro rfl
      exact hxy.value _ hx hv
  · intro r hr z hz
    rcases mem_apply hz with hz | ⟨hk, -⟩
    · exact h.fresh r hr z hz
    · intro hzr
      have hrow : y.row = U.table.key r := by
        rw [hr]
        rfl
      exact hxy.row (hk.symm.trans (hzr.trans hrow.symm))

lemma Apart.apply {d : δ} {x y z : Change U} (h : Apart d y z) (hy : x.row ≠ y.row)
    (hz : x.row ≠ z.row) : Apart (x.apply d) y z := by
  refine ⟨h.row, ?_⟩
  rw [value_apply hy, value_apply hz]
  exact h.value

end Change

open Change

structure Kept (U : UniqueTable δ ρ κ υ) (d : δ) (flushed : List (ℕ × Change U)) : Prop where
  keys : ((U.table.rows d).map U.table.key).Nodup
  values : ((U.table.rows d).map U.unique).Nodup
  fits : ∀ p ∈ flushed, Fits d p.2
  apart : ∀ p ∈ flushed, ∀ q ∈ flushed, p.1 ≠ q.1 → Apart d p.2 q.2

namespace Kept

variable {U : UniqueTable δ ρ κ υ} {d d' : δ} {l l' : List (ℕ × Change U)}

lemma mono (h : Kept U d l) (hl : ∀ p ∈ l', p ∈ l) : Kept U d l' :=
  ⟨h.keys, h.values, fun p hp => h.fits p (hl p hp),
    fun p hp q hq => h.apart p (hl p hp) q (hl q hq)⟩

lemma flush [DecidableEq υ] {c : ℕ} {x : Change U} (h : Kept U d l) (hr : x.refused d = false)
    (hm : x.missed d = false) (ha : ∀ p ∈ l, x.apart d p.2 = true)
    (hl : ∀ p ∈ l', p = (c, x) ∨ p ∈ l) : Kept U d l' := by
  refine ⟨h.keys, h.values, ?_, ?_⟩
  · intro p hp
    rcases hl p hp with rfl | hp
    · exact fits_of_stored hr hm
    · exact h.fits p hp
  · intro p hp q hq hpq
    rcases hl p hp with rfl | hp <;> rcases hl q hq with rfl | hq
    · exact absurd rfl hpq
    · exact apart_iff.mp (ha q hq)
    · exact (apart_iff.mp (ha p hp)).symm
    · exact h.apart p hp q hq hpq

lemma commit {c : ℕ} {x : Change U} (h : Kept U d l) (hx : (c, x) ∈ l)
    (hl : ∀ p ∈ l', p ∈ l ∧ p.1 ≠ c) : Kept U (x.apply d) l' := by
  have hapart : ∀ p ∈ l', Apart d x p.2 := fun p hp => h.apart _ hx p (hl p hp).1 (hl p hp).2.symm
  obtain ⟨hk, hu⟩ := (h.fits _ hx).nodup h.keys h.values
  refine ⟨hk, hu, ?_, ?_⟩
  · intro p hp
    exact (h.fits p (hl p hp).1).apply (hapart p hp)
  · intro p hp q hq hpq
    exact (h.apart p (hl p hp).1 q (hl q hq).1 hpq).apply (hapart p hp).row (hapart q hq).row

lemma shrink (h : Kept U d l) (hd : (U.table.rows d').Sublist (U.table.rows d)) : Kept U d' l := by
  have hvalue : ∀ (x : Change U) v, x.value d' = some v → x.value d = some v := by
    intro x v hv
    cases x with
    | update k set hset =>
      obtain ⟨r, hf, rfl⟩ := Option.map_eq_some_iff.mp hv
      have hr : U.table.find k d = some r := by
        have hfind := lookup_of_mem h.keys (hd.subset (lookup_mem hf))
        rwa [lookup_key hf] at hfind
      rw [value, hr]
      rfl
    | _ => exact hv
  refine ⟨h.keys.sublist (hd.map _), h.values.sublist (hd.map _), ?_, ?_⟩
  · intro p hp
    obtain ⟨hv, hf⟩ := h.fits p hp
    exact ⟨fun v hx z hz => hv v (hvalue _ v hx) z (hd.subset hz),
      fun r hr z hz => hf r hr z (hd.subset hz)⟩
  · intro p hp q hq hpq
    obtain ⟨hr, hv⟩ := h.apart p hp q hq hpq
    exact ⟨hr, fun v hx hy => hv v (hvalue _ v hx) (hvalue _ v hy)⟩

end Kept

end NotebookExecution.Library.Constraints
