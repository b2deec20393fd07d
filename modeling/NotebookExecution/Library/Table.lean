import NotebookExecution.Library.Transaction

/-! Tables of rows with a key inside a larger database, and the four statements a repository
issues on them. -/

namespace NotebookExecution.Library.Table

open Transaction

variable {δ ρ κ ε : Type} [DecidableEq κ]

/-! ## Rows in a list -/

def lookup (key : ρ → κ) (k : κ) (t : List ρ) : Option ρ := t.find? (fun r => key r = k)

def replace (key : ρ → κ) (k : κ) (new : ρ) : List ρ → List ρ
  | [] => []
  | r :: t => if key r = k then new :: t else r :: replace key k new t

def erase (key : ρ → κ) (k : κ) (t : List ρ) : List ρ := t.filter (fun r => key r ≠ k)

lemma lookup_mem {key : ρ → κ} {k : κ} {t : List ρ} {r : ρ} (h : lookup key k t = some r) : r ∈ t :=
  List.mem_of_find?_eq_some h

lemma lookup_key {key : ρ → κ} {k : κ} {t : List ρ} {r : ρ} (h : lookup key k t = some r) :
    key r = k := by
  simpa using List.find?_some h

lemma lookup_none {key : ρ → κ} {k : κ} {t : List ρ} :
    lookup key k t = none ↔ ∀ r ∈ t, key r ≠ k := by
  simp [lookup]

lemma replace_eq_self {key : ρ → κ} {k : κ} {t : List ρ} {r new : ρ}
    (h : lookup key k t = some r) : replace key k new t = t ↔ new = r := by
  induction t with
  | nil => simp [lookup] at h
  | cons x t ih =>
    by_cases hx : key x = k
    · obtain rfl : x = r := by simpa [lookup, hx] using h
      simp [replace, hx]
    · have ht : lookup key k t = some r := by simpa [lookup, hx] using h
      simp [replace, hx, ih ht]

lemma mem_replace {key : ρ → κ} {k : κ} {t : List ρ} {new x : ρ} (h : x ∈ replace key k new t) :
    x = new ∨ x ∈ t := by
  induction t with
  | nil => simp [replace] at h
  | cons r t ih =>
    by_cases hr : key r = k
    · simp only [replace, hr, if_true, List.mem_cons] at h
      exact h.imp_right (List.mem_cons_of_mem _)
    · simp only [replace, hr, if_false, List.mem_cons] at h
      rcases h with h | h
      · exact Or.inr (by simp [h])
      · exact (ih h).imp_right (List.mem_cons_of_mem _)

lemma mem_replace_of_mem {key : ρ → κ} {k : κ} {t : List ρ} {old new x : ρ} (h : lookup key k t = some old)
    (hx : x ∈ t) : x = old ∨ x ∈ replace key k new t := by
  induction t with
  | nil => cases hx
  | cons r t ih =>
    by_cases hr : key r = k
    · obtain rfl : r = old := by simpa [lookup, hr] using h
      simp only [replace, hr, if_true, List.mem_cons] at hx ⊢
      exact hx.imp_right Or.inr
    · have ht : lookup key k t = some old := by simpa [lookup, hr] using h
      simp only [replace, hr, if_false, List.mem_cons] at hx ⊢
      cases hx with
      | inl hx => exact Or.inr (Or.inl hx)
      | inr hx => exact (ih ht hx).imp_right Or.inr

lemma lookup_replace_self {key : ρ → κ} {k : κ} {t : List ρ} {r new : ρ} (hn : key new = k)
    (h : lookup key k t = some r) : lookup key k (replace key k new t) = some new := by
  induction t with
  | nil => simp [lookup] at h
  | cons x t ih =>
    by_cases hx : key x = k
    · simp [replace, lookup, hx, hn]
    · have ht : lookup key k t = some r := by simpa [lookup, hx] using h
      simpa [replace, lookup, hx] using ih ht

lemma lookup_replace_other {key : ρ → κ} {k j : κ} {t : List ρ} {new : ρ} (hn : key new = k)
    (hj : j ≠ k) : lookup key j (replace key k new t) = lookup key j t := by
  induction t with
  | nil => rfl
  | cons x t ih =>
    by_cases hx : key x = k
    · have hxj : key x ≠ j := by rw [hx]; exact hj.symm
      have hnj : key new ≠ j := by rw [hn]; exact hj.symm
      simp [replace, lookup, hx, hnj, hj.symm]
    · by_cases hxj : key x = j
      · simp [replace, lookup, hxj, hj]
      · simpa [replace, lookup, hx, hxj] using ih

lemma replace_concat {key : ρ → κ} {k : κ} {t : List ρ} {r new : ρ} (hr : key r = k)
    (h : lookup key k t = none) : replace key k new (t ++ [r]) = t ++ [new] := by
  induction t with
  | nil => simp [replace, hr]
  | cons x t ih =>
    rw [lookup_none] at h
    have hx : key x ≠ k := h x List.mem_cons_self
    have ht : lookup key k t = none := lookup_none.mpr fun y hy => h y (List.mem_cons_of_mem _ hy)
    simp only [List.cons_append, replace, hx, if_false, ih ht]

lemma replace_map_key {key : ρ → κ} {k : κ} {t : List ρ} {new : ρ} (hn : key new = k) :
    (replace key k new t).map key = t.map key := by
  induction t with
  | nil => rfl
  | cons r t ih =>
    by_cases hr : key r = k
    · simp only [replace, hr, if_true, List.map_cons, hn]
    · simp only [replace, hr, if_false, List.map_cons, ih]

lemma replace_map_same {β : Type} {key : ρ → κ} {f : ρ → β} {k : κ} {t : List ρ} {r new : ρ}
    (h : lookup key k t = some r) (hf : f new = f r) : (replace key k new t).map f = t.map f := by
  induction t with
  | nil => rfl
  | cons x t ih =>
    by_cases hx : key x = k
    · obtain rfl : x = r := by simpa [lookup, hx] using h
      simp only [replace, hx, if_true, List.map_cons, hf]
    · have ht : lookup key k t = some r := by simpa [lookup, hx] using h
      simp only [replace, hx, if_false, List.map_cons, ih ht]

lemma lookup_of_mem {key : ρ → κ} {t : List ρ} {r : ρ} (hn : (t.map key).Nodup) (h : r ∈ t) :
    lookup key (key r) t = some r := by
  induction t with
  | nil => cases h
  | cons x t ih =>
    rw [List.map_cons, List.nodup_cons] at hn
    cases List.mem_cons.mp h with
    | inl hx => simp [lookup, hx]
    | inr hr =>
      have hx : key x ≠ key r := fun he => hn.1 (he ▸ List.mem_map_of_mem hr)
      have ht : lookup key (key r) t = some r := ih hn.2 hr
      simpa [lookup, hx] using ht

lemma replace_map_nodup {β : Type} {key : ρ → κ} {f : ρ → β} {k : κ} {t : List ρ} {new : ρ}
    (hk : (t.map key).Nodup) (hf : (t.map f).Nodup) (hn : ∀ r ∈ t, key r ≠ k → f r ≠ f new) :
    ((replace key k new t).map f).Nodup := by
  induction t with
  | nil => exact .nil
  | cons r t ih =>
    rw [List.map_cons, List.nodup_cons] at hk hf
    by_cases hr : key r = k
    · simp only [replace, hr, if_true, List.map_cons, List.nodup_cons]
      refine ⟨fun hm => ?_, hf.2⟩
      obtain ⟨x, hx, he⟩ := List.mem_map.mp hm
      have hxk : key x ≠ k := fun h => hk.1 (List.mem_map.mpr ⟨x, hx, h.trans hr.symm⟩)
      exact hn x (List.mem_cons_of_mem _ hx) hxk he
    · simp only [replace, hr, if_false, List.map_cons, List.nodup_cons]
      refine ⟨fun hm => ?_, ih hk.2 hf.2 fun x hx => hn x (List.mem_cons_of_mem _ hx)⟩
      obtain ⟨x, hx, he⟩ := List.mem_map.mp hm
      cases mem_replace hx with
      | inl hxn => exact hn r List.mem_cons_self hr (he.symm.trans (congrArg f hxn))
      | inr hxt => exact hf.1 (List.mem_map.mpr ⟨x, hxt, he⟩)

lemma mem_erase {key : ρ → κ} {k : κ} {t : List ρ} {x : ρ} : x ∈ erase key k t ↔ x ∈ t ∧ key x ≠ k := by
  rw [erase, List.mem_filter, decide_eq_true_eq]

lemma lookup_erase_self {key : ρ → κ} {k : κ} {t : List ρ} : lookup key k (erase key k t) = none := by
  rw [lookup_none]
  intro r hr
  exact (mem_erase.mp hr).2

lemma lookup_erase_other {key : ρ → κ} {k j : κ} {t : List ρ} (hj : j ≠ k) :
    lookup key j (erase key k t) = lookup key j t := by
  induction t with
  | nil => rfl
  | cons r t ih =>
    by_cases hr : key r = k
    · have hrj : key r ≠ j := by
        rw [hr]
        exact hj.symm
      simpa [erase, lookup, hr, hj.symm] using ih
    · by_cases hrj : key r = j
      · simp [erase, lookup, hrj, hj]
      · simpa [erase, lookup, hr, hrj] using ih

lemma erase_eq_self {key : ρ → κ} {k : κ} {t : List ρ} :
    erase key k t = t ↔ lookup key k t = none := by
  simp [erase, lookup_none]

lemma perm_erase {key : ρ → κ} {k : κ} {t : List ρ} {r : ρ} (hn : (t.map key).Nodup)
    (h : lookup key k t = some r) : t.Perm (r :: erase key k t) := by
  induction t with
  | nil => cases h
  | cons x t ih =>
    rw [List.map_cons, List.nodup_cons] at hn
    by_cases hx : key x = k
    · obtain rfl : x = r := by simpa [lookup, hx] using h
      have ht : erase key k t = t := by
        rw [erase_eq_self, lookup_none]
        intro y hy hyk
        exact hn.1 (List.mem_map.mpr ⟨y, hy, hyk.trans hx.symm⟩)
      have he : erase key k (x :: t) = erase key k t := by simp [erase, hx]
      rw [he, ht]
    · have ht : lookup key k t = some r := by simpa [lookup, hx] using h
      have he : erase key k (x :: t) = x :: erase key k t := by simp [erase, hx]
      rw [he]
      exact ((ih hn.2 ht).cons x).trans (.swap r x _)

lemma replace_perm {key : ρ → κ} {k : κ} {t : List ρ} {r new : ρ} (hn : (t.map key).Nodup)
    (h : lookup key k t = some r) : (replace key k new t).Perm (new :: erase key k t) := by
  induction t with
  | nil => cases h
  | cons x t ih =>
    rw [List.map_cons, List.nodup_cons] at hn
    by_cases hx : key x = k
    · have ht : erase key k t = t := by
        rw [erase_eq_self, lookup_none]
        intro y hy hyk
        exact hn.1 (List.mem_map.mpr ⟨y, hy, hyk.trans hx.symm⟩)
      have he : erase key k (x :: t) = erase key k t := by simp [erase, hx]
      rw [he, ht, replace, if_pos hx]
    · have ht : lookup key k t = some r := by simpa [lookup, hx] using h
      have he : erase key k (x :: t) = x :: erase key k t := by simp [erase, hx]
      rw [he, replace, if_neg hx]
      exact ((ih hn.2 ht).cons x).trans (.swap new x _)

omit [DecidableEq κ] in
lemma concat_map_nodup {β : Type} {f : ρ → β} {t : List ρ} {r : ρ} (hf : (t.map f).Nodup)
    (hn : ∀ x ∈ t, f x ≠ f r) : ((t ++ [r]).map f).Nodup := by
  rw [List.map_append, List.map_singleton, List.nodup_append']
  refine ⟨hf, List.nodup_singleton _, ?_⟩
  rw [List.disjoint_singleton]
  intro hm
  obtain ⟨x, hx, hxr⟩ := List.mem_map.mp hm
  exact hn x hx hxr

/-! ## Tables of a database -/

structure TableOf (δ ρ κ : Type) where
  key : ρ → κ
  rows : δ → List ρ
  store : List ρ → δ → δ
  rows_store : ∀ t d, rows (store t d) = t
  store_rows : ∀ d, store (rows d) d = d

namespace TableOf

variable (T : TableOf δ ρ κ)

def find (k : κ) (d : δ) : Option ρ := lookup T.key k (T.rows d)
def append (r : ρ) (d : δ) : δ := T.store (T.rows d ++ [r]) d
def put (k : κ) (r : ρ) (d : δ) : δ := T.store (replace T.key k r (T.rows d)) d
def drop (k : κ) (d : δ) : δ := T.store (erase T.key k (T.rows d)) d

omit [DecidableEq κ] in
@[simp] lemma rows_append (r : ρ) (d : δ) : T.rows (T.append r d) = T.rows d ++ [r] :=
  T.rows_store _ _

@[simp] lemma rows_put (k : κ) (r : ρ) (d : δ) :
    T.rows (T.put k r d) = replace T.key k r (T.rows d) := T.rows_store _ _

@[simp] lemma rows_drop (k : κ) (d : δ) : T.rows (T.drop k d) = erase T.key k (T.rows d) :=
  T.rows_store _ _

omit [DecidableEq κ] in
lemma append_ne (r : ρ) (d : δ) : T.append r d ≠ d := by
  intro h
  have hl := congrArg (fun e => (T.rows e).length) h
  simp at hl

lemma put_eq_self {k : κ} {d : δ} {r new : ρ} (h : T.find k d = some r) :
    T.put k new d = d ↔ new = r := by
  constructor
  · intro hp
    have hr : replace T.key k new (T.rows d) = T.rows d := by rw [← rows_put, hp]
    exact (replace_eq_self h).mp hr
  · rintro rfl
    have hr : replace T.key k new (T.rows d) = T.rows d := (replace_eq_self h).mpr rfl
    rw [put, hr, T.store_rows]

lemma mem_put {k : κ} {d : δ} {new x : ρ} (h : x ∈ T.rows (T.put k new d)) : x = new ∨ x ∈ T.rows d := by
  rw [rows_put] at h
  exact mem_replace h

lemma find_put_self {k : κ} {d : δ} {r new : ρ} (hn : T.key new = k) (h : T.find k d = some r) :
    T.find k (T.put k new d) = some new := by
  rw [find, rows_put]
  exact lookup_replace_self hn h

lemma find_put_other {k j : κ} {d : δ} {new : ρ} (hn : T.key new = k) (hj : j ≠ k) :
    T.find j (T.put k new d) = T.find j d := by
  rw [find, rows_put]
  exact lookup_replace_other hn hj

lemma find_append {k : κ} {d : δ} {r : ρ} :
    T.find k (T.append r d) = (T.find k d).or (if T.key r = k then some r else none) := by
  rw [find, rows_append, lookup, List.find?_append]
  congr 1
  by_cases h : T.key r = k
  · simp [h]
  · simp [h]

lemma find_drop_self {k : κ} {d : δ} : T.find k (T.drop k d) = none := by
  rw [find, rows_drop]
  exact lookup_erase_self

lemma find_drop_other {k j : κ} {d : δ} (hj : j ≠ k) : T.find j (T.drop k d) = T.find j d := by
  rw [find, rows_drop]
  exact lookup_erase_other hj

lemma put_append {k : κ} {d : δ} {r new : ρ} (hs : ∀ t u d, T.store t (T.store u d) = T.store t d)
    (hr : T.key r = k) (h : T.find k d = none) : T.put k new (T.append r d) = T.append new d := by
  rw [put, rows_append, replace_concat hr h, append, hs, append]

/-! ## Statements. `clash` is what the declared constraints refuse and `err` what the database
raises then. -/

def getById (k : κ) : Tx δ ε (Option ρ) := do
  let d ← read
  pure (T.find k d)

def occupied (clash : δ → ρ → Bool) (r : ρ) (d : δ) : Bool :=
  (T.find (T.key r) d).isSome || clash d r

def insert (clash : δ → ρ → Bool) (err : ε) (r : ρ) : Tx δ ε ρ := do
  let d ← read
  if T.occupied clash r d then throw err
  else do
    write (T.append r d)
    pure r

/-- Assigning equal values emits no UPDATE, so the `onupdate` stamp is only applied to a row
that changes. -/
def update [DecidableEq ρ] (clash : δ → ρ → Bool) (err : ε) (k : κ) (assign stamp : ρ → ρ) :
    Tx δ ε (Option ρ) := do
  let d ← read
  match T.find k d with
  | none => pure none
  | some r =>
    if assign r = r then pure (some r)
    else if clash d (stamp (assign r)) then throw err
    else do
      write (T.put k (stamp (assign r)) d)
      pure (some (stamp (assign r)))

def delete (k : κ) (cascade : δ → δ) : Tx δ ε Bool := do
  let d ← read
  match T.find k d with
  | none => pure false
  | some _ => do
    write (cascade (T.drop k d))
    pure true

@[simp] lemma getById_bind {β : Type} (k : κ) (f : Option ρ → Tx δ ε β) (s : Session δ) :
    (T.getById k >>= f) s = f (T.find k s.view) s := rfl

lemma occupied_eq_false {clash : δ → ρ → Bool} {r : ρ} {d : δ} :
    T.occupied clash r d = false ↔ T.find (T.key r) d = none ∧ clash d r = false := by
  rw [occupied, Bool.or_eq_false_iff, Option.isSome_eq_false_iff, Option.isNone_iff_eq_none]

lemma occupied_inv {clash : δ → ρ → Bool} {r : ρ} {d : δ} (h : T.occupied clash r d = false) :
    T.find (T.key r) d = none ∧ clash d r = false := T.occupied_eq_false.mp h

lemma insert_refused {clash : δ → ρ → Bool} {err : ε} {r : ρ} {s : Session δ}
    (h : T.occupied clash r s.view = true) :
    T.insert clash err r s = (.error err, s) := by
  simp [insert, h]

lemma insert_accepted {clash : δ → ρ → Bool} {err : ε} {r : ρ} {s : Session δ}
    (h : T.occupied clash r s.view = false) :
    T.insert clash err r s = (.ok r, { s with view := T.append r s.view }) := by
  simp only [insert, read_bind, h, Bool.false_eq_true, if_false, write_bind, pure_apply]

lemma update_missing [DecidableEq ρ] {clash : δ → ρ → Bool} {err : ε} {k : κ} {assign stamp : ρ → ρ}
    {s : Session δ} (h : T.find k s.view = none) :
    T.update clash err k assign stamp s = (.ok none, s) := by
  simp [update, h]

lemma update_idle [DecidableEq ρ] {clash : δ → ρ → Bool} {err : ε} {k : κ} {assign stamp : ρ → ρ}
    {s : Session δ} {r : ρ} (h : T.find k s.view = some r) (ha : assign r = r) :
    T.update clash err k assign stamp s = (.ok (some r), s) := by
  simp [update, h, ha]

lemma update_refused [DecidableEq ρ] {clash : δ → ρ → Bool} {err : ε} {k : κ} {assign stamp : ρ → ρ}
    {s : Session δ} {r : ρ} (h : T.find k s.view = some r) (ha : assign r ≠ r)
    (hc : clash s.view (stamp (assign r)) = true) :
    T.update clash err k assign stamp s = (.error err, s) := by
  simp [update, h, ha, hc]

lemma update_accepted [DecidableEq ρ] {clash : δ → ρ → Bool} {err : ε} {k : κ} {assign stamp : ρ → ρ}
    {s : Session δ} {r : ρ} (h : T.find k s.view = some r) (ha : assign r ≠ r)
    (hc : clash s.view (stamp (assign r)) = false) :
    T.update clash err k assign stamp s =
      (.ok (some (stamp (assign r))), { s with view := T.put k (stamp (assign r)) s.view }) := by
  simp only [update, read_bind, h, ha, hc, Bool.false_eq_true, if_false, write_bind, pure_apply]

def settled [DecidableEq ρ] (assign stamp : ρ → ρ) (r : ρ) : ρ :=
  if assign r = r then r else stamp (assign r)

lemma settled_field {β : Type} [DecidableEq ρ] {assign stamp : ρ → ρ} (f : ρ → β)
    (hf : ∀ r, f (stamp r) = f r) (r : ρ) : f (settled assign stamp r) = f (assign r) := by
  by_cases h : assign r = r
  · rw [settled, if_pos h, h]
  · rw [settled, if_neg h, hf]

lemma update_settled [DecidableEq ρ] {clash : δ → ρ → Bool} {err : ε} {k : κ} {assign stamp : ρ → ρ}
    {s : Session δ} {r : ρ} (h : T.find k s.view = some r)
    (hc : clash s.view (stamp (assign r)) = false) :
    T.update clash err k assign stamp s =
      (.ok (some (settled assign stamp r)),
        { s with view := T.put k (settled assign stamp r) s.view }) := by
  by_cases ha : assign r = r
  · have hp : T.put k r s.view = s.view := (T.put_eq_self h).mpr rfl
    rw [T.update_idle h ha, settled, if_pos ha, hp]
  · rw [T.update_accepted h ha hc, settled, if_neg ha]

lemma update_inv [DecidableEq ρ] {clash : δ → ρ → Bool} {err : ε} {k : κ} {assign stamp : ρ → ρ}
    {s t : Session δ} {r : ρ} {o : Option ρ} (h : T.find k s.view = some r)
    (ht : T.update clash err k assign stamp s = (.ok o, t)) :
    o = some (settled assign stamp r) ∧ t = { s with view := T.put k (settled assign stamp r) s.view } := by
  by_cases ha : assign r = r
  · have hp : T.put k r s.view = s.view := (T.put_eq_self h).mpr rfl
    cases (T.update_idle h ha).symm.trans ht
    rw [settled, if_pos ha, hp]
    exact ⟨rfl, rfl⟩
  · rw [settled, if_neg ha]
    cases hc : clash s.view (stamp (assign r)) with
    | true => cases (T.update_refused h ha hc).symm.trans ht
    | false =>
      cases (T.update_accepted h ha hc).symm.trans ht
      exact ⟨rfl, rfl⟩

lemma delete_missing {k : κ} {cascade : δ → δ} {s : Session δ} (h : T.find k s.view = none) :
    (T.delete k cascade : Tx δ ε Bool) s = (.ok false, s) := by
  simp [delete, h]

lemma delete_found {k : κ} {cascade : δ → δ} {s : Session δ} {r : ρ} (h : T.find k s.view = some r) :
    (T.delete k cascade : Tx δ ε Bool) s = (.ok true, { s with view := cascade (T.drop k s.view) }) := by
  simp only [delete, read_bind, h, write_bind, pure_apply]

/-! ## What the statements keep -/

section Keeps

variable {I : Session δ → Prop}

lemma getById_keeps (k : κ) : Keeps I (T.getById k : Tx δ ε (Option ρ)) := fun _ h => h

lemma insert_keeps {clash : δ → ρ → Bool} {err : ε} {r : ρ}
    (h : ∀ s, I s → T.occupied clash r s.view = false → I { s with view := T.append r s.view }) :
    Keeps I (T.insert clash err r) := by
  intro s hs
  cases ho : T.occupied clash r s.view with
  | true =>
    rw [T.insert_refused ho]
    exact hs
  | false =>
    rw [T.insert_accepted ho]
    exact h s hs ho

lemma update_keeps [DecidableEq ρ] {clash : δ → ρ → Bool} {err : ε} {k : κ} {assign stamp : ρ → ρ}
    (h : ∀ s r, I s → T.find k s.view = some r → clash s.view (stamp (assign r)) = false →
      I { s with view := T.put k (stamp (assign r)) s.view }) :
    Keeps I (T.update clash err k assign stamp) := by
  intro s hs
  cases hf : T.find k s.view with
  | none =>
    rw [T.update_missing hf]
    exact hs
  | some r =>
    by_cases ha : assign r = r
    · rw [T.update_idle hf ha]
      exact hs
    · cases hc : clash s.view (stamp (assign r)) with
      | true =>
        rw [T.update_refused hf ha hc]
        exact hs
      | false =>
        rw [T.update_accepted hf ha hc]
        exact h s r hs hf hc

lemma delete_keeps {k : κ} {cascade : δ → δ}
    (h : ∀ s r, I s → T.find k s.view = some r → I { s with view := cascade (T.drop k s.view) }) :
    Keeps I (T.delete k cascade : Tx δ ε Bool) := by
  intro s hs
  cases hf : T.find k s.view with
  | none =>
    rw [T.delete_missing hf]
    exact hs
  | some r =>
    rw [T.delete_found hf]
    exact h s r hs hf

end Keeps

/-! ## Statements on two databases -/

/-- What `f` changes is neither in the table nor in what its constraint reads. -/
structure Apart (clash : δ → ρ → Bool) (f : δ → δ) : Prop where
  rows : ∀ d, T.rows (f d) = T.rows d
  store : ∀ t d, T.store t (f d) = f (T.store t d)
  clash : ∀ d r, clash (f d) r = clash d r

section Apart

variable {clash : δ → ρ → Bool} {f g : δ → δ}

lemma Apart.find (h : T.Apart clash f) (k : κ) (d : δ) : T.find k (f d) = T.find k d := by
  rw [TableOf.find, h.rows, ← TableOf.find]

lemma Apart.put (h : T.Apart clash f) (k : κ) (r : ρ) (d : δ) : T.put k r (f d) = f (T.put k r d) := by
  rw [TableOf.put, h.rows, h.store, ← TableOf.put]

lemma getById_agree (hf : T.Apart clash f) (hg : T.Apart clash g) (k : κ) :
    Agree f g (T.getById k : Tx δ ε (Option ρ)) (T.getById k) := by
  intro s
  refine ⟨.ok (T.find k s.view), s, ?_, ?_⟩
  · change (Except.ok (T.find k (f s.view)), s.map f) = _
    rw [hf.find]
  · change (Except.ok (T.find k (g s.view)), s.map g) = _
    rw [hg.find]

lemma update_apart [DecidableEq ρ] (h : T.Apart clash f) {err : ε} {k : κ} {assign stamp : ρ → ρ}
    (s : Session δ) :
    T.update clash err k assign stamp (s.map f) = ((T.update clash err k assign stamp s).1,
      (T.update clash err k assign stamp s).2.map f) := by
  have hfind : T.find k (s.map f).view = T.find k s.view := h.find T k s.view
  cases hr : T.find k s.view with
  | none => rw [T.update_missing (hfind.trans hr), T.update_missing hr]
  | some r =>
    by_cases ha : assign r = r
    · rw [T.update_idle (hfind.trans hr) ha, T.update_idle hr ha]
    · cases hc : clash s.view (stamp (assign r)) with
      | true =>
        rw [T.update_refused (hfind.trans hr) ha ((h.clash _ _).trans hc), T.update_refused hr ha hc]
      | false =>
        rw [T.update_accepted (hfind.trans hr) ha ((h.clash _ _).trans hc), T.update_accepted hr ha hc]
        have hp : T.put k (stamp (assign r)) (s.map f).view = f (T.put k (stamp (assign r)) s.view) :=
          h.put T k _ _
        rw [hp]
        rfl

lemma update_agree [DecidableEq ρ] (hf : T.Apart clash f) (hg : T.Apart clash g) (err : ε) (k : κ)
    (assign stamp : ρ → ρ) :
    Agree f g (T.update clash err k assign stamp) (T.update clash err k assign stamp) :=
  fun s => ⟨_, _, T.update_apart hf s, T.update_apart hg s⟩

end Apart

end TableOf

end NotebookExecution.Library.Table
