import NotebookExecution.Library.Table

/-! Two programs side by side, on databases that are related: they raise the same, or return related
values, and leave related databases. -/

namespace NotebookExecution.Library.Relational

open Transaction Table

variable {δ ε α α' β β' : Type}

inductive Results (V : α → α' → Prop) : Except ε α → Except ε α' → Prop
  | returned {a : α} {a' : α'} (h : V a a') : Results V (.ok a) (.ok a')
  | raised (e : ε) : Results V (.error e) (.error e)

lemma Results.mono {V V' : α → α' → Prop} {x : Except ε α} {y : Except ε α'} (h : Results V x y)
    (hv : ∀ a a', V a a' → V' a a') : Results V' x y := by
  cases h with
  | returned h => exact .returned (hv _ _ h)
  | raised e => exact .raised e

lemma Results.refl (r : Except ε α) : Results Eq r r := by
  cases r with
  | ok a => exact .returned rfl
  | error e => exact .raised e

lemma Results.eq {r r' : Except ε α} (h : Results Eq r r') : r = r' := by
  cases h with
  | returned h => rw [h]
  | raised e => rfl

structure Between (R : δ → δ → Prop) (s t : Session δ) : Prop where
  committed : R s.committed t.committed
  view : R s.view t.view

def Relates (R : δ → δ → Prop) (V : α → α' → Prop) (p : Tx δ ε α) (q : Tx δ ε α') : Prop :=
  ∀ s t, Between R s t → Results V (p s).1 (q t).1 ∧ Between R (p s).2 (q t).2

namespace Relates

variable {R : δ → δ → Prop} {V : α → α' → Prop} {W : β → β' → Prop} {p : Tx δ ε α} {q : Tx δ ε α'}

lemma pure {a : α} {a' : α'} (h : V a a') : Relates R V (pure a : Tx δ ε α) (pure a') :=
  fun _ _ hs => ⟨.returned h, hs⟩

lemma throw (e : ε) : Relates R V (throw e : Tx δ ε α) (throw e) := fun _ _ hs => ⟨.raised e, hs⟩

lemma ofExcept {x : Except ε α} {y : Except ε α'} (h : Results V x y) :
    Relates R V (ofExcept x : Tx δ ε α) (ofExcept y) := by
  cases h with
  | returned h => exact Relates.pure h
  | raised e => exact Relates.throw e

lemma read : Relates R R (read : Tx δ ε δ) read := fun _ _ hs => ⟨.returned hs.view, hs⟩

lemma write {d d' : δ} (h : R d d') : Relates R Eq (write d : Tx δ ε Unit) (write d') :=
  fun _ _ hs => ⟨.returned rfl, hs.committed, h⟩

lemma commit : Relates R Eq (commit : Tx δ ε Unit) commit :=
  fun _ _ hs => ⟨.returned rfl, hs.view, hs.view⟩

lemma bind {k : α → Tx δ ε β} {l : α' → Tx δ ε β'} (hp : Relates R V p q)
    (hk : ∀ a a', V a a' → Relates R W (k a) (l a')) : Relates R W (p >>= k) (q >>= l) := by
  intro s t hs
  have h := hp s t hs
  obtain ⟨r, u, hr⟩ : ∃ r u, p s = (r, u) := ⟨_, _, rfl⟩
  obtain ⟨r', u', hr'⟩ : ∃ r' u', q t = (r', u') := ⟨_, _, rfl⟩
  rw [hr, hr'] at h
  obtain ⟨hres, hu⟩ := h
  cases hres with
  | returned hv =>
    rw [bind_ok hr, bind_ok hr']
    exact hk _ _ hv u u' hu
  | raised e =>
    rw [bind_error hr, bind_error hr']
    exact ⟨.raised e, hu⟩

lemma tryCatch {h : ε → Tx δ ε α} {h' : ε → Tx δ ε α'} (hp : Relates R V p q)
    (hh : ∀ e, Relates R V (h e) (h' e)) : Relates R V (tryCatch p h) (tryCatch q h') := by
  intro s t hs
  have hc := hp s t hs
  obtain ⟨r, u, hr⟩ : ∃ r u, p s = (r, u) := ⟨_, _, rfl⟩
  obtain ⟨r', u', hr'⟩ : ∃ r' u', q t = (r', u') := ⟨_, _, rfl⟩
  rw [hr, hr'] at hc
  obtain ⟨hres, hu⟩ := hc
  cases hres with
  | returned hv =>
    rw [catch_ok hr, catch_ok hr']
    exact ⟨.returned hv, hu⟩
  | raised e =>
    rw [catch_error hr, catch_error hr']
    exact hh e u u' hu

lemma ite {c : Prop} [Decidable c] {p' : Tx δ ε α} {q' : Tx δ ε α'} (hp : Relates R V p q)
    (hq : Relates R V p' q') : Relates R V (if c then p else p') (if c then q else q') := by
  split
  · exact hp
  · exact hq

lemma mono {V' : α → α' → Prop} (h : Relates R V p q) (hv : ∀ a a', V a a' → V' a a') :
    Relates R V' p q := fun s t hs => ⟨(h s t hs).1.mono hv, (h s t hs).2⟩

lemma inSession (h : Relates R V p q) {d d' : δ} (hd : R d d') :
    Results V (inSession d p).1 (inSession d' q).1 ∧ R (inSession d p).2 (inSession d' q).2 := by
  obtain ⟨hres, hs⟩ := h (.open d) (.open d') ⟨hd, hd⟩
  rw [inSession_result, inSession_result, inSession_committed, inSession_committed]
  exact ⟨hres, hs.committed⟩

lemma request (h : Relates R V p q) {d d' : δ} (hd : R d d') :
    Results V (request d p).1 (request d' q).1 ∧ R (request d p).2 (request d' q).2 :=
  (h.bind fun _ _ ha => .bind .commit fun _ _ _ => .pure ha).inSession hd

end Relates

section Tables

variable {ρ κ : Type} [DecidableEq κ] {T : TableOf δ ρ κ} {V : ρ → ρ → Prop} {R : δ → δ → Prop}
  {clash : δ → ρ → Bool} {d d' : δ} {k : κ} {r r' : ρ} {l l' : List ρ}

structure Mirrors (T : TableOf δ ρ κ) (clash : δ → ρ → Bool) (V : ρ → ρ → Prop) (R : δ → δ → Prop) : Prop where
  key : ∀ {r r'}, V r r' → T.key r = T.key r'
  rows : ∀ {d d'}, R d d' → List.Forall₂ V (T.rows d) (T.rows d')
  store : ∀ {d d' l l'}, R d d' → List.Forall₂ V l l' → R (T.store l d) (T.store l' d')
  clash : ∀ {d d' r r'}, R d d' → V r r' → clash d r = clash d' r'

lemma lookup_mirrors {key : ρ → κ} (hk : ∀ r r', V r r' → key r = key r') (h : List.Forall₂ V l l') :
    Option.Rel V (lookup key k l) (lookup key k l') := by
  induction h with
  | nil => exact .none
  | @cons r r' l l' hr hl ih =>
    by_cases hx : key r = k
    · have hx' : key r' = k := (hk r r' hr).symm.trans hx
      simpa [lookup, hx, hx'] using Option.Rel.some hr
    · have hx' : key r' ≠ k := fun he => hx ((hk r r' hr).trans he)
      simpa [lookup, hx, hx'] using ih

lemma replace_mirrors {key : ρ → κ} (hk : ∀ r r', V r r' → key r = key r') (h : List.Forall₂ V l l')
    (hr : V r r') : List.Forall₂ V (replace key k r l) (replace key k r' l') := by
  induction h with
  | nil => exact .nil
  | @cons x x' l l' hx hl ih =>
    by_cases hn : key x = k
    · have hn' : key x' = k := (hk x x' hx).symm.trans hn
      rw [replace, replace, if_pos hn, if_pos hn']
      exact .cons hr hl
    · have hn' : key x' ≠ k := fun he => hn ((hk x x' hx).trans he)
      rw [replace, replace, if_neg hn, if_neg hn']
      exact .cons hx ih

lemma any_mirrors {p q : ρ → Bool} (hp : ∀ r r', V r r' → p r = q r') (h : List.Forall₂ V l l') :
    l.any p = l'.any q := by
  induction h with
  | nil => rfl
  | cons hr _ ih => rw [List.any_cons, List.any_cons, hp _ _ hr, ih]

lemma find?_mirrors {p q : ρ → Bool} (hp : ∀ r r', V r r' → p r = q r') (h : List.Forall₂ V l l') :
    Option.Rel V (l.find? p) (l'.find? q) := by
  induction h with
  | nil => exact .none
  | @cons r r' l l' hr hl ih =>
    rw [List.find?_cons, List.find?_cons, ← hp r r' hr]
    cases p r with
    | true => exact .some hr
    | false => exact ih

namespace Mirrors

variable (h : Mirrors T clash V R)

include h

lemma find (hd : R d d') (k : κ) : Option.Rel V (T.find k d) (T.find k d') :=
  lookup_mirrors (fun _ _ => h.key) (h.rows hd)

omit [DecidableEq κ] in
lemma append (hd : R d d') (hr : V r r') : R (T.append r d) (T.append r' d') :=
  h.store hd (List.rel_append (h.rows hd) (.cons hr .nil))

lemma put (hd : R d d') (hr : V r r') : R (T.put k r d) (T.put k r' d') :=
  h.store hd (replace_mirrors (fun _ _ => h.key) (h.rows hd) hr)

lemma drop (hd : R d d') : R (T.drop k d) (T.drop k d') := by
  refine h.store hd ((List.rel_filter ?_) (h.rows hd))
  intro r r' hr
  dsimp only
  rw [h.key hr]

lemma occupied (hd : R d d') (hr : V r r') : T.occupied clash r d = T.occupied clash r' d' := by
  rw [TableOf.occupied, TableOf.occupied, h.clash hd hr, h.key hr]
  have hfind := h.find hd (T.key r')
  generalize T.find (T.key r') d = o at hfind
  generalize T.find (T.key r') d' = o' at hfind
  cases hfind with
  | none => rfl
  | some hx => rfl

lemma getById (k : κ) : Relates R (Option.Rel V) (T.getById k : Tx δ ε (Option ρ)) (T.getById k) :=
  .bind .read fun _ _ hd => .pure (h.find hd k)

lemma insert (err : ε) (hr : V r r') : Relates R V (T.insert clash err r) (T.insert clash err r') := by
  refine .bind .read fun d d' hd => ?_
  rw [h.occupied hd hr]
  exact .ite (.throw err) (.bind (.write (h.append hd hr)) fun _ _ _ => .pure hr)

lemma delete {cascade : δ → δ} (hc : ∀ {d d'}, R d d' → R (cascade d) (cascade d')) (k : κ) :
    Relates R Eq (T.delete k cascade : Tx δ ε Bool) (T.delete k cascade) := by
  refine .bind .read fun d d' hd => ?_
  have hfind := h.find hd k
  generalize T.find k d = o at hfind
  generalize T.find k d' = o' at hfind
  cases hfind with
  | none => exact .pure rfl
  | some hr => exact .bind (.write (hc (h.drop hd))) fun _ _ _ => .pure rfl

lemma update [DecidableEq ρ] {assign assign' stamp stamp' : ρ → ρ} (err : ε) (k : κ)
    (ha : ∀ {r r'}, V r r' → V (assign r) (assign' r') ∧ (assign r = r ↔ assign' r' = r'))
    (hs : ∀ {r r'}, V r r' → V (stamp r) (stamp' r')) :
    Relates R (Option.Rel V) (T.update clash err k assign stamp) (T.update clash err k assign' stamp') := by
  refine .bind .read fun d d' hd => ?_
  have hfind := h.find hd k
  generalize T.find k d = o at hfind
  generalize T.find k d' = o' at hfind
  cases hfind with
  | none => exact .pure .none
  | @some r r' hr =>
    obtain ⟨hassign, hidle⟩ := ha hr
    have hnew := hs hassign
    dsimp only
    rw [h.clash hd hnew]
    simp only [hidle]
    refine .ite (.pure (.some hr)) (.ite (.throw err) ?_)
    exact .bind (.write (h.put hd hnew)) fun _ _ _ => .pure (.some hnew)

end Mirrors

end Tables

end NotebookExecution.Library.Relational
