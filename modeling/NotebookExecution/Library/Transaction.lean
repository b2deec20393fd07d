import Mathlib.Tactic

/-! Programs over a database session. A session sees its own flushed changes in `view`; the
database keeps only what `commit` has moved to `committed`. -/

namespace NotebookExecution.Library.Transaction

structure Session (δ : Type) where
  committed : δ
  view : δ

variable {δ ε α β : Type}

def Session.open (d : δ) : Session δ := ⟨d, d⟩

/-- A program raises an `ε` or returns an `α`; either way the session it leaves is kept. -/
def Tx (δ ε α : Type) : Type := Session δ → Except ε α × Session δ

instance : Monad (Tx δ ε) where
  pure a := fun s => (.ok a, s)
  bind p k := fun s =>
    match p s with
    | (.ok a, t) => k a t
    | (.error e, t) => (.error e, t)

instance : MonadExceptOf ε (Tx δ ε) where
  throw e := fun s => (.error e, s)
  tryCatch p h := fun s =>
    match p s with
    | (.ok a, t) => (.ok a, t)
    | (.error e, t) => h e t

def read : Tx δ ε δ := fun s => (.ok s.view, s)
def write (d : δ) : Tx δ ε Unit := fun s => (.ok (), { s with view := d })
def commit : Tx δ ε Unit := fun s => (.ok (), ⟨s.view, s.view⟩)
def rollback : Tx δ ε Unit := fun s => (.ok (), ⟨s.committed, s.committed⟩)

@[simp] lemma pure_apply (a : α) (s : Session δ) : (pure a : Tx δ ε α) s = (.ok a, s) := rfl

@[simp] lemma throw_apply (e : ε) (s : Session δ) : (throw e : Tx δ ε α) s = (.error e, s) := rfl

lemma bind_ok {p : Tx δ ε α} {k : α → Tx δ ε β} {s t : Session δ} {a : α} (h : p s = (.ok a, t)) :
    (p >>= k) s = k a t := by
  change (match p s with | (.ok a, t) => k a t | (.error e, t) => (.error e, t)) = _
  rw [h]

lemma bind_error {p : Tx δ ε α} {k : α → Tx δ ε β} {s t : Session δ} {e : ε}
    (h : p s = (.error e, t)) : (p >>= k) s = (.error e, t) := by
  change (match p s with | (.ok a, t) => k a t | (.error e, t) => (.error e, t)) = _
  rw [h]

lemma catch_ok {p : Tx δ ε α} {h : ε → Tx δ ε α} {s t : Session δ} {a : α} (hp : p s = (.ok a, t)) :
    (tryCatch p h) s = (.ok a, t) := by
  change (match p s with | (.ok a, t) => (Except.ok a, t) | (.error e, t) => h e t) = _
  rw [hp]

lemma catch_error {p : Tx δ ε α} {h : ε → Tx δ ε α} {s t : Session δ} {e : ε}
    (hp : p s = (.error e, t)) : (tryCatch p h) s = h e t := by
  change (match p s with | (.ok a, t) => (Except.ok a, t) | (.error e, t) => h e t) = _
  rw [hp]

lemma bind_congr_at {p q : Tx δ ε α} {f g : α → Tx δ ε β} {s : Session δ} (hp : p s = q s)
    (h : ∀ a t, q s = (.ok a, t) → f a t = g a t) : (p >>= f) s = (q >>= g) s := by
  obtain ⟨r, t, hr⟩ : ∃ r t, q s = (r, t) := ⟨_, _, rfl⟩
  cases r with
  | ok a => rw [bind_ok (hp.trans hr), bind_ok hr, h a t hr]
  | error e => rw [bind_error (hp.trans hr), bind_error hr]

lemma catch_congr_at {p q : Tx δ ε α} {h : ε → Tx δ ε α} {s : Session δ} (hp : p s = q s) :
    (tryCatch p h) s = (tryCatch q h) s := by
  obtain ⟨r, t, hr⟩ : ∃ r t, q s = (r, t) := ⟨_, _, rfl⟩
  cases r with
  | ok a => rw [catch_ok (hp.trans hr), catch_ok hr]
  | error e => rw [catch_error (hp.trans hr), catch_error hr]

lemma catch_bind_ok {p : Tx δ ε α} {k : α → Tx δ ε β} {h : ε → Tx δ ε β} {s t : Session δ} {a : α}
    (hp : p s = (.ok a, t)) : (tryCatch (p >>= k) h) s = (tryCatch (k a) h) t := by
  have hk : (p >>= k) s = k a t := bind_ok hp
  obtain ⟨r, u, hr⟩ : ∃ r u, k a t = (r, u) := ⟨_, _, rfl⟩
  cases r with
  | ok b => rw [catch_ok (hk.trans hr), catch_ok hr]
  | error e => rw [catch_error (hk.trans hr), catch_error hr]

lemma catch_bind_error {p : Tx δ ε α} {k : α → Tx δ ε β} {h : ε → Tx δ ε β} {s t : Session δ} {e : ε}
    (hp : p s = (.error e, t)) : (tryCatch (p >>= k) h) s = h e t :=
  catch_error (bind_error hp)

lemma id_map_tx (p : Tx δ ε α) : id <$> p = p := by
  funext s
  change (match p s with | (.ok a, t) => (Except.ok (id a), t) | (.error e, t) => (.error e, t)) = p s
  obtain ⟨r, t⟩ := p s
  cases r <;> rfl

lemma bind_assoc_tx {γ : Type} (p : Tx δ ε α) (f : α → Tx δ ε β) (g : β → Tx δ ε γ) :
    p >>= f >>= g = p >>= fun a => f a >>= g := by
  funext s
  obtain ⟨r, t, hr⟩ : ∃ r t, p s = (r, t) := ⟨_, _, rfl⟩
  cases r with
  | ok a =>
    have hf : (p >>= f) s = f a t := bind_ok hr
    obtain ⟨r', t', hr'⟩ : ∃ r' t', f a t = (r', t') := ⟨_, _, rfl⟩
    cases r' with
    | ok b => exact (bind_ok (hf.trans hr')).trans ((bind_ok hr).trans (bind_ok hr')).symm
    | error e => exact (bind_error (hf.trans hr')).trans ((bind_ok hr).trans (bind_error hr')).symm
  | error e => exact (bind_error (bind_error hr)).trans (bind_error hr).symm

instance : LawfulMonad (Tx δ ε) :=
  LawfulMonad.mk' (Tx δ ε) id_map_tx (fun _ _ => rfl) bind_assoc_tx

lemma bind_ok_inv {p : Tx δ ε α} {k : α → Tx δ ε β} {s t : Session δ} {b : β}
    (h : (p >>= k) s = (.ok b, t)) : ∃ a u, p s = (.ok a, u) ∧ k a u = (.ok b, t) := by
  obtain ⟨r, u, hr⟩ : ∃ r u, p s = (r, u) := ⟨_, _, rfl⟩
  cases r with
  | ok a => exact ⟨a, u, hr, (bind_ok hr).symm.trans h⟩
  | error e =>
    rw [bind_error hr] at h
    cases h

lemma bind_error_inv {p : Tx δ ε α} {k : α → Tx δ ε β} {s t : Session δ} {e : ε}
    (h : (p >>= k) s = (.error e, t)) :
    p s = (.error e, t) ∨ ∃ a u, p s = (.ok a, u) ∧ k a u = (.error e, t) := by
  obtain ⟨r, u, hr⟩ : ∃ r u, p s = (r, u) := ⟨_, _, rfl⟩
  cases r with
  | ok a => exact Or.inr ⟨a, u, hr, (bind_ok hr).symm.trans h⟩
  | error e' =>
    rw [bind_error hr] at h
    cases h
    exact Or.inl hr

lemma ofExcept_inv {x : Except ε α} {s t : Session δ} {a : α}
    (h : (ofExcept x : Tx δ ε α) s = (.ok a, t)) : x = .ok a ∧ t = s := by
  cases x with
  | ok b =>
    cases h
    exact ⟨rfl, rfl⟩
  | error e => cases h

lemma map_ok_inv {p : Tx δ ε α} {f : α → β} {s t : Session δ} {b : β}
    (h : (p >>= fun a => pure (f a)) s = (.ok b, t)) : ∃ a, b = f a := by
  obtain ⟨a, u, -, hk⟩ := bind_ok_inv h
  rw [pure_apply] at hk
  cases hk
  exact ⟨a, rfl⟩

@[simp] lemma read_bind (k : δ → Tx δ ε β) (s : Session δ) : (read >>= k) s = k s.view s := rfl

@[simp] lemma write_bind (d : δ) (k : Unit → Tx δ ε β) (s : Session δ) :
    (write d >>= k) s = k () { s with view := d } := rfl

/-! ## The errors of a computation -/

def Raises (P : ε → Prop) (r : Except ε α) : Prop := ∀ e, r = .error e → P e

namespace Raises

variable {P : ε → Prop}

lemma ok (a : α) : Raises P (.ok a : Except ε α) := fun _ h => by cases h

lemma error {e : ε} (h : P e) : Raises P (.error e : Except ε α) := fun _ he => by
  cases he
  exact h

lemma bind {r : Except ε α} {k : α → Except ε β} (hr : Raises P r) (hk : ∀ a, Raises P (k a)) :
    Raises P (r >>= k) := by
  cases r with
  | ok a => exact hk a
  | error e => exact error (hr e rfl)

lemma foldlM {step : β → α → Except ε β} {l : List α} {b : β} (h : ∀ b a, Raises P (step b a)) :
    Raises P (l.foldlM step b) := by
  induction l generalizing b with
  | nil => exact ok b
  | cons a l ih =>
    rw [List.foldlM_cons]
    exact bind (h b a) fun c => ih

lemma ofExcept_iff {r : Except ε α} {s : Session δ} :
    Raises P ((MonadExcept.ofExcept r : Tx δ ε α) s).1 ↔ Raises P r := by
  cases r with
  | ok a => exact Iff.rfl
  | error e => exact Iff.rfl

lemma tx_bind_iff {p : Tx δ ε α} {k : α → Tx δ ε β} {s : Session δ}
    (hp : ∀ a t, p s = (.ok a, t) → t = s) :
    Raises P ((p >>= k) s).1 ↔ Raises P (p s).1 ∧ ∀ a, p s = (.ok a, s) → Raises P (k a s).1 := by
  obtain ⟨r, t, hr⟩ : ∃ r t, p s = (r, t) := ⟨_, _, rfl⟩
  cases r with
  | ok a =>
    obtain rfl := hp a t hr
    rw [bind_ok hr, hr]
    constructor
    · intro h
      refine ⟨ok a, fun b hb => ?_⟩
      cases hb
      exact h
    · intro h
      exact h.2 a rfl
  | error e =>
    rw [bind_error hr, hr]
    constructor
    · intro h
      refine ⟨fun err he => h err ?_, fun b hb => by cases hb⟩
      cases he
      rfl
    · intro h err he
      apply h.1 err
      cases he
      rfl

lemma ofExcept_bind_iff {r : Except ε α} {k : α → Tx δ ε β} {s : Session δ} :
    Raises P (((MonadExcept.ofExcept r : Tx δ ε α) >>= k) s).1 ↔
      Raises P r ∧ ∀ a, r = .ok a → Raises P (k a s).1 := by
  rw [tx_bind_iff fun a t h => (ofExcept_inv h).2, ofExcept_iff]
  refine and_congr_right fun _ => forall_congr' fun a => ?_
  constructor
  · rintro h rfl
    exact h rfl
  · intro h ha
    exact h (ofExcept_inv ha).1

end Raises

/-! ## What a program keeps of its session -/

def Keeps (I : Session δ → Prop) (p : Tx δ ε α) : Prop := ∀ s, I s → I (p s).2

namespace Keeps

variable {I : Session δ → Prop}

lemma pure (a : α) : Keeps I (pure a : Tx δ ε α) := fun _ h => h

lemma throw (e : ε) : Keeps I (throw e : Tx δ ε α) := fun _ h => h

lemma read : Keeps I (read : Tx δ ε δ) := fun _ h => h

lemma ofExcept (x : Except ε α) : Keeps I (ofExcept x : Tx δ ε α) := by
  cases x with
  | ok a => exact Keeps.pure a
  | error e => exact Keeps.throw e

lemma bind {p : Tx δ ε α} {k : α → Tx δ ε β} (hp : Keeps I p) (hk : ∀ a, Keeps I (k a)) :
    Keeps I (p >>= k) := by
  intro s hs
  have ht := hp s hs
  obtain ⟨r, t, hr⟩ : ∃ r t, p s = (r, t) := ⟨_, _, rfl⟩
  rw [hr] at ht
  cases r with
  | ok a =>
    rw [bind_ok hr]
    exact hk a t ht
  | error e =>
    rw [bind_error hr]
    exact ht

lemma tryCatch {p : Tx δ ε α} {h : ε → Tx δ ε α} (hp : Keeps I p) (hh : ∀ e, Keeps I (h e)) :
    Keeps I (tryCatch p h) := by
  intro s hs
  have ht := hp s hs
  obtain ⟨r, t, hr⟩ : ∃ r t, p s = (r, t) := ⟨_, _, rfl⟩
  rw [hr] at ht
  cases r with
  | ok a =>
    rw [catch_ok hr]
    exact ht
  | error e =>
    rw [catch_error hr]
    exact hh e t ht

lemma ite {c : Prop} [Decidable c] {p q : Tx δ ε α} (hp : Keeps I p) (hq : Keeps I q) :
    Keeps I (if c then p else q) := by
  split
  · exact hp
  · exact hq

end Keeps

/-! ## Two programs on sessions that differ -/

def Session.map (f : δ → δ) (s : Session δ) : Session δ := ⟨f s.committed, f s.view⟩

/-- On two sessions that `f` and `g` make of one, the programs answer the same, and leave two that they
make of one again. -/
def Agree (f g : δ → δ) (p q : Tx δ ε α) : Prop :=
  ∀ s : Session δ, ∃ (r : Except ε α) (t : Session δ), p (s.map f) = (r, t.map f) ∧ q (s.map g) = (r, t.map g)

namespace Agree

variable {f g : δ → δ}

lemma pure (a : α) : Agree f g (pure a : Tx δ ε α) (pure a) := fun s => ⟨.ok a, s, rfl, rfl⟩

lemma throw (e : ε) : Agree f g (throw e : Tx δ ε α) (throw e) := fun s => ⟨.error e, s, rfl, rfl⟩

lemma ofExcept (x : Except ε α) : Agree f g (ofExcept x : Tx δ ε α) (ofExcept x) := by
  cases x with
  | ok a => exact Agree.pure a
  | error e => exact Agree.throw e

lemma bind {p q : Tx δ ε α} {k l : α → Tx δ ε β} (hp : Agree f g p q) (hk : ∀ a, Agree f g (k a) (l a)) :
    Agree f g (p >>= k) (q >>= l) := by
  intro s
  obtain ⟨r, t, hpr, hqr⟩ := hp s
  cases r with
  | ok a =>
    obtain ⟨r', u, hku, hlu⟩ := hk a t
    exact ⟨r', u, (bind_ok hpr).trans hku, (bind_ok hqr).trans hlu⟩
  | error e => exact ⟨.error e, t, bind_error hpr, bind_error hqr⟩

lemma tryCatch {p q : Tx δ ε α} {h h' : ε → Tx δ ε α} (hp : Agree f g p q)
    (hh : ∀ e, Agree f g (h e) (h' e)) : Agree f g (tryCatch p h) (tryCatch q h') := by
  intro s
  obtain ⟨r, t, hpr, hqr⟩ := hp s
  cases r with
  | ok a => exact ⟨.ok a, t, catch_ok hpr, catch_ok hqr⟩
  | error e =>
    obtain ⟨r', u, hu, hu'⟩ := hh e t
    exact ⟨r', u, (catch_error hpr).trans hu, (catch_error hqr).trans hu'⟩

lemma ite {c : Prop} [Decidable c] {p q p' q' : Tx δ ε α} (hp : Agree f g p p') (hq : Agree f g q q') :
    Agree f g (if c then p else q) (if c then p' else q') := by
  split
  · exact hp
  · exact hq

end Agree

/-! ## Performing a change on a fresh session -/

def Performs (p : Tx δ ε α) (d : δ) (a : α) (d' : δ) : Prop := p (.open d) = (.ok a, ⟨d, d'⟩)

lemma Performs.bind {p : Tx δ ε α} {k : α → Tx δ ε β} {d d' : δ} {a : α} {b : β}
    (hp : Performs p d a d) (hk : Performs (k a) d b d') : Performs (p >>= k) d b d' :=
  (bind_ok hp).trans hk

lemma Performs.map {p : Tx δ ε α} {f : α → β} {d d' : δ} {a : α} (hp : Performs p d a d') :
    Performs (p >>= fun x => pure (f x)) d (f a) d' :=
  bind_ok hp

/-! ## One session from opening to closing -/

/-- `close` drops whatever was flushed and not committed; an error first rolls back, which
drops the same changes. -/
def inSession (d : δ) (p : Tx δ ε α) : Except ε α × δ :=
  match p (.open d) with
  | (.ok a, s) => (.ok a, s.committed)
  | (.error e, s) => (.error e, ((rollback : Tx δ ε Unit) s).2.committed)

lemma Performs.inSession {p : Tx δ ε α} {d d' : δ} {a : α} (h : Performs p d a d') :
    inSession d p = (.ok a, d) := by
  rw [Transaction.inSession]
  rw [h]

lemma inSession_committed (d : δ) (p : Tx δ ε α) :
    (inSession d p).2 = (p (.open d)).2.committed := by
  rw [inSession]
  obtain ⟨r, s⟩ := p (.open d)
  cases r <;> rfl

lemma inSession_result (d : δ) (p : Tx δ ε α) : (inSession d p).1 = (p (.open d)).1 := by
  rw [inSession]
  obtain ⟨r, s⟩ := p (.open d)
  cases r <;> rfl

def request (d : δ) (p : Tx δ ε α) : Except ε α × δ :=
  inSession d do
    let a ← p
    commit
    pure a

lemma request_returns {p : Tx δ ε α} {d : δ} {a : α} {s : Session δ} (h : p (.open d) = (.ok a, s)) :
    request d p = (.ok a, s.view) := by
  rw [request, inSession, bind_ok h]
  rfl

lemma request_raises {p : Tx δ ε α} {d : δ} {e : ε} {s : Session δ} (h : p (.open d) = (.error e, s))
    (hs : s.committed = d) : request d p = (.error e, d) := by
  rw [request, inSession, bind_error h, ← hs]
  rfl

lemma request_ok {p : Tx δ ε α} {d : δ} {a : α} {s : Session δ} (h : p (.open d) = (.ok a, s)) :
    (request d p).2 = s.view := by
  rw [request_returns h]

/-- A request whose program commits nothing by itself returns, or leaves everything as it was. -/
lemma request_cases {p : Tx δ ε α} {d : δ} (hp : Keeps (fun s => s.committed = d) p) :
    (∃ a s, p (.open d) = (.ok a, s) ∧ (request d p).2 = s.view) ∨ (request d p).2 = d := by
  have hc : (p (.open d)).2.committed = d := hp (.open d) rfl
  obtain ⟨r, s, hr⟩ : ∃ r s, p (.open d) = (r, s) := ⟨_, _, rfl⟩
  cases r with
  | ok a => exact Or.inl ⟨a, s, hr, request_ok hr⟩
  | error e =>
    apply Or.inr
    rw [hr] at hc
    rw [request, inSession_committed, bind_error hr]
    exact hc

lemma request_kept {I : δ → Prop} {p : Tx δ ε α} {d : δ}
    (ht : (p (.open d)).2.committed = d ∧ I (p (.open d)).2.view) (hd : I d) : I (request d p).2 := by
  obtain ⟨r, t, hr⟩ : ∃ r t, p (.open d) = (r, t) := ⟨_, _, rfl⟩
  rw [hr] at ht
  rw [request, inSession_committed]
  cases r with
  | ok a =>
    rw [bind_ok hr]
    exact ht.2
  | error e =>
    rw [bind_error hr]
    exact ht.1.symm ▸ hd

lemma request_keeps {I : δ → Prop} {p : Tx δ ε α} {d : δ}
    (hp : Keeps (fun s => s.committed = d ∧ I s.view) p) (hd : I d) : I (request d p).2 :=
  request_kept (hp (.open d) ⟨rfl, hd⟩) hd

end NotebookExecution.Library.Transaction
