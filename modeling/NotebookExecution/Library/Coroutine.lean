import Mathlib.Data.List.Basic

/-! Programs of a task that gives way at named points. The task can be cancelled: the cancellation is
delivered at one of the points, as an interruption that is no exception, and only a handler of its own
takes it. -/

namespace NotebookExecution.Library.Coroutine

inductive Interruption (ε : Type)
  | raised (e : ε)
  | cancelled

/-- `pending` is the point at which the cancellation will be delivered. What the program reports is kept
with a mark: whether the cancellation had been delivered by then. -/
structure World (π σ ω : Type) where
  state : σ
  pending : Option π
  delivered : Bool
  reported : List (ω × Bool)

def Co (π σ ω ε α : Type) : Type :=
  World π σ ω → Except (Interruption ε) α × World π σ ω

variable {π σ ω ε α β : Type}

def World.withState (s : σ) (w : World π σ ω) : World π σ ω := { w with state := s }

def World.report (o : ω) (w : World π σ ω) : World π σ ω := { w with reported := w.reported ++ [(o, w.delivered)] }

def World.deliver (w : World π σ ω) : World π σ ω := { w with pending := none, delivered := true }

namespace Co

instance : Monad (Co π σ ω ε) where
  pure a := fun w => (.ok a, w)
  bind p k := fun w =>
    match p w with
    | (.ok a, v) => k a v
    | (.error e, v) => (.error e, v)

def ofExcept : Except ε α → Co π σ ω ε α
  | .ok a => fun w => (.ok a, w)
  | .error e => fun w => (.error (.raised e), w)

def report (o : ω) : Co π σ ω ε Unit := fun w => (.ok (), w.report o)

def perform (f : σ → Except ε α × σ) : Co π σ ω ε α := fun w =>
  match f w.state with
  | (.ok a, s) => (.ok a, w.withState s)
  | (.error e, s) => (.error (.raised e), w.withState s)

def await [DecidableEq π] (p : π) (f : σ → Except ε α × σ) : Co π σ ω ε α := fun w =>
  if w.pending = some p then (.error .cancelled, w.deliver) else perform f w

def pause [DecidableEq π] (p : π) : Co π σ ω ε Unit := await p fun s => (.ok (), s)

def catchRaised (p : Co π σ ω ε α) (h : ε → Co π σ ω ε α) : Co π σ ω ε α := fun w =>
  match p w with
  | (.error (.raised e), v) => h e v
  | r => r

def catchCancelled (p h : Co π σ ω ε α) : Co π σ ω ε α := fun w =>
  match p w with
  | (.error .cancelled, v) => h v
  | r => r

variable {p : Co π σ ω ε α} {k : α → Co π σ ω ε β} {h : ε → Co π σ ω ε α} {w v : World π σ ω} {a : α}
  {e : ε} {i : Interruption ε} {f : σ → Except ε α × σ}

lemma bind_ok (hp : p w = (.ok a, v)) : (p >>= k) w = k a v := by
  change (match p w with | (.ok a, v) => k a v | (.error e, v) => (.error e, v)) = _
  rw [hp]

lemma bind_error (hp : p w = (.error i, v)) : (p >>= k) w = (.error i, v) := by
  change (match p w with | (.ok a, v) => k a v | (.error e, v) => (.error e, v)) = _
  rw [hp]

lemma report_bind {k : Unit → Co π σ ω ε β} (o : ω) : (report o >>= k) w = k () (w.report o) := rfl

lemma ofExcept_bind (a : α) : ((ofExcept (.ok a) : Co π σ ω ε α) >>= k) w = k a w := rfl

lemma catchRaised_ok (hp : p w = (.ok a, v)) : catchRaised p h w = (.ok a, v) := by rw [catchRaised, hp]

lemma catchRaised_raised (hp : p w = (.error (.raised e), v)) : catchRaised p h w = h e v := by
  rw [catchRaised, hp]

lemma catchRaised_cancelled (hp : p w = (.error .cancelled, v)) :
    catchRaised p h w = (.error .cancelled, v) := by rw [catchRaised, hp]

lemma perform_ok {s : σ} (hf : f w.state = (.ok a, s)) :
    (perform f : Co π σ ω ε α) w = (.ok a, w.withState s) := by rw [perform, hf]

lemma perform_error {s : σ} (hf : f w.state = (.error e, s)) :
    (perform f : Co π σ ω ε α) w = (.error (.raised e), w.withState s) := by rw [perform, hf]

variable [DecidableEq π] {q : π}

lemma await_missed (hq : w.pending ≠ some q) : (await q f : Co π σ ω ε α) w = perform f w := if_neg hq

lemma await_delivered (hq : w.pending = some q) :
    (await q f : Co π σ ω ε α) w = (.error .cancelled, w.deliver) :=
  if_pos hq

lemma pause_missed (hq : w.pending ≠ some q) : (pause q : Co π σ ω ε Unit) w = (.ok (), w) :=
  await_missed hq

lemma await_bind_ok {s : σ} (hq : w.pending ≠ some q) (hf : f w.state = (.ok a, s)) :
    (await q f >>= k) w = k a (w.withState s) :=
  bind_ok ((await_missed hq).trans (perform_ok hf))

lemma await_bind_error {s : σ} (hq : w.pending ≠ some q) (hf : f w.state = (.error e, s)) :
    (await q f >>= k) w = (.error (.raised e), w.withState s) :=
  bind_error ((await_missed hq).trans (perform_error hf))

lemma await_bind_read (hq : w.pending ≠ some q) (hf : f w.state = (.ok a, w.state)) :
    (await q f >>= k) w = k a w :=
  await_bind_ok hq hf

lemma await_bind_refused (hq : w.pending ≠ some q) (hf : f w.state = (.error e, w.state)) :
    (await q f >>= k) w = (.error (.raised e), w) :=
  await_bind_error hq hf

lemma pause_bind {k : Unit → Co π σ ω ε β} (hq : w.pending ≠ some q) : (pause q >>= k) w = k () w :=
  bind_ok (pause_missed hq)

end Co

open Co

def World.Silent (w : World π σ ω) : Prop := ∀ r ∈ w.reported, r.2 = false

structure World.Untouched (c : Option π) (w : World π σ ω) : Prop where
  pending : w.pending = c
  delivered : w.delivered = false
  silent : w.Silent

lemma World.Untouched.reports {c : Option π} {v w : World π σ ω} (h : w.Untouched c) {o : ω}
    (hv : v.reported = w.reported ++ [(o, w.delivered)]) : v.Silent := by
  intro r hr
  rw [hv] at hr
  rcases List.mem_append.mp hr with hr | hr
  · exact h.silent r hr
  · rw [List.mem_singleton.mp hr]
    exact h.delivered

def LetsThrough (c : Option π) (p : Co π σ ω ε α) : Prop :=
  ∀ w, w.Untouched c → (p w).2.Untouched c ∨ c ≠ none ∧ (p w).1 = .error .cancelled ∧ (p w).2.Silent

namespace LetsThrough

variable {c : Option π} {p : Co π σ ω ε α} {k : α → Co π σ ω ε β} {h : ε → Co π σ ω ε α} {w : World π σ ω}

lemma silent (hp : LetsThrough c p) (hw : w.Untouched c) : (p w).2.Silent := by
  rcases hp w hw with hu | ⟨-, -, hs⟩
  · exact hu.silent
  · exact hs

lemma untouched {p : Co π σ ω ε α} {w : World π σ ω} (hp : LetsThrough none p) (hw : w.Untouched none) :
    (p w).2.Untouched none := by
  rcases hp w hw with hu | ⟨hc, -⟩
  · exact hu
  · exact absurd rfl hc

lemma pure (a : α) : LetsThrough c (pure a : Co π σ ω ε α) := fun _ hw => Or.inl hw

lemma ofExcept (r : Except ε α) : LetsThrough c (ofExcept r : Co π σ ω ε α) := by
  cases r with
  | ok a => exact fun _ hw => Or.inl hw
  | error e => exact fun _ hw => Or.inl hw

lemma report (o : ω) : LetsThrough c (report o : Co π σ ω ε Unit) := by
  intro w hw
  exact Or.inl ⟨hw.pending, hw.delivered, hw.reports rfl⟩

lemma bind (hp : LetsThrough c p) (hk : ∀ a, LetsThrough c (k a)) : LetsThrough c (p >>= k) := by
  intro w hw
  have hv := hp w hw
  obtain ⟨r, v, hr⟩ : ∃ r v, p w = (r, v) := ⟨_, _, rfl⟩
  rw [hr] at hv
  cases r with
  | ok a =>
    rw [bind_ok hr]
    rcases hv with hu | ⟨-, hc, -⟩
    · exact hk a v hu
    · cases hc
  | error i =>
    rw [bind_error hr]
    rcases hv with hu | ⟨hn, hc, hs⟩
    · exact Or.inl hu
    · cases hc
      exact Or.inr ⟨hn, rfl, hs⟩

lemma catchRaised (hp : LetsThrough c p) (hh : ∀ e, LetsThrough c (h e)) :
    LetsThrough c (catchRaised p h) := by
  intro w hw
  have hv := hp w hw
  obtain ⟨r, v, hr⟩ : ∃ r v, p w = (r, v) := ⟨_, _, rfl⟩
  rw [hr] at hv
  cases r with
  | ok a =>
    rw [catchRaised_ok hr]
    exact hv
  | error i =>
    cases i with
    | cancelled =>
      rw [catchRaised_cancelled hr]
      exact hv
    | raised e =>
      rw [catchRaised_raised hr]
      rcases hv with hu | ⟨-, hc, -⟩
      · exact hh e v hu
      · cases hc

variable {f : σ → Except ε α × σ} {q : π}

lemma untouched_perform (hw : w.Untouched c) : ((perform f : Co π σ ω ε α) w).2.Untouched c := by
  obtain ⟨r, s, hr⟩ : ∃ r s, f w.state = (r, s) := ⟨_, _, rfl⟩
  cases r with
  | ok a =>
    rw [perform_ok hr]
    exact ⟨hw.pending, hw.delivered, hw.silent⟩
  | error e =>
    rw [perform_error hr]
    exact ⟨hw.pending, hw.delivered, hw.silent⟩

variable [DecidableEq π]

lemma await : LetsThrough c (await q f : Co π σ ω ε α) := by
  intro w hw
  by_cases hq : w.pending = some q
  · rw [await_delivered hq]
    refine Or.inr ⟨?_, rfl, hw.silent⟩
    rw [← hw.pending, hq]
    exact Option.some_ne_none q
  · rw [await_missed hq]
    exact Or.inl (untouched_perform hw)

lemma pause : LetsThrough c (pause q : Co π σ ω ε Unit) := await

lemma catchCancelled {p : Co π σ ω ε α} (hq : c ≠ some q) :
    LetsThrough c (catchCancelled (Co.await q f) p) := by
  intro w hw
  have hm : (Co.await q f : Co π σ ω ε α) w = perform f w := await_missed (hw.pending.trans_ne hq)
  have hu := untouched_perform (f := f) hw
  obtain ⟨r, s, hr⟩ : ∃ r s, f w.state = (r, s) := ⟨_, _, rfl⟩
  cases r with
  | ok a =>
    rw [perform_ok hr] at hm hu
    rw [Co.catchCancelled, hm]
    exact Or.inl hu
  | error e =>
    rw [perform_error hr] at hm hu
    rw [Co.catchCancelled, hm]
    exact Or.inl hu

end LetsThrough

def Mute (p : Co π σ ω ε α) : Prop := ∀ w, (p w).2.reported = w.reported

namespace Mute

variable {p : Co π σ ω ε α} {k : α → Co π σ ω ε β}

lemma pure (a : α) : Mute (pure a : Co π σ ω ε α) := fun _ => rfl

lemma pause [DecidableEq π] (q : π) : Mute (pause q : Co π σ ω ε Unit) := by
  intro w
  by_cases hq : w.pending = some q
  · rw [Co.pause, await_delivered hq]
    rfl
  · rw [pause_missed hq]

lemma after (hk : ∀ a, Mute (k a)) (p : Co π σ ω ε α) (w : World π σ ω) :
    ((p >>= k) w).2.reported = (p w).2.reported := by
  obtain ⟨r, v, hr⟩ : ∃ r v, p w = (r, v) := ⟨_, _, rfl⟩
  rw [hr]
  cases r with
  | ok a =>
    rw [bind_ok hr]
    exact hk a v
  | error i => rw [bind_error hr]

lemma bind (hp : Mute p) (hk : ∀ a, Mute (k a)) : Mute (p >>= k) := fun w => (after hk p w).trans (hp w)

lemma handled {h : ε → Co π σ ω ε α} (hh : ∀ e, Mute (h e)) (p : Co π σ ω ε α) (w : World π σ ω) :
    (Co.catchRaised p h w).2.reported = (p w).2.reported := by
  obtain ⟨r, v, hr⟩ : ∃ r v, p w = (r, v) := ⟨_, _, rfl⟩
  rw [hr]
  cases r with
  | ok a => rw [catchRaised_ok hr]
  | error i =>
    cases i with
    | cancelled => rw [catchRaised_cancelled hr]
    | raised e =>
      rw [catchRaised_raised hr]
      exact hh e v

lemma catchCancelled {p h : Co π σ ω ε α} (hp : Mute p) (hh : Mute h) : Mute (Co.catchCancelled p h) := by
  intro w
  have hw := hp w
  obtain ⟨r, v, hr⟩ : ∃ r v, p w = (r, v) := ⟨_, _, rfl⟩
  rw [hr] at hw
  rw [Co.catchCancelled, hr]
  cases r with
  | ok a => exact hw
  | error i =>
    cases i with
    | cancelled => exact (hh v).trans hw
    | raised e => exact hw

end Mute

end NotebookExecution.Library.Coroutine
