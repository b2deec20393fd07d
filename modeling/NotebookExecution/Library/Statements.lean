import NotebookExecution.Library.Transaction

/-! Programs as the trees of the statements they issue, so that the statements of several of them can
interleave. `run` issues all of them on one session. -/

namespace NotebookExecution.Library.Statements

open Transaction

inductive Flushed
  | stored | missed | refused
  deriving DecidableEq

/-- What a database does with a change. `apart` says that the outcome of one change cannot depend on
the other. -/
structure Engine (δ ω : Type) where
  apply : ω → δ → δ
  refused : ω → δ → Bool
  missed : ω → δ → Bool
  apart : δ → ω → ω → Bool

def Engine.flush {δ ω : Type} (E : Engine δ ω) (w : ω) (d : δ) : Flushed :=
  if E.refused w d then .refused else if E.missed w d then .missed else .stored

inductive Program (θ δ ω ε α : Type)
  | done (r : Except ε α)
  | select (q : θ) (next : δ → Program θ δ ω ε α)
  | flush (w : ω) (next : Flushed → Program θ δ ω ε α)
  | rollback (next : Program θ δ ω ε α)

namespace Program

variable {θ δ ω ε α β : Type}

def bind : Program θ δ ω ε α → (α → Program θ δ ω ε β) → Program θ δ ω ε β
  | .done (.ok a), k => k a
  | .done (.error e), _ => .done (.error e)
  | .select q next, k => .select q fun d => (next d).bind k
  | .flush w next, k => .flush w fun r => (next r).bind k
  | .rollback next, k => .rollback (next.bind k)

def catching : Program θ δ ω ε α → (ε → Program θ δ ω ε α) → Program θ δ ω ε α
  | .done (.ok a), _ => .done (.ok a)
  | .done (.error e), h => h e
  | .select q next, h => .select q fun d => (next d).catching h
  | .flush w next, h => .flush w fun r => (next r).catching h
  | .rollback next, h => .rollback (next.catching h)

instance : Monad (Program θ δ ω ε) where
  pure a := .done (.ok a)
  bind := Program.bind

instance : MonadExceptOf ε (Program θ δ ω ε) where
  throw e := .done (.error e)
  tryCatch := Program.catching

lemma map_id (p : Program θ δ ω ε α) : p.bind (fun a => .done (.ok a)) = p := by
  induction p with
  | done r => cases r <;> rfl
  | select q next ih => simp only [Program.bind, ih]
  | flush w next ih => simp only [Program.bind, ih]
  | rollback next ih => simp only [Program.bind, ih]

lemma bind_bind {γ : Type} (p : Program θ δ ω ε α) (k : α → Program θ δ ω ε β)
    (l : β → Program θ δ ω ε γ) : (p.bind k).bind l = p.bind fun a => (k a).bind l := by
  induction p with
  | done r => cases r <;> rfl
  | select q next ih => simp only [Program.bind, ih]
  | flush w next ih => simp only [Program.bind, ih]
  | rollback next ih => simp only [Program.bind, ih]

instance : LawfulMonad (Program θ δ ω ε) :=
  LawfulMonad.mk' (Program θ δ ω ε) map_id (fun _ _ => rfl) bind_bind

def Fails (F : ε → Prop) : Program θ δ ω ε α → Prop
  | .done (.error e) => F e
  | .rollback next => next.Fails F
  | _ => False

/-- The program flushes one change at most, and raises an `F` once a query shows it what it `sees`, or
its change is refused. The flag says whether it has flushed a change. -/
def Guarded (E : Engine δ ω) (sees : θ → δ → Bool) (F : ε → Prop) : Bool → Program θ δ ω ε α → Prop
  | _, .done _ => True
  | b, .select q next => ∀ d, (sees q d = true → (next d).Fails F) ∧ (next d).Guarded E sees F b
  | b, .flush w next => b = false ∧
      (∀ d, E.flush w d = .refused →
        (next .refused).Fails F ∧ (next .refused).Guarded E sees F false) ∧
      (next .stored).Guarded E sees F true ∧ (next .missed).Guarded E sees F false
  | _, .rollback next => next.Guarded E sees F false

def Looks (sees : θ → δ → Bool) (F : ε → Prop) : Program θ δ ω ε α → Prop
  | .done _ => True
  | .select q next => ∀ d, (sees q d = true → (next d).Fails F) ∧ (next d).Looks sees F
  | .flush _ _ | .rollback _ => False

section Guarded

variable {E : Engine δ ω} {sees : θ → δ → Bool} {F : ε → Prop} {b : Bool}
  {p : Program θ δ ω ε α} {k : α → Program θ δ ω ε β}

lemma Fails.bind (h : p.Fails F) : (p >>= k).Fails F := by
  induction p with
  | done r =>
    cases r with
    | ok a => exact h.elim
    | error e => exact h
  | select q next ih => exact h.elim
  | flush w next ih => exact h.elim
  | rollback next ih => exact ih h

lemma Looks.bind (h : p.Looks sees F) (hk : ∀ a, (k a).Looks sees F) : (p >>= k).Looks sees F := by
  induction p with
  | done r =>
    cases r with
    | ok a => exact hk a
    | error e => trivial
  | select q next ih => exact fun d => ⟨fun hd => ((h d).1 hd).bind, ih d (h d).2⟩
  | flush w next ih => exact h.elim
  | rollback next ih => exact h.elim

lemma Looks.then_guarded (h : p.Looks sees F) (hk : ∀ a, (k a).Guarded E sees F b) :
    (p >>= k).Guarded E sees F b := by
  induction p with
  | done r =>
    cases r with
    | ok a => exact hk a
    | error e => trivial
  | select q next ih => exact fun d => ⟨fun hd => ((h d).1 hd).bind, ih d (h d).2⟩
  | flush w next ih => exact h.elim
  | rollback next ih => exact h.elim

lemma Looks.guarded (h : p.Looks sees F) : p.Guarded E sees F b := by
  induction p with
  | done r => trivial
  | select q next ih => exact fun d => ⟨(h d).1, ih d (h d).2⟩
  | flush w next ih => exact h.elim
  | rollback next ih => exact h.elim

lemma Guarded.then_looks (h : p.Guarded E sees F b) (hk : ∀ a, (k a).Looks sees F) :
    (p >>= k).Guarded E sees F b := by
  induction p generalizing b with
  | done r =>
    cases r with
    | ok a => exact (hk a).guarded
    | error e => trivial
  | select q next ih => exact fun d => ⟨fun hd => ((h d).1 hd).bind, ih d (h d).2⟩
  | flush w next ih =>
    obtain ⟨rfl, hrefused, hstored, hmissed⟩ := h
    refine ⟨rfl, fun d hd => ?_, ih _ hstored, ih _ hmissed⟩
    exact ⟨(hrefused d hd).1.bind, ih _ (hrefused d hd).2⟩
  | rollback next ih => exact ih h

section Catching

variable {G : ε → Prop} {g : ε → Program θ δ ω ε α}

lemma Fails.catch (h : p.Fails G) (hg : ∀ e, G e → (g e).Fails F) : (tryCatch p g).Fails F := by
  induction p with
  | done r =>
    cases r with
    | ok a => exact h.elim
    | error e => exact hg e h
  | select q next ih => exact h.elim
  | flush w next ih => exact h.elim
  | rollback next ih => exact ih h

lemma Guarded.catch (h : p.Guarded E sees G b) (hf : ∀ e, G e → (g e).Fails F)
    (hg : ∀ e b, (g e).Guarded E sees F b) : (tryCatch p g).Guarded E sees F b := by
  induction p generalizing b with
  | done r =>
    cases r with
    | ok a => trivial
    | error e => exact hg e b
  | select q next ih => exact fun d => ⟨fun hd => ((h d).1 hd).catch hf, ih d (h d).2⟩
  | flush w next ih =>
    obtain ⟨rfl, hrefused, hstored, hmissed⟩ := h
    refine ⟨rfl, fun d hd => ?_, ih _ hstored, ih _ hmissed⟩
    exact ⟨(hrefused d hd).1.catch hf, ih _ (hrefused d hd).2⟩
  | rollback next ih => exact ih h

end Catching

end Guarded

def run (E : Engine δ ω) : Program θ δ ω ε α → Tx δ ε α
  | .done (.ok a) => pure a
  | .done (.error e) => throw e
  | .select _ next => read >>= fun d => (next d).run E
  | .flush w next => read >>= fun d =>
    match E.flush w d with
    | .stored => write (E.apply w d) >>= fun _ => (next .stored).run E
    | .missed => (next .missed).run E
    | .refused => (next .refused).run E
  | .rollback next => Transaction.rollback >>= fun _ => next.run E

variable {E : Engine δ ω}

lemma run_bind (p : Program θ δ ω ε α) (k : α → Program θ δ ω ε β) :
    (p >>= k).run E = p.run E >>= fun a => (k a).run E := by
  change (p.bind k).run E = _
  induction p with
  | done r =>
    cases r with
    | ok a =>
      change (k a).run E = (pure a : Tx δ ε α) >>= fun a => (k a).run E
      rw [pure_bind]
    | error e => rfl
  | select q next ih =>
    simp only [Program.bind, run, bind_assoc, ih]
  | flush w next ih =>
    simp only [Program.bind, run, bind_assoc, ih]
    congr 1
    funext d
    cases E.flush w d <;> simp only [bind_assoc]
  | rollback next ih =>
    simp only [Program.bind, run, bind_assoc, ih]

lemma catch_read (f : δ → Tx δ ε α) (h : ε → Tx δ ε α) :
    (tryCatch (read >>= f) h : Tx δ ε α) = read >>= fun d => tryCatch (f d) h := by
  funext s
  exact catch_bind_ok rfl

lemma catch_write (d : δ) (f : Unit → Tx δ ε α) (h : ε → Tx δ ε α) :
    (tryCatch (write d >>= f) h : Tx δ ε α) = write d >>= fun u => tryCatch (f u) h := by
  funext s
  exact catch_bind_ok rfl

lemma catch_rollback (f : Unit → Tx δ ε α) (h : ε → Tx δ ε α) :
    (tryCatch (Transaction.rollback >>= f) h : Tx δ ε α) =
      Transaction.rollback >>= fun u => tryCatch (f u) h := by
  funext s
  exact catch_bind_ok rfl

lemma run_catch (p : Program θ δ ω ε α) (h : ε → Program θ δ ω ε α) :
    (tryCatch p h).run E = tryCatch (p.run E) fun e => (h e).run E := by
  change (p.catching h).run E = _
  induction p with
  | done r =>
    cases r with
    | ok a => rfl
    | error e => rfl
  | select q next ih => simp only [Program.catching, run, catch_read, ih]
  | flush w next ih =>
    simp only [Program.catching, run, catch_read, ih]
    congr 1
    funext d
    cases E.flush w d <;> simp only [catch_write]
  | rollback next ih => simp only [Program.catching, run, catch_rollback, ih]

end Program

end NotebookExecution.Library.Statements
