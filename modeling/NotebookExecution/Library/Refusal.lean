import NotebookExecution.Library.Transaction

/-! Requests whose errors are declared, over a database that may refuse the values of a row. -/

namespace NotebookExecution.Library.Transaction

variable {δ ε α : Type} {declared : ε → Bool} {takes : α → Bool} {d : δ} {p : Tx δ ε α}

/-- An error of the program, or the database's own for a value that a column does not take. -/
inductive Refusal (ε : Type)
  | raised (err : ε)
  | dataError
  deriving DecidableEq

/-- The statement that writes what the columns do not take fails, and the request with it. -/
def storing (takes : α → Bool) (d : δ) : Except ε α × δ → Except (Refusal ε) α × δ
  | (.ok a, d') => if takes a then (.ok a, d') else (.error .dataError, d)
  | (.error err, d') => (.error (.raised err), d')

def Rejects (declared : ε → Bool) (d : δ) (r : Except (Refusal ε) α × δ) : Prop :=
  ∃ err, r.1 = .error (.raised err) ∧ declared err = true ∧ r.2 = d

def Declares (declared : ε → Bool) (d : δ) (r : Except (Refusal ε) α × δ) : Prop :=
  (∃ a, r.1 = .ok a) ∨ Rejects declared d r

lemma storing_declares (hs : (p (.open d)).2.committed = d) :
    Declares declared d (storing takes d (request d p)) ↔
      Raises (declared · = true) (p (.open d)).1 ∧ ∀ a s, p (.open d) = (.ok a, s) → takes a = true := by
  obtain ⟨r, s, hr⟩ : ∃ r s, p (.open d) = (r, s) := ⟨_, _, rfl⟩
  rw [hr] at hs ⊢
  cases r with
  | ok a =>
    rw [request_returns hr, storing]
    by_cases ht : takes a = true
    · rw [if_pos ht]
      refine iff_of_true (Or.inl ⟨a, rfl⟩) ⟨.ok a, fun b t hb => ?_⟩
      cases hb
      exact ht
    · rw [if_neg ht]
      refine iff_of_false ?_ fun h => ht (h.2 a s rfl)
      rintro (⟨b, hb⟩ | ⟨err, he, -⟩)
      · cases hb
      · cases he
  | error err =>
    rw [request_raises hr hs, storing]
    constructor
    · rintro (⟨b, hb⟩ | ⟨err', he, hd, -⟩)
      · cases hb
      · cases he
        exact ⟨.error hd, fun b t hb => by cases hb⟩
    · rintro ⟨h, -⟩
      exact Or.inr ⟨err, rfl, h err rfl, rfl⟩

lemma storing_ok {a : α} (h : (storing takes d (request d p)).1 = .ok a) :
    ∃ s, p (.open d) = (.ok a, s) ∧ (storing takes d (request d p)).2 = s.view := by
  obtain ⟨r, s, hr⟩ : ∃ r s, p (.open d) = (r, s) := ⟨_, _, rfl⟩
  cases r with
  | error err =>
    obtain ⟨d', he⟩ : ∃ d', request d p = (.error err, d') := by
      refine ⟨(request d p).2, Prod.ext ?_ rfl⟩
      rw [request, inSession_result, bind_error hr]
    rw [he, storing] at h
    cases h
  | ok b =>
    rw [request_returns hr, storing] at h ⊢
    split at h
    · next ht =>
      cases h
      rw [if_pos ht]
      exact ⟨s, hr, rfl⟩
    · cases h

end NotebookExecution.Library.Transaction
