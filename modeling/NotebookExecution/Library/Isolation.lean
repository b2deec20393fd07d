import NotebookExecution.Library.Runs
import NotebookExecution.Library.Statements

/-! Clients of one database. Each request is a program in a transaction of its own, which is committed
when the program returns and rolled back when it raises, and the statements of the programs
interleave. A query sees what is committed and the change of its own transaction. -/

namespace NotebookExecution.Library.Isolation

open Statements

variable {θ δ ω ε α π : Type}

structure Client (θ δ ω ε α π : Type) where
  request : π
  program : Program θ δ ω ε α

structure Server (θ δ ω ε α π : Type) where
  database : δ
  flushed : List (ℕ × ω)
  clients : ℕ → Option (Client θ δ ω ε α π)
  answers : ℕ → Option (Except ε α)

inductive Action (π : Type)
  | arrive (c : ℕ) (r : π)
  | advance (c : ℕ)

namespace Server

def opened (d : δ) : Server θ δ ω ε α π := ⟨d, [], fun _ => none, fun _ => none⟩

variable (E : Engine δ ω) (program : π → Program θ δ ω ε α)

def busy (c : ℕ) (s : Server θ δ ω ε α π) : Bool := s.flushed.any fun p => p.1 = c

def view (c : ℕ) (s : Server θ δ ω ε α π) : δ :=
  (s.flushed.find? fun p => p.1 = c).elim s.database fun p => E.apply p.2 s.database

def close (c : ℕ) (s : Server θ δ ω ε α π) : Server θ δ ω ε α π :=
  { s with flushed := s.flushed.filter fun p => p.1 ≠ c }

def push (c : ℕ) (w : ω) (s : Server θ δ ω ε α π) : Server θ δ ω ε α π :=
  { s with flushed := (c, w) :: s.flushed }

def commit (c : ℕ) (s : Server θ δ ω ε α π) : Server θ δ ω ε α π :=
  { s.close c with database := s.view E c }

def goes (c : ℕ) (p : Program θ δ ω ε α) (s : Server θ δ ω ε α π) : Server θ δ ω ε α π :=
  { s with clients := Function.update s.clients c ((s.clients c).map fun x => ⟨x.request, p⟩) }

def answer (c : ℕ) (r : Except ε α) (s : Server θ δ ω ε α π) : Server θ δ ω ε α π :=
  { s with
    clients := Function.update s.clients c none
    answers := Function.update s.answers c (some r) }

/-- A flush waits for the open transactions on whose end its outcome may depend. -/
def flush (c : ℕ) (w : ω) (next : Flushed → Program θ δ ω ε α) (s : Server θ δ ω ε α π) :
    Option (Server θ δ ω ε α π) :=
  if s.busy c then none
  else
    match E.flush w s.database with
    | .stored =>
      if s.flushed.all fun p => E.apart s.database w p.2 then some ((s.push c w).goes c (next .stored))
      else none
    | .missed => some (s.goes c (next .missed))
    | .refused => some (s.goes c (next .refused))

def advance (c : ℕ) (s : Server θ δ ω ε α π) : Program θ δ ω ε α → Option (Server θ δ ω ε α π)
  | .select _ next => some (s.goes c (next (s.view E c)))
  | .flush w next => s.flush E c w next
  | .rollback next => some ((s.close c).goes c next)
  | .done (.ok a) => some ((s.commit E c).answer c (.ok a))
  | .done (.error e) => some ((s.close c).answer c (.error e))

def arrive (c : ℕ) (r : π) (p : Program θ δ ω ε α) (s : Server θ δ ω ε α π) : Server θ δ ω ε α π :=
  { s with clients := Function.update s.clients c (some ⟨r, p⟩) }

def step (s : Server θ δ ω ε α π) : Action π → Option (Server θ δ ω ε α π)
  | .arrive c r =>
    if (s.clients c).isNone && (s.answers c).isNone then some (s.arrive c r (program r))
    else none
  | .advance c => (s.clients c).bind fun x => s.advance E c x.program

variable {E program} {s t u : Server θ δ ω ε α π} {a : Action π} {c d : ℕ}

inductive Effect (E : Engine δ ω) (s t : Server θ δ ω ε α π) : Prop
  | keep (hd : t.database = s.database) (hf : ∀ p ∈ t.flushed, p ∈ s.flushed)
  | flush (c : ℕ) (w : ω) (hw : E.flush w s.database = .stored)
      (ha : ∀ p ∈ s.flushed, E.apart s.database w p.2 = true) (hd : t.database = s.database)
      (hf : ∀ p ∈ t.flushed, p = (c, w) ∨ p ∈ s.flushed)
  | commit (c : ℕ) (w : ω) (hw : (c, w) ∈ s.flushed) (hd : t.database = E.apply w s.database)
      (hf : ∀ p ∈ t.flushed, p ∈ s.flushed ∧ p.1 ≠ c)

lemma mem_close {p : ℕ × ω} : p ∈ (s.close c).flushed ↔ p ∈ s.flushed ∧ p.1 ≠ c := by
  rw [close, List.mem_filter, decide_eq_true_eq]

lemma view_cases (E : Engine δ ω) (c : ℕ) (s : Server θ δ ω ε α π) :
    s.view E c = s.database ∨ ∃ w, (c, w) ∈ s.flushed ∧ s.view E c = E.apply w s.database := by
  rw [view]
  cases hf : s.flushed.find? fun p => p.1 = c with
  | none => exact Or.inl rfl
  | some p =>
    obtain ⟨e, w⟩ := p
    have he : e = c := by simpa using List.find?_some hf
    subst he
    exact Or.inr ⟨w, List.mem_of_find?_eq_some hf, rfl⟩

lemma effect_commit {r : Except ε α} : Effect E s ((s.commit E c).answer c r) := by
  rcases view_cases E c s with hv | ⟨w, hw, hv⟩
  · exact .keep hv fun p hp => (mem_close.mp hp).1
  · exact .commit c w hw hv fun p hp => mem_close.mp hp

lemma flush_inv {w : ω} {next : Flushed → Program θ δ ω ε α} (h : s.flush E c w next = some t) :
    s.busy c = false ∧
      (E.flush w s.database = .stored ∧ (∀ p ∈ s.flushed, E.apart s.database w p.2 = true) ∧
          t = (s.push c w).goes c (next .stored) ∨
        E.flush w s.database = .missed ∧ t = s.goes c (next .missed) ∨
        E.flush w s.database = .refused ∧ t = s.goes c (next .refused)) := by
  rw [flush] at h
  split at h
  · cases h
  · next hb =>
    refine ⟨by simpa using hb, ?_⟩
    split at h
    · next hw =>
      split at h
      · next ha =>
        rw [List.all_eq_true] at ha
        exact Or.inl ⟨hw, ha, (Option.some_inj.mp h).symm⟩
      · cases h
    · next hw => exact Or.inr (Or.inl ⟨hw, (Option.some_inj.mp h).symm⟩)
    · next hw => exact Or.inr (Or.inr ⟨hw, (Option.some_inj.mp h).symm⟩)

lemma advance_effect {p : Program θ δ ω ε α} (h : s.advance E c p = some t) : Effect E s t := by
  cases p with
  | done r =>
    cases r with
    | ok a =>
      obtain rfl := Option.some_inj.mp h
      exact effect_commit
    | error e =>
      obtain rfl := Option.some_inj.mp h
      exact .keep rfl fun p hp => (mem_close.mp hp).1
  | select q next =>
    obtain rfl := Option.some_inj.mp h
    exact .keep rfl fun p hp => hp
  | flush w next =>
    obtain ⟨-, ⟨hw, ha, rfl⟩ | ⟨-, rfl⟩ | ⟨-, rfl⟩⟩ := flush_inv h
    · exact .flush c w hw ha rfl fun p hp => List.mem_cons.mp hp
    · exact .keep rfl fun p hp => hp
    · exact .keep rfl fun p hp => hp
  | rollback next =>
    obtain rfl := Option.some_inj.mp h
    exact .keep rfl fun p hp => (mem_close.mp hp).1

theorem step_effect (h : step E program s a = some t) : Effect E s t := by
  cases a with
  | arrive c r =>
    rw [step] at h
    split at h
    · obtain rfl := Option.some_inj.mp h
      exact .keep rfl fun p hp => hp
    · cases h
  | advance c =>
    obtain ⟨x, -, h⟩ := Option.bind_eq_some_iff.mp h
    exact advance_effect h

/-! ## The programs under way -/

lemma step_inv (h : step E program s a = some t) :
    (∃ c r, a = .arrive c r ∧ s.clients c = none ∧ s.answers c = none ∧
        t = s.arrive c r (program r)) ∨
      ∃ c x, a = .advance c ∧ s.clients c = some x ∧ s.advance E c x.program = some t := by
  cases a with
  | arrive c r =>
    rw [step] at h
    split at h
    · next hc =>
      rw [Bool.and_eq_true, Option.isNone_iff_eq_none, Option.isNone_iff_eq_none] at hc
      exact Or.inl ⟨c, r, rfl, hc.1, hc.2, (Option.some_inj.mp h).symm⟩
    · cases h
  | advance c =>
    obtain ⟨x, hx, h⟩ := Option.bind_eq_some_iff.mp h
    exact Or.inr ⟨c, x, rfl, hx, h⟩

lemma busy_close_self : (s.close c).busy c = false := by
  simp [busy, close]

lemma busy_close_other (hd : d ≠ c) : (s.close c).busy d = s.busy d := by
  rw [Bool.eq_iff_iff, busy, busy, List.any_eq_true, List.any_eq_true]
  constructor
  · rintro ⟨p, hp, hpd⟩
    exact ⟨p, (mem_close.mp hp).1, hpd⟩
  · rintro ⟨p, hp, hpd⟩
    have hpc : p.1 ≠ c := by
      rw [of_decide_eq_true hpd]
      exact hd
    exact ⟨p, mem_close.mpr ⟨hp, hpc⟩, hpd⟩

lemma busy_push_self {w : ω} : (s.push c w).busy c = true := by
  simp [busy, push]

lemma busy_push_other {w : ω} (hd : d ≠ c) : (s.push c w).busy d = s.busy d := by
  simp [busy, push, hd.symm]

structure Others (c : ℕ) (s t : Server θ δ ω ε α π) : Prop where
  clients : ∀ d, d ≠ c → t.clients d = s.clients d
  answers : ∀ d, d ≠ c → t.answers d = s.answers d
  busy : ∀ d, d ≠ c → t.busy d = s.busy d

lemma goes_others {p : Program θ δ ω ε α} (h : ∀ d, d ≠ c → t.busy d = s.busy d)
    (hc : t.clients = s.clients) (ha : t.answers = s.answers) : Others c s (t.goes c p) where
  clients d hd := (Function.update_of_ne hd ..).trans (congrFun hc d)
  answers d _ := congrFun ha d
  busy := h

lemma answer_others {r : Except ε α} (h : ∀ d, d ≠ c → t.busy d = s.busy d)
    (hc : t.clients = s.clients) (ha : t.answers = s.answers) : Others c s (t.answer c r) where
  clients d hd := (Function.update_of_ne hd ..).trans (congrFun hc d)
  answers d hd := (Function.update_of_ne hd ..).trans (congrFun ha d)
  busy := h

lemma advance_others {p : Program θ δ ω ε α} (h : s.advance E c p = some t) : Others c s t := by
  cases p with
  | done r =>
    cases r with
    | ok a =>
      obtain rfl := Option.some_inj.mp h
      exact answer_others (t := s.commit E c) (fun d hd => busy_close_other (s := s) hd) rfl rfl
    | error e =>
      obtain rfl := Option.some_inj.mp h
      exact answer_others (t := s.close c) (fun d hd => busy_close_other hd) rfl rfl
  | select q next =>
    obtain rfl := Option.some_inj.mp h
    exact goes_others (t := s) (fun _ _ => rfl) rfl rfl
  | flush w next =>
    obtain ⟨-, ⟨-, -, rfl⟩ | ⟨-, rfl⟩ | ⟨-, rfl⟩⟩ := flush_inv h
    · exact goes_others (t := s.push c w) (fun d hd => busy_push_other hd) rfl rfl
    · exact goes_others (t := s) (fun _ _ => rfl) rfl rfl
    · exact goes_others (t := s) (fun _ _ => rfl) rfl rfl
  | rollback next =>
    obtain rfl := Option.some_inj.mp h
    exact goes_others (t := s.close c) (fun d hd => busy_close_other hd) rfl rfl

lemma goes_self {x : Client θ δ ω ε α π} {p : Program θ δ ω ε α} (h : s.clients c = some x) :
    (s.goes c p).clients c = some ⟨x.request, p⟩ := by
  have hself : (s.goes c p).clients c = (s.clients c).map fun x => ⟨x.request, p⟩ :=
    Function.update_self ..
  rw [hself, h]
  rfl

lemma answer_self {r : Except ε α} :
    (s.answer c r).clients c = none ∧ (s.answer c r).answers c = some r :=
  ⟨Function.update_self .., Function.update_self ..⟩

/-- A property of the program of a request that its statements hand on. The flag says whether the
request has flushed a change. -/
structure Lasting (E : Engine δ ω) (program : π → Program θ δ ω ε α)
    (P : π → Bool → Program θ δ ω ε α → Prop) : Prop where
  start : ∀ r, P r false (program r)
  select : ∀ r b q next d, P r b (.select q next) → P r b (next d)
  stored : ∀ r w next, P r false (.flush w next) → P r true (next .stored)
  missed : ∀ r w next, P r false (.flush w next) → P r false (next .missed)
  refused : ∀ r w next d, E.flush w d = .refused → P r false (.flush w next) → P r false (next .refused)
  rollback : ∀ r b next, P r b (.rollback next) → P r false next

structure Programs (P : π → Bool → Program θ δ ω ε α → Prop) (s : Server θ δ ω ε α π) : Prop where
  under : ∀ c x, s.clients c = some x → P x.request (s.busy c) x.program
  idle : ∀ c, s.clients c = none → s.busy c = false
  waiting : ∀ c x, s.clients c = some x → s.answers c = none

lemma opened_programs {P : π → Bool → Program θ δ ω ε α → Prop} (d : δ) :
    Programs P (opened d : Server θ δ ω ε α π) :=
  ⟨fun _ _ h => (by cases h), fun _ _ => rfl, fun _ _ _ => rfl⟩

section Programs

variable {P : π → Bool → Program θ δ ω ε α → Prop} {x : Client θ δ ω ε α π}

lemma Programs.goes {p : Program θ δ ω ε α} (h : Programs P s) (hx : s.clients c = some x)
    (ho : Others c s (t.goes c p)) (hc : t.clients = s.clients) (ha : t.answers c = s.answers c)
    (hp : P x.request (t.busy c) p) :
    Programs P (t.goes c p) := by
  have hself : (t.goes c p).clients c = some ⟨x.request, p⟩ := goes_self (hc ▸ hx)
  constructor
  · intro d y hy
    by_cases hd : d = c
    · subst hd
      rw [hself] at hy
      obtain rfl := Option.some_inj.mp hy
      exact hp
    · rw [ho.clients d hd] at hy
      rw [ho.busy d hd]
      exact h.under d y hy
  · intro d hy
    by_cases hd : d = c
    · subst hd
      rw [hself] at hy
      cases hy
    · rw [ho.clients d hd] at hy
      rw [ho.busy d hd]
      exact h.idle d hy
  · intro d y hy
    by_cases hd : d = c
    · subst hd
      exact ha.trans (h.waiting d x hx)
    · rw [ho.clients d hd] at hy
      rw [ho.answers d hd]
      exact h.waiting d y hy

lemma Programs.answer {r : Except ε α} (h : Programs P s) (ho : Others c s (t.answer c r))
    (hb : t.busy c = false) : Programs P (t.answer c r) := by
  constructor
  · intro d y hy
    by_cases hd : d = c
    · subst hd
      rw [answer_self.1] at hy
      cases hy
    · rw [ho.clients d hd] at hy
      rw [ho.busy d hd]
      exact h.under d y hy
  · intro d hy
    by_cases hd : d = c
    · subst hd
      exact hb
    · rw [ho.clients d hd] at hy
      rw [ho.busy d hd]
      exact h.idle d hy
  · intro d y hy
    by_cases hd : d = c
    · subst hd
      rw [answer_self.1] at hy
      cases hy
    · rw [ho.clients d hd] at hy
      rw [ho.answers d hd]
      exact h.waiting d y hy

lemma Programs.arrive {r : π} {p : Program θ δ ω ε α} (h : Programs P s) (hc : s.clients c = none)
    (ha : s.answers c = none) (hp : P r false p) : Programs P (s.arrive c r p) := by
  constructor
  · intro d y hy
    by_cases hd : d = c
    · subst hd
      have hself : (s.arrive d r p).clients d = some ⟨r, p⟩ := Function.update_self ..
      rw [hself] at hy
      obtain rfl := Option.some_inj.mp hy
      have hb : (s.arrive d r p).busy d = false := h.idle d hc
      rw [hb]
      exact hp
    · have hother : (s.arrive c r p).clients d = s.clients d := Function.update_of_ne hd ..
      rw [hother] at hy
      exact h.under d y hy
  · intro d hy
    by_cases hd : d = c
    · subst hd
      exact h.idle d hc
    · have hother : (s.arrive c r p).clients d = s.clients d := Function.update_of_ne hd ..
      rw [hother] at hy
      exact h.idle d hy
  · intro d y hy
    by_cases hd : d = c
    · subst hd
      exact ha
    · have hother : (s.arrive c r p).clients d = s.clients d := Function.update_of_ne hd ..
      rw [hother] at hy
      exact h.waiting d y hy

theorem programs_step (hP : Lasting E program P) (h : Programs P s)
    (ht : step E program s a = some t) : Programs P t := by
  rcases step_inv ht with ⟨c, r, -, hc, ha, rfl⟩ | ⟨c, x, -, hx, hadv⟩
  · exact h.arrive hc ha (hP.start r)
  · have ho := advance_others hadv
    have hunder := h.under c x hx
    obtain ⟨request, p⟩ := x
    cases p with
    | done r =>
      cases r with
      | ok a =>
        obtain rfl := Option.some_inj.mp hadv
        exact h.answer (t := s.commit E c) ho (busy_close_self (s := s))
      | error e =>
        obtain rfl := Option.some_inj.mp hadv
        exact h.answer (t := s.close c) ho busy_close_self
    | select q next =>
      obtain rfl := Option.some_inj.mp hadv
      exact h.goes (t := s) hx ho rfl rfl (hP.select _ _ q next _ hunder)
    | flush w next =>
      obtain ⟨hb, hcase⟩ := flush_inv hadv
      rw [hb] at hunder
      rcases hcase with ⟨-, -, rfl⟩ | ⟨-, rfl⟩ | ⟨hw, rfl⟩
      · refine h.goes (t := s.push c w) hx ho rfl rfl ?_
        rw [busy_push_self]
        exact hP.stored _ w next hunder
      · refine h.goes (t := s) hx ho rfl rfl ?_
        rw [hb]
        exact hP.missed _ w next hunder
      · refine h.goes (t := s) hx ho rfl rfl ?_
        rw [hb]
        exact hP.refused _ w next _ hw hunder
    | rollback next =>
      obtain rfl := Option.some_inj.mp hadv
      refine h.goes (t := s.close c) hx ho rfl rfl ?_
      rw [busy_close_self]
      exact hP.rollback _ _ next hunder

end Programs

/-! ## Requests that collide -/

section Collisions

open Runs

variable {sees : π → θ → δ → Bool} {F : ε → Prop} {G : π → ε → Prop} {as : List (Action π)}

def collides (E : Engine δ ω) (sees : π → θ → δ → Bool) (s : Server θ δ ω ε α π) :
    Action π → Option (ℕ × π)
  | .arrive _ _ => none
  | .advance c => (s.clients c).bind fun x =>
    match x.program with
    | .select q _ => if sees x.request q (s.view E c) then some (c, x.request) else none
    | .flush w _ => if E.flush w s.database = .refused then some (c, x.request) else none
    | _ => none

structure Failing (F : ε → Prop) (c : ℕ) (s : Server θ δ ω ε α π) : Prop where
  program : ∀ x, s.clients c = some x → x.program.Fails F
  answer : s.clients c = none → ∃ e, s.answers c = some (.error e) ∧ F e
  answered : ∀ r, s.answers c = some r → ∃ e, r = .error e ∧ F e

lemma guarded_lasting (h : ∀ r, (program r).Guarded E (sees r) (G r) false) :
    Lasting E program fun r b p => p.Guarded E (sees r) (G r) b where
  start := h
  select _ _ _ _ d hp := (hp d).2
  stored _ _ _ hp := hp.2.2.1
  missed _ _ _ hp := hp.2.2.2
  refused _ _ _ d hd hp := (hp.2.1 d hd).2
  rollback _ _ _ hp := hp

lemma Failing.others (h : Failing F c s) (ho : Others d s t) (hd : c ≠ d) : Failing F c t := by
  constructor
  · intro x hx
    rw [ho.clients c hd] at hx
    exact h.program x hx
  · intro hx
    rw [ho.clients c hd] at hx
    rw [ho.answers c hd]
    exact h.answer hx
  · intro r hr
    rw [ho.answers c hd] at hr
    exact h.answered r hr

lemma failing_goes {x : Client θ δ ω ε α π} {p : Program θ δ ω ε α} (hx : s.clients c = some x)
    (hp : p.Fails F) (ha : ∀ r, s.answers c = some r → ∃ e, r = .error e ∧ F e) :
    Failing F c (s.goes c p) := by
  refine ⟨?_, ?_, ha⟩
  · intro y hy
    rw [goes_self hx] at hy
    obtain rfl := Option.some_inj.mp hy
    exact hp
  · intro hy
    rw [goes_self hx] at hy
    cases hy

lemma failing_answer {e : ε} (he : F e) : Failing F c (s.answer c (.error e)) := by
  constructor
  · intro x hx
    rw [answer_self.1] at hx
    cases hx
  · intro _
    exact ⟨e, answer_self.2, he⟩
  · intro r hr
    rw [answer_self.2] at hr
    exact ⟨e, (Option.some_inj.mp hr).symm, he⟩

lemma failing_step (h : Failing F c s) (ht : step E program s a = some t) : Failing F c t := by
  rcases step_inv ht with ⟨d, r, -, hc, ha, rfl⟩ | ⟨d, x, -, hx, hadv⟩
  · have hd : c ≠ d := by
      rintro rfl
      obtain ⟨e, he, -⟩ := h.answer hc
      rw [ha] at he
      cases he
    have hother : (s.arrive d r (program r)).clients c = s.clients c := Function.update_of_ne hd ..
    exact ⟨fun x hx => h.program x (hother ▸ hx), fun hx => h.answer (hother ▸ hx), h.answered⟩
  · by_cases hd : c = d
    · subst hd
      have hp := h.program x hx
      obtain ⟨request, p⟩ := x
      cases p with
      | done r =>
        cases r with
        | ok a => exact hp.elim
        | error e =>
          obtain rfl := Option.some_inj.mp hadv
          exact failing_answer hp
      | select q next => exact hp.elim
      | flush w next => exact hp.elim
      | rollback next =>
        obtain rfl := Option.some_inj.mp hadv
        exact failing_goes (s := s.close c) hx hp h.answered
    · exact h.others (advance_others hadv) hd

lemma failing_of_collides {k : ℕ × π} (h : Programs (fun r b p => p.Guarded E (sees r) (G r) b) s)
    (ht : step E program s a = some t) (hc : s.collides E sees a = some k) :
    Failing (G k.2) k.1 t := by
  cases a with
  | arrive d r => cases hc
  | advance d =>
    obtain ⟨x, hx, hm⟩ := Option.bind_eq_some_iff.mp hc
    have hg := h.under d x hx
    have hadv : s.advance E d x.program = some t := by
      have hstep : (s.clients d).bind (fun y => s.advance E d y.program) = some t := ht
      rwa [hx] at hstep
    have hnone : ∀ r, s.answers d = some r → ∃ e, r = .error e ∧ G x.request e := by
      intro r hr
      rw [h.waiting d x hx] at hr
      cases hr
    obtain ⟨request, p⟩ := x
    cases p with
    | select q next =>
      simp only [Option.ite_none_right_eq_some, Option.some_inj] at hm
      obtain ⟨hs, rfl⟩ := hm
      obtain rfl := Option.some_inj.mp hadv
      exact failing_goes hx ((hg _).1 hs) hnone
    | flush w next =>
      simp only [Option.ite_none_right_eq_some, Option.some_inj] at hm
      obtain ⟨hw, rfl⟩ := hm
      obtain ⟨-, ⟨hw', -⟩ | ⟨hw', -⟩ | ⟨-, rfl⟩⟩ := flush_inv hadv
      · rw [hw] at hw'
        cases hw'
      · rw [hw] at hw'
        cases hw'
      · exact failing_goes hx (hg.2.1 _ hw).1 hnone
    | done r => cases hm
    | rollback next => cases hm

def Succeeded (c : ℕ) (s : Server θ δ ω ε α π) : Prop :=
  s.clients c = none ∧ ∃ a, s.answers c = some (.ok a)

lemma succeeded_step (h : Succeeded c s) (ht : step E program s a = some t) : Succeeded c t := by
  obtain ⟨hc, b, hb⟩ := h
  rcases step_inv ht with ⟨d, r, -, hd, ha, rfl⟩ | ⟨d, x, -, hx, hadv⟩
  · have hdc : c ≠ d := by
      rintro rfl
      rw [ha] at hb
      cases hb
    exact ⟨(Function.update_of_ne hdc ..).trans hc, b, hb⟩
  · have hdc : c ≠ d := by
      rintro rfl
      rw [hc] at hx
      cases hx
    have ho := advance_others hadv
    exact ⟨(ho.clients c hdc).trans hc, b, (ho.answers c hdc).trans hb⟩

lemma advance_keeps (ht : step E program s (.advance c) = some t) (hs : ¬ Succeeded c t) :
    t.database = s.database := by
  obtain ⟨x, -, hadv⟩ := Option.bind_eq_some_iff.mp ht
  obtain ⟨request, p⟩ := x
  cases p with
  | done r =>
    cases r with
    | ok b =>
      obtain rfl := Option.some_inj.mp hadv
      exact absurd ⟨answer_self.1, b, answer_self.2⟩ hs
    | error e =>
      obtain rfl := Option.some_inj.mp hadv
      rfl
  | select q next =>
    obtain rfl := Option.some_inj.mp hadv
    rfl
  | flush w next =>
    obtain ⟨-, ⟨-, -, rfl⟩ | ⟨-, rfl⟩ | ⟨-, rfl⟩⟩ := flush_inv hadv <;> rfl
  | rollback next =>
    obtain rfl := Option.some_inj.mp hadv
    rfl

lemma failing_exec (h : Failing F c s) (ht : exec (step E program) s as = some t) : Failing F c t :=
  exec_history (R := fun _ => Failing F c) (fun _ _ _ _ => failing_step) h ht

theorem collided {d : δ} {k : ℕ × π} (hprogram : ∀ r, (program r).Guarded E (sees r) (G r) false)
    (h : exec (step E program) (opened d) as = some t)
    (hk : k ∈ trace (step E program) (collides E sees) (opened d) as) :
    Failing (G k.2) k.1 t ∧ Along (step E program)
      (fun u a v => a = .advance k.1 → v.database = u.database) (opened d) as := by
  have hrun : exec (step E program) (opened d) as = some t ∧
      Programs (fun r b p => p.Guarded E (sees r) (G r) b) t ∧
      ∀ k ∈ trace (step E program) (collides E sees) (opened d) as, Failing (G k.2) k.1 t := by
    refine exec_history (R := fun as t => exec (step E program) (opened d) as = some t ∧
      Programs (fun r b p => p.Guarded E (sees r) (G r) b) t ∧
      ∀ k ∈ trace (step E program) (collides E sees) (opened d) as, Failing (G k.2) k.1 t) ?_
      ⟨rfl, opened_programs d, fun k hk => by cases hk⟩ h
    rintro as u a v ⟨hu, hp, hall⟩ hv
    refine ⟨(exec_append hu).trans ((exec_cons hv).trans rfl),
      programs_step (guarded_lasting hprogram) hp hv, ?_⟩
    intro k hk
    rw [trace_concat hu hv, List.mem_append, Option.mem_toList] at hk
    rcases hk with hk | hk
    · exact failing_step (hall k hk) hv
    · exact failing_of_collides hp hv hk
  have hfail := hrun.2.2 k hk
  refine ⟨hfail, along_of_unmarked (M := Succeeded k.1) (fun s a t => succeeded_step) ?_ h ?_⟩
  · rintro u a v hv hm rfl
    exact advance_keeps hv hm
  · rintro ⟨hnone, b, hb⟩
    obtain ⟨e, he, -⟩ := hfail.answer hnone
    rw [hb] at he
    cases he

lemma Failing.answers (h : Failing F c s) : ∃ n t e,
    exec (step E program) s (List.replicate n (.advance c)) = some t ∧
      t.answers c = some (.error e) ∧ F e := by
  cases hx : s.clients c with
  | none =>
    obtain ⟨e, he, hF⟩ := h.answer hx
    exact ⟨0, s, e, rfl, he, hF⟩
  | some x =>
    obtain ⟨request, p⟩ := x
    have hp := h.program _ hx
    clear h
    induction p generalizing s with
    | done r =>
      cases r with
      | ok a => exact hp.elim
      | error e =>
        refine ⟨1, (s.close c).answer c (.error e), e, ?_, answer_self.2, hp⟩
        have hstep : step E program s (.advance c) = some ((s.close c).answer c (.error e)) := by
          rw [step, hx]
          rfl
        exact exec_cons hstep
    | select q next ih => exact hp.elim
    | flush w next ih => exact hp.elim
    | rollback next ih =>
      have hstep : step E program s (.advance c) = some ((s.close c).goes c next) := by
        rw [step, hx]
        rfl
      obtain ⟨n, t, e, ht, he, hF⟩ := ih (s := (s.close c).goes c next)
        (goes_self (s := s.close c) hx) hp
      exact ⟨n + 1, t, e, (exec_cons hstep).trans ht, he, hF⟩

end Collisions

end Server

end NotebookExecution.Library.Isolation
