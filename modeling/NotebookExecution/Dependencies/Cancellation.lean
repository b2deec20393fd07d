import NotebookExecution.Dependencies.Outcome
import NotebookExecution.Library.Runs

/-! An operation that is cancelled while it is installed. Both parties write the status of one record,
and neither looks at what it overwrites. -/

namespace NotebookExecution.Dependencies

open Library.Transaction Library.Table Library.Runs Store DependencyResolver
  DependencyOperationRepository DependencyManager

variable {w : Runtime} {x : Setting} {timeout : Seconds} {payload : List PackageEntry} {d : Database}
  {notebookId : Uuid} {sessionId : Option String} {row : DependencyOperation}

structure Operating where
  session : Session Database
  rest : List StatusUpdate
  cancelling : ℕ

inductive Action
  | write
  | call
  | cancel (now : Instant)

namespace Operating

def record (x : Setting) (s : Operating) : Option DependencyOperation :=
  dependencyOperationTable.find x.operationId s.session.view

def underWay (x : Setting) (s : Operating) : Bool := (s.record x).any fun r => !ends r.status

def step (x : Setting) (s : Operating) : Action → Option Operating
  | .write =>
    match s.rest with
    | [] => none
    | u :: us => some { s with session := (mark x u s.session).2, rest := us }
  | .call => some (if s.underWay x then { s with cancelling := s.cancelling + 1 } else s)
  | .cancel now =>
    if s.cancelling = 0 then none
    else some { s with
      session := (updateStatus now x.operationId { status := .cancelled } s.session).2
      cancelling := s.cancelling - 1 }

end Operating

open Operating

lemma exec_cancel (now : Instant) (s : Operating) : exec (step x) s
    (if s.underWay x then [.call, .cancel now] else [.call]) =
      some { s with session := (cancelOperation now x.operationId s.session).2 } := by
  have hg : (getByOperationId x.operationId : Tx Database DependencyFailure _) s.session =
    (.ok (s.record x), s.session) := rfl
  rw [cancelOperation, bind_ok hg]
  cases hr : s.record x with
  | none =>
    have hu : s.underWay x = false := by
      rw [underWay, hr]
      rfl
    simp [hu, exec, step]
  | some r =>
    cases he : ends r.status with
    | true =>
      have hu : s.underWay x = false := by
        rw [underWay, hr, Option.any_some, he]
        rfl
      simp [hu, exec, step, he]
    | false =>
      have hu : s.underWay x = true := by
        rw [underWay, hr, Option.any_some, he]
        rfl
      simp [hu, exec, step, he]

lemma exec_writes (hd : dependencyOperationTable.find x.operationId d = none)
    (hr : row.operationId = x.operationId) (us : List StatusUpdate) (n : ℕ) :
    exec (step x) ⟨flushed d row, us, n⟩ (List.replicate us.length .write) =
      some ⟨flushed d (recordAfter x row us), [], n⟩ := by
  induction us generalizing row with
  | nil => rfl
  | cons u us ih =>
    have hs : step x ⟨flushed d row, u :: us, n⟩ .write =
        some ⟨flushed d (assign (x.clock u.status) u row), us, n⟩ := by
      change some (Operating.mk (mark x u (flushed d row)).2 us n) = _
      rw [mark_flushed hd hr]
    rw [List.length_cons, List.replicate_succ, exec_cons hs]
    exact ih hr

def start (w : Runtime) (x : Setting) (timeout : Seconds) (payload : List PackageEntry)
    (session : Session Database) : Operating :=
  ⟨session, (script w x timeout payload).updates, 0⟩

theorem exec_install (hf : Fresh x d) (hn : (notebookTable.find notebookId d).isSome = true) :
    ∃ session, DependencyOperationRepository.create
        (requested w x notebookId sessionId (payloadOf notebookId d)) (.open d) = (.ok
          (requested w x notebookId sessionId (payloadOf notebookId d)), session) ∧
      exec (step x) (start w x timeout (payloadOf notebookId d) session)
          (List.replicate (script w x timeout (payloadOf notebookId d)).updates.length .write) =
        some ⟨(installNotebookDependencies w x timeout notebookId sessionId (.open d)).2, [], 0⟩ := by
  refine ⟨_, create_flushed hf rfl rfl hn, ?_⟩
  rw [install_follows hf hn]
  exact exec_writes hf.1 rfl _ 0

def place : DependencyStatus → ℕ
  | .requested => 0
  | .validating => 1
  | .resolving => 2
  | .installing => 3
  | .verifying => 4
  | .ready | .failed | .cancelled => 5

def Advances (a b : DependencyStatus) : Prop := a = b ∨ ends a = false ∧ place a < place b

instance : DecidableRel Advances := fun a b =>
  inferInstanceAs (Decidable (a = b ∨ ends a = false ∧ place a < place b))

def Orderly (x : Setting) (s t : Operating) : Prop :=
  ∀ r ∈ s.record x, ∀ r' ∈ t.record x,
    Advances r.status r'.status ∧ r'.completedAt.isSome = ends r'.status

def Apart (x : Setting) (s : Operating) : Action → Prop
  | .write => ∀ r ∈ s.record x, r.status ≠ .cancelled
  | .call => True
  | .cancel _ => ∀ r ∈ s.record x, r.status ≠ .ready ∧ r.status ≠ .failed

def Rises (a b : DependencyStatus) : Prop := place a < place b ∧ b ≠ .cancelled

def Climbs (a : DependencyStatus) (us : List StatusUpdate) : Prop :=
  (a :: us.map StatusUpdate.status).IsChain Rises

lemma ends_iff {a : DependencyStatus} : ends a = false ↔ place a < 5 := by
  cases a <;> decide

lemma Rises.ends {a b : DependencyStatus} (h : Rises a b) : ends a = false := by
  have hb : place b ≤ 5 := by cases b <;> decide
  apply ends_iff.mpr
  exact lt_of_lt_of_le h.1 hb

lemma climbs_cons {a : DependencyStatus} {u : StatusUpdate} {us : List StatusUpdate} :
    Climbs a (u :: us) ↔ Rises a u.status ∧ Climbs u.status us := by
  rw [Climbs, List.map_cons, List.isChain_cons_cons]
  rfl

lemma climbs_fails {a : DependencyStatus} (h : place a < 5) (m : String) (err : DependencyFailure) :
    Climbs a (Script.fails m err).updates :=
  climbs_cons.mpr ⟨⟨h, nofun⟩, List.isChain_singleton _⟩

lemma climbs_succeeds {a : DependencyStatus} (h : place a < 5) (v : Option Json) :
    Climbs a (Script.succeeds v).updates :=
  climbs_cons.mpr ⟨⟨h, nofun⟩, List.isChain_singleton _⟩

lemma verification_climbs : Climbs .verifying (verification w x payload).updates := by
  rw [verification]
  split
  · exact climbs_fails (by decide) _ _
  · split
    · exact climbs_succeeds (by decide) _
    · exact climbs_fails (by decide) _ _

lemma installed_climbs (reply : InstallReply) :
    Climbs .installing (installed w x timeout payload reply).updates := by
  rw [installed]
  split
  · exact climbs_fails (by decide) _ _
  · split
    · exact climbs_fails (by decide) _ _
    · split
      · exact climbs_fails (by decide) _ _
      · exact climbs_cons.mpr ⟨⟨by decide, by decide⟩, verification_climbs⟩

lemma resolving_climbs (reqs : List Resolved) :
    Climbs .resolving (resolving w x timeout payload reqs).updates := by
  rw [resolving]
  split
  · exact climbs_fails (by decide) _ _
  · split
    · exact climbs_succeeds (by decide) _
    · apply climbs_cons.mpr
      refine ⟨⟨by decide, by decide⟩, ?_⟩
      rw [installing]
      split
      · exact climbs_fails (by decide) _ _
      · exact installed_climbs _

lemma script_climbs : Climbs .requested (script w x timeout payload).updates := by
  rw [script]
  split
  · exact climbs_succeeds (by decide) _
  · split
    · apply climbs_cons.mpr
      exact ⟨⟨by decide, by decide⟩, climbs_fails (by decide) _ _⟩
    · apply climbs_cons.mpr
      refine ⟨⟨by decide, by decide⟩, climbs_cons.mpr ⟨⟨by decide, by decide⟩, ?_⟩⟩
      exact resolving_climbs _

/-! ## What holds of the record at any point -/

structure InStep (x : Setting) (d : Database) (s : Operating) (row : DependencyOperation) : Prop where
  session : s.session = flushed d row
  operationId : row.operationId = x.operationId
  completed : row.completedAt.isSome = ends row.status
  climbs : row.status ≠ .cancelled → Climbs row.status s.rest
  uncancelled : ∀ u ∈ s.rest, u.status ≠ .cancelled

lemma Climbs.uncancelled {a : DependencyStatus} {us : List StatusUpdate} (h : Climbs a us) :
    ∀ u ∈ us, u.status ≠ .cancelled := by
  induction us generalizing a with
  | nil => nofun
  | cons u us ih =>
    obtain ⟨hu, hs⟩ := climbs_cons.mp h
    intro v hv
    cases List.mem_cons.mp hv with
    | inl h => exact h ▸ hu.2
    | inr h => exact ih hs v h

section

variable (hd : dependencyOperationTable.find x.operationId d = none)

include hd

lemma InStep.record {s : Operating} (h : InStep x d s row) : s.record x = some row := by
  rw [Operating.record, h.session]
  exact find_flushed hd h.operationId

omit hd in
lemma completed_assign (now : Instant) (u : StatusUpdate) (h : row.completedAt.isSome = ends row.status)
    (hr : ends row.status = false ∨ ends u.status = true) :
    (assign now u row).completedAt.isSome = ends u.status := by
  cases hu : ends u.status with
  | true => simp [assign, hu]
  | false =>
    have hf : ends row.status = false := hr.resolve_right (by rw [hu]; exact Bool.noConfusion)
    simp [assign, hu, h, hf]

omit hd in
lemma orderly_iff {s t : Operating} {row' : DependencyOperation} (hs : s.record x = some row)
    (ht : t.record x = some row') : Orderly x s t ↔
      Advances row.status row'.status ∧ row'.completedAt.isSome = ends row'.status := by
  constructor
  · intro h
    exact h row hs row' ht
  · intro h r hr r' hr'
    cases hs.symm.trans hr
    cases ht.symm.trans hr'
    exact h

lemma InStep.write {s t : Operating} (h : InStep x d s row) (ht : step x s .write = some t) :
    ∃ u us, s.rest = u :: us ∧ t.session = flushed d (assign (x.clock u.status) u row) ∧ t.rest = us := by
  rw [step] at ht
  cases hr : s.rest with
  | nil =>
    rw [hr] at ht
    cases ht
  | cons u us =>
    rw [hr] at ht
    cases ht
    refine ⟨u, us, rfl, ?_, rfl⟩
    change (mark x u s.session).2 = _
    rw [h.session, mark_flushed hd h.operationId]

lemma write_orderly {s t : Operating} (h : InStep x d s row) (ht : step x s .write = some t) :
    (Orderly x s t ↔ row.status ≠ .cancelled) ∧
      (row.status ≠ .cancelled → ∃ row', InStep x d t row') := by
  obtain ⟨u, us, hr, hsession, hrest⟩ := h.write hd ht
  have hrecord : t.record x = some (assign (x.clock u.status) u row) := by
    rw [Operating.record, hsession]
    exact find_flushed hd h.operationId
  have hgo (hc : row.status ≠ .cancelled) : Rises row.status u.status ∧ Climbs u.status us := by
    have hclimbs := h.climbs hc
    rw [hr] at hclimbs
    exact climbs_cons.mp hclimbs
  have hdone (hc : row.status ≠ .cancelled) :
      (assign (x.clock u.status) u row).completedAt.isSome = ends u.status :=
    completed_assign _ u h.completed (Or.inl (hgo hc).1.ends)
  constructor
  · rw [orderly_iff (h.record hd) hrecord]
    constructor
    · rintro ⟨hadvances, -⟩ hc
      have hu : u.status ≠ .cancelled := h.uncancelled u (hr ▸ List.mem_cons_self)
      rw [hc] at hadvances
      cases hadvances with
      | inl he => exact hu he.symm
      | inr hl => exact Bool.noConfusion hl.1
    · intro hc
      exact ⟨Or.inr ⟨(hgo hc).1.ends, (hgo hc).1.1⟩, hdone hc⟩
  · intro hc
    refine ⟨_, hsession, h.operationId, hdone hc, fun _ => ?_, ?_⟩
    · rw [hrest]
      exact (hgo hc).2
    · rw [hrest]
      exact (hgo hc).2.uncancelled

lemma cancel_orderly {s t : Operating} {now : Instant} (h : InStep x d s row)
    (ht : step x s (.cancel now) = some t) :
    (Orderly x s t ↔ row.status ≠ .ready ∧ row.status ≠ .failed) ∧ ∃ row', InStep x d t row' := by
  rw [step] at ht
  split at ht
  · cases ht
  · cases ht
    rw [h.session, updateStatus_flushed hd h.operationId]
    have hrecord : Operating.record x ⟨flushed d (assign now { status := .cancelled } row), s.rest,
        s.cancelling - 1⟩ = some (assign now { status := .cancelled } row) := find_flushed hd h.operationId
    constructor
    · rw [orderly_iff (h.record hd) hrecord]
      change Advances row.status .cancelled ∧ _ ↔ _
      cases hstatus : row.status <;> simp [Advances, ends, place, assign]
    · refine ⟨_, rfl, h.operationId, rfl, fun hc => absurd rfl hc, h.uncancelled⟩

lemma call_orderly {s t : Operating} (h : InStep x d s row) (ht : step x s .call = some t) :
    Orderly x s t ∧ InStep x d t row := by
  have hsame : t.session = s.session ∧ t.rest = s.rest := by
    rw [step] at ht
    split at ht
    · cases ht
      exact ⟨rfl, rfl⟩
    · cases ht
      exact ⟨rfl, rfl⟩
  have ht : InStep x d t row := by
    obtain ⟨hsession, hrest⟩ := hsame
    refine ⟨hsession.trans h.session, h.operationId, h.completed, ?_, ?_⟩
    · rw [hrest]
      exact h.climbs
    · rw [hrest]
      exact h.uncancelled
  refine ⟨(orderly_iff (h.record hd) (ht.record hd)).mpr ⟨Or.inl rfl, h.completed⟩, ht⟩

omit hd in
lemma apart_iff {s : Operating} (h : s.record x = some row) {P : DependencyOperation → Prop} :
    (∀ r ∈ s.record x, P r) ↔ P row := by
  rw [h]
  constructor
  · intro hp
    exact hp row rfl
  · intro hp r hr
    cases hr
    exact hp

lemma orderly_iff_apart {s t : Operating} {a : Action} (h : InStep x d s row) (ht : step x s a = some t) :
    (Orderly x s t ↔ Apart x s a) ∧ (Apart x s a → ∃ row', InStep x d t row') := by
  cases a with
  | write =>
    rw [Apart, apart_iff (h.record hd)]
    exact write_orderly hd h ht
  | call =>
    obtain ⟨ho, hi⟩ := call_orderly hd h ht
    exact ⟨iff_of_true ho trivial, fun _ => ⟨row, hi⟩⟩
  | cancel now =>
    rw [Apart, apart_iff (h.record hd)]
    obtain ⟨ho, hi⟩ := cancel_orderly hd h ht
    exact ⟨ho, fun _ => hi⟩

end

lemma create_inv {r : DependencyOperation} {session : Session Database}
    (h : DependencyOperationRepository.create row (.open d) = (.ok r, session)) :
    dependencyOperationTable.find row.operationId d = none ∧ session = flushed d row := by
  cases ho : dependencyOperationTable.occupied dependencyOperationClash row d with
  | true =>
    rw [DependencyOperationRepository.create, TableOf.insert_refused _ ho] at h
    cases h
  | false =>
    rw [DependencyOperationRepository.create, TableOf.insert_accepted _ ho] at h
    cases h
    rw [TableOf.occupied, Bool.or_eq_false_iff, Option.isSome_eq_false_iff, Option.isNone_iff_eq_none] at ho
    exact ⟨ho.1, rfl⟩

theorem orderly_iff_apart_along {r : DependencyOperation} {session : Session Database}
    (h : DependencyOperationRepository.create (requested w x notebookId sessionId payload) (.open d) =
      (.ok r, session)) (as : List Action) :
    Along (step x) (fun s _ t => Orderly x s t) (start w x timeout payload session) as ↔
      Along (step x) (fun s a _ => Apart x s a) (start w x timeout payload session) as := by
  obtain ⟨hd, rfl⟩ := create_inv h
  apply along_iff_of_keeps (I := fun s => ∃ row, InStep x d s row)
  · rintro s a t ⟨row, hs⟩ ht hc
    exact (orderly_iff_apart hd hs ht).2 hc
  · rintro s a t ⟨row, hs⟩ ht
    exact (orderly_iff_apart hd hs ht).1
  · exact ⟨_, rfl, rfl, rfl, fun _ => script_climbs, script_climbs.uncancelled⟩

def cancelledLate : List Action := [.write, .write, .write, .write, .write, .call]

def cancelledMidway : List Action := [.write, .write, .write, .call, .cancel 15, .write]

def declared : DependencyOperation :=
  requested (installer "") firstOperation 1 none (payloadOf 1 declaresPandas)

lemma declared_recorded : DependencyOperationRepository.create declared (.open declaresPandas) =
    (.ok declared, flushed declaresPandas declared) :=
  create_flushed firstOperation_fresh rfl rfl rfl

instance (s t : Operating) : Decidable (Orderly x s t) :=
  inferInstanceAs (Decidable (∀ r ∈ s.record x, ∀ r' ∈ t.record x, _ ∧ _))

instance (s : Operating) : (a : Action) → Decidable (Apart x s a)
  | .write => inferInstanceAs (Decidable (∀ r ∈ s.record x, r.status ≠ .cancelled))
  | .call => .isTrue trivial
  | .cancel _ => inferInstanceAs (Decidable (∀ r ∈ s.record x, _ ∧ _))

theorem late_cancellation_orderly : Along (step firstOperation) (fun s _ t => Orderly firstOperation s t)
    (start (installer "") firstOperation "120.0" (payloadOf 1 declaresPandas)
      (flushed declaresPandas declared)) cancelledLate := by
  apply (orderly_iff_apart_along declared_recorded cancelledLate).mpr
  decide

theorem cancelled_operation_verified : ¬ ∀ w x timeout notebookId sessionId payload d r session,
    DependencyOperationRepository.create (requested w x notebookId sessionId payload) (.open d) =
      (.ok r, session) → ∀ as, Along (step x) (fun s _ t => Orderly x s t)
        (start w x timeout payload session) as := by
  intro h
  have hp := h (installer "") firstOperation "120.0" 1 none (payloadOf 1 declaresPandas) declaresPandas
    declared (flushed declaresPandas declared) declared_recorded cancelledMidway
  revert hp
  decide

end NotebookExecution.Dependencies
