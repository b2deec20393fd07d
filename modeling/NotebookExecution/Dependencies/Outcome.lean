import NotebookExecution.Dependencies.Installation

/-! When an installation ends READY. The logs of the pip run are captured between the installation and
its verification, by a call that the output manager refuses. -/

namespace NotebookExecution.Dependencies

open Library.Transaction Library.Table Store DependencyResolver DependencyOperationRepository
  DependencyManager

variable {w : Runtime} {x : Setting} {timeout : Seconds} {payload : List PackageEntry} {d : Database}
  {notebookId : Uuid} {sessionId : Option String}

lemma packagesPayload_nil {declared : List NotebookDependency} :
    packagesPayload declared = [] ↔ declared = [] := by
  rw [packagesPayload, List.map_eq_nil_iff]

def payloadOf (notebookId : Uuid) (d : Database) : List PackageEntry :=
  packagesPayload (NotebookDependencyRepository.dependenciesOf notebookId d)

lemma create_flushed {row : DependencyOperation} (hf : Fresh x d) (hr : row.operationId = x.operationId)
    (hi : row.id = x.uuid) (hn : (notebookTable.find row.notebookId d).isSome = true) :
    DependencyOperationRepository.create row (.open d) = (.ok row, flushed d row) := by
  apply dependencyOperationTable.insert_accepted
  have hnone : dependencyOperationTable.find (dependencyOperationTable.key row) d = none := by
    change dependencyOperationTable.find row.operationId d = none
    rw [hr]
    exact hf.1
  have hclash : dependencyOperationClash d row = false := by
    rw [dependencyOperationClash, Bool.or_eq_false_iff]
    constructor
    · simp only [List.any_eq_false, decide_eq_true_eq, not_and]
      intro y hy _
      rw [hi]
      exact hf.2 y hy
    · obtain ⟨nb, hnb⟩ := Option.isSome_iff_exists.mp hn
      rw [Bool.eq_false_iff, Ne, List.all_eq_true]
      intro hall
      exact of_decide_eq_true (hall nb (lookup_mem hnb)) (lookup_key hnb)
  change ((dependencyOperationTable.find (dependencyOperationTable.key row) d).isSome ||
    dependencyOperationClash d row) = false
  rw [hnone, hclash]
  rfl

lemma create_refused {row : DependencyOperation} (hn : notebookTable.find row.notebookId d = none) :
    DependencyOperationRepository.create row (.open d) = (.error .integrityError, .open d) := by
  apply dependencyOperationTable.insert_refused
  have hall : d.notebooks.all (fun n => n.id ≠ row.notebookId) = true := by
    rw [List.all_eq_true]
    intro n hm
    exact decide_eq_true (lookup_none.mp hn n hm)
  change ((dependencyOperationTable.find (dependencyOperationTable.key row) d).isSome ||
    (_ || d.notebooks.all fun n => n.id ≠ row.notebookId)) = true
  rw [hall, Bool.or_true, Bool.or_true]

def finalRecord (w : Runtime) (x : Setting) (timeout : Seconds) (notebookId : Uuid)
    (sessionId : Option String) (payload : List PackageEntry) : DependencyOperation :=
  recordAfter x (requested w x notebookId sessionId payload) (script w x timeout payload).updates

theorem install_follows (hf : Fresh x d) (hn : (notebookTable.find notebookId d).isSome = true) :
    installNotebookDependencies w x timeout notebookId sessionId (.open d) =
      ((script w x timeout (payloadOf notebookId d)).failure.elim
          (.ok (some (finalRecord w x timeout notebookId sessionId (payloadOf notebookId d)))) .error,
        flushed d (finalRecord w x timeout notebookId sessionId (payloadOf notebookId d))) := by
  have hl : NotebookDependencyRepository.listByNotebookId (ε := DependencyFailure) notebookId (.open d) =
    (.ok (NotebookDependencyRepository.dependenciesOf notebookId d), .open d) := rfl
  have hc : DependencyOperationRepository.create (requested w x notebookId sessionId (payloadOf notebookId d))
      (.open d) = _ := create_flushed hf rfl rfl hn
  rw [installNotebookDependencies, bind_ok hl]
  apply (bind_ok hc).trans
  by_cases hnil : NotebookDependencyRepository.dependenciesOf notebookId d = []
  · have hp : payloadOf notebookId d = [] := packagesPayload_nil.mpr hnil
    rw [if_pos hnil, finalRecord, script, if_pos hp]
    exact ready_follows hf.1 _ _ rfl
  · have hp : payloadOf notebookId d ≠ [] := fun h => hnil (packagesPayload_nil.mp h)
    rw [if_neg hnil]
    exact stages_caught hf.1 hp _ rfl

lemma install_refused (hn : notebookTable.find notebookId d = none) :
    installNotebookDependencies w x timeout notebookId sessionId (.open d) =
      (.error .integrityError, .open d) := by
  have hl : NotebookDependencyRepository.listByNotebookId (ε := DependencyFailure) notebookId (.open d) =
    (.ok (NotebookDependencyRepository.dependenciesOf notebookId d), .open d) := rfl
  rw [installNotebookDependencies, bind_ok hl]
  exact bind_error (create_refused hn)

def Verifies (reply : Except String VerifyReply) : Prop := ∃ r, reply = .ok r ∧ r.satisfied = true

def Unsatisfied (reply : Except String VerifyReply) : Prop := ∃ r, reply = .ok r ∧ r.satisfied = false

def Quiet (reply : InstallReply) : Prop := isFalsy reply.stdout = true ∧ isFalsy reply.stderr = true

def Installs (w : Runtime) (timeout : Seconds) (payload : List PackageEntry) (reqs : List Resolved)
    (reply : InstallReply) : Prop :=
  Unsatisfied (w.verifyBefore payload) ∧
    w.installPackages (reqs.map Resolved.requirement) timeout = .ok reply ∧
      reply.status = some "ok" ∧ Verifies (w.verifyAfter payload)

def ReadyCase (w : Runtime) (timeout : Seconds) (payload : List PackageEntry) : Prop :=
  payload = [] ∨ ∃ reqs, resolveRequirements (items payload) = .ok reqs ∧
    (Verifies (w.verifyBefore payload) ∨ ∃ reply, Installs w timeout payload reqs reply)

def Interrupted (w : Runtime) (timeout : Seconds) (payload : List PackageEntry) : Prop :=
  payload ≠ [] ∧ ∃ reqs, resolveRequirements (items payload) = .ok reqs ∧
    ∃ reply, Installs w timeout payload reqs reply ∧ ¬ Quiet reply

lemma verification_succeeds :
    (verification w x payload).failure = none ↔ Verifies (w.verifyAfter payload) := by
  rw [verification]
  cases hv : w.verifyAfter payload with
  | error m => simp [Script.fails, Verifies]
  | ok after =>
    cases ha : after.satisfied with
    | true => simp [Script.succeeds, Verifies, ha]
    | false => simp [Script.fails, Verifies, ha]

lemma captureLogs_ok {reply : InstallReply} : (∃ u, captureLogs reply = .ok u) ↔ Quiet reply := by
  rw [captureLogs, Quiet]
  cases captureLog_cases reply.stdout with
  | inr hout =>
    obtain ⟨⟨m, hm⟩, hf⟩ := hout
    rw [hm, hf]
    apply iff_of_false
    · rintro ⟨_, h⟩
      cases h
    · intro h
      exact Bool.noConfusion h.1
  | inl hout =>
    cases captureLog_cases reply.stderr with
    | inr herr =>
      obtain ⟨⟨m, hm⟩, hf⟩ := herr
      rw [hout.1, hm, hf]
      apply iff_of_false
      · rintro ⟨_, h⟩
        cases h
      · intro h
        exact Bool.noConfusion h.2
    | inl herr =>
      rw [hout.1, herr.1]
      exact iff_of_true ⟨(), rfl⟩ ⟨hout.2, herr.2⟩

lemma installed_succeeds {reply : InstallReply} : (installed w x timeout payload reply).failure = none ↔
    Quiet reply ∧ reply.status = some "ok" ∧ Verifies (w.verifyAfter payload) := by
  rw [← captureLogs_ok, installed]
  cases hc : captureLogs reply with
  | error err => simp [Script.fails]
  | ok u =>
    by_cases ht : reply.status = some "timeout"
    · simp [ht, Script.fails]
    · by_cases hs : reply.status = some "ok"
      · simp [hs, Script.writes, verification_succeeds]
      · simp [ht, hs, Script.fails]

lemma installing_succeeds {reqs : List Resolved} : (installing w x timeout payload reqs).failure = none ↔
    ∃ reply, w.installPackages (reqs.map Resolved.requirement) timeout = .ok reply ∧
      reply.status = some "ok" ∧ Verifies (w.verifyAfter payload) ∧ Quiet reply := by
  rw [installing]
  cases w.installPackages (reqs.map Resolved.requirement) timeout with
  | error m => simp [Script.fails]
  | ok reply =>
    rw [installed_succeeds]
    constructor
    · rintro ⟨hq, hs, ha⟩
      exact ⟨reply, rfl, hs, ha, hq⟩
    · rintro ⟨r, hr, hs, ha, hq⟩
      cases hr
      exact ⟨hq, hs, ha⟩

lemma not_verifies {reply : Except String VerifyReply} (h : Unsatisfied reply) : ¬ Verifies reply := by
  rintro ⟨r, hr, hs⟩
  obtain ⟨r', hr', hs'⟩ := h
  cases hr.symm.trans hr'
  exact Bool.noConfusion (hs.symm.trans hs')

lemma resolving_succeeds {reqs : List Resolved} : (resolving w x timeout payload reqs).failure = none ↔
    Verifies (w.verifyBefore payload) ∨ ∃ reply, Installs w timeout payload reqs reply ∧ Quiet reply := by
  rw [resolving]
  cases hv : w.verifyBefore payload with
  | error m => simp [Script.fails, Verifies, Installs, Unsatisfied, hv]
  | ok before =>
    cases hb : before.satisfied with
    | true => simp [Script.succeeds, Verifies, hb]
    | false =>
      have hu : Unsatisfied (w.verifyBefore payload) := ⟨before, hv, hb⟩
      have hn : ¬ Verifies (.ok before) := not_verifies ⟨before, rfl, hb⟩
      simp only [hb, Bool.false_eq_true, if_false, Script.writes, hn, false_or, Installs, hu, true_and,
        installing_succeeds, and_assoc]

lemma script_succeeds : (script w x timeout payload).failure = none ↔
    ReadyCase w timeout payload ∧ ¬ Interrupted w timeout payload := by
  rw [script]
  by_cases hp : payload = []
  · simp [hp, Script.succeeds, ReadyCase, Interrupted]
  · rw [if_neg hp]
    simp only [ReadyCase, Interrupted, hp, false_or, ne_eq, not_false_eq_true, true_and]
    cases hq : resolveRequirements (items payload) with
    | error err => simp [Script.writes, Script.fails]
    | ok reqs =>
      simp only [Script.writes, resolving_succeeds, Except.ok.injEq, exists_eq_left']
      constructor
      · rintro (hb | ⟨reply, hi, hr⟩)
        · refine ⟨Or.inl hb, ?_⟩
          rintro ⟨reply, hi, -⟩
          exact not_verifies hi.1 hb
        · refine ⟨Or.inr ⟨reply, hi⟩, ?_⟩
          rintro ⟨reply', hi', hn⟩
          cases hi.2.1.symm.trans hi'.2.1
          exact hn hr
      · rintro ⟨hb | ⟨reply, hi⟩, hn⟩
        · exact Or.inl hb
        · apply Or.inr
          refine ⟨reply, hi, ?_⟩
          by_contra hr
          exact hn ⟨reply, hi, hr⟩

inductive Ends : Script → Prop
  | succeeds (us : List StatusUpdate) (v : Option Json) : Ends ((Script.succeeds v).writes us)
  | fails (us : List StatusUpdate) (m : String) (err : DependencyFailure) : Ends ((Script.fails m err).writes us)

lemma Ends.writes {s : Script} (h : Ends s) (us : List StatusUpdate) : Ends (s.writes us) := by
  cases h with
  | succeeds vs v =>
    have hw : ((Script.succeeds v).writes vs).writes us = (Script.succeeds v).writes (us ++ vs) := by
      simp [Script.writes]
    rw [hw]
    exact .succeeds _ v
  | fails vs m err =>
    have hw : ((Script.fails m err).writes vs).writes us = (Script.fails m err).writes (us ++ vs) := by
      simp [Script.writes]
    rw [hw]
    exact .fails _ m err

lemma verification_ends : Ends (verification w x payload) := by
  rw [verification]
  cases w.verifyAfter payload with
  | error m => exact .fails [] _ _
  | ok after =>
    cases hs : after.satisfied with
    | true =>
      simp only [hs, if_true]
      exact .succeeds [] _
    | false =>
      simp only [hs, Bool.false_eq_true, if_false]
      exact .fails [] _ _

lemma installed_ends (reply : InstallReply) : Ends (installed w x timeout payload reply) := by
  rw [installed]
  split
  · exact .fails [] _ _
  · split
    · exact .fails [] _ _
    · split
      · exact .fails [] _ _
      · exact verification_ends.writes _

lemma resolving_ends (reqs : List Resolved) : Ends (resolving w x timeout payload reqs) := by
  rw [resolving]
  split
  · exact .fails [] _ _
  · split
    · exact .succeeds [] _
    · apply Ends.writes
      rw [installing]
      split
      · exact .fails [] _ _
      · exact installed_ends _

lemma script_ends : Ends (script w x timeout payload) := by
  rw [script]
  split
  · exact .succeeds [] _
  · split
    · exact (Ends.fails [] _ _).writes _
    · exact ((resolving_ends _).writes _).writes _

lemma recordAfter_concat (row : DependencyOperation) (us : List StatusUpdate) (u : StatusUpdate) :
    recordAfter x row (us ++ [u]) = assign (x.clock u.status) u (recordAfter x row us) := by
  rw [recordAfter, List.foldl_append]
  rfl

def FailedRecord (op : DependencyOperation) : Prop :=
  op.status = .failed ∧ op.completedAt.isSome = true ∧ op.errorMessage.isSome = true

lemma ends_succeeds {s : Script} {row : DependencyOperation} (h : Ends s) (hs : s.failure = none) :
    (recordAfter x row s.updates).status = .ready := by
  cases h with
  | succeeds us v =>
    rw [Script.writes, Script.succeeds, recordAfter_concat]
    rfl
  | fails us m err => cases hs

lemma ends_fails {s : Script} {row : DependencyOperation} {err : DependencyFailure} (h : Ends s)
    (hs : s.failure = some err) : FailedRecord (recordAfter x row s.updates) := by
  cases h with
  | succeeds us v => cases hs
  | fails us m err' =>
    rw [Script.writes, Script.fails, recordAfter_concat]
    exact ⟨rfl, rfl, rfl⟩

structure InstallsProperly (w : Runtime) (x : Setting) (timeout : Seconds) (notebookId : Uuid)
    (sessionId : Option String) (d : Database) : Prop where
  ready_iff : (∃ op s, installNotebookDependencies w x timeout notebookId sessionId (.open d) =
      (.ok (some op), s) ∧ op.status = .ready) ↔ ReadyCase w timeout (payloadOf notebookId d)
  fails : ¬ ReadyCase w timeout (payloadOf notebookId d) →
    ∃ err s, installNotebookDependencies w x timeout notebookId sessionId (.open d) = (.error err, s) ∧
      ∃ op, dependencyOperationTable.find x.operationId s.view = some op ∧ FailedRecord op

lemma install_succeeds (hf : Fresh x d) (hn : (notebookTable.find notebookId d).isSome = true)
    (hs : (script w x timeout (payloadOf notebookId d)).failure = none) :
    ∃ op s, installNotebookDependencies w x timeout notebookId sessionId (.open d) = (.ok (some op), s) ∧
      op.status = .ready := by
  have hi : installNotebookDependencies w x timeout notebookId sessionId (.open d) = _ :=
    install_follows hf hn
  rw [hs] at hi
  exact ⟨_, _, hi, ends_succeeds script_ends hs⟩

lemma finalRecord_operationId :
    (finalRecord w x timeout notebookId sessionId payload).operationId = x.operationId := by
  have h (us : List StatusUpdate) (row : DependencyOperation) :
      (recordAfter x row us).operationId = row.operationId := by
    induction us using List.reverseRecOn with
    | nil => rfl
    | append_singleton us u ih =>
      rw [recordAfter_concat]
      exact ih
  exact h _ _

lemma install_fails {err : DependencyFailure} (hf : Fresh x d)
    (hn : (notebookTable.find notebookId d).isSome = true)
    (hs : (script w x timeout (payloadOf notebookId d)).failure = some err) :
    ∃ s, installNotebookDependencies w x timeout notebookId sessionId (.open d) = (.error err, s) ∧
      ∃ op, dependencyOperationTable.find x.operationId s.view = some op ∧ FailedRecord op := by
  have hi : installNotebookDependencies w x timeout notebookId sessionId (.open d) = _ :=
    install_follows hf hn
  rw [hs] at hi
  refine ⟨_, hi, _, find_flushed hf.1 finalRecord_operationId, ?_⟩
  exact ends_fails script_ends hs

lemma install_returns {r : Option DependencyOperation} {s : Session Database} (hf : Fresh x d)
    (hn : (notebookTable.find notebookId d).isSome = true)
    (h : installNotebookDependencies w x timeout notebookId sessionId (.open d) = (.ok r, s)) :
    (script w x timeout (payloadOf notebookId d)).failure = none := by
  cases hs : (script w x timeout (payloadOf notebookId d)).failure with
  | none => rfl
  | some err =>
    obtain ⟨t, ht, -⟩ : ∃ t, installNotebookDependencies w x timeout notebookId sessionId (.open d) =
      (.error err, t) ∧ _ := install_fails hf hn hs
    cases h.symm.trans ht

lemma ready_of_interrupted (h : Interrupted w timeout payload) : ReadyCase w timeout payload := by
  obtain ⟨-, reqs, hq, reply, hi, -⟩ := h
  exact Or.inr ⟨reqs, hq, Or.inr ⟨reply, hi⟩⟩

lemma interrupted_not_properly (hf : Fresh x d) (hn : (notebookTable.find notebookId d).isSome = true)
    (hi : Interrupted w timeout (payloadOf notebookId d)) :
    ¬ InstallsProperly w x timeout notebookId sessionId d := by
  intro h
  obtain ⟨op, s, ho, -⟩ := h.ready_iff.mpr (ready_of_interrupted hi)
  exact (script_succeeds.mp (install_returns hf hn ho)).2 hi

def report : Notebook := ⟨1, 8, "report", none, "python", 0, 0⟩

def declaresPandas : Database :=
  { Database.empty with
    notebooks := [report]
    notebookDependencies := [⟨2, 1, "pandas", none, 0, 0⟩] }

def installer (stdout : String) : Runtime where
  runtimeId := "runtime"
  verifyBefore := fun _ => .ok ⟨false, none, ["pandas"]⟩
  installPackages := fun _ _ => .ok ⟨some "ok", some stdout, some ""⟩
  verifyAfter := fun _ => .ok ⟨true, some "pandas 2.2.3", []⟩

def firstOperation : Setting := ⟨"dep-op-1", 3, 10, fun _ => 20⟩

def pandas : List Resolved := [⟨"pandas", "", "pandas"⟩]

lemma pandas_payload : payloadOf 1 declaresPandas = [⟨"pandas", ""⟩] := by decide

lemma installer_installs (stdout : String) : Installs (installer stdout) "120.0"
    (payloadOf 1 declaresPandas) pandas ⟨some "ok", some stdout, some ""⟩ :=
  ⟨⟨_, rfl, rfl⟩, rfl, rfl, ⟨_, rfl, rfl⟩⟩

lemma pandas_resolved : resolveRequirements (items (payloadOf 1 declaresPandas)) = .ok pandas := by
  rw [pandas_payload]
  decide

lemma firstOperation_fresh : Fresh firstOperation declaresPandas := by
  constructor
  · rfl
  · intro y hy
    cases hy

end NotebookExecution.Dependencies
