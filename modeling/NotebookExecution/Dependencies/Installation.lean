import NotebookExecution.Dependencies.Manager

/-! What an installation comes to. The statuses it writes depend on the declared packages and on the
replies of the runtime alone, so a run is a list of updates and a failure, if it ends in one. -/

namespace NotebookExecution.Dependencies

open Library.Transaction Library.Table Library.Text Store DependencyResolver
  DependencyOperationRepository DependencyManager

variable {w : Runtime} {x : Setting} {timeout : Seconds} {payload : List PackageEntry} {d : Database}
  {notebookId : Uuid} {sessionId : Option String} {row : DependencyOperation}

structure Script where
  updates : List StatusUpdate
  failure : Option DependencyFailure

namespace Script

def writes (us : List StatusUpdate) (s : Script) : Script := ⟨us ++ s.updates, s.failure⟩

def succeeds (resolvedVersions : Option Json) : Script :=
  ⟨[{ status := .ready, resolvedVersions := resolvedVersions }], none⟩

def fails (errorMessage : String) (err : DependencyFailure) : Script :=
  ⟨[{ status := .failed, errorMessage := some errorMessage }], some err⟩

end Script

def verification (w : Runtime) (x : Setting) (payload : List PackageEntry) : Script :=
  match w.verifyAfter payload with
  | .error m => .fails m (.runtime m)
  | .ok after =>
    if after.satisfied then .succeeds after.resolvedVersions
    else .fails (verificationError after) (.installation x.operationId (verificationError after))

def captureLogs (reply : InstallReply) : Except DependencyFailure Unit := do
  captureLog reply.stdout
  captureLog reply.stderr

def installed (w : Runtime) (x : Setting) (timeout : Seconds) (payload : List PackageEntry)
    (reply : InstallReply) : Script :=
  match captureLogs reply with
  | .error err => .fails err.text err
  | .ok _ =>
    if reply.status = some "timeout" then
      .fails ("Installation timed out after " ++ timeout ++ " seconds.") (.timeout x.operationId timeout)
    else if reply.status ≠ some "ok" then
      .fails (installError reply.stderr) (.installation x.operationId (installError reply.stderr))
    else (verification w x payload).writes [{ status := .verifying }]

def installing (w : Runtime) (x : Setting) (timeout : Seconds) (payload : List PackageEntry)
    (reqs : List Resolved) : Script :=
  match w.installPackages (reqs.map Resolved.requirement) timeout with
  | .error m => .fails m (.runtime m)
  | .ok reply => installed w x timeout payload reply

def resolving (w : Runtime) (x : Setting) (timeout : Seconds) (payload : List PackageEntry)
    (reqs : List Resolved) : Script :=
  match w.verifyBefore payload with
  | .error m => .fails m (.runtime m)
  | .ok before =>
    if before.satisfied then .succeeds before.resolvedVersions
    else (installing w x timeout payload reqs).writes [{ status := .installing }]

def script (w : Runtime) (x : Setting) (timeout : Seconds) (payload : List PackageEntry) : Script :=
  if payload = [] then .succeeds (some "\x7b\x7d")
  else
    match resolveRequirements (items payload) with
    | .error err => (Script.fails err.text err).writes [{ status := .validating }]
    | .ok reqs =>
      ((resolving w x timeout payload reqs).writes [{ status := .resolving }]).writes
        [{ status := .validating }]

def recordAfter (x : Setting) (row : DependencyOperation) (us : List StatusUpdate) : DependencyOperation :=
  us.foldl (fun r u => assign (x.clock u.status) u r) row

def IsDeclared : DependencyFailure → Prop
  | .validation _ _ | .resolution _ => True
  | _ => False

lemma validatePackageName_raises (name : String) :
    Raises IsDeclared (DependencyValidator.validatePackageName name) := by
  rw [DependencyValidator.validatePackageName]
  split
  · exact .error trivial
  · dsimp only
    split
    · exact .error trivial
    · split
      · exact .ok _
      · exact .error trivial

lemma validateVersionSpecifier_raises (specifier : Option String) :
    Raises IsDeclared (DependencyValidator.validateVersionSpecifier specifier) := by
  cases specifier with
  | none => exact .ok none
  | some text =>
    rw [DependencyValidator.validateVersionSpecifier]
    split
    · exact .ok none
    · dsimp only
      split
      · exact .error trivial
      · generalize (if DependencyValidator.isBareVersion (strip text).toList = true then
          "==" ++ strip text else strip text) = spec
        cases DependencyValidator.isVersionSpecifier spec.toList with
        | true => exact .ok (some spec)
        | false => exact .error trivial

lemma formatRequirement_raises (name : String) (specifier : Option String) :
    Raises IsDeclared (DependencyValidator.formatRequirement name specifier) := by
  apply Raises.bind (validatePackageName_raises name)
  intro validName
  apply Raises.bind (validateVersionSpecifier_raises specifier)
  intro validSpec
  cases validSpec with
  | none => exact .ok _
  | some spec => exact .ok _

lemma resolveItem_raises (m : ResolvedMap) (item : PackageItem) :
    Raises IsDeclared (resolveItem m item) := by
  have hparts : Raises IsDeclared (parts item) := by
    cases item with
    | text s => exact .ok _
    | entry packageName versionSpecifier => exact .ok _
    | other printed => exact .error trivial
  apply Raises.bind hparts
  intro p
  split
  · exact .error trivial
  · next pkgName _ =>
    apply Raises.bind (validatePackageName_raises pkgName)
    intro validName
    apply Raises.bind (validateVersionSpecifier_raises p.2)
    intro validSpec
    split
    · exact .error trivial
    · apply Raises.bind (formatRequirement_raises validName validSpec)
      intro requirement
      exact .ok _

lemma resolveRequirements_raises (packages : List PackageItem) :
    Raises IsDeclared (resolveRequirements packages) :=
  .bind (.foldlM resolveItem_raises) fun _ => .ok _

/-! ## The program follows its script -/

def Fresh (x : Setting) (d : Database) : Prop :=
  dependencyOperationTable.find x.operationId d = none ∧ ∀ y ∈ d.dependencyOperations, y.id ≠ x.uuid

def flushed (d : Database) (row : DependencyOperation) : Session Database :=
  ⟨d, dependencyOperationTable.append row d⟩

lemma find_flushed (hd : dependencyOperationTable.find x.operationId d = none)
    (hr : row.operationId = x.operationId) :
    dependencyOperationTable.find x.operationId (flushed d row).view = some row := by
  have hk : dependencyOperationTable.key row = x.operationId := hr
  rw [flushed, dependencyOperationTable.find_append, hd, Option.none_or, if_pos hk]

lemma updateStatus_flushed (hd : dependencyOperationTable.find x.operationId d = none)
    (hr : row.operationId = x.operationId) (now : Instant) (u : StatusUpdate) :
    updateStatus now x.operationId u (flushed d row) =
      (.ok (some (assign now u row)), flushed d (assign now u row)) := by
  have hf := find_flushed hd hr
  have hp : dependencyOperationTable.put x.operationId (assign now u row) (flushed d row).view =
      (flushed d (assign now u row)).view :=
    dependencyOperationTable.put_append (fun _ _ _ => rfl) hr hd
  by_cases ha : assign now u row = row
  · rw [ha]
    exact dependencyOperationTable.update_idle hf ha
  · have hacc : updateStatus now x.operationId u (flushed d row) = (.ok (some (assign now u row)),
        { flushed d row with
          view := dependencyOperationTable.put x.operationId (assign now u row) (flushed d row).view }) :=
      dependencyOperationTable.update_accepted hf ha rfl
    rw [hacc, hp]
    rfl

lemma mark_flushed (hd : dependencyOperationTable.find x.operationId d = none)
    (hr : row.operationId = x.operationId) (u : StatusUpdate) :
    mark x u (flushed d row) = (.ok (), flushed d (assign (x.clock u.status) u row)) := by
  rw [mark, bind_ok (updateStatus_flushed hd hr _ u)]
  rfl

def Follows (x : Setting) (d : Database) (s : Script)
    (p : Tx Database DependencyFailure (Option DependencyOperation)) : Prop :=
  ∀ row, row.operationId = x.operationId →
    p (flushed d row) = (s.failure.elim (.ok (some (recordAfter x row s.updates))) .error,
      flushed d (recordAfter x row s.updates))

def Caught (x : Setting) (d : Database) (s : Script)
    (p : Tx Database DependencyFailure (Option DependencyOperation)) : Prop :=
  Follows x d s (tryCatch p (handled x))

section

variable (hd : dependencyOperationTable.find x.operationId d = none)

include hd

lemma ready_follows (v : Option Json) : Follows x d (.succeeds v) (ready x v) := by
  intro row hr
  have hv : (assign (x.clock .ready) { status := .ready, resolvedVersions := v } row).operationId =
    x.operationId := hr
  rw [ready, bind_ok (mark_flushed hd hr _)]
  change (Except.ok (dependencyOperationTable.find x.operationId (flushed d _).view), flushed d _) = _
  rw [find_flushed hd hv]
  rfl

lemma failWith_follows (m : String) (err : DependencyFailure) :
    Follows x d (.fails m err) (failWith x m err) := by
  intro row hr
  rw [failWith, bind_ok (mark_flushed hd hr _)]
  rfl

lemma caught_mark {s : Script} {p : Tx Database DependencyFailure (Option DependencyOperation)}
    (u : StatusUpdate) (hp : Caught x d s p) : Caught x d (s.writes [u]) (mark x u >>= fun _ => p) := by
  intro row hr
  rw [catch_bind_ok (mark_flushed hd hr u)]
  exact hp _ hr

lemma caught_raises {α : Type} {r : Except DependencyFailure α} {err : DependencyFailure}
    {p : α → Tx Database DependencyFailure (Option DependencyOperation)} (h : r = .error err)
    (hh : handled x err = failWith x err.text err) :
    Caught x d (.fails err.text err) (ofExcept r >>= p) := by
  intro row hr
  have ho : (ofExcept r : Tx Database DependencyFailure α) (flushed d row) = (.error err, flushed d row) := by
    rw [h]
    rfl
  rw [catch_bind_error ho, hh]
  exact failWith_follows hd err.text err row hr

omit hd in
lemma caught_goes {α : Type} {s : Script} {r : Except DependencyFailure α} {a : α}
    {p : α → Tx Database DependencyFailure (Option DependencyOperation)} (h : r = .ok a)
    (hp : Caught x d s (p a)) : Caught x d s (ofExcept r >>= p) := by
  intro row hr
  have ho : (ofExcept r : Tx Database DependencyFailure α) (flushed d row) = (.ok a, flushed d row) := by
    rw [h]
    rfl
  rw [catch_bind_ok ho]
  exact hp row hr

lemma caught_ready (v : Option Json) : Caught x d (.succeeds v) (ready x v) := by
  intro row hr
  exact catch_ok (ready_follows hd v row hr)

lemma caught_failWith {m : String} {err : DependencyFailure} (hh : handled x err = throw err) :
    Caught x d (.fails m err) (failWith x m err) := by
  -- What has been written before it is raised again is not written twice.
  intro row hr
  rw [catch_error (failWith_follows hd m err row hr), hh]
  rfl

end

lemma handled_declared {err : DependencyFailure} (h : IsDeclared err) :
    handled x err = failWith x err.text err := by
  cases err with
  | validation packageName reason => rfl
  | resolution message => rfl
  | _ => cases h

lemma captureLog_cases (content : Option String) :
    captureLog content = .ok () ∧ isFalsy content = true ∨
      (∃ m, captureLog content = .error (.typeError m)) ∧ isFalsy content = false := by
  cases hf : isFalsy content with
  | true =>
    apply Or.inl
    rw [captureLog, if_pos hf]
    exact ⟨rfl, rfl⟩
  | false =>
    apply Or.inr
    rw [captureLog, if_neg (by rw [hf]; exact Bool.noConfusion)]
    exact ⟨⟨_, rfl⟩, rfl⟩

section

variable (hd : dependencyOperationTable.find x.operationId d = none)

include hd

lemma verification_caught : Caught x d (verification w x payload)
    (ofRuntime (w.verifyAfter payload) >>= fun after =>
      if after.satisfied then ready x after.resolvedVersions
      else failWith x (verificationError after)
        (.installation x.operationId (verificationError after))) := by
  rw [verification]
  cases hv : w.verifyAfter payload with
  | error m => exact caught_raises hd rfl rfl
  | ok after =>
    apply caught_goes rfl
    dsimp only
    cases after.satisfied with
    | true => exact caught_ready hd after.resolvedVersions
    | false => exact caught_failWith hd rfl

lemma installed_caught (reply : InstallReply) : Caught x d (installed w x timeout payload reply)
    (ofExcept (captureLog reply.stdout) >>= fun _ => ofExcept (captureLog reply.stderr) >>= fun _ =>
      if reply.status = some "timeout" then
        failWith x ("Installation timed out after " ++ timeout ++ " seconds.")
          (.timeout x.operationId timeout)
      else if reply.status ≠ some "ok" then
        failWith x (installError reply.stderr) (.installation x.operationId (installError reply.stderr))
      else mark x { status := .verifying } >>= fun _ => ofRuntime (w.verifyAfter payload) >>= fun after =>
        if after.satisfied then ready x after.resolvedVersions
        else failWith x (verificationError after)
          (.installation x.operationId (verificationError after))) := by
  rw [installed]
  cases captureLog_cases reply.stdout with
  | inr hout =>
    obtain ⟨⟨m, hm⟩, -⟩ := hout
    have hlogs : captureLogs reply = .error (.typeError m) := by
      rw [captureLogs, hm]
      rfl
    rw [hlogs]
    exact caught_raises hd hm rfl
  | inl hout =>
    apply caught_goes hout.1
    cases captureLog_cases reply.stderr with
    | inr herr =>
      obtain ⟨⟨m, hm⟩, -⟩ := herr
      have hlogs : captureLogs reply = .error (.typeError m) := by
        rw [captureLogs, hout.1, hm]
        rfl
      rw [hlogs]
      exact caught_raises hd hm rfl
    | inl herr =>
      have hlogs : captureLogs reply = .ok () := by
        rw [captureLogs, hout.1, herr.1]
        rfl
      rw [hlogs]
      apply caught_goes herr.1
      by_cases ht : reply.status = some "timeout"
      · simp only [ht, if_true]
        exact caught_failWith hd rfl
      · by_cases hs : reply.status = some "ok"
        · simp only [hs, ne_eq, not_true_eq_false, if_false, Option.some.injEq]
          exact caught_mark hd { status := .verifying } (verification_caught hd)
        · simp only [ht, hs, ne_eq, not_false_eq_true, if_true, if_false]
          exact caught_failWith hd rfl

lemma stages_caught (hp : payload ≠ []) :
    Caught x d (script w x timeout payload) (stages w x timeout payload) := by
  rw [script, if_neg hp]
  cases hq : resolveRequirements (items payload) with
  | error err =>
    apply caught_mark hd { status := .validating }
    exact caught_raises hd hq (handled_declared (resolveRequirements_raises _ err hq))
  | ok reqs =>
    apply caught_mark hd { status := .validating }
    apply caught_goes hq
    apply caught_mark hd { status := .resolving }
    rw [resolving]
    cases hv : w.verifyBefore payload with
    | error m => exact caught_raises hd rfl rfl
    | ok before =>
      apply caught_goes rfl
      dsimp only
      cases before.satisfied with
      | true => exact caught_ready hd before.resolvedVersions
      | false =>
        apply caught_mark hd { status := .installing }
        rw [installing]
        cases hi : w.installPackages (reqs.map Resolved.requirement) timeout with
        | error m => exact caught_raises hd rfl rfl
        | ok reply => exact caught_goes rfl (installed_caught hd reply)

end

end NotebookExecution.Dependencies
