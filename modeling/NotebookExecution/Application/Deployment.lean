import NotebookExecution.Application.Requests

/-! What the application comes to on the database that the migrations leave. No request on the notebook
store is ever committed, and everything but the connectors hangs on a notebook. -/

namespace NotebookExecution.Application

open Library.Service Library.Transaction Library.Table Store Output Connectors Dependencies Jobs

section Writes

variable {P : Python} {E : Encryption} {d : Platform} {e : Env} {k : Uuid}

def WritesOutputs (d t : Platform) : Prop :=
  ∃ outputs, t.store = { d.store with executionOutputs := outputs }

lemma WritesOutputs.of_eq {t : Platform} (h : t.store = d.store) : WritesOutputs d t :=
  ⟨d.store.executionOutputs, h⟩

def OutputsOnly (d : Platform) (s : Session Platform) : Prop := s.committed = d ∧ WritesOutputs d s.view

lemma updateStatus_outputs (now : Instant) (status : ConnectorStatus) :
    Keeps (OutputsOnly d) (ConnectorRepository.updateStatus now k status) := by
  have hw : Keeps (OutputsOnly d) (ConnectorRepository.update now k { status := some status }) :=
    connectorTable.update_keeps fun s r hs hf _ => hs
  intro s hs
  exact hw { s with view := { s.view with statusUpdates := s.view.statusUpdates ++ [(k, status)] } } hs

lemma bulkCreate_outputs (l : List (Env × OutputEventSchema)) (store : Database) :
    Keeps (fun s => ∃ outputs, s.view = { store with executionOutputs := outputs })
      (ExecutionOutputRepository.bulkCreate l) := by
  induction l with
  | nil => exact .pure []
  | cons p l ih =>
    refine .bind ?_ fun output => .bind ih fun outputs => .pure _
    refine executionOutputTable.insert_keeps fun s hs _ => ?_
    obtain ⟨outputs, ho⟩ := hs
    exact ⟨outputs ++ [_], by rw [ho]; rfl⟩

lemma inStore_outputs {α : Type} {p : Tx Database ServiceError α} (hp : ∀ s, (p s).2.committed = s.committed)
    (hk : Keeps (fun s => ∃ outputs, s.view = { d.store with executionOutputs := outputs }) p) :
    Keeps (OutputsOnly d) (ConnectorManager.inStore p) := by
  rintro s ⟨hc, hu⟩
  refine ⟨?_, hk ⟨s.committed.store, s.view.store⟩ hu⟩
  change { s.committed with store := (p ⟨s.committed.store, s.view.store⟩).2.committed } = d
  rw [hp, hc]

lemma logEvents_outputs (e : Env) (x : RawOutput) : Keeps (OutputsOnly d) (ConnectorManager.logEvents e x) :=
  .bind (fun _ hs => hs) fun _ =>
    .bind (inStore_outputs (bulkCreate_uncommitted _) (bulkCreate_outputs _ _)) fun _ => .pure ()

lemma testConnector_outputs (e : Env) (k : Uuid) :
    Keeps (OutputsOnly d) (ConnectorManager.testConnector P E e k) := by
  refine .bind getConnector_keeps fun conn => .bind (updateStatus_outputs _ _) fun _ => .bind ?_ fun creds =>
    .tryCatch ?_ fun exc => ?_
  · rw [ConnectorManager.resolvedCreds]
    cases conn.credentialId with
    | none => exact .pure _
    | some c =>
      refine .bind (.bind (.bind .read fun _ => .pure _) fun o => ?_) fun o => .pure _
      cases o with
      | none => exact .pure none
      | some cred =>
        dsimp only
        rw [map_eq_pure_bind]
        exact .bind (.ofExcept _) fun v => .pure _
  · refine .bind (.ofExcept _) fun i => .bind (.ofExcept _) fun isOk => ?_
    exact .bind (updateStatus_outputs _ _) fun _ => .bind (logEvents_outputs _ _) fun _ => .pure _
  · refine .ite (.throw _) ?_
    exact .bind (updateStatus_outputs _ _) fun _ => .bind (logEvents_outputs _ _) fun _ => .throw _

lemma withCredential_store (o : Option Credential) : (withCredential o d).store = d.store := by
  cases o <;> rfl

lemma withoutCredential_store (x : Connector) : (withoutCredential x d).store = d.store := by
  rw [withoutCredential]
  cases x.credentialId.bind fun c => CredentialRepository.named c d <;> rfl

lemma perform_outputs (hd : Coherent d) (c : ConnectorCall) : WritesOutputs d (c.perform P d) := by
  cases c with
  | createConnector E g name connectorType category configuration secretPayload =>
    rcases createConnector_cases (P := P) (E := E) (g := g) (d := d) with h | ⟨-, o, -, -, h⟩
    · exact .of_eq (congrArg Platform.store h)
    · refine .of_eq ((congrArg Platform.store h).trans ?_)
      exact withCredential_store o
  | updateConnector E g k name configuration secretPayload =>
    rcases updateConnector_cases (P := P) (E := E) (g := g) hd.names with h | ⟨x, -, o, -, -, h⟩
    · exact .of_eq (congrArg Platform.store h)
    · refine .of_eq ((congrArg Platform.store h).trans ?_)
      exact withCredential_store o
  | deleteConnector k =>
    rcases deleteConnector_cases (P := P) (d := d) (k := k) with ⟨h, -⟩ | ⟨x, -, h⟩
    · exact .of_eq (congrArg Platform.store h)
    · refine .of_eq ((congrArg Platform.store h).trans ?_)
      exact withoutCredential_store x
  | testConnector E e k =>
    have ht := testConnector_outputs (P := P) (E := E) (d := d) e k (.open d) ⟨rfl, .of_eq rfl⟩
    change WritesOutputs d (tested d (ConnectorManager.testConnector P E e k))
    rw [tested]
    generalize ConnectorManager.testConnector P E e k (.open d) = o at ht ⊢
    obtain ⟨r, s⟩ := o
    have hc : WritesOutputs d s.committed := .of_eq (congrArg Platform.store ht.1)
    cases r with
    | ok a => exact ht.2
    | error err =>
      cases err with
      | connection connectorId details => exact ht.2
      | _ => exact hc

end Writes

/-! ## A database without workspaces -/

def bare (outputs : List ExecutionOutput) : Database := { Database.empty with executionOutputs := outputs }

def Bare (d : Platform) : Prop := Coherent d ∧ ∃ outputs, d.store = bare outputs

def ApiRequest.answerable : ApiRequest → Bool
  | .store q =>
    match q.call with
    | .createWorkspace _ => true
    | .listWorkspaces => true
    | _ => false
  | .dependencies r => r.lists
  | .jobs r => r.lists
  | _ => true

def ApiRequest.emptyList : ApiRequest → Option Reply
  | .store ⟨_, .listWorkspaces⟩ => some (.store ⟨200, .workspaceList []⟩)
  | .dependencies (.listDependencies _) => some (.dependencies (.dependencies [] 0))
  | .jobs (.listJobs _ _ _) => some (.jobs (.jobs [] 0))
  | _ => none

structure Barren (x : Incoming) (reply : Reply) : Prop where
  succeeds : reply.success = true → x.request.answerable = true
  lists : x.Admitted → ∀ r ∈ x.request.emptyList, reply = r

variable {W : World} {d : Platform} {outputs : List ExecutionOutput}

lemma call_refused (q : Request) (h : (ApiRequest.store q).answerable = false) :
    q.refused (bare outputs) = true := by
  obtain ⟨e, call⟩ := q
  have hc : call.refused e (bare outputs) = true := by
    cases call with
    | createWorkspace data => cases h
    | listWorkspaces => cases h
    | updateWorkspace k data => exact Bool.or_true _
    | updateProject k data => exact Bool.or_true _
    | updateNotebook k data => exact Bool.or_true _
    | _ => rfl
  rw [Request.refused, hc, Bool.or_true]

lemma store_bare (q : Request) (h : (Store.serve (bare outputs) q).1.statusCode < 400) :
    (ApiRequest.store q).answerable = true := by
  by_contra hn
  obtain ⟨err, he, hs⟩ := (handle_realises (bare outputs) q).1 (call_refused q (Bool.eq_false_iff.mpr hn))
  have hr : (inSession (bare outputs) (handle q)).1 = .error err := by rw [inSession_result, hs]
  have hc : (Store.serve (bare outputs) q).1 = err.response := by
    rw [Store.serve, hr]
    rfl
  rw [hc] at h
  exact absurd h (not_lt.mpr he)

lemma dependencies_bare (r : DependencyRequest) (h : (r.serve (bare outputs)).1.success = true) :
    r.lists = true := (Dependencies.serve_bare rfl rfl rfl r).symm.trans h

lemma jobs_bare (r : JobRequest) (h : (r.serve W.jobs (bare outputs)).1.success = true) : r.lists = true :=
  (Jobs.serve_bare rfl rfl r).symm.trans h

lemma unguarded_bare (x : Incoming) (d : Platform) (hd : Bare d) : Bare (unguarded W x d).2 := by
  refine ⟨unguarded_coherent x d hd.1, ?_⟩
  obtain ⟨hcoherent, outputs, ho⟩ := hd
  obtain ⟨settings, apiKey, request⟩ := x
  cases request with
  | probe p isConnected => exact ⟨outputs, ho⟩
  | store q =>
    refine ⟨outputs, ?_⟩
    change (Store.serve d.store q).2 = bare outputs
    rw [serve_committed, ho]
  | outputs r => exact ⟨outputs, ho⟩
  | dependencies r =>
    refine ⟨outputs, ?_⟩
    change (r.serve d.store).2 = bare outputs
    rw [ho]
    rcases Dependencies.serve_clean r (bare outputs) trivial with h | h
    · have hl := dependencies_bare r h
      cases r with
      | listDependencies notebookId => rfl
      | _ => cases hl
    · exact h
  | connectors r =>
    change ∃ outputs, (r.serve W.python ⟨W.fernet, settings.credentialEncryptionKey⟩ d).2.store = bare outputs
    rw [serve_perform]
    cases r.call ⟨W.fernet, settings.credentialEncryptionKey⟩ with
    | none => exact ⟨outputs, ho⟩
    | some c =>
      obtain ⟨outputs', hw⟩ := perform_outputs (P := W.python) hcoherent c
      rw [ho] at hw
      exact ⟨outputs', hw⟩
  | jobs r =>
    refine ⟨outputs, ?_⟩
    change (r.serve W.jobs d.store).2 = bare outputs
    rw [ho]
    rcases Jobs.serve_clean W.jobs r (bare outputs) trivial with h | h
    · have hl := jobs_bare r h
      cases r with
      | listJobs workspaceId projectId notebookId => rfl
      | _ => cases hl
    · exact h

lemma unguarded_barren (x : Incoming) (d : Platform) (hd : Bare d) :
    ((unguarded W x d).1.success = true → x.request.answerable = true) ∧
      ∀ r ∈ x.request.emptyList, (unguarded W x d).1 = r := by
  obtain ⟨-, outputs, ho⟩ := hd
  obtain ⟨settings, apiKey, request⟩ := x
  cases request with
  | probe p isConnected => exact ⟨fun _ => rfl, fun r hr => by cases hr⟩
  | store q =>
    constructor
    · intro h
      have hs : (Store.serve d.store q).1.statusCode < 400 := of_decide_eq_true h
      rw [ho] at hs
      exact store_bare q hs
    · intro r hr
      obtain ⟨e, call⟩ := q
      cases call with
      | listWorkspaces =>
        cases hr
        change Reply.store (Store.serve d.store ⟨e, .listWorkspaces⟩).1 = _
        rw [ho]
        rfl
      | _ => cases hr
  | outputs r => exact ⟨fun _ => rfl, fun r hr => by cases hr⟩
  | dependencies r =>
    constructor
    · intro h
      have hs : (r.serve d.store).1.success = true := h
      rw [ho] at hs
      exact dependencies_bare r hs
    · intro reply hr
      cases r with
      | listDependencies notebookId =>
        cases hr
        change Reply.dependencies ((DependencyRequest.listDependencies notebookId).serve d.store).1 = _
        rw [ho]
        rfl
      | _ => cases hr
  | connectors r => exact ⟨fun _ => rfl, fun r hr => by cases hr⟩
  | jobs r =>
    constructor
    · intro h
      have hs : (r.serve W.jobs d.store).1.success = true := h
      rw [ho] at hs
      exact jobs_bare r hs
    · intro reply hr
      cases r with
      | listJobs workspaceId projectId notebookId =>
        cases hr
        change Reply.jobs ((JobRequest.listJobs workspaceId projectId notebookId).serve W.jobs d.store).1 = _
        rw [ho]
        rfl
      | _ => cases hr

lemma denial_fails (settings : Settings) : settings.denial.success = false := by
  rw [Settings.denial]
  split <;> rfl

end NotebookExecution.Application
