import NotebookExecution.Connectors.Confidentiality
import NotebookExecution.Dependencies.Api
import NotebookExecution.Jobs.Api
import NotebookExecution.Store.Durability

/-! The whole application: every route over one database, behind the check of the API key. -/

namespace NotebookExecution.Application

open Library.Service Store Output Connectors Dependencies Jobs

structure Settings where
  requireAuth : Bool
  apiKey : String
  credentialEncryptionKey : String

def verifyApiKey (settings : Settings) (apiKey : Option String) : Option (ℕ × String) :=
  if !settings.requireAuth then none
  else if settings.apiKey = "" then
    some (503, "Service is not configured for authenticated access.")
  else
    match apiKey with
    | none => some (401, "Invalid or missing API key.")
    | some key =>
      if key = "" ∨ key ≠ settings.apiKey then some (401, "Invalid or missing API key.") else none

inductive Probe
  | healthCheck
  | dbHealthCheck
  | livenessProbe
  | readinessProbe

def Probe.isPublic : Probe → Bool
  | .healthCheck => true
  | .dbHealthCheck => true
  | _ => false

inductive OutputRequest
  | getExecutionOutputs (executionId : String)
  | getCellOutputs (notebookId : Uuid) (cellId : String)

/-- A probe is handed what `check_database_connection` finds. -/
inductive ApiRequest
  | probe (p : Probe) (isConnected : Bool)
  | store (q : Request)
  | outputs (r : OutputRequest)
  | dependencies (r : DependencyRequest)
  | connectors (r : ConnectorRequest)
  | jobs (r : JobRequest)

structure Incoming where
  settings : Settings
  apiKey : Option String
  request : ApiRequest

inductive Reply
  | unauthorized (statusCode : ℕ) (detail : String)
  | probe (statusCode : ℕ) (status : String) (database : Option String)
  | store (r : Response)
  | outputs (items : List ExecutionOutput)
  | dependencies (r : DependencyReply)
  | connectors (r : ConnectorReply)
  | jobs (r : JobReply)

def Reply.statusCode : Reply → ℕ
  | .unauthorized statusCode _ => statusCode
  | .probe statusCode _ _ => statusCode
  | .store r => r.statusCode
  | .outputs _ => 200
  | .dependencies r => r.statusCode
  | .connectors r => r.statusCode
  | .jobs r => r.statusCode

def Reply.success (r : Reply) : Bool := decide (r.statusCode < 400)

def Probe.answer (isConnected : Bool) : Probe → Reply
  | .healthCheck => .probe 200 "healthy" none
  | .dbHealthCheck =>
    if isConnected then .probe 200 "healthy" (some "connected")
    else .probe 503 "unhealthy" (some "disconnected")
  | .livenessProbe => .probe 200 "alive" none
  | .readinessProbe =>
    if isConnected then .probe 200 "ready" (some "connected")
    else .probe 503 "not_ready" (some "disconnected")

def OutputRequest.items (d : Database) : OutputRequest → List ExecutionOutput
  | .getExecutionOutputs executionId => ExecutionOutputRepository.outputsOfExecution executionId d
  | .getCellOutputs _ cellId => ExecutionOutputRepository.outputsOfCell cellId d

structure World where
  python : Python
  fernet : Fernet
  jobs : Jobs.Environment

def onStore {α : Type} (reply : α → Reply) (serve : Database → α × Database) (d : Platform) :
    Reply × Platform :=
  let o := serve d.store
  (reply o.1, { d with store := o.2 })

def ApiRequest.serve (W : World) (settings : Settings) (d : Platform) : ApiRequest → Reply × Platform
  | .probe p isConnected => (p.answer isConnected, d)
  | .store q => onStore .store (Store.serve · q) d
  | .outputs r => (.outputs (r.items d.store), d)
  | .dependencies r => onStore .dependencies r.serve d
  | .connectors r =>
    let o := r.serve W.python ⟨W.fernet, settings.credentialEncryptionKey⟩ d
    (.connectors o.1, o.2)
  | .jobs r => onStore .jobs (r.serve W.jobs) d

def ApiRequest.isPublic : ApiRequest → Bool
  | .probe p _ => p.isPublic
  | _ => false

/-- The dependency of the protected router comes before the dependencies of its routes. -/
def Incoming.denied (x : Incoming) : Option Reply :=
  if x.request.isPublic then none
  else (verifyApiKey x.settings x.apiKey).map fun p => .unauthorized p.1 p.2

def unguarded (W : World) (x : Incoming) (d : Platform) : Reply × Platform :=
  x.request.serve W x.settings d

def app (W : World) : Incoming → Platform → Reply × Platform := guarded Incoming.denied (unguarded W)

variable {W : World} {d : Platform}

lemma onStore_clean {ρ α : Type} {reply : α → Reply} {success : α → Bool} {serve : ρ → Database → α × Database}
    (h : FailsClean success (fun _ => True) serve) (hs : ∀ a, (reply a).success = success a) (r : ρ) :
    (onStore reply (serve r) d).1.success = true ∨ (onStore reply (serve r) d).2 = d := by
  rcases h r d.store trivial with hr | hr
  · exact Or.inl ((hs _).trans hr)
  · refine Or.inr ?_
    rw [onStore, hr]

lemma unguarded_coherent (x : Incoming) (d : Platform) (hd : Coherent d) : Coherent (unguarded W x d).2 := by
  obtain ⟨settings, apiKey, request⟩ := x
  cases request with
  | probe p isConnected => exact hd
  | store q => exact ⟨hd.connectorIds, hd.names, hd.credentialKeys, hd.credentialIds, hd.matched⟩
  | outputs r => exact hd
  | dependencies r => exact ⟨hd.connectorIds, hd.names, hd.credentialKeys, hd.credentialIds, hd.matched⟩
  | connectors r =>
    change Coherent (r.serve W.python ⟨W.fernet, settings.credentialEncryptionKey⟩ d).2
    rw [serve_perform]
    cases r.call ⟨W.fernet, settings.credentialEncryptionKey⟩ with
    | none => exact hd
    | some c => exact coherent_step hd c
  | jobs r => exact ⟨hd.connectorIds, hd.names, hd.credentialKeys, hd.credentialIds, hd.matched⟩

lemma unguarded_clean (W : World) : FailsClean Reply.success Coherent (unguarded W) := by
  intro x d hd
  obtain ⟨settings, apiKey, request⟩ := x
  cases request with
  | probe p isConnected => exact Or.inr rfl
  | store q =>
    refine Or.inr ?_
    change { d with store := (Store.serve d.store q).2 } = d
    rw [serve_committed]
  | outputs r => exact Or.inr rfl
  | dependencies r => exact onStore_clean Dependencies.serve_clean (fun _ => rfl) r
  | connectors r =>
    rcases serve_allOrNothing (P := W.python) (E := ⟨W.fernet, settings.credentialEncryptionKey⟩) hd.names r with
      h | h
    · exact Or.inl (decide_eq_true h)
    · exact Or.inr h
  | jobs r => exact onStore_clean (Jobs.serve_clean W.jobs) (fun _ => rfl) r

theorem failures_leave_no_trace (W : World) (store : Database) (l : List Incoming) :
    run (app W) ((successes Reply.success (app W) l (withoutConnectors store)).map Prod.fst)
        (withoutConnectors store) =
      (successes Reply.success (app W) l (withoutConnectors store), (run (app W) l (withoutConnectors store)).2) :=
  run_successes (fun x d hd => guarded_keeps unguarded_coherent x d hd)
    (guarded_failsClean (unguarded_clean W)) (coherent_withoutConnectors store) l

def Incoming.Admitted (x : Incoming) : Prop :=
  x.request.isPublic = true ∨ x.settings.requireAuth = false ∨
    x.settings.apiKey ≠ "" ∧ x.apiKey = some x.settings.apiKey

instance : DecidablePred Incoming.Admitted := fun _ => inferInstanceAs (Decidable (_ ∨ _ ∨ _ ∧ _))

def Settings.denial (settings : Settings) : Reply :=
  if settings.apiKey = "" then .unauthorized 503 "Service is not configured for authenticated access."
  else .unauthorized 401 "Invalid or missing API key."

lemma denied_admitted {x : Incoming} (h : x.Admitted) : x.denied = none := by
  rw [Incoming.denied]
  split
  · rfl
  · next hp =>
    rcases h with h | h | ⟨hne, hk⟩
    · exact absurd h hp
    · simp [verifyApiKey, h]
    · simp [verifyApiKey, hk, hne]

lemma denied_stranger {x : Incoming} (h : ¬ x.Admitted) : x.denied = some x.settings.denial := by
  obtain ⟨settings, apiKey, request⟩ := x
  simp only [Incoming.Admitted, not_or, not_and] at h
  obtain ⟨hp, hr, hk⟩ := h
  rw [Bool.not_eq_false] at hr
  rw [Incoming.denied, if_neg hp, Settings.denial]
  by_cases he : settings.apiKey = ""
  · simp [verifyApiKey, hr, he]
  · have hother := hk he
    cases apiKey with
    | none => simp [verifyApiKey, hr, he]
    | some key =>
      have hne : key ≠ settings.apiKey := fun hkey => hother (congrArg some hkey)
      simp [verifyApiKey, hr, he, hne]

lemma denied_isNone (x : Incoming) : x.denied.isNone = decide x.Admitted := by
  by_cases h : x.Admitted
  · rw [denied_admitted h, decide_eq_true h]
    rfl
  · rw [denied_stranger h, decide_eq_false h]
    rfl

inductive ApiRequest.SameBut : ApiRequest → ApiRequest → Prop
  | same (r : ApiRequest) : SameBut r r
  | connectors {r r' : ConnectorRequest} (h : SameRequest r r') : SameBut (.connectors r) (.connectors r')

structure Incoming.SameBut (x y : Incoming) : Prop where
  settings : x.settings = y.settings
  apiKey : x.apiKey = y.apiKey
  request : x.request.SameBut y.request

lemma Incoming.SameBut.refl (x : Incoming) : x.SameBut x := ⟨rfl, rfl, .same x.request⟩

lemma ApiRequest.SameBut.isPublic {r r' : ApiRequest} (h : r.SameBut r') : r.isPublic = r'.isPublic := by
  cases h with
  | same => rfl
  | connectors => rfl

lemma denied_sameBut (x y : Incoming) (h : x.SameBut y) : x.denied = y.denied := by
  rw [Incoming.denied, Incoming.denied, h.settings, h.apiKey, h.request.isPublic]

lemma onStore_masked {α : Type} {F : Fernet} {reply : α → Reply} {serve : Database → α × Database}
    {d d' : Platform} (hd : Masked F d d') :
    (onStore reply serve d).1 = (onStore reply serve d').1 ∧
      Masked F (onStore reply serve d).2 (onStore reply serve d').2 := by
  rw [onStore, onStore, hd.store]
  exact ⟨rfl, rfl, hd.connectors, hd.credentials, hd.statusUpdates, hd.published⟩

lemma unguarded_indistinct (hF : W.fernet.Lawful) :
    Indistinct Incoming.SameBut (Masked W.fernet) (unguarded W) := by
  intro x y d d' h hd
  obtain ⟨settings, apiKey, request⟩ := x
  obtain ⟨settings', apiKey', request'⟩ := y
  obtain ⟨rfl, -, hr⟩ : settings = settings' ∧ apiKey = apiKey' ∧ request.SameBut request' :=
    ⟨h.settings, h.apiKey, h.request⟩
  have hconnectors (r r' : ConnectorRequest) (hr : SameRequest r r') :
      (unguarded W ⟨settings, apiKey, .connectors r⟩ d).1 = (unguarded W ⟨settings, apiKey', .connectors r'⟩ d').1 ∧
        Masked W.fernet (unguarded W ⟨settings, apiKey, .connectors r⟩ d).2
          (unguarded W ⟨settings, apiKey', .connectors r'⟩ d').2 := by
    obtain ⟨hanswer, hmasked⟩ := serve_answer (P := W.python) hF hd settings.credentialEncryptionKey hr
    exact ⟨congrArg Reply.connectors hanswer, hmasked⟩
  cases hr with
  | connectors hr => exact hconnectors _ _ hr
  | same =>
    cases request with
    | probe p isConnected => exact ⟨rfl, hd⟩
    | store q => exact onStore_masked hd
    | outputs r =>
      refine ⟨?_, hd⟩
      change Reply.outputs (r.items d.store) = Reply.outputs (r.items d'.store)
      rw [hd.store]
    | dependencies r => exact onStore_masked hd
    | connectors r => exact hconnectors r r (.same r)
    | jobs r => exact onStore_masked hd

theorem secrets_unobserved (W : World) (hF : W.fernet.Lawful) {d d' : Platform} {l l' : List Incoming}
    (hd : Masked W.fernet d d') (hl : List.Forall₂ Incoming.SameBut l l') :
    (run (app W) l d).1.map Prod.snd = (run (app W) l' d').1.map Prod.snd ∧
      Masked W.fernet (run (app W) l d).2 (run (app W) l' d').2 :=
  run_indistinct (guarded_indistinct (unguarded_indistinct hF) denied_sameBut) hl hd

noncomputable def plainWorld : World := ⟨plainPython, plainText.fernet, Jobs.world⟩

def salesRequests (text : String) : List Incoming :=
  [.connectors (.createConnector (generated 10)
      ⟨"sales", "PostgreSQL", "relational", serverConfig, some (password text)⟩),
    .connectors (.testConnector ⟨30, 1⟩ 13),
    .connectors (.updateConnector (generated 20) 13 ⟨none, none, some (password text)⟩),
    .outputs (.getExecutionOutputs "conn-test-13")].map fun r => ⟨⟨false, "", ""⟩, none, r⟩

theorem passwords_unobserved :
    (run (app plainWorld) (salesRequests "a") (withoutConnectors .empty)).1.map Prod.snd =
        (run (app plainWorld) (salesRequests "b") (withoutConnectors .empty)).1.map Prod.snd ∧
      Masked plainWorld.fernet (run (app plainWorld) (salesRequests "a") (withoutConnectors .empty)).2
        (run (app plainWorld) (salesRequests "b") (withoutConnectors .empty)).2 :=
  secrets_unobserved plainWorld plainText_lawful (.refl _)
    (.cons ⟨rfl, rfl, .connectors (.createConnector rfl)⟩ (.cons (.refl _)
      (.cons ⟨rfl, rfl, .connectors (.updateConnector rfl)⟩ (.cons (.refl _) .nil))))

end NotebookExecution.Application
