import NotebookExecution.Dependencies.Validity
import NotebookExecution.Library.Service
import NotebookExecution.Store.Routes

/-! The routes of declared dependencies and of their operations, with what they answer. -/

namespace NotebookExecution.Dependencies

open Library.Transaction Library.Table Library.Service Store DependencyManager

inductive DependencyReply
  | dependency (statusCode : ℕ) (row : NotebookDependency)
  | dependencies (items : List NotebookDependency) (total : ℕ)
  | operation (row : DependencyOperation)
  | noContent
  | detail (statusCode : ℕ) (text : String)

def DependencyReply.statusCode : DependencyReply → ℕ
  | .dependency statusCode _ => statusCode
  | .dependencies _ _ => 200
  | .operation _ => 200
  | .noContent => 204
  | .detail statusCode _ => statusCode

def DependencyReply.success (r : DependencyReply) : Bool := decide (r.statusCode < 400)

def listDependencies (notebookId : Uuid) : Tx Database ServiceError (List NotebookDependency) :=
  DependencyManager.listDependencies notebookId

def operationNotFound (operationId : String) : String :=
  "Dependency operation '" ++ operationId ++ "' not found."

def getDependencyOperation (operationId : String) : Tx Database ServiceError DependencyOperation := do
  orNotFound (operationNotFound operationId) (← DependencyOperationRepository.getByOperationId operationId)

inductive DependencyRequest
  | declareDependency (e : Env) (notebookId : Uuid) (packageName : String) (versionSpecifier : Option String)
  | listDependencies (notebookId : Uuid)
  | updateDependency (e : Env) (notebookId dependencyId : Uuid) (versionSpecifier : Option String)
  | deleteDependency (notebookId dependencyId : Uuid)
  | getDependencyOperation (operationId : String)

def DependencyRequest.route : DependencyRequest → Tx Database ServiceError DependencyReply
  | .declareDependency e notebookId packageName versionSpecifier => do
    pure (.dependency 201 (← Routes.declareDependency e notebookId packageName versionSpecifier))
  | .listDependencies notebookId => do
    let items ← Dependencies.listDependencies notebookId
    pure (.dependencies items items.length)
  | .updateDependency e notebookId dependencyId versionSpecifier => do
    pure (.dependency 200 (← Dependencies.updateDependency e notebookId dependencyId versionSpecifier))
  | .deleteDependency notebookId dependencyId => do
    Dependencies.deleteDependency notebookId dependencyId
    pure .noContent
  | .getDependencyOperation operationId => do
    pure (.operation (← Dependencies.getDependencyOperation operationId))

def refused : ServiceError → DependencyReply
  | .http statusCode detail => .detail statusCode detail
  | .integrityError => .detail 500 "An internal server error occurred."

def DependencyRequest.serve (r : DependencyRequest) (d : Database) : DependencyReply × Database :=
  let o := inSession d r.route
  (match o.1 with
    | .ok reply => reply
    | .error err => refused err, o.2)

/-! ## What a request leaves -/

variable {α β : Type} {d : Database} {e : Env} {k notebookId : Uuid} {packageName : String}
  {versionSpecifier : Option String}

def Tidy (d : Database) (p : Tx Database ServiceError α) : Prop :=
  (∃ a t, p (.open d) = (.ok a, t)) ∨ (p (.open d)).2.committed = d

lemma Tidy.map {p : Tx Database ServiceError α} (h : Tidy d p) (f : α → β) :
    Tidy d (p >>= fun a => pure (f a)) := by
  rcases h with ⟨a, t, hp⟩ | hc
  · exact Or.inl ⟨f a, t, bind_ok hp⟩
  · obtain ⟨r, t, hr⟩ : ∃ r t, p (.open d) = (r, t) := ⟨_, _, rfl⟩
    rw [hr] at hc
    cases r with
    | ok a => exact Or.inl ⟨f a, t, bind_ok hr⟩
    | error err =>
      refine Or.inr ?_
      rw [bind_error hr]
      exact hc

lemma getDependencyOperation_keeps {operationId : String} :
    Keeps (fun s => s.committed = d) (Dependencies.getDependencyOperation operationId) := by
  refine .bind (.bind .read fun _ => .pure _) fun o => ?_
  cases o with
  | none => exact .throw _
  | some x => exact .pure x

lemma clean_orBadRequest {p : Tx Database DependencyFailure (Option NotebookDependency)}
    {k : Option NotebookDependency → Tx Database DependencyFailure NotebookDependency}
    (hp : Keeps (fun s => s.committed = d) p) (hs : ∀ o t, p (.open d) = (.ok o, t) → ∃ x, o = some x)
    (hk : ∀ x s, k (some x) s = (.ok x, s)) :
    Tidy d (orBadRequest (p >>= fun o => commit >>= fun _ => k o)) := by
  have hc : (p (.open d)).2.committed = d := hp (.open d) rfl
  obtain ⟨r, t, hr⟩ : ∃ r t, p (.open d) = (r, t) := ⟨_, _, rfl⟩
  rw [hr] at hc
  cases r with
  | ok o =>
    obtain ⟨x, rfl⟩ := hs o t hr
    refine Or.inl ⟨x, ⟨t.view, t.view⟩, ?_⟩
    have hkx : (p >>= fun o => commit >>= fun _ => k o) (.open d) = (.ok x, ⟨t.view, t.view⟩) :=
      (bind_ok hr).trans (hk x ⟨t.view, t.view⟩)
    rw [orBadRequest, hkx]
  | error err =>
    refine Or.inr ?_
    rw [orBadRequest_committed, bind_error hr]
    exact hc

lemma getByNotebookAndPackage_inv {existing : Option NotebookDependency} {u : Session Database}
    (h : (NotebookDependencyRepository.getByNotebookAndPackage notebookId packageName :
      Tx Database DependencyFailure _) (.open d) = (.ok existing, u)) :
    d.notebookDependencies.find? (fun x => x.notebookId = notebookId ∧ x.packageName = packageName) = existing ∧
      .open d = u := by
  obtain ⟨hr, hs⟩ := Prod.mk.inj h
  exact ⟨Except.ok.inj hr, hs⟩

lemma declare_found {o : Option NotebookDependency} {t : Session Database}
    (h : DependencyManager.declareDependency e notebookId packageName versionSpecifier (.open d) = (.ok o, t)) :
    ∃ x, o = some x := by
  rw [DependencyManager.declareDependency] at h
  obtain ⟨validName, u, hn, h⟩ := bind_ok_inv h
  obtain ⟨-, rfl⟩ := ofExcept_inv hn
  obtain ⟨validSpec, u, hv, h⟩ := bind_ok_inv h
  obtain ⟨-, rfl⟩ := ofExcept_inv hv
  obtain ⟨existing, u, hg, h⟩ := bind_ok_inv h
  cases existing with
  | none =>
    rw [map_eq_pure_bind] at h
    obtain ⟨x, rfl⟩ := map_ok_inv h
    exact ⟨x, rfl⟩
  | some existing =>
    obtain ⟨hf, rfl⟩ := getByNotebookAndPackage_inv hg
    -- The row that has just been read has the identifier it is looked for by.
    cases hk : notebookDependencyTable.find existing.id d with
    | none => exact absurd rfl (lookup_none.mp hk existing (List.mem_of_find?_eq_some hf))
    | some x => exact ⟨_, (notebookDependencyTable.update_inv hk h).1⟩

lemma refuseIf_clean {c : Bool} {statusCode : ℕ} {detail : String} {p : Tx Database ServiceError α}
    (h : c = false → Tidy d p) : Tidy d (refuseIf c statusCode detail >>= fun _ => p) := by
  cases c with
  | true =>
    refine Or.inr ?_
    rw [bind_error (refuseIf_true rfl _)]
    rfl
  | false =>
    have hb : (refuseIf false statusCode detail >>= fun _ => p) (.open d) = p (.open d) :=
      bind_ok (refuseIf_false rfl _)
    rw [Tidy, hb]
    exact h rfl

lemma ownDependency_clean {p : NotebookDependency → Tx Database ServiceError α}
    (h : ∀ x, notebookDependencyTable.find k d = some x → x.notebookId = notebookId → Tidy d (p x)) :
    Tidy d (ownDependency notebookId k >>= p) := by
  by_cases hf : ∃ x, notebookDependencyTable.find k d = some x ∧ x.notebookId = notebookId
  · obtain ⟨x, hx, hb⟩ := hf
    have ho : (ownDependency notebookId k >>= p) (.open d) = p x (.open d) := bind_ok (ownDependency_own hx hb)
    rw [Tidy, ho]
    exact h x hx hb
  · refine Or.inr ?_
    rw [bind_error (ownDependency_foreign fun x hx hb => hf ⟨x, hx, hb⟩)]
    rfl

lemma route_clean (r : DependencyRequest) : Tidy d r.route := by
  cases r with
  | declareDependency e notebookId packageName versionSpecifier =>
    refine Tidy.map (refuseIf_clean fun _ => ?_) _
    exact clean_orBadRequest declare_uncommitted (fun o t h => declare_found h) fun x s => rfl
  | listDependencies notebookId => exact Or.inl ⟨_, _, rfl⟩
  | updateDependency e notebookId dependencyId versionSpecifier =>
    refine Tidy.map (refuseIf_clean fun _ => ownDependency_clean fun x hx _ => ?_) _
    exact clean_orBadRequest update_uncommitted (fun o t h => ⟨_, (notebookDependencyTable.update_inv hx h).1⟩)
      fun x s => rfl
  | deleteDependency notebookId dependencyId =>
    refine Tidy.map (ownDependency_clean fun x hx _ => ?_) _
    have hd : (DependencyManager.deleteDependency dependencyId : Tx Database ServiceError Bool) (.open d) =
      (.ok true, ⟨d, notebookDependencyTable.drop dependencyId d⟩) := notebookDependencyTable.delete_found hx
    exact Or.inl ⟨_, _, bind_ok hd⟩
  | getDependencyOperation operationId =>
    exact Tidy.map (Or.inr (getDependencyOperation_keeps (.open d) rfl)) _

lemma route_success {r : DependencyRequest} {s t : Session Database} {reply : DependencyReply}
    (h : r.route s = (.ok reply, t)) : reply.success = true := by
  cases r with
  | declareDependency e notebookId packageName versionSpecifier =>
    obtain ⟨x, rfl⟩ := map_ok_inv h
    exact decide_eq_true (by decide : 201 < 400)
  | listDependencies notebookId =>
    obtain ⟨items, rfl⟩ := map_ok_inv h
    exact decide_eq_true (by decide : 200 < 400)
  | updateDependency e notebookId dependencyId versionSpecifier =>
    obtain ⟨x, rfl⟩ := map_ok_inv h
    exact decide_eq_true (by decide : 200 < 400)
  | deleteDependency notebookId dependencyId =>
    obtain ⟨u, rfl⟩ := map_ok_inv h
    exact decide_eq_true (by decide : 204 < 400)
  | getDependencyOperation operationId =>
    obtain ⟨x, rfl⟩ := map_ok_inv h
    exact decide_eq_true (by decide : 200 < 400)

lemma serve_clean : FailsClean DependencyReply.success (fun _ => True) DependencyRequest.serve := by
  intro r d _
  rw [DependencyRequest.serve, inSession_committed, inSession_result]
  rcases route_clean (d := d) r with ⟨reply, t, h⟩ | h
  · rw [h]
    exact Or.inl (route_success h)
  · exact Or.inr h

def DependencyRequest.lists : DependencyRequest → Bool
  | .listDependencies _ => true
  | _ => false

lemma refused_fails {err : ServiceError} (h : 400 ≤ err.response.statusCode) : (refused err).success = false := by
  cases err with
  | http statusCode detail => exact decide_eq_false (not_lt.mpr h)
  | integrityError => rfl

def Fails (d : Database) (p : Tx Database ServiceError α) : Prop :=
  ∃ err t, p (.open d) = (.error err, t) ∧ 400 ≤ err.response.statusCode

lemma Fails.bind {p : Tx Database ServiceError α} (h : Fails d p) (k : α → Tx Database ServiceError β) :
    Fails d (p >>= k) := by
  obtain ⟨err, t, hp, he⟩ := h
  exact ⟨err, t, bind_error hp, he⟩

lemma Fails.serve {r : DependencyRequest} (h : Fails d r.route) : (r.serve d).1.success = false := by
  obtain ⟨err, t, hr, he⟩ := h
  rw [DependencyRequest.serve, inSession_result, hr]
  exact refused_fails he

lemma refuseIf_fails {c : Bool} {statusCode : ℕ} {detail : String} {p : Tx Database ServiceError α}
    (hs : 400 ≤ statusCode) (h : Fails d p) : Fails d (refuseIf c statusCode detail >>= fun _ => p) := by
  cases c with
  | true => exact ⟨_, _, bind_error (refuseIf_true rfl _), hs⟩
  | false =>
    obtain ⟨err, t, hp, he⟩ := h
    exact ⟨err, t, (bind_ok (refuseIf_false rfl _)).trans hp, he⟩

lemma orBadRequest_fails {p : Tx Database DependencyFailure α} {t : Session Database} {err : DependencyFailure}
    (h : p (.open d) = (.error err, t)) : Fails d (orBadRequest p) := by
  rw [Fails, orBadRequest, h]
  cases err with
  | validation packageName reason => exact ⟨_, _, rfl, le_refl 400⟩
  | _ => exact ⟨_, _, rfl, (by decide : 400 ≤ 500)⟩

lemma declare_unbooked (hn : d.notebooks = []) (hd : d.notebookDependencies = []) (e : Env) (notebookId : Uuid)
    (packageName : String) (versionSpecifier : Option String) :
    ∃ err t, DependencyManager.declareDependency e notebookId packageName versionSpecifier (.open d) =
      (.error err, t) := by
  obtain ⟨r, t, hr⟩ : ∃ r t, DependencyManager.declareDependency e notebookId packageName versionSpecifier
    (.open d) = (r, t) := ⟨_, _, rfl⟩
  cases r with
  | error err => exact ⟨err, t, hr⟩
  | ok o =>
    rw [DependencyManager.declareDependency] at hr
    obtain ⟨name, u, hv, hr⟩ := bind_ok_inv hr
    obtain ⟨-, rfl⟩ := ofExcept_inv hv
    obtain ⟨spec, u, hv, hr⟩ := bind_ok_inv hr
    obtain ⟨-, rfl⟩ := ofExcept_inv hv
    obtain ⟨existing, u, hg, hr⟩ := bind_ok_inv hr
    obtain ⟨hf, rfl⟩ := getByNotebookAndPackage_inv hg
    rw [hd, List.find?_nil] at hf
    subst hf
    have ho : notebookDependencyTable.occupied notebookDependencyClash
        ⟨e.uuid, notebookId, name, spec, e.now, e.now⟩ d = true := by
      rw [TableOf.occupied, notebookDependencyClash, hn, List.all_nil, Bool.or_true, Bool.or_true]
    have hi : NotebookDependencyRepository.create e notebookId name spec (.open d) =
      (.error .integrityError, .open d) := notebookDependencyTable.insert_refused ho
    cases (bind_error hi).symm.trans hr

lemma serve_bare (hn : d.notebooks = []) (hd : d.notebookDependencies = []) (ho : d.dependencyOperations = [])
    (r : DependencyRequest) : (r.serve d).1.success = r.lists := by
  have hforeign (notebookId k : Uuid) :
      ∀ x, notebookDependencyTable.find k d = some x → x.notebookId ≠ notebookId := by
    intro x hx
    have hm := lookup_mem hx
    change x ∈ d.notebookDependencies at hm
    rw [hd] at hm
    cases hm
  cases r with
  | declareDependency e notebookId packageName versionSpecifier =>
    obtain ⟨err, t, hraise⟩ := declare_unbooked hn hd e notebookId packageName versionSpecifier
    exact ((refuseIf_fails (by decide) (orBadRequest_fails (bind_error hraise))).bind _).serve
  | listDependencies notebookId => rfl
  | updateDependency e notebookId dependencyId versionSpecifier =>
    have ho : Fails d (ownDependency notebookId dependencyId) :=
      ⟨_, _, ownDependency_foreign (hforeign notebookId dependencyId), (by decide : 400 ≤ 404)⟩
    exact ((refuseIf_fails (by decide) (ho.bind _)).bind _).serve
  | deleteDependency notebookId dependencyId =>
    have ho : Fails d (ownDependency notebookId dependencyId) :=
      ⟨_, _, ownDependency_foreign (hforeign notebookId dependencyId), (by decide : 400 ≤ 404)⟩
    exact ((ho.bind _).bind _).serve
  | getDependencyOperation operationId =>
    have hmissing : dependencyOperationTable.find operationId d = none := by
      change lookup DependencyOperation.operationId operationId d.dependencyOperations = none
      rw [ho]
      rfl
    have hg : (DependencyOperationRepository.getByOperationId operationId :
        Tx Database ServiceError (Option DependencyOperation)) (.open d) =
        (.ok (dependencyOperationTable.find operationId d), .open d) := rfl
    have hroute : Fails d (Dependencies.getDependencyOperation operationId) := by
      refine ⟨.http 404 (operationNotFound operationId), .open d, ?_, (by decide : 400 ≤ 404)⟩
      rw [Dependencies.getDependencyOperation, bind_ok hg, hmissing]
      rfl
    exact (hroute.bind _).serve

end NotebookExecution.Dependencies
