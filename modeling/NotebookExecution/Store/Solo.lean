import NotebookExecution.Store.Statements

/-! A request whose statements are all issued on one session does what its route does there. -/

namespace NotebookExecution.Store.Interleaved

open Library.Transaction Library.Table Library.Text Library.Statements Library.Constraints

variable {α β ρ υ : Type}

abbrev alone (p : Statements α) : Tx Database ServiceError α := p.run engine

lemma alone_bind (p : Statements α) (k : α → Statements β) :
    alone (p >>= k) = alone p >>= fun a => alone (k a) := Program.run_bind p k

lemma alone_pure (a : α) : alone (pure a) = pure a := rfl

lemma alone_refuseIf (c : Bool) (statusCode : ℕ) (detail : String) :
    alone (refuseIf c statusCode detail) = Store.refuseIf c statusCode detail := by
  cases c <;> rfl

lemma alone_orNotFound (detail : String) (o : Option α) :
    alone (orNotFound detail o) = Store.orNotFound detail o := by
  cases o <;> rfl

lemma alone_ifGiven (o : Option β) (p : β → Statements Unit) :
    alone (ifGiven o p) = Store.ifGiven o fun b => alone (p b) := by
  cases o <;> rfl

lemma alone_orConflict (detail : String) (p : Statements α) :
    alone (orConflict detail p) = Store.orConflict detail (alone p) := by
  rw [orConflict, alone, Program.run_catch]
  congr 1
  funext e
  cases e <;> rfl

lemma alone_flush (w : Write) (s : Session Database) :
    alone (flush w) s =
      match engine.flush w s.view with
      | .stored => (.ok (), { s with view := w.apply s.view })
      | .missed => (.error unhandled, s)
      | .refused => (.error .integrityError, s) := by
  rw [alone, flush, Program.run, read_bind]
  cases engine.flush w s.view <;> rfl

section Repository

variable {R : Repository ρ υ} {s : Session Database} {k : Uuid}

lemma alone_getById : alone (R.getById k) = R.table.table.getById k := rfl

lemma alone_refresh {r : ρ} (h : R.table.table.find k s.view = some r) :
    alone (R.refresh k) s = (.ok r, s) := by
  rw [Repository.refresh, alone_bind, alone_getById, TableOf.getById_bind, h]
  rfl

lemma alone_create (r : ρ) :
    alone (R.create r) = R.table.table.insert R.table.clash .integrityError r := by
  funext s
  rw [Repository.create, alone_bind]
  cases ho : R.table.table.occupied R.table.clash r s.view with
  | true =>
    have hw : engine.flush (R.write (.insert r)) s.view = .refused := by
      rw [R.flush_write, Change.refused, ho]
      rfl
    have hf : alone (flush (R.write (.insert r))) s = (.error .integrityError, s) := by
      rw [alone_flush, hw]
    rw [bind_error hf, R.table.table.insert_refused ho]
  | false =>
    have hw : engine.flush (R.write (.insert r)) s.view = .stored := by
      rw [R.flush_write, Change.refused, ho]
      rfl
    have hf : alone (flush (R.write (.insert r))) s =
        (.ok (), { s with view := R.table.table.append r s.view }) := by
      rw [alone_flush, hw]
      simp only [R.apply_write, Change.apply]
    obtain ⟨hnone, -⟩ := R.table.table.occupied_inv ho
    have hfind : R.table.table.find (R.table.table.key r) (R.table.table.append r s.view) = some r := by
      rw [TableOf.find_append, hnone, if_pos rfl]
      rfl
    rw [bind_ok hf, alone_refresh hfind, R.table.table.insert_accepted ho]

def Edits (R : Repository ρ υ) (edit : ρ → Option (Edit R.table)) (assign stamp : ρ → ρ) : Prop :=
  ∀ r, assign r = r ∧ edit r = none ∨
    assign r ≠ r ∧ ∃ e, edit r = some e ∧ e.set r = stamp (assign r)

lemma alone_update [DecidableEq ρ] {edit : ρ → Option (Edit R.table)} {assign stamp : ρ → ρ}
    {held : Option ρ} (he : Edits R edit assign stamp)
    (hh : ∀ r, R.table.table.find k s.view = some r → held.getD r = r) :
    alone (R.update k held edit) s =
      R.table.table.update R.table.clash .integrityError k assign stamp s := by
  rw [Repository.update, alone_bind, alone_getById, TableOf.getById_bind]
  cases hf : R.table.table.find k s.view with
  | none =>
    rw [R.table.table.update_missing hf]
    rfl
  | some r =>
    rw [Repository.updateFound, hh r hf, alone_bind]
    rcases he r with ⟨ha, hn⟩ | ⟨ha, e, hs, hset⟩
    · rw [hn, R.table.table.update_idle hf ha, Repository.flushEdit, alone_pure, pure_bind, alone_bind,
        bind_ok (alone_refresh hf)]
      rfl
    · rw [hs, Repository.flushEdit]
      cases hc : R.table.clash s.view (stamp (assign r)) with
      | true =>
        have hw : engine.flush (R.write (.update k e.set e.key_set)) s.view = .refused := by
          rw [R.flush_write, Change.refused, hf, Option.any_some, hset, hc]
          rfl
        have hfl : alone (flush (R.write (.update k e.set e.key_set))) s = (.error .integrityError, s) := by
          rw [alone_flush, hw]
        rw [bind_error hfl, R.table.table.update_refused hf ha hc]
      | false =>
        have hw : engine.flush (R.write (.update k e.set e.key_set)) s.view = .stored := by
          rw [R.flush_write, Change.refused, Change.missed, hf, Option.any_some, hset, hc]
          rfl
        have hfl : alone (flush (R.write (.update k e.set e.key_set))) s =
            (.ok (), { s with view := R.table.table.put k (stamp (assign r)) s.view }) := by
          rw [alone_flush, hw]
          simp only [R.apply_write, Change.apply, hf, Option.elim_some, hset]
        have hkey : R.table.table.key (stamp (assign r)) = k := by
          rw [← hset, e.key_set]
          exact lookup_key hf
        have hfind := R.table.table.find_put_self hkey hf
        rw [bind_ok hfl, alone_bind, bind_ok (alone_refresh hfind), R.table.table.update_accepted hf ha hc]
        rfl

lemma alone_delete : alone (R.delete k) = R.table.table.delete k (R.table.cascade k) := by
  funext s
  rw [Repository.delete, alone_bind, alone_getById, TableOf.getById_bind]
  cases hf : R.table.table.find k s.view with
  | none =>
    rw [R.table.table.delete_missing hf]
    rfl
  | some r =>
    have hw : engine.flush (R.write (.delete k)) s.view = .stored := by
      rw [R.flush_write]
      rfl
    have hfl : alone (flush (R.write (.delete k))) s =
        (.ok (), { s with view := R.table.cascade k (R.table.table.drop k s.view) }) := by
      rw [alone_flush, hw]
      simp only [R.apply_write, Change.apply, hf, Option.elim_some]
    rw [Repository.deleteFound, alone_bind, bind_ok hfl, R.table.table.delete_found hf]
    rfl

end Repository

lemma changed_getD [DecidableEq β] (o : Option β) (b : β) : (changed o b).getD b = o.getD b := by
  cases o with
  | none => rfl
  | some x =>
    by_cases h : x = b
    · simp [changed, Option.filter, h]
    · simp [changed, Option.filter, h]

lemma changedText_or (o b : Option String) : (changedText o b).or b = o.or b := by
  cases o with
  | none => rfl
  | some x =>
    by_cases h : some x = b
    · subst h
      simp [changedText, Option.filter]
    · simp [changedText, Option.filter, h]

lemma edits_of {R : Repository ρ υ} [DecidableEq ρ] {assign stamp : ρ → ρ} {set : ρ → Edit R.table}
    (h : ∀ r, (set r).set r = stamp (assign r)) :
    Edits R (fun r => if assign r = r then none else some (set r)) assign stamp := by
  intro r
  by_cases ha : assign r = r
  · exact Or.inl ⟨ha, if_pos ha⟩
  · exact Or.inr ⟨ha, set r, if_neg ha, h r⟩

lemma workspace_edits (e : Env) (name description : Option String) :
    Edits WorkspaceRepository.repository (WorkspaceRepository.edit e name description)
      (WorkspaceRepository.assign name description) (WorkspaceRepository.stamp e) := by
  apply edits_of
  intro w
  simp only [WorkspaceRepository.assign, changed_getD, changedText_or]

lemma project_edits (e : Env) (name description : Option String) :
    Edits ProjectRepository.repository (ProjectRepository.edit e name description)
      (ProjectRepository.assign name description) (ProjectRepository.stamp e) := by
  apply edits_of
  intro p
  simp only [ProjectRepository.assign, changed_getD, changedText_or]

lemma notebook_edits (e : Env) (name description language : Option String) :
    Edits NotebookRepository.repository (NotebookRepository.edit e name description language)
      (NotebookRepository.assign name description language) (NotebookRepository.stamp e) := by
  apply edits_of
  intro n
  simp only [NotebookRepository.assign, changed_getD, changedText_or]

lemma notebookCell_edits (e : Env) (source cellType : Option String) (position : Option ℤ) :
    Edits NotebookCellRepository.repository (NotebookCellRepository.edit e source cellType position)
      (NotebookCellRepository.assign source cellType position) (NotebookCellRepository.stamp e) := by
  apply edits_of
  intro c
  simp only [NotebookCellRepository.assign, changed_getD]

lemma notebookMetadata_edits (e : Env) (configuration : Json) :
    Edits NotebookMetadataRepository.repository (NotebookMetadataRepository.edit e configuration)
      (NotebookMetadataRepository.assign configuration) (NotebookMetadataRepository.stamp e) :=
  edits_of fun _ => rfl

section Services

variable (e : Env) (k : Uuid)

lemma alone_listWorkspaces :
    alone WorkspaceService.listWorkspaces = Store.WorkspaceService.listWorkspaces := rfl

lemma alone_createWorkspace (data : WorkspaceCreate) :
    alone (WorkspaceService.createWorkspace e data) = Store.WorkspaceService.createWorkspace e data := by
  simp only [WorkspaceService.createWorkspace, alone_bind, alone_refuseIf, alone_orConflict, alone_create]
  rfl

lemma alone_getWorkspace : alone (WorkspaceService.getWorkspace k) = Store.WorkspaceService.getWorkspace k := by
  simp only [WorkspaceService.getWorkspace, alone_bind, alone_orNotFound, alone_getById]
  rfl

lemma alone_deleteWorkspace :
    alone (WorkspaceService.deleteWorkspace k) = Store.WorkspaceService.deleteWorkspace k := by
  simp only [WorkspaceService.deleteWorkspace, alone_bind, alone_getWorkspace, alone_delete, alone_refuseIf]
  rfl

lemma alone_createProject (data : ProjectCreate) :
    alone (ProjectService.createProject e k data) = Store.ProjectService.createProject e k data := by
  simp only [ProjectService.createProject, alone_bind, alone_getWorkspace, alone_refuseIf,
    alone_orConflict, alone_create]
  rfl

lemma alone_getProject : alone (ProjectService.getProject k) = Store.ProjectService.getProject k := by
  simp only [ProjectService.getProject, alone_bind, alone_orNotFound, alone_getById]
  rfl

lemma alone_listProjectsByWorkspace : alone (ProjectService.listProjectsByWorkspace k) =
    Store.ProjectService.listProjectsByWorkspace k := by
  simp only [ProjectService.listProjectsByWorkspace, alone_bind, alone_getWorkspace]
  rfl

lemma alone_deleteProject :
    alone (ProjectService.deleteProject k) = Store.ProjectService.deleteProject k := by
  simp only [ProjectService.deleteProject, alone_bind, alone_getProject, alone_delete, alone_refuseIf]
  rfl

lemma alone_validateLanguage (language : String) :
    alone (NotebookService.validateLanguage language) = Store.NotebookService.validateLanguage language := by
  simp only [NotebookService.validateLanguage, alone_bind, alone_refuseIf]
  rfl

lemma alone_createNotebook (data : NotebookCreate) :
    alone (NotebookService.createNotebook e k data) = Store.NotebookService.createNotebook e k data := by
  simp only [NotebookService.createNotebook, alone_bind, alone_getProject, alone_validateLanguage,
    alone_refuseIf, alone_orConflict, alone_create]
  rfl

lemma alone_getNotebook :
    alone (NotebookService.getNotebook k) = Store.NotebookService.getNotebook k := by
  simp only [NotebookService.getNotebook, alone_bind, alone_orNotFound, alone_getById]
  rfl

lemma alone_listNotebooksByProject : alone (NotebookService.listNotebooksByProject k) =
    Store.NotebookService.listNotebooksByProject k := by
  simp only [NotebookService.listNotebooksByProject, alone_bind, alone_getProject]
  rfl

lemma alone_deleteNotebook :
    alone (NotebookService.deleteNotebook k) = Store.NotebookService.deleteNotebook k := by
  simp only [NotebookService.deleteNotebook, alone_bind, alone_getNotebook, alone_delete, alone_refuseIf]
  rfl

lemma alone_validateCellType (cellType : String) : alone (NotebookCellService.validateCellType cellType) =
    Store.NotebookCellService.validateCellType cellType := by
  simp only [NotebookCellService.validateCellType, alone_bind, alone_refuseIf]
  rfl

lemma alone_createCell (data : NotebookCellCreate) :
    alone (NotebookCellService.createCell e k data) = Store.NotebookCellService.createCell e k data := by
  simp only [NotebookCellService.createCell, alone_bind, alone_getNotebook, alone_validateCellType,
    alone_refuseIf, alone_orConflict, alone_create]
  rfl

lemma alone_getCell (j : Uuid) :
    alone (NotebookCellService.getCell k j) = Store.NotebookCellService.getCell k j := by
  simp only [NotebookCellService.getCell, alone_bind, alone_getNotebook, alone_orNotFound, alone_getById,
    alone_refuseIf]
  rfl

lemma alone_listCellsByNotebook : alone (NotebookCellService.listCellsByNotebook k) =
    Store.NotebookCellService.listCellsByNotebook k := by
  simp only [NotebookCellService.listCellsByNotebook, alone_bind, alone_getNotebook]
  rfl

lemma alone_deleteCell (j : Uuid) :
    alone (NotebookCellService.deleteCell k j) = Store.NotebookCellService.deleteCell k j := by
  simp only [NotebookCellService.deleteCell, alone_bind, alone_getCell, alone_delete, alone_refuseIf]
  rfl

lemma alone_getMetadata :
    alone (NotebookMetadataService.getMetadata k) = Store.NotebookMetadataService.getMetadata k := by
  simp only [NotebookMetadataService.getMetadata, alone_bind, alone_getNotebook, alone_orNotFound,
    alone_getById]
  rfl

end Services

/-! ## Updates. The row that is held is the one in the database. -/

section Updates

variable {s : Session Database} {k : Uuid}

lemma found_inv {T : TableOf Database ρ Uuid} {detail : String} {r : ρ} {t : Session Database}
    (h : (T.getById k >>= Store.orNotFound detail) s = (.ok r, t)) :
    T.find k s.view = some r ∧ t = s := by
  rw [TableOf.getById_bind] at h
  cases hf : T.find k s.view with
  | none =>
    rw [hf] at h
    cases h
  | some x =>
    rw [hf] at h
    cases h
    exact ⟨rfl, rfl⟩

lemma holding_congr {R : Repository ρ υ} {q : Query} {rows : Database → List ρ} {o : Option β}
    {taken : β → ρ → Bool} {statusCode : ℕ} {detail : β → String}
    {f : Option ρ → Statements α} {g : Tx Database ServiceError α}
    (h : ∀ held, (∀ r, R.table.table.find k s.view = some r → held.getD r = r) → alone (f held) s = g s) :
    alone (holding o (fun b => do
      let listed ← listHolding R q k rows
      refuseIf (listed.1.any (taken b)) statusCode (detail b)
      pure listed.2) >>= f) s =
    (Store.ifGiven o (fun b => do
      let d ← read
      Store.refuseIf ((rows d).any (taken b)) statusCode (detail b)) >>= fun _ => g) s := by
  cases o with
  | none => exact h none fun _ _ => rfl
  | some b =>
    have hheld := h (R.table.table.find k s.view) fun r hr => by rw [hr]; rfl
    have hlist : alone (listHolding R q k rows) s = (.ok (rows s.view, R.table.table.find k s.view), s) := rfl
    rw [alone_bind, holding, Option.elim_some, alone_bind]
    cases hc : (rows s.view).any (taken b) with
    | true =>
      have hnew : (alone (listHolding R q k rows) >>= fun listed => alone do
          refuseIf (listed.1.any (taken b)) statusCode (detail b)
          pure listed.2) s = (.error (.http statusCode (detail b)), s) := by
        rw [bind_ok hlist, alone_bind, alone_refuseIf]
        exact bind_error (Store.refuseIf_true hc s)
      have hold : Store.ifGiven (some b) (fun b => do
          let d ← read
          Store.refuseIf ((rows d).any (taken b)) statusCode (detail b)) s =
          (.error (.http statusCode (detail b)), s) := Store.refuseIf_true hc s
      rw [bind_error hnew, bind_error hold]
    | false =>
      have hnew : (alone (listHolding R q k rows) >>= fun listed => alone do
          refuseIf (listed.1.any (taken b)) statusCode (detail b)
          pure listed.2) s = (.ok (R.table.table.find k s.view), s) := by
        rw [bind_ok hlist, alone_bind, alone_refuseIf, bind_ok (Store.refuseIf_false hc s)]
        rfl
      have hold : Store.ifGiven (some b) (fun b => do
          let d ← read
          Store.refuseIf ((rows d).any (taken b)) statusCode (detail b)) s = (.ok (), s) :=
        Store.refuseIf_false hc s
      rw [bind_ok hnew, bind_ok hold, hheld]

lemma alone_updateWorkspace (e : Env) (data : WorkspaceUpdate) :
    alone (WorkspaceService.updateWorkspace e k data) = Store.WorkspaceService.updateWorkspace e k data := by
  funext s
  rw [WorkspaceService.updateWorkspace, Store.WorkspaceService.updateWorkspace, alone_bind]
  refine bind_congr_at (congrFun (alone_getWorkspace k) s) fun w t ht => ?_
  obtain ⟨-, rfl⟩ := found_inv ht
  refine holding_congr (R := WorkspaceRepository.repository) fun held hheld => ?_
  rw [alone_orConflict]
  refine catch_congr_at ?_
  rw [alone_bind]
  refine bind_congr_at (alone_update (workspace_edits e data.name data.description) hheld) fun o u _ => ?_
  rw [alone_orNotFound]

lemma refuseIf_inv {c : Bool} {statusCode : ℕ} {detail : String} {u : Unit} {t : Session Database}
    (h : Store.refuseIf c statusCode detail s = (.ok u, t)) : t = s := by
  cases c <;> cases h
  rfl

lemma ifGiven_inv {o : Option β} {p : β → Tx Database ServiceError Unit} {u : Unit}
    {t : Session Database} (hp : ∀ b u, p b s = (.ok u, t) → t = s)
    (h : Store.ifGiven o p s = (.ok u, t)) : t = s := by
  cases o with
  | none =>
    cases h
    rfl
  | some b => exact hp b u h

lemma checked_inv {rows : Database → List ρ} {taken : ρ → Bool} {statusCode : ℕ} {detail : String} {u : Unit}
    {t : Session Database} (h : (do
      let d ← read
      Store.refuseIf ((rows d).any taken) statusCode detail : Tx Database ServiceError Unit) s =
      (.ok u, t)) : t = s := refuseIf_inv h

lemma alone_updateProject (e : Env) (data : ProjectUpdate) :
    alone (ProjectService.updateProject e k data) = Store.ProjectService.updateProject e k data := by
  funext s
  rw [ProjectService.updateProject, Store.ProjectService.updateProject, alone_bind]
  refine bind_congr_at (congrFun (alone_getProject k) s) fun p t ht => ?_
  obtain ⟨hfind, rfl⟩ := found_inv ht
  have hheld : ∀ r, projectTable.find k t.view = some r → (some p).getD r = r := by
    intro r hr
    exact Option.some_inj.mp (hfind.symm.trans hr)
  rw [alone_bind, alone_ifGiven]
  simp only [alone_bind, alone_refuseIf]
  refine bind_congr_at rfl fun _ u hu => ?_
  obtain rfl : u = t := ifGiven_inv (fun b _ hb => checked_inv hb) hu
  rw [alone_orConflict]
  refine catch_congr_at ?_
  rw [alone_bind]
  refine bind_congr_at (alone_update (project_edits e data.name data.description) hheld) fun o v _ => ?_
  rw [alone_orNotFound]

lemma alone_updateNotebook (e : Env) (data : NotebookUpdate) :
    alone (NotebookService.updateNotebook e k data) = Store.NotebookService.updateNotebook e k data := by
  funext s
  rw [NotebookService.updateNotebook, Store.NotebookService.updateNotebook, alone_bind]
  refine bind_congr_at (congrFun (alone_getNotebook k) s) fun n t ht => ?_
  obtain ⟨hfind, rfl⟩ := found_inv ht
  have hheld : ∀ r, notebookTable.find k t.view = some r → (some n).getD r = r := by
    intro r hr
    exact Option.some_inj.mp (hfind.symm.trans hr)
  simp only [alone_bind, alone_ifGiven, alone_refuseIf]
  refine bind_congr_at rfl fun _ u hu => ?_
  obtain rfl : u = t := ifGiven_inv (fun b _ hb => refuseIf_inv hb) hu
  refine bind_congr_at rfl fun _ v hv => ?_
  obtain rfl : v = u := ifGiven_inv (fun b _ hb => checked_inv hb) hv
  rw [alone_orConflict]
  refine catch_congr_at ?_
  rw [alone_bind]
  refine bind_congr_at
    (alone_update (notebook_edits e data.name data.description (data.language.map lower)) hheld)
    fun o w _ => ?_
  rw [alone_orNotFound]

lemma getCell_inv {j : Uuid} {c : NotebookCell} {t : Session Database}
    (h : Store.NotebookCellService.getCell k j s = (.ok c, t)) : t = s := by
  rw [Store.NotebookCellService.getCell] at h
  obtain ⟨n, u, hn, hcell⟩ := bind_ok_inv h
  obtain ⟨-, rfl⟩ := found_inv hn
  obtain ⟨o, v, ho, hfound⟩ := bind_ok_inv hcell
  obtain ⟨x, w, hx, hrefuse⟩ := bind_ok_inv hfound
  obtain ⟨-, rfl⟩ := found_inv ((bind_ok ho).trans hx)
  obtain ⟨u, y, hy, hpure⟩ := bind_ok_inv hrefuse
  obtain rfl := refuseIf_inv hy
  cases hpure
  rfl

lemma alone_updateCell (e : Env) (j : Uuid) (data : NotebookCellUpdate) :
    alone (NotebookCellService.updateCell e k j data) =
      Store.NotebookCellService.updateCell e k j data := by
  funext s
  rw [NotebookCellService.updateCell, Store.NotebookCellService.updateCell, alone_bind]
  refine bind_congr_at (congrFun (alone_getCell k j) s) fun c t ht => ?_
  obtain rfl : t = s := getCell_inv ht
  rw [alone_bind, alone_ifGiven]
  simp only [alone_refuseIf]
  refine bind_congr_at rfl fun _ u hu => ?_
  obtain rfl : u = t := ifGiven_inv (fun b _ hb => refuseIf_inv hb) hu
  refine holding_congr (R := NotebookCellRepository.repository) fun held hheld => ?_
  rw [alone_orConflict]
  refine catch_congr_at ?_
  rw [alone_bind]
  refine bind_congr_at
    (alone_update (notebookCell_edits e data.source (data.cellType.map lower) data.position) hheld)
    fun o w _ => ?_
  rw [alone_orNotFound]

lemma alone_createOrUpdate (e : Env) (configuration : Json) :
    alone (NotebookMetadataRepository.createOrUpdate e k configuration) =
      Store.NotebookMetadataRepository.createOrUpdate e k configuration := by
  funext s
  rw [NotebookMetadataRepository.createOrUpdate, alone_bind]
  refine bind_congr_at
    (alone_update (notebookMetadata_edits e configuration) fun _ _ => rfl) fun o t _ => ?_
  cases o with
  | none =>
    rw [NotebookMetadataRepository.orCreate, alone_create]
    rfl
  | some m => rfl

lemma alone_updateMetadata (e : Env) (data : NotebookMetadataUpdate) :
    alone (NotebookMetadataService.updateMetadata e k data) =
      Store.NotebookMetadataService.updateMetadata e k data := by
  simp only [NotebookMetadataService.updateMetadata, alone_bind, alone_getNotebook, alone_createOrUpdate]
  rfl

end Updates

theorem alone_handle (r : Request) : alone (handle r) = Store.handle r := by
  rw [handle, alone_bind, alone_refuseIf, Store.handle]
  congr 1
  funext _
  rcases r with ⟨e, call⟩
  cases call with
  | createWorkspace data =>
    rw [route, alone_bind, alone_createWorkspace]
    rfl
  | listWorkspaces =>
    rw [route, alone_bind, alone_listWorkspaces]
    rfl
  | getWorkspace k =>
    rw [route, alone_bind, alone_getWorkspace]
    rfl
  | updateWorkspace k data =>
    rw [route, alone_bind, alone_updateWorkspace]
    rfl
  | deleteWorkspace k =>
    rw [route, alone_bind, alone_deleteWorkspace]
    rfl
  | createProject w data =>
    rw [route, alone_bind, alone_createProject]
    rfl
  | listProjectsInWorkspace w =>
    rw [route, alone_bind, alone_listProjectsByWorkspace]
    rfl
  | getProject k =>
    rw [route, alone_bind, alone_getProject]
    rfl
  | updateProject k data =>
    rw [route, alone_bind, alone_updateProject]
    rfl
  | deleteProject k =>
    rw [route, alone_bind, alone_deleteProject]
    rfl
  | createNotebook p data =>
    rw [route, alone_bind, alone_createNotebook]
    rfl
  | listNotebooksInProject p =>
    rw [route, alone_bind, alone_listNotebooksByProject]
    rfl
  | getNotebook k =>
    rw [route, alone_bind, alone_getNotebook]
    rfl
  | updateNotebook k data =>
    rw [route, alone_bind, alone_updateNotebook]
    rfl
  | deleteNotebook k =>
    rw [route, alone_bind, alone_deleteNotebook]
    rfl
  | createCell n data =>
    rw [route, alone_bind, alone_createCell]
    rfl
  | listCellsInNotebook n =>
    rw [route, alone_bind, alone_listCellsByNotebook]
    rfl
  | getCell n k =>
    rw [route, alone_bind, alone_getCell]
    rfl
  | updateCell n k data =>
    rw [route, alone_bind, alone_updateCell]
    rfl
  | deleteCell n k =>
    rw [route, alone_bind, alone_deleteCell]
    rfl
  | getNotebookMetadata n =>
    rw [route, alone_bind, alone_getMetadata]
    rfl
  | updateNotebookMetadata n data =>
    rw [route, alone_bind, alone_updateMetadata]
    rfl

end NotebookExecution.Store.Interleaved
