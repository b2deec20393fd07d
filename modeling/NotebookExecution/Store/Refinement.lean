import NotebookExecution.Store.Effects

/-! Each route, run on a fresh session, refuses or computes its effect exactly as the sequential
store does. -/

namespace NotebookExecution.Store

open Library.Transaction Library.Table Library.Text

variable {α β ρ : Type} {d d' : Database} {b c : Bool}

def Rejects (p : Tx Database ServiceError α) (d : Database) : Prop :=
  ∃ e : ServiceError, 400 ≤ e.response.statusCode ∧ p (.open d) = (.error e, .open d)

lemma Rejects.bind {p : Tx Database ServiceError α} {k : α → Tx Database ServiceError β}
    (h : Rejects p d) : Rejects (p >>= k) d :=
  h.imp fun _ he => ⟨he.1, bind_error he.2⟩

lemma Rejects.after {p : Tx Database ServiceError α} {k : α → Tx Database ServiceError β} {a : α}
    (hp : Performs p d a d) (h : Rejects (k a) d) : Rejects (p >>= k) d :=
  h.imp fun _ he => ⟨he.1, (bind_ok hp).trans he.2⟩

def Realises (p : Tx Database ServiceError α) (d : Database) (refused : Bool) (d' : Database) : Prop :=
  (refused = true → Rejects p d) ∧ (refused = false → ∃ a, Performs p d a d')

namespace Realises

lemma of_rejects {p : Tx Database ServiceError α} (h : Rejects p d) : Realises p d true d' :=
  ⟨fun _ => h, by simp⟩

lemma of_performs {p : Tx Database ServiceError α} {a : α} (h : Performs p d a d') :
    Realises p d false d' :=
  ⟨by simp, fun _ => ⟨a, h⟩⟩

lemma after {p : Tx Database ServiceError α} {k : α → Tx Database ServiceError β} {a : α}
    (hp : Performs p d a d) (hk : Realises (k a) d b d') : Realises (p >>= k) d b d' := by
  refine ⟨fun hb => (hk.1 hb).after hp, fun hb => ?_⟩
  obtain ⟨x, hx⟩ := hk.2 hb
  exact ⟨x, hp.bind hx⟩

lemma map {p : Tx Database ServiceError α} (f : α → β) (h : Realises p d b d') :
    Realises (p >>= fun a => pure (f a)) d b d' := by
  refine ⟨fun hb => (h.1 hb).bind, fun hb => ?_⟩
  obtain ⟨x, hx⟩ := h.2 hb
  exact ⟨f x, hx.map⟩

lemma guard {statusCode : ℕ} {detail : String} {k : Unit → Tx Database ServiceError α}
    (hs : 400 ≤ statusCode) (h : Realises (k ()) d b d') :
    Realises (refuseIf c statusCode detail >>= k) d (c || b) d' := by
  cases c with
  | true => exact of_rejects (Rejects.bind ⟨.http statusCode detail, hs, rfl⟩)
  | false => exact after (a := ()) rfl h

lemma guarded {statusCode : ℕ} {detail : String} {x : β} {k : β → Tx Database ServiceError α}
    (hs : 400 ≤ statusCode) (h : Realises (k x) d b d') :
    Realises ((refuseIf c statusCode detail >>= fun _ => pure x) >>= k) d (c || b) d' := by
  cases c with
  | true => exact of_rejects (Rejects.bind (Rejects.bind ⟨.http statusCode detail, hs, rfl⟩))
  | false => exact after (a := x) rfl h

lemma guardGiven {o : Option β} {f : β → Bool} {p : β → Tx Database ServiceError Unit}
    {k : Unit → Tx Database ServiceError α}
    (hp : ∀ x, Realises (p x) d (f x) d) (h : Realises (k ()) d b d') :
    Realises (ifGiven o p >>= k) d (o.any f || b) d' := by
  cases o with
  | none => exact after (a := ()) rfl h
  | some x =>
    cases hx : f x with
    | true =>
      have hr : Rejects (p x) d := (hp x).1 hx
      have ht : Realises (ifGiven (some x) p >>= k) d true d' := of_rejects hr.bind
      simpa [hx] using ht
    | false =>
      obtain ⟨u, hu⟩ := (hp x).2 hx
      simpa [hx] using! after (k := k) hu h

end Realises

lemma refuseIf_realises (c : Bool) {statusCode : ℕ} (detail : String) (hs : 400 ≤ statusCode) :
    Realises (refuseIf c statusCode detail) d c d := by
  cases c with
  | true => exact .of_rejects ⟨.http statusCode detail, hs, rfl⟩
  | false => exact .of_performs (a := ()) rfl

lemma orConflict_ok {p : Tx Database ServiceError α} {s t : Session Database} {a : α}
    {detail : String} (h : p s = (.ok a, t)) : orConflict detail p s = (.ok a, t) :=
  catch_ok h

lemma orConflict_http {p : Tx Database ServiceError α} {statusCode : ℕ} {text detail : String}
    (h : p (.open d) = (.error (.http statusCode text), .open d)) (hs : 400 ≤ statusCode) :
    Rejects (orConflict detail p) d :=
  ⟨.http statusCode text, hs, catch_error h⟩

lemma orConflict_integrity {p : Tx Database ServiceError α} {detail : String}
    (h : p (.open d) = (.error .integrityError, .open d)) : Rejects (orConflict detail p) d :=
  ⟨.http 409 detail, by simp [ServiceError.response], catch_error h⟩

section Statements

variable (T : TableOf Database ρ Uuid)

lemma found_realises {k : Uuid} {detail : String} {f : ρ → Tx Database ServiceError α}
    (h : ∀ r, T.find k d = some r → Realises (f r) d b d') :
    Realises (((T.getById k >>= orNotFound detail) : Tx Database ServiceError ρ) >>= f) d
      (!(T.find k d).isSome || b) d' := by
  cases hf : T.find k d with
  | none =>
    have hr : Rejects (T.getById k >>= orNotFound detail) d := by
      refine ⟨.http 404 detail, by simp [ServiceError.response], ?_⟩
      rw [TableOf.getById_bind, show T.find k (Session.open d).view = none from hf]
      rfl
    exact .of_rejects hr.bind
  | some r =>
    have hr : Performs (T.getById k >>= orNotFound detail) d r d := by
      change (T.getById k >>= orNotFound detail) (.open d) = _
      rw [TableOf.getById_bind, show T.find k (Session.open d).view = some r from hf]
      rfl
    simpa using! Realises.after hr (h r hf)

lemma reads_realises {k : Uuid} {detail : String} {f : ρ → Tx Database ServiceError α}
    (g : ρ → Database → α) (h : ∀ r s, f r s = (.ok (g r s.view), s)) :
    Realises ((T.getById k >>= orNotFound detail) >>= f) d (!(T.find k d).isSome) d := by
  rw [← Bool.or_false (!(T.find k d).isSome)]
  exact found_realises T fun r _ => .of_performs (h r (.open d))

lemma create_realises {clash : Database → ρ → Bool} {r : ρ} {detail : String} :
    Realises (orConflict detail (T.insert clash .integrityError r)) d (T.occupied clash r d)
      (T.append r d) := by
  cases ho : T.occupied clash r d with
  | true => exact .of_rejects (orConflict_integrity (T.insert_refused ho))
  | false => exact .of_performs (orConflict_ok (T.insert_accepted (s := .open d) ho))

lemma realises_of_missing {p : Tx Database ServiceError α} {k : Uuid}
    (h : Realises p d (!(T.find k d).isSome || b) d') (hb : T.find k d = none → b = true) :
    Realises p d b d' := by
  cases hf : T.find k d with
  | none =>
    rw [hf, hb hf] at h
    rw [hb hf]
    exact h
  | some r =>
    rw [hf] at h
    exact h

variable [DecidableEq ρ]

lemma amendRefused_missing {clash : Database → ρ → Bool} {k : Uuid} {assign stamp : ρ → ρ}
    (h : T.find k d = none) : amendRefused T clash k assign stamp d = true := by
  rw [amendRefused, h]

lemma amend_realises {clash : Database → ρ → Bool} {k : Uuid} {assign stamp : ρ → ρ}
    {detail missing : String} :
    Realises
      (orConflict detail (T.update clash .integrityError k assign stamp >>= orNotFound missing)) d
      (amendRefused T clash k assign stamp d) (amend T k assign stamp d) := by
  rw [amendRefused, amend]
  cases hf : T.find k d with
  | none =>
    have hu : T.update clash ServiceError.integrityError k assign stamp (.open d) =
        (.ok none, .open d) := T.update_missing hf
    have hn : (T.update clash .integrityError k assign stamp >>= orNotFound missing) (.open d) =
        (.error (.http 404 missing), .open d) := bind_ok hu
    exact .of_rejects (orConflict_http hn (by decide))
  | some r =>
    by_cases ha : assign r = r
    · have hu : T.update clash ServiceError.integrityError k assign stamp (.open d) =
          (.ok (some r), .open d) := T.update_idle hf ha
      have hn := bind_ok (k := orNotFound missing) hu
      have hp : Performs (orConflict detail (T.update clash .integrityError k assign stamp >>=
          orNotFound missing)) d r d := orConflict_ok hn
      simpa [ha] using Realises.of_performs hp
    · cases hc : clash d (stamp (assign r)) with
      | true =>
        have hu : T.update clash ServiceError.integrityError k assign stamp (.open d) =
            (.error .integrityError, .open d) := T.update_refused hf ha hc
        have hr : Rejects (orConflict detail (T.update clash .integrityError k assign stamp >>=
            orNotFound missing)) d := orConflict_integrity (bind_error hu)
        have ht : Realises (orConflict detail (T.update clash .integrityError k assign stamp >>=
            orNotFound missing)) d true (T.put k (stamp (assign r)) d) := .of_rejects hr
        simpa [ha, hc] using ht
      | false =>
        have hu : T.update clash ServiceError.integrityError k assign stamp (.open d) =
            (.ok (some (stamp (assign r))), ⟨d, T.put k (stamp (assign r)) d⟩) :=
          T.update_accepted hf ha hc
        have hn := bind_ok (k := orNotFound missing) hu
        have hp : Performs (orConflict detail (T.update clash .integrityError k assign stamp >>=
            orNotFound missing)) d (stamp (assign r)) (T.put k (stamp (assign r)) d) :=
          orConflict_ok hn
        simpa [ha, hc] using Realises.of_performs hp

end Statements

lemma any_sorted (r : ρ → ρ → Prop) [DecidableRel r] (l : List ρ) (p : ρ → Bool) :
    (l.insertionSort r).any p = l.any p :=
  (l.perm_insertionSort r).any_eq

lemma any_filter_sorted (r : ρ → ρ → Prop) [DecidableRel r] (l : List ρ) (q p : ρ → Bool) :
    ((l.filter q).insertionSort r).any p = l.any (fun x => q x && p x) := by
  rw [any_sorted, List.any_filter]

lemma delete_realises {T : TableOf Database ρ Uuid} {k : Uuid} {cascade : Database → Database}
    {detail : String} :
    Realises ((T.getById k >>= orNotFound detail) >>= fun _ => T.delete k cascade >>= fun deleted =>
      refuseIf (!deleted) 404 detail) d (!(T.find k d).isSome) (cascade (T.drop k d)) := by
  rw [← Bool.or_false (!(T.find k d).isSome)]
  apply found_realises T
  intro r hr
  exact .of_performs (a := ()) (bind_ok (T.delete_found (s := .open d) hr))

/-! ## The routes -/

section Routes

variable (e : Env)

lemma createWorkspace_realises (data : WorkspaceCreate) :
    Realises (WorkspaceService.createWorkspace e data) d ((Call.createWorkspace data).refused e d)
      ((Call.createWorkspace data).effect e d) := by
  refine .after (a := WorkspaceRepository.workspacesOf d) rfl ?_
  rw [WorkspaceRepository.workspacesOf, any_sorted]
  exact .guard (by decide) (create_realises workspaceTable)

lemma updateWorkspace_realises (k : Uuid) (data : WorkspaceUpdate) :
    Realises (WorkspaceService.updateWorkspace e k data) d ((Call.updateWorkspace k data).refused e d)
      ((Call.updateWorkspace k data).effect e d) := by
  apply realises_of_missing workspaceTable (k := k)
  · refine found_realises workspaceTable fun r _ => .guardGiven (fun name => ?_)
      (amend_realises workspaceTable)
    refine .after (a := WorkspaceRepository.workspacesOf d) rfl ?_
    rw [WorkspaceRepository.workspacesOf, any_sorted]
    exact refuseIf_realises _ _ (by decide)
  · intro hf
    exact Bool.or_eq_true_iff.mpr (Or.inr (amendRefused_missing workspaceTable hf))

lemma deleteWorkspace_realises (k : Uuid) :
    Realises (WorkspaceService.deleteWorkspace k) d ((Call.deleteWorkspace k).refused e d)
      ((Call.deleteWorkspace k).effect e d) :=
  delete_realises

lemma createProject_realises (w : Uuid) (data : ProjectCreate) :
    Realises (ProjectService.createProject e w data) d ((Call.createProject w data).refused e d)
      ((Call.createProject w data).effect e d) := by
  change Realises _ d (_ || _ || _) _
  rw [Bool.or_assoc]
  apply found_realises workspaceTable
  intro r _
  refine .after (a := ProjectRepository.projectsOf w d) rfl ?_
  rw [ProjectRepository.projectsOf, any_filter_sorted]
  simpa [Database.projectNamed] using! Realises.guard (by decide) (create_realises projectTable)

lemma updateProject_realises (k : Uuid) (data : ProjectUpdate) :
    Realises (ProjectService.updateProject e k data) d ((Call.updateProject k data).refused e d)
      ((Call.updateProject k data).effect e d) := by
  apply realises_of_missing projectTable (k := k)
  · refine found_realises projectTable fun r hr => .guardGiven (fun name => ?_)
      (amend_realises projectTable)
    refine .after (a := ProjectRepository.projectsOf r.workspaceId d) rfl ?_
    rw [ProjectRepository.projectsOf, any_filter_sorted]
    simpa [Database.projectNamedBeside, hr] using! refuseIf_realises _ _ (by decide)
  · intro hf
    exact Bool.or_eq_true_iff.mpr (Or.inr (amendRefused_missing projectTable hf))

lemma deleteProject_realises (k : Uuid) :
    Realises (ProjectService.deleteProject k) d ((Call.deleteProject k).refused e d)
      ((Call.deleteProject k).effect e d) :=
  delete_realises

lemma createNotebook_realises (p : Uuid) (data : NotebookCreate) :
    Realises (NotebookService.createNotebook e p data) d ((Call.createNotebook p data).refused e d)
      ((Call.createNotebook p data).effect e d) := by
  change Realises _ d (_ || _ || _ || _) _
  rw [Bool.or_assoc, Bool.or_assoc]
  apply found_realises projectTable
  intro r _
  refine .guarded (by decide) ?_
  refine .after (a := NotebookRepository.notebooksOf p d) rfl ?_
  rw [NotebookRepository.notebooksOf, any_filter_sorted]
  simpa [Database.notebookNamed] using! Realises.guard (by decide) (create_realises notebookTable)

lemma updateNotebook_realises (k : Uuid) (data : NotebookUpdate) :
    Realises (NotebookService.updateNotebook e k data) d ((Call.updateNotebook k data).refused e d)
      ((Call.updateNotebook k data).effect e d) := by
  apply realises_of_missing notebookTable (k := k)
  · change Realises _ d (_ || (_ || _ || _)) _
    rw [Bool.or_assoc]
    refine found_realises notebookTable fun r hr =>
      .guardGiven (fun language => refuseIf_realises _ _ (by decide))
        (.guardGiven (fun name => ?_) (amend_realises notebookTable))
    refine .after (a := NotebookRepository.notebooksOf r.projectId d) rfl ?_
    rw [NotebookRepository.notebooksOf, any_filter_sorted]
    simpa [Database.notebookNamedBeside, hr] using! refuseIf_realises _ _ (by decide)
  · intro hf
    exact Bool.or_eq_true_iff.mpr (Or.inr (amendRefused_missing notebookTable hf))

lemma deleteNotebook_realises (k : Uuid) :
    Realises (NotebookService.deleteNotebook k) d ((Call.deleteNotebook k).refused e d)
      ((Call.deleteNotebook k).effect e d) :=
  delete_realises

lemma createCell_realises (n : Uuid) (data : NotebookCellCreate) :
    Realises (NotebookCellService.createCell e n data) d ((Call.createCell n data).refused e d)
      ((Call.createCell n data).effect e d) := by
  change Realises _ d (_ || _ || _ || _) _
  rw [Bool.or_assoc, Bool.or_assoc]
  refine found_realises notebookTable fun r _ => ?_
  refine .guarded (by decide) ?_
  refine .after (a := NotebookCellRepository.cellsOf n d) rfl ?_
  rw [NotebookCellRepository.cellsOf, any_filter_sorted]
  simpa [Database.cellAt] using! Realises.guard (by decide) (create_realises notebookCellTable)

lemma getCell_realises {n k : Uuid} {f : NotebookCell → Tx Database ServiceError α}
    (h : ∀ c, notebookCellTable.find k d = some c → Realises (f c) d b d') :
    Realises (NotebookCellService.getCell n k >>= f) d
      (!d.hasNotebook n || (!d.hasCellIn n k || b)) d' := by
  have hg : NotebookCellService.getCell n k >>= f =
      (notebookTable.getById n >>= orNotFound (NotebookService.notFound n)) >>= fun _ =>
        (notebookCellTable.getById k >>= orNotFound (NotebookCellService.notFoundIn k n)) >>= fun c =>
          refuseIf (c.notebookId ≠ n) 404 (NotebookCellService.notFoundIn k n) >>= fun _ => f c := by
    simp only [NotebookCellService.getCell, NotebookService.getNotebook, NotebookRepository.getById,
      NotebookCellRepository.getById, bind_assoc, pure_bind]
  rw [hg]
  refine found_realises notebookTable fun _ _ => ?_
  cases hc : notebookCellTable.find k d with
  | none =>
    have hr : Realises (notebookCellTable.getById k >>=
        orNotFound (NotebookCellService.notFoundIn k n) >>= fun c =>
          refuseIf (c.notebookId ≠ n) 404 (NotebookCellService.notFoundIn k n) >>= fun _ => f c) d
        (!(notebookCellTable.find k d).isSome || false) d' :=
      found_realises notebookCellTable (by intro r hr; rw [hc] at hr; cases hr)
    simpa [Database.hasCellIn, hc] using hr
  | some c =>
    have hr : Realises (notebookCellTable.getById k >>=
        orNotFound (NotebookCellService.notFoundIn k n) >>= fun c =>
          refuseIf (c.notebookId ≠ n) 404 (NotebookCellService.notFoundIn k n) >>= fun _ => f c) d
        (!(notebookCellTable.find k d).isSome || (decide (c.notebookId ≠ n) || b)) d' := by
      refine found_realises notebookCellTable fun r hr => ?_
      obtain rfl : c = r := by simpa [hc] using hr
      exact .guard (by decide) (h c hc)
    simpa [Database.hasCellIn, hc] using hr

lemma updateCell_realises (n k : Uuid) (data : NotebookCellUpdate) :
    Realises (NotebookCellService.updateCell e n k data) d ((Call.updateCell n k data).refused e d)
      ((Call.updateCell n k data).effect e d) := by
  change Realises _ d (_ || _ || _ || _ || _) _
  rw [Bool.or_assoc, Bool.or_assoc, Bool.or_assoc]
  refine getCell_realises fun c _ => .guardGiven (fun _ => refuseIf_realises _ _ (by decide))
    (.guardGiven (fun position => ?_) (amend_realises notebookCellTable))
  refine .after (a := NotebookCellRepository.cellsOf n d) rfl ?_
  rw [NotebookCellRepository.cellsOf, any_filter_sorted]
  simpa [Database.cellAtBeside] using! refuseIf_realises _ _ (by decide)

lemma deleteCell_realises (n k : Uuid) :
    Realises (NotebookCellService.deleteCell n k) d ((Call.deleteCell n k).refused e d)
      ((Call.deleteCell n k).effect e d) := by
  have h : Realises (NotebookCellService.getCell n k >>= fun _ =>
      NotebookCellRepository.delete k >>= fun deleted =>
        refuseIf (!deleted) 404 (NotebookCellService.notFound k)) d
      (!d.hasNotebook n || (!d.hasCellIn n k || false)) ((Call.deleteCell n k).effect e d) :=
    getCell_realises fun c hc =>
      .of_performs (a := ()) (bind_ok (notebookCellTable.delete_found (s := .open d) hc))
  rw [Bool.or_false] at h
  exact h

lemma createOrUpdate_realises (n : Uuid) (configuration : Json) :
    Realises (NotebookMetadataRepository.createOrUpdate e n configuration) d
      (if d.hasMetadata n then
        amendRefused notebookMetadataTable notebookMetadataClash n
          (NotebookMetadataRepository.assign configuration) (NotebookMetadataRepository.stamp e) d
      else notebookMetadataTable.occupied notebookMetadataClash
        (NotebookMetadataRepository.row e n configuration) d)
      (if d.hasMetadata n then
        amend notebookMetadataTable n (NotebookMetadataRepository.assign configuration)
          (NotebookMetadataRepository.stamp e) d
      else notebookMetadataTable.append (NotebookMetadataRepository.row e n configuration) d) := by
  cases hf : notebookMetadataTable.find n d with
  | none =>
    have hu : notebookMetadataTable.update notebookMetadataClash ServiceError.integrityError n
        (NotebookMetadataRepository.assign configuration) (NotebookMetadataRepository.stamp e)
        (.open d) = (.ok none, .open d) := notebookMetadataTable.update_missing hf
    simp only [Database.hasMetadata, hf, Option.isSome_none, Bool.false_eq_true, if_false]
    refine .after hu ?_
    cases ho : notebookMetadataTable.occupied notebookMetadataClash
        (NotebookMetadataRepository.row e n configuration) d with
    | true => exact .of_rejects ⟨_, by decide, notebookMetadataTable.insert_refused ho⟩
    | false => exact .of_performs (notebookMetadataTable.insert_accepted (s := .open d) ho)
  | some m =>
    simp only [Database.hasMetadata, hf, Option.isSome_some, if_true, amendRefused, amend]
    by_cases ha : NotebookMetadataRepository.assign configuration m = m
    · have hu : notebookMetadataTable.update notebookMetadataClash ServiceError.integrityError n
          (NotebookMetadataRepository.assign configuration) (NotebookMetadataRepository.stamp e)
          (.open d) = (.ok (some m), .open d) := notebookMetadataTable.update_idle hf ha
      simp only [ha, ne_eq, not_true_eq_false, decide_false, Bool.false_and, if_true]
      exact .of_performs (a := m) (bind_ok hu)
    · simp only [ha, ne_eq, not_false_eq_true, decide_true, Bool.true_and, if_false]
      cases hc : notebookMetadataClash d (NotebookMetadataRepository.stamp e
          (NotebookMetadataRepository.assign configuration m)) with
      | true =>
        have hu : notebookMetadataTable.update notebookMetadataClash ServiceError.integrityError n
            (NotebookMetadataRepository.assign configuration) (NotebookMetadataRepository.stamp e)
            (.open d) = (.error .integrityError, .open d) :=
          notebookMetadataTable.update_refused hf ha hc
        exact .of_rejects ⟨_, by decide, bind_error hu⟩
      | false =>
        exact .of_performs (bind_ok (notebookMetadataTable.update_accepted (s := .open d) hf ha hc))

lemma updateMetadata_realises (n : Uuid) (data : NotebookMetadataUpdate) :
    Realises (NotebookMetadataService.updateMetadata e n data) d
      ((Call.updateNotebookMetadata n data).refused e d)
      ((Call.updateNotebookMetadata n data).effect e d) :=
  found_realises notebookTable fun _ _ => createOrUpdate_realises e n data.configuration

lemma getMetadata_realises (n : Uuid) :
    Realises (NotebookMetadataService.getMetadata n) d ((Call.getNotebookMetadata n).refused e d) d := by
  refine found_realises notebookTable fun _ _ => ?_
  have h : Realises (notebookMetadataTable.getById n >>=
      orNotFound (NotebookMetadataService.notFound n) >>= pure) d
      (!(notebookMetadataTable.find n d).isSome || false) d :=
    found_realises notebookMetadataTable fun r _ => .of_performs (a := r) rfl
  simpa [Database.hasMetadata] using! h

theorem route_realises (c : Call) : Realises (route e c) d (c.refused e d) (c.effect e d) := by
  cases c with
  | createWorkspace data => exact (createWorkspace_realises e data).map _
  | listWorkspaces => exact .of_performs (a := ⟨200, .workspaceList _⟩) rfl
  | getWorkspace k => exact reads_realises workspaceTable (fun w _ => ⟨200, .workspace w⟩) fun _ _ => rfl
  | updateWorkspace k data => exact (updateWorkspace_realises e k data).map _
  | deleteWorkspace k => exact (deleteWorkspace_realises e k).map _
  | createProject w data => exact (createProject_realises e w data).map _
  | listProjectsInWorkspace w =>
    have h : Realises (ProjectService.listProjectsByWorkspace w) d (!d.hasWorkspace w) d :=
      reads_realises workspaceTable (fun _ => ProjectRepository.projectsOf w) fun _ _ => rfl
    exact h.map _
  | getProject k => exact reads_realises projectTable (fun p _ => ⟨200, .project p⟩) fun _ _ => rfl
  | updateProject k data => exact (updateProject_realises e k data).map _
  | deleteProject k => exact (deleteProject_realises e k).map _
  | createNotebook p data => exact (createNotebook_realises e p data).map _
  | listNotebooksInProject p =>
    have h : Realises (NotebookService.listNotebooksByProject p) d (!d.hasProject p) d :=
      reads_realises projectTable (fun _ => NotebookRepository.notebooksOf p) fun _ _ => rfl
    exact h.map _
  | getNotebook k =>
    exact reads_realises notebookTable (fun n d => ⟨200, .notebookDetail n
      (NotebookCellRepository.cellsOf k d) (notebookMetadataTable.find k d)⟩) fun _ _ => rfl
  | updateNotebook k data => exact (updateNotebook_realises e k data).map _
  | deleteNotebook k => exact (deleteNotebook_realises e k).map _
  | createCell n data => exact (createCell_realises e n data).map _
  | listCellsInNotebook n =>
    have h : Realises (NotebookCellService.listCellsByNotebook n) d (!d.hasNotebook n) d :=
      reads_realises notebookTable (fun _ => NotebookCellRepository.cellsOf n) fun _ _ => rfl
    exact h.map _
  | getCell n k =>
    have h : Realises (NotebookCellService.getCell n k >>= fun c =>
        (pure ⟨200, .cell c⟩ : Tx Database ServiceError Response)) d
        (!d.hasNotebook n || (!d.hasCellIn n k || false)) d :=
      getCell_realises fun c _ => .of_performs (a := ⟨200, .cell c⟩) rfl
    rw [Bool.or_false] at h
    exact h
  | updateCell n k data => exact (updateCell_realises e n k data).map _
  | deleteCell n k => exact (deleteCell_realises e n k).map _
  | getNotebookMetadata n => exact (getMetadata_realises e n).map _
  | updateNotebookMetadata n data => exact (updateMetadata_realises e n data).map _

theorem handle_realises (d : Database) (r : Request) :
    Realises (handle r) d (r.refused d) (r.effect d) :=
  .guard (by decide) (route_realises r.env r.call)

end Routes

end NotebookExecution.Store
