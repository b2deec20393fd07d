import NotebookExecution.Integrity.Growth

/-! The deletions and their cascades: what they delete goes with everything that refers to it by a
declared reference, and nothing else does. -/

namespace NotebookExecution.Integrity

open Library.Transaction Library.Table Library.References Store
open Schema (Gone gone_iff)

variable {E : Jobs.Environment} {d : Database} {a : Address}

lemma gone_root {x : Row} (h : ¬ x.Declared ∨ x.parent = none) :
    Gone schema (rows d) a x ↔ a ∈ x.address := by
  rw [gone_iff]
  apply or_iff_left
  rintro ⟨hd, b, hb, -⟩
  cases h with
  | inl h => exact h hd
  | inr h =>
    change b ∈ x.parent at hb
    rw [h] at hb
    cases hb

lemma gone_child {ρ κ : Type} {T : TableOf Database ρ κ} {mk : ρ → Row} {at_ : κ → Address} {x : Row}
    {k : κ} (ha : Addressed T mk at_) (h : Holds T mk) (hd : x.Declared) (hp : x.parent = some (at_ k)) :
    Gone schema (rows d) a x ↔
      a ∈ x.address ∨ ∃ r ∈ T.rows d, T.key r = k ∧ Gone schema (rows d) a (mk r) := by
  rw [gone_iff]
  apply or_congr_right
  rw [← exists_at ha h]
  constructor
  · rintro ⟨-, b, hb, hq⟩
    obtain rfl : at_ k = b := Option.mem_unique hp hb
    exact hq
  · intro hq
    exact ⟨hd, at_ k, hp, hq⟩

lemma gone_workspace {w : Workspace} : Gone schema (rows d) a (.workspace w) ↔ .workspace w.id = a := by
  rw [gone_root (Or.inr rfl)]
  exact Option.some.injEq _ _ ▸ Iff.rfl

lemma gone_project {p : Project} : Gone schema (rows d) a (.project p) ↔
    .project p.id = a ∨ ∃ w ∈ d.workspaces, w.id = p.workspaceId ∧ .workspace w.id = a := by
  rw [gone_child (x := .project p) addressed_workspace holds_workspace trivial rfl]
  simp only [gone_workspace, Row.address, Option.mem_def, Option.some.injEq]
  exact Iff.rfl

lemma gone_notebook {n : Notebook} : Gone schema (rows d) a (.notebook n) ↔
    .notebook n.id = a ∨ ∃ p ∈ d.projects, p.id = n.projectId ∧ Gone schema (rows d) a (.project p) := by
  rw [gone_child (x := .notebook n) addressed_project holds_project trivial rfl]
  simp only [Row.address, Option.mem_def, Option.some.injEq]
  exact Iff.rfl

def GoneNotebook (d : Database) (a : Address) (k : Uuid) : Prop :=
  ∃ n ∈ d.notebooks, n.id = k ∧ Gone schema (rows d) a (.notebook n)

lemma gone_content {x : Row} {k : Uuid} (hd : x.Declared) (hp : x.parent = some (.notebook k))
    (ha : a ∉ x.address) : Gone schema (rows d) a x ↔ GoneNotebook d a k := by
  rw [gone_child addressed_notebook holds_notebook hd hp, or_iff_right ha]
  exact Iff.rfl

/-! ## The cascades -/

def Container : Address → Prop
  | .workspace _ | .project _ | .notebook _ => True
  | _ => False

lemma rows_cascade {gone : Uuid → Bool} {ws : List Workspace} {ps : List Project} {ns : List Notebook}
    (ha : Container a) (hgone : ∀ k, gone k = true ↔ GoneNotebook d a k)
    (hws : ∀ w, w ∈ ws ↔ w ∈ d.workspaces ∧ ¬ Gone schema (rows d) a (.workspace w))
    (hps : ∀ p, p ∈ ps ↔ p ∈ d.projects ∧ ¬ Gone schema (rows d) a (.project p))
    (hns : ∀ n, n ∈ ns ↔ n ∈ d.notebooks ∧ ¬ Gone schema (rows d) a (.notebook n)) :
    rows (cascadeNotebook gone { d with workspaces := ws, projects := ps, notebooks := ns }) =
      schema.delete a (rows d) := by
  have hfree (k : Uuid) :
      a ≠ .notebookCell k ∧ a ≠ .notebookMetadata k ∧ a ≠ .notebookDependency k ∧ a ≠ .job k := by
    cases a <;> first | exact ha.elim | exact ⟨nofun, nofun, nofun, nofun⟩
  have hkept (k : Uuid) : (!gone k) = true ↔ ¬ GoneNotebook d a k := by
    rw [← hgone, Bool.not_eq_true', Bool.not_eq_true]
  ext x
  change _ ↔ x ∈ rows d ∧ ¬ Gone schema (rows d) a x
  cases x with
  | workspace w => exact hws w
  | project p => exact hps p
  | notebook n => exact hns n
  | notebookCell c =>
    have ha' : a ∉ (Row.notebookCell c).address := fun h => (hfree c.id).1 (Option.some.inj h).symm
    rw [gone_content (x := .notebookCell c) trivial rfl ha', ← hkept]
    exact List.mem_filter
  | notebookMetadata m =>
    have ha' : a ∉ (Row.notebookMetadata m).address :=
      fun h => (hfree m.notebookId).2.1 (Option.some.inj h).symm
    rw [gone_content (x := .notebookMetadata m) trivial rfl ha', ← hkept]
    exact List.mem_filter
  | executionOutput o =>
    cases ho : o.notebookId with
    | none =>
      have hp : (Row.executionOutput o).parent = none := by rw [Row.parent, ho]; rfl
      rw [gone_root (Or.inr hp)]
      change o ∈ d.executionOutputs.filter _ ↔ o ∈ d.executionOutputs ∧ _
      simp [ho]
    | some k =>
      have hp : (Row.executionOutput o).parent = some (.notebook k) := by rw [Row.parent, ho]; rfl
      rw [gone_content (x := .executionOutput o) trivial hp (fun h => by cases h), ← hkept]
      change o ∈ d.executionOutputs.filter _ ↔ o ∈ d.executionOutputs ∧ _
      simp [ho]
  | notebookDependency y =>
    have ha' : a ∉ (Row.notebookDependency y).address := fun h => (hfree y.id).2.2.1 (Option.some.inj h).symm
    rw [gone_content (x := .notebookDependency y) trivial rfl ha', ← hkept]
    exact List.mem_filter
  | dependencyOperation y =>
    rw [gone_content (x := .dependencyOperation y) trivial rfl (fun h => by cases h), ← hkept]
    exact List.mem_filter
  | job j =>
    rw [gone_root (x := .job j) (Or.inl id)]
    exact (and_iff_left fun h => (hfree j.id).2.2.2 (Option.some.inj h).symm).symm
  | jobExecution h =>
    rw [gone_root (x := .jobExecution h) (Or.inl id)]
    exact (and_iff_left fun h => by cases h).symm

lemma rows_deleteNotebook {k : Uuid} (h : ∃ n ∈ d.notebooks, n.id = k) :
    rows (cascadeNotebook (· = k) (notebookTable.drop k d)) = schema.delete (.notebook k) (rows d) := by
  have hgone (n : Notebook) : Gone schema (rows d) (.notebook k) (.notebook n) ↔ n.id = k := by
    simp [gone_notebook, gone_project]
  apply rows_cascade (d := d) (a := .notebook k) trivial
  · intro j
    simp only [GoneNotebook, hgone, decide_eq_true_eq]
    constructor
    · rintro rfl
      obtain ⟨n, hn, hk⟩ := h
      exact ⟨n, hn, hk, hk⟩
    · rintro ⟨n, -, rfl, hn⟩
      exact hn
  · simp [gone_workspace]
  · simp [gone_project]
  · intro n
    rw [hgone]
    exact mem_erase

lemma rows_deleteProject {k : Uuid} (h : ∃ p ∈ d.projects, p.id = k) :
    rows (cascadeProject (· = k) (projectTable.drop k d)) = schema.delete (.project k) (rows d) := by
  have hproject (p : Project) : Gone schema (rows d) (.project k) (.project p) ↔ p.id = k := by
    simp [gone_project]
  have hgone (n : Notebook) : Gone schema (rows d) (.project k) (.notebook n) ↔ n.projectId = k := by
    simp only [gone_notebook, hproject, reduceCtorEq, false_or]
    constructor
    · rintro ⟨p, -, hp, hk⟩
      exact hp.symm.trans hk
    · rintro rfl
      obtain ⟨p, hp, hk⟩ := h
      exact ⟨p, hp, hk, hk⟩
  rw [cascadeProject]
  apply rows_cascade (d := d) (a := .project k) trivial
  · intro j
    change d.notebooks.any _ = true ↔ _
    simp [GoneNotebook, hgone]
  · intro w
    change w ∈ d.workspaces ↔ _
    simp [gone_workspace]
  · intro p
    rw [hproject]
    exact mem_erase
  · intro n
    rw [hgone]
    change n ∈ d.notebooks.filter _ ↔ _
    simp

lemma rows_deleteWorkspace {k : Uuid} (h : ∃ w ∈ d.workspaces, w.id = k) :
    rows (cascadeWorkspace (· = k) (workspaceTable.drop k d)) = schema.delete (.workspace k) (rows d) := by
  have hworkspace (w : Workspace) : Gone schema (rows d) (.workspace k) (.workspace w) ↔ w.id = k := by
    simp [gone_workspace]
  have hproject (p : Project) : Gone schema (rows d) (.workspace k) (.project p) ↔ p.workspaceId = k := by
    simp only [gone_project, reduceCtorEq, false_or, Address.workspace.injEq]
    constructor
    · rintro ⟨w, -, hw, hk⟩
      exact hw.symm.trans hk
    · rintro rfl
      obtain ⟨w, hw, hk⟩ := h
      exact ⟨w, hw, hk, hk⟩
  have hgone (n : Notebook) : Gone schema (rows d) (.workspace k) (.notebook n) ↔
      ∃ p ∈ d.projects, p.id = n.projectId ∧ p.workspaceId = k := by
    simp only [gone_notebook, hproject, reduceCtorEq, false_or]
  rw [cascadeWorkspace, cascadeProject]
  apply rows_cascade (d := d) (a := .workspace k) trivial
  · intro j
    change d.notebooks.any (fun n => n.id = j && d.projects.any _) = true ↔ _
    simp [GoneNotebook, hgone]
  · intro w
    rw [hworkspace]
    exact mem_erase
  · intro p
    rw [hproject]
    change p ∈ d.projects.filter _ ↔ _
    simp
  · intro n
    rw [hgone]
    change n ∈ d.notebooks.filter (fun n => !d.projects.any _) ↔ _
    simp

lemma Holds.rows_drop {ρ κ : Type} [DecidableEq κ] {T : TableOf Database ρ κ} {mk : ρ → Row}
    {at_ : κ → Address} {k : κ} (h : Holds T mk) (ha : Addressed T mk at_)
    (hn : ∀ x : Row, x.Declared → x.parent ≠ some (at_ k)) :
    rows (T.drop k d) = schema.delete (at_ k) (rows d) := by
  have hgone (x : Row) : Gone schema (rows d) (at_ k) x ↔ at_ k ∈ x.address := by
    constructor
    · intro hg
      induction hg with
      | self hx => exact hx
      | child declared parent mem address hg ih =>
        obtain rfl := Option.mem_unique address ih
        exact absurd parent (hn _ declared)
    · intro hx
      exact Gone.self (S := schema) hx
  ext x
  rw [h.mem_drop]
  change _ ↔ x ∈ rows d ∧ ¬ Gone schema (rows d) (at_ k) x
  rw [hgone, ha]

lemma absent {ρ κ : Type} [DecidableEq κ] {T : TableOf Database ρ κ} {mk : ρ → Row} {at_ : κ → Address}
    {k : κ} (h : Holds T mk) (ha : Addressed T mk at_) (hf : T.find k d = none) :
    ∀ p ∈ rows d, at_ k ∉ p.address := by
  intro p hp hpa
  obtain ⟨r, rfl, hk⟩ := (ha _ _).mp hpa
  exact lookup_none.mp hf r ((h.mem _ _).mp hp) hk

lemma delete_absent (h : ∀ p ∈ rows d, a ∉ p.address) : schema.delete a (rows d) = rows d := by
  have hgone (x : Row) (hg : Gone schema (rows d) a x) : x ∈ rows d → False := by
    induction hg with
    | self hx => exact fun hm => h _ hm hx
    | child declared parent mem address hg ih => exact fun _ => ih mem
  ext x
  exact and_iff_left_of_imp fun hm hg => hgone x hg hm

lemma Holds.rows_delete {ρ κ ε : Type} [DecidableEq κ] {T : TableOf Database ρ κ} {mk : ρ → Row}
    {at_ : κ → Address} {k : κ} (h : Holds T mk) (ha : Addressed T mk at_)
    (hn : ∀ x : Row, x.Declared → x.parent ≠ some (at_ k)) :
    rows (request d (T.delete k id : Tx Database ε Bool)).2 = schema.delete (at_ k) (rows d) := by
  cases hf : T.find k d with
  | none =>
    have hp : (request d (T.delete k id : Tx Database ε Bool)).2 = d := request_ok (T.delete_missing hf)
    rw [hp, delete_absent (absent h ha hf)]
  | some r =>
    have hp : (request d (T.delete k id : Tx Database ε Bool)).2 = T.drop k d :=
      request_ok (T.delete_found hf)
    rw [hp, h.rows_drop ha hn]

lemma perform_deletes_found {ρ : Type} {T : TableOf Database ρ Uuid} {mk : ρ → Row} {at_ : Uuid → Address}
    {q : Request} {k : Uuid} (h : Holds T mk) (ha : Addressed T mk at_)
    (hrefused : q.refused d = !(T.find k d).isSome)
    (heffect : (∃ r ∈ T.rows d, T.key r = k) → rows (q.effect d) = schema.delete (at_ k) (rows d)) :
    rows (perform E d (.store q)) = schema.delete (at_ k) (rows d) := by
  rw [perform_store, hrefused]
  cases hf : T.find k d with
  | none =>
    rw [delete_absent (absent h ha hf)]
    rfl
  | some r => exact heffect ⟨r, lookup_mem hf, lookup_key hf⟩

lemma store_deletes {q : Request} (h : (Operation.store q).deletes = some a) :
    rows (perform E d (.store q)) = schema.delete a (rows d) ∨
      perform E d (.store q) = d ∧ ∃ k, a = .notebookCell k := by
  obtain ⟨e, call⟩ := q
  cases call with
  | deleteWorkspace k =>
    cases h
    exact Or.inl (perform_deletes_found holds_workspace addressed_workspace rfl rows_deleteWorkspace)
  | deleteProject k =>
    cases h
    exact Or.inl (perform_deletes_found holds_project addressed_project rfl rows_deleteProject)
  | deleteNotebook k =>
    cases h
    exact Or.inl (perform_deletes_found holds_notebook addressed_notebook rfl rows_deleteNotebook)
  | deleteCell n k =>
    cases h
    rw [perform_store]
    cases (Request.mk e (.deleteCell n k)).refused d with
    | true => exact Or.inr ⟨rfl, k, rfl⟩
    | false =>
      apply Or.inl
      apply holds_notebookCell.rows_drop addressed_notebookCell
      intro x _ hx
      cases x <;> simp at hx
  | _ => cases h

theorem perform_deletes {op : Operation} (h : op.deletes = some a) :
    rows (perform E d op) = schema.delete a (rows d) ∨
      perform E d op = d ∧ ∃ k, a = .notebookCell k := by
  cases op with
  | store q => exact store_deletes h
  | deleteMetadata k =>
    cases h
    apply Or.inl
    apply holds_notebookMetadata.rows_delete addressed_notebookMetadata
    intro x _ hx
    cases x <;> simp at hx
  | deleteDependency k =>
    cases h
    apply Or.inl
    apply holds_notebookDependency.rows_delete addressed_notebookDependency
    intro x _ hx
    cases x <;> simp at hx
  | job c =>
    cases c with
    | deleteJob k =>
      cases h
      apply Or.inl
      have hrows : rows (jobTable.drop k d) = schema.delete (.job k) (rows d) := by
        apply holds_job.rows_drop addressed_job
        intro x hx hp
        cases x <;> simp at hp hx
      cases hf : jobTable.find k d with
      | none =>
        rw [delete_absent (absent holds_job addressed_job hf)] at hrows ⊢
        cases Jobs.perform_deleteJob_cases E d k with
        | inl hp =>
          change rows (Jobs.perform E d (.deleteJob k)) = _
          rw [hp, hrows]
        | inr hp =>
          change rows (Jobs.perform E d (.deleteJob k)) = _
          rw [hp]
      | some job =>
        have hg : Jobs.JobManager.getJob k (.open d) = (.ok job, .open d) := Jobs.getJob_found hf
        have hr : Jobs.JobManager.deleteJob k (.open d) = (.ok true, ⟨d, jobTable.drop k d⟩) :=
          (bind_ok hg).trans (jobTable.delete_found hf)
        have hp : perform E d (.job (.deleteJob k)) = jobTable.drop k d := request_ok hr
        rw [hp, hrows]
    | _ => cases h
  | _ => cases h

end NotebookExecution.Integrity
