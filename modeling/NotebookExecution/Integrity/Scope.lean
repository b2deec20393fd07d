import NotebookExecution.Dependencies.Routes
import NotebookExecution.Integrity.Rows
import NotebookExecution.Output.Repositories
import NotebookExecution.Store.Routes

/-! The routes nested under a notebook, addressed at what is not its own. Five of the six look for the
notebook in the row they find. -/

namespace NotebookExecution.Integrity

open Library.Transaction Library.Table Store

variable {e : Env} {d : Database} {n c k : Uuid}

inductive NestedCall
  | getCell (cellId : Uuid)
  | updateCell (cellId : Uuid) (data : NotebookCellUpdate)
  | deleteCell (cellId : Uuid)
  | getCellOutputs (cellId : String)
  | updateDependency (dependencyId : Uuid) (versionSpecifier : Option String)
  | deleteDependency (dependencyId : Uuid)

inductive NestedBody
  | store (body : Body)
  | outputs (items : List ExecutionOutput)
  | dependency (x : NotebookDependency)

structure NestedResponse where
  statusCode : ℕ
  body : NestedBody

def ofStore (r : Response) : NestedResponse := ⟨r.statusCode, .store r.body⟩

def nestedRoute (e : Env) (n : Uuid) : NestedCall → Tx Database ServiceError NestedResponse
  | .getCell k => do pure (ofStore (← handle ⟨e, .getCell n k⟩))
  | .updateCell k data => do pure (ofStore (← handle ⟨e, .updateCell n k data⟩))
  | .deleteCell k => do pure (ofStore (← handle ⟨e, .deleteCell n k⟩))
  | .getCellOutputs k => do pure ⟨200, .outputs (← Output.getCellOutputs n k)⟩
  | .updateDependency k versionSpecifier => do
    pure ⟨200, .dependency (← Dependencies.updateDependency e n k versionSpecifier)⟩
  | .deleteDependency k => do
    Dependencies.deleteDependency n k
    pure ⟨204, .store .noContent⟩

def nestedAnswer : Except ServiceError NestedResponse → NestedResponse
  | .ok r => r
  | .error err => ofStore err.response

def serveNested (e : Env) (d : Database) (n : Uuid) (call : NestedCall) : NestedResponse × Session Database :=
  let outcome := nestedRoute e n call (.open d)
  (nestedAnswer outcome.1, outcome.2)

def bodyRows : Body → List Row
  | .detail _ | .noContent => []
  | .workspace w => [.workspace w]
  | .workspaceList items => items.map .workspace
  | .project p => [.project p]
  | .projectList items => items.map .project
  | .notebook n => [.notebook n]
  | .notebookList items => items.map .notebook
  | .notebookDetail n cells metadata =>
    .notebook n :: cells.map .notebookCell ++ metadata.toList.map .notebookMetadata
  | .cell c => [.notebookCell c]
  | .cellList items => items.map .notebookCell
  | .metadata m => [.notebookMetadata m]

def NestedBody.rows : NestedBody → List Row
  | .store body => bodyRows body
  | .outputs items => items.map .executionOutput
  | .dependency x => [.notebookDependency x]

/-- The database without what is stored for other notebooks. An output whose notebook is NULL is
nobody's and stays. -/
def onlyOf (n : Uuid) (d : Database) : Database :=
  { d with
    notebooks := d.notebooks.filter fun x => x.id = n
    notebookCells := d.notebookCells.filter fun x => x.notebookId = n
    notebookMetadata := d.notebookMetadata.filter fun x => x.notebookId = n
    executionOutputs := d.executionOutputs.filter fun x => x.notebookId.all (· = n)
    notebookDependencies := d.notebookDependencies.filter fun x => x.notebookId = n
    dependencyOperations := d.dependencyOperations.filter fun x => x.notebookId = n
    jobs := d.jobs.filter fun x => x.notebookId = n
    jobExecutions := d.jobExecutions.filter fun x => d.jobs.all fun j => j.id ≠ x.jobId ∨ j.notebookId = n }

/-- The answer has no row of another notebook, and is the answer of a database that has none: not even
its status or its text comes from one. -/
structure Scoped (e : Env) (d : Database) (n : Uuid) (call : NestedCall) : Prop where
  own : ∀ x ∈ (serveNested e d n call).1.body.rows, ∀ k, .notebook k ∈ x.parent → k = n
  independent : (serveNested e d n call).1 = (serveNested e (onlyOf n d) n call).1
  unchanged : (serveNested e d n call).2 = .open d

def Foreign (d : Database) (n : Uuid) : NestedCall → Prop
  | .getCell k | .updateCell k _ | .deleteCell k => ∀ x ∈ d.notebookCells, x.id = k → x.notebookId ≠ n
  | .getCellOutputs k => ∀ x ∈ d.notebookCells, toString x.id = k → x.notebookId ≠ n
  | .updateDependency k _ | .deleteDependency k =>
    ∀ x ∈ d.notebookDependencies, x.id = k → x.notebookId ≠ n

/-- No output under the identifier of the cell is stored for another notebook; an output whose notebook
is NULL is stored for none. -/
def Withheld (d : Database) (n : Uuid) : NestedCall → Prop
  | .getCellOutputs k => ∀ o ∈ d.executionOutputs, o.cellId = some k → ∀ j ∈ o.notebookId, j = n
  | _ => True

def cellMissing (d : Database) (n k : Uuid) : ServiceError :=
  if (notebookTable.find n d).isSome then .http 404 (NotebookCellService.notFoundIn k n)
  else .http 404 (NotebookService.notFound n)

lemma getCell_foreign (h : ∀ x ∈ d.notebookCells, x.id = k → x.notebookId ≠ n) :
    NotebookCellService.getCell n k (.open d) = (.error (cellMissing d n k), .open d) := by
  have hn : (NotebookRepository.getById n : Tx Database ServiceError _) (.open d) =
    (.ok (notebookTable.find n d), .open d) := rfl
  have hc : (NotebookCellRepository.getById k : Tx Database ServiceError _) (.open d) =
    (.ok (notebookCellTable.find k d), .open d) := rfl
  rw [NotebookCellService.getCell, cellMissing]
  cases hf : notebookTable.find n d with
  | none =>
    apply bind_error
    rw [NotebookService.getNotebook, bind_ok hn, hf]
    rfl
  | some nb =>
    have hg : NotebookService.getNotebook n (.open d) = (.ok nb, .open d) := by
      rw [NotebookService.getNotebook, bind_ok hn, hf]
      rfl
    rw [bind_ok hg, bind_ok hc]
    cases hx : notebookCellTable.find k d with
    | none => rfl
    | some x =>
      have hp : (orNotFound (NotebookCellService.notFoundIn k n) (some x)) (.open d) = (.ok x, .open d) := rfl
      exact (bind_ok hp).trans (bind_error (refuseIf_true
        (decide_eq_true (h x (lookup_mem hx) (lookup_key hx))) _))

def refusal (d : Database) (n : Uuid) : NestedCall → Option ServiceError
  | .getCell k | .deleteCell k => some (cellMissing d n k)
  | .updateCell k data =>
    if (Call.updateCell n k data).schemaOk then some (cellMissing d n k)
    else some (.http 422 "Request validation failed.")
  | .getCellOutputs _ => none
  | .updateDependency k versionSpecifier =>
    if Dependencies.versionSpecifierOk versionSpecifier then
      some (.http 404 (Dependencies.dependencyNotFound k n))
    else some (.http 422 "Request validation failed.")
  | .deleteDependency k => some (.http 404 (Dependencies.dependencyNotFound k n))

lemma dependency_foreign (h : ∀ x ∈ d.notebookDependencies, x.id = k → x.notebookId ≠ n) :
    Dependencies.ownDependency n k (.open d) =
      (.error (.http 404 (Dependencies.dependencyNotFound k n)), .open d) :=
  Dependencies.ownDependency_foreign fun x hx => h x (lookup_mem hx) (lookup_key hx)

lemma nestedRoute_foreign {call : NestedCall} {err : ServiceError} (h : Foreign d n call)
    (hr : refusal d n call = some err) : nestedRoute e n call (.open d) = (.error err, .open d) := by
  cases call with
  | getCell k =>
    cases hr
    exact bind_error ((bind_ok (refuseIf_false rfl _)).trans (bind_error (getCell_foreign h)))
  | updateCell k data =>
    have hc : NotebookCellService.updateCell e n k data (.open d) = (.error (cellMissing d n k), .open d) :=
      bind_error (getCell_foreign h)
    rw [refusal] at hr
    split_ifs at hr with hs
    · cases hr
      exact bind_error ((bind_ok (refuseIf_false (by simp [hs]) _)).trans (bind_error hc))
    · cases hr
      exact bind_error (bind_error (refuseIf_true (by simp [hs]) _))
  | deleteCell k =>
    cases hr
    exact bind_error ((bind_ok (refuseIf_false rfl _)).trans (bind_error (bind_error (getCell_foreign h))))
  | getCellOutputs k => cases hr
  | updateDependency k versionSpecifier =>
    rw [refusal] at hr
    split_ifs at hr with hs
    · cases hr
      exact bind_error ((bind_ok (refuseIf_false (by simp [hs]) _)).trans (bind_error (dependency_foreign h)))
    · cases hr
      exact bind_error (bind_error (refuseIf_true (by simp [hs]) _))
  | deleteDependency k =>
    cases hr
    exact bind_error (bind_error (dependency_foreign h))

lemma foreign_onlyOf {call : NestedCall} (h : Foreign d n call) : Foreign (onlyOf n d) n call := by
  cases call <;> exact fun x hx => h x (List.mem_of_mem_filter hx)

lemma find_notebook_onlyOf : (notebookTable.find n (onlyOf n d)).isSome = (notebookTable.find n d).isSome := by
  have hs : ((d.notebooks.filter fun x => x.id = n).find? fun x => x.id = n) =
      d.notebooks.find? fun x => x.id = n := by
    rw [List.find?_filter]
    apply congrArg (List.find? · d.notebooks)
    funext x
    simp only [and_self, Bool.decide_eq_true]
  exact congrArg Option.isSome hs

lemma refusal_onlyOf {call : NestedCall} : refusal (onlyOf n d) n call = refusal d n call := by
  cases call <;> simp only [refusal, cellMissing, find_notebook_onlyOf]

lemma scoped_of_refusal {call : NestedCall} {err : ServiceError} (h : Foreign d n call)
    (hr : refusal d n call = some err) : Scoped e d n call := by
  have hd : serveNested e d n call = (ofStore err.response, .open d) := by
    rw [serveNested, nestedRoute_foreign h hr]
    rfl
  have ho : serveNested e (onlyOf n d) n call = (ofStore err.response, .open (onlyOf n d)) := by
    rw [serveNested, nestedRoute_foreign (foreign_onlyOf h) (refusal_onlyOf.trans hr)]
    rfl
  constructor
  · rw [hd]
    cases err <;> exact fun x hx => (List.not_mem_nil hx).elim
  · rw [hd, ho]
  · rw [hd]

lemma serve_getCellOutputs {k : String} : serveNested e d n (.getCellOutputs k) =
    (⟨200, .outputs (Output.ExecutionOutputRepository.outputsOfCell k d)⟩, .open d) := rfl

lemma mem_outputsOfCell {k : String} {o : ExecutionOutput} :
    o ∈ Output.ExecutionOutputRepository.outputsOfCell k d ↔ o ∈ d.executionOutputs ∧ o.cellId = some k := by
  rw [Output.ExecutionOutputRepository.outputsOfCell, List.mem_insertionSort, List.mem_filter, decide_eq_true_eq]

lemma outputsOfCell_onlyOf {k : String} (h : Withheld d n (.getCellOutputs k)) :
    Output.ExecutionOutputRepository.outputsOfCell k (onlyOf n d) =
      Output.ExecutionOutputRepository.outputsOfCell k d := by
  rw [Output.ExecutionOutputRepository.outputsOfCell, Output.ExecutionOutputRepository.outputsOfCell]
  apply congrArg (List.insertionSort _)
  rw [onlyOf, List.filter_filter]
  apply List.filter_congr
  intro o ho
  by_cases hk : o.cellId = some k
  · have hn : o.notebookId.all (· = n) = true := by
      rw [Option.all_eq_true]
      intro j hj
      exact decide_eq_true (h o ho hk j hj)
    rw [hn, Bool.and_true]
  · rw [decide_eq_false hk, Bool.false_and]

lemma scoped_outputs_iff {k : String} :
    Scoped e d n (.getCellOutputs k) ↔ Withheld d n (.getCellOutputs k) := by
  constructor
  · intro hs o ho hk j hj
    have hm : Row.executionOutput o ∈ (serveNested e d n (.getCellOutputs k)).1.body.rows :=
      List.mem_map_of_mem (mem_outputsOfCell.mpr ⟨ho, hk⟩)
    exact hs.own _ hm j (Option.mem_map_of_mem _ hj)
  · intro hw
    constructor
    · intro x hx j hj
      rw [serve_getCellOutputs] at hx
      obtain ⟨o, ho, rfl⟩ := List.mem_map.mp hx
      obtain ⟨hm, hk⟩ := mem_outputsOfCell.mp ho
      obtain ⟨i, hi, he⟩ := Option.mem_map.mp hj
      cases he
      exact hw o hm hk j hi
    · rw [serve_getCellOutputs, serve_getCellOutputs, outputsOfCell_onlyOf hw]
    · rfl

lemma refusal_cases (d : Database) (n : Uuid) (call : NestedCall) :
    (∃ err, refusal d n call = some err ∧ Withheld d n call) ∨ ∃ k, call = .getCellOutputs k := by
  cases call with
  | getCellOutputs k => exact Or.inr ⟨k, rfl⟩
  | updateCell k data =>
    rw [refusal]
    split_ifs
    · exact Or.inl ⟨_, rfl, trivial⟩
    · exact Or.inl ⟨_, rfl, trivial⟩
  | updateDependency k versionSpecifier =>
    rw [refusal]
    split_ifs
    · exact Or.inl ⟨_, rfl, trivial⟩
    · exact Or.inl ⟨_, rfl, trivial⟩
  | _ => exact Or.inl ⟨_, rfl, trivial⟩

theorem nested_scoped_iff {call : NestedCall} (h : Foreign d n call) : Scoped e d n call ↔ Withheld d n call := by
  obtain ⟨err, hr, hw⟩ | ⟨k, rfl⟩ := refusal_cases d n call
  · exact iff_of_true (scoped_of_refusal h hr) hw
  · exact scoped_outputs_iff

def shown : ExecutionOutput := ⟨7, "run", "session", some 4, some (toString 6), .stdout, "secret\n", 0, none, 0⟩

def neighbours : Database :=
  { Database.empty with
    workspaces := [⟨1, "w", none, 0, 0⟩]
    projects := [⟨2, 1, "p", none, 0, 0⟩]
    notebooks := [⟨3, 2, "mine", none, "python", 0, 0⟩, ⟨4, 2, "theirs", none, "python", 0, 0⟩]
    notebookCells := [⟨6, 4, 0, "code", "print('secret')", 0, 0⟩]
    executionOutputs := [shown] }

lemma foreign_neighbours : ∀ x ∈ neighbours.notebookCells, x.notebookId ≠ 3 := by
  intro x hx
  obtain rfl := List.mem_singleton.mp hx
  decide

theorem neighbour_cell_scoped : Scoped ⟨8, 0⟩ neighbours 3 (.getCell 6) := by
  have hf : Foreign neighbours 3 (.getCell 6) := fun x hx _ => foreign_neighbours x hx
  exact (nested_scoped_iff hf).mpr trivial

theorem neighbour_outputs_shown : Foreign neighbours 3 (.getCellOutputs (toString 6)) ∧
    ¬ Scoped ⟨8, 0⟩ neighbours 3 (.getCellOutputs (toString 6)) := by
  constructor
  · exact fun x hx _ => foreign_neighbours x hx
  · intro h
    have hw := scoped_outputs_iff.mp h
    have h4 : (4 : Uuid) = 3 := hw shown (List.mem_singleton_self shown) rfl 4 rfl
    exact absurd h4 (by decide)

end NotebookExecution.Integrity
