import NotebookExecution.Dependencies.Manager
import NotebookExecution.Store.Services

/-! The routes that address one declared dependency of a notebook. -/

namespace NotebookExecution.Dependencies

open Library.Transaction Library.Table Store

variable {α : Type}

def versionSpecifierOk (versionSpecifier : Option String) : Bool := versionSpecifier.all (·.length ≤ 255)

def orBadRequest (p : Tx Database DependencyFailure α) : Tx Database ServiceError α := fun s =>
  -- A refused text is answered 400 after a rollback, and anything else is an internal error.
  match p s with
  | (.ok a, t) => (.ok a, t)
  | (.error (.validation packageName reason), t) =>
    (do
      rollback
      httpError 400 (DependencyFailure.validation packageName reason).text) t
  | (.error _, t) => (.error .integrityError, t)

def dependencyNotFound (dependencyId notebookId : Uuid) : String :=
  s!"Dependency '{dependencyId}' not found for notebook '{notebookId}'."

def ownDependency (notebookId dependencyId : Uuid) : Tx Database ServiceError NotebookDependency := do
  let dep ← orNotFound (dependencyNotFound dependencyId notebookId)
    (← NotebookDependencyRepository.getById dependencyId)
  refuseIf (dep.notebookId ≠ notebookId) 404 (dependencyNotFound dependencyId notebookId)
  pure dep

section Ownership

variable {d : Database} {notebookId k : Uuid} {x : NotebookDependency}

lemma ownDependency_own (hx : notebookDependencyTable.find k d = some x) (hb : x.notebookId = notebookId) :
    ownDependency notebookId k (.open d) = (.ok x, .open d) := by
  have hg : (NotebookDependencyRepository.getById k : Tx Database ServiceError _) (.open d) =
    (.ok (notebookDependencyTable.find k d), .open d) := rfl
  have hp : (orNotFound (dependencyNotFound k notebookId) (some x)) (.open d) = (.ok x, .open d) := rfl
  rw [ownDependency, bind_ok hg, hx, bind_ok hp, bind_ok (refuseIf_false (by simp [hb]) _)]
  rfl

lemma ownDependency_foreign (h : ∀ x, notebookDependencyTable.find k d = some x → x.notebookId ≠ notebookId) :
    ownDependency notebookId k (.open d) =
      (.error (.http 404 (dependencyNotFound k notebookId)), .open d) := by
  have hg : (NotebookDependencyRepository.getById k : Tx Database ServiceError _) (.open d) =
    (.ok (notebookDependencyTable.find k d), .open d) := rfl
  rw [ownDependency, bind_ok hg]
  cases hx : notebookDependencyTable.find k d with
  | none => rfl
  | some x =>
    have hp : (orNotFound (dependencyNotFound k notebookId) (some x)) (.open d) = (.ok x, .open d) := rfl
    exact (bind_ok hp).trans (bind_error (refuseIf_true (decide_eq_true (h x hx)) _))

end Ownership

def updateDependency (e : Env) (notebookId dependencyId : Uuid) (versionSpecifier : Option String) :
    Tx Database ServiceError NotebookDependency := do
  refuseIf (!versionSpecifierOk versionSpecifier) 422 "Request validation failed."
  let _ ← ownDependency notebookId dependencyId
  orBadRequest do
    let updated ← NotebookDependencyRepository.update e dependencyId versionSpecifier
    commit
    match updated with
    | some x => pure x
    | none => throw (.typeError "Input should be a valid dictionary or object to extract fields from")

namespace Routes

def packageNameOk (packageName : String) : Bool := packageName.length ≤ 255

def declareDependency (e : Env) (notebookId : Uuid) (packageName : String)
    (versionSpecifier : Option String) : Tx Database ServiceError NotebookDependency := do
  refuseIf (!(packageNameOk packageName && versionSpecifierOk versionSpecifier)) 422
    "Request validation failed."
  orBadRequest do
    let dep ← DependencyManager.declareDependency e notebookId packageName versionSpecifier
    commit
    match dep with
    | some x => pure x
    | none => throw (.typeError "Input should be a valid dictionary or object to extract fields from")

end Routes

def deleteDependency (notebookId dependencyId : Uuid) : Tx Database ServiceError Unit := do
  let _ ← ownDependency notebookId dependencyId
  let _ ← DependencyManager.deleteDependency dependencyId
  commit

end NotebookExecution.Dependencies
