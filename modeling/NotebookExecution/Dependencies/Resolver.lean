import NotebookExecution.Library.Text

/-! Validation of package names and version specifiers, and the resolver that brings a list of them
into one requirement for each package. -/

namespace NotebookExecution.Dependencies

open Library.Text

inductive DependencyFailure
  | validation (packageName reason : String)
  | resolution (message : String)
  | installation (operationId details : String)
  | timeout (operationId timeoutSeconds : String)
  | runtime (message : String)
  | typeError (message : String)
  | integrityError
  deriving DecidableEq

def DependencyFailure.text : DependencyFailure → String
  | .validation packageName reason =>
    "Invalid dependency configuration for '" ++ packageName ++ "': " ++ reason
  | .resolution message => "Dependency resolution error: " ++ message
  | .installation operationId details =>
    "Dependency installation failed for operation '" ++ operationId ++ "': " ++ details
  | .timeout operationId timeoutSeconds =>
    "Dependency installation timed out for operation '" ++ operationId ++ "' after " ++ timeoutSeconds ++ "s."
  | .runtime message | .typeError message => message
  | .integrityError => "UNIQUE constraint failed: dependency_operations.operation_id"

namespace DependencyValidator

def forbiddenNameChars : List Char := ";&|$\x60\n\r\\/()\x7b\x7d<>!= ".toList

def isNameChar (c : Char) : Bool := isAlphanumeric c || c = '_' || c = '-' || c = '.'

def isPackageName (l : List Char) : Bool :=
  -- `^[a-zA-Z0-9]([a-zA-Z0-9_\-\.]*[a-zA-Z0-9])?$` on a text without line breaks.
  l.all isNameChar && l.head?.any isAlphanumeric && l.getLast?.any isAlphanumeric

def validatePackageName (packageName : String) : Except DependencyFailure String :=
  -- The forbidden characters are a set; which of several is named first is left open there.
  if packageName = "" then
    .error (.validation packageName "Package name must be a non-empty string.")
  else
    let name := strip packageName
    match forbiddenNameChars.find? fun c => name.toList.contains c with
    | some c =>
      .error (.validation name ("Package name contains forbidden character '" ++ c.toString ++ "'."))
    | none =>
      if isPackageName name.toList then .ok name
      else .error (.validation name ("Package name must contain only alphanumeric characters, hyphens, " ++
        "underscores, or dots, and start/end with an alphanumeric character."))

def forbiddenSpecifierChars : List Char := ";&|$\x60\n\r\\/()\x7b\x7d!".toList

def isBareVersion (l : List Char) : Bool :=
  -- `^[0-9]+(\.[0-9a-zA-Z]+)*$`
  match l.splitOn '.' with
  | head :: parts => isNumber head && parts.all fun w => !w.isEmpty && w.all isAlphanumeric
  | [] => false

def afterOperator : List Char → Option (List Char)
  -- `==|>=|<=|>|<|~=|!=` and what follows.
  | '=' :: '=' :: l => some l
  | '>' :: '=' :: l => some l
  | '<' :: '=' :: l => some l
  | '~' :: '=' :: l => some l
  | '!' :: '=' :: l => some l
  | '>' :: l => some l
  | '<' :: l => some l
  | _ => none

def isVersionChar (c : Char) : Bool := isNameChar c || c = '*'

def isClause (l : List Char) : Bool :=
  -- `\s*(op)\s*([a-zA-Z0-9_\-\.\*]+)\s*`
  match afterOperator (l.dropWhile isSpace) with
  | some rest =>
    let version := ((rest.dropWhile isSpace).reverse.dropWhile isSpace).reverse
    !version.isEmpty && version.all isVersionChar
  | none => false

def isVersionSpecifier (l : List Char) : Bool := (l.splitOn ',').all isClause

def validateVersionSpecifier (specifier : Option String) : Except DependencyFailure (Option String) :=
  match specifier with
  | none => .ok none
  | some text =>
    if strip text = "" then .ok none
    else
      let spec := strip text
      match forbiddenSpecifierChars.find? fun c => spec.toList.contains c with
      | some c =>
        .error (.validation spec ("Version specifier contains forbidden character '" ++ c.toString ++ "'."))
      | none =>
        let spec := if isBareVersion spec.toList then "==" ++ spec else spec
        if isVersionSpecifier spec.toList then .ok (some spec)
        else .error (.validation spec ("Version specifier must be a valid Python specifier " ++
          "(e.g. '==2.2.3', '>=2.0', '>=2.0,<3.0')."))

def formatRequirement (packageName : String) (versionSpecifier : Option String) :
    Except DependencyFailure String := do
  let validName ← validatePackageName packageName
  match ← validateVersionSpecifier versionSpecifier with
  | some validSpec => pure (validName ++ validSpec)
  | none => pure validName

example : (validatePackageName " scikit-learn ").toOption = some "scikit-learn" := by decide
example : (validatePackageName "pandas; rm").toOption = none := by decide
example : (validateVersionSpecifier (some "2.2.3")).toOption = some (some "==2.2.3") := by decide
example : (validateVersionSpecifier (some ">=2.0 , <3.0")).toOption = some (some ">=2.0 , <3.0") := by decide

end DependencyValidator

namespace DependencyResolver

open DependencyValidator

/-- An item of the list: a text, a dictionary with its two values, or anything else as it prints. -/
inductive PackageItem
  | text (s : String)
  | entry (packageName versionSpecifier : Option String)
  | other (printed : String)

structure Resolved where
  packageName : String
  versionSpecifier : String
  requirement : String
  deriving DecidableEq

def splitText : List Char → List Char × Option (List Char)
  -- `item.split("==", 1)`
  | [] => ([], none)
  | '=' :: '=' :: l => ([], some l)
  | c :: l => ((c :: (splitText l).1), (splitText l).2)

def parts : PackageItem → Except DependencyFailure (Option String × Option String)
  | .text s =>
    let p := splitText s.toList
    .ok (some (String.ofList p.1), p.2.map fun v => "==" ++ String.ofList v)
  | .entry packageName versionSpecifier => .ok (packageName, versionSpecifier)
  | .other printed => .error (.resolution ("Invalid package specifier format: " ++ printed))

def canonicalName (validName : String) : String :=
  String.ofList ((lower validName).toList.map fun c => if c = '_' then '-' else c)

abbrev ResolvedMap := List (String × Resolved)

def setItem (k : String) (v : Resolved) : ResolvedMap → ResolvedMap
  | [] => [(k, v)]
  | x :: m => if x.1 = k then (k, v) :: m else x :: setItem k v m

def conflicts (existing : Option Resolved) (validSpec : Option String) : Option (String × String) :=
  match existing, validSpec with
  | some r, some spec =>
    if r.versionSpecifier ≠ "" ∧ r.versionSpecifier ≠ spec then some (r.versionSpecifier, spec) else none
  | _, _ => none

def resolveItem (m : ResolvedMap) (item : PackageItem) : Except DependencyFailure ResolvedMap := do
  let p ← parts item
  match p.1.filter fun name => name ≠ "" with
  | none => .error (.validation "" "Missing required 'package_name' in dependency list.")
  | some pkgName =>
    let validName ← validatePackageName pkgName
    let validSpec ← validateVersionSpecifier p.2
    match conflicts (m.lookup (canonicalName validName)) validSpec with
    | some (existing, spec) =>
      .error (.resolution ("Conflicting version constraints for package '" ++ validName ++ "': '" ++
        existing ++ "' vs '" ++ spec ++ "'."))
    | none =>
      let requirement ← formatRequirement validName validSpec
      pure (setItem (canonicalName validName) ⟨validName, validSpec.getD "", requirement⟩ m)

def resolveRequirements (packages : List PackageItem) : Except DependencyFailure (List Resolved) := do
  let m ← packages.foldlM resolveItem []
  pure (m.map Prod.snd)

end DependencyResolver

end NotebookExecution.Dependencies
