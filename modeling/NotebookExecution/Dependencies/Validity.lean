import NotebookExecution.Dependencies.Declarations
import NotebookExecution.Dependencies.Routes

/-! What the requests on dependencies store, and what an installation builds from it. As for the
declarations, `takes` says of a name and a specifier whether the columns take them. -/

namespace NotebookExecution.Dependencies

open Library.Runs Library.Text Library.Transaction Library.Table Store DependencyManager
  DependencyResolver DependencyValidator NotebookDependencyRepository

/-! ## A validator returns unchanged what a validator has returned -/

namespace DependencyValidator

lemma validatePackageName_ok {packageName name : String} (h : validatePackageName packageName = .ok name) :
    name = strip packageName ∧
      (forbiddenNameChars.find? fun c => name.toList.contains c) = none ∧ isPackageName name.toList = true := by
  rw [validatePackageName] at h
  split at h
  · cases h
  · dsimp only at h
    cases hf : forbiddenNameChars.find? fun c => (strip packageName).toList.contains c with
    | some c =>
      rw [hf] at h
      cases h
    | none =>
      rw [hf] at h
      dsimp only at h
      split at h
      · next hp =>
        cases h
        exact ⟨rfl, hf, hp⟩
      · cases h

lemma strip_validName {packageName name : String} (h : validatePackageName packageName = .ok name) :
    strip name = name := by
  rw [(validatePackageName_ok h).1, strip_strip]

lemma validName_ne_empty {packageName name : String} (h : validatePackageName packageName = .ok name) :
    name ≠ "" := by
  rintro rfl
  exact absurd (validatePackageName_ok h).2.2 (by decide)

lemma validatePackageName_idem {packageName name : String}
    (h : validatePackageName packageName = .ok name) : validatePackageName name = .ok name := by
  obtain ⟨-, hf, hp⟩ := validatePackageName_ok h
  rw [validatePackageName, if_neg (validName_ne_empty h), strip_validName h]
  dsimp only
  rw [hf]
  exact if_pos hp

def withOperator (spec : String) : String := if isBareVersion spec.toList then "==" ++ spec else spec

lemma validateVersionSpecifier_cases {text : String} {o : Option String}
    (h : validateVersionSpecifier (some text) = .ok o) :
    strip text = "" ∧ o = none ∨
      strip text ≠ "" ∧ o = some (withOperator (strip text)) ∧
        (forbiddenSpecifierChars.find? fun c => (strip text).toList.contains c) = none ∧
        isVersionSpecifier (withOperator (strip text)).toList = true := by
  rw [validateVersionSpecifier] at h
  split at h
  · next he =>
    cases h
    exact Or.inl ⟨he, rfl⟩
  · next hne =>
    dsimp only at h
    cases hf : forbiddenSpecifierChars.find? fun c => (strip text).toList.contains c with
    | some c =>
      rw [hf] at h
      cases h
    | none =>
      rw [hf] at h
      change (if isVersionSpecifier (withOperator (strip text)).toList = true then
        Except.ok (some (withOperator (strip text))) else _) = _ at h
      by_cases hv : isVersionSpecifier (withOperator (strip text)).toList = true
      · rw [if_pos hv, Except.ok.injEq] at h
        exact Or.inr ⟨hne, h.symm, rfl, hv⟩
      · rw [if_neg hv] at h
        cases h

lemma validateVersionSpecifier_ok {specifier : Option String} {spec : String}
    (h : validateVersionSpecifier specifier = .ok (some spec)) :
    ∃ text, specifier = some text ∧ strip text ≠ "" ∧ spec = withOperator (strip text) ∧
      (forbiddenSpecifierChars.find? fun c => (strip text).toList.contains c) = none ∧
      isVersionSpecifier spec.toList = true := by
  cases specifier with
  | none => cases h
  | some text =>
    rcases validateVersionSpecifier_cases h with ⟨-, hn⟩ | ⟨hne, ho, hf, hv⟩
    · cases hn
    · rw [Option.some.injEq] at ho
      rw [← ho] at hv
      exact ⟨text, rfl, hne, ho, hf, hv⟩

lemma isBareVersion_operator {c : Char} (hc : c ≠ '.' ∧ isDigit c = false) (l : List Char) :
    isBareVersion (c :: l) = false := by
  rw [isBareVersion, List.splitOn_cons_eq_if_modifyHead]
  rw [if_neg (by simpa using hc.1)]
  cases hl : l.splitOn '.' with
  | nil => rfl
  | cons w parts =>
    simp [List.modifyHead, isNumber, hc.2]

lemma stripped_operator {s : String} (h : Stripped s) (hs : s ≠ "") : Stripped ("==" ++ s) := by
  have hne : s.toList ≠ [] := fun hl => hs (String.toList_eq_nil_iff.mp hl)
  rw [Stripped, String.toList_append]
  constructor
  · intro c hc
    cases hc
    decide
  · intro c hc
    rw [List.getLast?_append_of_ne_nil _ hne] at hc
    exact h.2 c hc

lemma stripped_withOperator {text : String} (hne : strip text ≠ "") :
    Stripped (withOperator (strip text)) := by
  rw [withOperator]
  split
  · exact stripped_operator (stripped_strip text) hne
  · exact stripped_strip text

lemma strip_validSpecifier {specifier : Option String} {spec : String}
    (h : validateVersionSpecifier specifier = .ok (some spec)) : strip spec = spec := by
  obtain ⟨text, -, hne, hspec, -⟩ := validateVersionSpecifier_ok h
  rw [hspec]
  exact (stripped_withOperator hne).strip_eq

lemma validateVersionSpecifier_idem {specifier spec : Option String}
    (h : validateVersionSpecifier specifier = .ok spec) : validateVersionSpecifier spec = .ok spec := by
  cases spec with
  | none => rfl
  | some spec =>
    obtain ⟨text, -, hne, hspec, hf, hv⟩ := validateVersionSpecifier_ok h
    rw [hspec] at hv ⊢
    -- The operator is only put before a bare version, and a specifier with an operator is none.
    have hkept : withOperator (strip text) ≠ "" ∧ isBareVersion (withOperator (strip text)).toList = false ∧
        (forbiddenSpecifierChars.find? fun c => (withOperator (strip text)).toList.contains c) = none := by
      rw [withOperator]
      split
      · next hb =>
        refine ⟨?_, ?_, ?_⟩
        · intro he
          have hl := congrArg String.length he
          simp at hl
        · rw [String.toList_append]
          exact isBareVersion_operator (by decide) _
        · rw [List.find?_eq_none] at hf ⊢
          intro c hc
          have hcs := hf c hc
          have hce : c ≠ '=' := by
            rintro rfl
            exact absurd hc (by decide)
          rw [String.toList_append]
          simpa [hce] using hcs
      · next hb => exact ⟨hne, by simpa using hb, hf⟩
    obtain ⟨hne', hb, hf'⟩ := hkept
    rw [validateVersionSpecifier, (stripped_withOperator hne).strip_eq, if_neg hne']
    dsimp only
    rw [hf']
    simp only [hb, Bool.false_eq_true, if_false, hv, if_true]

lemma formatRequirement_valid {name : String} {spec : Option String}
    (hn : validatePackageName name = .ok name) (hs : validateVersionSpecifier spec = .ok spec) :
    formatRequirement name spec = .ok (name ++ spec.getD "") := by
  rw [formatRequirement, hn, hs]
  cases spec with
  | none => exact congrArg Except.ok (String.append_empty).symm
  | some spec => rfl

end DependencyValidator

lemma except_ok_bind {ε α β : Type} (a : α) (k : α → Except ε β) : (Except.ok a >>= k) = k a := rfl

lemma except_bind_ok {ε α β : Type} {x : Except ε α} {k : α → Except ε β} {b : β} (h : (x >>= k) = .ok b) :
    ∃ a, x = .ok a ∧ k a = .ok b := by
  cases x with
  | error err => cases h
  | ok a => exact ⟨a, rfl, h⟩

def Valid (x : NotebookDependency) : Prop :=
  validatePackageName x.packageName = .ok x.packageName ∧
    validateVersionSpecifier x.versionSpecifier = .ok x.versionSpecifier

def requirements (notebookId : Uuid) (d : Database) : Except DependencyFailure (List Resolved) :=
  resolveRequirements (items (packagesPayload (dependenciesOf notebookId d)))

def Checked (r : Resolved) : Prop := ∃ packageName name specifier spec,
  validatePackageName packageName = .ok name ∧ validateVersionSpecifier specifier = .ok spec ∧
    r.requirement = name ++ spec.getD ""

structure Buildable (notebookId : Uuid) (d : Database) : Prop where
  accepted : ∀ name reason, requirements notebookId d ≠ .error (.validation name reason)
  checked : ∀ rs, requirements notebookId d = .ok rs → ∀ r ∈ rs, Checked r

def itemOf (x : NotebookDependency) : PackageItem :=
  .entry (some x.packageName) (some (x.versionSpecifier.getD ""))

lemma parts_itemOf (x : NotebookDependency) :
    parts (itemOf x) = .ok (some x.packageName, some (x.versionSpecifier.getD "")) := rfl

lemma mem_setItem {k : String} {v : Resolved} {m : ResolvedMap} {p : String × Resolved}
    (h : p ∈ setItem k v m) : p = (k, v) ∨ p ∈ m := by
  induction m with
  | nil => exact Or.inl (List.mem_singleton.mp h)
  | cons q m ih =>
    rw [setItem] at h
    split at h
    · exact (List.mem_cons.mp h).imp_right (List.mem_cons_of_mem _)
    · cases List.mem_cons.mp h with
      | inl hq => exact Or.inr (List.mem_cons.mpr (Or.inl hq))
      | inr hm => exact (ih hm).imp_right (List.mem_cons_of_mem _)

lemma validate_sent {spec : Option String} (h : validateVersionSpecifier spec = .ok spec) :
    validateVersionSpecifier (some (spec.getD "")) = .ok spec := by
  cases spec with
  | none => decide
  | some spec => exact h

lemma resolveItem_parts {item : PackageItem} {p : Option String × Option String} {pkgName name : String}
    {spec : Option String} (m : ResolvedMap) (hp : parts item = .ok p)
    (hf : p.1.filter (fun name => name ≠ "") = some pkgName) (hn : validatePackageName pkgName = .ok name)
    (hs : validateVersionSpecifier p.2 = .ok spec) :
    (conflicts (m.lookup (canonicalName name)) spec ≠ none ∧
        ∃ message, resolveItem m item = .error (.resolution message)) ∨
      conflicts (m.lookup (canonicalName name)) spec = none ∧
        resolveItem m item =
          .ok (setItem (canonicalName name) ⟨name, spec.getD "", name ++ spec.getD ""⟩ m) := by
  cases hc : conflicts (m.lookup (canonicalName name)) spec with
  | some c =>
    refine Or.inl ⟨by simp, ?_⟩
    simp only [resolveItem, hp, except_ok_bind, hf, hn, hs, hc]
    exact ⟨_, rfl⟩
  | none =>
    have hr := formatRequirement_valid (validatePackageName_idem hn) (validateVersionSpecifier_idem hs)
    refine Or.inr ⟨rfl, ?_⟩
    simp only [resolveItem, hp, except_ok_bind, hf, hn, hs, hc, hr]
    rfl

lemma resolveItem_valid {x : NotebookDependency} {m : ResolvedMap} (hx : Valid x)
    (hm : ∀ p ∈ m, Checked p.2) :
    (∃ message, resolveItem m (itemOf x) = .error (.resolution message)) ∨
      ∃ m', resolveItem m (itemOf x) = .ok m' ∧ ∀ p ∈ m', Checked p.2 := by
  obtain ⟨hn, hs⟩ := hx
  have hne : x.packageName ≠ "" := by
    intro he
    rw [he] at hn
    exact absurd hn (by decide)
  have hf : (some x.packageName).filter (fun name => name ≠ "") = some x.packageName := by
    simp [hne]
  rcases resolveItem_parts m (parts_itemOf x) hf hn (validate_sent hs) with ⟨-, he⟩ | ⟨-, hr⟩
  · exact Or.inl he
  · refine Or.inr ⟨_, hr, ?_⟩
    intro p hp
    cases mem_setItem hp with
    | inl he =>
      rw [he]
      exact ⟨_, _, _, _, hn, hs, rfl⟩
    | inr hp => exact hm p hp

lemma resolveItems_valid {l : List NotebookDependency} {m : ResolvedMap} (hl : ∀ x ∈ l, Valid x)
    (hm : ∀ p ∈ m, Checked p.2) :
    (∃ message, (l.map itemOf).foldlM resolveItem m = .error (.resolution message)) ∨
      ∃ m', (l.map itemOf).foldlM resolveItem m = .ok m' ∧ ∀ p ∈ m', Checked p.2 := by
  induction l generalizing m with
  | nil => exact Or.inr ⟨m, rfl, hm⟩
  | cons x l ih =>
    rw [List.map_cons, List.foldlM_cons]
    rcases resolveItem_valid (hl x List.mem_cons_self) hm with ⟨message, he⟩ | ⟨m', he, hm'⟩
    · rw [he]
      exact Or.inl ⟨message, rfl⟩
    · rw [he]
      exact ih (fun y hy => hl y (List.mem_cons_of_mem _ hy)) hm'

lemma buildable_of_valid {d : Database} (h : ∀ x ∈ d.notebookDependencies, Valid x) (notebookId : Uuid) :
    Buildable notebookId d := by
  have hl : ∀ x ∈ dependenciesOf notebookId d, Valid x := by
    intro x hx
    rw [dependenciesOf, List.mem_insertionSort] at hx
    exact h x (List.mem_of_mem_filter hx)
  have hi : items (packagesPayload (dependenciesOf notebookId d)) =
      (dependenciesOf notebookId d).map itemOf := by
    rw [items, packagesPayload, List.map_map]
    rfl
  have hr : requirements notebookId d =
      ((dependenciesOf notebookId d).map itemOf).foldlM resolveItem [] >>= fun m => pure (m.map Prod.snd) := by
    rw [requirements, hi]
    rfl
  rcases resolveItems_valid hl (m := []) (fun p hp => absurd hp List.not_mem_nil) with
    ⟨message, he⟩ | ⟨m, he, hm⟩
  · rw [he] at hr
    refine ⟨fun name reason h => ?_, fun rs h => ?_⟩
    · rw [hr] at h
      cases h
    · rw [hr] at h
      cases h
  · rw [he] at hr
    refine ⟨fun name reason h => ?_, fun rs h r hrs => ?_⟩
    · rw [hr] at h
      cases h
    · rw [hr] at h
      cases h
      obtain ⟨p, hp, rfl⟩ := List.mem_map.mp hrs
      exact hm p hp

/-! ## Requests -/

inductive DependencyCall
  | declareDependency (e : Env) (notebookId : Uuid) (packageName : String)
      (versionSpecifier : Option String)
  | updateDependency (e : Env) (notebookId dependencyId : Uuid) (versionSpecifier : Option String)
  | deleteDependency (notebookId dependencyId : Uuid)

/-- What a request comes to that answers with the row it has written. -/
def writing (takes : String → Option String → Bool) (d : Database)
    (p : Tx Database ServiceError NotebookDependency) : Database :=
  (storing (fun x => takes x.packageName x.versionSpecifier) d (inSession d p)).2

def DependencyCall.perform (takes : String → Option String → Bool) (d : Database) :
    DependencyCall → Database
  | .declareDependency e notebookId packageName versionSpecifier =>
    writing takes d (Routes.declareDependency e notebookId packageName versionSpecifier)
  | .updateDependency e notebookId dependencyId versionSpecifier =>
    writing takes d (Dependencies.updateDependency e notebookId dependencyId versionSpecifier)
  | .deleteDependency notebookId dependencyId =>
    (inSession d (Dependencies.deleteDependency notebookId dependencyId)).2

def dependencyStep (takes : String → Option String → Bool) (d : Database) (c : DependencyCall) :
    Option Database :=
  some (c.perform takes d)

structure StoredValid (d : Database) : Prop where
  rows : ∀ x ∈ d.notebookDependencies, Valid x
  buildable : ∀ notebookId, Buildable notebookId d

/-- An update that gets as far as its row, with a text that the column takes, brings one that the
validator returns unchanged. -/
def Validated (takes : String → Option String → Bool) (d : Database) : DependencyCall → Prop
  | .updateDependency _ notebookId dependencyId versionSpecifier =>
    versionSpecifierOk versionSpecifier = true → ∀ x ∈ d.notebookDependencies,
      x.id = dependencyId → x.notebookId = notebookId → takes x.packageName versionSpecifier = true →
        validateVersionSpecifier versionSpecifier = .ok versionSpecifier
  | _ => True

variable {takes : String → Option String → Bool} {d : Database} {e : Env} {notebookId k : Uuid} {packageName : String}
  {versionSpecifier : Option String}

lemma storedValid_of_rows (h : ∀ x ∈ d.notebookDependencies, Valid x) : StoredValid d :=
  ⟨h, buildable_of_valid h⟩

lemma writing_congr {p q : Tx Database ServiceError NotebookDependency} (h : p (.open d) = q (.open d)) :
    writing takes d p = writing takes d q := by
  rw [writing, writing, inSession, inSession, h]

lemma writing_ok {p : Tx Database ServiceError NotebookDependency} {x : NotebookDependency}
    {s : Session Database} (h : p (.open d) = (.ok x, s)) :
    writing takes d p = if takes x.packageName x.versionSpecifier then s.committed else d := by
  rw [writing, inSession, h, storing]
  split <;> rfl

lemma writing_error {p : Tx Database ServiceError NotebookDependency} {err : ServiceError}
    {s : Session Database} (h : p (.open d) = (.error err, s)) : writing takes d p = s.committed := by
  rw [writing, inSession, h]
  rfl

lemma orBadRequest_error {α : Type} {p : Tx Database DependencyFailure α} {err : DependencyFailure}
    {s t : Session Database} (h : p s = (.error err, t)) :
    ∃ err' u, orBadRequest p s = (.error err', u) ∧ u.committed = t.committed := by
  rw [orBadRequest, h]
  cases err <;> exact ⟨_, _, rfl, rfl⟩

lemma orBadRequest_committed {α : Type} (p : Tx Database DependencyFailure α) (s : Session Database) :
    (orBadRequest p s).2.committed = (p s).2.committed := by
  obtain ⟨r, t, h⟩ : ∃ r t, p s = (r, t) := ⟨_, _, rfl⟩
  cases r with
  | ok a =>
    rw [orBadRequest, h]
  | error err =>
    obtain ⟨err', u, hu, hcommitted⟩ := orBadRequest_error h
    rw [hu, h, hcommitted]

def rowOf : Option NotebookDependency → Tx Database DependencyFailure NotebookDependency
  | some x => pure x
  | none => throw (.typeError "Input should be a valid dictionary or object to extract fields from")

lemma writing_orBadRequest {p : Tx Database DependencyFailure (Option NotebookDependency)}
    (hp : Keeps (fun s => s.committed = d) p) :
    writing takes d (orBadRequest (p >>= fun dep => commit >>= fun _ => rowOf dep)) =
      (storeDependency takes d (request d p)).2 := by
  obtain ⟨r, s, hr⟩ : ∃ r s, p (.open d) = (r, s) := ⟨_, _, rfl⟩
  cases r with
  | ok a =>
    have hc : (p >>= fun dep => commit >>= fun _ => rowOf dep) (.open d) = rowOf a ⟨s.view, s.view⟩ := bind_ok hr
    rw [request_returns hr]
    cases a with
    | some x =>
      have ho : orBadRequest (p >>= fun dep => commit >>= fun _ => rowOf dep) (.open d) =
          (.ok x, ⟨s.view, s.view⟩) := by
        rw [orBadRequest, hc]
        rfl
      rw [writing_ok ho, storeDependency_some]
      split <;> rfl
    | none =>
      obtain ⟨err', u, hu, hcommitted⟩ := orBadRequest_error hc
      rw [writing_error hu, hcommitted]
      rfl
  | error err =>
    have hs : s.committed = d := by
      have hc := hp (.open d) rfl
      rwa [hr] at hc
    obtain ⟨err', u, hu, hcommitted⟩ := orBadRequest_error (bind_error hr)
    rw [writing_error hu, hcommitted, request_raises hr hs]
    exact hs

lemma insert_uncommitted {x : NotebookDependency} :
    Keeps (fun s => s.committed = d)
      (notebookDependencyTable.insert notebookDependencyClash DependencyFailure.integrityError x) :=
  notebookDependencyTable.insert_keeps fun _ hs _ => hs

lemma update_uncommitted : Keeps (fun s => s.committed = d)
    (NotebookDependencyRepository.update e k versionSpecifier) :=
  notebookDependencyTable.update_keeps fun _ _ hs _ _ => hs

lemma declare_uncommitted : Keeps (fun s => s.committed = d)
    (DependencyManager.declareDependency e notebookId packageName versionSpecifier) := by
  refine .bind (.ofExcept _) fun validName => .bind (.ofExcept _) fun validSpec => .bind (fun _ hs => hs) ?_
  intro existing
  cases existing with
  | some x => exact update_uncommitted
  | none => exact .bind insert_uncommitted fun x => .pure (some x)

lemma perform_declareDependency :
    DependencyCall.perform takes d (.declareDependency e notebookId packageName versionSpecifier) = d ∨
      DependencyCall.perform takes d (.declareDependency e notebookId packageName versionSpecifier) =
        (declare takes d e notebookId packageName versionSpecifier).2 := by
  rw [DependencyCall.perform]
  cases hv : Routes.packageNameOk packageName && versionSpecifierOk versionSpecifier with
  | false => exact Or.inl (writing_error (bind_error (refuseIf_true (by simp [hv]) _)))
  | true =>
    have hw : writing takes d (Routes.declareDependency e notebookId packageName versionSpecifier) =
        writing takes d (orBadRequest (DependencyManager.declareDependency e notebookId packageName
          versionSpecifier >>= fun dep => commit >>= fun _ => rowOf dep)) :=
      writing_congr (bind_ok (refuseIf_false (by simp [hv]) _))
    exact Or.inr (hw.trans (writing_orBadRequest declare_uncommitted))

lemma perform_updateDependency {x : NotebookDependency} (hv : versionSpecifierOk versionSpecifier = true)
    (hf : notebookDependencyTable.find k d = some x) (hb : x.notebookId = notebookId) :
    DependencyCall.perform takes d (.updateDependency e notebookId k versionSpecifier) =
      (storeDependency takes d (request d (NotebookDependencyRepository.update e k versionSpecifier))).2 := by
  have hw : writing takes d (Dependencies.updateDependency e notebookId k versionSpecifier) =
      writing takes d (orBadRequest (NotebookDependencyRepository.update e k versionSpecifier >>=
        fun dep => commit >>= fun _ => rowOf dep)) := by
    apply writing_congr
    rw [Dependencies.updateDependency, bind_ok (refuseIf_false (by simp [hv]) _),
      bind_ok (ownDependency_own hf hb)]
    rfl
  exact hw.trans (writing_orBadRequest update_uncommitted)

lemma perform_updateDependency_refused (h : versionSpecifierOk versionSpecifier = true →
      ∀ x, notebookDependencyTable.find k d = some x → x.notebookId ≠ notebookId) :
    DependencyCall.perform takes d (.updateDependency e notebookId k versionSpecifier) = d := by
  rw [DependencyCall.perform]
  cases hv : versionSpecifierOk versionSpecifier with
  | false => exact writing_error (bind_error (refuseIf_true (by simp [hv]) _))
  | true =>
    have hr : Dependencies.updateDependency e notebookId k versionSpecifier (.open d) =
        (.error (.http 404 (dependencyNotFound k notebookId)), .open d) := by
      rw [Dependencies.updateDependency, bind_ok (refuseIf_false (by simp [hv]) _)]
      exact bind_error (ownDependency_foreign (h hv))
    exact writing_error hr

lemma perform_deleteDependency :
    DependencyCall.perform takes d (.deleteDependency notebookId k) = d ∨
      DependencyCall.perform takes d (.deleteDependency notebookId k) = notebookDependencyTable.drop k d := by
  have hp : DependencyCall.perform takes d (.deleteDependency notebookId k) =
      (Dependencies.deleteDependency notebookId k (.open d)).2.committed := inSession_committed d _
  rw [hp, Dependencies.deleteDependency]
  by_cases h : ∀ x, notebookDependencyTable.find k d = some x → x.notebookId ≠ notebookId
  · rw [bind_error (ownDependency_foreign h)]
    exact Or.inl rfl
  · push Not at h
    obtain ⟨x, hf, hb⟩ := h
    have hd : (DependencyManager.deleteDependency k : Tx Database ServiceError Bool) (.open d) =
      (.ok true, ⟨d, notebookDependencyTable.drop k d⟩) := notebookDependencyTable.delete_found hf
    rw [bind_ok (ownDependency_own hf hb), bind_ok hd]
    exact Or.inr rfl

lemma put_valid {x : NotebookDependency} (h : ∀ y ∈ d.notebookDependencies, Valid y)
    (hx : x ∈ d.notebookDependencies)
    (hs : validateVersionSpecifier versionSpecifier = .ok versionSpecifier) :
    ∀ y ∈ (notebookDependencyTable.put x.id
      (TableOf.settled (assign versionSpecifier) (stamp e) x) d).notebookDependencies, Valid y := by
  intro y hy
  cases notebookDependencyTable.mem_put hy with
  | inl he =>
    have hn : (TableOf.settled (assign versionSpecifier) (stamp e) x).packageName = x.packageName :=
      settled_kept NotebookDependency.packageName (fun _ => rfl) fun _ => rfl
    have hv : (TableOf.settled (assign versionSpecifier) (stamp e) x).versionSpecifier = versionSpecifier :=
      settled_assigned NotebookDependency.versionSpecifier fun _ => rfl
    rw [he, Valid, hn, hv]
    exact ⟨(h x hx).1, hs⟩
  | inr hy => exact h y hy

lemma declare_keeps_valid (hd : DeclaredOnce Prod.mk d) (h : ∀ x ∈ d.notebookDependencies, Valid x) :
    ∀ x ∈ (declare takes d e notebookId packageName versionSpecifier).2.notebookDependencies, Valid x := by
  rcases declare_cases hd e notebookId packageName versionSpecifier with
    he | ⟨name, spec, hn, hs, ⟨x, hx, -, -, he⟩ | ⟨-, -, he⟩⟩
  · rw [he]
    exact h
  · rw [he]
    exact put_valid h hx (validateVersionSpecifier_idem hs)
  · rw [he]
    intro x hx
    cases List.mem_append.mp hx with
    | inl hx => exact h x hx
    | inr hx =>
      rw [List.mem_singleton.mp hx]
      exact ⟨validatePackageName_idem hn, validateVersionSpecifier_idem hs⟩

lemma perform_updateDependency_put {x : NotebookDependency} (hd : DeclaredOnce Prod.mk d)
    (hv : versionSpecifierOk versionSpecifier = true) (hx : x ∈ d.notebookDependencies) :
    DependencyCall.perform takes d (.updateDependency e x.notebookId x.id versionSpecifier) =
      if takes x.packageName versionSpecifier then
        notebookDependencyTable.put x.id (TableOf.settled (assign versionSpecifier) (stamp e) x) d
      else d := by
  have hf : notebookDependencyTable.find x.id d = some x := lookup_of_mem hd.ids hx
  have hu : NotebookDependencyRepository.update e x.id versionSpecifier (.open d) = (.ok (some _), _) :=
    notebookDependencyTable.update_settled hf (hd.updates hx)
  rw [perform_updateDependency hv hf rfl, request_returns hu, storeDependency_some, settled_taken takes]
  split <;> rfl

lemma perform_updateDependency_cases (takes : String → Option String → Bool) (hd : DeclaredOnce Prod.mk d)
    (e : Env) (notebookId k : Uuid) (versionSpecifier : Option String) :
    (∃ x ∈ d.notebookDependencies, versionSpecifierOk versionSpecifier = true ∧ x.id = k ∧
        x.notebookId = notebookId ∧ takes x.packageName versionSpecifier = true ∧
        DependencyCall.perform takes d (.updateDependency e notebookId k versionSpecifier) =
          notebookDependencyTable.put x.id (TableOf.settled (assign versionSpecifier) (stamp e) x) d) ∨
      Validated takes d (.updateDependency e notebookId k versionSpecifier) ∧
        DependencyCall.perform takes d (.updateDependency e notebookId k versionSpecifier) = d := by
  by_cases h : ∃ x ∈ d.notebookDependencies, versionSpecifierOk versionSpecifier = true ∧ x.id = k ∧
      x.notebookId = notebookId
  · obtain ⟨x, hx, hv, rfl, rfl⟩ := h
    rw [perform_updateDependency_put hd hv hx]
    by_cases ht : takes x.packageName versionSpecifier = true
    · exact Or.inl ⟨x, hx, hv, rfl, rfl, ht, if_pos ht⟩
    · refine Or.inr ⟨?_, if_neg ht⟩
      intro _ y hy hk _ hty
      have hyx : y = x := List.inj_on_of_nodup_map hd.ids hy hx hk
      exact absurd (hyx ▸ hty) ht
  · refine Or.inr ⟨?_, ?_⟩
    · intro hv x hx hk hb
      exact absurd ⟨x, hx, hv, hk, hb⟩ h
    · apply perform_updateDependency_refused
      intro hv x hf hb
      exact h ⟨x, lookup_mem hf, hv, lookup_key hf, hb⟩

lemma declaredOnce_kept (hd : DeclaredOnce Prod.mk d) (c : DependencyCall) :
    DeclaredOnce Prod.mk (c.perform takes d) := by
  cases c with
  | declareDependency e notebookId packageName versionSpecifier =>
    cases perform_declareDependency with
    | inl he => exact he.symm ▸ hd
    | inr he =>
      rw [he]
      apply hd.declare
      intro name spec _ _ x _ hp
      exact ⟨congrArg Prod.fst hp, congrArg Prod.snd hp⟩
  | updateDependency e notebookId k versionSpecifier =>
    rcases perform_updateDependency_cases takes hd e notebookId k versionSpecifier with
      ⟨x, hx, -, -, -, -, he⟩ | ⟨-, he⟩
    · exact he.symm ▸ hd.put hx
    · exact he.symm ▸ hd
  | deleteDependency notebookId k =>
    cases perform_deleteDependency with
    | inl he => exact he.symm ▸ hd
    | inr he => exact he.symm ▸ hd.drop

lemma storedValid_iff_validated (hd : DeclaredOnce Prod.mk d) (h : StoredValid d) (c : DependencyCall) :
    StoredValid (c.perform takes d) ↔ Validated takes d c := by
  cases c with
  | declareDependency e notebookId packageName versionSpecifier =>
    refine iff_of_true (storedValid_of_rows ?_) trivial
    cases perform_declareDependency with
    | inl he => exact he.symm ▸ h.rows
    | inr he => exact he.symm ▸ declare_keeps_valid hd h.rows
  | updateDependency e notebookId k versionSpecifier =>
    rcases perform_updateDependency_cases takes hd e notebookId k versionSpecifier with
      ⟨x, hx, hv, rfl, rfl, htaken, he⟩ | ⟨hc, he⟩
    · rw [he]
      constructor
      · intro ht _ _ _ _ _ _
        -- The updated row stands in the table with the text as it came.
        have hm : TableOf.settled (assign versionSpecifier) (stamp e) x ∈ (notebookDependencyTable.put x.id
            (TableOf.settled (assign versionSpecifier) (stamp e) x) d).notebookDependencies :=
          lookup_mem (notebookDependencyTable.find_put_self
            (settled_kept NotebookDependency.id (fun _ => rfl) fun _ => rfl) (lookup_of_mem hd.ids hx))
        have hv : (TableOf.settled (assign versionSpecifier) (stamp e) x).versionSpecifier =
            versionSpecifier := settled_assigned NotebookDependency.versionSpecifier fun _ => rfl
        have hs := (ht.rows _ hm).2
        rwa [hv] at hs
      · intro hc
        exact storedValid_of_rows (put_valid h.rows hx (hc hv x hx rfl rfl htaken))
    · exact iff_of_true (he.symm ▸ h) hc
  | deleteDependency notebookId k =>
    refine iff_of_true (storedValid_of_rows ?_) trivial
    cases perform_deleteDependency with
    | inl he => exact he.symm ▸ h.rows
    | inr he =>
      rw [he]
      intro x hx
      exact h.rows x (mem_erase.mp hx).1

theorem stored_dependencies_valid_iff (takes : String → Option String → Bool) (d : Database)
    (calls : List DependencyCall) :
    Along (dependencyStep takes) (fun _ _ t => StoredValid t) { d with notebookDependencies := [] } calls ↔
      Along (dependencyStep takes) (fun s c _ => Validated takes s c)
        { d with notebookDependencies := [] } calls := by
  apply along_iff_of_invariant (I := DeclaredOnce Prod.mk)
  · intro s c t hs ht
    cases ht
    exact declaredOnce_kept hs c
  · intro s c t hs hg ht
    cases ht
    exact storedValid_iff_validated hs hg c
  · exact DeclaredOnce.empty
  · exact storedValid_of_rows fun x hx => absurd hx List.not_mem_nil

def rawUpdate : List DependencyCall :=
  [.declareDependency ⟨4, 0⟩ 3 "pandas" (some ">=2.0"), .updateDependency ⟨5, 1⟩ 3 4 (some ">=2.0; rm")]

theorem raw_text_stored : ¬ ∀ (takes : String → Option String → Bool) (d : Database) calls,
    Along (dependencyStep takes) (fun _ _ t => StoredValid t)
      { d with notebookDependencies := [] } calls := by
  intro h
  have hrun : Along (dependencyStep fun _ _ => true) (fun _ _ t => ∀ x ∈ t.notebookDependencies,
      (validateVersionSpecifier x.versionSpecifier).toBool = true)
      { notebookOnly with notebookDependencies := [] } rawUpdate :=
    (h (fun _ _ => true) notebookOnly rawUpdate).imp fun s c t _ ht x hx => by rw [(ht.rows x hx).2]; rfl
  exact absurd hrun (by decide +kernel)

end NotebookExecution.Dependencies
