import NotebookExecution.Dependencies.Extraction
import NotebookExecution.Dependencies.Outcome
import NotebookExecution.Dependencies.Resolution

/-! An installation whose runtime is the worker itself: what pip is run with, and what an operation that
is READY says of the environment the worker runs in. -/

namespace NotebookExecution.Dependencies

open Library Library.Transaction Library.Table Library.Text Store Execution DependencyValidator
  DependencyResolver DependencyOperationRepository DependencyManager NotebookDependencyRepository

variable {site : Distributions} {item : String × String} {pairs : List (String × String)}
  {dep : NotebookDependency} {declared : List NotebookDependency} {d : Database} {notebookId : Uuid}

def checkItem (site : Distributions) (r : VerifyReport) (item : String × String) : VerifyReport :=
  let pkgName := strip item.1
  let spec := strip item.2
  match getInstalledPackageVersion site pkgName with
  | none => reject (pkgName ++ " (not installed)") r
  | some ver =>
    let resolved := resolve pkgName ver r
    if startsEqual spec && ver != target spec then reject (mismatch pkgName ver spec) resolved
    else resolved

def checkPackages (site : Distributions) (packages : List (String × String)) : VerifyReport :=
  packages.foldl (checkItem site) ⟨true, [], []⟩

def texts (site : Site) : Distributions := fun name => (site name).map Release.text

lemma getInstalledPackageVersion_texts (site : Site) (name : String) :
    getInstalledPackageVersion (texts site) name = (getInstalledPackageVersion site name).map Release.text := by
  have hv (n : String) : metadataVersion (texts site) n = (metadataVersion site n).map Release.text := by
    rw [metadataVersion, metadataVersion]
    split <;> rfl
  unfold getInstalledPackageVersion
  dsimp only
  rw [hv, hv]
  cases metadataVersion site (canonicalName (strip name)) <;> rfl

lemma checkItem_texts (site : Site) (r : VerifyReport) (item : String × String) :
    checkItem (texts site) r item = verifyItem site r item := by
  unfold checkItem
  dsimp only
  rw [getInstalledPackageVersion_texts]
  cases hv : getInstalledPackageVersion site (strip item.1) with
  | none =>
    rw [verifyItem_none rfl hv]
    simp only [Option.map_none]
  | some ver =>
    rw [verifyItem_some rfl rfl hv]
    simp only [Option.map_some]

theorem checkPackages_texts (site : Site) (packages : List (String × String)) :
    checkPackages (texts site) packages = verifyPackages site packages := by
  rw [checkPackages, verifyPackages, funext₂ (checkItem_texts site)]

def present (site : Distributions) (item : String × String) : Bool :=
  (getInstalledPackageVersion site (strip item.1)).any fun ver =>
    !(startsEqual (strip item.2) && ver != target (strip item.2))

def Resolves (site : Distributions) (names : List String) (before after : Dict String String) : Prop :=
  ∀ k, after.get? k =
    if k ∈ names then (getInstalledPackageVersion site k).or (before.get? k) else before.get? k

lemma resolves_cons {name : String} {names : List String} {before middle after : Dict String String}
    (h : Resolves site [name] before middle) (hrest : Resolves site names middle after) :
    Resolves site (name :: names) before after := by
  intro k
  rw [hrest k, h k]
  by_cases hk : k = name
  · simp [hk, ← Option.or_assoc]
  · simp [hk]

lemma resolves_none {name : String} {before : Dict String String}
    (h : getInstalledPackageVersion site name = none) : Resolves site [name] before before := by
  intro k
  by_cases hk : k = name
  · simp [hk, h]
  · simp [hk]

lemma resolves_some {name ver : String} {before : Dict String String}
    (h : getInstalledPackageVersion site name = some ver) :
    Resolves site [name] before (before.set name ver) := by
  intro k
  rw [Dict.get?_set]
  by_cases hk : k = name
  · simp [hk, h]
  · simp [hk]

structure Reports (site : Distributions) (pairs : List (String × String)) (r r' : VerifyReport) : Prop where
  satisfied : r'.satisfied = (r.satisfied && pairs.all (present site))
  versions : ∀ before : Dict String String, r.resolvedVersions = before.items →
    ∃ after : Dict String String, r'.resolvedVersions = after.items ∧
      Resolves site (pairs.map fun i => strip i.1) before after

lemma checkItem_reports (r : VerifyReport) : Reports site [item] r (checkItem site r item) := by
  unfold checkItem
  dsimp only
  cases hv : getInstalledPackageVersion site (strip item.1) with
  | none =>
    have hp : present site item = false := by rw [present, hv, Option.any_none]
    exact ⟨by simp [reject, hp], fun before hb => ⟨before, hb, resolves_none hv⟩⟩
  | some ver =>
    have hp : present site item = !(startsEqual (strip item.2) && ver != target (strip item.2)) := by
      rw [present, hv, Option.any_some]
    have hversions : ∀ before : Dict String String, r.resolvedVersions = before.items →
        ∃ after : Dict String String, (resolve (strip item.1) ver r).resolvedVersions = after.items ∧
          Resolves site [strip item.1] before after := by
      intro before hb
      refine ⟨before.set (strip item.1) ver, ?_, resolves_some hv⟩
      rw [resolve, hb, Dict.set]
    dsimp only
    cases hc : startsEqual (strip item.2) && ver != target (strip item.2) with
    | true =>
      rw [if_pos rfl]
      generalize mismatch (strip item.1) ver (strip item.2) = text
      exact ⟨by simp [reject, hp, hc], hversions⟩
    | false =>
      rw [if_neg Bool.false_ne_true]
      exact ⟨by simp [resolve, hp, hc], hversions⟩

lemma foldl_reports (r : VerifyReport) : Reports site pairs r (pairs.foldl (checkItem site) r) := by
  induction pairs generalizing r with
  | nil => exact ⟨by simp, fun before hb => ⟨before, hb, fun k => by simp⟩⟩
  | cons item pairs ih =>
    have hfirst : Reports site [item] r (checkItem site r item) := checkItem_reports r
    have hrest := ih (checkItem site r item)
    rw [List.foldl_cons]
    constructor
    · rw [hrest.satisfied, hfirst.satisfied]
      simp [Bool.and_assoc]
    · intro before hb
      obtain ⟨middle, hm, hbefore⟩ := hfirst.versions before hb
      obtain ⟨after, ha, hmiddle⟩ := hrest.versions middle hm
      exact ⟨after, ha, resolves_cons hbefore hmiddle⟩

lemma checkPackages_satisfied :
    (checkPackages site pairs).satisfied = true ↔ ∀ i ∈ pairs, present site i = true := by
  rw [checkPackages, (foldl_reports _).satisfied, Bool.true_and, List.all_eq_true]

lemma mem_checkPackages {name ver : String} : (name, ver) ∈ (checkPackages site pairs).resolvedVersions ↔
    name ∈ pairs.map (fun i => strip i.1) ∧ getInstalledPackageVersion site name = some ver := by
  obtain ⟨after, ha, hr⟩ := (foldl_reports ⟨true, [], []⟩).versions Dict.empty rfl
  rw [checkPackages, ha, Dict.mem_items, hr name]
  change (if _ then (getInstalledPackageVersion site name).or none else none) = _ ↔ _
  rw [Option.or_none]
  by_cases hn : name ∈ pairs.map fun i => strip i.1
  · rw [if_pos hn, and_iff_right hn]
  · rw [if_neg hn]
    exact iff_of_false (by simp) fun h => hn h.1

lemma resolveItem_validates {m m' : ResolvedMap} {item : PackageItem} (h : resolveItem m item = .ok m') :
    ∃ x, mention item = .ok x := by
  rw [resolveItem] at h
  obtain ⟨p, hp, h⟩ := except_bind_ok h
  rw [mention, hp, except_ok_bind]
  cases hf : p.1.filter fun name => name ≠ "" with
  | none =>
    rw [hf] at h
    cases h
  | some pkgName =>
    rw [hf] at h
    obtain ⟨name, hn, h⟩ := except_bind_ok h
    obtain ⟨spec, hs, -⟩ := except_bind_ok h
    refine ⟨⟨name, spec⟩, ?_⟩
    dsimp only
    rw [hn, except_ok_bind, hs]
    rfl

lemma resolveItems_validate {packages : List PackageItem} {m m' : ResolvedMap}
    (h : packages.foldlM resolveItem m = .ok m') : Validates packages := by
  induction packages generalizing m with
  | nil => exact fun item hi => absurd hi List.not_mem_nil
  | cons item packages ih =>
    rw [List.foldlM_cons] at h
    obtain ⟨next, hi, h⟩ := except_bind_ok h
    exact List.forall_mem_cons.mpr ⟨resolveItem_validates hi, ih h⟩

structure Clean (reqs : List String) : Prop where
  unambiguous : ∀ req ∈ reqs, ∃ name spec, Unambiguous req name spec
  apart : (reqs.map fun req => canonicalName (String.ofList (req.toList.takeWhile isNameChar))).Nodup

lemma Requirement.unambiguous (r : Requirement) : Unambiguous r.text r.name r.spec := by
  refine ⟨r.name_head, r.text_harmless, r.name_read, r.spec_read, ?_, validatePackageName_idem r.validName,
    validateVersionSpecifier_idem r.validSpec⟩
  intro packageName' versionSpecifier' name' spec' hn hs hf
  obtain ⟨r', rfl, rfl, hr⟩ := formatRequirement_iff.mp hf
  rw [r'.validName, Except.ok.injEq] at hn
  rw [r'.validSpec, Except.ok.injEq] at hs
  rw [← hn, ← hs]
  exact Requirement.text_injective hr

lemma resolved_clean {packages : List PackageItem} {reqs : List Resolved}
    (h : resolveRequirements packages = .ok reqs) : Clean (reqs.map Resolved.requirement) := by
  rw [resolveRequirements] at h
  obtain ⟨m, hm, h⟩ := except_bind_ok h
  cases h
  have hmade := resolveItems_made (fun p hp => absurd hp List.not_mem_nil) hm
  rcases resolves (resolveItems_validate hm) with ⟨-, message, he⟩ | ⟨-, m', hm', hholds⟩
  · cases he.symm.trans hm
  · cases hm'.symm.trans hm
    constructor
    · intro req hreq
      obtain ⟨q, hq, rfl⟩ := List.mem_map.mp hreq
      obtain ⟨p, hp, rfl⟩ := List.mem_map.mp hq
      obtain ⟨r, hr⟩ := hmade p hp
      refine ⟨r.name, r.spec, ?_⟩
      rw [← hr, Requirement.resolved]
      exact r.unambiguous
    · have hkeys : m.map (fun p => canonicalName (String.ofList (p.2.requirement.toList.takeWhile isNameChar))) =
          m.map Prod.fst := by
        refine List.map_congr_left fun p hp => ?_
        obtain ⟨r, hr⟩ := hmade p hp
        rw [← (hholds.entry hp).1, ← hr, Requirement.resolved, r.name_read, String.ofList_toList]
      simp only [List.map_map, Function.comp_def]
      rw [hkeys]
      exact hholds.nodup

/-- A worker process and its environment; `dumps` is how a dictionary of versions is stored. -/
structure WorkerProcess where
  runtimeId : String
  site : Distributions
  pip : Pip
  dumps : List (String × String) → Json

namespace WorkerProcess

variable (p : WorkerProcess) (timeout : Seconds)

def verifyReply (site : Distributions) (packages : List PackageEntry) : VerifyReply :=
  let report := checkPackages site (packages.map fun e => (e.packageName, e.versionSpecifier))
  ⟨report.satisfied, some (p.dumps report.resolvedVersions), report.missingOrInvalid⟩

def installReply (reqs : List String) (timeout : Seconds) : InstallReply :=
  let report := installPackages p.pip reqs timeout
  ⟨some report.status, some report.stdout, some report.stderr⟩

def withPip (pip : Pip) : WorkerProcess := { p with pip := pip }

/-- The environment that is verified after an installation, which has completed then. -/
def siteAfter (reqs : List String) (timeout : Seconds) : Distributions :=
  match p.pip.run (cmdArgs p.pip reqs) timeout with
  | .completed _ _ _ site => site
  | _ => p.site

def runtime (reqs : List String) : Runtime where
  runtimeId := p.runtimeId
  verifyBefore packages := .ok (p.verifyReply p.site packages)
  installPackages reqs t := .ok (p.installReply reqs t)
  verifyAfter packages := .ok (p.verifyReply (p.siteAfter reqs timeout) packages)

end WorkerProcess

def requirementsOf (notebookId : Uuid) (d : Database) : List String :=
  match requirements notebookId d with
  | .ok reqs => reqs.map Resolved.requirement
  | .error _ => []

def WorkerProcess.install (p : WorkerProcess) (x : Setting) (timeout : Seconds) (notebookId : Uuid)
    (sessionId : Option String) (d : Database) :
    Except DependencyFailure (Option DependencyOperation) × Session Database :=
  installNotebookDependencies (p.runtime timeout (requirementsOf notebookId d)) x timeout notebookId sessionId
    (.open d)

section

variable {w : Runtime} {x : Setting} {timeout : Seconds} {payload : List PackageEntry}

lemma script_reply (hp : payload ≠ []) (hs : (script w x timeout payload).failure = none) :
    ∃ reqs reply us, resolveRequirements (items payload) = .ok reqs ∧ reply.satisfied = true ∧
      script w x timeout payload = (Script.succeeds reply.resolvedVersions).writes us ∧
      (w.verifyBefore payload = .ok reply ∨
        ∃ r, Installs w timeout payload reqs r ∧ Quiet r ∧ w.verifyAfter payload = .ok reply) := by
  obtain ⟨hready, hn⟩ := script_succeeds.mp hs
  rcases hready with he | ⟨reqs, hq, hb | ⟨r, hi⟩⟩
  · exact absurd he hp
  · obtain ⟨reply, hv, hsat⟩ := hb
    refine ⟨reqs, reply, [{ status := .validating }, { status := .resolving }], hq, hsat, ?_, Or.inl hv⟩
    simp only [script, hp, if_false, hq, resolving, hv, hsat, if_true]
    rfl
  · have hquiet : Quiet r := by
      by_contra hc
      exact hn ⟨hp, reqs, hq, r, hi, hc⟩
    have hi' := hi
    obtain ⟨⟨before, hv, hb⟩, hr, hok, reply, ha, hsat⟩ := hi
    obtain ⟨u, hlogs⟩ := captureLogs_ok.mpr hquiet
    refine ⟨reqs, reply, [{ status := .validating }, { status := .resolving }, { status := .installing },
      { status := .verifying }], hq, hsat, ?_, Or.inr ⟨r, hi', hquiet, ha⟩⟩
    simp only [script, hp, if_false, hq, resolving, hv, hb, Bool.false_eq_true, installing, hr, installed,
      hlogs, hok, ne_eq, not_true_eq_false, verification, ha, hsat, if_true, Option.some.injEq]
    rfl

lemma stages_congr {w' : Runtime} (hb : w'.verifyBefore = w.verifyBefore)
    (hi : ∀ reqs, resolveRequirements (items payload) = .ok reqs →
      w'.installPackages (reqs.map Resolved.requirement) timeout =
        w.installPackages (reqs.map Resolved.requirement) timeout)
    (ha : w'.verifyAfter = w.verifyAfter) :
    stages w' x timeout payload = stages w x timeout payload := by
  rw [stages, stages, hb, ha]
  cases hq : resolveRequirements (items payload) with
  | error err => rfl
  | ok reqs =>
    have ho : (ofExcept (.ok reqs) : Tx Database DependencyFailure (List Resolved)) = pure reqs := rfl
    simp only [ho, pure_bind, hi reqs hq]

end

section

variable {p : WorkerProcess} {pip pip' : Pip} {timeout : Seconds} {reqs : List String}

def Alike (pip pip' : Pip) (reqs : List String) (timeout : Seconds) : Prop :=
  pip.run (cmdArgs pip reqs) timeout = pip'.run (cmdArgs pip' reqs) timeout

lemma installPackages_alike (h : Alike pip pip' reqs timeout) :
    installPackages pip reqs timeout = installPackages pip' reqs timeout := by
  rw [installPackages, installPackages, h]

lemma siteAfter_alike (h : Alike pip pip' reqs timeout) :
    (p.withPip pip).siteAfter reqs timeout = (p.withPip pip').siteAfter reqs timeout := by
  have hrun : (p.withPip pip).pip.run (cmdArgs (p.withPip pip).pip reqs) timeout =
      (p.withPip pip').pip.run (cmdArgs (p.withPip pip').pip reqs) timeout := h
  rw [WorkerProcess.siteAfter, WorkerProcess.siteAfter, hrun]
  rfl

lemma requirementsOf_clean : Clean (requirementsOf notebookId d) := by
  rw [requirementsOf]
  cases hq : requirements notebookId d with
  | error err => exact ⟨fun req hr => absurd hr List.not_mem_nil, .nil⟩
  | ok reqs => exact resolved_clean hq

end

/-! ## What an installation provides -/

def specText (dep : NotebookDependency) : String := strip (dep.versionSpecifier.getD "")

def Provides (site : Distributions) (dep : NotebookDependency) : Prop :=
  ∃ name ver, validatePackageName dep.packageName = .ok name ∧ site (normalized name) = some ver ∧
    (startsEqual (specText dep) = true → ver = target (specText dep))

structure Provided (site : Distributions) (declared : List NotebookDependency)
    (versions : List (String × String)) : Prop where
  provides : ∀ dep ∈ declared, Provides site dep
  recorded : ∀ name ver, (name, ver) ∈ versions ↔
    ∃ dep ∈ declared, validatePackageName dep.packageName = .ok name ∧ site (normalized name) = some ver

lemma present_iff {name : String} (hn : validatePackageName dep.packageName = .ok name) :
    present site (dep.packageName, dep.versionSpecifier.getD "") = true ↔ Provides site dep := by
  have hs : strip dep.packageName = name := (validatePackageName_ok hn).1.symm
  have hi : getInstalledPackageVersion site (strip dep.packageName) = site (normalized name) := by
    rw [hs]
    exact getInstalledPackageVersion_eq (strip_validName hn) (validName_ne_empty hn)
  unfold present Provides
  dsimp only
  rw [hi, ← specText]
  constructor
  · intro h
    cases hv : site (normalized name) with
    | none =>
      rw [hv] at h
      cases h
    | some ver =>
      rw [hv, Option.any_some] at h
      refine ⟨name, ver, hn, hv, fun he => ?_⟩
      simpa [he] using h
  · rintro ⟨name', ver, hn', hv, he⟩
    obtain rfl := Except.ok.inj (hn.symm.trans hn')
    rw [hv, Option.any_some]
    cases hc : startsEqual (specText dep) with
    | false => rfl
    | true => simp [he hc]

section

variable {p : WorkerProcess} {x : Setting} {timeout : Seconds} {sessionId : Option String}

lemma declared_valid {reqs : List Resolved} (h : requirements notebookId d = .ok reqs) :
    ∀ dep ∈ dependenciesOf notebookId d, ∃ name, validatePackageName dep.packageName = .ok name := by
  intro dep hd
  rw [requirements, resolveRequirements] at h
  obtain ⟨m, hm, -⟩ := except_bind_ok h
  have hi : itemOf dep ∈ items (packagesPayload (dependenciesOf notebookId d)) := by
    rw [items, packagesPayload, List.map_map]
    exact List.mem_map_of_mem hd
  obtain ⟨y, hy⟩ := resolveItems_validate hm _ hi
  obtain ⟨q, pkgName, hq, hf, hn, -⟩ := mention_inv hy
  rw [parts_itemOf, Except.ok.injEq] at hq
  rw [← hq] at hf
  obtain rfl := Option.some_inj.mp (Option.filter_eq_some_iff.mp hf).1
  exact ⟨y.name, hn⟩

lemma verifyReply_provided (p : WorkerProcess) (site : Distributions)
    (hn : ∀ dep ∈ dependenciesOf notebookId d, ∃ name, validatePackageName dep.packageName = .ok name) :
    ((p.verifyReply site (payloadOf notebookId d)).satisfied = true ↔
        ∀ dep ∈ dependenciesOf notebookId d, Provides site dep) ∧
      ∃ versions, (p.verifyReply site (payloadOf notebookId d)).resolvedVersions = some (p.dumps versions) ∧
        ∀ name ver, (name, ver) ∈ versions ↔ ∃ dep ∈ dependenciesOf notebookId d,
          validatePackageName dep.packageName = .ok name ∧ site (normalized name) = some ver := by
  have hpairs : (payloadOf notebookId d).map (fun e => (e.packageName, e.versionSpecifier)) =
      (dependenciesOf notebookId d).map fun dep => (dep.packageName, dep.versionSpecifier.getD "") := by
    rw [payloadOf, packagesPayload, List.map_map]
    rfl
  rw [WorkerProcess.verifyReply, hpairs]
  constructor
  · dsimp only
    rw [checkPackages_satisfied, List.forall_mem_map]
    refine forall₂_congr fun dep hd => ?_
    obtain ⟨name, hv⟩ := hn dep hd
    exact present_iff hv
  · refine ⟨_, rfl, fun name ver => ?_⟩
    rw [mem_checkPackages, List.map_map, List.mem_map]
    constructor
    · rintro ⟨⟨dep, hd, rfl⟩, hv⟩
      obtain ⟨name, hname⟩ := hn dep hd
      have hs : strip dep.packageName = name := (validatePackageName_ok hname).1.symm
      rw [Function.comp_apply, hs] at hv ⊢
      rw [getInstalledPackageVersion_eq (strip_validName hname) (validName_ne_empty hname)] at hv
      exact ⟨dep, hd, hname, hv⟩
    · rintro ⟨dep, hd, hname, hv⟩
      refine ⟨⟨dep, hd, (validatePackageName_ok hname).1.symm⟩, ?_⟩
      rwa [getInstalledPackageVersion_eq (strip_validName hname) (validName_ne_empty hname)]

lemma payloadOf_ne_nil (hd : dependenciesOf notebookId d ≠ []) : payloadOf notebookId d ≠ [] :=
  fun h => hd (packagesPayload_nil.mp h)

lemma requirementsOf_ok {reqs : List Resolved} (h : requirements notebookId d = .ok reqs) :
    requirementsOf notebookId d = reqs.map Resolved.requirement := by
  rw [requirementsOf, h]

lemma installReply_ok {reqs : List String} : (p.installReply reqs timeout).status = some "ok" ∧
      Quiet (p.installReply reqs timeout) ↔
    ∃ stdout stderr site, p.pip.run (cmdArgs p.pip reqs) timeout = .completed 0 stdout stderr site ∧
      isFalsy stdout = true ∧ isFalsy stderr = true := by
  have hfalsy (o : Option String) : isFalsy (some (o.getD "")) = isFalsy o := by
    cases o <;> rfl
  rw [WorkerProcess.installReply, installPackages, Quiet]
  cases p.pip.run (cmdArgs p.pip reqs) timeout with
  | completed returncode stdout stderr site =>
    by_cases hc : returncode = 0
    · simp [hc, hfalsy]
    · simp [hc]
  | timeoutExpired printed => simp
  | raised printed traceback => simp

def WorkerProcess.leaves (p : WorkerProcess) (timeout : Seconds) (notebookId : Uuid) (d : Database) : Distributions :=
  if (p.verifyReply p.site (payloadOf notebookId d)).satisfied then p.site
  else p.siteAfter (requirementsOf notebookId d) timeout

lemma notebook_of_install {op : DependencyOperation} {s : Session Database}
    (h : p.install x timeout notebookId sessionId d = (.ok (some op), s)) :
    (notebookTable.find notebookId d).isSome = true := by
  cases hn : notebookTable.find notebookId d with
  | some nb => rfl
  | none =>
    rw [WorkerProcess.install, install_refused hn] at h
    cases h

lemma finalRecord_versions {w : Runtime} {payload : List PackageEntry} {v : Json} {us : List StatusUpdate}
    (h : script w x timeout payload = (Script.succeeds (some v)).writes us) :
    (finalRecord w x timeout notebookId sessionId payload).resolvedVersions = some v := by
  rw [finalRecord, h, Script.writes, Script.succeeds, recordAfter_concat]
  rfl

theorem ready_provides {op : DependencyOperation} {s : Session Database} (hf : Fresh x d)
    (hd : dependenciesOf notebookId d ≠ [])
    (h : p.install x timeout notebookId sessionId d = (.ok (some op), s)) :
    op.status = .ready ∧ ∃ versions, op.resolvedVersions = some (p.dumps versions) ∧
      Provided (p.leaves timeout notebookId d) (dependenciesOf notebookId d) versions := by
  have hn := notebook_of_install h
  have hs := install_returns hf hn h
  have hfollows : installNotebookDependencies (p.runtime timeout (requirementsOf notebookId d)) x timeout
      notebookId sessionId (.open d) = _ := install_follows hf hn
  obtain ⟨reqs, reply, us, hq, hsat, hscript, hreply⟩ := script_reply (payloadOf_ne_nil hd) hs
  rw [WorkerProcess.install, hfollows, hs] at h
  obtain rfl : finalRecord _ x timeout notebookId sessionId _ = op := by
    cases h
    rfl
  have hreqs : requirements notebookId d = .ok reqs := hq
  have hvalid := declared_valid hreqs
  obtain ⟨hiff, versions, hv, hrecorded⟩ :=
    verifyReply_provided p (p.leaves timeout notebookId d) hvalid
  have he : reply = p.verifyReply (p.leaves timeout notebookId d) (payloadOf notebookId d) := by
    rw [WorkerProcess.leaves]
    rcases hreply with hb | ⟨r, hi, -, ha⟩
    · obtain rfl : p.verifyReply p.site (payloadOf notebookId d) = reply := Except.ok.inj hb
      rw [if_pos hsat]
    · obtain ⟨before, hb, hun⟩ := hi.1
      obtain rfl : p.verifyReply p.site (payloadOf notebookId d) = before := Except.ok.inj hb
      rw [if_neg (by rw [hun]; exact Bool.false_ne_true)]
      exact (Except.ok.inj ha).symm
  rw [he] at hsat hscript
  rw [hv] at hscript
  exact ⟨ends_succeeds script_ends hs, versions, finalRecord_versions hscript, hiff.mp hsat, hrecorded⟩

structure Installable (p : WorkerProcess) (timeout : Seconds) (notebookId : Uuid) (d : Database) : Prop where
  resolved : ∃ reqs, requirements notebookId d = .ok reqs
  provided : (∀ dep ∈ dependenciesOf notebookId d, Provides p.site dep) ∨
    ∃ stdout stderr site, p.pip.run (cmdArgs p.pip (requirementsOf notebookId d)) timeout =
      .completed 0 stdout stderr site ∧ isFalsy stdout = true ∧ isFalsy stderr = true ∧
        ∀ dep ∈ dependenciesOf notebookId d, Provides site dep

lemma verifies_iff {reqs : List Resolved} (h : requirements notebookId d = .ok reqs) :
    Verifies (.ok (p.verifyReply site (payloadOf notebookId d))) ↔
      ∀ dep ∈ dependenciesOf notebookId d, Provides site dep := by
  rw [← (verifyReply_provided p site (declared_valid h)).1]
  exact ⟨fun ⟨r, hr, hs⟩ => Except.ok.inj hr ▸ hs, fun hs => ⟨_, rfl, hs⟩⟩

lemma siteAfter_completed {reqs : List String} {returncode : ℤ} {stdout stderr : Option String}
    (h : p.pip.run (cmdArgs p.pip reqs) timeout = .completed returncode stdout stderr site) :
    p.siteAfter reqs timeout = site := by
  rw [WorkerProcess.siteAfter, h]

lemma script_installable (hd : dependenciesOf notebookId d ≠ []) :
    (script (p.runtime timeout (requirementsOf notebookId d)) x timeout (payloadOf notebookId d)).failure = none ↔
      Installable p timeout notebookId d := by
  have hp := payloadOf_ne_nil hd
  rw [script, if_neg hp]
  cases hq : resolveRequirements (items (payloadOf notebookId d)) with
  | error err =>
    refine iff_of_false (by simp [Script.writes, Script.fails]) ?_
    rintro ⟨⟨reqs, hr⟩, -⟩
    cases hq.symm.trans hr
  | ok reqs =>
    have hr : requirements notebookId d = .ok reqs := hq
    have hreqs := requirementsOf_ok hr
    simp only [Script.writes, resolving_succeeds]
    constructor
    · rintro (hv | ⟨reply, ⟨-, hi, hok, ha⟩, hquiet⟩)
      · exact ⟨⟨reqs, hr⟩, Or.inl ((verifies_iff hr).mp hv)⟩
      · obtain rfl : p.installReply (reqs.map Resolved.requirement) timeout = reply := Except.ok.inj hi
        rw [← hreqs] at hok hquiet
        obtain ⟨stdout, stderr, site, hrun, ho, he⟩ := installReply_ok.mp ⟨hok, hquiet⟩
        refine ⟨⟨reqs, hr⟩, Or.inr ⟨stdout, stderr, site, hrun, ho, he, ?_⟩⟩
        rw [← siteAfter_completed hrun]
        exact (verifies_iff hr).mp ha
    · rintro ⟨-, hall | ⟨stdout, stderr, site, hrun, ho, he, hall⟩⟩
      · exact Or.inl ((verifies_iff hr).mpr hall)
      · cases hb : (p.verifyReply p.site (payloadOf notebookId d)).satisfied with
        | true => exact Or.inl ⟨_, rfl, hb⟩
        | false =>
          obtain ⟨hok, hquiet⟩ := installReply_ok.mpr ⟨stdout, stderr, site, hrun, ho, he⟩
          rw [hreqs] at hok hquiet
          refine Or.inr ⟨_, ⟨⟨_, rfl, hb⟩, rfl, hok, ?_⟩, hquiet⟩
          rw [← siteAfter_completed hrun] at hall
          exact (verifies_iff hr).mpr hall

end

def offline : WorkerProcess where
  runtimeId := "runtime"
  site := pandasInstalled
  pip := ⟨"python", fun _ _ => .raised "No route to host" "Traceback"⟩
  dumps versions := ", ".intercalate (versions.map fun v => v.1 ++ " " ++ v.2)

lemma pandas_provided : ∀ dep ∈ dependenciesOf 1 declaresPandas, Provides pandasInstalled dep := by
  have hd : dependenciesOf 1 declaresPandas = [⟨2, 1, "pandas", none, 0, 0⟩] := rfl
  intro dep h
  rw [hd, List.mem_singleton] at h
  subst h
  exact ⟨"pandas", "2.2.3", by decide, by decide, fun he => absurd he (by decide)⟩

lemma offline_installable : Installable offline "120.0" 1 declaresPandas :=
  ⟨⟨pandas, pandas_resolved⟩, Or.inl pandas_provided⟩

lemma pandas_declared : dependenciesOf 1 declaresPandas ≠ [] := List.cons_ne_nil _ _

theorem offline_provides : ∃ (op : DependencyOperation) (versions : List (String × String)), op.status = .ready ∧
    op.resolvedVersions = some (offline.dumps versions) ∧
      Provided (offline.leaves "120.0" 1 declaresPandas) (dependenciesOf 1 declaresPandas) versions := by
  have hs := (script_installable (x := firstOperation) pandas_declared).mpr offline_installable
  obtain ⟨op, s, h, -⟩ : ∃ op s, offline.install firstOperation "120.0" 1 none declaresPandas =
      (.ok (some op), s) ∧ op.status = .ready := install_succeeds firstOperation_fresh rfl hs
  obtain ⟨hready, versions, hv, hp⟩ := ready_provides firstOperation_fresh pandas_declared h
  exact ⟨op, versions, hready, hv, hp⟩

/-- A pip that does something else when it is given an option. -/
def heedsOptions : Pip where
  executable := "python"
  run args _ :=
    if (args.drop 4).any fun arg => arg.toList.head? = some '-' then .timeoutExpired "pip"
    else .raised "No route to host" "Traceback"

lemma heedsOptions_alike (reqs : List String) (timeout : Seconds) (h : Clean reqs) :
    Alike offline.pip heedsOptions reqs timeout := by
  have hnone : ((cmdArgs heedsOptions reqs).drop 4).any (fun arg => arg.toList.head? = some '-') = false := by
    rw [List.any_eq_false]
    intro arg ha he
    obtain ⟨name, spec, hu⟩ := h.unambiguous arg ha
    have hs := hu.starts
    rw [of_decide_eq_true he] at hs
    exact absurd hs (by decide)
  have hr : heedsOptions.run (cmdArgs heedsOptions reqs) timeout = .raised "No route to host" "Traceback" :=
    if_neg (by rw [hnone]; exact Bool.false_ne_true)
  rw [Alike, hr]
  rfl

end NotebookExecution.Dependencies
