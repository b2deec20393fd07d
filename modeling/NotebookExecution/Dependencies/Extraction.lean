import NotebookExecution.Dependencies.Requirements
import NotebookExecution.Dependencies.Verification

/-! The worker's installation of requirements, and the names it takes from them again. -/

namespace NotebookExecution.Dependencies

open Library Library.Text DependencyValidator DependencyResolver Execution

abbrev Distributions := String → Option String

/-- How `subprocess.run` on pip ends; a run that completes leaves an environment behind. -/
inductive PipRun
  | completed (returncode : ℤ) (stdout stderr : Option String) (site : Distributions)
  | timeoutExpired (printed : String)
  | raised (printed traceback : String)

structure Pip where
  executable : String
  run : List String → Seconds → PipRun

def cmdArgs (pip : Pip) (requirements : List String) : List String :=
  [pip.executable, "-m", "pip", "install"] ++ requirements

/-- `split("==")[0].split(">=")[0].split("<=")[0].split("<")[0].split(">")[0]` -/
def nameText (l : List Char) : List Char :=
  before ['>'] (before ['<'] (before ['<', '='] (before ['>', '='] (before ['=', '='] l))))

def packageNameOf (req : String) : String := strip (String.ofList (nameText req.toList))

def extract (site : Distributions) (resolvedVersions : Dict String String) (req : String) : Dict String String :=
  let pkgName := packageNameOf req
  match getInstalledPackageVersion site pkgName with
  | some ver => if ver = "" then resolvedVersions else resolvedVersions.set pkgName ver
  | none => resolvedVersions

def resolvedVersions (site : Distributions) (requirements : List String) : Dict String String :=
  requirements.foldl (extract site) Dict.empty

def installPackages (pip : Pip) (requirements : List String) (timeout : Seconds) : InstallReport :=
  match pip.run (cmdArgs pip requirements) timeout with
  | .completed returncode stdout stderr site =>
    if returncode ≠ 0 then ⟨"error", stdout.getD "", stderr.getD "", [], none⟩
    else ⟨"ok", stdout.getD "", stderr.getD "", (resolvedVersions site requirements).items, none⟩
  | .timeoutExpired printed =>
    ⟨"timeout", "", "Pip installation timed out after " ++ (timeout ++ " seconds."), [], some printed⟩
  | .raised printed traceback => ⟨"error", "", "Pip installation exception: " ++ printed, [], some traceback⟩

lemma serveCommand_installPackages {ν : Type} (I : Interpreter ν) (machine : Machine) (space : ν) (k : RequestId)
    (pip : Pip) (requirements : List String) (timeout : Seconds) :
    serveCommand I { machine with install := installPackages pip requirements timeout } space
        (.installPackages k requirements timeout) =
      some (space, ⟨k, (installPackages pip requirements timeout).status,
        some (installPackages pip requirements timeout).stdout, some (installPackages pip requirements timeout).stderr,
        (installPackages pip requirements timeout).traceback, some machine.elapsedMs,
        some (installPackages pip requirements timeout).resolvedVersions, none, none⟩) :=
  rfl

/-- What follows `install` begins with a letter or a digit: pip takes none of it for an option. -/
theorem cmdArgs_options (pip : Pip) (rs : List Requirement) :
    ∀ arg ∈ (cmdArgs pip (rs.map Requirement.text)).drop 4, arg.toList.head? ≠ some '-' := by
  change ∀ arg ∈ rs.map Requirement.text, _
  rw [List.forall_mem_map]
  intro r hr h
  have hn := r.name_head
  rw [h] at hn
  exact absurd hn (by decide)

section

variable {site : Distributions} {d : Dict String String} {req k : String} {reqs : List String}

def found (site : Distributions) (k : String) : Option String :=
  (getInstalledPackageVersion site k).filter fun ver => ver ≠ ""

lemma get?_extract :
    (extract site d req).get? k = if k = packageNameOf req then (found site k).or (d.get? k) else d.get? k := by
  unfold extract found
  dsimp only
  by_cases hk : k = packageNameOf req
  · rw [if_pos hk, hk]
    generalize packageNameOf req = pkgName
    cases getInstalledPackageVersion site pkgName with
    | none => rfl
    | some ver =>
      dsimp only
      by_cases hv : ver = ""
      · rw [hv]
        rfl
      · rw [if_neg hv, Dict.get?_set_self, Option.filter_some_pos (by simpa using hv), Option.some_or]
  · rw [if_neg hk]
    cases getInstalledPackageVersion site (packageNameOf req) with
    | none => rfl
    | some ver =>
      dsimp only
      split
      · rfl
      · exact Dict.get?_set_other hk

lemma get?_foldl_extract : (reqs.foldl (extract site) d).get? k =
    if k ∈ reqs.map packageNameOf then (found site k).or (d.get? k) else d.get? k := by
  induction reqs generalizing d with
  | nil => rfl
  | cons req reqs ih =>
    rw [List.foldl_cons, ih, get?_extract, List.map_cons]
    by_cases hk : k = packageNameOf req
    · simp [hk, ← Option.or_assoc]
    · simp [hk]

lemma get?_resolvedVersions : (resolvedVersions site reqs).get? k =
    if k ∈ reqs.map packageNameOf then found site k else none := by
  rw [resolvedVersions, get?_foldl_extract]
  change (if _ then (found site k).or none else none) = _
  rw [Option.or_none]

end

section

variable {p q l : List Char}

lemma nameText_append (hp : ∀ c ∈ p, c ≠ '=' ∧ c ≠ '<' ∧ c ≠ '>') : nameText (p ++ q) = p ++ nameText q := by
  have he : '=' ∉ p := fun h => (hp '=' h).1 rfl
  have hl : '<' ∉ p := fun h => (hp '<' h).2.1 rfl
  have hg : '>' ∉ p := fun h => (hp '>' h).2.2 rfl
  rw [nameText, before_append he, before_append hg, before_append hl, before_append hl, before_append hg]
  rfl

lemma nameText_begins (l : List Char) : nameText l <+: l :=
  (before_begins _ _).trans <| (before_begins _ _).trans <| (before_begins _ _).trans <|
    (before_begins _ _).trans (before_begins _ l)

lemma nameText_free (l : List Char) : '<' ∉ nameText l ∧ '>' ∉ nameText l :=
  ⟨fun h => not_mem_before '<' _ ((before_begins ['>'] _).subset h), not_mem_before '>' _⟩

lemma nameText_equal : nameText ('=' :: '=' :: l) = [] := by
  have he : before ['=', '='] ('=' :: '=' :: l) = [] := before_self
  rw [nameText, he]
  rfl

lemma nameText_ordered {c : Char} (hc : c = '<' ∨ c = '>') : nameText (c :: l) = [] := by
  cases hn : nameText (c :: l) with
  | nil => rfl
  | cons d t =>
    have hp := nameText_begins (c :: l)
    obtain ⟨hless, hgreater⟩ := nameText_free (c :: l)
    rw [hn] at hp hless hgreater
    obtain ⟨rfl, -⟩ := List.cons_prefix_cons.mp hp
    rcases hc with rfl | rfl
    · exact absurd List.mem_cons_self hless
    · exact absurd List.mem_cons_self hgreater

end

def StartsCompatible (versionSpecifier : Option String) : Prop :=
  ∃ text ∈ versionSpecifier, "~=".toList <+: (strip text).toList

lemma compatible_withOperator (text : String) :
    "~=".toList <+: (withOperator text).toList ↔ "~=".toList <+: text.toList := by
  rw [withOperator]
  split
  · next hb =>
    refine iff_of_false ?_ ?_
    · rw [String.toList_append]
      rintro ⟨l, hl⟩
      cases hl
    · rintro ⟨l, hl⟩
      rw [← hl] at hb
      change isBareVersion ('~' :: _) = true at hb
      rw [isBareVersion_operator (by decide)] at hb
      cases hb
  · rfl

namespace Requirement

variable {r : Requirement}

lemma startsCompatible_iff :
    StartsCompatible r.versionSpecifier ↔ "~=".toList <+: (r.spec.getD "").toList := by
  cases hs : r.spec with
  | none =>
    refine iff_of_false ?_ (by decide)
    rintro ⟨text, ht, hc⟩
    have hv := r.validSpec
    rw [Option.mem_def] at ht
    rw [ht, hs] at hv
    rcases validateVersionSpecifier_cases hv with ⟨he, -⟩ | ⟨-, hn, -⟩
    · rw [he] at hc
      exact absurd hc (by decide)
    · cases hn
  | some spec =>
    obtain ⟨text, ht, -, hspec, -⟩ := validateVersionSpecifier_ok (hs ▸ r.validSpec)
    rw [StartsCompatible, ht, hspec, Option.getD_some, compatible_withOperator]
    simp

lemma nameText_text (r : Requirement) :
    nameText r.text.toList = r.name.toList ++ nameText (r.spec.getD "").toList := by
  have hall : ∀ c, isNameChar c = true → c ≠ '=' ∧ c ≠ '<' ∧ c ≠ '>' := by
    intro c hc
    refine ⟨?_, ?_, ?_⟩
    all_goals
      rintro rfl
      exact absurd hc (by decide)
  rw [text_toList]
  exact nameText_append fun c hc => hall c ((name_chars r.validName).2 c hc)

lemma nameText_spec (h : ¬ "~=".toList <+: (r.spec.getD "").toList) : nameText (r.spec.getD "").toList = [] := by
  cases hs : r.spec with
  | none => rfl
  | some spec =>
    rw [hs, Option.getD_some] at h
    obtain ⟨o, ⟨ho, hne⟩, l, hl⟩ := specifier_begins (hs ▸ r.validSpec)
    rw [Option.getD_some, ← hl]
    rw [← hl] at h
    rw [operators] at ho
    simp only [List.mem_cons, List.not_mem_nil, or_false] at ho
    rcases ho with rfl | rfl | rfl | rfl | rfl | rfl | rfl
    · exact nameText_equal
    · exact nameText_ordered (Or.inr rfl)
    · exact nameText_ordered (Or.inl rfl)
    · exact nameText_ordered (Or.inr rfl)
    · exact nameText_ordered (Or.inl rfl)
    · exact absurd (List.prefix_append _ l) h
    · exact absurd rfl hne

lemma packageNameOf_iff : packageNameOf r.text = r.name ↔ ¬ StartsCompatible r.versionSpecifier := by
  rw [startsCompatible_iff, packageNameOf, nameText_text]
  constructor
  · rintro h ⟨l, hl⟩
    -- The tilde is in no separator: it stays in every piece, and no name has it.
    have ht : nameText (r.spec.getD "").toList = ['~'] ++ nameText ('=' :: l) := by
      rw [← hl]
      refine nameText_append (p := ['~']) fun c hc => ?_
      rw [List.mem_singleton.mp hc]
      decide
    have hm : '~' ∈ (String.ofList (r.name.toList ++ nameText (r.spec.getD "").toList)).toList := by
      rw [String.toList_ofList, ht]
      exact List.mem_append_right _ List.mem_cons_self
    have hn := mem_strip (by decide) hm
    rw [h] at hn
    exact absurd ((name_chars r.validName).2 '~' hn) (by decide)
  · intro h
    rw [nameText_spec h, List.append_nil, String.ofList_toList, strip_validName r.validName]

end Requirement

structure Decodes (rs : List Requirement) : Prop where
  extracted : ∀ r ∈ rs, packageNameOf r.text = r.name
  reported : ∀ (pip : Pip) (timeout : Seconds) (stdout stderr : Option String) (site : Distributions),
    pip.run (cmdArgs pip (rs.map Requirement.text)) timeout = .completed 0 stdout stderr site →
    (∀ r ∈ rs, ∃ ver ∈ site (normalized r.name), ver ≠ "") →
    (installPackages pip (rs.map Requirement.text) timeout).status = "ok" ∧
      ∀ r ∈ rs, ∃ ver ∈ site (normalized r.name),
        (r.name, ver) ∈ (installPackages pip (rs.map Requirement.text) timeout).resolvedVersions

lemma found_name (site : Distributions) (r : Requirement) :
    found site r.name = (site (normalized r.name)).filter fun ver => ver ≠ "" := by
  rw [found, getInstalledPackageVersion_eq (strip_validName r.validName) (validName_ne_empty r.validName)]

lemma reported_of_extracted {rs : List Requirement} {site : Distributions} {r : Requirement} (hr : r ∈ rs)
    (he : packageNameOf r.text = r.name) {ver : String} (hv : site (normalized r.name) = some ver)
    (hne : ver ≠ "") : (r.name, ver) ∈ (resolvedVersions site (rs.map Requirement.text)).items := by
  have hk : r.name ∈ (rs.map Requirement.text).map packageNameOf :=
    List.mem_map.mpr ⟨r.text, List.mem_map_of_mem hr, he⟩
  rw [Dict.mem_items, get?_resolvedVersions, if_pos hk, found_name, hv, Option.filter_some_pos (by simpa using hne)]

lemma decodes_of_extracted {rs : List Requirement} (h : ∀ r ∈ rs, packageNameOf r.text = r.name) :
    Decodes rs := by
  refine ⟨h, fun pip timeout stdout stderr site hrun hsite => ?_⟩
  have hi : installPackages pip (rs.map Requirement.text) timeout =
      ⟨"ok", stdout.getD "", stderr.getD "", (resolvedVersions site (rs.map Requirement.text)).items, none⟩ := by
    rw [installPackages, hrun]
    rfl
  rw [hi]
  refine ⟨rfl, fun r hr => ?_⟩
  obtain ⟨ver, hv, hne⟩ := hsite r hr
  exact ⟨ver, hv, reported_of_extracted hr (h r hr) hv hne⟩

theorem decodes_iff (rs : List Requirement) : Decodes rs ↔ ∀ r ∈ rs, ¬ StartsCompatible r.versionSpecifier := by
  constructor
  · intro h r hr
    exact Requirement.packageNameOf_iff.mp (h.extracted r hr)
  · intro h
    exact decodes_of_extracted fun r hr => Requirement.packageNameOf_iff.mpr (h r hr)

def compatibleRelease : Requirement := ⟨"pandas", some "~=2.2", "pandas", some "~=2.2", rfl, rfl⟩

def pandasInstalled : Distributions := fun name => if name = "pandas" then some "2.2.3" else none

theorem compatible_release_misread : formatRequirement "pandas" (some "~=2.2") = .ok "pandas~=2.2" ∧
    packageNameOf "pandas~=2.2" = "pandas~=2.2" ∧
    (resolvedVersions pandasInstalled ["pandas~=2.2"]).items = [] ∧ ¬ Decodes [compatibleRelease] := by
  have hname : packageNameOf "pandas~=2.2" = "pandas~=2.2" := by decide
  refine ⟨rfl, hname, by decide, fun h => ?_⟩
  have he := h.extracted compatibleRelease (List.mem_singleton_self _)
  exact absurd (hname.symm.trans he) (by decide)

def Requirement.resolved (r : Requirement) : Resolved := ⟨r.name, r.spec.getD "", r.text⟩

lemma resolveItem_made {m m' : ResolvedMap} {item : PackageItem} (h : resolveItem m item = .ok m') :
    ∃ r : Requirement, m' = DependencyResolver.setItem (canonicalName r.name) r.resolved m := by
  have hr := h
  rw [resolveItem] at hr
  obtain ⟨p, hp, hr⟩ := except_bind_ok hr
  cases hf : p.1.filter fun name => name ≠ "" with
  | none =>
    rw [hf] at hr
    cases hr
  | some pkgName =>
    rw [hf] at hr
    obtain ⟨name, hn, hr⟩ := except_bind_ok hr
    obtain ⟨spec, hs, -⟩ := except_bind_ok hr
    rcases resolveItem_parts m hp hf hn hs with ⟨-, message, he⟩ | ⟨-, he⟩
    · rw [he] at h
      cases h
    · rw [he, Except.ok.injEq] at h
      exact ⟨⟨pkgName, p.2, name, spec, hn, hs⟩, h.symm⟩

lemma resolveItems_made {packages : List PackageItem} {m m' : ResolvedMap}
    (hm : ∀ p ∈ m, ∃ r : Requirement, r.resolved = p.2) (h : packages.foldlM resolveItem m = .ok m') :
    ∀ p ∈ m', ∃ r : Requirement, r.resolved = p.2 := by
  induction packages generalizing m with
  | nil =>
    cases h
    exact hm
  | cons item packages ih =>
    rw [List.foldlM_cons] at h
    obtain ⟨next, hi, h⟩ := except_bind_ok h
    obtain ⟨r, hr⟩ := resolveItem_made hi
    refine ih (fun p hp => ?_) h
    rw [hr] at hp
    rcases mem_setItem hp with rfl | hp
    · exact ⟨r, rfl⟩
    · exact hm p hp

theorem resolved_decodes {packages : List PackageItem} {reqs : List Resolved}
    (h : resolveRequirements packages = .ok reqs) :
    ∃ rs : List Requirement, rs.map Requirement.resolved = reqs ∧
      (Decodes rs ↔ ∀ q ∈ reqs, ¬ "~=".toList <+: q.versionSpecifier.toList) := by
  rw [resolveRequirements] at h
  obtain ⟨m, hm, h⟩ := except_bind_ok h
  cases h
  have hall := resolveItems_made (fun p hp => absurd hp List.not_mem_nil) hm
  obtain ⟨rs, hrs⟩ : m.map Prod.snd ∈ Set.range (List.map Requirement.resolved) := by
    rw [Set.range_list_map]
    intro q hq
    obtain ⟨p, hp, rfl⟩ := List.mem_map.mp hq
    exact hall p hp
  refine ⟨rs, hrs, ?_⟩
  rw [← hrs, List.forall_mem_map]
  constructor
  · intro hd r hr hc
    exact Requirement.packageNameOf_iff.mp (hd.extracted r hr) (Requirement.startsCompatible_iff.mpr hc)
  · intro hc
    refine decodes_of_extracted fun r hr => Requirement.packageNameOf_iff.mpr fun hs => ?_
    exact hc r hr (Requirement.startsCompatible_iff.mp hs)

end NotebookExecution.Dependencies
