import NotebookExecution.Dependencies.Validity
import NotebookExecution.Execution.PythonWorker
import NotebookExecution.Library.Dict
import NotebookExecution.Library.Versions

/-! The worker's check that packages are installed as their specifiers ask, and when its reply is right. -/

namespace NotebookExecution.Dependencies

open Library Library.Text Library.Versions DependencyValidator Execution

/-- The version of an installed distribution: numbers between dots. -/
structure Release where
  text : String
  dotted : isDotted text.toList = true

def Release.numbers (v : Release) : List ℕ := Versions.numbers v.text.toList

abbrev Site := String → Option Release

def isRun (c : Char) : Bool := c = '-' || c = '_' || c = '.'

def normalizedChars : List Char → List Char
  -- A run of dashes, underscores and dots counts as one underscore.
  | [] => []
  | c :: l =>
    if isRun c && l.head?.any isRun then normalizedChars l
    else (if isRun c then '_' else lowered c) :: normalizedChars l

def normalized (name : String) : String := String.ofList (normalizedChars name.toList)

def metadataVersion {β : Type} (site : String → Option β) (name : String) : Option β :=
  if name = "" then none else site (normalized name)

def getInstalledPackageVersion {β : Type} (site : String → Option β) (packageName : String) : Option β :=
  let canonicalName := DependencyResolver.canonicalName (strip packageName)
  match metadataVersion site canonicalName with
  | some version => some version
  | none => metadataVersion site (strip packageName)

lemma isRun_lowered (c : Char) : isRun (lowered c) = isRun c := by
  rcases lowered_cases c with h | ⟨ha, hz, -⟩
  · rw [h]
  · have hl : isRun (lowered c) = false := by
      simp only [isRun, Bool.or_eq_false_iff, decide_eq_false_iff_not]
      refine ⟨⟨?_, ?_⟩, ?_⟩ <;> intro he <;> rw [he] at ha hz
      · exact absurd ha (by decide)
      · exact absurd ha (by decide)
      · exact absurd ha (by decide)
    by_cases hc : isRun c = true
    · simp only [isRun, Bool.or_eq_true, decide_eq_true_iff] at hc
      rcases hc with (rfl | rfl) | rfl <;> rfl
    · rw [hl, Bool.not_eq_true _ |>.mp hc]

def canonicalChar (c : Char) : Char := if lowered c = '_' then '-' else lowered c

lemma isRun_canonicalChar (c : Char) : isRun (canonicalChar c) = isRun c := by
  rw [canonicalChar]
  split_ifs with h
  · rw [← isRun_lowered c, h]
    rfl
  · exact isRun_lowered c

lemma lowered_canonicalChar {c : Char} (hc : isRun c = false) : lowered (canonicalChar c) = lowered c := by
  have hu : lowered c ≠ '_' := by
    intro h
    rw [← isRun_lowered, h] at hc
    exact absurd hc (by decide)
  rw [canonicalChar, if_neg hu, lowered_lowered]

lemma normalizedChars_canonical (l : List Char) :
    normalizedChars (l.map canonicalChar) = normalizedChars l := by
  induction l with
  | nil => rfl
  | cons c l ih =>
    have hhead : (l.map canonicalChar).head?.any isRun = l.head?.any isRun := by
      cases l with
      | nil => rfl
      | cons d l => exact isRun_canonicalChar d
    rw [List.map_cons, normalizedChars, normalizedChars, isRun_canonicalChar, hhead, ih]
    by_cases hc : isRun c = true
    · simp only [hc, if_true]
    · simp only [hc, Bool.false_eq_true, if_false]
      rw [lowered_canonicalChar (by simpa using hc)]

lemma normalized_canonicalName (name : String) :
    normalized (DependencyResolver.canonicalName name) = normalized name := by
  rw [normalized, normalized, DependencyResolver.canonicalName, String.toList_ofList, lower_toList,
    List.map_map]
  exact congrArg String.ofList (normalizedChars_canonical name.toList)

lemma canonicalName_ne_empty {name : String} (h : name ≠ "") : DependencyResolver.canonicalName name ≠ "" := by
  intro he
  apply h
  rw [DependencyResolver.canonicalName, lower_toList, List.map_map] at he
  simpa using he

lemma getInstalledPackageVersion_eq {β : Type} {site : String → Option β} {name : String}
    (hs : strip name = name) (hne : name ≠ "") :
    getInstalledPackageVersion site name = site (normalized name) := by
  rw [getInstalledPackageVersion, hs, metadataVersion, if_neg (canonicalName_ne_empty hne),
    normalized_canonicalName, metadataVersion, if_neg hne]
  cases site (normalized name) <;> rfl

/-- The text behind the operator of an `==` clause. -/
def target (spec : String) : String := strip (String.ofList (spec.toList.drop 2))

def startsEqual (spec : String) : Bool := ['=', '='].isPrefixOf spec.toList

def mismatch (pkgName version spec : String) : String :=
  pkgName ++ (" (installed " ++ (version ++ (" does not match required " ++ (spec ++ ")"))))

def resolve (pkgName version : String) (r : VerifyReport) : VerifyReport :=
  { r with resolvedVersions := setItem pkgName version r.resolvedVersions }

def reject (text : String) (r : VerifyReport) : VerifyReport :=
  { r with satisfied := false, missingOrInvalid := r.missingOrInvalid ++ [text] }

def verifyItem (site : Site) (r : VerifyReport) (item : String × String) : VerifyReport :=
  let pkgName := strip item.1
  let spec := strip item.2
  match getInstalledPackageVersion site pkgName with
  | none => reject (pkgName ++ " (not installed)") r
  | some ver =>
    let resolved := resolve pkgName ver.text r
    if startsEqual spec && ver.text != target spec then reject (mismatch pkgName ver.text spec) resolved
    else resolved

section

variable {site : Site} {r : VerifyReport} {item : String × String} {pkgName spec : String}

lemma verifyItem_none (hp : strip item.1 = pkgName) (h : getInstalledPackageVersion site pkgName = none) :
    verifyItem site r item = reject (pkgName ++ " (not installed)") r := by
  unfold verifyItem
  dsimp only
  rw [hp, h]

lemma verifyItem_some {ver : Release} (hp : strip item.1 = pkgName) (hs : strip item.2 = spec)
    (h : getInstalledPackageVersion site pkgName = some ver) :
    verifyItem site r item =
      if startsEqual spec && ver.text != target spec then
        reject (mismatch pkgName ver.text spec) (resolve pkgName ver.text r)
      else resolve pkgName ver.text r := by
  unfold verifyItem
  dsimp only
  rw [hp, hs, h]

end

def verifyPackages (site : Site) (packages : List (String × String)) : VerifyReport :=
  packages.foldl (verifyItem site) ⟨true, [], []⟩

lemma serveCommand_verifyPackages {ν : Type} (I : Interpreter ν) (machine : Machine) (space : ν) (k : RequestId)
    (site : Site) (packages : List (String × String)) :
    serveCommand I { machine with verify := verifyPackages site packages } space (.verifyPackages k packages) =
      some (space, ⟨k, "ok", none, none, none, none, some (verifyPackages site packages).resolvedVersions,
        some (verifyPackages site packages).satisfied, some (verifyPackages site packages).missingOrInvalid⟩) :=
  rfl

structure Package where
  name : String
  specifier : Option String
  validName : validatePackageName name = .ok name
  validSpecifier : validateVersionSpecifier specifier = .ok specifier

namespace Package

def spec (p : Package) : String := p.specifier.getD ""

def entry (p : Package) : String × String := (p.name, p.spec)

def installed (site : Site) (p : Package) : Option Release := site (normalized p.name)

def Met (site : Site) (p : Package) : Prop := ∃ v ∈ p.installed site, Meets v.numbers p.spec.toList

def complaint (site : Site) (p : Package) : String :=
  match p.installed site with
  | none => p.name ++ " (not installed)"
  | some v => mismatch p.name v.text p.spec

/-- A version that meets the specifier is the one written behind `==`, where the specifier begins with
it; with any other operator the version that is installed meets the specifier. -/
def Decided (site : Site) (p : Package) : Prop :=
  ∀ v ∈ p.installed site,
    if startsEqual p.spec = true then Meets v.numbers p.spec.toList → v.text = target p.spec
    else Meets v.numbers p.spec.toList

instance (site : Site) (p : Package) : Decidable (p.Met site) :=
  match h : p.installed site with
  | none => isFalse fun hm => by
    obtain ⟨v, hv, -⟩ := hm
    rw [h] at hv
    cases hv
  | some v => decidable_of_iff (Meets v.numbers p.spec.toList) (by simp [Met, h])

end Package

structure Exact (site : Site) (packages : List Package) (r : VerifyReport) : Prop where
  satisfied : r.satisfied = true ↔ ∀ p ∈ packages, p.Met site
  named : r.missingOrInvalid = (packages.filter fun p => ¬ p.Met site).map (Package.complaint site)

namespace Package

variable {site : Site} {p q : Package}

def rejected (site : Site) (p : Package) : Bool :=
  match p.installed site with
  | none => true
  | some v => startsEqual p.spec && v.text != target p.spec

lemma name_chars (p : Package) : isPackageName p.name.toList = true := (validatePackageName_ok p.validName).2.2

lemma strip_spec (p : Package) : strip p.spec = p.spec := by
  rw [spec]
  cases hs : p.specifier with
  | none => rfl
  | some spec =>
    have hv := p.validSpecifier
    rw [hs] at hv
    exact strip_validSpecifier hv

lemma getInstalledPackageVersion_name (site : Site) (p : Package) :
    getInstalledPackageVersion site p.name = p.installed site :=
  getInstalledPackageVersion_eq (strip_validName p.validName) (validName_ne_empty p.validName)

lemma verifyItem_entry (site : Site) (p : Package) (r : VerifyReport) :
    (verifyItem site r p.entry).satisfied = (r.satisfied && !p.rejected site) ∧
      (verifyItem site r p.entry).missingOrInvalid =
        r.missingOrInvalid ++ if p.rejected site then [p.complaint site] else [] := by
  have hi := getInstalledPackageVersion_name site p
  have hp : strip p.entry.1 = p.name := strip_validName p.validName
  have hs : strip p.entry.2 = p.spec := p.strip_spec
  cases hv : p.installed site with
  | none =>
    have hr : p.rejected site = true := by rw [rejected, hv]
    have hc : p.complaint site = p.name ++ " (not installed)" := by rw [complaint, hv]
    rw [verifyItem_none hp (hi.trans hv), hr, hc]
    exact ⟨(Bool.and_false _).symm, rfl⟩
  | some v =>
    have hr : p.rejected site = (startsEqual p.spec && v.text != target p.spec) := by rw [rejected, hv]
    have hc : p.complaint site = mismatch p.name v.text p.spec := by rw [complaint, hv]
    rw [verifyItem_some hp hs (hi.trans hv), hr, hc]
    cases startsEqual p.spec && v.text != target p.spec
    · exact ⟨(Bool.and_true _).symm, (List.append_nil _).symm⟩
    · exact ⟨(Bool.and_false _).symm, rfl⟩

end Package

open Package

lemma foldl_verifyItem (site : Site) (packages : List Package) (r : VerifyReport) :
    ((packages.map entry).foldl (verifyItem site) r).satisfied =
        (r.satisfied && packages.all fun p => !p.rejected site) ∧
      ((packages.map entry).foldl (verifyItem site) r).missingOrInvalid =
        r.missingOrInvalid ++ (packages.filter (rejected site)).map (complaint site) := by
  induction packages generalizing r with
  | nil => simp
  | cons p packages ih =>
    obtain ⟨hs, hm⟩ := verifyItem_entry site p r
    obtain ⟨ihs, ihm⟩ := ih (verifyItem site r p.entry)
    rw [List.map_cons, List.foldl_cons, ihs, ihm, hs, hm, List.all_cons, Bool.and_assoc, List.append_assoc]
    refine ⟨rfl, congrArg _ ?_⟩
    cases hr : p.rejected site
    · rw [List.filter_cons_of_neg (by simp [hr])]
      rfl
    · rw [List.filter_cons_of_pos hr]
      rfl

lemma verifyPackages_eq (site : Site) (packages : List Package) :
    (verifyPackages site (packages.map entry)).satisfied = (packages.all fun p => !p.rejected site) ∧
      (verifyPackages site (packages.map entry)).missingOrInvalid =
        (packages.filter (rejected site)).map (complaint site) := by
  have h := foldl_verifyItem site packages ⟨true, [], []⟩
  rwa [Bool.true_and, List.nil_append] at h

namespace Package

variable {site : Site} {p q : Package}

lemma startsEqual_cons {spec : String} (h : startsEqual spec = true) :
    spec.toList = '=' :: '=' :: spec.toList.drop 2 := by
  obtain ⟨l, hl⟩ := List.isPrefixOf_iff_prefix.mp h
  rw [← hl]
  rfl

lemma meets_target {v : Release} {spec : String} (hs : startsEqual spec = true) (hv : v.text = target spec) :
    Meets v.numbers spec.toList := by
  have htrim : v.text.toList = trim (spec.toList.drop 2) := by
    rw [hv, target, strip_toList, String.toList_ofList, trim]
  have hd := v.dotted
  rw [htrim] at hd
  rw [startsEqual_cons hs, Release.numbers, htrim]
  exact meets_own_text hd

lemma decided_iff : p.Decided site ↔ (p.rejected site = true ↔ ¬ p.Met site) := by
  rw [Decided, rejected, Met]
  cases p.installed site with
  | none => simp
  | some v =>
    simp only [Option.mem_def, Option.some.injEq, forall_eq', exists_eq_left', Bool.and_eq_true, bne_iff_ne]
    by_cases hs : startsEqual p.spec = true
    · have ht := meets_target (v := v) hs
      simp only [hs, if_true, true_and]
      constructor
      · intro h
        exact ⟨fun hne hm => hne (h hm), fun hm he => hm (ht he)⟩
      · intro h hm
        by_contra hne
        exact h.mp hne hm
    · simp [hs]

lemma name_prefix (site : Site) (p : Package) : ∃ l, (p.complaint site).toList = p.name.toList ++ ' ' :: l := by
  rw [complaint]
  cases p.installed site with
  | none => exact ⟨_, by rw [String.toList_append]; rfl⟩
  | some v =>
    change ∃ l, (mismatch p.name v.text p.spec).toList = p.name.toList ++ ' ' :: l
    exact ⟨_, by rw [mismatch, String.toList_append, String.toList_append]; rfl⟩

lemma name_takeWhile (site : Site) (p : Package) :
    (p.complaint site).toList.takeWhile isNameChar = p.name.toList := by
  obtain ⟨l, hl⟩ := p.name_prefix site
  have hn := p.name_chars
  rw [isPackageName, Bool.and_eq_true, Bool.and_eq_true, List.all_eq_true] at hn
  rw [hl, List.takeWhile_append_of_pos hn.1.1, List.takeWhile_cons_of_neg (by decide), List.append_nil]

lemma complaint_inj (h : p.complaint site = q.complaint site) :
    p.rejected site = q.rejected site ∧ (p.Met site ↔ q.Met site) := by
  have hname : p.name = q.name := by
    rw [← String.toList_inj, ← p.name_takeWhile site, ← q.name_takeWhile site, h]
  have hi : p.installed site = q.installed site := by rw [installed, installed, hname]
  cases hv : q.installed site with
  | none =>
    rw [rejected, rejected, Met, Met, hi, hv]
    exact ⟨rfl, by simp⟩
  | some v =>
    have hspec : p.spec = q.spec := by
      rw [complaint, complaint, hi, hv] at h
      have hl := congrArg String.toList h
      exact String.toList_inj.mp (by simpa [mismatch, hname] using hl)
    rw [rejected, rejected, Met, Met, hi, hspec]
    exact ⟨rfl, Iff.rfl⟩

end Package

theorem verification_exact_iff (site : Site) (packages : List Package) :
    Exact site packages (verifyPackages site (packages.map entry)) ↔ ∀ p ∈ packages, p.Decided site := by
  obtain ⟨hsat, hnamed⟩ := verifyPackages_eq site packages
  simp only [decided_iff]
  constructor
  · intro h p hp
    have hmap := hnamed.symm.trans h.named
    constructor
    · intro hr
      have hmem : p.complaint site ∈ (packages.filter (rejected site)).map (complaint site) :=
        List.mem_map_of_mem (List.mem_filter.mpr ⟨hp, hr⟩)
      rw [hmap] at hmem
      obtain ⟨q, hq, he⟩ := List.mem_map.mp hmem
      rw [(complaint_inj he.symm).2]
      simpa using (List.mem_filter.mp hq).2
    · intro hm
      have hmem : p.complaint site ∈ (packages.filter fun p => ¬ p.Met site).map (complaint site) :=
        List.mem_map_of_mem (List.mem_filter.mpr ⟨hp, by simpa using hm⟩)
      rw [← hmap] at hmem
      obtain ⟨q, hq, he⟩ := List.mem_map.mp hmem
      rw [(complaint_inj he.symm).1]
      exact (List.mem_filter.mp hq).2
  · intro h
    constructor
    · rw [hsat, List.all_eq_true]
      refine forall₂_congr fun p hp => ?_
      have hpr := h p hp
      cases hr : p.rejected site
      · simpa [hr] using hpr
      · simpa [hr] using hpr
    · rw [hnamed]
      refine congrArg _ (List.filter_congr fun p hp => ?_)
      rw [Bool.eq_iff_iff, h p hp, decide_eq_true_iff]

def numpySite : Site := fun name => if name = "numpy" then some ⟨"1.26.4", by decide⟩ else none

def numpy : Package := ⟨"numpy", some ">=2.0", by decide +kernel, by decide +kernel⟩

theorem lower_bound_ignored :
    (verifyPackages numpySite [("numpy", ">=2.0")]).satisfied = true ∧ ¬ numpy.Met numpySite ∧
      ¬ ∀ site packages, Exact site packages (verifyPackages site (packages.map entry)) := by
  have hmet : ¬ numpy.Met numpySite := by decide +kernel
  have hsat : (verifyPackages numpySite [("numpy", ">=2.0")]).satisfied = true := by decide +kernel
  refine ⟨hsat, hmet, fun h => hmet ?_⟩
  exact (h numpySite [numpy]).satisfied.mp hsat numpy List.mem_cons_self

end NotebookExecution.Dependencies
