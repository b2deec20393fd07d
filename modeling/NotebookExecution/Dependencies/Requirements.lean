import NotebookExecution.Dependencies.Grammar

/-! The requirements that are made of names and specifiers, and how they are told apart again. -/

namespace NotebookExecution.Dependencies

open Library.Text Library.Patterns DependencyValidator

structure Requirement where
  packageName : String
  versionSpecifier : Option String
  name : String
  spec : Option String
  validName : validatePackageName packageName = .ok name
  validSpec : validateVersionSpecifier versionSpecifier = .ok spec

namespace Requirement

def text (r : Requirement) : String := r.name ++ r.spec.getD ""

end Requirement

variable {packageName requirement name spec : String} {versionSpecifier : Option String} {r r' : Requirement}

lemma formatRequirement_iff : formatRequirement packageName versionSpecifier = .ok requirement ↔
    ∃ r : Requirement, r.packageName = packageName ∧ r.versionSpecifier = versionSpecifier ∧
      r.text = requirement := by
  constructor
  · intro h
    rw [formatRequirement] at h
    obtain ⟨name, hn, h⟩ := except_bind_ok h
    obtain ⟨spec, hs, h⟩ := except_bind_ok h
    refine ⟨⟨packageName, versionSpecifier, name, spec, hn, hs⟩, rfl, rfl, ?_⟩
    cases spec with
    | none =>
      cases h
      exact String.append_empty
    | some spec =>
      cases h
      rfl
  · rintro ⟨r, rfl, rfl, rfl⟩
    rw [formatRequirement, r.validName, r.validSpec, Requirement.text]
    cases r.spec with
    | none => exact congrArg Except.ok String.append_empty.symm
    | some spec => rfl

lemma name_chars (h : validatePackageName packageName = .ok name) :
    name.toList.head?.any isAlphanumeric = true ∧ ∀ c ∈ name.toList, isNameChar c = true := by
  obtain ⟨-, -, hp⟩ := validatePackageName_ok h
  rw [isPackageName, Bool.and_eq_true, Bool.and_eq_true, List.all_eq_true] at hp
  exact ⟨hp.1.2, hp.1.1⟩

lemma specifier_checked (h : validateVersionSpecifier versionSpecifier = .ok (some spec)) :
    strip spec = spec ∧ spec ≠ "" ∧ Harmless spec.toList ∧ isVersionSpecifier spec.toList = true := by
  obtain ⟨-, -, -, -, -, hv⟩ := validateVersionSpecifier_ok h
  have hstrip := strip_validSpecifier h
  have hempty : spec ≠ "" := by
    rintro rfl
    exact absurd hv (by decide)
  have ha : Accepts spec := ⟨_, validateVersionSpecifier_idem h⟩
  have hchecks := (accepts_checks (by rwa [hstrip])).mp ha
  rw [hstrip] at hchecks
  exact ⟨hstrip, hempty, hchecks.1, hv⟩

lemma specifier_begins (h : validateVersionSpecifier versionSpecifier = .ok (some spec)) :
    ∃ o ∈ admittedRegex, o <+: spec.toList := by
  obtain ⟨hstrip, -, hharm, hv⟩ := specifier_checked h
  obtain ⟨ws, hne, hws, hl⟩ := mem_listed.mp (isVersionSpecifier_listed.mp hv)
  cases ws with
  | nil => exact absurd rfl hne
  | cons w ws =>
    rw [intercalate_headed] at hl
    obtain ⟨b₁, o, b₂, v, b₃, h₁, ho, -, -, -, rfl⟩ := mem_clause.mp (hws w List.mem_cons_self)
    rw [List.append_assoc, List.append_assoc] at hl
    have hb : b₁ = [] := by
      cases b₁ with
      | nil => rfl
      | cons c b₁ =>
        have hs := stripped_strip spec
        rw [hstrip, Stripped, hl] at hs
        have hc := h₁ c List.mem_cons_self
        rw [hs.1 c rfl] at hc
        cases hc
    rw [hb, List.nil_append] at hl
    refine ⟨o, admitted_harmless.mpr ⟨ho, fun c hc => hharm c ?_⟩, ?_⟩
    · rw [hl]
      exact List.mem_append_left _ hc
    · rw [hl]
      exact List.prefix_append _ _

namespace Requirement

lemma specifier_head (r : Requirement) : ∀ c ∈ (r.spec.getD "").toList.head?, isNameChar c = false := by
  cases hs : r.spec with
  | none =>
    intro c hc
    cases hc
  | some spec =>
    obtain ⟨o, ho, rest, hl⟩ := specifier_begins (hs ▸ r.validSpec)
    rw [Option.getD_some, ← hl]
    exact fun c hc => (operator_head ho.1 c hc).2

lemma specifier_harmless (r : Requirement) : Harmless (r.spec.getD "").toList := by
  cases hs : r.spec with
  | none =>
    intro c hc
    cases hc
  | some spec => exact (specifier_checked (hs ▸ r.validSpec)).2.2.1

lemma text_toList (r : Requirement) : r.text.toList = r.name.toList ++ (r.spec.getD "").toList :=
  String.toList_append

lemma name_read (r : Requirement) : r.text.toList.takeWhile isNameChar = r.name.toList := by
  have hn := (name_chars r.validName).2
  rw [text_toList, List.takeWhile_append_of_pos hn]
  cases hl : (r.spec.getD "").toList with
  | nil => simp
  | cons c l =>
    have hc := r.specifier_head c (by rw [hl]; rfl)
    simp [hc]

lemma spec_read (r : Requirement) : r.text.toList.dropWhile isNameChar = (r.spec.getD "").toList := by
  rw [text_toList]
  exact dropWhile_blanks (name_chars r.validName).2 r.specifier_head

lemma name_head (r : Requirement) : r.text.toList.head?.any isAlphanumeric = true := by
  obtain ⟨hhead, -⟩ := name_chars r.validName
  have hne : r.name.toList ≠ [] := by
    intro he
    rw [he] at hhead
    cases hhead
  rw [text_toList, List.head?_append_of_ne_nil _ hne]
  exact hhead

lemma text_harmless (r : Requirement) : Harmless r.text.toList := by
  have hname : ∀ c, isNameChar c = true → c ∉ forbiddenSpecifierChars := by
    intro c hc
    apply version_harmless
    rw [isVersionChar, hc]
    rfl
  rw [text_toList, Harmless, List.forall_mem_append]
  exact ⟨fun c hc => hname c ((name_chars r.validName).2 c hc), r.specifier_harmless⟩

lemma spec_of_text (h : r.spec.getD "" = r'.spec.getD "") : r.spec = r'.spec := by
  cases hs : r.spec with
  | none =>
    cases hs' : r'.spec with
    | none => rfl
    | some spec =>
      rw [hs, hs'] at h
      exact absurd h.symm (specifier_checked (hs' ▸ r'.validSpec)).2.1
  | some spec =>
    cases hs' : r'.spec with
    | none =>
      rw [hs, hs'] at h
      exact absurd h (specifier_checked (hs ▸ r.validSpec)).2.1
    | some spec' =>
      rw [hs, hs'] at h
      exact congrArg some h

lemma text_injective (h : r.text = r'.text) : r.name = r'.name ∧ r.spec = r'.spec := by
  constructor
  · rw [← String.toList_inj, ← r.name_read, ← r'.name_read, h]
  · apply spec_of_text
    rw [← String.toList_inj, ← r.spec_read, ← r'.spec_read, h]

end Requirement

structure Unambiguous (requirement name : String) (spec : Option String) : Prop where
  starts : requirement.toList.head?.any isAlphanumeric = true
  harmless : Harmless requirement.toList
  nameRead : requirement.toList.takeWhile isNameChar = name.toList
  specRead : requirement.toList.dropWhile isNameChar = (spec.getD "").toList
  only : ∀ packageName' versionSpecifier' name' spec', validatePackageName packageName' = .ok name' →
    validateVersionSpecifier versionSpecifier' = .ok spec' →
    formatRequirement packageName' versionSpecifier' = .ok requirement → name' = name ∧ spec' = spec
  nameAgain : validatePackageName name = .ok name
  specAgain : validateVersionSpecifier spec = .ok spec

theorem requirement_unambiguous (h : formatRequirement packageName versionSpecifier = .ok requirement) :
    ∃ name spec, validatePackageName packageName = .ok name ∧
      validateVersionSpecifier versionSpecifier = .ok spec ∧ Unambiguous requirement name spec := by
  obtain ⟨r, rfl, rfl, rfl⟩ := formatRequirement_iff.mp h
  refine ⟨r.name, r.spec, r.validName, r.validSpec, r.name_head, r.text_harmless, r.name_read,
    r.spec_read, ?_, validatePackageName_idem r.validName, validateVersionSpecifier_idem r.validSpec⟩
  intro packageName' versionSpecifier' name' spec' hn hs hf
  obtain ⟨r', rfl, rfl, hr⟩ := formatRequirement_iff.mp hf
  rw [r'.validName, Except.ok.injEq] at hn
  rw [r'.validSpec, Except.ok.injEq] at hs
  rw [← hn, ← hs]
  exact Requirement.text_injective hr

theorem scikit_unambiguous : ∃ name spec, validatePackageName " scikit-learn " = .ok name ∧
    validateVersionSpecifier (some "2.2.3") = .ok spec ∧ Unambiguous "scikit-learn==2.2.3" name spec :=
  requirement_unambiguous rfl

end NotebookExecution.Dependencies
