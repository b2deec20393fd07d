import NotebookExecution.Dependencies.Validity
import NotebookExecution.Library.Patterns

/-! The patterns of the validator, which its checks decide, and the grammar of the specifiers it accepts. -/

namespace NotebookExecution.Dependencies.DependencyValidator

open Library.Text Library.Patterns
open scoped Computability

/-- `^L$` for `re.match`: a line break may stand behind the end. -/
def anchored (L : Language Char) : Language Char := L * atMostOne (exactly ['\n'])

def packageNameRegex : Language Char :=
  oneOf isAlphanumeric * atMostOne ((oneOf isNameChar)∗ * oneOf isAlphanumeric)

def bareVersionRegex : Language Char :=
  repeated (oneOf isDigit) * (exactly ['.'] * repeated (oneOf isAlphanumeric))∗

def operators : List (List Char) :=
  ["==".toList, ">=".toList, "<=".toList, ">".toList, "<".toList, "~=".toList, "!=".toList]

def operatorRegex : Language Char := {l | l ∈ operators}

def versionRegex : Language Char := repeated (oneOf isVersionChar)

def blanks : Language Char := (oneOf isSpace)∗

def versionSpecifierRegex : Language Char :=
  blanks * operatorRegex * blanks * versionRegex *
    (blanks * exactly [','] * blanks * operatorRegex * blanks * versionRegex)∗ * blanks

variable {l b rest : List Char} {c : Char}

lemma mem_anchored {L : Language Char} (h : '\n' ∉ l) : l ∈ anchored L ↔ l ∈ L := by
  rw [anchored, Language.mem_mul]
  constructor
  · rintro ⟨a, ha, b, hb, rfl⟩
    rcases mem_atMostOne.mp hb with rfl | hb
    · rwa [List.append_nil]
    · rw [mem_exactly.mp hb] at h
      exact absurd (List.mem_append_right a (List.mem_singleton_self '\n')) h
  · intro hl
    exact ⟨l, hl, [], mem_atMostOne.mpr (Or.inl rfl), List.append_nil l⟩

lemma isVersionChar_range (h : isVersionChar c = true) : 0x2a ≤ c.toNat ∧ c.toNat ≤ 0x7a := by
  simp only [isVersionChar, isNameChar, isAlphanumeric, isDigit, Bool.or_eq_true, decide_eq_true_eq] at h
  rcases h with (((((hd | ha) | hz) | rfl) | rfl) | rfl) | rfl
  · have h0 : 0x30 ≤ c.toNat := UInt32.le_iff_toNat_le.mp hd.1
    have h9 : c.toNat ≤ 0x39 := UInt32.le_iff_toNat_le.mp hd.2
    omega
  · have h0 : 0x61 ≤ c.toNat := UInt32.le_iff_toNat_le.mp ha.1
    have h9 : c.toNat ≤ 0x7a := UInt32.le_iff_toNat_le.mp ha.2
    omega
  · have h0 : 0x41 ≤ c.toNat := UInt32.le_iff_toNat_le.mp hz.1
    have h9 : c.toNat ≤ 0x5a := UInt32.le_iff_toNat_le.mp hz.2
    omega
  all_goals decide

lemma isVersionChar_space (h : isVersionChar c = true) : isSpace c = false := by
  obtain ⟨hlow, hhigh⟩ := isVersionChar_range h
  exact isSpace_printed (by omega) (by omega)

lemma afterOperator_operator {o : List Char} (ho : o ∈ operators) (hr : ∀ c ∈ rest.head?, c ≠ '=') :
    afterOperator (o ++ rest) = some rest := by
  have hone : ∀ c : Char, c = '>' ∨ c = '<' → afterOperator (c :: rest) = some rest := by
    intro c hc
    cases rest with
    | nil => rcases hc with rfl | rfl <;> rfl
    | cons d rest =>
      have hd : d ≠ '=' := hr d rfl
      rcases hc with rfl | rfl <;> simp [afterOperator, hd]
  rw [operators] at ho
  simp only [List.mem_cons, List.not_mem_nil, or_false] at ho
  rcases ho with rfl | rfl | rfl | rfl | rfl | rfl | rfl
  · rfl
  · rfl
  · rfl
  · exact hone '>' (Or.inl rfl)
  · exact hone '<' (Or.inr rfl)
  · rfl
  · rfl

lemma operator_of_after (h : afterOperator l = some rest) : ∃ o ∈ operators, l = o ++ rest := by
  rw [afterOperator.eq_def] at h
  split at h
  · cases h
    exact ⟨"==".toList, by decide, rfl⟩
  · cases h
    exact ⟨">=".toList, by decide, rfl⟩
  · cases h
    exact ⟨"<=".toList, by decide, rfl⟩
  · cases h
    exact ⟨"~=".toList, by decide, rfl⟩
  · cases h
    exact ⟨"!=".toList, by decide, rfl⟩
  · cases h
    exact ⟨">".toList, by decide, rfl⟩
  · cases h
    exact ⟨"<".toList, by decide, rfl⟩
  · cases h

def clause (blank : Char → Bool) (ops : Language Char) : Language Char :=
  (oneOf blank)∗ * ops * (oneOf blank)∗ * versionRegex * (oneOf blank)∗

variable {blank : Char → Bool} {ops : Language Char}

lemma mem_clause : l ∈ clause blank ops ↔ ∃ b₁ o b₂ v b₃ : List Char, (∀ c ∈ b₁, blank c = true) ∧ o ∈ ops ∧
    (∀ c ∈ b₂, blank c = true) ∧ (v ≠ [] ∧ ∀ c ∈ v, isVersionChar c = true) ∧ (∀ c ∈ b₃, blank c = true) ∧
    l = b₁ ++ (o ++ (b₂ ++ (v ++ b₃))) := by
  simp only [clause, versionRegex, mul_assoc, Language.mem_mul, mem_star_oneOf, mem_repeated_oneOf]
  constructor
  · rintro ⟨b₁, h₁, _, ⟨o, ho, _, ⟨b₂, h₂, _, ⟨v, hv, b₃, h₃, rfl⟩, rfl⟩, rfl⟩, rfl⟩
    exact ⟨b₁, o, b₂, v, b₃, h₁, ho, h₂, hv, h₃, rfl⟩
  · rintro ⟨b₁, o, b₂, v, b₃, h₁, ho, h₂, hv, h₃, rfl⟩
    exact ⟨b₁, h₁, _, ⟨o, ho, _, ⟨b₂, h₂, _, ⟨v, hv, b₃, h₃, rfl⟩, rfl⟩, rfl⟩, rfl⟩

lemma dropWhile_blanks {p : Char → Bool} (hb : ∀ c ∈ b, p c = true) (hr : ∀ c ∈ rest.head?, p c = false) :
    (b ++ rest).dropWhile p = rest := by
  rw [List.dropWhile_append_of_pos hb]
  cases rest with
  | nil => rfl
  | cons c rest => rw [List.dropWhile_cons_of_neg (by simp [hr c rfl])]

lemma version_of_blanks {v b₃ : List Char} (hv : ∀ c ∈ v, isVersionChar c = true)
    (h₃ : ∀ c ∈ b₃, isSpace c = true) : ((v ++ b₃).reverse.dropWhile isSpace).reverse = v := by
  have hb : ∀ c ∈ b₃.reverse, isSpace c = true := fun c hc => h₃ c (List.mem_reverse.mp hc)
  have hr : ∀ c ∈ v.reverse.head?, isSpace c = false := fun c hc =>
    isVersionChar_space (hv c (List.mem_reverse.mp (List.mem_of_mem_head? hc)))
  rw [List.reverse_append, dropWhile_blanks hb hr, List.reverse_reverse]

lemma operator_begins {o : List Char} (ho : o ∈ operators) :
    ∃ c t, o = c :: t ∧ isSpace c = false ∧ isNameChar c = false := by
  rw [operators] at ho
  simp only [List.mem_cons, List.not_mem_nil, or_false] at ho
  rcases ho with rfl | rfl | rfl | rfl | rfl | rfl | rfl
  all_goals exact ⟨_, _, rfl, by decide, by decide⟩

lemma operator_head {o : List Char} (ho : o ∈ operators) :
    ∀ c ∈ (o ++ rest).head?, isSpace c = false ∧ isNameChar c = false := by
  obtain ⟨d, t, rfl, hd⟩ := operator_begins ho
  intro c hc
  cases hc
  exact hd

lemma version_head {v : List Char} (hne : v ≠ []) (hv : ∀ c ∈ v, isVersionChar c = true) :
    ∀ c ∈ (v ++ rest).head?, isVersionChar c = true := by
  rw [List.head?_append_of_ne_nil v hne]
  exact fun c hc => hv c (List.mem_of_mem_head? hc)

lemma isClause_iff : isClause l = true ↔ l ∈ clause isSpace operatorRegex := by
  rw [mem_clause]
  constructor
  · intro h
    rw [isClause] at h
    cases ha : afterOperator (l.dropWhile isSpace) with
    | none =>
      rw [ha] at h
      cases h
    | some rest =>
      rw [ha] at h
      obtain ⟨o, ho, hl⟩ := operator_of_after ha
      dsimp only at h
      rw [Bool.and_eq_true, List.all_eq_true] at h
      refine ⟨l.takeWhile isSpace, o, rest.takeWhile isSpace, (rest.dropWhile isSpace).rdropWhile isSpace,
        (rest.dropWhile isSpace).rtakeWhile isSpace, fun c => List.mem_takeWhile_imp, ho,
        fun c => List.mem_takeWhile_imp, ⟨?_, h.2⟩, fun c => List.mem_rtakeWhile_imp, ?_⟩
      · simpa [List.rdropWhile] using h.1
      · rw [List.rdropWhile_append_rtakeWhile, List.takeWhile_append_dropWhile, ← hl,
          List.takeWhile_append_dropWhile]
  · rintro ⟨b₁, o, b₂, v, b₃, h₁, ho, h₂, ⟨hne, hv⟩, h₃, rfl⟩
    have hhead : ∀ c ∈ (v ++ b₃).head?, isVersionChar c = true := version_head hne hv
    have hblank : ∀ c ∈ (v ++ b₃).head?, isSpace c = false := fun c hc => isVersionChar_space (hhead c hc)
    have hequal : ∀ c ∈ (b₂ ++ (v ++ b₃)).head?, c ≠ '=' := by
      rintro c hc rfl
      cases b₂ with
      | nil => exact absurd (hhead '=' hc) (by decide)
      | cons d b₂ =>
        cases hc
        exact absurd (h₂ '=' List.mem_cons_self) (by decide)
    rw [isClause, dropWhile_blanks h₁ fun c hc => (operator_head ho c hc).1, afterOperator_operator ho hequal]
    dsimp only
    rw [dropWhile_blanks h₂ hblank, version_of_blanks hv h₃, Bool.and_eq_true, List.all_eq_true]
    exact ⟨by simpa using hne, hv⟩

lemma clause_chars {blank : Char → Bool} {ops : Language Char} {q : Char → Prop} (hb : ∀ c, blank c = true → q c)
    (ho : ∀ o ∈ ops, ∀ c ∈ o, q c) (hv : ∀ c, isVersionChar c = true → q c) (hl : l ∈ clause blank ops) :
    ∀ c ∈ l, q c := by
  obtain ⟨b₁, o, b₂, v, b₃, h₁, hop, h₂, ⟨-, hver⟩, h₃, rfl⟩ := mem_clause.mp hl
  intro c hc
  simp only [List.mem_append] at hc
  rcases hc with hc | hc | hc | hc | hc
  · exact hb c (h₁ c hc)
  · exact ho o hop c hc
  · exact hb c (h₂ c hc)
  · exact hv c (hver c hc)
  · exact hb c (h₃ c hc)

lemma clause_comma (hl : l ∈ clause isSpace operatorRegex) : ',' ∉ l := by
  have hops : ∀ o ∈ operators, ',' ∉ o := by decide
  have hne : ∀ c ∈ l, c ≠ ',' := by
    refine clause_chars ?_ (fun o ho c hc he => hops o ho (he ▸ hc)) ?_ hl
    · rintro c hc rfl
      exact absurd hc (by decide)
    · rintro c hc rfl
      exact absurd hc (by decide)
  exact fun h => hne ',' h rfl

lemma isVersionSpecifier_listed : isVersionSpecifier l = true ↔ l ∈ listed ',' (clause isSpace operatorRegex) := by
  rw [← splitOn_listed fun w => clause_comma, isVersionSpecifier, List.all_eq_true]
  exact forall₂_congr fun w _ => isClause_iff

lemma versionSpecifierRegex_eq : versionSpecifierRegex = listed ',' (clause isSpace operatorRegex) := by
  have hslide : (blanks * (exactly [','] * blanks * operatorRegex * blanks * versionRegex))∗ * blanks =
      blanks * (exactly [','] * blanks * operatorRegex * blanks * versionRegex * blanks)∗ := star_slide _ _
  simp only [versionSpecifierRegex, listed, clause, mul_assoc] at hslide ⊢
  rw [hslide]
  rfl

theorem isVersionSpecifier_iff (h : '\n' ∉ l) : isVersionSpecifier l = true ↔ l ∈ anchored versionSpecifierRegex := by
  rw [mem_anchored h, versionSpecifierRegex_eq, isVersionSpecifier_listed]

theorem isPackageName_iff (h : '\n' ∉ l) : isPackageName l = true ↔ l ∈ anchored packageNameRegex := by
  rw [mem_anchored h, packageNameRegex, Language.mem_mul]
  constructor
  · intro hp
    rw [isPackageName, Bool.and_eq_true, Bool.and_eq_true, List.all_eq_true] at hp
    obtain ⟨⟨hall, hhead⟩, hlast⟩ := hp
    cases l with
    | nil => cases hhead
    | cons c l =>
      refine ⟨[c], ⟨c, hhead, rfl⟩, l, mem_atMostOne.mpr ?_, rfl⟩
      rcases List.eq_nil_or_concat' l with rfl | ⟨init, d, rfl⟩
      · exact Or.inl rfl
      · rw [← List.cons_append, List.getLast?_concat] at hlast
        have hinit : ∀ x ∈ init, isNameChar x = true := fun x hx =>
          hall x (List.mem_cons_of_mem c (List.mem_append_left _ hx))
        exact Or.inr (Language.append_mem_mul (mem_star_oneOf.mpr hinit) ⟨d, hlast, rfl⟩)
  · rintro ⟨_, ⟨c, hc, rfl⟩, b, hb, rfl⟩
    have hname : ∀ x, isAlphanumeric x = true → isNameChar x = true := by
      intro x hx
      rw [isNameChar, hx]
      rfl
    rw [isPackageName, Bool.and_eq_true, Bool.and_eq_true, List.all_eq_true]
    rcases mem_atMostOne.mp hb with rfl | hb
    · refine ⟨⟨fun x hx => ?_, hc⟩, hc⟩
      rw [List.mem_singleton.mp hx]
      exact hname c hc
    · obtain ⟨init, hinit, _, ⟨d, hd, rfl⟩, rfl⟩ := Language.mem_mul.mp hb
      refine ⟨⟨fun x hx => ?_, hc⟩, ?_⟩
      · simp only [List.mem_append, List.mem_singleton] at hx
        rcases hx with rfl | hx | rfl
        · exact hname x hc
        · exact mem_star_oneOf.mp hinit x hx
        · exact hname x hd
      · rw [← List.append_assoc, List.getLast?_concat]
        exact hd

lemma mem_number : isNumber l = true ↔ l ∈ repeated (oneOf isDigit) := by
  rw [mem_repeated_oneOf, isNumber, Bool.and_eq_true, List.all_eq_true]
  exact and_congr_left fun _ => by simp

lemma mem_part : (!l.isEmpty && l.all isAlphanumeric) = true ↔ l ∈ repeated (oneOf isAlphanumeric) := by
  rw [mem_repeated_oneOf, Bool.and_eq_true, List.all_eq_true]
  exact and_congr_left fun _ => by simp

theorem isBareVersion_iff (h : '\n' ∉ l) : isBareVersion l = true ↔ l ∈ anchored bareVersionRegex := by
  rw [mem_anchored h, bareVersionRegex, Language.mem_mul]
  constructor
  · intro hb
    have hl : ['.'].intercalate (l.splitOn '.') = l := List.intercalate_splitOn '.'
    rw [isBareVersion] at hb
    split at hb
    · next head parts hsplit =>
      rw [hsplit, intercalate_headed] at hl
      rw [Bool.and_eq_true, List.all_eq_true] at hb
      refine ⟨head, mem_number.mp hb.1, _, mem_star_headed.mpr ⟨parts, fun w hw => ?_, rfl⟩, hl⟩
      exact mem_part.mp (hb.2 w hw)
    · cases hb
  · rintro ⟨head, hhead, b, hb, rfl⟩
    obtain ⟨parts, hparts, rfl⟩ := mem_star_headed.mp hb
    have hfree : ∀ w ∈ head :: parts, '.' ∉ w := by
      rw [List.forall_mem_cons]
      refine ⟨fun hd => ?_, fun w hw hd => ?_⟩
      · exact absurd ((mem_repeated_oneOf.mp hhead).2 '.' hd) (by decide)
      · exact absurd ((mem_repeated_oneOf.mp (hparts w hw)).2 '.' hd) (by decide)
    rw [← intercalate_headed, isBareVersion, List.splitOn_intercalate '.' hfree (List.cons_ne_nil _ _)]
    dsimp only
    rw [Bool.and_eq_true, List.all_eq_true]
    exact ⟨mem_number.mpr hhead, fun w hw => mem_part.mpr (hparts w hw)⟩

def Accepts (s : String) : Prop := ∃ spec, validateVersionSpecifier (some s) = .ok spec

def Harmless (l : List Char) : Prop := ∀ c ∈ l, c ∉ forbiddenSpecifierChars

/-- White space that is no line break. LF and CR are the line breaks: they end a line in every convention
for text files. The vertical tab, the form feed and the separators beyond them only count as such to
`str.splitlines`, and to the pattern they are white space like a blank. -/
def isBlank (c : Char) : Bool := isSpace c && !(c = '\n' || c = '\r')

def admittedRegex : Language Char := {l | l ∈ operators ∧ l ≠ "!=".toList}

lemma find_forbidden : (forbiddenSpecifierChars.find? fun c => l.contains c) = none ↔ Harmless l := by
  rw [List.find?_eq_none]
  constructor
  · intro h c hc hf
    exact h c hf (List.contains_iff_mem.mpr hc)
  · intro h c hf hc
    exact h c (List.contains_iff_mem.mp hc) hf

lemma accepts_checks {s : String} (hs : strip s ≠ "") : Accepts s ↔
    Harmless (strip s).toList ∧ isVersionSpecifier (withOperator (strip s)).toList = true := by
  constructor
  · rintro ⟨spec, h⟩
    rcases validateVersionSpecifier_cases h with ⟨he, -⟩ | ⟨-, -, hf, hv⟩
    · exact absurd he hs
    · exact ⟨find_forbidden.mp hf, hv⟩
  · rintro ⟨hf, hv⟩
    refine ⟨some (withOperator (strip s)), ?_⟩
    rw [validateVersionSpecifier, if_neg hs]
    dsimp only
    rw [find_forbidden.mpr hf]
    exact if_pos hv

lemma bare_chars (h : l ∈ bareVersionRegex) : l ≠ [] ∧ ∀ c ∈ l, isVersionChar c = true := by
  obtain ⟨head, hhead, b, hb, rfl⟩ := Language.mem_mul.mp h
  obtain ⟨parts, hparts, rfl⟩ := mem_star_headed.mp hb
  obtain ⟨hne, hdigits⟩ := mem_repeated_oneOf.mp hhead
  have hversion : ∀ c, isAlphanumeric c = true → isVersionChar c = true := by
    intro c hc
    rw [isVersionChar, isNameChar, hc]
    rfl
  refine ⟨List.append_ne_nil_of_left_ne_nil hne _, ?_⟩
  rw [List.forall_mem_append]
  refine ⟨fun c hc => hversion c ?_, fun c hc => ?_⟩
  · rw [isAlphanumeric, hdigits c hc]
    rfl
  · obtain ⟨v, hv, hcv⟩ := List.mem_flatten.mp hc
    obtain ⟨w, hw, rfl⟩ := List.mem_map.mp hv
    rcases List.mem_cons.mp hcv with rfl | hcw
    · rfl
    · exact hversion c ((mem_repeated_oneOf.mp (hparts w hw)).2 c hcw)

lemma version_harmless (h : isVersionChar c = true) : c ∉ forbiddenSpecifierChars := by
  have hall : (forbiddenSpecifierChars.all fun c => !isVersionChar c) = true := by decide
  intro hc
  have hn := List.all_eq_true.mp hall c hc
  rw [h] at hn
  cases hn

lemma blank_harmless : isBlank c = true ↔ isSpace c = true ∧ c ∉ forbiddenSpecifierChars := by
  have hall : (forbiddenSpecifierChars.all fun c => !isBlank c) = true := by decide
  rw [isBlank, Bool.and_eq_true]
  refine and_congr_right fun hs => ?_
  constructor
  · intro h hc
    have hb := List.all_eq_true.mp hall c hc
    rw [isBlank, hs, h] at hb
    cases hb
  · intro h
    have hn : c ≠ '\n' := by
      rintro rfl
      exact h (by decide)
    have hr : c ≠ '\r' := by
      rintro rfl
      exact h (by decide)
    simp [hn, hr]

lemma admitted_harmless : l ∈ admittedRegex ↔ l ∈ operatorRegex ∧ Harmless l := by
  have hall : ∀ o ∈ operators, o ≠ "!=".toList →
      (o.all fun c => !forbiddenSpecifierChars.contains c) = true := by decide
  refine and_congr_right fun ho => ?_
  constructor
  · intro hne c hc
    simpa using List.all_eq_true.mp (hall l ho hne) c hc
  · rintro h rfl
    exact h '!' (by decide) (by decide)

lemma clause_harmless (w : List Char) :
    w ∈ clause isBlank admittedRegex ↔ w ∈ clause isSpace operatorRegex ∧ Harmless w := by
  constructor
  · intro hw
    refine ⟨?_, clause_chars (fun c hc => (blank_harmless.mp hc).2) (fun o ho => (admitted_harmless.mp ho).2)
      (fun c => version_harmless) hw⟩
    obtain ⟨b₁, o, b₂, v, b₃, h₁, ho, h₂, hv, h₃, rfl⟩ := mem_clause.mp hw
    exact mem_clause.mpr ⟨b₁, o, b₂, v, b₃, fun c hc => (blank_harmless.mp (h₁ c hc)).1, ho.1,
      fun c hc => (blank_harmless.mp (h₂ c hc)).1, hv, fun c hc => (blank_harmless.mp (h₃ c hc)).1, rfl⟩
  · rintro ⟨hw, hq⟩
    obtain ⟨b₁, o, b₂, v, b₃, h₁, ho, h₂, hv, h₃, rfl⟩ := mem_clause.mp hw
    simp only [Harmless, List.forall_mem_append] at hq
    obtain ⟨hq₁, hqo, hq₂, -, hq₃⟩ := hq
    exact mem_clause.mpr ⟨b₁, o, b₂, v, b₃, fun c hc => blank_harmless.mpr ⟨h₁ c hc, hq₁ c hc⟩,
      admitted_harmless.mpr ⟨ho, hqo⟩, fun c hc => blank_harmless.mpr ⟨h₂ c hc, hq₂ c hc⟩, hv,
      fun c hc => blank_harmless.mpr ⟨h₃ c hc, hq₃ c hc⟩, rfl⟩

lemma bare_with_operator (h : l ∈ bareVersionRegex) :
    "==".toList ++ l ∈ listed ',' (clause isBlank admittedRegex) := by
  obtain ⟨hne, hv⟩ := bare_chars h
  have hc : "==".toList ++ l ∈ clause isBlank admittedRegex := mem_clause.mpr
    ⟨[], "==".toList, [], l, [], by simp, ⟨by decide, by decide⟩, by simp, ⟨hne, hv⟩, by simp, by simp⟩
  exact mem_listed.mpr ⟨["==".toList ++ l], List.cons_ne_nil _ _, by simpa using hc, by simp⟩

lemma accepts_iff {s : String} (hs : strip s ≠ "") : Accepts s ↔
    (strip s).toList ∈ bareVersionRegex ∨ (strip s).toList ∈ listed ',' (clause isBlank admittedRegex) := by
  have hcomma : ',' ∉ forbiddenSpecifierChars := by decide
  have hlisted : ∀ l, l ∈ listed ',' (clause isBlank admittedRegex) ↔
      isVersionSpecifier l = true ∧ Harmless l := by
    intro l
    rw [isVersionSpecifier_listed]
    exact listed_restrict hcomma clause_harmless
  have hbreak : ∀ l, Harmless l → '\n' ∉ l := fun l h hn => h '\n' hn (by decide)
  rw [accepts_checks hs, withOperator]
  by_cases hb : isBareVersion (strip s).toList = true
  · have hbare : Harmless (strip s).toList → (strip s).toList ∈ bareVersionRegex := by
      intro h
      rw [← mem_anchored (hbreak _ h), ← isBareVersion_iff (hbreak _ h)]
      exact hb
    rw [if_pos hb, String.toList_append]
    constructor
    · rintro ⟨h, -⟩
      exact Or.inl (hbare h)
    · intro h
      have hharm : Harmless (strip s).toList := by
        rcases h with h | h
        · exact fun c hc => version_harmless ((bare_chars h).2 c hc)
        · exact ((hlisted _).mp h).2
      exact ⟨hharm, ((hlisted _).mp (bare_with_operator (hbare hharm))).1⟩
  · rw [if_neg hb, hlisted, and_comm]
    refine ⟨Or.inr, ?_⟩
    rintro (h | h)
    · have hn : '\n' ∉ (strip s).toList := hbreak _ fun c hc => version_harmless ((bare_chars h).2 c hc)
      exact absurd ((isBareVersion_iff hn).mpr ((mem_anchored hn).mpr h)) hb
    · exact h

def specifierGrammar : Language Char := bareVersionRegex + listed ',' (clause isBlank operatorRegex)

def Excludes (l : List Char) : Prop :=
  ∃ ws, ws ≠ [] ∧ (∀ w ∈ ws, w ∈ clause isBlank operatorRegex) ∧
    (∃ w ∈ ws, w ∈ clause isBlank (exactly "!=".toList)) ∧ l = [','].intercalate ws

lemma clause_cases (h : l ∈ clause isBlank operatorRegex) :
    l ∈ clause isBlank admittedRegex ∨ l ∈ clause isBlank (exactly "!=".toList) := by
  obtain ⟨b₁, o, b₂, v, b₃, h₁, ho, h₂, hv, h₃, rfl⟩ := mem_clause.mp h
  by_cases hne : o = "!=".toList
  · exact Or.inr (mem_clause.mpr ⟨b₁, o, b₂, v, b₃, h₁, hne, h₂, hv, h₃, rfl⟩)
  · exact Or.inl (mem_clause.mpr ⟨b₁, o, b₂, v, b₃, h₁, ⟨ho, hne⟩, h₂, hv, h₃, rfl⟩)

lemma clause_mono {ops ops' : Language Char} (h : ∀ o ∈ ops, o ∈ ops') (hl : l ∈ clause isBlank ops) :
    l ∈ clause isBlank ops' := by
  obtain ⟨b₁, o, b₂, v, b₃, h₁, ho, h₂, hv, h₃, rfl⟩ := mem_clause.mp hl
  exact mem_clause.mpr ⟨b₁, o, b₂, v, b₃, h₁, h o ho, h₂, hv, h₃, rfl⟩

lemma excluded_not_accepted {s : String} (hs : strip s ≠ "") (h : Excludes (strip s).toList) : ¬ Accepts s := by
  obtain ⟨ws, -, -, ⟨w, hw, hc⟩, hl⟩ := h
  have hbang : '!' ∈ w := by
    obtain ⟨b₁, o, b₂, v, b₃, -, ho, -, -, -, rfl⟩ := mem_clause.mp hc
    rw [mem_exactly.mp ho]
    exact List.mem_append_right _ (List.mem_append_left _ List.mem_cons_self)
  intro ha
  have hharm := ((accepts_checks hs).mp ha).1
  rw [hl, Harmless, forall_mem_intercalate (by decide)] at hharm
  exact hharm w hw '!' hbang (by decide)

lemma admitted_of_not_excluded (hl : l ∈ listed ',' (clause isBlank operatorRegex)) (h : ¬ Excludes l) :
    l ∈ listed ',' (clause isBlank admittedRegex) := by
  obtain ⟨ws, hne, hws, rfl⟩ := mem_listed.mp hl
  refine mem_listed.mpr ⟨ws, hne, fun w hw => ?_, rfl⟩
  exact (clause_cases (hws w hw)).resolve_right fun hc => h ⟨ws, hne, hws, ⟨w, hw, hc⟩, rfl⟩

theorem specifier_grammar_iff (s : String) (hs : strip s ≠ "") :
    (Accepts s ↔ (strip s).toList ∈ specifierGrammar) ↔ ¬ Excludes (strip s).toList := by
  constructor
  · intro h hx
    obtain ⟨ws, hne, hws, -, hl⟩ := id hx
    have hg : (strip s).toList ∈ specifierGrammar := Or.inr (mem_listed.mpr ⟨ws, hne, hws, hl⟩)
    exact excluded_not_accepted hs hx (h.mpr hg)
  · intro hx
    rw [accepts_iff hs, specifierGrammar, Language.mem_add]
    refine or_congr_right ⟨fun h => ?_, fun h => admitted_of_not_excluded h hx⟩
    obtain ⟨ws, hne, hws, hl⟩ := mem_listed.mp h
    exact mem_listed.mpr ⟨ws, hne, fun w hw => clause_mono (fun o ho => ho.1) (hws w hw), hl⟩

theorem compatible_follows_grammar :
    Accepts " ~= 1.4 , <2\t" ↔ (strip " ~= 1.4 , <2\t").toList ∈ specifierGrammar := by
  refine (specifier_grammar_iff " ~= 1.4 , <2\t" (by decide)).mpr ?_
  rintro h
  exact excluded_not_accepted (by decide) h ⟨_, rfl⟩

lemma unequal_excludes : Excludes (strip "!=1.0").toList := by
  have hstrip : strip "!=1.0" = "!=1.0" := by decide
  have hclause : "!=1.0".toList ∈ clause isBlank (exactly "!=".toList) :=
    mem_clause.mpr ⟨[], "!=".toList, [], "1.0".toList, [], by simp, rfl, by simp,
      ⟨by decide, List.all_eq_true.mp (by decide)⟩, by simp, by decide⟩
  have hops : ∀ o ∈ exactly "!=".toList, o ∈ operatorRegex := by
    rintro _ rfl
    change "!=".toList ∈ operators
    decide
  rw [hstrip]
  exact ⟨["!=1.0".toList], List.cons_ne_nil _ _, by simpa using clause_mono hops hclause,
    ⟨_, List.mem_singleton_self _, hclause⟩, by simp⟩

/-- The operator stands in the pattern, and its `!` among the forbidden characters. -/
theorem unequal_refused : isVersionSpecifier "!=1.0".toList = true ∧ strip "!=1.0" ≠ "" ∧
    ¬ (Accepts "!=1.0" ↔ (strip "!=1.0").toList ∈ specifierGrammar) := by
  refine ⟨by decide, by decide, fun h => ?_⟩
  obtain ⟨ws, hne, hws, -, hl⟩ := unequal_excludes
  exact excluded_not_accepted (by decide) unequal_excludes (h.mpr (Or.inr (mem_listed.mpr ⟨ws, hne, hws, hl⟩)))

end NotebookExecution.Dependencies.DependencyValidator
