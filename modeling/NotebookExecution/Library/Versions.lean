import NotebookExecution.Library.Text
import Mathlib.Data.List.Lex
import Mathlib.Data.Nat.Digits.Defs
import Mathlib.Data.Prod.Lex
import Mathlib.Order.WithBot
import Mathlib.Order.Lattice

/-! Version numbers and version specifiers as PEP 440 reads and orders them, for versions without
epoch and local part. What is compared with a specifier is a final release. -/

namespace NotebookExecution.Library.Versions

open Text

structure Version where
  release : List ℕ
  pre : Option (ℕ × ℕ)
  post : Option ℕ
  dev : Option ℕ
  deriving DecidableEq

def Version.final (release : List ℕ) : Version := ⟨release, none, none, none⟩

namespace Version

/-- A developmental release of nothing else comes before every pre-release, a pre-release before the rest. -/
def preKey (v : Version) : WithBot (WithTop (ℕ ×ₗ ℕ)) :=
  match v.pre with
  | some p => WithBot.some (WithTop.some (toLex p))
  | none => if v.post = none ∧ v.dev ≠ none then ⊥ else WithBot.some ⊤

/-- Zeros at the end of the release number do not count. -/
def key (v : Version) : List ℕ ×ₗ WithBot (WithTop (ℕ ×ₗ ℕ)) ×ₗ WithBot ℕ ×ₗ WithTop ℕ :=
  toLex (v.release.rdropWhile (· = 0),
    toLex (v.preKey, toLex (v.post.elim ⊥ WithBot.some, v.dev.elim ⊤ WithTop.some)))

instance : Preorder Version := Preorder.lift key

instance (v w : Version) : Decidable (v ≤ w) := inferInstanceAs (Decidable (v.key ≤ w.key))

instance (v w : Version) : Decidable (v < w) := inferInstanceAs (Decidable (v.key < w.key))

end Version

inductive Clause
  | equal (v : Version)
  | within (release : List ℕ)
  | atLeast (v : Version)
  | atMost (v : Version)
  | above (v : Version)
  | below (v : Version)
  | compatible (v : Version)
  deriving DecidableEq

def Within (r p : List ℕ) : Prop := p <+: r ++ List.replicate p.length 0

instance (r p : List ℕ) : Decidable (Within r p) := inferInstanceAs (Decidable (_ <+: _))

def Clause.Meets (r : List ℕ) : Clause → Prop
  | .equal v => (Version.final r).key = v.key
  | .within p => Within r p
  | .atLeast v => v ≤ .final r
  | .atMost v => .final r ≤ v
  | .above v => v < .final r
  | .below v => .final r < v
  -- Suffixes of the version do not count for what the release has to begin with.
  | .compatible v => v ≤ .final r ∧ Within r v.release.dropLast

instance (r : List ℕ) : (c : Clause) → Decidable (c.Meets r)
  | .equal _ => inferInstanceAs (Decidable (_ = _))
  | .within _ => inferInstanceAs (Decidable (Within _ _))
  | .atLeast _ => inferInstanceAs (Decidable (_ ≤ _))
  | .atMost _ => inferInstanceAs (Decidable (_ ≤ _))
  | .above _ => inferInstanceAs (Decidable (_ < _))
  | .below _ => inferInstanceAs (Decidable (_ < _))
  | .compatible _ => inferInstanceAs (Decidable (_ ∧ _))

def number (l : List Char) : ℕ := Nat.ofDigits 10 (l.reverse.map fun c => c.toNat - 48)

def isDotted (l : List Char) : Bool := (l.splitOn '.').all isNumber

def numbers (l : List Char) : List ℕ := (l.splitOn '.').map number

def isSeparator (c : Char) : Bool := c = '-' || c = '_' || c = '.'

def dropSeparator : List Char → List Char
  | c :: l => if isSeparator c then l else c :: l
  | [] => []

def suffix (names : List String) (l : List Char) : Option (String × ℕ × List Char) :=
  -- `[-_.]?(name)[-_.]?([0-9]+)?`: the name, its number and what follows; of two names the longer comes first.
  let body := dropSeparator l
  (names.find? fun name => name.toList.isPrefixOf body).map fun name =>
    let rest := dropSeparator (body.drop name.length)
    (name, number (rest.takeWhile isDigit), rest.dropWhile isDigit)

def preSuffix (l : List Char) : Option (ℕ × ℕ) × List Char :=
  match suffix ["alpha", "a", "beta", "b", "preview", "pre", "c", "rc"] l with
  | some (name, n, rest) =>
    (some (if name = "alpha" ∨ name = "a" then 0 else if name = "beta" ∨ name = "b" then 1 else 2, n), rest)
  | none => (none, l)

def postSuffix (l : List Char) : Option ℕ × List Char :=
  -- A number behind a dash is a post-release too.
  match l with
  | '-' :: c :: rest =>
    if isDigit c then (some (number ((c :: rest).takeWhile isDigit)), (c :: rest).dropWhile isDigit)
    else named l
  | _ => named l
where
  named (l : List Char) : Option ℕ × List Char :=
    match suffix ["post", "rev", "r"] l with
    | some (_, n, rest) => (some n, rest)
    | none => (none, l)

def devSuffix (l : List Char) : Option ℕ × List Char :=
  match suffix ["dev"] l with
  | some (_, n, rest) => (some n, rest)
  | none => (none, l)

def withSuffixes (release : List ℕ) (l : List Char) : Option Version :=
  let pre := preSuffix l
  let post := postSuffix pre.2
  let dev := devSuffix post.2
  if dev.2 = [] then some ⟨release, pre.1, post.1, dev.1⟩ else none

def isReleaseChar (c : Char) : Bool := isDigit c || c = '.'

def parseVersion (text : List Char) : Option Version :=
  let lowered := text.map Char.toLower
  let l := if lowered.head? = some 'v' then lowered.tail else lowered
  let head := l.takeWhile isReleaseChar
  let rest := l.dropWhile isReleaseChar
  -- A dot behind the release number belongs to the suffix.
  let parts := if head.getLast? = some '.' then (head.dropLast, '.' :: rest) else (head, rest)
  if isDotted parts.1 then withSuffixes (numbers parts.1) parts.2 else none

def trim (l : List Char) : List Char := (l.dropWhile isSpace).rdropWhile isSpace

def parseEqual (l : List Char) : Option Clause :=
  if ['.', '*'] <:+ l then
    ((parseVersion (l.take (l.length - 2))).filter fun v => v = .final v.release).map fun v => .within v.release
  else (parseVersion l).map .equal

def parseClause (l : List Char) : Option Clause :=
  match l.dropWhile isSpace with
  | '=' :: '=' :: v => parseEqual (trim v)
  | '>' :: '=' :: v => (parseVersion (trim v)).map .atLeast
  | '<' :: '=' :: v => (parseVersion (trim v)).map .atMost
  | '~' :: '=' :: v =>
    -- One number alone is compatible with everything, and is refused.
    ((parseVersion (trim v)).filter fun v => 2 ≤ v.release.length).map .compatible
  | '>' :: v => (parseVersion (trim v)).map .above
  | '<' :: v => (parseVersion (trim v)).map .below
  | _ => none

def parseSpecifier (l : List Char) : Option (List Clause) :=
  ((l.splitOn ',').filter fun w => !w.all isSpace).mapM parseClause

def Meets (r : List ℕ) (specifier : List Char) : Prop :=
  match parseSpecifier specifier with
  | some clauses => ∀ c ∈ clauses, c.Meets r
  | none => False

instance (r : List ℕ) (specifier : List Char) : Decidable (Meets r specifier) :=
  match h : parseSpecifier specifier with
  | some clauses => decidable_of_iff (∀ c ∈ clauses, c.Meets r) (by rw [Meets, h])
  | none => isFalse (by rw [Meets, h]; exact id)

variable {l rest : List Char} {c : Char}

lemma isReleaseChar_of_split (h : ∀ w ∈ l.splitOn '.', w.all isDigit = true) :
    ∀ c ∈ l, isReleaseChar c = true := by
  induction l with
  | nil => exact fun c hc => absurd hc List.not_mem_nil
  | cons a l ih =>
    rw [List.splitOn_cons_eq_if_modifyHead] at h
    by_cases ha : a = '.'
    · rw [if_pos (by simpa using ha)] at h
      intro c hc
      rcases List.mem_cons.mp hc with rfl | hl
      · rw [ha]
        decide
      · exact ih (fun w hw => h w (List.mem_cons_of_mem _ hw)) c hl
    · rw [if_neg (by simpa using ha)] at h
      obtain ⟨w, ws, hs⟩ := List.exists_cons_of_ne_nil (List.splitOn_ne_nil '.' l)
      rw [hs, List.modifyHead_cons] at h
      have hw := h (a :: w) List.mem_cons_self
      rw [List.all_cons, Bool.and_eq_true] at hw
      have hl : ∀ v ∈ l.splitOn '.', v.all isDigit = true := by
        intro v hv
        rw [hs] at hv
        rcases List.mem_cons.mp hv with rfl | hv
        · exact hw.2
        · exact h v (List.mem_cons_of_mem _ hv)
      intro c hc
      rcases List.mem_cons.mp hc with rfl | hc
      · rw [isReleaseChar, hw.1, Bool.true_or]
      · exact ih hl c hc

lemma isDotted_releaseChar (h : isDotted l = true) : ∀ c ∈ l, isReleaseChar c = true := by
  apply isReleaseChar_of_split
  intro w hw
  have hn := List.all_eq_true.mp h w hw
  rw [isNumber, Bool.and_eq_true] at hn
  exact hn.2

lemma isDotted_getLast (h : isDotted l = true) : l.getLast? ≠ some '.' := by
  intro hl
  obtain ⟨ys, rfl⟩ := List.getLast?_eq_some_iff.mp hl
  rw [isDotted, List.splitOn_append_cons_self, List.all_append, Bool.and_eq_true] at h
  exact absurd h.2 (by decide)

lemma isReleaseChar_le (h : isReleaseChar c = true) : 0x2e ≤ c.toNat ∧ c.toNat ≤ 0x39 := by
  rw [isReleaseChar, Bool.or_eq_true, isDigit, decide_eq_true_iff, decide_eq_true_iff] at h
  rcases h with ⟨hl, hu⟩ | rfl
  · have hl' : 0x30 ≤ c.toNat := UInt32.le_iff_toNat_le.mp hl
    have hu' : c.toNat ≤ 0x39 := UInt32.le_iff_toNat_le.mp hu
    omega
  · decide

lemma parseVersion_dotted (h : isDotted l = true) : parseVersion l = some (.final (numbers l)) := by
  have hchars := isDotted_releaseChar h
  have hlower : l.map Char.toLower = l := by
    conv_rhs => rw [← List.map_id l]
    apply List.map_congr_left
    intro c hc
    have hle := isReleaseChar_le (hchars c hc)
    rcases toLower_cases c with he | ⟨ha, -⟩
    · exact he
    · omega
  have hv : l.head? ≠ some 'v' := by
    intro hh
    exact absurd (hchars 'v' (List.mem_of_head? hh)) (by decide)
  rw [parseVersion, hlower, if_neg hv, List.takeWhile_eq_self_iff.mpr hchars,
    List.dropWhile_eq_nil_iff.mpr hchars, if_neg (isDotted_getLast h), if_pos h]
  rfl

lemma parseEqual_dotted (h : isDotted l = true) : parseEqual l = some (.equal (.final (numbers l))) := by
  have hstar : ¬ ['.', '*'] <:+ l := by
    intro hs
    exact absurd (isDotted_releaseChar h '*' (hs.subset (by simp))) (by decide)
  rw [parseEqual, if_neg hstar, parseVersion_dotted h]
  rfl

lemma mem_trim_or_space (hc : c ∈ l) : c ∈ trim l ∨ isSpace c = true := by
  rw [← List.takeWhile_append_dropWhile (p := isSpace) (l := l), List.mem_append] at hc
  rcases hc with ht | hd
  · exact Or.inr (List.mem_takeWhile_imp ht)
  · rw [← List.rdropWhile_append_rtakeWhile (p := isSpace) (l := l.dropWhile isSpace), List.mem_append] at hd
    rcases hd with hd | hd
    · exact Or.inl hd
    · exact Or.inr (List.mem_rtakeWhile_imp hd)

theorem meets_own_text (h : isDotted (trim rest) = true) :
    Meets (numbers (trim rest)) ('=' :: '=' :: rest) := by
  have hcomma : ',' ∉ '=' :: '=' :: rest := by
    intro hm
    have hr : ',' ∈ rest := by simpa using hm
    rcases mem_trim_or_space hr with ht | hs
    · exact absurd (isDotted_releaseChar h ',' ht) (by decide)
    · exact absurd hs (by decide)
  have hclause : parseClause ('=' :: '=' :: rest) = some (.equal (.final (numbers (trim rest)))) := by
    rw [parseClause, List.dropWhile_cons_of_neg (by decide)]
    exact parseEqual_dotted h
  have hspec : parseSpecifier ('=' :: '=' :: rest) = some [.equal (.final (numbers (trim rest)))] := by
    have hspace : (!('=' :: '=' :: rest).all isSpace) = true := by
      rw [List.all_cons]
      rfl
    rw [parseSpecifier, List.splitOn_eq_singleton hcomma, List.filter_cons, if_pos hspace, List.filter_nil,
      List.mapM_cons, hclause]
    rfl
  rw [Meets, hspec]
  intro c hc
  rw [List.mem_singleton.mp hc, Clause.Meets]

end NotebookExecution.Library.Versions
