import NotebookExecution.Library.Text

/-! JSON documents as Python reads them: the values `json.loads` makes, their truth value, `int` of
them, and `==` between them. -/

namespace NotebookExecution.Library.Json

open Text

/-- A float by its value; the sign of zero is not kept. -/
inductive Num
  | finite (q : ℚ)
  | infinite (negative : Bool)
  | nan
  deriving DecidableEq

mutual

inductive JsonValue
  | null
  | bool (b : Bool)
  | int (n : ℤ)
  | float (x : Num)
  | string (s : String)
  | array (items : JsonItems)
  | object (fields : JsonFields)
  deriving DecidableEq

inductive JsonItems
  | nil
  | cons (v : JsonValue) (rest : JsonItems)
  deriving DecidableEq

inductive JsonFields
  | nil
  | cons (key : String) (v : JsonValue) (rest : JsonFields)
  deriving DecidableEq

end

namespace JsonFields

def get (k : String) : JsonFields → Option JsonValue
  | .nil => none
  | .cons key v rest => if key = k then some v else rest.get k

def keys : JsonFields → List String
  | .nil => []
  | .cons key _ rest => key :: rest.keys

lemma mem_keys {k : String} {o : JsonFields} : k ∈ o.keys ↔ (o.get k).isSome = true := by
  cases o with
  | nil => simp [keys, get]
  | cons key v rest =>
    rw [keys, get, List.mem_cons, mem_keys]
    by_cases h : key = k
    · simp [h]
    · simp [h, Ne.symm h]

end JsonFields

/-- Python's `bool` is a kind of integer. -/
def number : JsonValue → Option Num
  | .bool b => some (.finite (if b then 1 else 0))
  | .int n => some (.finite n)
  | .float x => some x
  | _ => none

def truth : JsonValue → Bool
  | .null => false
  | .string s => s ≠ ""
  | .array items => items ≠ .nil
  | .object fields => fields ≠ .nil
  | v => number v ≠ some (.finite 0)

def typeName : JsonValue → String
  | .null => "NoneType"
  | .bool _ => "bool"
  | .int _ => "int"
  | .float _ => "float"
  | .string _ => "str"
  | .array _ => "list"
  | .object _ => "dict"

inductive IntError
  | notANumber (type : String)
  | invalidLiteral (text : String)
  | tooManyDigits (count : ℕ)
  | nan
  | infinity

def digitZeros : List ℕ :=
  [0x30, 0x660, 0x6f0, 0x7c0, 0x966, 0x9e6, 0xa66, 0xae6, 0xb66, 0xbe6, 0xc66, 0xce6, 0xd66, 0xde6, 0xe50,
    0xed0, 0xf20, 0x1040, 0x1090, 0x17e0, 0x1810, 0x1946, 0x19d0, 0x1a80, 0x1a90, 0x1b50, 0x1bb0, 0x1c40,
    0x1c50, 0xa620, 0xa8d0, 0xa900, 0xa9d0, 0xa9f0, 0xaa50, 0xabf0, 0xff10, 0x104a0, 0x10d30, 0x11066,
    0x110f0, 0x11136, 0x111d0, 0x112f0, 0x11450, 0x114d0, 0x11650, 0x116c0, 0x11730, 0x118e0, 0x11950,
    0x11c50, 0x11d50, 0x11da0, 0x11f50, 0x16a60, 0x16ac0, 0x16b50, 0x1d7ce, 0x1d7d8, 0x1d7e2, 0x1d7ec,
    0x1d7f6, 0x1e140, 0x1e2f0, 0x1e4f0, 0x1e950, 0x1fbf0]

def decimal (c : Char) : Option ℕ :=
  digitZeros.findSome? fun z => if z ≤ c.toNat ∧ c.toNat < z + 10 then some (c.toNat - z) else none

def decimals : List Char → Option (List ℕ)
  | [] => none
  | [c] => (decimal c).map fun n => [n]
  | c :: '_' :: rest => do pure ((← decimal c) :: (← decimals rest))
  | c :: d :: rest => do pure ((← decimal c) :: (← decimals (d :: rest)))

def signed : List Char → Bool × List Char
  | '-' :: l => (true, l)
  | '+' :: l => (false, l)
  | l => (false, l)

/-- A text of ASCII characters only is taken as it is, and there the four separators are no space. -/
def isIntSpace (text : List Char) (c : Char) : Bool :=
  isSpace c && !(text.all (fun x => x.toNat < 128) && decide (0x1c ≤ c.toNat ∧ c.toNat ≤ 0x1f))

def intOfText (s : String) : Except IntError ℤ :=
  let text := s.toList
  let (negative, digits) :=
    signed ((text.dropWhile (isIntSpace text)).reverse.dropWhile (isIntSpace text)).reverse
  match decimals digits with
  | none => .error (.invalidLiteral s)
  | some ds =>
    if 4300 < ds.length then .error (.tooManyDigits ds.length)
    else
      let n : ℤ := ds.foldl (fun n d => 10 * n + d) 0
      .ok (if negative then -n else n)

def toInt (v : JsonValue) : Except IntError ℤ :=
  match number v, v with
  | some (.finite q), _ => .ok (q.num.tdiv q.den)
  | some .nan, _ => .error .nan
  | some (.infinite _), _ => .error .infinity
  | none, .string s => intOfText s
  | none, _ => .error (.notANumber (typeName v))

example : (toInt (.string " +5_432\n")).toOption = some 5432 := by decide +kernel
example : (toInt (.float (.finite (-7 / 2)))).toOption = some (-3) := by decide +kernel

def Num.same : Num → Num → Bool
  | .nan, _ => false
  | x, y => x = y

mutual

/-- `==`: numbers of any type by value, objects whatever the order of their keys. -/
def same : JsonValue → JsonValue → Bool
  | .array xs, .array ys => sameItems xs ys
  | .object xs, .object ys => covers xs ys && ys.keys.all fun k => (xs.get k).isSome
  | .string s, .string t => s = t
  | .null, .null => true
  | u, v =>
    match number u, number v with
    | some x, some y => x.same y
    | _, _ => false

def sameItems : JsonItems → JsonItems → Bool
  | .nil, .nil => true
  | .cons u us, .cons v vs => same u v && sameItems us vs
  | _, _ => false

def covers : JsonFields → JsonFields → Bool
  | .nil, _ => true
  | .cons key v rest, ys =>
    (match ys.get key with
      | some w => same v w
      | none => false) && covers rest ys

end

def sameFields (xs ys : JsonFields) : Bool := same (.object xs) (.object ys)

lemma Num.eq_of_same {x y : Num} (h : x.same y = true) : x = y := by
  cases x with
  | nan => cases h
  | finite q => exact of_decide_eq_true h
  | infinite negative => exact of_decide_eq_true h

lemma same_numbers {u v : JsonValue} {x : Num} (hu : number u = some x) (h : same u v = true) :
    number v = some x := by
  cases hv : number v with
  | some y =>
    have hxy : x.same y = true := by
      cases u <;> cases v <;> simp_all [same, number]
    rw [Num.eq_of_same hxy]
  | none => cases u <;> cases v <;> simp_all [same, number]

lemma same_cases {u v : JsonValue} (h : same u v = true) :
    (∃ x, number u = some x ∧ number v = some x) ∨ u = v ∨
      (∃ xs ys, u = .array xs ∧ v = .array ys ∧ sameItems xs ys = true) ∨
      ∃ xs ys, u = .object xs ∧ v = .object ys ∧ sameFields xs ys = true := by
  cases hu : number u with
  | some x => exact Or.inl ⟨x, rfl, same_numbers hu h⟩
  | none =>
    apply Or.inr
    cases u with
    | array xs => cases v <;> simp_all [same, number]
    | object xs => cases v <;> simp_all [same, number, sameFields]
    | string s => cases v <;> simp_all [same, number]
    | null => cases v <;> simp_all [same, number]
    | _ => cases hu

lemma toInt_number {v : JsonValue} {x : Num} (h : number v = some x) : toInt v = toInt (.float x) := by
  cases v <;> cases h <;> rfl

theorem toInt_same {u v : JsonValue} (h : same u v = true) : toInt u = toInt v := by
  rcases same_cases h with ⟨x, hu, hv⟩ | rfl | ⟨xs, ys, rfl, rfl, -⟩ | ⟨xs, ys, rfl, rfl, -⟩
  · rw [toInt_number hu, toInt_number hv]
  · rfl
  · rfl
  · rfl

lemma truth_number {v : JsonValue} {x : Num} (h : number v = some x) : truth v = truth (.float x) := by
  cases v <;> simp_all [truth, number]

theorem truth_same {u v : JsonValue} (h : same u v = true) : truth u = truth v := by
  rcases same_cases h with ⟨x, hu, hv⟩ | rfl | ⟨xs, ys, rfl, rfl, hs⟩ | ⟨xs, ys, rfl, rfl, hs⟩
  · rw [truth_number hu, truth_number hv]
  · rfl
  · cases xs <;> cases ys <;> simp_all [sameItems, truth]
  · cases xs <;> cases ys <;> simp_all [sameFields, same, covers, truth, JsonFields.keys, JsonFields.get]

lemma covers_get {xs ys : JsonFields} (h : covers xs ys = true) {k : String} {u : JsonValue}
    (hk : xs.get k = some u) : ∃ v, ys.get k = some v ∧ same u v = true := by
  cases xs with
  | nil => cases hk
  | cons key w rest =>
    rw [covers, Bool.and_eq_true] at h
    rw [JsonFields.get] at hk
    by_cases hkey : key = k
    · rw [if_pos hkey] at hk
      cases hk
      rw [hkey] at h
      cases hv : ys.get k with
      | none => simp [hv] at h
      | some v => exact ⟨v, rfl, by simpa [hv] using h.1⟩
    · rw [if_neg hkey] at hk
      exact covers_get h.2 hk

theorem get_same {xs ys : JsonFields} (h : sameFields xs ys = true) (k : String) :
    (xs.get k = none ∧ ys.get k = none) ∨
      ∃ u v, xs.get k = some u ∧ ys.get k = some v ∧ same u v = true := by
  rw [sameFields, same, Bool.and_eq_true, List.all_eq_true] at h
  cases hx : xs.get k with
  | some u =>
    obtain ⟨v, hv, hs⟩ := covers_get h.1 hx
    exact Or.inr ⟨u, v, rfl, hv, hs⟩
  | none =>
    cases hy : ys.get k with
    | none => exact Or.inl ⟨rfl, rfl⟩
    | some v =>
      have hm : k ∈ ys.keys := JsonFields.mem_keys.mpr (by rw [hy]; rfl)
      have hs := h.2 k hm
      rw [hx] at hs
      cases hs

end NotebookExecution.Library.Json
