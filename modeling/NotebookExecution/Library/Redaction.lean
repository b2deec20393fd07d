import NotebookExecution.Library.Json

/-! Objects in which the values under some keys are hidden: masked, or left out with their keys. -/

namespace NotebookExecution.Library.Json

variable {hidden : String → Bool}

namespace JsonFields

def mask (hidden : String → Bool) (v : JsonValue) : JsonFields → JsonFields
  | .nil => .nil
  | .cons key w rest => .cons key (if hidden key then v else w) (rest.mask hidden v)

def without (hidden : String → Bool) : JsonFields → JsonFields
  | .nil => .nil
  | .cons key w rest => if hidden key then rest.without hidden else .cons key w (rest.without hidden)

def agreeOutside (hidden : String → Bool) : JsonFields → JsonFields → Bool
  | .nil, .nil => true
  | .cons j u us, .cons k v vs => decide (j = k) && (hidden j || decide (u = v)) && agreeOutside hidden us vs
  | _, _ => false

end JsonFields

mutual

def alike (hidden : String → Bool) : JsonValue → JsonValue → Bool
  | .array xs, .array ys => alikeItems hidden xs ys
  | .object xs, .object ys => alikeFields hidden xs ys
  | u, v => u = v

def alikeItems (hidden : String → Bool) : JsonItems → JsonItems → Bool
  | .nil, .nil => true
  | .cons u us, .cons v vs => alike hidden u v && alikeItems hidden us vs
  | _, _ => false

def alikeFields (hidden : String → Bool) : JsonFields → JsonFields → Bool
  | .nil, .nil => true
  | .cons j u us, .cons k v vs => decide (j = k) && (hidden j || alike hidden u v) && alikeFields hidden us vs
  | _, _ => false

end

lemma keys_of_alike {xs ys : JsonFields} (h : alikeFields hidden xs ys = true) : xs.keys = ys.keys := by
  cases xs with
  | nil =>
    cases ys with
    | nil => rfl
    | cons k v vs => cases h
  | cons j u us =>
    cases ys with
    | nil => cases h
    | cons k v vs =>
      simp only [alikeFields, Bool.and_eq_true, decide_eq_true_eq] at h
      rw [JsonFields.keys, JsonFields.keys, h.1.1, keys_of_alike h.2]

namespace JsonFields

lemma mask_eq_iff {xs ys : JsonFields} (h : xs.keys = ys.keys) (v : JsonValue) :
    xs.mask hidden v = ys.mask hidden v ↔ xs.agreeOutside hidden ys = true := by
  cases xs with
  | nil =>
    cases ys with
    | nil => exact iff_of_true rfl rfl
    | cons k w vs => cases h
  | cons j u us =>
    cases ys with
    | nil => cases h
    | cons k w vs =>
      obtain ⟨hkey, hkeys⟩ := List.cons.inj h
      subst hkey
      have ih := mask_eq_iff hkeys v
      rw [mask, mask, agreeOutside, JsonFields.cons.injEq, ih]
      cases hj : hidden j with
      | true => simp
      | false => simp

lemma without_eq_iff {xs ys : JsonFields} (h : xs.keys = ys.keys) :
    xs.without hidden = ys.without hidden ↔ xs.agreeOutside hidden ys = true := by
  cases xs with
  | nil =>
    cases ys with
    | nil => exact iff_of_true rfl rfl
    | cons k w vs => cases h
  | cons j u us =>
    cases ys with
    | nil => cases h
    | cons k w vs =>
      obtain ⟨hkey, hkeys⟩ := List.cons.inj h
      subst hkey
      have ih := without_eq_iff hkeys
      rw [without, without, agreeOutside]
      cases hj : hidden j with
      | true => simpa using ih
      | false => simp [ih]

end JsonFields

end NotebookExecution.Library.Json
