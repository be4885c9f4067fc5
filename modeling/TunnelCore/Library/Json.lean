import Mathlib.Algebra.Ring.Int.Defs

namespace TunnelCore

inductive Json
  | null
  | bool (b : Bool)
  | number (value : Rat)
  | string (s : String)
  | array (items : List Json)
  | object (fields : List (String × Json))

abbrev JsonObject := List (String × Json)

namespace Json

def toString : Json → String
  | .string s => s
  | _ => ""

def toBool : Json → Bool
  | .bool b => b
  | _ => false

def toArray : Json → List Json
  | .array items => items
  | _ => []

def toObject : Json → JsonObject
  | .object fields => fields
  | _ => []

def toInteger : Json → Int
  | .number value => value.num.tdiv value.den
  | _ => 0

/-- A number that is no integer or does not fit an `int` counts as missing. -/
def toInt : Json → Int
  | .number value => if value.den = 1 ∧ -2 ^ 31 ≤ value.num ∧ value.num < 2 ^ 31 then value.num else 0
  | _ => 0

def toIntOr (default : Int) : Json → Int
  | .number value => if value.den = 1 ∧ -2 ^ 31 ≤ value.num ∧ value.num < 2 ^ 31 then value.num else default
  | _ => default

def isString : Json → Bool
  | .string _ => true
  | _ => false

def isBool : Json → Bool
  | .bool _ => true
  | _ => false

def isArray : Json → Bool
  | .array _ => true
  | _ => false

def isObject : Json → Bool
  | .object _ => true
  | _ => false

end Json

namespace JsonObject

def value (o : JsonObject) (key : String) : Json := (o.lookup key).getD .null

def remove (o : JsonObject) (key : String) : JsonObject := o.filter (·.1 ≠ key)

def insert (o : JsonObject) (key : String) (v : Json) : JsonObject := o.remove key ++ [(key, v)]

def contains (o : JsonObject) (key : String) : Bool := o.any (·.1 = key)

def copy (o : JsonObject) (key : String) (source : JsonObject) (sourceKey : String) : JsonObject :=
  match source.lookup sourceKey with
  | some v => o.insert key v
  | none => o.remove key

theorem lookup_remove (o : JsonObject) (key : String) : (o.remove key).lookup key = none := by
  induction o with
  | nil => rfl
  | cons e o ih =>
    obtain ⟨k, v⟩ := e
    by_cases hk : k = key
    · rw [remove, List.filter_cons_of_neg (by simp [hk])]
      exact ih
    · rw [remove, List.filter_cons_of_pos (by simp [hk]), List.lookup_cons, beq_false_of_ne (Ne.symm hk)]
      exact ih

theorem lookup_insert (o : JsonObject) (key : String) (v : Json) : (o.insert key v).lookup key = some v := by
  rw [insert, List.lookup_append, lookup_remove, Option.none_or, List.lookup_cons, beq_self_eq_true]

@[simp]
theorem value_insert (o : JsonObject) (key : String) (v : Json) : (o.insert key v).value key = v := by
  rw [value, lookup_insert, Option.getD_some]

variable {key other : String} {o : JsonObject}

theorem lookup_remove_of_ne (o : JsonObject) (h : other ≠ key) :
    (o.remove key).lookup other = o.lookup other := by
  induction o with
  | nil => rfl
  | cons e o ih =>
    obtain ⟨k, v⟩ := e
    by_cases hk : k = key
    · rw [remove, List.filter_cons_of_neg (by simp [hk]), List.lookup_cons, beq_false_of_ne (hk ▸ h)]
      exact ih
    · rw [remove, List.filter_cons_of_pos (by simp [hk]), List.lookup_cons, List.lookup_cons, ← remove, ih]

theorem value_remove_of_ne (o : JsonObject) (h : other ≠ key) :
    (o.remove key).value other = o.value other := by
  rw [value, lookup_remove_of_ne o h, value]

theorem lookup_insert_of_ne (o : JsonObject) (v : Json) (h : other ≠ key) :
    (o.insert key v).lookup other = o.lookup other := by
  rw [insert, List.lookup_append, lookup_remove_of_ne o h, List.lookup_cons, beq_false_of_ne h, List.lookup_nil,
    Option.or_none]

theorem value_insert_of_ne (o : JsonObject) (v : Json) (h : other ≠ key) :
    (o.insert key v).value other = o.value other := by
  rw [value, lookup_insert_of_ne o v h, value]

theorem contains_of_lookup {key : String} {v : Json} (h : o.lookup key = some v) : o.contains key := by
  refine List.any_eq_true.mpr ⟨(key, v), ?_, decide_eq_true rfl⟩
  obtain ⟨before, after, ho, -⟩ := List.lookup_eq_some_iff.mp h
  rw [ho]
  exact List.mem_append_right _ (.head _)

theorem value_of_lookup {key : String} {v : Json} (h : o.lookup key = some v) : o.value key = v := by
  rw [value, h, Option.getD_some]

theorem value_copy_of_ne (o source : JsonObject) (sourceKey : String) (h : other ≠ key) :
    (o.copy key source sourceKey).value other = o.value other := by
  rw [copy]
  cases source.lookup sourceKey with
  | none => exact value_remove_of_ne o h
  | some v => exact value_insert_of_ne o v h

@[simp]
theorem remove_remove (o : JsonObject) (key : String) : (o.remove key).remove key = o.remove key := by
  simp [remove, List.filter_filter]

@[simp]
theorem remove_insert (o : JsonObject) (key : String) (v : Json) : (o.insert key v).remove key = o.remove key := by
  rw [insert, remove, List.filter_append, List.filter_cons_of_neg (by simp), List.filter_nil, List.append_nil]
  exact remove_remove o key

/-- The two objects differ at most below one key, where both have a value and `R` relates them. -/
def EditedAt (key : String) (R : Json → Json → Prop) (o o' : JsonObject) : Prop :=
  (∀ other, other ≠ key → o'.lookup other = o.lookup other) ∧
    ∃ v v', o.lookup key = some v ∧ o'.lookup key = some v' ∧ R v v'

theorem EditedAt.refl {key : String} {R : Json → Json → Prop} {v : Json} (hv : o.lookup key = some v)
    (h : R v v) : EditedAt key R o o :=
  ⟨fun _ _ => rfl, v, v, hv, hv, h⟩

theorem EditedAt.insert {key : String} {R S : Json → Json → Prop} {o o' : JsonObject} {w : Json}
    (h : EditedAt key R o o') (hw : ∀ v v', o'.lookup key = some v' → R v v' → S v w) :
    EditedAt key S o (o'.insert key w) := by
  obtain ⟨hothers, v, v', hv, hv', hrel⟩ := h
  refine ⟨fun other hne => ?_, v, w, hv, lookup_insert o' key w, hw v v' hv' hrel⟩
  rw [lookup_insert_of_ne o' w hne, hothers other hne]

end JsonObject

namespace Json

def OnObject (R : JsonObject → JsonObject → Prop) (v v' : Json) : Prop :=
  ∃ o o', v = .object o ∧ v' = .object o' ∧ R o o'

/-- Two arrays that differ at most in their first elements, which `R` relates. -/
def OnHead (R : Json → Json → Prop) (v v' : Json) : Prop :=
  ∃ x x' rest, v = .array (x :: rest) ∧ v' = .array (x' :: rest) ∧ R x x'

end Json

end TunnelCore
