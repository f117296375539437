import Mathlib.Logic.Basic
import Mathlib.Tactic.Common

/-!
# JSON values and objects

The values `encoding/json` produces for an `any`, and the objects (`map[string]interface{}`) that
the config package reads and edits. A decoded number is a `float64`, so a type assertion such as
`v.(uint16)` fails on every decoded value.
-/

namespace HiddifyCore.Config

inductive Json where
  | null
  | bool (b : Bool)
  | num (mantissa : Int) (exponent : Nat)
  | str (s : String)
  | arr (xs : List Json)
  | obj (kvs : List (String × Json))
  deriving Repr, Inhabited

abbrev JObj := List (String × Json)

namespace Json

/-- `v.(string)` with the failed assertion at the zero value. -/
def asString : Json → String
  | .str s => s
  | _ => ""

def asString? : Json → Option String
  | .str s => some s
  | _ => none

/-- `v.(uint16)` with the failed assertion at the zero value. No decoded value has that type: a
number is a `float64`. -/
def asUInt16 : Json → UInt16
  | .null | .bool _ | .num _ _ | .str _ | .arr _ | .obj _ => 0

/-- `v.(map[string]interface{})`. -/
def asObject? : Json → Option JObj
  | .obj kvs => some kvs
  | _ => none

end Json

namespace JObj

/-- `m[k]` with its presence flag. -/
def get? (m : JObj) (k : String) : Option Json := m.lookup k

/-- `m[k] = v`. -/
def set (m : JObj) (k : String) (v : Json) : JObj := (k, v) :: m.filter (·.1 ≠ k)

/-- The map with `f` done to what is under a key. -/
def modify (m : JObj) (k : String) (f : Json → Json) : JObj :=
  m.map fun kv => if kv.1 = k then (kv.1, f kv.2) else kv

/-- `s, _ := m[k].(string)`. -/
def getString (m : JObj) (k : String) : String := ((get? m k).map Json.asString).getD ""

/-- `n, _ := m[k].(uint16)`. -/
def getUInt16 (m : JObj) (k : String) : UInt16 := ((get? m k).map Json.asUInt16).getD 0

@[simp]
lemma getUInt16_eq_zero (m : JObj) (k : String) : getUInt16 m k = 0 := by
  unfold getUInt16
  cases get? m k with
  | none => rfl
  | some v => cases v <;> rfl

@[simp]
lemma get?_set_self (m : JObj) (k : String) (v : Json) : get? (set m k v) k = some v := by
  simp [get?, set]

lemma get?_set_of_ne (m : JObj) {k k' : String} (v : Json) (h : k' ≠ k) :
    get? (set m k v) k' = get? m k' := by
  have hk : (k' == k) = false := by simpa using h
  simp only [get?, set, List.lookup_cons, hk]
  induction m with
  | nil => rfl
  | cons p m ih =>
    obtain ⟨q, w⟩ := p
    by_cases hq : q = k
    · subst hq
      simpa [List.lookup_cons, hk] using ih
    · simp only [ne_eq, hq, not_false_eq_true, decide_true, List.filter_cons_of_pos,
        List.lookup_cons]
      rw [ih]

lemma get?_modify_self (m : JObj) (k : String) (f : Json → Json) :
    get? (modify m k f) k = (get? m k).map f := by
  induction m with
  | nil => rfl
  | cons p m ih =>
    obtain ⟨q, w⟩ := p
    by_cases hq : q = k
    · simp [get?, modify, hq]
    · have hk : (k == q) = false := by simpa using Ne.symm hq
      simpa [get?, modify, hq, hk, List.lookup_cons] using ih

lemma get?_modify_of_ne (m : JObj) {k k' : String} (f : Json → Json) (h : k' ≠ k) :
    get? (modify m k f) k' = get? m k' := by
  induction m with
  | nil => rfl
  | cons p m ih =>
    obtain ⟨q, w⟩ := p
    by_cases hq : q = k
    · subst hq
      have hk : (k' == q) = false := by simpa using h
      simpa [get?, modify, List.lookup_cons, hk] using ih
    · simp only [get?, modify, List.map_cons, hq, if_false, List.lookup_cons] at ih ⊢
      rw [ih]

/-- What is under the key goes when it is set. -/
lemma set_modify_self (m : JObj) (k : String) (f : Json → Json) (v : Json) :
    set (modify m k f) k v = set m k v := by
  simp only [set, modify, List.cons.injEq, true_and]
  induction m with
  | nil => rfl
  | cons p m ih =>
    by_cases hp : p.1 = k <;> simpa [hp] using ih

lemma modify_set_self (m : JObj) (k : String) (f : Json → Json) (v : Json) :
    modify (set m k v) k f = set m k (f v) := by
  simp only [set, modify, List.map_cons, if_true, List.cons.injEq, true_and]
  induction m with
  | nil => rfl
  | cons p m ih =>
    by_cases hp : p.1 = k
    · simpa [hp] using ih
    · simp only [ne_eq, hp, not_false_eq_true, decide_true, List.filter_cons_of_pos, List.map_cons,
        if_false, List.cons.injEq, true_and]
      exact ih

lemma modify_set_of_ne (m : JObj) {k k' : String} (f : Json → Json) (v : Json) (h : k' ≠ k) :
    modify (set m k' v) k f = set (modify m k f) k' v := by
  simp only [set, modify, List.map_cons, h, if_false, List.cons.injEq, true_and]
  induction m with
  | nil => rfl
  | cons p m ih =>
    by_cases hk : p.1 = k
    · have hk' : p.1 ≠ k' := hk ▸ Ne.symm h
      simpa [hk, hk', Ne.symm h] using ih
    · by_cases hk' : p.1 = k' <;> simpa [hk, hk', h] using ih

end JObj

end HiddifyCore.Config
