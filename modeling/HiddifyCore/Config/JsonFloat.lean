import HiddifyCore.Config.Json
import HiddifyCore.GoLib.Float64

/-!
# Reading a text into a map

`json.Unmarshal` of a text into a `map[string]interface{}` makes every number a `float64`, and the
map holds that number as `json.Marshal` writes it again. Everything else is read as it stands.
-/

namespace HiddifyCore.Config

open GoLib

namespace Json

mutual

/-- A value that is read into an `interface{}`. -/
def unmarshalAny : Json → Json
  | .num m e =>
    let (m', e') := Float64.reread m.natAbs e
    .num (if m < 0 then -m' else m') e'
  | .arr xs => .arr (unmarshalAnys xs)
  | .obj kvs => .obj (unmarshalMembers kvs)
  | .null => .null
  | .bool b => .bool b
  | .str s => .str s

def unmarshalAnys : List Json → List Json
  | [] => []
  | v :: vs => unmarshalAny v :: unmarshalAnys vs

def unmarshalMembers : JObj → JObj
  | [] => []
  | (k, v) :: kvs => (k, unmarshalAny v) :: unmarshalMembers kvs

end

mutual

/-- Every number of the value is the one that its `float64` is written as. -/
def exact : Json → Bool
  | .num m e => Float64.reread m.natAbs e == (m.natAbs, e)
  | .arr xs => exacts xs
  | .obj kvs => exactMembers kvs
  | .null | .bool _ | .str _ => true

def exacts : List Json → Bool
  | [] => true
  | v :: vs => exact v && exacts vs

def exactMembers : JObj → Bool
  | [] => true
  | (_, v) :: kvs => exact v && exactMembers kvs

end

lemma unmarshalAny_num_eq_self {m : Int} {e : Nat} :
    unmarshalAny (.num m e) = .num m e ↔ Float64.reread m.natAbs e = (m.natAbs, e) := by
  rcases hr : Float64.reread m.natAbs e with ⟨m', e'⟩
  simp only [unmarshalAny, hr, Json.num.injEq, Prod.mk.injEq]
  refine and_congr_left fun _ => ?_
  split_ifs <;> omega

mutual

/-- A value that has only such numbers is read as it stands, and no other is. -/
lemma unmarshalAny_eq_self (v : Json) : unmarshalAny v = v ↔ exact v = true := by
  match v with
  | .num m e => rw [unmarshalAny_num_eq_self, exact, beq_iff_eq]
  | .arr xs => simp only [unmarshalAny, exact, Json.arr.injEq, unmarshalAnys_eq_self xs]
  | .obj kvs => simp only [unmarshalAny, exact, Json.obj.injEq, unmarshalMembers_eq_self kvs]
  | .null | .bool b | .str s => simp only [unmarshalAny, exact]

lemma unmarshalAnys_eq_self (vs : List Json) : unmarshalAnys vs = vs ↔ exacts vs = true := by
  match vs with
  | [] => simp only [unmarshalAnys, exacts]
  | v :: vs =>
    simp only [unmarshalAnys, exacts, List.cons.injEq, Bool.and_eq_true, unmarshalAny_eq_self v,
      unmarshalAnys_eq_self vs]

lemma unmarshalMembers_eq_self (kvs : JObj) :
    unmarshalMembers kvs = kvs ↔ exactMembers kvs = true := by
  match kvs with
  | [] => simp only [unmarshalMembers, exactMembers]
  | (k, v) :: kvs =>
    simp only [unmarshalMembers, exactMembers, List.cons.injEq, Prod.mk.injEq, true_and,
      Bool.and_eq_true, unmarshalAny_eq_self v, unmarshalMembers_eq_self kvs]

end

/-- Whole numbers of less than 54 bits are exact. -/
lemma exact_whole {m : Int} (h : m.natAbs < 2 ^ 53) : exact (.num m 0) = true := by
  simp [exact, Float64.reread_whole h]

end Json

/-! ### Maps -/

namespace JObj

/-- `json.Unmarshal` into a map. -/
def unmarshalMap (m : JObj) : JObj := Json.unmarshalMembers m

@[simp]
lemma get?_unmarshalMap (m : JObj) (k : String) :
    (unmarshalMap m).get? k = (m.get? k).map Json.unmarshalAny := by
  induction m with
  | nil => rfl
  | cons kv m ih =>
    obtain ⟨q, v⟩ := kv
    simp only [get?, unmarshalMap, Json.unmarshalMembers, List.lookup_cons] at ih ⊢
    cases k == q with
    | true => rfl
    | false => exact ih

lemma get?_unmarshalMap_str {m : JObj} {k s : String} (h : m.get? k = some (.str s)) :
    (unmarshalMap m).get? k = some (.str s) := by
  rw [get?_unmarshalMap, h]
  rfl

/-- A member is read as it stands exactly when its numbers are exact. -/
lemma get?_unmarshalMap_eq_self {m : JObj} {k : String} :
    (unmarshalMap m).get? k = m.get? k ↔ ∀ v, m.get? k = some v → v.exact = true := by
  rw [get?_unmarshalMap]
  cases m.get? k with
  | none => simp
  | some v => simp [Json.unmarshalAny_eq_self]

lemma get?_unmarshalMap_eq_obj {m : JObj} {k : String} {kvs : JObj} :
    (unmarshalMap m).get? k = some (.obj kvs) ↔
      ∃ kvs', m.get? k = some (.obj kvs') ∧ unmarshalMap kvs' = kvs := by
  rw [get?_unmarshalMap]
  cases m.get? k with
  | none => simp
  | some v => cases v <;> simp [Json.unmarshalAny, unmarshalMap]

lemma exact_of_get? {m : JObj} {k : String} {v : Json} (h : Json.exactMembers m = true)
    (hv : m.get? k = some v) : v.exact = true := by
  have hmap : unmarshalMap m = m := (Json.unmarshalMembers_eq_self m).mpr h
  exact get?_unmarshalMap_eq_self.mp (by rw [hmap]) v hv

lemma get?_unmarshalMap_whole {m : JObj} {k : String} {n : Int} (h : m.get? k = some (.num n 0))
    (hn : n.natAbs < 2 ^ 53) : (unmarshalMap m).get? k = some (.num n 0) := by
  rw [get?_unmarshalMap, h, Option.map_some,
    (Json.unmarshalAny_eq_self _).mpr (Json.exact_whole hn)]

@[simp]
lemma getString_unmarshalMap (m : JObj) (k : String) :
    (unmarshalMap m).getString k = m.getString k := by
  simp only [getString, get?_unmarshalMap]
  cases m.get? k with
  | none => rfl
  | some v => cases v <;> rfl

end JObj

end HiddifyCore.Config
