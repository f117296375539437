import Mathlib.Data.List.Basic
import Mathlib.Data.List.Nodup
import Mathlib.Data.List.Perm.Basic
import Mathlib.Tactic.Common

/-!
# Batches

A batch runs tasks at the same time and collects their results in a map, each under its task's key.
The tasks complete in some order, and a key has the last of its results. What the map says of a task
is the task's own result, for every task and in whatever order, exactly when tasks with one key have
one result.
-/

namespace GoLib.Batch

variable {κ α : Type*} {order : List Nat} {results : List (κ × α)}

/-- The results in the order in which their tasks complete. -/
def completed (order : List Nat) (results : List (κ × α)) : List (κ × α) :=
  order.filterMap (results[·]?)

/-- Tasks with one key have one result. -/
def Agree (results : List (κ × α)) : Prop :=
  ∀ kv ∈ results, ∀ kv' ∈ results, kv.1 = kv'.1 → kv.2 = kv'.2

lemma agree_of_nodup (h : (results.map Prod.fst).Nodup) : Agree results := by
  intro kv hkv kv' hkv' hkey
  rw [List.inj_on_of_nodup_map h hkv hkv' hkey]

lemma mem_completed (h : order.Perm (List.range results.length)) {kv : κ × α} :
    kv ∈ completed order results ↔ kv ∈ results := by
  simp only [completed, List.mem_filterMap, h.mem_iff, List.mem_range]
  constructor
  · rintro ⟨i, -, hi⟩
    exact List.mem_of_getElem? hi
  · intro hmem
    obtain ⟨i, hi, hkv⟩ := List.getElem_of_mem hmem
    exact ⟨i, hi, by rw [List.getElem?_eq_getElem hi, hkv]⟩

lemma completed_map {β : Type*} (f : α → β) (order : List Nat) (results : List (κ × α)) :
    completed order (results.map (Prod.map id f)) =
      (completed order results).map (Prod.map id f) := by
  simp only [completed, List.map_filterMap, List.getElem?_map]

variable [BEq κ] [LawfulBEq κ]

/-- What the map of the batch has under a key. -/
def resultOf (order : List Nat) (results : List (κ × α)) (key : κ) : Option α :=
  (completed order results).reverse.lookup key

/-- The map has results of tasks only. -/
lemma mem_of_resultOf (h : order.Perm (List.range results.length)) {key : κ} {a : α}
    (ha : resultOf order results key = some a) : (key, a) ∈ results := by
  obtain ⟨l, l', hl, -⟩ := List.lookup_eq_some_iff.mp ha
  rw [← mem_completed h, ← List.mem_reverse, hl]
  simp

/-- The map has a result for every task. -/
lemma exists_resultOf (h : order.Perm (List.range results.length)) {kv : κ × α}
    (hkv : kv ∈ results) : ∃ a, resultOf order results kv.1 = some a := by
  rw [← Option.isSome_iff_exists, resultOf, List.lookup_isSome_iff]
  exact ⟨kv, List.mem_reverse.mpr ((mem_completed h).mpr hkv), by simp⟩

theorem resultOf_eq_iff (h : order.Perm (List.range results.length)) :
    (∀ kv ∈ results, resultOf order results kv.1 = some kv.2) ↔ Agree results := by
  constructor
  · intro hown kv hkv kv' hkv' hkey
    have hsame := (hown kv hkv).symm.trans (hkey ▸ hown kv' hkv')
    exact Option.some.inj hsame
  · intro hagree kv hkv
    obtain ⟨a, ha⟩ := exists_resultOf h hkv
    have hsame : a = kv.2 := hagree (kv.1, a) (mem_of_resultOf h ha) kv hkv rfl
    rw [ha, hsame]

end GoLib.Batch
