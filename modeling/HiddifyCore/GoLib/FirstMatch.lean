import Mathlib.Data.List.Basic
import Mathlib.Tactic.Common

/-!
# Decision lists

A list of rules decides an input by the first rule that matches it, and a default decides what no
rule matches. Lists built from parts decide by their parts: an appended list is the default of the
list before it, an invalid rule is skipped, and a block of rules made from one source is a rule of
its own once it is known when the block decides.
-/

namespace GoLib

universe u v w

variable {ρ : Type u} {β : Type v} {ι : Type w}

/-- The output of the first rule that matches. -/
def firstMatch (m : ρ → Bool) (out : ρ → β) (rules : List ρ) (default : β) : β :=
  match rules.find? m with
  | some r => out r
  | none => default

section Rules

variable {m m' : ρ → Bool} {out out' : ρ → β} {d d' : β}

@[simp] lemma firstMatch_nil : firstMatch m out [] d = d := rfl

lemma firstMatch_cons (r : ρ) (rs : List ρ) :
    firstMatch m out (r :: rs) d = if m r then out r else firstMatch m out rs d := by
  simp only [firstMatch]
  cases h : m r <;> simp [h]

lemma firstMatch_append (rs rs' : List ρ) :
    firstMatch m out (rs ++ rs') d = firstMatch m out rs (firstMatch m out rs' d) := by
  induction rs with
  | nil => rfl
  | cons r rs ih => rw [List.cons_append, firstMatch_cons, firstMatch_cons, ih]

lemma firstMatch_map (f : ι → ρ) (xs : List ι) :
    firstMatch m out (xs.map f) d = firstMatch (m ∘ f) (out ∘ f) xs d := by
  induction xs with
  | nil => rfl
  | cons x xs ih => rw [List.map_cons, firstMatch_cons, firstMatch_cons, ih]; rfl

/-- A rule that is filtered out is a rule that does not match. -/
lemma firstMatch_filter (p : ρ → Bool) (rs : List ρ) :
    firstMatch m out (rs.filter p) d = firstMatch (fun r => p r && m r) out rs d := by
  induction rs with
  | nil => rfl
  | cons r rs ih =>
    rw [firstMatch_cons]
    cases hp : p r with
    | true => simp only [List.filter_cons_of_pos hp, firstMatch_cons, ih, Bool.true_and]
    | false =>
      rw [List.filter_cons_of_neg (by simp [hp]), ih]
      simp

/-- A block of rules that decides like one rule may be taken for it. -/
lemma firstMatch_flatMap {μ : ι → Bool} {o : ι → β} (f : ι → List ρ) (xs : List ι)
    (h : ∀ x ∈ xs, ∀ d, firstMatch m out (f x) d = if μ x then o x else d) :
    firstMatch m out (xs.flatMap f) d = firstMatch μ o xs d := by
  induction xs with
  | nil => rfl
  | cons x xs ih =>
    rw [List.flatMap_cons, firstMatch_append, firstMatch_cons, h x List.mem_cons_self,
      ih fun y hy => h y (List.mem_cons_of_mem x hy)]

lemma firstMatch_congr {rs : List ρ} (hm : ∀ r ∈ rs, m r = m' r)
    (hout : ∀ r ∈ rs, m r = true → out r = out' r) :
    firstMatch m out rs d = firstMatch m' out' rs d := by
  induction rs with
  | nil => rfl
  | cons r rs ih =>
    rw [firstMatch_cons, firstMatch_cons, ← hm r List.mem_cons_self,
      ih (fun q hq => hm q (List.mem_cons_of_mem r hq))
        fun q hq => hout q (List.mem_cons_of_mem r hq)]
    split_ifs with h
    · exact hout r List.mem_cons_self h
    · rfl

/-- Lists of rules that correspond one by one decide alike when corresponding rules do. -/
lemma firstMatch_forall₂ {R : ρ → ι → Prop} {n : ι → Bool} {out₂ : ι → β} {rs : List ρ}
    {qs : List ι} (h : List.Forall₂ R rs qs) (hm : ∀ r q, R r q → m r = n q)
    (hout : ∀ r q, R r q → out r = out₂ q) :
    firstMatch m out rs d = firstMatch n out₂ qs d := by
  induction h with
  | nil => rfl
  | cons hr _ ih => rw [firstMatch_cons, firstMatch_cons, hm _ _ hr, hout _ _ hr, ih]

lemma firstMatch_of_find {rs : List ρ} {r : ρ} (h : rs.find? m = some r) :
    firstMatch m out rs d = out r := by
  rw [firstMatch, h]

lemma firstMatch_of_none {rs : List ρ} (h : rs.find? m = none) :
    firstMatch m out rs d = d := by
  rw [firstMatch, h]

/-- The first rule of a weaker kind is the first of a stronger kind if it is of that kind. -/
lemma find_of_imp {rs : List ρ} {r : ρ} (himp : ∀ q, m q = true → m' q = true)
    (h : rs.find? m' = some r) (hr : m r = true) : rs.find? m = some r := by
  obtain ⟨-, before, after, rfl, hbefore⟩ := List.find?_eq_some_iff_append.mp h
  refine List.find?_eq_some_iff_append.mpr ⟨hr, before, after, rfl, fun q hq => ?_⟩
  have hq' := hbefore q hq
  cases hm : m q with
  | false => rfl
  | true => simp [himp q hm] at hq'

lemma find_none_of_imp {rs : List ρ} (himp : ∀ q, m q = true → m' q = true)
    (h : rs.find? m' = none) : rs.find? m = none := by
  rw [List.find?_eq_none] at h ⊢
  exact fun q hq hm => h q hq (himp q hm)

/-- A decision that is not the default is the output of the first rule that matches. -/
lemma exists_of_firstMatch_ne {rs : List ρ} (h : firstMatch m out rs d ≠ d) :
    ∃ r, rs.find? m = some r ∧ firstMatch m out rs d = out r := by
  cases hfind : rs.find? m with
  | none => exact absurd (firstMatch_of_none hfind) h
  | some r => exact ⟨r, rfl, firstMatch_of_find hfind⟩

/-- The outputs of the rules that match and the default bound the decisions. -/
lemma firstMatch_mem {P : β → Prop} {rs : List ρ} (hout : ∀ r ∈ rs, m r = true → P (out r))
    (hd : P d) : P (firstMatch m out rs d) := by
  cases hfind : rs.find? m with
  | none => rwa [firstMatch_of_none hfind]
  | some r =>
    rw [firstMatch_of_find hfind]
    exact hout r (List.mem_of_find?_eq_some hfind) (List.find?_some hfind)

end Rules

end GoLib
