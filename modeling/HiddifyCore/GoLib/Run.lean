import Mathlib.Data.List.Infix
import Mathlib.Tactic.Common

/-!
# Runs of labelled steps

A run takes one step after another. The condition `C` on a step reads the state before it and its
label, so `Run step C s t` says that `t` is reached from `s` by steps that all meet `C`.

Where every step has one result, a run is a list of labels. What is said of its states is then said
of the prefixes of the list, and the lemmas on `xs ++ [x]` carry it over one step more.
-/

namespace GoLib

universe u v

variable {σ : Type u} {ι : Type v}

inductive Run (step : σ → ι → σ → Prop) (C : σ → ι → Prop) (s : σ) : σ → Prop where
  | refl : Run step C s s
  | tail {t u : σ} (h : Run step C s t) (op : ι) (hC : C t op) (hstep : step t op u) :
      Run step C s u

namespace Run

variable {step : σ → ι → σ → Prop} {C D : σ → ι → Prop} {s t u : σ}

/-- What holds at the start and is preserved by every step that meets the condition holds in
every state the run reaches. -/
theorem invariant {I : σ → Prop} (h : Run step C s t) (hs : I s)
    (hstep : ∀ t op u, I t → C t op → step t op u → I u) : I t := by
  induction h with
  | refl => exact hs
  | tail _ op hC hop ih => exact hstep _ op _ ih hC hop

lemma single (op : ι) (hC : C s op) (hstep : step s op t) : Run step C s t :=
  .tail .refl op hC hstep

/-- A run whose steps meet a stronger condition. -/
lemma mono (h : Run step C s t) (himp : ∀ t op, C t op → D t op) : Run step D s t := by
  induction h with
  | refl => exact .refl
  | tail _ op hC hop ih => exact .tail ih op (himp _ op hC) hop

lemma trans (hst : Run step C s t) (htu : Run step C t u) : Run step C s u := by
  induction htu with
  | refl => exact hst
  | tail _ op hC hop ih => exact .tail ih op hC hop

end Run

/-- A run with the record of its steps: the state that each was taken in, and its label. -/
inductive Trace (step : σ → ι → σ → Prop) (s : σ) : List (σ × ι) → σ → Prop where
  | nil : Trace step s [] s
  | snoc {done : List (σ × ι)} {t u : σ} (h : Trace step s done t) (op : ι) (hstep : step t op u) :
      Trace step s (done ++ [(t, op)]) u

lemma Trace.cons {step : σ → ι → σ → Prop} {s t u : σ} {op : ι} {later : List (σ × ι)}
    (hstep : step s op t) (h : Trace step t later u) : Trace step s ((s, op) :: later) u := by
  induction h with
  | nil => exact Trace.nil.snoc op hstep
  | snoc _ op' hstep' ih => exact ih.snoc op' hstep'

/-! ### Lists of labels -/

section Labels

variable {xs : List ι} {x : ι}

/-- Every label of a run with those before it. -/
lemma forall_split_snoc {P : List ι → ι → Prop} :
    (∀ pre y post, xs ++ [x] = pre ++ y :: post → P pre y) ↔
      (∀ pre y post, xs = pre ++ y :: post → P pre y) ∧ P xs x := by
  constructor
  · intro h
    refine ⟨fun pre y post heq => h pre y (post ++ [x]) ?_, h xs x [] rfl⟩
    rw [heq, List.append_assoc, List.cons_append]
  · rintro ⟨hinit, hlast⟩ pre y post heq
    obtain rfl | ⟨post, z, rfl⟩ := post.eq_nil_or_concat
    · obtain ⟨rfl, hy⟩ := List.append_inj' heq rfl
      cases hy
      exact hlast
    · rw [List.concat_eq_append, ← List.cons_append, ← List.append_assoc] at heq
      exact hinit pre y post (List.append_inj' heq rfl).1

/-- Every prefix of a run. -/
lemma forall_prefix_snoc {P : List ι → Prop} :
    (∀ done, done <+: xs ++ [x] → P done) ↔ (∀ done, done <+: xs → P done) ∧ P (xs ++ [x]) := by
  simp only [List.prefix_concat_iff, or_imp, forall_and, forall_eq, and_comm]

end Labels

end GoLib
