import Mathlib.Logic.Relation
import Mathlib.Order.WellFoundedSet
import Mathlib.Data.Set.Insert
import Mathlib.Tactic.Common

/-!
# Acyclic relations

When a relation stays acyclic although edges are added to it: edges out of one node, a hub, and
edges that all touch one node. Along the edges of an acyclic relation with finitely many targets
there is an induction.
-/

namespace GoLib

open Relation

universe u

variable {α : Type u}

/-- No path leads from a node back to it. -/
def Acyclic (r : α → α → Prop) : Prop := ∀ a, ¬ TransGen r a a

variable {r s : α → α → Prop} {h w a b : α} {T : Set α}

lemma Acyclic.mono (hs : Acyclic s) (hrs : ∀ a b, r a b → s a b) : Acyclic r :=
  fun a ha => hs a (TransGen.mono hrs a a ha)

lemma acyclic_congr (hrs : ∀ a b, r a b ↔ s a b) : Acyclic r ↔ Acyclic s :=
  ⟨fun hr => hr.mono fun a b => (hrs a b).mpr, fun hs => hs.mono fun a b => (hrs a b).mp⟩

/-- A relation along which a rank grows is acyclic. -/
lemma acyclic_of_rank (rank : α → ℕ) (h : ∀ a b, r a b → rank a < rank b) : Acyclic r := by
  have hpath : ∀ a b, TransGen r a b → rank a < rank b := by
    intro a b hab
    induction hab with
    | single hab => exact h _ _ hab
    | tail _ hbc ih => exact ih.trans (h _ _ hbc)
  exact fun a ha => lt_irrefl _ (hpath a a ha)

/-! ### Hubs -/

/-- `r` with edges from `h` to every node of `T`. -/
def AddHub (r : α → α → Prop) (h : α) (T : Set α) (a b : α) : Prop := r a b ∨ (a = h ∧ b ∈ T)

lemma AddHub.lift (hab : ReflTransGen r a b) : ReflTransGen (AddHub r h T) a b :=
  ReflTransGen.mono (fun _ _ => Or.inl) a b hab

/-- A path that no target can close uses the hub at most once. -/
lemma transGen_addHub (hT : ∀ t ∈ T, ¬ ReflTransGen r t h) (hab : TransGen (AddHub r h T) a b) :
    TransGen r a b ∨ (ReflTransGen r a h ∧ ∃ t ∈ T, ReflTransGen r t b) := by
  induction hab with
  | single hab =>
    rcases hab with hab | ⟨rfl, hb⟩
    · exact Or.inl (.single hab)
    · exact Or.inr ⟨.refl, _, hb, .refl⟩
  | tail _ hbc ih =>
    rcases hbc with hbc | ⟨rfl, hc⟩
    · rcases ih with ih | ⟨hah, t, ht, htb⟩
      · exact Or.inl (ih.tail hbc)
      · exact Or.inr ⟨hah, t, ht, htb.tail hbc⟩
    · rcases ih with ih | ⟨-, t, ht, htb⟩
      · exact Or.inr ⟨ih.to_reflTransGen, _, hc, .refl⟩
      · exact absurd htb (hT t ht)

lemma reflTransGen_addHub (hT : ∀ t ∈ T, ¬ ReflTransGen r t h)
    (hab : ReflTransGen (AddHub r h T) a b) :
    ReflTransGen r a b ∨ (ReflTransGen r a h ∧ ∃ t ∈ T, ReflTransGen r t b) := by
  rcases reflTransGen_iff_eq_or_transGen.mp hab with rfl | hab
  · exact Or.inl .refl
  · exact (transGen_addHub hT hab).imp_left TransGen.to_reflTransGen

/-- A hub closes no cycle exactly when none of its targets leads back to it. -/
theorem acyclic_addHub :
    Acyclic (AddHub r h T) ↔ Acyclic r ∧ ∀ t ∈ T, ¬ ReflTransGen r t h := by
  constructor
  · intro hacyclic
    refine ⟨hacyclic.mono fun _ _ => Or.inl, fun t ht hth => hacyclic h ?_⟩
    exact TransGen.head' (Or.inr ⟨rfl, ht⟩) (AddHub.lift hth)
  · rintro ⟨hr, hT⟩ a ha
    rcases transGen_addHub hT ha with hra | ⟨hah, t, ht, hta⟩
    · exact hr a hra
    · exact hT t ht (hta.trans hah)

/-! ### Edges at one node -/

/-- A path of the larger relation is one of the smaller relation or passes `w`. -/
lemma transGen_or_through (hrs : ∀ a b, s a b → r a b ∨ a = w ∨ b = w) (hab : TransGen s a b) :
    TransGen r a b ∨ (ReflTransGen s a w ∧ ReflTransGen s w b) := by
  induction hab with
  | single hab =>
    rcases hrs _ _ hab with hr | rfl | rfl
    · exact Or.inl (.single hr)
    · exact Or.inr ⟨.refl, .single hab⟩
    · exact Or.inr ⟨.single hab, .refl⟩
  | tail hab hbc ih =>
    rcases ih with ih | ⟨haw, hwb⟩
    · rcases hrs _ _ hbc with hr | rfl | rfl
      · exact Or.inl (ih.tail hr)
      · exact Or.inr ⟨hab.to_reflTransGen, .single hbc⟩
      · exact Or.inr ⟨hab.to_reflTransGen.tail hbc, .refl⟩
    · exact Or.inr ⟨haw, hwb.tail hbc⟩

/-- Edges that all touch `w` close no cycle exactly when there is none at `w`. -/
theorem acyclic_of_touching (hsub : ∀ a b, r a b → s a b)
    (hrs : ∀ a b, s a b → r a b ∨ a = w ∨ b = w) :
    Acyclic s ↔ Acyclic r ∧ ¬ TransGen s w w := by
  constructor
  · intro hs
    exact ⟨hs.mono hsub, hs w⟩
  · rintro ⟨hr, hw⟩ a ha
    rcases transGen_or_through hrs ha with hra | ⟨haw, hwa⟩
    · exact hr a hra
    · exact hw (TransGen.trans_right hwa (ha.trans_left haw))

/-! ### Induction -/

/-- What holds of a node when it holds of all its successors holds of every node. -/
theorem Acyclic.induction (hr : Acyclic r) (hT : T.Finite) (htarget : ∀ a b, r a b → b ∈ T)
    {P : α → Prop} (hP : ∀ a, (∀ b, r a b → P b) → P a) (a : α) : P a := by
  have horder : IsStrictOrder α fun x y => TransGen r y x :=
    { irrefl := hr
      trans := fun _ _ _ hab hbc => hbc.trans hab }
  have htargets : ∀ b ∈ T, P b := by
    intro b hb
    apply hT.wellFoundedOn.induction (r := fun x y => TransGen r y x) hb
    intro c _ ih
    exact hP c fun d hcd => ih d (htarget c d hcd) (.single hcd)
  exact hP a fun b hab => htargets b (htarget a b hab)

end GoLib
