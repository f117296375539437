import HiddifyCore.GoLib.RegexpSyntax
import Mathlib.Data.List.Forall2

/-!
# The meaning of Go's regular expressions

Which stretches of a text an expression matches, as a relation between two positions, and
`regexp.MatchString`: some stretch of the text is matched. Two expressions that differ only in
their classes match the same stretches as soon as the classes agree on the characters of the text.
-/

namespace GoLib.Regexp

/-- What the `unicode` package knows of characters. -/
structure Unicode where
  lower : Char → Char
  /-- The characters that are equal but for the case, `unicode.SimpleFold` again and again. -/
  orbit : Char → List Char
  /-- The categories and scripts. -/
  table : String → Option (Char → Bool)

def Unicode.isTable (U : Unicode) (name : String) : Bool := (U.table name).isSome

/-! ### Classes -/

def inRanges (ranges : List (Char × Char)) (c : Char) : Bool :=
  ranges.any fun (lo, hi) => lo ≤ c && c ≤ hi

/-- The classes of `\d`, `\s` and `\w`, whose letter is a capital one in the negated class. -/
def perlRanges (p : Char) : List (Char × Char) :=
  if p.toLower = 'd' then [('0', '9')]
  else if p.toLower = 's' then [('\t', '\n'), ('\x0c', '\r'), (' ', ' ')]
  else [('0', '9'), ('A', 'Z'), ('a', 'z'), ('_', '_')]

namespace ClassItem

variable (U : Unicode)

/-- The characters of an item before it is negated. -/
def base : ClassItem → Char → Bool
  | .range lo hi, c => lo.value ≤ c.toNat && c.toNat ≤ hi.value
  | .perl p, c => inRanges (perlRanges p) c
  | .posix _ name, c => (posixClasses.lookup name).any (inRanges · c)
  | .table _ name, c => (U.table name).any (· c)

def isNeg : ClassItem → Bool
  | .range _ _ => false
  | .perl p => p.isUpper
  | .posix neg _ | .table neg _ => neg

/-- A class is first closed under a change of case and then negated. -/
def has (fold : Bool) (i : ClassItem) (c : Char) : Bool :=
  i.isNeg != if fold then (U.orbit c).any (i.base U) else i.base U c

end ClassItem

def CharClass.has (U : Unicode) (fold : Bool) (a : CharClass) (c : Char) : Bool :=
  a.neg != a.items.any (·.has U fold c)

/-! ### Assertions -/

def wordAt (text : List Char) (i : Nat) : Bool := text[i]?.any isWordChar

def wordBefore (text : List Char) (i : Nat) : Bool := 0 < i && wordAt text (i - 1)

def Assertion.holds (text : List Char) (i : Nat) : Assertion → Bool
  | .beginText => i = 0
  | .endText => i = text.length
  | .beginLine => i = 0 || text[i - 1]? = some '\n'
  | .endLine => i = text.length || text[i]? = some '\n'
  | .wordBoundary => wordBefore text i != wordAt text i
  | .noWordBoundary => wordBefore text i == wordAt text i

/-! ### Expressions -/

/-- The `n`-fold composition of a relation between positions. -/
def Iterated (R : Nat → Nat → Prop) : Nat → Nat → Nat → Prop
  | 0, i, j => i = j
  | n + 1, i, j => ∃ k, R i k ∧ Iterated R n k j

namespace Expr

section Matches

variable (den : Option Bool → CharClass → Char → Bool) (text : List Char)

/-- The expression matches from `i` to `j`. What the classes mean is a parameter. -/
def Matches : Expr → Nat → Nat → Prop
  | .empty, i, j => i = j
  | .atom fold a, i, j => j = i + 1 ∧ text[i]?.any (den fold a) = true
  | .any newline, i, j => j = i + 1 ∧ text[i]?.any (fun c => newline || c ≠ '\n') = true
  | .assert a, i, j => i = j ∧ a.holds text i = true
  | .concat r t, i, j => ∃ k, r.Matches i k ∧ t.Matches k j
  | .alt r t, i, j => r.Matches i j ∨ t.Matches i j
  | .rep min max r, i, j => ∃ n, min ≤ n ∧ (max.all (n ≤ ·)) = true ∧ Iterated r.Matches n i j

end Matches

/-- Every class of the expression, with its flag, has the property. -/
def AllAtoms (P : Option Bool → CharClass → Prop) : Expr → Prop
  | .empty | .any _ | .assert _ => True
  | .atom fold a => P fold a
  | .concat r t | .alt r t => r.AllAtoms P ∧ t.AllAtoms P
  | .rep _ _ r => r.AllAtoms P

def allAtoms (p : Option Bool → CharClass → Bool) : Expr → Bool
  | .empty | .any _ | .assert _ => true
  | .atom fold a => p fold a
  | .concat r t | .alt r t => r.allAtoms p && t.allAtoms p
  | .rep _ _ r => r.allAtoms p

/-- Change the flags and the classes. -/
def map (g : Option Bool → Option Bool) (f : CharClass → CharClass) : Expr → Expr
  | .atom fold a => .atom (g fold) (f a)
  | .concat r t => .concat (r.map g f) (t.map g f)
  | .alt r t => .alt (r.map g f) (t.map g f)
  | .rep min max r => .rep min max (r.map g f)
  | .empty => .empty
  | .any newline => .any newline
  | .assert a => .assert a

end Expr

lemma iterated_congr {R S : Nat → Nat → Prop} (h : ∀ i j, R i j ↔ S i j) (n i j : Nat) :
    Iterated R n i j ↔ Iterated S n i j := by
  have : R = S := by
    funext i j
    exact propext (h i j)
  rw [this]

namespace Expr

variable {den den' : Option Bool → CharClass → Char → Bool} {text : List Char}
  {g : Option Bool → Option Bool} {f : CharClass → CharClass}

/-- A change of the classes is a change of their meaning. -/
lemma matches_map (r : Expr) (i j : Nat) :
    (r.map g f).Matches den text i j ↔
      r.Matches (fun fold a => den (g fold) (f a)) text i j := by
  induction r generalizing i j with
  | empty => rfl
  | atom fold a => rfl
  | any newline => rfl
  | assert a => rfl
  | concat r t ihr iht => simp only [map, Matches, ihr, iht]
  | alt r t ihr iht => simp only [map, Matches, ihr, iht]
  | rep min max r ih => simp only [map, Matches, iterated_congr ih]

/-- Only what the classes say of the characters of the text counts. -/
lemma matches_congr (r : Expr)
    (h : r.AllAtoms fun fold a => ∀ c ∈ text, den fold a c = den' fold a c) (i j : Nat) :
    r.Matches den text i j ↔ r.Matches den' text i j := by
  induction r generalizing i j with
  | empty => rfl
  | atom fold a =>
    cases hc : text[i]? with
    | none => simp [Matches, hc]
    | some c => simp [Matches, hc, h c (List.mem_of_getElem? hc)]
  | any newline => rfl
  | assert a => rfl
  | concat r t ihr iht => simp only [Matches, ihr h.1, iht h.2]
  | alt r t ihr iht => simp only [Matches, ihr h.1, iht h.2]
  | rep min max r ih => simp only [Matches, iterated_congr (ih h)]

lemma AllAtoms.imp {P Q : Option Bool → CharClass → Prop} {r : Expr}
    (h : r.AllAtoms P) (hPQ : ∀ fold a, P fold a → Q fold a) : r.AllAtoms Q := by
  induction r with
  | empty => trivial
  | atom fold a => exact hPQ fold a h
  | any newline => trivial
  | assert a => trivial
  | concat r t ihr iht => exact ⟨ihr h.1, iht h.2⟩
  | alt r t ihr iht => exact ⟨ihr h.1, iht h.2⟩
  | rep min max r ih => exact ih h

/-- A sequence of classes. -/
def ofAtoms : List (Option Bool × CharClass) → Expr
  | [] => .empty
  | (fold, a) :: as => .concat (.atom fold a) (ofAtoms as)

lemma map_ofAtoms (as : List (Option Bool × CharClass)) :
    (ofAtoms as).map g f = ofAtoms (as.map (Prod.map g f)) := by
  induction as with
  | nil => rfl
  | cons p as ih => simp only [ofAtoms, map, ih, List.map_cons, Prod.map]

lemma matches_ofAtoms (as : List (Option Bool × CharClass)) (i j : Nat) :
    (ofAtoms as).Matches den text i j ↔ j = i + as.length ∧
      List.Forall₂ (fun p c => den p.1 p.2 c = true) as ((text.drop i).take as.length) := by
  induction as generalizing i with
  | nil =>
    rw [List.length_nil, List.take_zero, Nat.add_zero]
    constructor
    · rintro rfl
      exact ⟨rfl, .nil⟩
    · rintro ⟨rfl, -⟩
      rfl
  | cons p as ih =>
    have hhead : text[i]? = (text.drop i).head? := (List.head?_drop).symm
    have htail : text.drop (i + 1) = (text.drop i).tail := (List.tail_drop).symm
    rw [List.length_cons]
    constructor
    · rintro ⟨k, ⟨rfl, hp⟩, hrest⟩
      rw [ih, htail] at hrest
      rw [hhead] at hp
      cases hi : text.drop i with
      | nil => simp [hi] at hp
      | cons c cs =>
        rw [hi] at hp hrest
        exact ⟨by rw [hrest.1]; omega, .cons hp hrest.2⟩
    · rintro ⟨hj, hall⟩
      cases hi : text.drop i with
      | nil =>
        rw [hi] at hall
        cases hall
      | cons c cs =>
        rw [hi] at hall
        cases hall with
        | cons hp hrest =>
          refine ⟨i + 1, ⟨rfl, by rw [hhead, hi]; exact hp⟩, ?_⟩
          rw [ih, htail, hi]
          exact ⟨by omega, hrest⟩

lemma allAtoms_ofAtoms {P : Option Bool → CharClass → Prop}
    {as : List (Option Bool × CharClass)} : (ofAtoms as).AllAtoms P ↔ ∀ p ∈ as, P p.1 p.2 := by
  induction as with
  | nil => simp [ofAtoms, AllAtoms]
  | cons p as ih => simp [ofAtoms, AllAtoms, ih]

lemma allAtoms_eq_true {p : Option Bool → CharClass → Bool} {r : Expr} :
    r.allAtoms p = true ↔ r.AllAtoms fun fold a => p fold a = true := by
  induction r with
  | empty => simp [allAtoms, AllAtoms]
  | atom fold a => rfl
  | any newline => simp [allAtoms, AllAtoms]
  | assert a => simp [allAtoms, AllAtoms]
  | concat r t ihr iht => simp [allAtoms, AllAtoms, ihr, iht]
  | alt r t ihr iht => simp [allAtoms, AllAtoms, ihr, iht]
  | rep min max r ih => exact ih

end Expr

/-! ### Matching a text -/

section MatchString

variable (U : Unicode)

/-- `regexp.Compile`. -/
def compile (e : String) : Option Expr := parse U.isTable e

/-- Without a flag the case counts. -/
def Expr.MatchesText (r : Expr) (text : String) : Prop :=
  ∃ i j, r.Matches (fun fold a => a.has U (fold.getD false)) text.toList i j

/-- `regexp.MatchString`. An expression that does not compile matches nothing. -/
def MatchString (e text : String) : Prop := ∃ r, compile U e = some r ∧ r.MatchesText U text

variable {U}

lemma matchString_iff {e : String} {r : Expr} (h : compile U e = some r) (text : String) :
    MatchString U e text ↔ r.MatchesText U text := by simp [MatchString, h]

/-- An expression that is one class matches when the text has one of its characters. -/
lemma matchesText_atom (fold : Option Bool) (a : CharClass) (text : String) :
    (Expr.concat (.atom fold a) .empty).MatchesText U text ↔
      ∃ c ∈ text.toList, a.has U (fold.getD false) c = true := by
  constructor
  · rintro ⟨i, j, k, ⟨rfl, h⟩, rfl⟩
    rw [Option.any_eq_true] at h
    obtain ⟨c, hc, h⟩ := h
    exact ⟨c, List.mem_of_getElem? hc, h⟩
  · rintro ⟨c, hc, h⟩
    obtain ⟨i, hi⟩ := List.getElem?_of_mem hc
    exact ⟨i, i + 1, i + 1, ⟨rfl, by simp [hi, h]⟩, rfl⟩

/-- A text as long as a sequence of classes is matched character by character. -/
lemma matchesText_ofAtoms (as : List (Option Bool × CharClass)) (text : String)
    (hlength : text.toList.length = as.length) :
    (Expr.ofAtoms as).MatchesText U text ↔
      List.Forall₂ (fun p c => p.2.has U (p.1.getD false) c = true) as text.toList := by
  simp only [Expr.MatchesText, Expr.matches_ofAtoms]
  constructor
  · rintro ⟨i, j, -, hall⟩
    have hlen := hall.length_eq
    rw [List.length_take, List.length_drop] at hlen
    have htext : (text.toList.drop i).take as.length = text.toList := by
      rcases Nat.eq_zero_or_pos i with rfl | hi
      · rw [List.drop_zero, ← hlength, List.take_length]
      · have hzero : text.toList.length = 0 := by omega
        rw [List.length_eq_zero_iff.mp hzero, List.drop_nil, List.take_nil]
    rwa [htext] at hall
  · intro hall
    refine ⟨0, 0 + as.length, rfl, ?_⟩
    rwa [List.drop_zero, ← hlength, List.take_length]

end MatchString

end GoLib.Regexp
