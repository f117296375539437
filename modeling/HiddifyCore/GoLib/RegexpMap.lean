import HiddifyCore.GoLib.RegexpMatch

/-!
# Reading a changed expression

The parser looks at the classes of its tokens as little as at the flag that says whether the case
counts: every step commutes with a change of the two. So the text `(?i)` before an expression sets
that flag wherever the expression leaves it open. Whether a text is an expression at all is seen
from the shapes of its tokens.
-/

namespace GoLib.Regexp

/-! ### Factors and alternatives -/

section Hom

variable {k : Expr → Expr} (hempty : k .empty = .empty)
  (hconcat : ∀ r t, k (.concat r t) = .concat (k r) (k t))
include hempty hconcat

lemma concatAll_hom (factors : List Expr) : concatAll (factors.map k) = k (concatAll factors) := by
  have h (acc : Expr) :
      (factors.map k).foldl (fun acc r => .concat r acc) (k acc) =
        k (factors.foldl (fun acc r => .concat r acc) acc) := by
    induction factors generalizing acc with
    | nil => rfl
    | cons r factors ih =>
      rw [List.map_cons, List.foldl_cons, ← hconcat]
      exact ih (.concat r acc)
  have := h .empty
  rwa [hempty] at this

lemma Level.expr_hom (halt : ∀ r t, k (.alt r t) = .alt (k r) (k t)) (l : Level) :
    (⟨l.alts.map k, l.factors.map k⟩ : Level).expr = k l.expr := by
  rw [Level.expr, List.foldl_map, concatAll_hom hempty hconcat]
  exact List.foldl_hom k fun acc r => (halt r acc).symm

end Hom

/-! ### Changing flags and classes -/

section Map

variable (g : Option Bool → Option Bool) (f : CharClass → CharClass)

def Token.map : Token → Token
  | .atom a => .atom (f a)
  | .quote as => .quote (as.map f)
  | t => t

def Flags.map (fs : Flags) : Flags := { fs with fold := g fs.fold }

def Level.map (l : Level) : Level :=
  { alts := l.alts.map (Expr.map g f), factors := l.factors.map (Expr.map g f) }

def ParseState.map (s : ParseState) : ParseState :=
  { flags := s.flags.map g
    level := s.level.map g f
    outer := s.outer.map (Prod.map (Flags.map g) (Level.map g f))
    afterRep := s.afterRep }

variable {g f}

lemma Flags.setFlag_map (hg : ∀ b, g (some b) = some b) (fs : Flags) (p : Flag × Bool) :
    (fs.map g).setFlag p = (fs.setFlag p).map g := by
  obtain ⟨flag, b⟩ := p
  cases flag with
  | fold => simp [Flags.setFlag, Flags.map, hg]
  | multiLine => rfl
  | dotNL => rfl
  | nonGreedy => rfl

lemma Flags.setFlags_map (hg : ∀ b, g (some b) = some b) (fs : Flags) (ps : List (Flag × Bool)) :
    ps.foldl Flags.setFlag (fs.map g) = (ps.foldl Flags.setFlag fs).map g :=
  List.foldl_hom (Flags.map g) fun fs p => Flags.setFlag_map hg fs p

lemma concatAll_map (factors : List Expr) :
    concatAll (factors.map (Expr.map g f)) = (concatAll factors).map g f :=
  concatAll_hom rfl (fun _ _ => rfl) factors

lemma Level.expr_map (l : Level) : (l.map g f).expr = l.expr.map g f :=
  Level.expr_hom rfl (fun _ _ => rfl) (fun _ _ => rfl) l

lemma Level.push_map (r : Expr) (l : Level) :
    (l.map g f).push (r.map g f) = (l.push r).map g f := rfl

lemma ParseState.push_map (r : Expr) (s : ParseState) :
    (s.map g f).push (r.map g f) = (s.push r).map g f := rfl

lemma Expr.fits_map (r : Expr) (n : Nat) : (r.map g f).fits n = r.fits n := by
  induction r generalizing n with
  | empty => rfl
  | atom fold a => rfl
  | any newline => rfl
  | assert a => rfl
  | concat r t ihr iht => simp only [Expr.map, Expr.fits, ihr, iht]
  | alt r t ihr iht => simp only [Expr.map, Expr.fits, ihr, iht]
  | rep min max r ih => simp only [Expr.map, Expr.fits, ih]

lemma ParseState.repeated_map (min : Nat) (max : Option Nat) (s : ParseState) :
    (s.map g f).repeated min max = (s.repeated min max).map (ParseState.map g f) := by
  obtain ⟨flags, ⟨alts, factors⟩, outer, afterRep⟩ := s
  cases factors with
  | nil => simp [ParseState.repeated, ParseState.map, Level.map]
  | cons r factors =>
    have : (Expr.rep min max (r.map g f)).fits 1000 = (Expr.rep min max r).fits 1000 :=
      Expr.fits_map (.rep min max r) 1000
    simp only [ParseState.repeated, ParseState.map, Level.map, List.map_cons, this]
    split_ifs <;> simp [ParseState.map, Level.map, Expr.map]

lemma ParseState.quote_map (as : List CharClass) (s : ParseState) :
    (as.map f).foldl (fun s a => s.push (.atom s.flags.fold a)) (s.map g f) =
      (as.foldl (fun s a => s.push (.atom s.flags.fold a)) s).map g f := by
  rw [List.foldl_map]
  exact List.foldl_hom (ParseState.map g f) fun s a => rfl

/-- A step of the parser commutes with the change. -/
lemma ParseState.next_map (hg : ∀ b, g (some b) = some b) (s : ParseState) (t : Token) :
    (s.map g f).next (t.map f) = (s.next t).map (ParseState.map g f) := by
  cases t with
  | atom a => rfl
  | quote as =>
    simp only [Token.map, ParseState.next, ParseState.quote_map]
    rfl
  | dot => rfl
  | caret => rfl
  | dollar => rfl
  | beginText => rfl
  | endText => rfl
  | boundary neg => rfl
  | rep min max => exact ParseState.repeated_map min max s
  | bar => simp [Token.map, ParseState.next, ParseState.map, Level.map, concatAll_map]
  | openGroup => rfl
  | closeGroup =>
    obtain ⟨flags, level, outer, afterRep⟩ := s
    cases outer with
    | nil => rfl
    | cons p outer =>
      obtain ⟨flags', level'⟩ := p
      simp [Token.map, ParseState.next, ParseState.map, ← Level.push_map, Level.expr_map]
  | named withP => rfl
  | openFlags fs =>
    simp [Token.map, ParseState.next, ParseState.enter, ParseState.map, Level.map,
      Flags.setFlags_map hg]
  | setFlags fs =>
    simp [Token.map, ParseState.next, ParseState.map, Flags.setFlags_map hg]

lemma parseTokens_map (hg : ∀ b, g (some b) = some b) (ts : List Token) (s : ParseState) :
    parseTokens (s.map g f) (ts.map (Token.map f)) = (parseTokens s ts).map (Expr.map g f) := by
  induction ts generalizing s with
  | nil =>
    simp only [parseTokens, List.map_nil, ParseState.map, List.map_eq_nil_iff, Level.expr_map]
    split_ifs <;> rfl
  | cons t ts ih =>
    rw [List.map_cons, parseTokens, ParseState.next_map hg, Option.bind_map, parseTokens]
    cases s.next t with
    | none => rfl
    | some s' => exact ih s'

end Map

/-! ### Shapes -/

/-- The groups and the repetitions of an expression. -/
def Expr.shape : Expr → Expr
  | .concat r t => .concat r.shape t.shape
  | .alt r t => .alt r.shape t.shape
  | .rep min max r => .rep min max r.shape
  | .empty | .atom _ _ | .any _ | .assert _ => .empty

def Level.shape (l : Level) : Level :=
  { alts := l.alts.map Expr.shape, factors := l.factors.map Expr.shape }

def ParseState.shape (s : ParseState) : ParseState :=
  { level := s.level.shape
    outer := s.outer.map fun (_, level) => ({}, level.shape)
    afterRep := s.afterRep }

/-- Tokens of one shape are alike to the parser. -/
def Token.shape : Token → Token
  | .quote as => .quote (as.map fun _ => ⟨false, []⟩)
  | .rep min max => .rep min max
  | .bar => .bar
  | .closeGroup => .closeGroup
  | .openGroup | .named _ | .openFlags _ => .openGroup
  | .setFlags _ => .setFlags []
  | .atom _ | .dot | .caret | .dollar | .beginText | .endText | .boundary _ => .dot

lemma concatAll_shape (factors : List Expr) :
    concatAll (factors.map Expr.shape) = (concatAll factors).shape :=
  concatAll_hom rfl (fun _ _ => rfl) factors

lemma Level.expr_shape (l : Level) : l.shape.expr = l.expr.shape :=
  Level.expr_hom rfl (fun _ _ => rfl) (fun _ _ => rfl) l

lemma Expr.shape_shape (r : Expr) : r.shape.shape = r.shape := by
  induction r with
  | empty => rfl
  | atom fold a => rfl
  | any newline => rfl
  | assert a => rfl
  | concat r t ihr iht => simp only [Expr.shape, ihr, iht]
  | alt r t ihr iht => simp only [Expr.shape, ihr, iht]
  | rep min max r ih => simp only [Expr.shape, ih]

lemma Expr.fits_shape (r : Expr) (n : Nat) : r.shape.fits n = r.fits n := by
  induction r generalizing n with
  | empty => rfl
  | atom fold a => rfl
  | any newline => rfl
  | assert a => rfl
  | concat r t ihr iht => simp only [Expr.shape, Expr.fits, ihr, iht]
  | alt r t ihr iht => simp only [Expr.shape, Expr.fits, ihr, iht]
  | rep min max r ih => simp only [Expr.shape, Expr.fits, ih]

@[simp] lemma Level.shape_shape (l : Level) : l.shape.shape = l.shape := by
  simp [Level.shape, Function.comp_def, Expr.shape_shape]

lemma ParseState.repeated_shape (min : Nat) (max : Option Nat) (s : ParseState) :
    (s.shape.repeated min max).map ParseState.shape =
      (s.repeated min max).map ParseState.shape := by
  obtain ⟨flags, ⟨alts, factors⟩, outer, afterRep⟩ := s
  cases factors with
  | nil => simp [ParseState.repeated, ParseState.shape, Level.shape]
  | cons r factors =>
    have : (Expr.rep min max r.shape).fits 1000 = (Expr.rep min max r).fits 1000 :=
      Expr.fits_shape (.rep min max r) 1000
    simp only [ParseState.repeated, ParseState.shape, Level.shape, List.map_cons, this]
    split_ifs <;> simp [ParseState.shape, Level.shape, Expr.shape, Expr.shape_shape,
      Function.comp_def]

@[simp] lemma ParseState.shape_shape (s : ParseState) : s.shape.shape = s.shape := by
  simp [ParseState.shape, Function.comp_def]

lemma ParseState.push_shape {s s' : ParseState} {r r' : Expr} (hs : s'.shape = s.shape)
    (hr : r'.shape = r.shape) : (s'.push r').shape = (s.push r).shape := by
  simp only [ParseState.shape, ParseState.mk.injEq, true_and, Level.shape, Level.mk.injEq] at hs
  obtain ⟨⟨halts, hfactors⟩, houter, -⟩ := hs
  simp [ParseState.push, ParseState.shape, Level.push, Level.shape, halts, hfactors, hr, houter]

lemma ParseState.quote_shape (as : List CharClass) {s s' : ParseState}
    (hs : s'.shape = s.shape) :
    ((as.map fun _ => (⟨false, []⟩ : CharClass)).foldl
      (fun s a => s.push (.atom s.flags.fold a)) s').shape =
      (as.foldl (fun s a => s.push (.atom s.flags.fold a)) s).shape := by
  induction as generalizing s s' with
  | nil => exact hs
  | cons a as ih => exact ih (ParseState.push_shape hs rfl)

/-- A step of the parser keeps the shape. -/
lemma ParseState.next_shape (s : ParseState) (t : Token) :
    (s.shape.next t.shape).map ParseState.shape = (s.next t).map ParseState.shape := by
  cases t with
  | rep min max => exact ParseState.repeated_shape min max s
  | quote as =>
    have h := ParseState.quote_shape as (ParseState.shape_shape s)
    simp only [ParseState.shape, ParseState.mk.injEq, true_and] at h
    obtain ⟨hlevel, houter, -⟩ := h
    simp only [Token.shape, ParseState.next, ParseState.shape, Option.map_some, hlevel, houter]
  | closeGroup =>
    obtain ⟨flags, level, outer, afterRep⟩ := s
    cases outer with
    | nil => rfl
    | cons p outer =>
      obtain ⟨flags', level'⟩ := p
      have hgroup : level.shape.expr.shape = level.expr.shape := by
        rw [Level.expr_shape, Expr.shape_shape]
      rw [Level.shape] at hgroup
      simp [Token.shape, ParseState.next, ParseState.shape, Level.push, hgroup,
        Level.shape, Function.comp_def, Expr.shape_shape]
  | _ =>
    simp [Token.shape, ParseState.next, ParseState.shape, ParseState.push, ParseState.enter,
      Level.push, Level.shape, Function.comp_def, Expr.shape_shape, Expr.shape, concatAll_shape]

/-- Whether tokens are an expression depends on their shapes only. -/
lemma parseTokens_isSome_congr {ts ts' : List Token}
    (hts : ts'.map Token.shape = ts.map Token.shape)
    {s s' : ParseState} (hs : s'.shape = s.shape) :
    (parseTokens s' ts').isSome = (parseTokens s ts).isSome := by
  induction ts generalizing ts' s s' with
  | nil =>
    rw [List.map_nil, List.map_eq_nil_iff] at hts
    have houter : s'.outer = [] ↔ s.outer = [] := by
      have := congrArg (fun s => s.outer = []) hs
      simpa [ParseState.shape] using this
    rw [hts, parseTokens, parseTokens]
    simp only [houter]
    split_ifs <;> rfl
  | cons t ts ih =>
    cases ts' with
    | nil => cases hts
    | cons t' ts' =>
      rw [List.map_cons, List.map_cons, List.cons.injEq] at hts
      have hnext : (s'.next t').map ParseState.shape = (s.next t).map ParseState.shape := by
        rw [← ParseState.next_shape s', ← ParseState.next_shape s, hs, hts.1]
      rw [parseTokens, parseTokens]
      cases hn : s.next t with
      | none =>
        rw [hn, Option.map_none, Option.map_eq_none_iff] at hnext
        rw [hnext]
        rfl
      | some q =>
        rw [hn, Option.map_some, Option.map_eq_some_iff] at hnext
        obtain ⟨q', hq', hshape⟩ := hnext
        rw [hq']
        exact ih hts.2 hshape

/-! ### Ignoring the case -/

/-- The flag of an expression behind `(?i)`. -/
def foldByDefault (fold : Option Bool) : Option Bool := some (fold.getD true)

/-- More fuel does not change what was read. -/
lemma lex_add {isTable : String → Bool} (k : Nat) {n : Nat} {cs : List Char} {ts : List Token}
    (h : lex isTable n cs = some ts) : lex isTable (n + k) cs = some ts := by
  induction n generalizing cs ts with
  | zero =>
    cases cs with
    | nil => simpa [lex] using h
    | cons c cs => simp [lex] at h
  | succ n ih =>
    cases cs with
    | nil => simpa [lex] using h
    | cons c cs =>
      rw [Nat.add_right_comm, lex]
      rw [lex] at h
      cases ht : lexToken isTable (c :: cs) with
      | none => simp [ht] at h
      | some p =>
        simp only [ht, Option.map_eq_some_iff] at h ⊢
        obtain ⟨ts, h, rfl⟩ := h
        exact ⟨ts, ih h, rfl⟩

lemma lexToken_ignoreCase (isTable : String → Bool) (cs : List Char) :
    lexToken isTable ('(' :: '?' :: 'i' :: ')' :: cs) = some (.setFlags [(.fold, true)], cs) := by
  simp [lexToken, strip, lexGroup, lexFlags, flagOf]

@[simp] lemma Token.map_id : Token.map id = id := by
  funext t
  cases t <;> simp [Token.map]

/-- With `(?i)` before it an expression is the same, but that it ignores the case. -/
theorem compile_ignoreCase {U : Unicode} {e : String} {r : Expr} (h : compile U e = some r) :
    compile U ("(?i)" ++ e) = some (r.map foldByDefault id) := by
  obtain ⟨ts, hlex, hparse⟩ := Option.bind_eq_some_iff.mp h
  have htext : ("(?i)" ++ e).toList = '(' :: '?' :: 'i' :: ')' :: e.toList := by simp
  have hl : lex U.isTable ("(?i)" ++ e).toList.length ("(?i)" ++ e).toList =
      some (.setFlags [(.fold, true)] :: ts) := by
    rw [htext, List.length_cons, lex, lexToken_ignoreCase]
    simp only [List.length_cons, lex_add 3 hlex, Option.map_some]
  have hp := parseTokens_map (g := foldByDefault) (f := id) (fun b => rfl) ts {}
  rw [hparse, Token.map_id, List.map_id] at hp
  rw [compile, parse, hl]
  exact hp

/-! ### Sequences of classes -/

lemma concatAll_reverse (as : List CharClass) :
    concatAll (as.map (Expr.atom none)).reverse = Expr.ofAtoms (as.map (none, ·)) := by
  rw [concatAll, List.foldl_reverse]
  induction as with
  | nil => rfl
  | cons a as ih => rw [List.map_cons, List.foldr_cons, ih, List.map_cons, Expr.ofAtoms]

/-- Tokens for classes and nothing else are read as their sequence. -/
lemma parseTokens_atoms (as : List CharClass) :
    parseTokens {} (as.map Token.atom) = some (Expr.ofAtoms (as.map (none, ·))) := by
  have h (s : ParseState) (hflags : s.flags = {}) (halts : s.level.alts = [])
      (houter : s.outer = []) :
      parseTokens s (as.map Token.atom) =
        some (concatAll ((as.map (Expr.atom none)).reverse ++ s.level.factors)) := by
    induction as generalizing s with
    | nil => simp [parseTokens, houter, Level.expr, halts]
    | cons a as ih =>
      rw [List.map_cons, parseTokens, ParseState.next, Option.bind_some, hflags]
      show parseTokens (s.push (.atom none a)) _ = _
      rw [ih (s.push (.atom none a)) hflags halts houter]
      simp [ParseState.push, Level.push]
  rw [h {} rfl rfl rfl, List.append_nil, concatAll_reverse]

end GoLib.Regexp
