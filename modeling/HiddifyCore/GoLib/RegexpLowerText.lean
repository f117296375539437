import HiddifyCore.GoLib.RegexpLower

/-!
# The lowered expression

Every token of an expression is read again from the lowered text, as itself with its letters
lowered or as another one, or it cannot be read. As long as every token stays itself the lowered
text is the same expression with the letters of its classes lowered, and on lower-case texts it
matches as the expression does when it ignores the case, if each class has the same lower-case
characters before and after.
-/

namespace GoLib.Regexp

/-- A single character is read again. -/
lemma lower?_ofPoint {f : Char → Char} (p : Point) :
    (Token.atom (.ofPoint p)).lower? f = some (.atom (.ofPoint (p.map f))) := by
  simp [Token.lower?, CharClass.lower?, CharClass.ofPoint, ClassItem.lower?]

lemma lower?_of_markOf {f : Char → Char} {c : Char} {t : Token} (ht : markOf c = some t) :
    t.lower? f = some t := by
  unfold markOf at ht
  split_ifs at ht <;> cases ht <;> rfl

namespace Lowers

variable {lower : Char → Char} {isTable : String → Bool} (h : Lowers lower isTable)
include h

/-! ### Classes -/

lemma lexRange_map {cs rest : List Char} {i : ClassItem} (hlex : lexRange cs = some (i, rest)) :
    lexRange (cs.map lower) = (i.lower? lower).map (·, rest.map lower) := by
  have hsingle (lo : Point) (cs' : List Char) :
      some (ClassItem.range (lo.map lower) (lo.map lower), cs'.map lower) =
        ((ClassItem.range lo lo).lower? lower).map (·, cs'.map lower) := by
    rw [ClassItem.lower?, if_neg (Nat.lt_irrefl _)]
    rfl
  rw [lexRange] at hlex ⊢
  cases hlo : lexPoint cs with
  | none => simp [hlo] at hlex
  | some p =>
    obtain ⟨lo, cs'⟩ := p
    simp only [hlo, h.lexPoint_map hlo, h.strip_map (p := '-') rfl] at hlex ⊢
    cases hs : strip '-' cs' with
    | none =>
      simp only [hs] at hlex
      cases hlex
      exact hsingle lo _
    | some tail =>
      cases tail with
      | nil =>
        simp only [hs] at hlex
        cases hlex
        exact hsingle lo _
      | cons c cs'' =>
        simp only [hs, Option.map_some, List.map_cons, h.eq_iff (p := ']') rfl] at hlex ⊢
        by_cases hc : c = ']'
        · rw [if_pos hc] at hlex ⊢
          cases hlex
          exact hsingle lo _
        · rw [if_neg hc] at hlex ⊢
          cases hhi : lexPoint (c :: cs'') with
          | none => simp [hhi] at hlex
          | some p =>
            obtain ⟨hi, rest'⟩ := p
            have hmap := h.lexPoint_map hhi
            rw [List.map_cons] at hmap
            simp only [hhi, hmap] at hlex ⊢
            split_ifs at hlex with hlt
            cases hlex
            rw [ClassItem.lower?]
            split_ifs <;> rfl

lemma map_eq_self {cs : List Char} (hcs : cs.all isLow = true) : cs.map lower = cs := by
  conv_rhs => rw [← List.map_id cs]
  exact List.map_congr_left fun c hc => h.self (List.all_eq_true.mp hcs c hc)

/-- The names of the classes have no capital letters. -/
lemma of_posixItem {name : List Char} {i : ClassItem} (hi : posixItem name = some i) :
    name.map lower = name := by
  have hlow : ∀ p ∈ posixClasses, p.1.toList.all isLow = true := by decide
  unfold posixItem at hi
  split_ifs at hi with hname
  obtain ⟨p, hp, heq⟩ := List.lookup_isSome_iff.mp hname
  have hall : (negated name).2.all isLow = true := by
    rw [← String.toList_ofList (l := (negated name).2), eq_of_beq heq]
    exact hlow p hp
  apply h.map_eq_self
  cases name with
  | nil => rfl
  | cons c cs =>
    by_cases hc : c = '^'
    · simp only [negated, strip, hc, if_true] at hall
      simp [hc, hall, isLow]
    · simpa only [negated, strip, if_neg hc] using hall

/-- A lowered bracket still names a class, or still does not. -/
lemma cutNamed_map (c : Char) (cs : List Char) :
    (if lower c = '[' then (strip ':' (cs.map lower)).bind cutPosix else none) =
      onRest lower (List.map lower) (if c = '[' then (strip ':' cs).bind cutPosix else none) := by
  simp only [h.eq_iff (p := '[') rfl, h.strip_map (p := ':') rfl]
  split_ifs
  · cases strip ':' cs with
    | none => rfl
    | some cs => exact h.cutPosix_map cs
  · rfl

/-- No lowered name is that of a table. -/
lemma lexTable_map (neg : Bool) (cs : List Char) : lexTable isTable neg (cs.map lower) = none := by
  have hneg (name : List Char) : isTable (String.ofList (negated (name.map lower)).2) = false := by
    rw [negated, h.strip_map (p := '^') rfl]
    cases hs : strip '^' name with
    | none => exact h.table name
    | some name' => exact h.table name'
  cases cs with
  | nil => rfl
  | cons c cs =>
    rw [List.map_cons, lexTable]
    by_cases hc : lower c = '\x7b'
    · simp only [hc, if_true, List.takeWhile_map]
      split
      · rfl
      · rw [hneg]
        rfl
    · simp only [if_neg hc]
      have := hneg [c]
      rw [List.map_cons, List.map_nil] at this
      rw [this]
      rfl

lemma lexNamedClass_map {cs rest : List Char} {i : ClassItem}
    (hlex : lexNamedClass isTable cs = some (some (i, rest))) :
    lexNamedClass isTable (cs.map lower) = some ((i.lower? lower).map (·, rest.map lower)) := by
  cases cs with
  | nil => cases hlex
  | cons c cs =>
    rw [lexNamedClass] at hlex
    split_ifs at hlex with hp hperl
    · have hlow : lower c = 'p' := by
        obtain rfl | rfl := hp
        · exact h.self rfl
        · exact h.ascii 'P' (by decide)
      rw [List.map_cons, hlow, lexNamedClass, if_pos (Or.inl rfl), h.lexTable_map,
        lexTable_item (Option.some.inj hlex)]
      rfl
    · cases hlex
      obtain ⟨hnot, hlow⟩ := perl_lower hperl
      rw [List.map_cons, h.ascii c (perl_lt hperl), lexNamedClass, if_neg hnot, if_pos hlow]
      simp [ClassItem.lower?, h.ascii c (perl_lt hperl)]

lemma lexItem_map {cs rest : List Char} {i : ClassItem}
    (hlex : lexItem isTable cs = some (i, rest)) :
    lexItem isTable (cs.map lower) = (i.lower? lower).map (·, rest.map lower) := by
  cases cs with
  | nil => cases hlex
  | cons c cs =>
    rw [lexItem] at hlex
    rw [List.map_cons, lexItem, h.cutNamed_map]
    cases hb : if c = '[' then (strip ':' cs).bind cutPosix else none with
    | some p =>
      obtain ⟨name, rest'⟩ := p
      simp only [hb, Option.map_eq_some_iff, Prod.mk.injEq] at hlex
      obtain ⟨i, hname, rfl, rfl⟩ := hlex
      simp only [onRest, Option.map_some, Prod.map_apply, h.of_posixItem hname, hname,
        posixItem_lower? hname]
    | none =>
      simp only [hb] at hlex
      simp only [onRest, Option.map_none]
      by_cases hc : c = '\\'
      · have hc' : lower c = '\\' := (h.eq_iff rfl).mpr hc
        subst hc
        simp only [if_true] at hlex
        simp only [hc', if_true]
        cases hn : lexNamedClass isTable cs with
        | some result =>
          simp only [hn] at hlex
          rw [hlex] at hn
          rw [h.lexNamedClass_map hn]
        | none =>
          simp only [hn] at hlex
          obtain ⟨p, hp⟩ := lexRange_escape hlex
          have hnone : lexNamedClass isTable (cs.map lower) = none := by
            cases cs with
            | nil => rfl
            | cons d cs =>
              rw [List.map_cons, h.of_lexEscape hp]
              exact lexNamedClass_none hn _
          have hmap := h.lexRange_map hlex
          rw [List.map_cons, hc'] at hmap
          simp only [hnone, hmap]
      · have hc' : lower c ≠ '\\' := fun hl => hc ((h.eq_iff rfl).mp hl)
        simp only [if_neg hc] at hlex
        simp only [if_neg hc']
        exact h.lexRange_map hlex

lemma lexItems_map {n : Nat} {first : Bool} {cs rest : List Char} {items : List ClassItem}
    (hlex : lexItems isTable n first cs = some (items, rest)) :
    lexItems isTable n first (cs.map lower) =
      (items.mapM (ClassItem.lower? lower)).map (·, rest.map lower) := by
  induction n generalizing first cs items with
  | zero => cases hlex
  | succ n ih =>
    have hclose : (if first then none else strip ']' (cs.map lower)) =
        (if first then none else strip ']' cs).map (List.map lower) := by
      rw [h.strip_map (p := ']') rfl]
      cases first <;> rfl
    rw [lexItems] at hlex ⊢
    rw [hclose]
    cases hs : if first then none else strip ']' cs with
    | some rest' =>
      simp only [hs] at hlex
      cases hlex
      rfl
    | none =>
      simp only [hs] at hlex
      cases hitem : lexItem isTable cs with
      | none => simp [hitem] at hlex
      | some p =>
        obtain ⟨i, cs'⟩ := p
        simp only [hitem] at hlex
        cases hitems : lexItems isTable n false cs' with
        | none => simp [hitems] at hlex
        | some p =>
          obtain ⟨is, rest'⟩ := p
          simp only [hitems] at hlex
          cases hlex
          rw [List.mapM_cons, h.lexItem_map hitem]
          cases i.lower? lower with
          | none => rfl
          | some i' =>
            simp only [Option.map_none, Option.map_some, ih hitems]
            cases is.mapM (ClassItem.lower? lower) <;> rfl

lemma lexClass_map {cs rest : List Char} {t : Token}
    (hlex : lexClass isTable cs = some (t, rest)) :
    lexClass isTable (cs.map lower) = (t.lower? lower).map (·, rest.map lower) := by
  have hatom (neg : Bool) (items : List ClassItem) (rest' : List Char) :
      ((items.mapM (ClassItem.lower? lower)).map (·, rest'.map lower)).map
          (Prod.map (fun items => Token.atom ⟨neg, items⟩) id) =
        ((Token.atom ⟨neg, items⟩).lower? lower).map (·, rest'.map lower) := by
    rw [Token.lower?, CharClass.lower?]
    cases items.mapM (ClassItem.lower? lower) <;> rfl
  rw [lexClass] at hlex ⊢
  rw [h.strip_map (p := '^') rfl]
  cases hs : strip '^' cs with
  | some cs' =>
    simp only [hs, Option.map_eq_some_iff] at hlex
    obtain ⟨⟨items, rest'⟩, hitems, rfl, rfl⟩ := hlex
    simp only [Option.map_some, List.length_map, h.lexItems_map hitems]
    exact hatom true items rest'
  | none =>
    simp only [hs, Option.map_eq_some_iff] at hlex
    obtain ⟨⟨items, rest'⟩, hitems, rfl, rfl⟩ := hlex
    simp only [Option.map_none, List.length_map, h.lexItems_map hitems]
    exact hatom false items rest'

/-! ### Groups -/

lemma of_isWordChar {c : Char} (hc : isWordChar c = true) : isWordChar (lower c) = true := by
  rw [h.ascii c (wordChar_lt hc)]
  exact ascii_forall (P := fun c => isWordChar c = true → isWordChar c.toLower = true)
    (by decide) (wordChar_lt hc) hc

lemma lexName_map {cs rest : List Char} {t : Token} (hlex : lexName false cs = some (t, rest)) :
    lexName false (cs.map lower) = (t.lower? lower).map (·, rest.map lower) := by
  have hp : (fun c => decide (c ≠ '>')) ∘ lower = fun c => decide (c ≠ '>') := by
    funext c
    simp [h.eq_iff (p := '>') rfl]
  simp only [lexName] at hlex
  split_ifs at hlex with hname
  obtain ⟨hne, hall⟩ := hname
  have hall' : ((cs.takeWhile (· ≠ '>')).map lower).all isWordChar = true := by
    rw [List.all_map]
    exact List.all_eq_true.mpr fun c hc => h.of_isWordChar (List.all_eq_true.mp hall c hc)
  simp only [lexName, List.takeWhile_map, List.dropWhile_map, hp]
  rw [if_pos ⟨by simpa using hne, hall'⟩, h.strip_map (p := '>') rfl]
  simp only [Option.map_eq_some_iff, Prod.mk.injEq] at hlex
  obtain ⟨rest', hrest, rfl, rfl⟩ := hlex
  rw [hrest]
  rfl

lemma of_flagOf {c : Char} {f : Flag} (hf : flagOf c = some f) (hne : f ≠ .nonGreedy) :
    lower c = c := by
  apply h.self
  unfold flagOf at hf
  split_ifs at hf with hi hm hs hu
  · rw [hi]; rfl
  · rw [hm]; rfl
  · rw [hs]; rfl
  · exact absurd (Option.some.inj hf).symm hne

lemma lexFlags_map {neg found : Bool} {fs : List (Flag × Bool)} {cs rest : List Char} {t : Token}
    (hlex : lexFlags neg found fs cs = some (t, rest))
    (hfs : fs.all (fun (flag, _) => flag ≠ .nonGreedy) = true) :
    lexFlags neg found fs (cs.map lower) = (t.lower? lower).map (·, rest.map lower) := by
  induction cs generalizing neg found fs with
  | nil => cases hlex
  | cons c cs ih =>
    rw [lexFlags] at hlex
    simp only [List.map_cons, lexFlags, h.eq_iff (p := ':') rfl, h.eq_iff (p := ')') rfl,
      h.eq_iff (p := '-') rfl]
    by_cases hopen : c = ':'
    · rw [if_pos hopen] at hlex ⊢
      split_ifs at hlex ⊢
      cases hlex
      simp only [Token.lower?, hfs]
      rfl
    rw [if_neg hopen] at hlex ⊢
    by_cases hset : c = ')'
    · rw [if_pos hset] at hlex ⊢
      split_ifs at hlex ⊢
      cases hlex
      simp only [Token.lower?, hfs]
      rfl
    rw [if_neg hset] at hlex ⊢
    by_cases hdash : c = '-'
    · rw [if_pos hdash] at hlex ⊢
      split_ifs at hlex ⊢
      exact ih hlex hfs
    rw [if_neg hdash] at hlex ⊢
    cases hf : flagOf c with
    | none => simp [hf] at hlex
    | some f =>
      simp only [hf] at hlex
      by_cases hgreedy : f = .nonGreedy
      · -- the flag `U` is lowered to no flag
        have hU : lower c = 'u' := by
          rw [hgreedy] at hf
          rw [flagOf_nonGreedy hf]
          exact h.ascii 'U' (by decide)
        rw [hU, lexFlags_lower? hlex (by simp [hgreedy])]
        rfl
      · rw [h.of_flagOf hf hgreedy]
        simp only [hf]
        refine ih hlex ?_
        rw [List.all_append, hfs]
        simp [hgreedy]

lemma strip_capital (cs : List Char) : strip 'P' (cs.map lower) = none := by
  cases cs with
  | nil => rfl
  | cons c cs =>
    refine if_neg fun hc => ?_
    rcases Nat.lt_or_ge c.toNat 128 with hlt | hge
    · rw [h.ascii c hlt] at hc
      exact ascii_forall (P := fun c => c.toLower ≠ 'P') (by decide) hlt hc
    · obtain hge | hl | hl := h.other c hge
      · rw [hc] at hge
        exact absurd hge (by decide)
      · simp [hc] at hl
      · simp [hc] at hl

lemma lexGroup_map {cs rest : List Char} {t : Token} (hlex : lexGroup cs = some (t, rest)) :
    lexGroup (cs.map lower) = (t.lower? lower).map (·, rest.map lower) := by
  rw [lexGroup] at hlex ⊢
  rw [h.strip_capital, Option.bind_none, h.strip_map (p := '<') rfl]
  cases hP : (strip 'P' cs).bind (strip '<') with
  | some cs' =>
    simp only [hP] at hlex
    obtain ⟨ds, hds, -⟩ := Option.bind_eq_some_iff.mp hP
    rw [lexName_token hlex, strip_eq_some hds, List.map_cons, h.ascii 'P' (by decide)]
    rfl
  | none =>
    simp only [hP] at hlex
    cases hs : strip '<' cs with
    | some cs' =>
      simp only [hs] at hlex
      exact h.lexName_map hlex
    | none =>
      simp only [hs] at hlex
      exact h.lexFlags_map hlex rfl

/-! ### Tokens -/

lemma lexBackslash_map {cs rest : List Char} {t : Token}
    (hlex : lexBackslash isTable cs = some (t, rest)) :
    lexBackslash isTable (cs.map lower) = (t.lower? lower).map (·, rest.map lower) := by
  cases cs with
  | nil => cases hlex
  | cons c cs =>
    rw [lexBackslash] at hlex
    split_ifs at hlex with hA hz hb hB hQ
    · cases hlex
      rw [hA, List.map_cons, h.ascii 'A' (by decide)]
      rfl
    · cases hlex
      rw [hz, List.map_cons, h.self (c := 'z') rfl]
      rfl
    · cases hlex
      rw [hb, List.map_cons, h.self (c := 'b') rfl]
      rfl
    · cases hlex
      rw [hB, List.map_cons, h.ascii 'B' (by decide)]
      rfl
    · cases hlex
      rw [hQ, List.map_cons, h.ascii 'Q' (by decide)]
      rfl
    · cases hn : lexNamedClass isTable (c :: cs) with
      | some result =>
        simp only [hn, Option.map_eq_some_iff, Prod.mk.injEq] at hlex
        obtain ⟨⟨i, rest'⟩, rfl, rfl, rfl⟩ := hlex
        have hmap := h.lexNamedClass_map hn
        rw [List.map_cons] at hmap ⊢
        rw [lexBackslash_named hmap, Token.lower?, CharClass.lower?, List.mapM_cons]
        cases i.lower? lower <;> rfl
      | none =>
        simp only [hn, Option.map_eq_some_iff, Prod.mk.injEq] at hlex
        obtain ⟨⟨p, rest'⟩, hp, rfl, rfl⟩ := hlex
        have hmap := h.lexEscape_map hp
        rw [List.map_cons, h.of_lexEscape hp] at hmap ⊢
        rw [lexBackslash, if_neg hA, if_neg hz, if_neg hb, if_neg hB, if_neg hQ,
          lower?_ofPoint]
        simp only [lexNamedClass_none hn, hmap, Option.map_some]

lemma lexRep_map (min : Nat) (max : Option Nat) (cs : List Char) :
    some (lexRep min max (cs.map lower)) =
      ((lexRep min max cs).1.lower? lower).map (·, (lexRep min max cs).2.map lower) := by
  rw [lexRep, h.strip_map (p := '?') rfl]
  cases hs : strip '?' cs <;> simp [lexRep, hs, Token.lower?]

lemma markOf_lower (c : Char) : markOf (lower c) = markOf c := by
  simp only [markOf, h.eq_iff (p := ')') rfl, h.eq_iff (p := '|') rfl, h.eq_iff (p := '^') rfl,
    h.eq_iff (p := '$') rfl, h.eq_iff (p := '.') rfl]

lemma countOf_lower (c : Char) : countOf (lower c) = countOf c := by
  simp only [countOf, h.eq_iff (p := '*') rfl, h.eq_iff (p := '+') rfl, h.eq_iff (p := '?') rfl]

lemma lexCount_lower (c : Char) (cs : List Char) :
    (if lower c = '\x7b' then lexCount (cs.map lower) else none) =
      onRest lower id (if c = '\x7b' then lexCount cs else none) := by
  simp only [h.eq_iff (p := '\x7b') rfl, h.lexCount_map]
  split_ifs <;> rfl

/-- How a token is read again. -/
lemma lexToken_map {cs rest : List Char} {t : Token}
    (hlex : lexToken isTable cs = some (t, rest)) :
    lexToken isTable (cs.map lower) = (t.lower? lower).map (·, rest.map lower) := by
  have hrep {min : Nat} {max : Option Nat} {cs' : List Char}
      (hlex : some (lexRep min max cs') = some (t, rest)) :
      some (lexRep min max (cs'.map lower)) = (t.lower? lower).map (·, rest.map lower) := by
    rw [h.lexRep_map, Option.some.inj hlex]
  cases cs with
  | nil => cases hlex
  | cons c cs =>
    rw [lexToken] at hlex
    rw [List.map_cons, lexToken, h.markOf_lower, h.countOf_lower, h.lexCount_lower]
    simp only [h.eq_iff (p := '(') rfl, h.eq_iff (p := '[') rfl, h.eq_iff (p := '\\') rfl,
      h.strip_map (p := '?') rfl]
    by_cases hopen : c = '('
    · rw [if_pos hopen] at hlex ⊢
      cases hs : strip '?' cs with
      | some cs' =>
        simp only [hs, Option.map_some] at hlex ⊢
        exact h.lexGroup_map hlex
      | none =>
        simp only [hs, Option.map_none] at hlex ⊢
        cases hlex
        rfl
    rw [if_neg hopen] at hlex ⊢
    by_cases hclass : c = '['
    · rw [if_pos hclass] at hlex ⊢
      exact h.lexClass_map hlex
    rw [if_neg hclass] at hlex ⊢
    by_cases hback : c = '\\'
    · rw [if_pos hback] at hlex ⊢
      exact h.lexBackslash_map hlex
    rw [if_neg hback] at hlex ⊢
    cases hmark : markOf c with
    | some t' =>
      simp only [hmark] at hlex
      cases hlex
      rw [lower?_of_markOf hmark]
      rfl
    | none =>
      cases hcount : countOf c with
      | some p =>
        simp only [hmark, hcount] at hlex
        exact hrep hlex
      | none =>
        rcases hbrace : if c = '\x7b' then lexCount cs else none with - | ⟨⟨min, max⟩, rest'⟩
        · simp only [hmark, hcount, hbrace] at hlex
          cases hlex
          rw [lower?_ofPoint]
          rfl
        · simp only [hmark, hcount, hbrace] at hlex
          exact hrep hlex

/-- The lowered text is read when each token is read again. -/
lemma lex_map {n : Nat} {cs : List Char} {ts : List Token} (hlex : lex isTable n cs = some ts) :
    lex isTable n (cs.map lower) = ts.mapM (Token.lower? lower) := by
  induction n generalizing cs ts with
  | zero =>
    cases cs with
    | nil =>
      cases hlex
      rfl
    | cons c cs => cases hlex
  | succ n ih =>
    cases cs with
    | nil =>
      cases hlex
      rfl
    | cons c cs =>
      rw [lex] at hlex
      cases ht : lexToken isTable (c :: cs) with
      | none => simp [ht] at hlex
      | some p =>
        obtain ⟨t, rest⟩ := p
        simp only [ht, Option.map_eq_some_iff] at hlex
        obtain ⟨ts, hrest, rfl⟩ := hlex
        have hmap := h.lexToken_map ht
        rw [List.map_cons] at hmap ⊢
        rw [lex, hmap, List.mapM_cons]
        cases t.lower? lower with
        | none => rfl
        | some t' =>
          simp only [Option.map_some, ih hrest]
          cases ts.mapM (Token.lower? lower) <;> rfl

end Lowers

/-! ### Lowering an expression -/

/-- The token is read again as itself, with its letters lowered. -/
def Token.survives (f : Char → Char) (t : Token) : Bool :=
  t.lower? f = some (t.map (CharClass.map f))

section Text

variable (U : Unicode)

/-- `strings.ToLower`. -/
def lowerText (e : String) : String := String.ofList (e.toList.map U.lower)

def tokens (e : String) : Option (List Token) := lex U.isTable e.toList.length e.toList

/-- Every token is read again from the lowered text, as itself or as another one. -/
def textReadable (e : String) : Bool :=
  (tokens U e).any fun ts => ts.all fun t => (t.lower? U.lower).isSome

def textSurvives (e : String) : Bool := (tokens U e).any fun ts => ts.all (·.survives U.lower)

/-- The characters of ASCII that are no capital letters. -/
def lowChars : List Char := ((List.range 128).map Char.ofNat).filter isLow

/-- Of these the lowered class has the ones that the class has when the case is ignored. -/
def sameWhenLowered (fold : Option Bool) (a : CharClass) : Bool :=
  lowChars.all fun c => (a.map U.lower).has U (fold.getD false) c == a.has U (fold.getD true) c

/-- Every token survives, and every class has the same lower-case characters. -/
def keepsMeaning (e : String) : Bool :=
  textSurvives U e && (compile U e).any (·.allAtoms (sameWhenLowered U))

end Text

lemma mem_lowChars {c : Char} : c ∈ lowChars ↔ isLow c = true := by
  rw [lowChars, List.mem_filter]
  constructor
  · rintro ⟨-, hc⟩
    exact hc
  · intro hc
    refine ⟨List.mem_map.mpr ⟨c.toNat, List.mem_range.mpr ?_, Char.ofNat_toNat c⟩, hc⟩
    simp only [isLow, Bool.and_eq_true, decide_eq_true_eq] at hc
    exact hc.1

lemma sameWhenLowered_iff {U : Unicode} {fold : Option Bool} {a : CharClass} :
    sameWhenLowered U fold a = true ↔ ∀ c ∈ lowChars,
      (a.map U.lower).has U (fold.getD false) c = a.has U (fold.getD true) c := by
  simp only [sameWhenLowered, List.all_eq_true, beq_iff_eq]

/-- A token that is read again keeps its shape. -/
lemma shape_lower? {f : Char → Char} {t t' : Token} (ht : t.lower? f = some t') :
    t'.shape = t.shape := by
  cases t with
  | atom a =>
    obtain ⟨a', -, rfl⟩ := Option.map_eq_some_iff.mp ht
    rfl
  | quote as => cases ht
  | named withP =>
    simp only [Token.lower?] at ht
    split_ifs at ht
    cases ht
    rfl
  | openFlags fs =>
    simp only [Token.lower?] at ht
    split_ifs at ht
    cases ht
    rfl
  | setFlags fs =>
    simp only [Token.lower?] at ht
    split_ifs at ht
    cases ht
    rfl
  | _ =>
    cases ht
    rfl

lemma shapes_mapM {f : Char → Char} {ts ts' : List Token}
    (hts : ts.mapM (Token.lower? f) = some ts') : ts'.map Token.shape = ts.map Token.shape := by
  induction ts generalizing ts' with
  | nil =>
    cases hts
    rfl
  | cons t ts ih =>
    rw [List.mapM_cons] at hts
    obtain ⟨t', ht, hts⟩ := Option.bind_eq_some_iff.mp hts
    obtain ⟨ts', hts', hcons⟩ := Option.bind_eq_some_iff.mp hts
    cases hcons
    rw [List.map_cons, List.map_cons, shape_lower? ht, ih hts']

lemma mapM_eq_map {α β : Type} {g : α → Option β} {k : α → β} {as : List α}
    (has : ∀ a ∈ as, g a = some (k a)) : as.mapM g = some (as.map k) := by
  induction as with
  | nil => rfl
  | cons a as ih =>
    obtain ⟨ha, has⟩ := List.forall_mem_cons.mp has
    rw [List.mapM_cons, ha, ih has]
    rfl

lemma mapM_isSome {α β : Type} (g : α → Option β) (as : List α) :
    (as.mapM g).isSome = as.all fun a => (g a).isSome := by
  induction as with
  | nil => rfl
  | cons a as ih =>
    rw [List.mapM_cons, List.all_cons, ← ih]
    cases g a with
    | none => rfl
    | some b => cases as.mapM g <;> rfl

/-- A class that can be read again is read as itself. -/
lemma survives_atom {f : Char → Char} {a : CharClass}
    (ha : ((Token.atom a).lower? f).isSome = true) : (Token.atom a).survives f = true := by
  rw [Token.lower?, CharClass.lower?, Option.isSome_map, Option.isSome_map, mapM_isSome,
    List.all_eq_true] at ha
  have hitems : a.items.mapM (ClassItem.lower? f) = some (a.items.map (·.map f)) := by
    refine mapM_eq_map fun i hi => ?_
    have := ha i hi
    cases i with
    | range lo hi =>
      simp only [ClassItem.lower?] at this ⊢
      split_ifs at this ⊢
      · cases this
      · rfl
    | perl c => rfl
    | posix neg name => rfl
    | table neg name => cases this
  rw [Token.survives, Token.lower?, CharClass.lower?, hitems, decide_eq_true_eq]
  rfl

/-- Two products of which one contains the other do so factor by factor, if the first has an
element. -/
lemma rel_of_forall₂ {α β : Type} {R S : α → β → Prop} {as : List α} {bs : List β}
    (hbs : List.Forall₂ R as bs)
    (hRS : ∀ cs, List.Forall₂ R as cs → List.Forall₂ S as cs) {a : α} (ha : a ∈ as) {b : β}
    (hab : R a b) : S a b := by
  induction hbs with
  | nil => cases ha
  | @cons a' b' as bs hab' hbs ih =>
    obtain rfl | ha := List.mem_cons.mp ha
    · have hall := hRS (b :: bs) (.cons hab hbs)
      cases hall with
      | cons hS _ => exact hS
    · refine ih (fun cs hcs => ?_) ha
      have hall := hRS (b' :: cs) (.cons hab' hcs)
      cases hall with
      | cons _ hS => exact hS

lemma forall₂_and_right {α β : Type} {Q : β → Prop} {R : α → β → Prop} {as : List α}
    {bs : List β} :
    List.Forall₂ (fun a b => Q b ∧ R a b) as bs ↔ (∀ b ∈ bs, Q b) ∧ List.Forall₂ R as bs := by
  constructor
  · intro hall
    induction hall with
    | nil => exact ⟨fun b hb => (List.not_mem_nil hb).elim, .nil⟩
    | cons hab _ ih => exact ⟨List.forall_mem_cons.mpr ⟨hab.1, ih.1⟩, .cons hab.2 ih.2⟩
  · rintro ⟨hQ, hall⟩
    induction hall with
    | nil => exact .nil
    | cons hab _ ih =>
      obtain ⟨hb, hQ⟩ := List.forall_mem_cons.mp hQ
      exact .cons ⟨hb, hab⟩ (ih hQ)

variable {U : Unicode} (h : Lowers U.lower U.isTable) {e : String} {r : Expr}
include h

lemma lex_lowerText {ts : List Token} (hlex : tokens U e = some ts) :
    tokens U (lowerText U e) = ts.mapM (Token.lower? U.lower) := by
  rw [tokens, lowerText, String.toList_ofList, List.length_map, h.lex_map hlex]

/-- The lowered text of an expression is one exactly when every token can be read again. -/
theorem compile_lowerText_isSome (hr : compile U e = some r) :
    (compile U (lowerText U e)).isSome = textReadable U e := by
  obtain ⟨ts, hlex, hparse⟩ := Option.bind_eq_some_iff.mp hr
  have hlow : compile U (lowerText U e) =
      (ts.mapM (Token.lower? U.lower)).bind (parseTokens {}) := by
    rw [← lex_lowerText h hlex]
    rfl
  have htokens : tokens U e = some ts := hlex
  rw [hlow, textReadable, htokens, Option.any_some, ← mapM_isSome]
  cases hts : ts.mapM (Token.lower? U.lower) with
  | none => rfl
  | some ts' =>
    rw [Option.bind_some, parseTokens_isSome_congr (shapes_mapM hts) rfl, hparse]
    rfl

/-- The lowered text of such an expression is the expression with its letters lowered. -/
theorem compile_lowerText (hr : compile U e = some r) (hs : textSurvives U e = true) :
    compile U (lowerText U e) = some (r.map id (CharClass.map U.lower)) := by
  obtain ⟨ts, hlex, hparse⟩ := Option.bind_eq_some_iff.mp hr
  have htokens : tokens U e = some ts := hlex
  rw [textSurvives, htokens, Option.any_some] at hs
  have hlow : tokens U (lowerText U e) = some (ts.map (Token.map (CharClass.map U.lower))) := by
    rw [lex_lowerText h hlex]
    exact mapM_eq_map fun t ht => by
      simpa only [Token.survives, decide_eq_true_eq] using List.all_eq_true.mp hs t ht
  have hp := parseTokens_map (g := id) (f := CharClass.map U.lower) (fun b => rfl) ts {}
  rw [hparse] at hp
  show (tokens U (lowerText U e)).bind (parseTokens {}) = _
  rw [hlow]
  exact hp

/-- On lower-case texts the lowered expression matches as the expression does when it ignores the
case. -/
theorem matchString_lowerText (hr : compile U e = some r) (hk : keepsMeaning U e = true)
    {text : String} (htext : text.toList.all isLow = true) :
    MatchString U (lowerText U e) text ↔ MatchString U ("(?i)" ++ e) text := by
  rw [keepsMeaning, hr, Bool.and_eq_true, Option.any_some, Expr.allAtoms_eq_true] at hk
  obtain ⟨hs, hatoms⟩ := hk
  have hsame := hatoms.imp fun fold a ha c (hc : c ∈ text.toList) =>
    sameWhenLowered_iff.mp ha c (mem_lowChars.mpr (List.all_eq_true.mp htext c hc))
  rw [matchString_iff (compile_lowerText h hr hs), matchString_iff (compile_ignoreCase hr)]
  simp only [Expr.MatchesText, Expr.matches_map]
  exact exists_congr fun i => exists_congr fun j => Expr.matches_congr r hsame i j

/-! ### Sequences of classes -/

omit h in
lemma matchString_ofAtoms {as : List (Option Bool × CharClass)}
    (hr : compile U e = some (Expr.ofAtoms as)) {text : String}
    (hlength : text.toList.length = as.length) :
    MatchString U ("(?i)" ++ e) text ↔
      List.Forall₂ (fun p c => p.2.has U (p.1.getD true) c = true) as text.toList := by
  rw [matchString_iff (compile_ignoreCase hr), Expr.map_ofAtoms,
    matchesText_ofAtoms _ _ (by rw [hlength, List.length_map]), List.forall₂_map_left_iff]
  rfl

lemma matchString_lowerText_ofAtoms {as : List (Option Bool × CharClass)}
    (hr : compile U e = some (Expr.ofAtoms as)) (hs : textSurvives U e = true) {text : String}
    (hlength : text.toList.length = as.length) :
    MatchString U (lowerText U e) text ↔
      List.Forall₂ (fun p c => (p.2.map U.lower).has U (p.1.getD false) c = true) as
        text.toList := by
  rw [matchString_iff (compile_lowerText h hr hs), Expr.map_ofAtoms,
    matchesText_ofAtoms _ _ (by rw [hlength, List.length_map]), List.forall₂_map_left_iff]
  rfl

/-- Each class of a sequence is told from its lowered one by a text as long as the sequence. -/
lemma keepsMeaning_of_ofAtoms {as : List (Option Bool × CharClass)}
    (hr : compile U e = some (Expr.ofAtoms as)) (hs : textSurvives U e = true)
    (hne : ∀ p ∈ as, ∃ c ∈ lowChars, p.2.has U (p.1.getD true) c = true)
    (hm : ∀ text : String, text.toList.all isLow = true →
      (MatchString U (lowerText U e) text ↔ MatchString U ("(?i)" ++ e) text)) :
    keepsMeaning U e = true := by
  let R (p : Option Bool × CharClass) (c : Char) : Prop :=
    c ∈ lowChars ∧ p.2.has U (p.1.getD true) c = true
  let S (p : Option Bool × CharClass) (c : Char) : Prop :=
    c ∈ lowChars ∧ (p.2.map U.lower).has U (p.1.getD false) c = true
  have hRS (cs : List Char) : List.Forall₂ R as cs ↔ List.Forall₂ S as cs := by
    simp only [R, S, forall₂_and_right]
    refine and_congr_right fun hlow => ?_
    by_cases hlength : cs.length = as.length
    · have htext : (String.ofList cs).toList = cs := String.toList_ofList
      have hm := hm (String.ofList cs) (by
        rw [htext]
        exact List.all_eq_true.mpr fun c hc => mem_lowChars.mp (hlow c hc))
      rw [matchString_ofAtoms hr (by rw [htext, hlength]),
        matchString_lowerText_ofAtoms h hr hs (by rw [htext, hlength]), htext] at hm
      exact hm.symm
    · constructor
      · exact fun hall => absurd hall.length_eq.symm hlength
      · exact fun hall => absurd hall.length_eq.symm hlength
  obtain ⟨bs, hbs⟩ : ∃ bs, List.Forall₂ R as bs := by
    clear hr hRS
    induction as with
    | nil => exact ⟨[], .nil⟩
    | cons p as ih =>
      obtain ⟨c, hc⟩ := hne p (List.mem_cons_self ..)
      obtain ⟨bs, hbs⟩ := ih fun p hp => hne p (List.mem_cons_of_mem _ hp)
      exact ⟨c :: bs, .cons hc hbs⟩
  have hsame (p : Option Bool × CharClass) (hp : p ∈ as) :
      sameWhenLowered U p.1 p.2 = true := by
    refine sameWhenLowered_iff.mpr fun c hc => ?_
    rw [Bool.eq_iff_iff]
    constructor
    · intro hS
      exact (rel_of_forall₂ ((hRS bs).mp hbs) (fun cs => (hRS cs).mpr) hp ⟨hc, hS⟩ : R p c).2
    · intro hR
      exact (rel_of_forall₂ hbs (fun cs => (hRS cs).mp) hp ⟨hc, hR⟩ : S p c).2
  rw [keepsMeaning, hs, hr, Option.any_some, Bool.true_and, Expr.allAtoms_eq_true]
  exact Expr.allAtoms_ofAtoms.mpr hsame

/-- For an expression without groups, repetitions, assertions and flags, whose classes all have a
lower-case character, the condition is necessary, too. -/
theorem keepsMeaning_of_matchString {as : List CharClass}
    (htokens : tokens U e = some (as.map Token.atom))
    (hne : ∀ a ∈ as, ∃ c ∈ lowChars, a.has U true c = true)
    (hvalid : compile U (lowerText U e) ≠ none)
    (hm : ∀ text : String, text.toList.all isLow = true →
      (MatchString U (lowerText U e) text ↔ MatchString U ("(?i)" ++ e) text)) :
    keepsMeaning U e = true := by
  have hr : compile U e = some (Expr.ofAtoms (as.map (none, ·))) := by
    show (tokens U e).bind (parseTokens {}) = _
    rw [htokens, Option.bind_some, parseTokens_atoms]
  have hreadable := compile_lowerText_isSome h hr
  rw [Option.isSome_iff_ne_none.mpr hvalid, textReadable, htokens, Option.any_some,
    List.all_map] at hreadable
  have hs : textSurvives U e = true := by
    rw [textSurvives, htokens, Option.any_some, List.all_map]
    exact List.all_eq_true.mpr fun a ha =>
      survives_atom (List.all_eq_true.mp hreadable.symm a ha)
  refine keepsMeaning_of_ofAtoms h hr hs (fun p hp => ?_) hm
  obtain ⟨a, ha, rfl⟩ := List.mem_map.mp hp
  exact hne a ha

end GoLib.Regexp
