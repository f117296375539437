import HiddifyCore.GoLib.Text
import Mathlib.Data.List.TakeWhile

/-!
# JSON tokens

The lexical half of RFC 8259: a scanner that reads one character at a time, so that a text can be
scanned piece by piece (`scan_append`). A string that is pasted into a document without being
escaped comes out as it went in when it is plain, and as something shorter otherwise: that is the
second half of the module.
-/

namespace GoLib.JsonText

inductive Token where
  | lbrace | rbrace | lbracket | rbracket | colon | comma
  | null
  | bool (b : Bool)
  /-- A number as it is spelled. -/
  | num (literal : String)
  | str (s : String)
  deriving DecidableEq, Repr

/-- What has been read of an escape sequence: nothing, the backslash, or the backslash, the `u`
and some of the four digits. -/
inductive Escape where
  | none
  | backslash
  | hex (left : Nat) (value : Nat)
  deriving DecidableEq, Repr

/-- Where the scanner is: between two tokens, or inside one. The units of a string are its
characters and the numbers of its `\u` escapes, which may be halves of a surrogate pair. -/
inductive State where
  | between
  | string (units : List Nat) (esc : Escape)
  | number (literal : List Char)
  | word (letters : List Char)
  deriving DecidableEq, Repr

/-! ### Characters and literals -/

def isBlank (c : Char) : Bool := c = ' ' || c = '\t' || c = '\n' || c = '\r'

def isNumberChar (c : Char) : Bool :=
  c.isDigit || c = '-' || c = '+' || c = '.' || c = 'e' || c = 'E'

def hexValue (c : Char) : Option Nat :=
  if c.isDigit then some (c.toNat - '0'.toNat)
  else if 'a' ≤ c ∧ c ≤ 'f' then some (c.toNat - 'a'.toNat + 10)
  else if 'A' ≤ c ∧ c ≤ 'F' then some (c.toNat - 'A'.toNat + 10)
  else none

/-- The character that a backslash and `c` stand for. -/
def escaped (c : Char) : Option Char :=
  if c = '"' then some '"'
  else if c = '\\' then some '\\'
  else if c = '/' then some '/'
  else if c = 'b' then some '\x08'
  else if c = 'f' then some '\x0c'
  else if c = 'n' then some '\n'
  else if c = 'r' then some '\r'
  else if c = 't' then some '\t'
  else none

/-- At least one digit. -/
def isDigits (cs : List Char) : Bool := !cs.isEmpty && cs.all Char.isDigit

/-- Digits without a superfluous zero in front. -/
def isIntegerPart (cs : List Char) : Bool := isDigits cs && (cs = ['0'] || cs.head? ≠ some '0')

def isFraction : List Char → Bool
  | '.' :: cs => isDigits cs
  | cs => cs.isEmpty

def isExponent : List Char → Bool
  | e :: '+' :: cs => (e = 'e' || e = 'E') && isDigits cs
  | e :: '-' :: cs => (e = 'e' || e = 'E') && isDigits cs
  | e :: cs => (e = 'e' || e = 'E') && isDigits cs
  | [] => true

def dropMinus : List Char → List Char
  | '-' :: cs => cs
  | cs => cs

/-- The grammar of numbers. -/
def isNumber (literal : List Char) : Bool :=
  let (int, rest) := (dropMinus literal).span Char.isDigit
  let (fraction, exponent) := rest.span fun c => c ≠ 'e' && c ≠ 'E'
  isIntegerPart int && isFraction fraction && isExponent exponent

def wordToken (letters : List Char) : Option Token :=
  if letters = "null".toList then some .null
  else if letters = "true".toList then some (.bool true)
  else if letters = "false".toList then some (.bool false)
  else none

/-! ### The text of a string -/

def isSurrogate (u : Nat) : Bool := 0xD800 ≤ u && u < 0xE000

def isHighSurrogate (u : Nat) : Bool := 0xD800 ≤ u && u < 0xDC00

def isLowSurrogate (u : Nat) : Bool := 0xDC00 ≤ u && u < 0xE000

/-- Half a pair on its own becomes the replacement character. -/
def unitChar (u : Nat) : Char := if isSurrogate u then '\uFFFD' else Char.ofNat u

def unitsText : List Nat → List Char
  | [] => []
  | [u] => [unitChar u]
  | u :: v :: units =>
    if isHighSurrogate u && isLowSurrogate v then
      Char.ofNat (0x10000 + (u - 0xD800) * 0x400 + (v - 0xDC00)) :: unitsText units
    else
      unitChar u :: unitsText (v :: units)

/-! ### The scanner -/

/-- A character between two tokens. -/
def start (c : Char) : Option (State × List Token) :=
  if isBlank c then some (.between, [])
  else if c = '\x7b' then some (.between, [.lbrace])
  else if c = '\x7d' then some (.between, [.rbrace])
  else if c = '[' then some (.between, [.lbracket])
  else if c = ']' then some (.between, [.rbracket])
  else if c = ':' then some (.between, [.colon])
  else if c = ',' then some (.between, [.comma])
  else if c = '"' then some (.string [] .none, [])
  else if c.isDigit || c = '-' then some (.number [c], [])
  else if c.isLower then some (.word [c], [])
  else none

def stringStep (units : List Nat) (esc : Escape) (c : Char) : Option (State × List Token) :=
  match esc with
  | .none =>
    if c = '"' then some (.between, [.str (String.ofList (unitsText units))])
    else if c = '\\' then some (.string units .backslash, [])
    else if c.toNat < 0x20 then none
    else some (.string (units ++ [c.toNat]) .none, [])
  | .backslash =>
    if c = 'u' then some (.string units (.hex 4 0), [])
    else (escaped c).map fun d => (.string (units ++ [d.toNat]) .none, [])
  | .hex left value =>
    (hexValue c).map fun d =>
      if left ≤ 1 then (.string (units ++ [16 * value + d]) .none, [])
      else (.string units (.hex (left - 1) (16 * value + d)), [])

/-- The token that has been read when the state is left. -/
def State.token : State → Option (List Token)
  | .between => some []
  | .string _ _ => none
  | .number literal => if isNumber literal then some [.num (String.ofList literal)] else none
  | .word letters => (wordToken letters).map fun t => [t]

/-- A character that does not belong to the current token ends it. -/
def leave (st : State) (c : Char) : Option (State × List Token) := do
  let toks ← st.token
  let (st', toks') ← start c
  some (st', toks ++ toks')

def step (st : State) (c : Char) : Option (State × List Token) :=
  match st with
  | .between => start c
  | .string units esc => stringStep units esc c
  | .number literal =>
    if isNumberChar c then some (.number (literal ++ [c]), []) else leave st c
  | .word letters => if c.isLower then some (.word (letters ++ [c]), []) else leave st c

/-- Scan a piece of text, and say where the scanner is then. -/
def scan (st : State) : List Char → Option (State × List Token)
  | [] => some (st, [])
  | c :: cs => do
    let (st', toks) ← step st c
    let (st'', toks') ← scan st' cs
    some (st'', toks ++ toks')

/-- The tokens of a text. -/
def lex (cs : List Char) : Option (List Token) := do
  let (st, toks) ← scan .between cs
  let last ← st.token
  some (toks ++ last)

lemma scan_cons {st : State} {c : Char} {cs : List Char} :
    scan st (c :: cs) = (step st c).bind fun p =>
      (scan p.1 cs).map fun q => (q.1, p.2 ++ q.2) := by
  simp only [scan]
  cases step st c with
  | none => rfl
  | some p =>
    cases h : scan p.1 cs <;> simp [h]

/-- Scanning goes on where it stopped. -/
lemma scan_append (st : State) (xs ys : List Char) :
    scan st (xs ++ ys) = (scan st xs).bind fun p =>
      (scan p.1 ys).map fun q => (q.1, p.2 ++ q.2) := by
  induction xs generalizing st with
  | nil =>
    simp only [List.nil_append, scan, Option.bind_some]
    cases scan st ys <;> rfl
  | cons c cs ih =>
    simp only [List.cons_append, scan_cons]
    cases step st c with
    | none => rfl
    | some p =>
      simp only [Option.bind_some, ih]
      cases scan p.1 cs with
      | none => rfl
      | some q =>
        simp only [Option.bind_some, Option.map_some]
        cases scan q.1 ys <;> simp

/-- A piece that scans leaves the rest to be scanned from where it ends. -/
lemma scan_append_of {st st' : State} {xs : List Char} {toks : List Token}
    (h : scan st xs = some (st', toks)) (ys : List Char) :
    scan st (xs ++ ys) = (scan st' ys).map fun q => (q.1, toks ++ q.2) := by
  rw [scan_append, h, Option.bind_some]

/-! ### Numbers -/

lemma scan_number {cs : List Char} (h : ∀ c ∈ cs, isNumberChar c) (literal : List Char) :
    scan (.number literal) cs = some (.number (literal ++ cs), []) := by
  induction cs generalizing literal with
  | nil => simp [scan]
  | cons c cs ih =>
    obtain ⟨hc, hcs⟩ := List.forall_mem_cons.mp h
    have hstep : step (.number literal) c = some (.number (literal ++ [c]), []) := by
      simp [step, hc]
    rw [scan_cons, hstep, Option.bind_some, ih hcs]
    simp

lemma start_number {c : Char} (h : c.isDigit ∨ c = '-') : start c = some (.number [c], []) := by
  have hne : ∀ d : Char, ¬ d.isDigit → d ≠ '-' → c ≠ d := by
    rintro d hdigit hminus rfl
    rcases h with h | h
    · exact hdigit h
    · exact hminus h
  have hmarks : ∀ d ∈ [' ', '\t', '\n', '\r', '\x7b', '\x7d', '[', ']', ':', ',', '"'],
      ¬ d.isDigit ∧ d ≠ '-' := by
    simp only [List.forall_mem_cons, List.not_mem_nil, false_implies, implies_true, and_true]
    decide
  have hnot := fun d hd => hne d (hmarks d hd).1 (hmarks d hd).2
  simp only [List.forall_mem_cons] at hnot
  simp [start, isBlank, hnot, h]

/-- The decimal digits of a number do not begin with a superfluous zero. -/
lemma toDigits_head {n : Nat} (hn : 0 < n) : (Nat.toDigits 10 n).head? ≠ some '0' := by
  induction n using Nat.strong_induction_on with
  | _ n ih =>
    rw [Nat.toDigits_eq_if (by decide)]
    split_ifs with hlt
    · have hdigit : ∀ m < 10, 0 < m → [m.digitChar].head? ≠ some '0' := by decide
      exact hdigit n hlt hn
    · have hne : Nat.toDigits 10 (n / 10) ≠ [] := Nat.toDigits_ne_nil
      rw [List.head?_append_of_ne_nil _ hne]
      exact ih (n / 10) (by omega) (by omega)

lemma isDigits_toDigits (n : Nat) : isDigits (Nat.toDigits 10 n) = true := by
  have hne : Nat.toDigits 10 n ≠ [] := Nat.toDigits_ne_nil
  simp only [isDigits, Bool.and_eq_true, Bool.not_eq_true', List.isEmpty_eq_false_iff,
    List.all_eq_true]
  exact ⟨hne, fun c hc => Strings.isDigit_of_mem_toDigits hc⟩

lemma isIntegerPart_toDigits (n : Nat) : isIntegerPart (Nat.toDigits 10 n) = true := by
  rcases Nat.eq_zero_or_pos n with rfl | hn
  · decide
  · simp [isIntegerPart, isDigits_toDigits, toDigits_head hn]

/-- Digits behind which an exponent or nothing stands. -/
lemma isNumber_toDigits {literal rest : List Char} {n : Nat}
    (h : dropMinus literal = Nat.toDigits 10 n ++ rest)
    (hrest : rest = [] ∨ ∃ e, rest = 'e' :: '-' :: Nat.toDigits 10 e) :
    isNumber literal = true := by
  have hall : ∀ c ∈ Nat.toDigits 10 n, c.isDigit := fun c => Strings.isDigit_of_mem_toDigits
  have hstop : rest.takeWhile Char.isDigit = [] ∧ rest.dropWhile Char.isDigit = rest := by
    rcases hrest with rfl | ⟨e, rfl⟩ <;> exact ⟨rfl, rfl⟩
  have hspan : (dropMinus literal).span Char.isDigit = (Nat.toDigits 10 n, rest) := by
    rw [h, List.span_eq_takeWhile_dropWhile, List.takeWhile_append_of_pos hall,
      List.dropWhile_append_of_pos hall, hstop.1, hstop.2, List.append_nil]
  simp only [isNumber, hspan]
  rcases hrest with rfl | ⟨e, rfl⟩
  · simp [isIntegerPart_toDigits, isFraction, isExponent]
  · simp [isIntegerPart_toDigits, isFraction, isExponent, isDigits_toDigits,
      List.span_eq_takeWhile_dropWhile]

lemma dropMinus_intDigits (i : Int) (rest : List Char) :
    dropMinus ((Strings.intDigits i).toList ++ rest) = Nat.toDigits 10 i.natAbs ++ rest := by
  by_cases hneg : i < 0
  · simp [Strings.intDigits, hneg, dropMinus]
  · have hne : Nat.toDigits 10 i.natAbs ≠ [] := Nat.toDigits_ne_nil
    rcases hcs : Nat.toDigits 10 i.natAbs with _ | ⟨c, cs⟩
    · exact absurd hcs hne
    · have hc : c.isDigit := Strings.isDigit_of_mem_toDigits (hcs ▸ List.mem_cons_self)
      have hminus : c ≠ '-' := by
        rintro rfl
        exact absurd hc (by decide)
      simp [Strings.intDigits, Strings.natDigits, hneg, hcs, dropMinus, hminus]

lemma isNumber_intDigits (i : Int) : isNumber (Strings.intDigits i).toList = true := by
  have h := dropMinus_intDigits i []
  rw [List.append_nil] at h
  exact isNumber_toDigits h (.inl rfl)

/-- A number with a negative exponent. -/
lemma isNumber_exponent (i : Int) (e : Nat) :
    isNumber (Strings.intDigits i ++ "e-" ++ Strings.natDigits e).toList = true := by
  have h := dropMinus_intDigits i ('e' :: '-' :: Nat.toDigits 10 e)
  refine isNumber_toDigits (n := i.natAbs) ?_ (.inr ⟨e, rfl⟩)
  simpa [Strings.natDigits] using h

/-- A printed number is scanned as it was printed. -/
lemma scan_intDigits (i : Int) :
    scan .between (Strings.intDigits i).toList
      = some (.number (Strings.intDigits i).toList, []) := by
  have hchars : ∃ c cs, (Strings.intDigits i).toList = c :: cs ∧ (c.isDigit ∨ c = '-') ∧
      ∀ d ∈ cs, d.isDigit := by
    by_cases hneg : i < 0
    · refine ⟨'-', Nat.toDigits 10 i.natAbs, by simp [Strings.intDigits, hneg], Or.inr rfl, ?_⟩
      exact fun d hd => Strings.isDigit_of_mem_toDigits hd
    · have hne : Nat.toDigits 10 i.natAbs ≠ [] := Nat.toDigits_ne_nil
      rcases hcs : Nat.toDigits 10 i.natAbs with _ | ⟨c, cs⟩
      · exact absurd hcs hne
      · have hall : ∀ d ∈ c :: cs, d.isDigit := fun d hd =>
          Strings.isDigit_of_mem_toDigits (hcs ▸ hd)
        obtain ⟨hc, hrest⟩ := List.forall_mem_cons.mp hall
        exact ⟨c, cs, by simp [Strings.intDigits, Strings.natDigits, hneg, hcs], Or.inl hc, hrest⟩
  obtain ⟨c, cs, heq, hc, hcs⟩ := hchars
  have hnumber : ∀ d ∈ cs, isNumberChar d := fun d hd => by simp [isNumberChar, hcs d hd]
  have hstep : step .between c = some (.number [c], []) := start_number hc
  rw [heq, scan_cons, hstep, Option.bind_some, scan_number hnumber]
  rfl

/-! ### Pasted strings -/

/-- A text that may stand between two quotes as it is. -/
def IsPlain (cs : List Char) : Prop := ∀ c ∈ cs, c ≠ '"' ∧ c ≠ '\\' ∧ 0x20 ≤ c.toNat

-- the elements of the list are checked, and not every character
instance : DecidablePred IsPlain :=
  List.decidableBAll fun c => c ≠ '"' ∧ c ≠ '\\' ∧ 0x20 ≤ c.toNat

/-- A token in which no string needs escaping. -/
def Token.isPlain : Token → Bool
  | .str s => decide (IsPlain s.toList)
  | _ => true

lemma isSurrogate_toNat (c : Char) : isSurrogate c.toNat = false := by
  have hvalid : c.toNat < 0xD800 ∨ 0xDFFF < c.toNat ∧ c.toNat < 0x110000 := c.valid
  simp only [isSurrogate, Bool.and_eq_false_iff, decide_eq_false_iff_not]
  omega

lemma unitsText_toNat (cs : List Char) : unitsText (cs.map Char.toNat) = cs := by
  have hchar : ∀ c : Char, unitChar c.toNat = c := by
    intro c
    simp only [unitChar, isSurrogate_toNat]
    exact Char.ofNat_toNat c
  have hhigh : ∀ c : Char, isHighSurrogate c.toNat = false := by
    intro c
    have := isSurrogate_toNat c
    simp only [isSurrogate, isHighSurrogate, Bool.and_eq_false_iff,
      decide_eq_false_iff_not] at this ⊢
    omega
  induction cs with
  | nil => rfl
  | cons c cs ih =>
    cases cs with
    | nil => simp [unitsText, hchar]
    | cons d cs => simpa [unitsText, hhigh, hchar] using ih

lemma unitsText_length (units : List Nat) : (unitsText units).length ≤ units.length := by
  induction units using unitsText.induct with
  | case1 => rfl
  | case2 u => rfl
  | case3 u v units h ih =>
    rw [unitsText, if_pos h]
    simp only [List.length_cons]
    omega
  | case4 u v units h ih =>
    rw [unitsText, if_neg h]
    simp only [List.length_cons] at ih ⊢
    omega

lemma scan_plain {cs : List Char} (h : IsPlain cs) (units : List Nat) :
    scan (.string units .none) cs = some (.string (units ++ cs.map Char.toNat) .none, []) := by
  induction cs generalizing units with
  | nil => simp [scan]
  | cons c cs ih =>
    obtain ⟨⟨hquote, hslash, hctrl⟩, hcs⟩ := List.forall_mem_cons.mp h
    have hstep : step (.string units .none) c = some (.string (units ++ [c.toNat]) .none, []) := by
      simp [step, stringStep, hquote, hslash, Nat.not_lt.mpr hctrl]
    rw [scan_cons, hstep, Option.bind_some, ih hcs]
    simp

/-- The units that the current token has so far, if it is a string. -/
def State.size : State → Nat
  | .string units _ => units.length
  | _ => 0

lemma start_size {c : Char} {st : State} {toks : List Token} (h : start c = some (st, toks)) :
    st.size = 0 ∧ ∀ t, .str t ∉ toks := by
  revert h
  fun_cases start c <;> intro h <;> cases h <;> simp [State.size]

lemma State.token_str {st : State} {toks : List Token} (h : st.token = some toks) (t : String) :
    .str t ∉ toks := by
  cases st with
  | between => cases h; simp
  | string units esc => cases h
  | number literal =>
    simp only [State.token, Option.ite_none_right_eq_some, Option.some.injEq] at h
    simp [← h.2]
  | word letters =>
    simp only [State.token, wordToken] at h
    split_ifs at h <;> cases h <;> simp

lemma leave_size {st st' : State} {c : Char} {toks : List Token}
    (h : leave st c = some (st', toks)) : st'.size = 0 ∧ ∀ t, .str t ∉ toks := by
  simp only [leave, Option.bind_eq_bind, Option.bind_eq_some_iff, Option.some.injEq,
    Prod.mk.injEq] at h
  obtain ⟨before, hbefore, ⟨st₁, after⟩, hafter, rfl, rfl⟩ := h
  obtain ⟨hsize, hstr⟩ := start_size hafter
  refine ⟨hsize, fun t => ?_⟩
  simp [State.token_str hbefore t, hstr t]

lemma stringStep_size {units : List Nat} {esc : Escape} {c : Char} {st : State}
    {toks : List Token} (h : stringStep units esc c = some (st, toks)) :
    st.size ≤ units.length + 1 ∧ ∀ t, .str t ∈ toks → t.length ≤ units.length := by
  cases esc with
  | none =>
    simp only [stringStep] at h
    split_ifs at h <;> cases h
    · simp [State.size, unitsText_length]
    · simp [State.size]
    · simp [State.size]
  | backslash =>
    simp only [stringStep] at h
    split_ifs at h
    · cases h
      simp [State.size]
    · obtain ⟨d, -, hd⟩ := Option.map_eq_some_iff.mp h
      cases hd
      simp [State.size]
  | hex left value =>
    obtain ⟨d, -, hd⟩ := Option.map_eq_some_iff.mp h
    split_ifs at hd <;> cases hd <;> simp [State.size]

/-- One character makes a string at most one unit longer. -/
lemma step_size {st st' : State} {c : Char} {toks : List Token}
    (h : step st c = some (st', toks)) :
    st'.size ≤ st.size + 1 ∧ ∀ t, .str t ∈ toks → t.length ≤ st.size := by
  have hout : st'.size = 0 ∧ (∀ t, .str t ∉ toks) →
      st'.size ≤ st.size + 1 ∧ ∀ t, .str t ∈ toks → t.length ≤ st.size :=
    fun ⟨hsize, hstr⟩ => ⟨by omega, fun t ht => absurd ht (hstr t)⟩
  cases st with
  | between => exact hout (start_size h)
  | string units esc => exact stringStep_size h
  | number literal =>
    simp only [step] at h
    split_ifs at h
    · cases h
      simp [State.size]
    · exact hout (leave_size h)
  | word letters =>
    simp only [step] at h
    split_ifs at h
    · cases h
      simp [State.size]
    · exact hout (leave_size h)

lemma scan_cons_eq_some {st st' : State} {c : Char} {cs : List Char} {toks : List Token}
    (h : scan st (c :: cs) = some (st', toks)) :
    ∃ st₁ now later, step st c = some (st₁, now) ∧ scan st₁ cs = some (st', later) ∧
      toks = now ++ later := by
  rw [scan_cons] at h
  obtain ⟨⟨st₁, now⟩, hnow, h⟩ := Option.bind_eq_some_iff.mp h
  obtain ⟨⟨st₂, later⟩, hlater, h⟩ := Option.map_eq_some_iff.mp h
  cases h
  exact ⟨st₁, now, later, hnow, hlater, rfl⟩

/-- A quote that is followed by a line break closes a string, because no string may start before a
line break. -/
lemma scan_close {st st' : State} {toks : List Token}
    (h : scan st ['"', '\n'] = some (st', toks)) :
    st' = .between ∧ ∃ units, st = .string units .none ∧
      toks = [.str (String.ofList (unitsText units))] := by
  obtain ⟨st₁, now, later, hnow, hlater, rfl⟩ := scan_cons_eq_some h
  have hopen : step (.string [] .none) '\n' = none := rfl
  have hleave : leave st '"' = some (st₁, now) → False := by
    intro hl
    simp only [leave, Option.bind_eq_bind, Option.bind_eq_some_iff, Option.some.injEq,
      Prod.mk.injEq] at hl
    obtain ⟨before, -, ⟨st₂, after⟩, hafter, rfl, -⟩ := hl
    cases hafter
    rw [scan_cons, hopen] at hlater
    cases hlater
  cases st with
  | between =>
    cases hnow
    rw [scan_cons, hopen] at hlater
    cases hlater
  | string units esc =>
    cases esc with
    | none =>
      cases hnow
      cases hlater
      exact ⟨rfl, units, rfl, rfl⟩
    | backslash =>
      cases hnow
      cases hlater
    | hex left value => cases hnow
  | number literal => exact (hleave hnow).elim
  | word letters => exact (hleave hnow).elim

/-- No string that ends in a pasted text is longer than the text, and the text ends with one. -/
lemma scan_pasted {st st' : State} {cs : List Char} {toks : List Token}
    (h : scan st (cs ++ ['"', '\n']) = some (st', toks)) :
    st' = .between ∧ ∀ t, .str t ∈ toks → t.length ≤ st.size + cs.length := by
  induction cs generalizing st toks with
  | nil =>
    obtain ⟨rfl, units, rfl, rfl⟩ := scan_close h
    refine ⟨rfl, fun t ht => ?_⟩
    rw [List.mem_singleton] at ht
    cases ht
    simpa [State.size] using unitsText_length units
  | cons c cs ih =>
    obtain ⟨st₁, now, later, hnow, hlater, rfl⟩ := scan_cons_eq_some h
    obtain ⟨hsize, hstr⟩ := step_size hnow
    obtain ⟨hst, hlen⟩ := ih hlater
    refine ⟨hst, fun t ht => ?_⟩
    rw [List.length_cons]
    rcases List.mem_append.mp ht with ht | ht
    · have := hstr t ht
      omega
    · have := hlen t ht
      omega

/-- Pasting a text that is not plain behind an open quote loses characters of it. -/
lemma scan_pasted_lt {units : List Nat} {st' : State} {cs : List Char} {toks : List Token}
    (hcs : ¬ IsPlain cs)
    (h : scan (.string units .none) (cs ++ ['"', '\n']) = some (st', toks)) :
    ∀ t, .str t ∈ toks → t.length < units.length + cs.length := by
  induction cs generalizing units toks with
  | nil => exact absurd (List.forall_mem_nil _) hcs
  | cons c cs ih =>
    obtain ⟨st₁, now, later, hnow, hlater, rfl⟩ := scan_cons_eq_some h
    obtain ⟨-, hstr⟩ := step_size hnow
    intro t ht
    rw [List.length_cons]
    rcases List.mem_append.mp ht with hin | hin
    · have := hstr t hin
      simp only [State.size] at this
      omega
    simp only [step, stringStep] at hnow
    split_ifs at hnow with hquote hslash hctrl <;> cases hnow
    · have := (scan_pasted hlater).2 t hin
      simp only [State.size] at this
      omega
    · have := (scan_pasted hlater).2 t hin
      simp only [State.size] at this
      omega
    · have hrest : ¬ IsPlain cs := fun hplain =>
        hcs (List.forall_mem_cons.mpr ⟨⟨hquote, hslash, Nat.le_of_not_lt hctrl⟩, hplain⟩)
      have := ih hrest hlater t hin
      simp only [List.length_append, List.length_singleton] at this
      omega

/-! ### The lexer in the middle of a text -/

/-- The tokens of what follows, with the one that the lexer is inside of. -/
def lexFrom (l : State) (cs : List Char) : Option (List Token) := do
  let (l', toks) ← scan l cs
  let last ← l'.token
  some (toks ++ last)

lemma lexFrom_nil (l : State) : lexFrom l [] = l.token := by
  simp only [lexFrom, scan, Option.bind_eq_bind, Option.bind_some, List.nil_append]
  cases l.token <;> rfl

lemma lexFrom_append (l : State) (xs ys : List Char) :
    lexFrom l (xs ++ ys) = (scan l xs).bind fun p => (lexFrom p.1 ys).map (p.2 ++ ·) := by
  simp only [lexFrom, scan_append, Option.bind_eq_bind]
  cases scan l xs with
  | none => rfl
  | some p =>
    simp only [Option.bind_some]
    cases scan p.1 ys with
    | none => rfl
    | some q => cases h : q.1.token <;> simp [h]

lemma lexFrom_cons (l : State) (c : Char) (cs : List Char) :
    lexFrom l (c :: cs) = (step l c).bind fun p => (lexFrom p.1 cs).map (p.2 ++ ·) := by
  have hsingle : scan l [c] = step l c := by
    rw [scan_cons]
    cases step l c <;> simp [scan]
  rw [← List.singleton_append, lexFrom_append, hsingle]

lemma lexFrom_cons_eq_some {l : State} {c : Char} {cs : List Char} {ts : List Token}
    (h : lexFrom l (c :: cs) = some ts) : ∃ l' now later, step l c = some (l', now) ∧
      lexFrom l' cs = some later ∧ ts = now ++ later := by
  rw [lexFrom_cons] at h
  obtain ⟨⟨l', now⟩, hstep, h⟩ := Option.bind_eq_some_iff.mp h
  obtain ⟨later, hlater, rfl⟩ := Option.map_eq_some_iff.mp h
  exact ⟨l', now, later, hstep, hlater, rfl⟩

lemma stringStep_cases {units : List Nat} {esc : Escape} {c : Char} {l : State}
    {now : List Token} (h : stringStep units esc c = some (l, now)) :
    (∃ x, now = [.str x] ∧ l = .between) ∨
      now = [] ∧ ∃ units' esc', l = .string units' esc' := by
  cases esc with
  | none =>
    simp only [stringStep] at h
    split_ifs at h <;> cases h
    · exact Or.inl ⟨_, rfl, rfl⟩
    · exact Or.inr ⟨rfl, _, _, rfl⟩
    · exact Or.inr ⟨rfl, _, _, rfl⟩
  | backslash =>
    simp only [stringStep] at h
    split_ifs at h
    · cases h
      exact Or.inr ⟨rfl, _, _, rfl⟩
    · obtain ⟨d, -, hd⟩ := Option.map_eq_some_iff.mp h
      cases hd
      exact Or.inr ⟨rfl, _, _, rfl⟩
  | hex left value =>
    obtain ⟨d, -, hd⟩ := Option.map_eq_some_iff.mp h
    split_ifs at hd <;> cases hd <;> exact Or.inr ⟨rfl, _, _, rfl⟩

/-- Inside a string the next token is a string. -/
lemma lexFrom_string {cs : List Char} {units : List Nat} {esc : Escape} {ts : List Token}
    (h : lexFrom (.string units esc) cs = some ts) : ∃ x later, ts = .str x :: later := by
  induction cs generalizing units esc with
  | nil =>
    rw [lexFrom_nil] at h
    cases h
  | cons c cs ih =>
    obtain ⟨l, now, later, hstep, hlater, rfl⟩ := lexFrom_cons_eq_some h
    rcases stringStep_cases hstep with ⟨x, rfl, -⟩ | ⟨rfl, units', esc', rfl⟩
    · exact ⟨x, later, rfl⟩
    · exact ih hlater

lemma lexFrom_number {cs : List Char} {literal : List Char} {ts : List Token}
    (h : lexFrom (.number literal) cs = some ts) : ∃ ys zs later, cs = ys ++ zs ∧
      isNumber (literal ++ ys) = true ∧ ts = .num (String.ofList (literal ++ ys)) :: later := by
  induction cs generalizing literal with
  | nil =>
    rw [lexFrom_nil, State.token, Option.ite_none_right_eq_some, Option.some.injEq] at h
    obtain ⟨hnumber, rfl⟩ := h
    exact ⟨[], [], [], rfl, by simpa using hnumber, by simp⟩
  | cons c cs ih =>
    obtain ⟨l, now, later, hstep, hlater, rfl⟩ := lexFrom_cons_eq_some h
    rw [step] at hstep
    split_ifs at hstep
    · cases hstep
      obtain ⟨ys, zs, rest, rfl, hnumber, rfl⟩ := ih hlater
      exact ⟨c :: ys, zs, rest, rfl, by simpa using hnumber, by simp⟩
    · simp only [leave, State.token, Option.bind_eq_bind, Option.bind_eq_some_iff,
        Option.ite_none_right_eq_some, Option.some.injEq, Prod.mk.injEq] at hstep
      obtain ⟨before, ⟨hnumber, rfl⟩, ⟨l', after⟩, -, -, rfl⟩ := hstep
      exact ⟨[], c :: cs, after ++ later, rfl, by simpa using hnumber, by simp⟩

lemma lexFrom_word {cs : List Char} {word : List Char} {ts : List Token}
    (h : lexFrom (.word word) cs = some ts) : ∃ ys zs t later, cs = ys ++ zs ∧
      wordToken (word ++ ys) = some t ∧ ts = t :: later := by
  induction cs generalizing word with
  | nil =>
    rw [lexFrom_nil, State.token, Option.map_eq_some_iff] at h
    obtain ⟨t, ht, rfl⟩ := h
    exact ⟨[], [], t, [], rfl, by simpa using ht, rfl⟩
  | cons c cs ih =>
    obtain ⟨l, now, later, hstep, hlater, rfl⟩ := lexFrom_cons_eq_some h
    rw [step] at hstep
    split_ifs at hstep
    · cases hstep
      obtain ⟨ys, zs, t, rest, rfl, ht, rfl⟩ := ih hlater
      exact ⟨c :: ys, zs, t, rest, rfl, by simpa using ht, rfl⟩
    · simp only [leave, State.token, Option.bind_eq_bind, Option.bind_eq_some_iff,
        Option.map_eq_some_iff, Option.some.injEq, Prod.mk.injEq] at hstep
      obtain ⟨before, ⟨t, ht, rfl⟩, ⟨l', after⟩, -, -, rfl⟩ := hstep
      exact ⟨[], c :: cs, t, after ++ later, rfl, by simpa using ht, rfl⟩

lemma start_ne_nil {c : Char} {cs : List Char} {l : State} {now later : List Token}
    (hblank : isBlank c = false) (hstart : start c = some (l, now))
    (hlex : lexFrom l cs = some later) : now ++ later ≠ [] := by
  revert hstart
  fun_cases start c <;> rintro ⟨⟩
  any_goals simp
  · simp_all
  · obtain ⟨x, later', rfl⟩ := lexFrom_string hlex
    simp
  · obtain ⟨ys, zs, later', -, -, rfl⟩ := lexFrom_number hlex
    simp
  · obtain ⟨ys, zs, t, later', -, -, rfl⟩ := lexFrom_word hlex
    simp

/-- The lexer is inside of a token that it has read something of. -/
def IsPending (l : State) : Prop := l ≠ .number [] ∧ l ≠ .word []

lemma isPending_of_start {c : Char} {l : State} {now : List Token}
    (h : start c = some (l, now)) : IsPending l := by
  revert h
  fun_cases start c <;> rintro ⟨⟩ <;> simp [IsPending]

lemma isPending_of_step {l l' : State} {c : Char} {now : List Token}
    (h : step l c = some (l', now)) : IsPending l' := by
  have hleave {l₀ : State} (h : leave l₀ c = some (l', now)) : IsPending l' := by
    simp only [leave, Option.bind_eq_bind, Option.bind_eq_some_iff, Option.some.injEq,
      Prod.mk.injEq] at h
    obtain ⟨before, -, ⟨l₁, after⟩, hstart, rfl, -⟩ := h
    exact isPending_of_start hstart
  cases l with
  | between => exact isPending_of_start h
  | string units esc =>
    rcases stringStep_cases h with ⟨x, -, rfl⟩ | ⟨-, units', esc', rfl⟩ <;> simp [IsPending]
  | number literal =>
    rw [step] at h
    split_ifs at h
    · cases h
      simp [IsPending]
    · exact hleave h
  | word word =>
    rw [step] at h
    split_ifs at h
    · cases h
      simp [IsPending]
    · exact hleave h

end GoLib.JsonText
