import HiddifyCore.GoLib.JsonValue

/-!
# Reading one JSON value from a stream

`Decoder.Decode` of `encoding/json`. The scanner takes the text one character at a time until a
value is complete, and the text up to there is decoded; what follows it is left for the next call.
A number is complete at the first character that does not continue it, so that this character is
looked at, and every other value at its own last character. Numbers and words are scanned here, and
`isNumber_eq` says that the scanner accepts the grammar of numbers.
-/

namespace GoLib.JsonStream

open JsonText

/-- The function that is called with the next character. -/
inductive State where
  | beginValueOrEmpty | beginValue | beginStringOrEmpty | beginString
  | endValue | endTop
  | inString | inStringEsc
  /-- Inside a `\u` escape with some of its four digits left. -/
  | inStringEscU (left : Nat)
  | neg | state1 | state0 | dot | dot0 | e | eSign | e0
  /-- Inside `true`, `false` or `null` with some of its letters left. -/
  | literal (left : List Char)
  deriving DecidableEq, Repr

/-- What is open around the current value. -/
inductive ParseState where
  | objectKey | objectValue | arrayValue
  deriving DecidableEq, Repr

structure Scanner where
  step : State
  /-- The innermost one is the first. -/
  parseState : List ParseState
  deriving DecidableEq, Repr

/-- What the scanner answers to a character. -/
inductive Event where
  | goOn (s : Scanner)
  /-- The character closes an object or an array. -/
  | close (s : Scanner)
  /-- The value was complete before the character. -/
  | done
  | error
  deriving DecidableEq, Repr

def Event.next? : Event → Option Scanner
  | .goOn s | .close s => some s
  | .done | .error => none

def maxNestingDepth : Nat := 10000

/-! ### The functions of the scanner -/

def pushParseState (step : State) (top : ParseState) (ps : List ParseState) : Event :=
  if (top :: ps).length ≤ maxNestingDepth then .goOn ⟨step, top :: ps⟩ else .error

def popParseState (below : List ParseState) : Scanner :=
  ⟨if below.isEmpty then .endTop else .endValue, below⟩

def endValue (ps : List ParseState) (c : Char) : Event :=
  match ps with
  | [] => .done
  | top :: below =>
    if isBlank c then .goOn ⟨.endValue, top :: below⟩ else
      match top with
      | .objectKey =>
        if c = ':' then .goOn ⟨.beginValue, .objectValue :: below⟩ else .error
      | .objectValue =>
        if c = ',' then .goOn ⟨.beginString, .objectKey :: below⟩
        else if c = '\x7d' then .close (popParseState below)
        else .error
      | .arrayValue =>
        if c = ',' then .goOn ⟨.beginValue, .arrayValue :: below⟩
        else if c = ']' then .close (popParseState below)
        else .error

/-- The first character of a number. -/
def numberStart (c : Char) : Option State :=
  if c = '-' then some .neg
  else if c = '0' then some .state0
  else if c.isDigit then some .state1
  else none

/-- A character that continues a number. -/
def numberStep (st : State) (c : Char) : Option State :=
  match st with
  | .neg => if c = '0' then some .state0 else if c.isDigit then some .state1 else none
  | .state1 =>
    if c.isDigit then some .state1
    else if c = '.' then some .dot
    else if c = 'e' ∨ c = 'E' then some .e
    else none
  | .state0 =>
    if c = '.' then some .dot else if c = 'e' ∨ c = 'E' then some .e else none
  | .dot => if c.isDigit then some .dot0 else none
  | .dot0 =>
    if c.isDigit then some .dot0 else if c = 'e' ∨ c = 'E' then some .e else none
  | .e =>
    if c = '+' ∨ c = '-' then some .eSign else if c.isDigit then some .e0 else none
  | .eSign | .e0 => if c.isDigit then some .e0 else none
  | _ => none

@[simp]
lemma numberStep_neg (c : Char) : numberStep .neg c =
    if c = '0' then some .state0 else if c.isDigit then some .state1 else none := rfl

@[simp]
lemma numberStep_state1 (c : Char) : numberStep .state1 c =
    if c.isDigit then some .state1
    else if c = '.' then some .dot
    else if c = 'e' ∨ c = 'E' then some .e
    else none := rfl

@[simp]
lemma numberStep_state0 (c : Char) : numberStep .state0 c =
    if c = '.' then some .dot else if c = 'e' ∨ c = 'E' then some .e else none := rfl

@[simp]
lemma numberStep_dot (c : Char) :
    numberStep .dot c = if c.isDigit then some .dot0 else none := rfl

@[simp]
lemma numberStep_dot0 (c : Char) : numberStep .dot0 c =
    if c.isDigit then some .dot0 else if c = 'e' ∨ c = 'E' then some .e else none := rfl

@[simp]
lemma numberStep_e (c : Char) : numberStep .e c =
    if c = '+' ∨ c = '-' then some .eSign else if c.isDigit then some .e0 else none := rfl

@[simp]
lemma numberStep_eSign (c : Char) :
    numberStep .eSign c = if c.isDigit then some .e0 else none := rfl

@[simp]
lemma numberStep_e0 (c : Char) : numberStep .e0 c = if c.isDigit then some .e0 else none := rfl

/-- Whether a number may end here. -/
def State.isNumberEnd : State → Bool
  | .state1 | .state0 | .dot0 | .e0 => true
  | _ => false

def letters (c : Char) : Option (List Char) :=
  if c = 't' then some "rue".toList
  else if c = 'f' then some "alse".toList
  else if c = 'n' then some "ull".toList
  else none

def beginValue (ps : List ParseState) (c : Char) : Event :=
  if isBlank c then .goOn ⟨.beginValue, ps⟩
  else if c = '\x7b' then pushParseState .beginStringOrEmpty .objectKey ps
  else if c = '[' then pushParseState .beginValueOrEmpty .arrayValue ps
  else if c = '"' then .goOn ⟨.inString, ps⟩
  else
    match numberStart c, letters c with
    | some st, _ => .goOn ⟨st, ps⟩
    | none, some left => .goOn ⟨.literal left, ps⟩
    | none, none => .error

def beginValueOrEmpty (ps : List ParseState) (c : Char) : Event :=
  if isBlank c then .goOn ⟨.beginValueOrEmpty, ps⟩
  else if c = ']' then endValue ps c
  else beginValue ps c

def beginString (ps : List ParseState) (c : Char) : Event :=
  if isBlank c then .goOn ⟨.beginString, ps⟩
  else if c = '"' then .goOn ⟨.inString, ps⟩
  else .error

def beginStringOrEmpty (ps : List ParseState) (c : Char) : Event :=
  if isBlank c then .goOn ⟨.beginStringOrEmpty, ps⟩
  else if c = '\x7d' then endValue (.objectValue :: ps.tail) c
  else beginString ps c

def Scanner.next (s : Scanner) (c : Char) : Event :=
  let ps := s.parseState
  match s.step with
  | .beginValueOrEmpty => beginValueOrEmpty ps c
  | .beginValue => beginValue ps c
  | .beginStringOrEmpty => beginStringOrEmpty ps c
  | .beginString => beginString ps c
  | .endValue => endValue ps c
  | .endTop => .done
  | .inString =>
    if c = '"' then .goOn ⟨.endValue, ps⟩
    else if c = '\\' then .goOn ⟨.inStringEsc, ps⟩
    else if c.toNat < 0x20 then .error
    else .goOn ⟨.inString, ps⟩
  | .inStringEsc =>
    if c = 'u' then .goOn ⟨.inStringEscU 4, ps⟩
    else if (escaped c).isSome then .goOn ⟨.inString, ps⟩
    else .error
  | .inStringEscU left =>
    if (hexValue c).isSome then
      .goOn ⟨if left ≤ 1 then .inString else .inStringEscU (left - 1), ps⟩
    else .error
  | .literal (d :: left) =>
    if c = d then .goOn ⟨if left.isEmpty then .endValue else .literal left, ps⟩ else .error
  | .literal [] => .error
  | st =>
    match numberStep st c with
    | some st' => .goOn ⟨st', ps⟩
    | none => if st.isNumberEnd then endValue ps c else .error

def Scanner.init : Scanner := ⟨.beginValue, []⟩

/-! ### The decoder -/

/-- The text of the first value, with the blanks in front of it. At the end of the input the
scanner is given a blank. -/
def readValue (s : Scanner) : List Char → Option (List Char)
  | [] => if s.next ' ' = .done then some [] else none
  | c :: cs =>
    match s.next c with
    | .goOn s' => (readValue s' cs).map (c :: ·)
    | .close s' =>
      if s'.parseState.isEmpty then some [c] else (readValue s' cs).map (c :: ·)
    | .done => some []
    | .error => none

/-- The first value of a text. -/
def read (text : String) : Option Value := do
  let raw ← readValue .init text.toList
  decode (String.ofList raw)

/-! ### Numbers -/

/-- Where the scanner is behind the beginning of a number. -/
def numberState : List Char → Option State
  | [] => none
  | c :: cs => (numberStart c).bind fun st => cs.foldlM numberStep st

/-- Whether the characters may end a number from here. -/
def endsNumber (st : State) (cs : List Char) : Bool :=
  (cs.foldlM numberStep st).any State.isNumberEnd

lemma endsNumber_nil (st : State) : endsNumber st [] = st.isNumberEnd := rfl

lemma endsNumber_cons (st : State) (c : Char) (cs : List Char) :
    endsNumber st (c :: cs) = (numberStep st c).any (endsNumber · cs) := by
  simp only [endsNumber, List.foldlM_cons, Option.bind_eq_bind]
  cases numberStep st c <;> rfl

lemma endsNumber_e0 (cs : List Char) : endsNumber .e0 cs = cs.all Char.isDigit := by
  induction cs with
  | nil => rfl
  | cons c cs ih =>
    rw [endsNumber_cons, numberStep_e0, List.all_cons]
    cases c.isDigit <;> simp [ih]

lemma endsNumber_eSign (cs : List Char) : endsNumber .eSign cs = isDigits cs := by
  cases cs with
  | nil => rfl
  | cons c cs =>
    rw [endsNumber_cons, numberStep_eSign, isDigits, List.all_cons]
    cases c.isDigit <;> simp [endsNumber_e0]

lemma endsNumber_e {c : Char} (hc : c = 'e' ∨ c = 'E') (cs : List Char) :
    endsNumber .e cs = isExponent (c :: cs) := by
  have he : (decide (c = 'e') || decide (c = 'E')) = true := by simpa using hc
  cases cs with
  | nil => simp [isExponent, isDigits, endsNumber_nil, State.isNumberEnd]
  | cons d ds =>
    rw [endsNumber_cons, numberStep_e]
    by_cases hplus : d = '+'
    · subst hplus
      simp [isExponent, he, endsNumber_eSign]
    by_cases hminus : d = '-'
    · subst hminus
      simp [isExponent, he, endsNumber_eSign]
    have hplain : isExponent (c :: d :: ds) = isDigits (d :: ds) := by
      rw [isExponent, he, Bool.true_and]
      · rintro cs ⟨⟩
        exact hplus rfl
      · rintro cs ⟨⟩
        exact hminus rfl
    rw [if_neg (not_or_intro hplus hminus), hplain, isDigits, List.all_cons]
    cases d.isDigit <;> simp [endsNumber_e0]

def notE (c : Char) : Bool := c ≠ 'e' && c ≠ 'E'

lemma notE_of_isDigit {c : Char} (h : c.isDigit) : notE c := by
  simp only [notE, Bool.and_eq_true, decide_eq_true_eq]
  constructor <;> (rintro rfl; revert h; decide)

/-- Digits, and an exponent behind them. -/
lemma endsNumber_dot0 (cs : List Char) : endsNumber .dot0 cs =
    ((cs.takeWhile notE).all Char.isDigit && isExponent (cs.dropWhile notE)) := by
  induction cs with
  | nil => rfl
  | cons c cs ih =>
    rw [endsNumber_cons, numberStep_dot0]
    by_cases hdigit : c.isDigit
    · have hc := notE_of_isDigit hdigit
      simp [hdigit, hc, ih]
    by_cases he : c = 'e' ∨ c = 'E'
    · have hc : notE c = false := by
        simp only [notE]
        grind
      simp [hdigit, he, hc, endsNumber_e he]
    · have hc : notE c = true := by
        simp only [notE]
        grind
      simp [hdigit, he, hc]

lemma endsNumber_dot (cs : List Char) : endsNumber .dot cs =
    (isDigits (cs.takeWhile notE) && isExponent (cs.dropWhile notE)) := by
  cases cs with
  | nil => rfl
  | cons c cs =>
    rw [endsNumber_cons, numberStep_dot]
    by_cases hdigit : c.isDigit
    · have hc := notE_of_isDigit hdigit
      simp [hdigit, hc, endsNumber_dot0, isDigits]
    · by_cases hc : notE c
      · simp [hdigit, hc, isDigits]
      · simp [hdigit, hc, isDigits]

lemma endsNumber_state0 (cs : List Char) : endsNumber .state0 cs =
    (isFraction (cs.takeWhile notE) && isExponent (cs.dropWhile notE)) := by
  cases cs with
  | nil => rfl
  | cons c cs =>
    rw [endsNumber_cons, numberStep_state0]
    by_cases hdot : c = '.'
    · subst hdot
      have hc : notE '.' = true := by decide
      simp [hc, isFraction, endsNumber_dot]
    by_cases he : c = 'e' ∨ c = 'E'
    · have hc : notE c = false := by
        simp only [notE]
        grind
      simp [hdot, he, hc, isFraction, endsNumber_e he]
    · have hc : notE c = true := by
        simp only [notE]
        grind
      simp [hdot, he, hc, isFraction]

lemma endsNumber_state1 (cs : List Char) :
    endsNumber .state1 cs = endsNumber .state0 (cs.dropWhile Char.isDigit) := by
  induction cs with
  | nil => rfl
  | cons c cs ih =>
    rw [endsNumber_cons, numberStep_state1]
    by_cases hdigit : c.isDigit
    · simp [hdigit, ih]
    · rw [List.dropWhile_cons_of_neg hdigit, endsNumber_cons, numberStep_state0, if_neg hdigit]

lemma endsNumber_neg (cs : List Char) : endsNumber .neg cs =
    (isIntegerPart (cs.takeWhile Char.isDigit) &&
      endsNumber .state0 (cs.dropWhile Char.isDigit)) := by
  cases cs with
  | nil => rfl
  | cons c cs =>
    rw [endsNumber_cons, numberStep_neg]
    by_cases hzero : c = '0'
    · subst hzero
      have hdigit : '0'.isDigit = true := by decide
      rw [if_pos rfl, List.takeWhile_cons_of_pos hdigit, List.dropWhile_cons_of_pos hdigit]
      -- a digit behind a leading zero is refused by both
      rcases cs with _ | ⟨d, ds⟩
      · rfl
      by_cases hd : d.isDigit
      · have hnot : d ≠ '.' ∧ ¬ (d = 'e' ∨ d = 'E') := by
          refine ⟨?_, ?_⟩
          · rintro rfl
            exact absurd hd (by decide)
          · rintro (rfl | rfl) <;> exact absurd hd (by decide)
        simp [hd, isIntegerPart, endsNumber_cons, hnot]
      · simp [hd, isIntegerPart, isDigits]
    by_cases hdigit : c.isDigit
    · simp [hzero, hdigit, isIntegerPart, isDigits, endsNumber_state1]
    · simp [hzero, hdigit, isIntegerPart, isDigits]

/-- The scanner accepts the grammar of numbers. -/
lemma isNumber_eq (literal : List Char) :
    isNumber literal = (numberState literal).any State.isNumberEnd := by
  have hsplit : isNumber literal = endsNumber .neg (dropMinus literal) := by
    rw [endsNumber_neg, endsNumber_state0, ← Bool.and_assoc]
    simp only [isNumber, List.span_eq_takeWhile_dropWhile]
    rfl
  rw [hsplit]
  cases literal with
  | nil => rfl
  | cons c cs =>
    by_cases hminus : c = '-'
    · subst hminus
      rfl
    · have hdrop : dropMinus (c :: cs) = c :: cs := by
        rw [dropMinus]
        rintro cs ⟨⟩
        exact hminus rfl
      have hstart : numberStart c = numberStep .neg c := by simp [numberStart, hminus]
      rw [hdrop, endsNumber_cons, numberState, hstart]
      cases numberStep .neg c <;> rfl

lemma numberState_append {literal : List Char} (hne : literal ≠ []) (more : List Char) :
    numberState (literal ++ more) = (numberState literal).bind fun st =>
      more.foldlM numberStep st := by
  cases literal with
  | nil => exact absurd rfl hne
  | cons c cs =>
    simp only [List.cons_append, numberState, List.foldlM_append, Option.bind_assoc,
      Option.bind_eq_bind]

lemma numberState_concat {literal : List Char} {st : State} (hst : numberState literal = some st)
    (c : Char) : numberState (literal ++ [c]) = numberStep st c := by
  have hne : literal ≠ [] := by
    rintro rfl
    cases hst
  simp [numberState_append hne, hst]

/-- What can become a number is scanned. -/
lemma exists_numberState {literal more : List Char} (hne : literal ≠ [])
    (h : isNumber (literal ++ more) = true) : ∃ st, numberState literal = some st := by
  rw [isNumber_eq, numberState_append hne] at h
  cases hst : numberState literal with
  | none => simp [hst] at h
  | some st => exact ⟨st, rfl⟩

/-- A number may end here, or behind one more digit. -/
def State.CanEnd (st : State) : Prop :=
  st.isNumberEnd = true ∨ ∃ st', numberStep st '0' = some st' ∧ st'.isNumberEnd = true

lemma numberStart_canEnd {c : Char} {st : State} (h : numberStart c = some st) : st.CanEnd := by
  revert h
  fun_cases numberStart c <;> rintro ⟨⟩ <;> simp [State.CanEnd, State.isNumberEnd]

lemma numberStep_canEnd {c : Char} {st st' : State} (h : numberStep st c = some st') :
    st'.CanEnd := by
  revert h
  fun_cases numberStep st c <;> rintro ⟨⟩ <;> simp [State.CanEnd, State.isNumberEnd]

lemma foldlM_canEnd {cs : List Char} {st st' : State} (hst : st.CanEnd)
    (h : cs.foldlM numberStep st = some st') : st'.CanEnd := by
  induction cs generalizing st with
  | nil =>
    cases h
    exact hst
  | cons c cs ih =>
    rw [List.foldlM_cons, Option.bind_eq_bind, Option.bind_eq_some_iff] at h
    obtain ⟨st₁, hstep, h⟩ := h
    exact ih (numberStep_canEnd hstep) h

lemma numberState_canEnd {literal : List Char} {st : State} (h : numberState literal = some st) :
    st.CanEnd := by
  cases literal with
  | nil => cases h
  | cons c cs =>
    obtain ⟨st₁, hstart, h⟩ := Option.bind_eq_some_iff.mp h
    exact foldlM_canEnd (numberStart_canEnd hstart) h

/-- What is scanned can become a number. -/
lemma exists_isNumber {literal : List Char} {st : State} (h : numberState literal = some st) :
    ∃ more, (∀ c ∈ more, isNumberChar c) ∧ isNumber (literal ++ more) = true := by
  have hne : literal ≠ [] := by
    rintro rfl
    cases h
  have hend : st.CanEnd := by
    obtain ⟨c, cs, rfl⟩ := List.exists_cons_of_ne_nil hne
    obtain ⟨st₁, hstart, h⟩ := Option.bind_eq_some_iff.mp h
    exact foldlM_canEnd (numberStart_canEnd hstart) h
  rcases hend with hend | ⟨st', hzero, hend⟩
  · refine ⟨[], by simp, ?_⟩
    rw [List.append_nil, isNumber_eq, h]
    exact hend
  · refine ⟨['0'], List.forall_mem_singleton.mpr (by decide), ?_⟩
    rw [isNumber_eq, numberState_append hne, h]
    simp [hzero, hend]

lemma exists_numberStart {c : Char} (h : (c.isDigit || decide (c = '-')) = true) :
    ∃ st, numberStart c = some st := by
  simp only [Bool.or_eq_true, decide_eq_true_eq] at h
  simp only [numberStart]
  split_ifs
  · exact ⟨_, rfl⟩
  · exact ⟨_, rfl⟩
  · exact ⟨_, rfl⟩
  · exact absurd h (by simp [*])

lemma numberStart_eq_none {c : Char} (h : (c.isDigit || decide (c = '-')) = false) :
    numberStart c = none := by
  simp only [Bool.or_eq_false_iff, decide_eq_false_iff_not] at h
  have hzero : c ≠ '0' := by
    rintro rfl
    exact absurd h.1 (by decide)
  simp [numberStart, h, hzero]

lemma isNumberChar_of_step {st st' : State} {c : Char} (h : numberStep st c = some st') :
    isNumberChar c := by
  have hzero : ∀ d : Char, d = '0' → d.isDigit = true := by
    rintro d rfl
    rfl
  revert h
  fun_cases numberStep st c <;> grind [isNumberChar]

lemma numberState_eq_none {c : Char} (hc : isNumberChar c = false) (literal : List Char) :
    numberState (literal ++ [c]) = none := by
  cases hst : numberState literal with
  | none =>
    by_cases hne : literal = []
    · subst hne
      have hstart : numberStart c = none := by
        apply numberStart_eq_none
        simp only [isNumberChar] at hc
        grind
      simp [numberState, hstart]
    · simp [numberState_append hne, hst]
  | some st =>
    rw [numberState_concat hst]
    exact Option.eq_none_iff_forall_ne_some.mpr fun st' h => by
      simp [isNumberChar_of_step h] at hc

lemma next_number {st : State} (h : st.CanEnd) (ps : List ParseState) (c : Char) :
    Scanner.next ⟨st, ps⟩ c =
      match numberStep st c with
      | some st' => .goOn ⟨st', ps⟩
      | none => if st.isNumberEnd then endValue ps c else .error := by
  cases st with
  | neg | state1 | state0 | dot | dot0 | e | eSign | e0 => rfl
  | _ => simp [State.CanEnd, State.isNumberEnd, numberStep] at h

lemma number_done {st : State} (h : st.CanEnd) {ps : List ParseState} {c : Char} :
    Scanner.next ⟨st, ps⟩ c = .done ↔
      numberStep st c = none ∧ st.isNumberEnd = true ∧ endValue ps c = .done := by
  rw [next_number h]
  cases numberStep st c with
  | none => cases st.isNumberEnd <;> simp
  | some st' => simp

/-! ### Words -/

/-- Where the scanner is behind the beginning of a literal word. -/
def literalState : List Char → Option State
  | [] => none
  | c :: cs => (letters c).bind fun left => cs.foldlM literalStep (.literal left)
where
  literalStep : State → Char → Option State
    | .literal (d :: left), c =>
      if c = d then some (if left.isEmpty then .endValue else .literal left) else none
    | _, _ => none

lemma literalState_append {word : List Char} (hne : word ≠ []) (more : List Char) :
    literalState (word ++ more) = (literalState word).bind fun st =>
      more.foldlM literalState.literalStep st := by
  cases word with
  | nil => exact absurd rfl hne
  | cons c cs =>
    simp only [List.cons_append, literalState, List.foldlM_append, Option.bind_assoc,
      Option.bind_eq_bind]

/-- Behind the beginning of a word the scanner is inside of it or at its end. -/
lemma literalState_cases {word : List Char} {st : State} (h : literalState word = some st) :
    st = .endValue ∨ ∃ left, st = .literal left := by
  rcases word.eq_nil_or_concat with rfl | ⟨cs, c, rfl⟩
  · cases h
  cases cs with
  | nil =>
    obtain ⟨left, -, h⟩ := Option.bind_eq_some_iff.mp h
    cases h
    exact Or.inr ⟨left, rfl⟩
  | cons d ds =>
    rw [List.concat_eq_append, literalState_append (List.cons_ne_nil d ds)] at h
    obtain ⟨st₁, -, h⟩ := Option.bind_eq_some_iff.mp h
    rw [List.foldlM_cons, Option.bind_eq_bind, Option.bind_eq_some_iff] at h
    obtain ⟨st₂, h, hlast⟩ := h
    cases hlast
    revert h
    fun_cases literalState.literalStep st₁ c <;> rintro ⟨⟩
    split_ifs
    · exact Or.inl rfl
    · exact Or.inr ⟨_, rfl⟩

lemma literal_not_done (left : List Char) (ps : List ParseState) (c : Char) :
    Scanner.next ⟨.literal left, ps⟩ c ≠ .done := by
  cases left with
  | nil => simp [Scanner.next]
  | cons d left =>
    simp only [Scanner.next]
    split_ifs <;> simp

end GoLib.JsonStream
