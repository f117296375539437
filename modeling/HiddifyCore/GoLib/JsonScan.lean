import Mathlib.Data.Bool.AllAny
import HiddifyCore.GoLib.JsonStream

/-!
# The scanner and the tokens

`view` says where the scanner is when the lexer of `JsonLex` is inside of a token and the tokens in
front of it have taken the scanner to some place between two tokens. Unless the value is complete,
the scanner goes where the lexer and the tokens go (`next_view`), and the tokens of a document take
it behind the document, unless that is nested too deep (`scans_tokens`).
-/

namespace GoLib.JsonStream

open JsonText

/-! ### Tokens -/

def State.takesValue : State → Bool
  | .beginValueOrEmpty | .beginValue => true
  | _ => false

def State.takesString : State → Bool
  | .beginValueOrEmpty | .beginValue | .beginStringOrEmpty | .beginString => true
  | _ => false

/-- The scanner is between two tokens. -/
def State.isBetween : State → Bool
  | .endValue | .endTop => true
  | st => st.takesString

/-- Where a token takes the scanner. -/
def afterToken (s : Scanner) : Token → Option Scanner
  | .lbrace => (s.next '\x7b').next?
  | .rbrace => (s.next '\x7d').next?
  | .lbracket => (s.next '[').next?
  | .rbracket => (s.next ']').next?
  | .colon => (s.next ':').next?
  | .comma => (s.next ',').next?
  | .str _ => if s.step.takesString then some ⟨.endValue, s.parseState⟩ else none
  | .null | .bool _ | .num _ =>
    if s.step.takesValue then some ⟨.endValue, s.parseState⟩ else none

abbrev afterTokens (s : Scanner) (ts : List Token) : Option Scanner := ts.foldlM afterToken s

lemma afterTokens_cons (s : Scanner) (t : Token) (ts : List Token) :
    afterTokens s (t :: ts) = (afterToken s t).bind (afterTokens · ts) := rfl

lemma afterTokens_append (s : Scanner) (ts us : List Token) :
    afterTokens s (ts ++ us) = (afterTokens s ts).bind (afterTokens · us) :=
  List.foldlM_append

def escapeState : Escape → State
  | .none => .inString
  | .backslash => .inStringEsc
  | .hex left _ => .inStringEscU left

/-- Where the scanner is when the lexer is inside of a token and the tokens in front of it have
taken the scanner to `s`. -/
def view (l : JsonText.State) (s : Scanner) : Option Scanner :=
  match l with
  | .between => if s.step.isBetween then some s else none
  | .string _ esc =>
    if s.step.takesString then some ⟨escapeState esc, s.parseState⟩ else none
  | .number literal =>
    if s.step.takesValue then (numberState literal).map (⟨·, s.parseState⟩) else none
  | .word letters =>
    if s.step.takesValue then (literalState letters).map (⟨·, s.parseState⟩) else none

/-! ### Between two tokens -/

lemma State.isBetween_iff {st : State} : st.isBetween ↔
    st = .beginValueOrEmpty ∨ st = .beginValue ∨ st = .beginStringOrEmpty ∨ st = .beginString ∨
      st = .endValue ∨ st = .endTop := by
  cases st <;> simp [State.isBetween, State.takesString]

lemma next_blank {s : Scanner} (h : s.step.isBetween) {c : Char} (hc : isBlank c) :
    s.next c = .done ∨ s.next c = .goOn s := by
  obtain ⟨step, ps⟩ := s
  rcases State.isBetween_iff.mp h with rfl | rfl | rfl | rfl | rfl | rfl
  · simp [Scanner.next, beginValueOrEmpty, hc]
  · simp [Scanner.next, beginValue, hc]
  · simp [Scanner.next, beginStringOrEmpty, hc]
  · simp [Scanner.next, beginString, hc]
  · cases ps <;> simp [Scanner.next, endValue, hc]
  · exact Or.inl rfl

/-- The characters that are tokens on their own. -/
def marks : List Char := ['\x7b', '\x7d', '[', ']', ':', ',']

lemma of_mem_marks {c : Char} (h : c ∈ marks) :
    isBlank c = false ∧ c ≠ '"' ∧ numberStart c = none ∧ letters c = none := by
  simp only [marks, List.mem_cons, List.not_mem_nil, or_false] at h
  rcases h with rfl | rfl | rfl | rfl | rfl | rfl <;> decide

lemma start_mark {c : Char} (h : c ∈ marks) : ∃ t, start c = some (.between, [t]) ∧
    ∀ s, afterToken s t = (s.next c).next? := by
  simp only [marks, List.mem_cons, List.not_mem_nil, or_false] at h
  rcases h with rfl | rfl | rfl | rfl | rfl | rfl <;> exact ⟨_, rfl, fun _ => rfl⟩

lemma isBetween_endValue {ps : List ParseState} {c : Char} {s : Scanner}
    (h : (endValue ps c).next? = some s) : s.step.isBetween := by
  revert h
  fun_cases endValue ps c <;> rintro ⟨⟩
  all_goals try rfl
  all_goals
    simp only [popParseState]
    split <;> rfl

lemma isBetween_beginValue {ps : List ParseState} {c : Char} (hc : c ∈ marks) {s : Scanner}
    (h : (beginValue ps c).next? = some s) : s.step.isBetween := by
  obtain ⟨-, hquote, hnumber, hletters⟩ := of_mem_marks hc
  revert h
  simp only [beginValue, if_neg hquote, hnumber, hletters, pushParseState]
  split_ifs <;> rintro ⟨⟩ <;> rfl

lemma isBetween_beginString {ps : List ParseState} {c : Char} (hc : c ∈ marks) {s : Scanner}
    (h : (beginString ps c).next? = some s) : s.step.isBetween := by
  obtain ⟨-, hquote, -⟩ := of_mem_marks hc
  revert h
  simp only [beginString, if_neg hquote]
  split_ifs
  · rintro ⟨⟩
    rfl
  · rintro ⟨⟩

/-- A mark does not begin a token inside which the scanner could be. -/
lemma isBetween_next {s s' : Scanner} (h : s.step.isBetween) {c : Char} (hc : c ∈ marks)
    (hnext : (s.next c).next? = some s') : s'.step.isBetween := by
  obtain ⟨step, ps⟩ := s
  have hblank := (of_mem_marks hc).1
  rcases State.isBetween_iff.mp h with rfl | rfl | rfl | rfl | rfl | rfl
  · simp only [Scanner.next, beginValueOrEmpty, hblank, Bool.false_eq_true, if_false] at hnext
    split_ifs at hnext
    · exact isBetween_endValue hnext
    · exact isBetween_beginValue hc hnext
  · exact isBetween_beginValue hc hnext
  · simp only [Scanner.next, beginStringOrEmpty, hblank, Bool.false_eq_true, if_false] at hnext
    split_ifs at hnext
    · exact isBetween_endValue hnext
    · exact isBetween_beginString hc hnext
  · exact isBetween_beginString hc hnext
  · exact isBetween_endValue hnext
  · cases hnext

lemma isBetween_afterToken {s s' : Scanner} {t : Token} (hs : s.step.isBetween)
    (h : afterToken s t = some s') : s'.step.isBetween := by
  cases t with
  | lbrace | rbrace | lbracket | rbracket | colon | comma =>
    exact isBetween_next hs (by decide) h
  | null | bool b | num literal | str x =>
    simp only [afterToken] at h
    split_ifs at h
    cases h
    rfl

lemma isBetween_afterTokens {s s' : Scanner} {ts : List Token} (hs : s.step.isBetween)
    (h : afterTokens s ts = some s') : s'.step.isBetween := by
  induction ts generalizing s with
  | nil =>
    cases h
    exact hs
  | cons t ts ih =>
    rw [afterTokens_cons] at h
    obtain ⟨s₁, ht, h⟩ := Option.bind_eq_some_iff.mp h
    exact ih (isBetween_afterToken hs ht) h

lemma endValue_of_not_mark {ps : List ParseState} {c : Char} (hblank : isBlank c = false)
    (hc : c ∉ marks) : endValue ps c = .done ∨ endValue ps c = .error := by
  simp only [marks, List.mem_cons, List.not_mem_nil, or_false, not_or] at hc
  rcases ps with _ | ⟨_ | _ | _, below⟩ <;> simp [endValue, hblank, hc]

lemma next_quote {s : Scanner} (h : s.step.isBetween) : s.next '"' = .done ∨
    (s.next '"').next? =
      if s.step.takesString then some ⟨.inString, s.parseState⟩ else none := by
  obtain ⟨step, ps⟩ := s
  have hend : endValue ps '"' = .done ∨ endValue ps '"' = .error :=
    endValue_of_not_mark (by decide) (by decide)
  rcases State.isBetween_iff.mp h with rfl | rfl | rfl | rfl | rfl | rfl
  · exact Or.inr rfl
  · exact Or.inr rfl
  · exact Or.inr rfl
  · exact Or.inr rfl
  · rcases hend with hend | hend
    · exact Or.inl hend
    · exact Or.inr (by simp [Scanner.next, hend, State.takesString, Event.next?])
  · exact Or.inl rfl

/-- The beginning of a number or a word. -/
lemma next_scalar {s : Scanner} (h : s.step.isBetween) {c : Char} (hblank : isBlank c = false)
    (hc : c ∉ marks) (hquote : c ≠ '"') : s.next c = .done ∨ (s.next c).next? =
      if s.step.takesValue then
        ((numberStart c).or ((letters c).map .literal)).map (⟨·, s.parseState⟩)
      else none := by
  obtain ⟨step, ps⟩ := s
  have hend : endValue ps c = .done ∨ endValue ps c = .error := endValue_of_not_mark hblank hc
  simp only [marks, List.mem_cons, List.not_mem_nil, or_false, not_or] at hc
  have hvalue : (beginValue ps c).next? =
      ((numberStart c).or ((letters c).map .literal)).map (⟨·, ps⟩) := by
    simp only [beginValue, hblank, hc, hquote, Bool.false_eq_true, if_false]
    cases numberStart c <;> cases letters c <;> rfl
  rcases State.isBetween_iff.mp h with rfl | rfl | rfl | rfl | rfl | rfl
  · refine Or.inr (Eq.trans ?_ hvalue)
    simp [Scanner.next, beginValueOrEmpty, hblank, hc]
  · exact Or.inr hvalue
  · exact Or.inr (by simp [Scanner.next, beginStringOrEmpty, beginString, hblank, hc, hquote,
      State.takesValue, Event.next?])
  · exact Or.inr (by simp [Scanner.next, beginString, hblank, hquote, State.takesValue,
      Event.next?])
  · rcases hend with hend | hend
    · exact Or.inl hend
    · exact Or.inr (by simp [Scanner.next, hend, State.takesValue, Event.next?])
  · exact Or.inl rfl

/-- A character between two tokens. -/
lemma start_view {s : Scanner} (h : s.step.isBetween) {c : Char} {l : JsonText.State}
    {now : List Token} (hstart : start c = some (l, now)) :
    s.next c = .done ∨ (s.next c).next? = (afterTokens s now).bind (view l) := by
  by_cases hc : c ∈ marks
  · obtain ⟨t, ht, hafter⟩ := start_mark hc
    obtain ⟨rfl, rfl⟩ := Prod.mk.inj (Option.some.inj (ht.symm.trans hstart))
    right
    simp only [afterTokens, List.foldlM_cons, List.foldlM_nil, hafter]
    cases hnext : (s.next c).next? with
    | none => rfl
    | some s' => simp [view, isBetween_next h hc hnext]
  · revert hstart
    fun_cases start c with
    | case1 hblank =>
      rintro ⟨⟩
      refine (next_blank h hblank).imp_right fun hnext => ?_
      simp [hnext, Event.next?, view, h]
    | case2 | case3 | case4 | case5 | case6 | case7 =>
      subst c
      exact absurd (by decide) hc
    | case8 =>
      rintro ⟨⟩
      subst c
      exact next_quote h
    | case9 hblank hopen hclose hopen' hclose' hcolon hcomma hquote hnumber =>
      rintro ⟨⟩
      refine (next_scalar h (by simpa using hblank) hc hquote).imp_right fun hnext => ?_
      obtain ⟨st, hst⟩ := exists_numberStart hnumber
      simp [hnext, hst, view, numberState]
    | case10 hblank hopen hclose hopen' hclose' hcolon hcomma hquote hnumber hword =>
      rintro ⟨⟩
      refine (next_scalar h (by simpa using hblank) hc hquote).imp_right fun hnext => ?_
      have hst := numberStart_eq_none (by simpa using hnumber)
      cases hletters : letters c <;> simp [hnext, hst, hletters, view, literalState]
    | case11 => rintro ⟨⟩

/-! ### Inside a token -/

lemma of_isNumberChar {c : Char} (h : isNumberChar c) : isBlank c = false ∧ c ∉ marks := by
  have hblank : ∀ d, isBlank d = true → isNumberChar d = false := by
    simp only [isBlank, Bool.or_eq_true, decide_eq_true_eq]
    rintro d (((rfl | rfl) | rfl) | rfl) <;> decide
  have hmark : ∀ d ∈ marks, isNumberChar d = false :=
    List.all_iff_forall_prop.mp (by decide)
  refine ⟨Bool.eq_false_iff.mpr fun hc => ?_, fun hc => ?_⟩
  · exact absurd (hblank c hc) (by simp [h])
  · exact absurd (hmark c hc) (by simp [h])

lemma of_isLower {c : Char} (h : c.isLower) : isBlank c = false ∧ c ∉ marks := by
  have hblank : ∀ d, isBlank d = true → d.isLower = false := by
    simp only [isBlank, Bool.or_eq_true, decide_eq_true_eq]
    rintro d (((rfl | rfl) | rfl) | rfl) <;> decide
  have hmark : ∀ d ∈ marks, d.isLower = false := List.all_iff_forall_prop.mp (by decide)
  refine ⟨Bool.eq_false_iff.mpr fun hc => ?_, fun hc => ?_⟩
  · exact absurd (hblank c hc) (by simp [h])
  · exact absurd (hmark c hc) (by simp [h])

lemma number_view {s : Scanner} {literal : List Char} {st : State} {c : Char}
    {l : JsonText.State} {now : List Token} (hs : s.step.takesValue)
    (hst : numberState literal = some st)
    (hstep : step (.number literal) c = some (l, now)) :
    Scanner.next ⟨st, s.parseState⟩ c = .done ∨
      (Scanner.next ⟨st, s.parseState⟩ c).next? = (afterTokens s now).bind (view l) := by
  have hne : literal ≠ [] := by
    rintro rfl
    cases hst
  rw [next_number (numberState_canEnd hst)]
  rw [step] at hstep
  split_ifs at hstep with hc
  · cases hstep
    obtain ⟨hblank, hmark⟩ := of_isNumberChar hc
    have hview : (afterTokens s []).bind (view (.number (literal ++ [c]))) =
        (numberStep st c).map (⟨·, s.parseState⟩) := by
      simp [view, hs, numberState_append hne, hst]
    rw [hview]
    cases numberStep st c with
    | some st' => exact Or.inr rfl
    | none =>
      split_ifs
      · exact (endValue_of_not_mark hblank hmark).imp_right fun h => by rw [h]; rfl
      · exact Or.inr rfl
  · have hnone : numberStep st c = none :=
      Option.eq_none_iff_forall_ne_some.mpr fun st' h => hc (isNumberChar_of_step h)
    simp only [leave, State.token, Option.bind_eq_bind, Option.bind_eq_some_iff,
      Option.ite_none_right_eq_some, Option.some.injEq, Prod.mk.injEq] at hstep
    obtain ⟨before, ⟨hnumber, rfl⟩, ⟨l', later⟩, hstart, rfl, rfl⟩ := hstep
    have hend : st.isNumberEnd = true := by
      rw [isNumber_eq, hst] at hnumber
      exact hnumber
    simp only [hnone, hend, if_true]
    have hafter : afterToken s (.num (String.ofList literal)) = some ⟨.endValue, s.parseState⟩ :=
      if_pos hs
    rw [List.singleton_append, afterTokens_cons, hafter, Option.bind_some]
    exact start_view (s := ⟨.endValue, s.parseState⟩) rfl hstart

lemma wordToken_eq_some {word : List Char} {t : Token} (h : wordToken word = some t) :
    literalState word = some .endValue ∧ ∀ s : Scanner, afterToken s t =
      if s.step.takesValue then some ⟨.endValue, s.parseState⟩ else none := by
  simp only [wordToken] at h
  split_ifs at h <;> cases h <;> subst word
  all_goals exact ⟨by decide, fun _ => rfl⟩

lemma word_view {s : Scanner} {word : List Char} {st : State} {c : Char}
    {l : JsonText.State} {now : List Token} (hs : s.step.takesValue)
    (hst : literalState word = some st) (hstep : step (.word word) c = some (l, now)) :
    Scanner.next ⟨st, s.parseState⟩ c = .done ∨
      (Scanner.next ⟨st, s.parseState⟩ c).next? = (afterTokens s now).bind (view l) := by
  have hne : word ≠ [] := by
    rintro rfl
    cases hst
  rw [step] at hstep
  split_ifs at hstep with hc
  · cases hstep
    obtain ⟨hblank, hmark⟩ := of_isLower hc
    have hview : (afterTokens s []).bind (view (.word (word ++ [c]))) =
        (literalState.literalStep st c).map (⟨·, s.parseState⟩) := by
      simp [view, hs, literalState_append hne, hst]
    rw [hview]
    rcases literalState_cases hst with rfl | ⟨left, rfl⟩
    · exact (endValue_of_not_mark hblank hmark).imp_right fun h => by
        rw [Scanner.next, h]
        rfl
    · right
      cases left with
      | nil => rfl
      | cons d left =>
        simp only [Scanner.next, literalState.literalStep]
        split_ifs <;> rfl
  · simp only [leave, State.token, Option.bind_eq_bind, Option.bind_eq_some_iff,
      Option.map_eq_some_iff, Option.some.injEq, Prod.mk.injEq] at hstep
    obtain ⟨before, ⟨t, ht, rfl⟩, ⟨l', later⟩, hstart, rfl, rfl⟩ := hstep
    obtain ⟨hend, hafter⟩ := wordToken_eq_some ht
    rw [hend] at hst
    cases hst
    rw [List.singleton_append, afterTokens_cons, hafter, if_pos hs, Option.bind_some]
    exact start_view (s := ⟨.endValue, s.parseState⟩) rfl hstart

lemma string_view {s : Scanner} {units : List Nat} {esc : Escape} {c : Char}
    {l : JsonText.State} {now : List Token} (hs : s.step.takesString)
    (hstep : stringStep units esc c = some (l, now)) :
    (Scanner.next ⟨escapeState esc, s.parseState⟩ c).next? =
      (afterTokens s now).bind (view l) := by
  cases esc with
  | none =>
    simp only [stringStep] at hstep
    simp only [Scanner.next, escapeState]
    split_ifs at hstep ⊢ <;> cases hstep <;>
      simp [Event.next?, afterToken, view, hs, State.isBetween, escapeState]
  | backslash =>
    simp only [stringStep] at hstep
    simp only [Scanner.next, escapeState]
    split_ifs at hstep ⊢ with hu hescaped
    · cases hstep
      simp [Event.next?, view, hs, escapeState]
    · obtain ⟨d, -, hd⟩ := Option.map_eq_some_iff.mp hstep
      cases hd
      simp [Event.next?, view, hs, escapeState]
    · obtain ⟨d, hd, -⟩ := Option.map_eq_some_iff.mp hstep
      simp [hd] at hescaped
  | hex left value =>
    obtain ⟨d, hd, hstep⟩ := Option.map_eq_some_iff.mp hstep
    simp only [Scanner.next, escapeState, hd, Option.isSome_some, if_true, Event.next?]
    split_ifs at hstep ⊢ <;> cases hstep <;> simp [view, hs, escapeState]

lemma string_not_done (esc : Escape) (ps : List ParseState) (c : Char) :
    Scanner.next ⟨escapeState esc, ps⟩ c ≠ .done := by
  cases esc <;> simp only [Scanner.next, escapeState] <;> split_ifs <;> simp

/-- Unless the value is complete, the scanner goes where the lexer and the tokens go. -/
lemma next_view {s s' : Scanner} {l l' : JsonText.State} {c : Char} {now : List Token}
    (hview : view l s = some s') (hstep : step l c = some (l', now)) :
    s'.next c = .done ∨ (s'.next c).next? = (afterTokens s now).bind (view l') := by
  cases l with
  | between =>
    simp only [view, Option.ite_none_right_eq_some, Option.some.injEq] at hview
    obtain ⟨hs, rfl⟩ := hview
    exact start_view hs hstep
  | string units esc =>
    simp only [view, Option.ite_none_right_eq_some, Option.some.injEq] at hview
    obtain ⟨hs, rfl⟩ := hview
    exact Or.inr (string_view hs hstep)
  | number literal =>
    simp only [view, Option.ite_none_right_eq_some, Option.map_eq_some_iff] at hview
    obtain ⟨hs, st, hst, rfl⟩ := hview
    exact number_view hs hst hstep
  | word word =>
    simp only [view, Option.ite_none_right_eq_some, Option.map_eq_some_iff] at hview
    obtain ⟨hs, st, hst, rfl⟩ := hview
    exact word_view hs hst hstep

/-! ### The tokens of a document -/

/-- The scanner behind a value. -/
def behind : Value → List ParseState → Scanner
  | .arr _, ps | .obj _, ps => popParseState ps
  | .null, ps | .bool _, ps | .num _, ps | .str _, ps => ⟨.endValue, ps⟩

lemma behind_cons (v : Value) (top : ParseState) (ps : List ParseState) :
    behind v (top :: ps) = ⟨.endValue, top :: ps⟩ := by
  cases v <;> rfl

lemma afterTokens_lbracket (ps : List ParseState) :
    afterTokens ⟨.beginValue, ps⟩ [.lbracket] =
      if ps.length + 1 ≤ maxNestingDepth then some ⟨.beginValueOrEmpty, .arrayValue :: ps⟩
      else none := by
  have hnext : afterToken ⟨.beginValue, ps⟩ .lbracket =
      (pushParseState .beginValueOrEmpty .arrayValue ps).next? := rfl
  rw [afterTokens_cons, hnext, pushParseState, List.length_cons]
  split_ifs <;> rfl

lemma afterTokens_lbrace (ps : List ParseState) :
    afterTokens ⟨.beginValue, ps⟩ [.lbrace] =
      if ps.length + 1 ≤ maxNestingDepth then some ⟨.beginStringOrEmpty, .objectKey :: ps⟩
      else none := by
  have hnext : afterToken ⟨.beginValue, ps⟩ .lbrace =
      (pushParseState .beginStringOrEmpty .objectKey ps).next? := rfl
  rw [afterTokens_cons, hnext, pushParseState, List.length_cons]
  split_ifs <;> rfl

/-- The first element of an array is read as any other. -/
lemma afterTokens_first (v : Value) (ps : List ParseState) :
    afterTokens ⟨.beginValueOrEmpty, ps⟩ (tokens v) =
      afterTokens ⟨.beginValue, ps⟩ (tokens v) := by
  rcases v with _ | _ | _ | _ | (_ | _) | (_ | _) <;> rfl

lemma afterTokens_then {s s₁ s₂ : Scanner} {ts us : List Token} {p q : Prop} [Decidable p]
    [Decidable q] (hts : afterTokens s ts = if p then some s₁ else none)
    (hus : p → afterTokens s₁ us = if q then some s₂ else none) :
    afterTokens s (ts ++ us) = if p ∧ q then some s₂ else none := by
  rw [afterTokens_append, hts]
  by_cases hp : p
  · simp [hp, hus hp]
  · simp [hp]

/-- A document takes the scanner behind it, unless it is nested too deep. -/
def ScansValue (v : Value) : Prop :=
  ∀ ps : List ParseState, ps.length ≤ maxNestingDepth →
    afterTokens ⟨.beginValue, ps⟩ (tokens v) =
      if ps.length + depth v ≤ maxNestingDepth then some (behind v ps) else none

/-- The elements behind an element of an array. -/
def ScansElements (vs : List Value) : Prop :=
  ∀ ps : List ParseState, ps.length + 1 ≤ maxNestingDepth →
    afterTokens ⟨.endValue, .arrayValue :: ps⟩ (elementTokens vs) =
      if ps.length + 1 + depths vs ≤ maxNestingDepth then
        some ⟨.endValue, .arrayValue :: ps⟩ else none

/-- The members behind a member of an object. -/
def ScansMembers (ms : List (String × Value)) : Prop :=
  ∀ ps : List ParseState, ps.length + 1 ≤ maxNestingDepth →
    afterTokens ⟨.endValue, .objectValue :: ps⟩ (membersTokens ms) =
      if ps.length + 1 + memberDepths ms ≤ maxNestingDepth then
        some ⟨.endValue, .objectValue :: ps⟩ else none

lemma scansElements_nil : ScansElements [] := by
  intro ps hps
  rw [if_pos (by simpa [depths] using hps)]
  rfl

lemma scansMembers_nil : ScansMembers [] := by
  intro ps hps
  rw [if_pos (by simpa [memberDepths] using hps)]
  rfl

section Parts

variable {v : Value} {vs : List Value} {k : String} {ms : List (String × Value)}

/-- An element and those behind it. -/
lemma ScansElements.cons (hv : ScansValue v) (hvs : ScansElements vs) {ps : List ParseState}
    (hps : ps.length + 1 ≤ maxNestingDepth) :
    afterTokens ⟨.beginValue, .arrayValue :: ps⟩ (tokens v ++ elementTokens vs) =
      if ps.length + 1 + depths (v :: vs) ≤ maxNestingDepth then
        some ⟨.endValue, .arrayValue :: ps⟩ else none := by
  have hfirst := hv (.arrayValue :: ps) hps
  rw [behind_cons, List.length_cons] at hfirst
  rw [afterTokens_then hfirst fun _ => hvs ps hps]
  exact if_congr (by simp only [depths]; omega) rfl rfl

/-- The value of a member and the members behind it. -/
lemma ScansMembers.cons (hv : ScansValue v) (hms : ScansMembers ms) {ps : List ParseState}
    (hps : ps.length + 1 ≤ maxNestingDepth) :
    afterTokens ⟨.beginValue, .objectValue :: ps⟩ (tokens v ++ membersTokens ms) =
      if ps.length + 1 + memberDepths ((k, v) :: ms) ≤ maxNestingDepth then
        some ⟨.endValue, .objectValue :: ps⟩ else none := by
  have hfirst := hv (.objectValue :: ps) hps
  rw [behind_cons, List.length_cons] at hfirst
  rw [afterTokens_then hfirst fun _ => hms ps hps]
  exact if_congr (by simp only [memberDepths]; omega) rfl rfl

lemma scansValue_arr_nil : ScansValue (.arr []) := by
  intro ps hps
  have hclose : afterTokens ⟨.beginValueOrEmpty, .arrayValue :: ps⟩ [.rbracket] =
      if True then some (popParseState ps) else none := rfl
  have htokens : tokens (.arr []) = [.lbracket] ++ [.rbracket] := rfl
  rw [htokens, afterTokens_then (afterTokens_lbracket ps) fun _ => hclose]
  exact if_congr (by simp [depth, depths]) rfl rfl

lemma scansValue_obj_nil : ScansValue (.obj []) := by
  intro ps hps
  have hclose : afterTokens ⟨.beginStringOrEmpty, .objectKey :: ps⟩ [.rbrace] =
      if True then some (popParseState ps) else none := rfl
  have htokens : tokens (.obj []) = [.lbrace] ++ [.rbrace] := rfl
  rw [htokens, afterTokens_then (afterTokens_lbrace ps) fun _ => hclose]
  exact if_congr (by simp [depth, memberDepths]) rfl rfl

lemma scansValue_arr_cons (hv : ScansValue v) (hvs : ScansElements vs) :
    ScansValue (.arr (v :: vs)) := by
  intro ps hps
  have helements (hpush : ps.length + 1 ≤ maxNestingDepth) :
      afterTokens ⟨.beginValueOrEmpty, .arrayValue :: ps⟩ (tokens v ++ elementTokens vs) =
        if ps.length + 1 + depths (v :: vs) ≤ maxNestingDepth then
          some ⟨.endValue, .arrayValue :: ps⟩ else none := by
    rw [afterTokens_append, afterTokens_first, ← afterTokens_append]
    exact hvs.cons hv hpush
  have hclose : afterTokens ⟨.endValue, .arrayValue :: ps⟩ [.rbracket] =
      if True then some (popParseState ps) else none := rfl
  have htokens : tokens (.arr (v :: vs)) =
      [.lbracket] ++ (tokens v ++ elementTokens vs) ++ [.rbracket] := by simp [tokens]
  rw [htokens, afterTokens_then (afterTokens_then (afterTokens_lbracket ps) helements)
    fun _ => hclose]
  exact if_congr (by simp only [depth, and_true]; omega) rfl rfl

lemma scansValue_obj_cons (hv : ScansValue v) (hms : ScansMembers ms) :
    ScansValue (.obj ((k, v) :: ms)) := by
  intro ps hps
  have hkey : afterTokens ⟨.beginStringOrEmpty, .objectKey :: ps⟩ [.str k, .colon] =
      if True then some ⟨.beginValue, .objectValue :: ps⟩ else none := rfl
  have hclose : afterTokens ⟨.endValue, .objectValue :: ps⟩ [.rbrace] =
      if True then some (popParseState ps) else none := rfl
  have htokens : tokens (.obj ((k, v) :: ms)) = [.lbrace] ++ [.str k, .colon] ++
      (tokens v ++ membersTokens ms) ++ [.rbrace] := by simp [tokens, memberTokens]
  rw [htokens, afterTokens_then (afterTokens_then
    (afterTokens_then (afterTokens_lbrace ps) fun _ => hkey)
    fun h => hms.cons (k := k) hv h.1) fun _ => hclose]
  exact if_congr (by simp only [depth, and_true]; omega) rfl rfl

end Parts

/-- By induction on the number of tokens. -/
lemma scans_tokens (n : Nat) :
    (∀ v, (tokens v).length ≤ n → ScansValue v) ∧
    (∀ vs, (elementTokens vs).length < n → ScansElements vs) ∧
    (∀ ms, (membersTokens ms).length < n → ScansMembers ms) := by
  induction n with
  | zero =>
    refine ⟨fun v h => ?_, by simp, by simp⟩
    have := tokens_length_pos v
    omega
  | succ n ih =>
    obtain ⟨ihv, ihe, ihm⟩ := ih
    refine ⟨fun v h => ?_, fun vs h => ?_, fun ms h => ?_⟩
    · rcases v with _ | b | literal | s | (_ | ⟨v, vs⟩) | (_ | ⟨⟨k, v⟩, ms⟩)
      case arr.nil => exact scansValue_arr_nil
      case obj.nil => exact scansValue_obj_nil
      case arr.cons =>
        simp only [tokens, List.length_cons, List.length_append, List.length_nil] at h
        exact scansValue_arr_cons (ihv v (by omega)) (ihe vs (by omega))
      case obj.cons =>
        simp only [tokens, memberTokens, List.length_cons, List.length_append,
          List.length_nil] at h
        exact scansValue_obj_cons (ihv v (by omega)) (ihm ms (by omega))
      all_goals
        intro ps hps
        rw [if_pos (by simpa [depth] using hps)]
        rfl
    · cases vs with
      | nil => exact scansElements_nil
      | cons v vs =>
        simp only [elementTokens, List.length_cons, List.length_append] at h
        intro ps hps
        exact (ihe vs (by omega)).cons (ihv v (by omega)) hps
    · rcases ms with _ | ⟨⟨k, v⟩, ms⟩
      · exact scansMembers_nil
      · simp only [membersTokens, memberTokens, List.length_cons, List.length_append] at h
        intro ps hps
        exact (ihm ms (by omega)).cons (ihv v (by omega)) hps

lemma afterTokens_init (v : Value) : afterTokens .init (tokens v) =
    if depth v ≤ maxNestingDepth then some (behind v []) else none := by
  have h := (scans_tokens (tokens v).length).1 v le_rfl [] (Nat.zero_le _)
  rw [List.length_nil, Nat.zero_add] at h
  exact h

end GoLib.JsonStream
