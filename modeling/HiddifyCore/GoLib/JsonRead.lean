import HiddifyCore.GoLib.JsonScan

/-!
# The first document of a text

The decoder reads a value exactly from the texts that begin with a document which what comes next
does not continue, and which is not nested too deep (`read_eq_some`). One direction follows the
lexer through the document (`readValue_complete`), the other one the scanner through what it has
read (`readValue_stops`).
-/

namespace GoLib.JsonStream

open JsonText

/-! ### Complete values -/

/-- A value is complete and nothing is open around it. -/
def Scanner.IsComplete (s : Scanner) : Prop :=
  s.step = .endTop ∨ s.step = .endValue ∧ s.parseState = []

lemma Scanner.IsComplete.next {s : Scanner} (h : s.IsComplete) (c : Char) : s.next c = .done := by
  obtain ⟨step, ps⟩ := s
  obtain rfl | ⟨rfl, rfl⟩ := h <;> rfl

lemma Scanner.IsComplete.afterTokens {s s' : Scanner} (h : s.IsComplete) {ts : List Token}
    (hts : afterTokens s ts = some s') : ts = [] := by
  cases ts with
  | nil => rfl
  | cons t ts =>
    have hnone : afterToken s t = none := by
      obtain ⟨step, ps⟩ := s
      obtain rfl | ⟨rfl, rfl⟩ := h <;> cases t <;> rfl
    rw [afterTokens_cons, hnone] at hts
    cases hts

lemma endValue_eq_done {ps : List ParseState} {c : Char} (h : endValue ps c = .done) :
    ps = [] := by
  revert h
  fun_cases endValue ps c <;> simp_all

/-- Between two tokens only a complete value ends at a character that is no mark. -/
lemma isComplete_of_next {s : Scanner} (h : s.step.isBetween) {c : Char} (hc : c ∉ marks)
    (hnext : s.next c = .done) : s.IsComplete := by
  obtain ⟨step, ps⟩ := s
  have hvalue : beginValue ps c ≠ .done := by
    simp only [beginValue, pushParseState]
    split_ifs
    any_goals simp
    split <;> simp
  have hstring : beginString ps c ≠ .done := by
    simp only [beginString]
    split_ifs <;> simp
  simp only [marks, List.mem_cons, List.not_mem_nil, or_false, not_or] at hc
  rcases State.isBetween_iff.mp h with rfl | rfl | rfl | rfl | rfl | rfl
  · simp only [Scanner.next, beginValueOrEmpty, hc, if_false] at hnext
    split_ifs at hnext
    exact absurd hnext hvalue
  · exact absurd hnext hvalue
  · simp only [Scanner.next, beginStringOrEmpty, hc, if_false] at hnext
    split_ifs at hnext
    exact absurd hnext hstring
  · exact absurd hnext hstring
  · exact Or.inr ⟨rfl, endValue_eq_done hnext⟩
  · exact Or.inl rfl

lemma isComplete_behind (v : Value) : (behind v []).IsComplete := by
  cases v <;> simp [behind, popParseState, Scanner.IsComplete]

lemma endValue_eq_close {ps : List ParseState} {c : Char} {s : Scanner}
    (h : endValue ps c = .close s) : ∃ below, s = popParseState below := by
  revert h
  fun_cases endValue ps c <;> rintro ⟨⟩ <;> exact ⟨_, rfl⟩

lemma beginValue_ne_close {ps : List ParseState} {c : Char} {s : Scanner} :
    beginValue ps c ≠ .close s := by
  simp only [beginValue, pushParseState]
  split_ifs
  any_goals simp
  split <;> simp

/-- Only the end of an object or an array closes. -/
lemma exists_popParseState {s s' : Scanner} {c : Char} (h : s.next c = .close s') :
    ∃ below, s' = popParseState below := by
  obtain ⟨step, ps⟩ := s
  cases step with
  | beginValueOrEmpty =>
    simp only [Scanner.next, beginValueOrEmpty] at h
    split_ifs at h
    · exact endValue_eq_close h
    · exact absurd h beginValue_ne_close
  | beginValue => exact absurd h beginValue_ne_close
  | beginStringOrEmpty =>
    simp only [Scanner.next, beginStringOrEmpty, beginString] at h
    split_ifs at h
    exact endValue_eq_close h
  | endValue => exact endValue_eq_close h
  | beginString | inString | inStringEsc | inStringEscU =>
    simp only [Scanner.next, beginString] at h
    split_ifs at h
  | endTop => cases h
  | literal left =>
    cases left with
    | nil => cases h
    | cons d left =>
      simp only [Scanner.next] at h
      split_ifs at h
  | neg | state1 | state0 | dot | dot0 | e | eSign | e0 =>
    simp only [Scanner.next] at h
    split at h
    · cases h
    · split_ifs at h
      exact endValue_eq_close h

lemma endTop_of_close {s s' : Scanner} {c : Char} (h : s.next c = .close s')
    (htop : s'.parseState.isEmpty) : s'.step = .endTop := by
  obtain ⟨below, rfl⟩ := exists_popParseState h
  simp only [popParseState] at htop ⊢
  rw [if_pos htop]

/-- At the top the lexer is between two tokens. -/
lemma view_endTop {l : JsonText.State} {s s' : Scanner} (h : view l s = some s')
    (hend : s'.step = .endTop) : l = .between ∧ s = s' := by
  cases l with
  | between =>
    simp only [view, Option.ite_none_right_eq_some, Option.some.injEq] at h
    exact ⟨rfl, h.2⟩
  | string units esc =>
    simp only [view, Option.ite_none_right_eq_some, Option.some.injEq] at h
    obtain ⟨-, rfl⟩ := h
    cases esc <;> cases hend
  | number literal =>
    simp only [view, Option.ite_none_right_eq_some, Option.map_eq_some_iff] at h
    obtain ⟨-, st, hst, rfl⟩ := h
    cases hend
    have hcan := numberState_canEnd hst
    simp [State.CanEnd, State.isNumberEnd, numberStep] at hcan
  | word word =>
    simp only [view, Option.ite_none_right_eq_some, Option.map_eq_some_iff] at h
    obtain ⟨-, st, hst, rfl⟩ := h
    cases hend
    rcases literalState_cases hst with hst | ⟨left, hst⟩ <;> cases hst

/-- At the end of the input the token that the lexer is inside of completes the value. -/
lemma done_of_token {l : JsonText.State} {s s' fin : Scanner} {ts : List Token}
    (hview : view l s = some s') (htoken : l.token = some ts)
    (hfin : afterTokens s ts = some fin) (hcomplete : fin.IsComplete) {c : Char}
    (hc : ∀ literal, l = .number literal → numberState (literal ++ [c]) = none) :
    s'.next c = .done := by
  cases l with
  | between =>
    cases htoken
    cases hfin
    simp only [view, Option.ite_none_right_eq_some, Option.some.injEq] at hview
    obtain ⟨-, rfl⟩ := hview
    exact hcomplete.next c
  | string units esc => cases htoken
  | number literal =>
    simp only [view, Option.ite_none_right_eq_some, Option.map_eq_some_iff] at hview
    obtain ⟨hs, st, hst, rfl⟩ := hview
    simp only [State.token, Option.ite_none_right_eq_some, Option.some.injEq] at htoken
    obtain ⟨hnumber, rfl⟩ := htoken
    have hstop := hc literal rfl
    rw [numberState_concat hst] at hstop
    rw [isNumber_eq, hst] at hnumber
    have hafter : afterTokens s [.num (String.ofList literal)] =
        some ⟨.endValue, s.parseState⟩ := by
      simp [afterToken, hs]
    rw [hafter, Option.some.injEq] at hfin
    subst fin
    exact (number_done (numberState_canEnd hst)).mpr ⟨hstop, hnumber, hcomplete.next c⟩
  | word word =>
    simp only [view, Option.ite_none_right_eq_some, Option.map_eq_some_iff] at hview
    obtain ⟨hs, st, hst, rfl⟩ := hview
    obtain ⟨t, ht, rfl⟩ := Option.map_eq_some_iff.mp htoken
    obtain ⟨hend, hafter⟩ := wordToken_eq_some ht
    rw [hend] at hst
    cases hst
    rw [afterTokens_cons, hafter, if_pos hs, Option.bind_some] at hfin
    cases hfin
    exact hcomplete.next c

/-- Behind a value that is complete there are no tokens. -/
lemma eq_nil_of_endValue_done {ps : List ParseState} {c : Char} {ts : List Token} {fin : Scanner}
    (hdone : endValue ps c = .done) (hfin : afterTokens ⟨.endValue, ps⟩ ts = some fin) :
    ts = [] := by
  have hcomplete : Scanner.IsComplete ⟨.endValue, ps⟩ := Or.inr ⟨rfl, endValue_eq_done hdone⟩
  exact hcomplete.afterTokens hfin

lemma token_of_number_done {literal : List Char} {st : State} {s fin : Scanner} {c : Char}
    {cs : List Char} {ts : List Token} (hs : s.step.takesValue)
    (hst : numberState literal = some st) (hlex : lexFrom (.number literal) (c :: cs) = some ts)
    (hfin : afterTokens s ts = some fin)
    (hdone : Scanner.next ⟨st, s.parseState⟩ c = .done) :
    (JsonText.State.number literal).token = some ts := by
  obtain ⟨hstop, hend, hclosed⟩ := (number_done (numberState_canEnd hst)).mp hdone
  obtain ⟨ys, zs, later, hcs, hnumber, rfl⟩ := lexFrom_number hlex
  cases ys with
  | nil =>
    rw [List.append_nil] at hnumber hfin ⊢
    rw [afterTokens_cons, afterToken, if_pos hs, Option.bind_some] at hfin
    rw [eq_nil_of_endValue_done hclosed hfin, State.token, if_pos hnumber]
  | cons d ys =>
    -- the character would go on with the number
    obtain ⟨rfl, -⟩ := List.cons_eq_cons.mp hcs
    rw [← List.singleton_append, ← List.append_assoc] at hnumber
    obtain ⟨st', hst'⟩ := exists_numberState (by simp) hnumber
    rw [numberState_concat hst, hstop] at hst'
    cases hst'

lemma token_of_word_done {word : List Char} {st : State} {s fin : Scanner} {c : Char}
    {cs : List Char} {ts : List Token} (hs : s.step.takesValue)
    (hst : literalState word = some st) (hlex : lexFrom (.word word) (c :: cs) = some ts)
    (hfin : afterTokens s ts = some fin)
    (hdone : Scanner.next ⟨st, s.parseState⟩ c = .done) :
    (JsonText.State.word word).token = some ts := by
  obtain ⟨ys, zs, t, later, hcs, hword, rfl⟩ := lexFrom_word hlex
  obtain ⟨hend, hafter⟩ := wordToken_eq_some hword
  have hne : word ≠ [] := by
    rintro rfl
    cases hst
  rcases literalState_cases hst with rfl | ⟨left, rfl⟩
  · cases ys with
    | nil =>
      rw [List.append_nil] at hword
      rw [afterTokens_cons, hafter, if_pos hs, Option.bind_some] at hfin
      rw [eq_nil_of_endValue_done hdone hfin, State.token, hword, Option.map_some]
    | cons d ys =>
      rw [literalState_append hne, hst] at hend
      cases hend
  · exact absurd hdone (literal_not_done left _ c)

/-- When the scanner says that the value is complete, the tokens end. -/
lemma token_of_done {l : JsonText.State} {s s' fin : Scanner} {c : Char} {cs : List Char}
    {ts : List Token} (hview : view l s = some s') (hlex : lexFrom l (c :: cs) = some ts)
    (hfin : afterTokens s ts = some fin) (hdone : s'.next c = .done) : l.token = some ts := by
  cases l with
  | between =>
    simp only [view, Option.ite_none_right_eq_some, Option.some.injEq] at hview
    obtain ⟨hs, rfl⟩ := hview
    by_cases hc : c ∈ marks
    · obtain ⟨t, hstart, hafter⟩ := start_mark hc
      obtain ⟨l', now, later, hstep, -, rfl⟩ := lexFrom_cons_eq_some hlex
      cases (hstart.symm.trans hstep)
      rw [List.singleton_append, afterTokens_cons, hafter, hdone] at hfin
      cases hfin
    · rw [(isComplete_of_next hs hc hdone).afterTokens hfin]
      rfl
  | string units esc =>
    simp only [view, Option.ite_none_right_eq_some, Option.some.injEq] at hview
    obtain ⟨hs, rfl⟩ := hview
    exact absurd hdone (string_not_done esc _ c)
  | number literal =>
    simp only [view, Option.ite_none_right_eq_some, Option.map_eq_some_iff] at hview
    obtain ⟨hs, st, hst, rfl⟩ := hview
    exact token_of_number_done hs hst hlex hfin hdone
  | word word =>
    simp only [view, Option.ite_none_right_eq_some, Option.map_eq_some_iff] at hview
    obtain ⟨hs, st, hst, rfl⟩ := hview
    exact token_of_word_done hs hst hlex hfin hdone

/-! ### Reading a document -/

/-- A text whose tokens the scanner takes keeps it going. -/
lemma exists_view {l : JsonText.State} {s fin : Scanner} {cs : List Char} {ts : List Token}
    (hl : IsPending l) (hs : s.step.isBetween) (hlex : lexFrom l cs = some ts)
    (hfin : afterTokens s ts = some fin) : ∃ s', view l s = some s' := by
  cases l with
  | between => exact ⟨s, if_pos hs⟩
  | string units esc =>
    obtain ⟨x, later, rfl⟩ := lexFrom_string hlex
    rw [afterTokens_cons] at hfin
    obtain ⟨s₁, hstr, -⟩ := Option.bind_eq_some_iff.mp hfin
    simp only [afterToken, Option.ite_none_right_eq_some] at hstr
    exact ⟨_, if_pos hstr.1⟩
  | number literal =>
    obtain ⟨ys, zs, later, rfl, hnumber, rfl⟩ := lexFrom_number hlex
    have hne : literal ≠ [] := by
      rintro rfl
      exact hl.1 rfl
    obtain ⟨st, hst⟩ := exists_numberState hne hnumber
    rw [afterTokens_cons] at hfin
    obtain ⟨s₁, hnum, -⟩ := Option.bind_eq_some_iff.mp hfin
    simp only [afterToken, Option.ite_none_right_eq_some] at hnum
    exact ⟨⟨st, s.parseState⟩, by simp [view, hnum.1, hst]⟩
  | word word =>
    obtain ⟨ys, zs, t, later, rfl, hword, rfl⟩ := lexFrom_word hlex
    have hne : word ≠ [] := by
      rintro rfl
      exact hl.2 rfl
    obtain ⟨hend, hafter⟩ := wordToken_eq_some hword
    rw [literalState_append hne] at hend
    obtain ⟨st, hst, -⟩ := Option.bind_eq_some_iff.mp hend
    rw [afterTokens_cons] at hfin
    obtain ⟨s₁, ht, -⟩ := Option.bind_eq_some_iff.mp hfin
    rw [hafter, Option.ite_none_right_eq_some] at ht
    exact ⟨⟨st, s.parseState⟩, by simp [view, ht.1, hst]⟩

/-- The scanner reads a document to its end, or to the blanks behind it. -/
lemma readValue_complete {cs rest : List Char} {l : JsonText.State} {s s' fin : Scanner}
    {ts : List Token} (hl : IsPending l) (hs : s.step.isBetween) (hview : view l s = some s')
    (hlex : lexFrom l cs = some ts) (hfin : afterTokens s ts = some fin)
    (hcomplete : fin.IsComplete)
    (hstop : ∀ l' toks, scan l cs = some (l', toks) → ∀ c ∈ rest.head?, ∀ literal,
      l' = .number literal → numberState (literal ++ [c]) = none) :
    ∃ pre, readValue s' (cs ++ rest) = some pre ∧ lexFrom l pre = some ts := by
  induction cs generalizing l s s' ts with
  | nil =>
    rw [lexFrom_nil] at hlex
    refine ⟨[], ?_, by rw [lexFrom_nil, hlex]⟩
    cases rest with
    | nil =>
      have hdone := done_of_token hview hlex hfin hcomplete (c := ' ')
        fun literal _ => numberState_eq_none rfl literal
      simp [readValue, hdone]
    | cons c rest =>
      have hdone := done_of_token hview hlex hfin hcomplete (c := c)
        (hstop l [] rfl c rfl)
      simp [readValue, hdone]
  | cons c cs ih =>
    by_cases hdone : s'.next c = .done
    · have htoken := token_of_done hview hlex hfin hdone
      exact ⟨[], by simp [readValue, hdone], by rw [lexFrom_nil, htoken]⟩
    obtain ⟨l₁, now, later, hstep, hlater, rfl⟩ := lexFrom_cons_eq_some hlex
    rw [afterTokens_append] at hfin
    obtain ⟨s₁, hnow, hfin⟩ := Option.bind_eq_some_iff.mp hfin
    have hs₁ := isBetween_afterTokens hs hnow
    obtain ⟨s₁', hview₁⟩ := exists_view (isPending_of_step hstep) hs₁ hlater hfin
    have hnext := (next_view hview hstep).resolve_left hdone
    rw [hnow, Option.bind_some, hview₁] at hnext
    have hscan {l' : JsonText.State} {toks : List Token} (h : scan l₁ cs = some (l', toks)) :
        scan l (c :: cs) = some (l', now ++ toks) := by
      rw [scan_cons, hstep, Option.bind_some, h, Option.map_some]
    obtain ⟨pre, hread, hpre⟩ := ih (isPending_of_step hstep) hs₁ hview₁ hlater hfin
      fun l' toks h => hstop l' (now ++ toks) (hscan h)
    have hwhole : lexFrom l (c :: pre) = some (now ++ later) := by
      rw [lexFrom_cons, hstep, Option.bind_some, hpre, Option.map_some]
    cases hevent : s'.next c with
    | goOn s₂ =>
      rw [hevent] at hnext
      cases hnext
      exact ⟨c :: pre, by simp [readValue, hevent, hread], hwhole⟩
    | close s₂ =>
      rw [hevent] at hnext
      cases hnext
      by_cases htop : s₁'.parseState.isEmpty
      · rw [List.isEmpty_iff] at htop
        have hend := endTop_of_close hevent (List.isEmpty_iff.mpr htop)
        obtain ⟨rfl, rfl⟩ := view_endTop hview₁ hend
        have hlast := Scanner.IsComplete.afterTokens (Or.inl hend) hfin
        exact ⟨[c], by simp [readValue, hevent, htop],
          by rw [lexFrom_cons, hstep, Option.bind_some, lexFrom_nil, hlast]; rfl⟩
      · exact ⟨c :: pre, by simp [readValue, hevent, hread, htop], hwhole⟩
    | done => exact absurd hevent hdone
    | error =>
      rw [hevent] at hnext
      cases hnext

/-- The scanner takes the token that the lexer is inside of. -/
lemma afterTokens_token {l : JsonText.State} {s s' : Scanner} {last : List Token}
    (hview : view l s = some s') (htoken : l.token = some last) :
    ∃ fin, afterTokens s last = some fin := by
  cases l with
  | between =>
    cases htoken
    exact ⟨s, rfl⟩
  | string units esc => cases htoken
  | number literal =>
    simp only [view, Option.ite_none_right_eq_some] at hview
    simp only [State.token, Option.ite_none_right_eq_some, Option.some.injEq] at htoken
    obtain ⟨-, rfl⟩ := htoken
    exact ⟨_, by rw [afterTokens_cons, afterToken, if_pos hview.1]; rfl⟩
  | word word =>
    simp only [view, Option.ite_none_right_eq_some] at hview
    obtain ⟨t, ht, rfl⟩ := Option.map_eq_some_iff.mp htoken
    exact ⟨_, by rw [afterTokens_cons, (wordToken_eq_some ht).2, if_pos hview.1]; rfl⟩

/-- A character that is no blank and at which a value is complete begins another token. -/
lemma lexFrom_done {l : JsonText.State} {s s' : Scanner} {c : Char} {cs : List Char}
    {last ts : List Token} (hview : view l s = some s') (hdone : s'.next c = .done)
    (hblank : isBlank c = false) (htoken : l.token = some last)
    (hlex : lexFrom l (c :: cs) = some ts) : ∃ later, ts = last ++ later ∧ later ≠ [] := by
  obtain ⟨l', now, later, hstep, hlater, rfl⟩ := lexFrom_cons_eq_some hlex
  have hleave (h : leave l c = some (l', now)) :
      ∃ more, now ++ later = last ++ more ∧ more ≠ [] := by
    simp only [leave, htoken, Option.bind_eq_bind, Option.bind_some, Option.bind_eq_some_iff,
      Option.some.injEq, Prod.mk.injEq] at h
    obtain ⟨⟨l₁, after⟩, hstart, rfl, rfl⟩ := h
    exact ⟨after ++ later, by simp, start_ne_nil hblank hstart hlater⟩
  cases l with
  | between =>
    cases htoken
    exact ⟨now ++ later, rfl, start_ne_nil hblank hstep hlater⟩
  | string units esc => cases htoken
  | number literal =>
    rw [step] at hstep
    split_ifs at hstep with hc
    · cases hstep
      simp only [view, Option.ite_none_right_eq_some, Option.map_eq_some_iff] at hview
      obtain ⟨-, st, hst, rfl⟩ := hview
      obtain ⟨ys, zs, more, -, hnumber, -⟩ := lexFrom_number hlater
      obtain ⟨st', hst'⟩ := exists_numberState (by simp) hnumber
      rw [numberState_concat hst, ((number_done (numberState_canEnd hst)).mp hdone).1] at hst'
      cases hst'
    · exact hleave hstep
  | word word =>
    rw [step] at hstep
    split_ifs at hstep with hc
    · cases hstep
      obtain ⟨t, ht, rfl⟩ := Option.map_eq_some_iff.mp htoken
      obtain ⟨ys, zs, t', more, -, ht', -⟩ := lexFrom_word hlater
      have hne : word ≠ [] := by
        rintro rfl
        cases ht
      have hend := (wordToken_eq_some ht').1
      rw [List.append_assoc, literalState_append hne, (wordToken_eq_some ht).1] at hend
      cases hend
    · exact hleave hstep

lemma readValue_prefix {cs pre : List Char} {s : Scanner} (h : readValue s cs = some pre) :
    ∃ rest, cs = pre ++ rest := by
  induction cs generalizing s pre with
  | nil =>
    simp only [readValue, Option.ite_none_right_eq_some, Option.some.injEq] at h
    exact ⟨[], by simp [← h.2]⟩
  | cons c cs ih =>
    have hgo {s' : Scanner} (h : (readValue s' cs).map (c :: ·) = some pre) :
        ∃ rest, c :: cs = pre ++ rest := by
      obtain ⟨pre, hpre, rfl⟩ := Option.map_eq_some_iff.mp h
      obtain ⟨rest, rfl⟩ := ih hpre
      exact ⟨rest, rfl⟩
    rw [readValue] at h
    split at h
    · exact hgo h
    · split_ifs at h
      · cases h
        exact ⟨cs, rfl⟩
      · exact hgo h
    · cases h
      exact ⟨c :: cs, rfl⟩
    · cases h

/-- What is read takes the scanner to where it stops. -/
lemma readValue_stops {cs pre : List Char} {l l' : JsonText.State} {s s' : Scanner}
    {toks : List Token} (hview : view l s = some s') (hread : readValue s' cs = some pre)
    (hscan : scan l pre = some (l', toks)) : ∃ s₁ s₁', afterTokens s toks = some s₁ ∧
      view l' s₁ = some s₁' ∧ ∀ c rest, cs = pre ++ c :: rest → s₁'.next c = .done := by
  induction cs generalizing l s s' pre toks with
  | nil =>
    simp only [readValue, Option.ite_none_right_eq_some, Option.some.injEq] at hread
    obtain ⟨-, rfl⟩ := hread
    cases hscan
    exact ⟨s, s', rfl, hview, by simp⟩
  | cons c cs ih =>
    have hgo {s₁' : Scanner} (hnext : (s'.next c).next? = some s₁')
        (hrest : (readValue s₁' cs).map (c :: ·) = some pre) : ∃ s₁ s₁',
        afterTokens s toks = some s₁ ∧ view l' s₁ = some s₁' ∧
          ∀ d rest, c :: cs = pre ++ d :: rest → s₁'.next d = .done := by
      obtain ⟨pre, hpre, rfl⟩ := Option.map_eq_some_iff.mp hrest
      obtain ⟨l₁, now, later, hstep, hlater, rfl⟩ := scan_cons_eq_some hscan
      have hndone : s'.next c ≠ .done := by
        intro h
        rw [h] at hnext
        cases hnext
      have hboth := (next_view hview hstep).resolve_left hndone
      rw [hnext] at hboth
      obtain ⟨s₁, hnow, hview₁⟩ := Option.bind_eq_some_iff.mp hboth.symm
      obtain ⟨s₂, s₂', hafter, hview₂, hdone⟩ := ih hview₁ hpre hlater
      refine ⟨s₂, s₂', ?_, hview₂, fun d rest h => hdone d rest (List.cons_eq_cons.mp h).2⟩
      rw [afterTokens_append, hnow, Option.bind_some, hafter]
    rw [readValue] at hread
    cases hevent : s'.next c with
    | goOn s₁' =>
      simp only [hevent] at hread
      exact hgo (by rw [hevent]; rfl) hread
    | close s₁' =>
      simp only [hevent] at hread
      split_ifs at hread with htop
      · cases hread
        obtain ⟨l₁, now, later, hstep, hlater, rfl⟩ := scan_cons_eq_some hscan
        cases hlater
        have hboth := (next_view hview hstep).resolve_left (by simp [hevent])
        rw [hevent] at hboth
        obtain ⟨s₁, hnow, hview₁⟩ := Option.bind_eq_some_iff.mp hboth.symm
        refine ⟨s₁, s₁', by rw [List.append_nil, hnow], hview₁, fun d rest _ => ?_⟩
        exact Scanner.IsComplete.next (Or.inl (endTop_of_close hevent htop)) d
      · exact hgo (by rw [hevent]; rfl) hread
    | done =>
      simp only [hevent, Option.some.injEq] at hread
      subst hread
      cases hscan
      refine ⟨s, s', rfl, hview, fun d rest h => ?_⟩
      obtain ⟨rfl, -⟩ := List.cons_eq_cons.mp h
      exact hevent
    | error =>
      simp only [hevent] at hread
      cases hread

/-! ### What is read -/

/-- The text begins with a document that is not continued: what comes next is a blank or is not
part of any document that begins so. -/
def BeginsWith (text : String) (v : Value) : Prop :=
  ∃ doc rest, text.toList = doc ++ rest ∧ decode (String.ofList doc) = some v ∧
    ∀ c ∈ rest.head?, isBlank c = false →
      ∀ more, decode (String.ofList (doc ++ c :: more)) = none

lemma BeginsWith.read {text : String} {v : Value} (h : BeginsWith text v)
    (hdepth : depth v ≤ maxNestingDepth) : read text = some v := by
  obtain ⟨doc, rest, htext, hdoc, hrest⟩ := h
  have hlex := decode_ofList.mp hdoc
  have hstop : ∀ l toks, scan .between doc = some (l, toks) → ∀ c ∈ rest.head?, ∀ literal,
      l = .number literal → numberState (literal ++ [c]) = none := by
    rintro l toks hscan c hc literal rfl
    by_contra hne
    obtain ⟨st, hst⟩ := Option.ne_none_iff_exists'.mp hne
    have hchar : isNumberChar c = true := by
      by_contra hchar
      exact hne (numberState_eq_none (by simpa using hchar) literal)
    obtain ⟨more, hmore, hnumber⟩ := exists_isNumber hst
    have htokens : tokens v = toks ++ [.num (String.ofList literal)] := by
      simp only [lexFrom, hscan, State.token, Option.bind_eq_bind, Option.bind_some,
        Option.bind_eq_some_iff, Option.ite_none_right_eq_some, Option.some.injEq] at hlex
      obtain ⟨last, ⟨-, rfl⟩, hlast⟩ := hlex
      exact hlast.symm
    obtain ⟨rfl, -⟩ := tokens_num htokens
    have hlonger : decode (String.ofList (doc ++ c :: more)) =
        some (.num (String.ofList (literal ++ c :: more))) := by
      rw [decode_ofList, lexFrom_append, hscan, Option.bind_some, lexFrom,
        scan_number (List.forall_mem_cons.mpr ⟨hchar, hmore⟩)]
      rw [List.append_assoc, List.singleton_append] at hnumber
      simp [State.token, hnumber, tokens]
    rw [hrest c hc (of_isNumberChar hchar).1 more] at hlonger
    cases hlonger
  obtain ⟨pre, hread, hpre⟩ := readValue_complete (s := .init) (by simp [IsPending]) rfl rfl
    hlex (by rw [afterTokens_init, if_pos hdepth]) (isComplete_behind v) hstop
  rw [JsonStream.read, htext, hread]
  exact decode_ofList.mpr hpre

lemma beginsWith_of_read {text : String} {v : Value} (h : read text = some v) :
    BeginsWith text v ∧ depth v ≤ maxNestingDepth := by
  obtain ⟨raw, hread, hdecode⟩ := Option.bind_eq_some_iff.mp h
  obtain ⟨rest, htext⟩ := readValue_prefix hread
  have hlex := decode_ofList.mp hdecode
  simp only [lexFrom, Option.bind_eq_bind, Option.bind_eq_some_iff, Option.some.injEq] at hlex
  obtain ⟨⟨l, toks⟩, hscan, last, htoken, htokens⟩ := hlex
  obtain ⟨s, s', htoks, hview, hdone⟩ := readValue_stops (l := .between) (s := .init) rfl hread
    hscan
  constructor
  · refine ⟨raw, rest, htext, hdecode, fun c hc hblank more => ?_⟩
    obtain ⟨rest, rfl⟩ : ∃ tail, rest = c :: tail := List.head?_eq_some_iff.mp hc
    have hnext := hdone c rest htext
    by_contra hne
    obtain ⟨u, hu⟩ := Option.ne_none_iff_exists'.mp hne
    rw [decode_ofList, lexFrom_append, hscan, Option.bind_some, Option.map_eq_some_iff] at hu
    obtain ⟨later, hlater, hall⟩ := hu
    obtain ⟨extra, rfl, hextra⟩ := lexFrom_done hview hnext hblank htoken hlater
    refine hextra (tokens_append (u := u) (v := v) ?_)
    rw [← hall, ← htokens, List.append_assoc]
  · obtain ⟨fin, hfin⟩ := afterTokens_token hview htoken
    have htake : afterTokens .init (tokens v) = some fin := by
      rw [← htokens, afterTokens_append, htoks, Option.bind_some, hfin]
    rw [afterTokens_init, Option.ite_none_right_eq_some] at htake
    exact htake.1

/-- The decoder reads what begins with a document that is not nested too deep. -/
theorem read_eq_some {text : String} {v : Value} :
    read text = some v ↔ BeginsWith text v ∧ depth v ≤ maxNestingDepth :=
  ⟨beginsWith_of_read, fun ⟨h, hdepth⟩ => h.read hdepth⟩

end GoLib.JsonStream
