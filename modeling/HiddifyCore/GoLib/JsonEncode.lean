import HiddifyCore.GoLib.JsonDecode

/-!
# Encoding JSON

The text that `encoding/json` writes for a document, in one line (`json.Marshal`) or indented
(`json.MarshalIndent`), with the characters escaped that HTML or JavaScript would read. The text is
read as the document it was written for (`decode_encode`), whatever the blanks between the tokens.
A `Codec` is an encoding with a decoding in place that inverts it; the one of a struct is put
together from those of its fields.
-/

namespace GoLib.JsonText

/-! ### Strings -/

def hexDigit (n : Nat) : Char := "0123456789abcdef".toList.getD n '0'

/-- `\u` and the four digits of a number. -/
def unicodeEscape (n : Nat) : List Char :=
  ['\\', 'u', hexDigit (n / 0x1000), hexDigit (n / 0x100 % 0x10), hexDigit (n / 0x10 % 0x10),
    hexDigit (n % 0x10)]

/-- A character of a string, as `appendString` writes it. -/
def escape (c : Char) : List Char :=
  if c = '"' ∨ c = '\\' then ['\\', c]
  else if c = '\x08' then ['\\', 'b']
  else if c = '\x0c' then ['\\', 'f']
  else if c = '\n' then ['\\', 'n']
  else if c = '\r' then ['\\', 'r']
  else if c = '\t' then ['\\', 't']
  else if c.toNat < 0x20 ∨ c ∈ ['<', '>', '&', '\u2028', '\u2029'] then unicodeEscape c.toNat
  else [c]

def quote (s : String) : List Char := '"' :: (s.toList.flatMap escape ++ ['"'])

lemma hexValue_hexDigit : ∀ n < 16, hexValue (hexDigit n) = some n := by decide

lemma scan_unicodeEscape {n : Nat} (h : n < 0x10000) (units : List Nat) :
    scan (.string units .none) (unicodeEscape n) = some (.string (units ++ [n]) .none, []) := by
  have hdigits : 16 * (16 * (16 * (16 * 0 + n / 0x1000) + n / 0x100 % 0x10) + n / 0x10 % 0x10) +
      n % 0x10 = n := by omega
  simp only [unicodeEscape, scan_cons, step, stringStep]
  simp [hexValue_hexDigit (n / 0x1000) (by omega), hexValue_hexDigit (n / 0x100 % 0x10) (by omega),
    hexValue_hexDigit (n / 0x10 % 0x10) (by omega), hexValue_hexDigit (n % 0x10) (by omega), scan]
  omega

/-- Every character is scanned as itself. -/
lemma scan_escape (c : Char) (units : List Nat) :
    scan (.string units .none) (escape c) = some (.string (units ++ [c.toNat]) .none, []) := by
  rw [escape]
  split_ifs with hself hb hf hn hr ht hcode
  · rcases hself with rfl | rfl <;> rfl
  · subst c; rfl
  · subst c; rfl
  · subst c; rfl
  · subst c; rfl
  · subst c; rfl
  · apply scan_unicodeEscape
    rcases hcode with hcode | hcode
    · omega
    · simp only [List.mem_cons, List.not_mem_nil, or_false] at hcode
      rcases hcode with rfl | rfl | rfl | rfl | rfl <;> decide
  · have hplain : IsPlain [c] := by
      simp only [not_or] at hself hcode
      simpa [IsPlain, hself] using hcode.1
    simpa using scan_plain hplain units

lemma scan_flatMap_escape (cs : List Char) (units : List Nat) :
    scan (.string units .none) (cs.flatMap escape)
      = some (.string (units ++ cs.map Char.toNat) .none, []) := by
  induction cs generalizing units with
  | nil => simp [scan]
  | cons c cs ih => simp [scan_append, scan_escape, ih]

/-- A string is read as it was before it was quoted. -/
lemma lexFrom_quote (s : String) (cs : List Char) :
    lexFrom .between (quote s ++ cs) = (lexFrom .between cs).map (.str s :: ·) := by
  have hopen : step .between '"' = some (.string [] .none, []) := rfl
  have hclose : step (.string (s.toList.map Char.toNat) .none) '"' = some (.between, [.str s]) := by
    simp [step, stringStep, unitsText_toNat]
  simp only [quote, List.cons_append, List.append_assoc, lexFrom_cons, hopen, Option.bind_some,
    lexFrom_append, scan_flatMap_escape, List.nil_append, hclose]
  cases lexFrom .between cs <;> simp

/-! ### Numbers and words -/

/-- What ends a number or a word: nothing, a blank or a mark that is no part of either. -/
def Ends (cs : List Char) : Prop := ∀ c ∈ cs.head?, isBlank c ∨ c ∈ [',', ']', '\x7d']

lemma ends_nil : Ends [] := by simp [Ends]

lemma ends_cons {c : Char} (h : isBlank c ∨ c ∈ [',', ']', '\x7d']) (cs : List Char) :
    Ends (c :: cs) := by simpa [Ends] using h

lemma ends_append {xs ys : List Char} (hxs : ∀ c ∈ xs, isBlank c) (hys : Ends ys) :
    Ends (xs ++ ys) := by
  cases xs with
  | nil => exact hys
  | cons c cs => exact ends_cons (Or.inl (hxs c List.mem_cons_self)) _

lemma not_mem_of_ends {c : Char} (h : isBlank c ∨ c ∈ [',', ']', '\x7d']) :
    isNumberChar c = false ∧ c.isLower = false := by
  simp only [isBlank, Bool.or_eq_true, decide_eq_true_eq, List.mem_cons, List.not_mem_nil,
    or_false] at h
  rcases h with (((rfl | rfl) | rfl) | rfl) | rfl | rfl | rfl <;> decide

lemma lexFrom_leave {st : State} {toks : List Token} (hst : st.token = some toks)
    {cs : List Char} (hstep : ∀ c ∈ cs.head?, step st c = leave st c) :
    lexFrom st cs = (lexFrom .between cs).map (toks ++ ·) := by
  cases cs with
  | nil =>
    rw [lexFrom_nil, lexFrom_nil, hst]
    simp [State.token]
  | cons c cs =>
    rw [lexFrom_cons, lexFrom_cons, hstep c rfl]
    simp only [leave, hst, step, Option.bind_eq_bind, Option.bind_some]
    cases start c with
    | none => rfl
    | some p => cases h : lexFrom p.1 cs <;> simp [h]

lemma isNumber_head {literal : List Char} (h : isNumber literal) : ∃ c cs, literal = c :: cs ∧
    (c.isDigit ∨ c = '-') := by
  rcases literal with _ | ⟨c, cs⟩
  · cases h
  refine ⟨c, cs, rfl, ?_⟩
  by_cases hminus : c = '-'
  · exact Or.inr hminus
  have hdrop : dropMinus (c :: cs) = c :: cs := by simp [dropMinus, hminus]
  left
  by_contra hdigit
  simp [isNumber, hdrop, List.span_eq_takeWhile_dropWhile, hdigit, isIntegerPart, isDigits] at h

lemma isNumberChar_of_isDigits {cs : List Char} (h : isDigits cs) : ∀ c ∈ cs, isNumberChar c := by
  simp only [isDigits, Bool.and_eq_true, List.all_eq_true] at h
  intro c hc
  simp [isNumberChar, h.2 c hc]

lemma isNumberChar_of_isExponent {cs : List Char} (h : isExponent cs) :
    ∀ c ∈ cs, isNumberChar c := by
  have hletter {e : Char} (he : (e = 'e' || e = 'E') = true) : isNumberChar e := by
    rcases (by simpa using he : e = 'e' ∨ e = 'E') with rfl | rfl <;> decide
  revert h
  fun_cases isExponent cs with
  | case1 e cs =>
    intro h
    obtain ⟨he, hcs⟩ := Bool.and_eq_true_iff.mp h
    simpa [hletter he, isNumberChar_of_isDigits hcs] using
      (⟨by decide, isNumberChar_of_isDigits hcs⟩ : isNumberChar '+' ∧ _)
  | case2 e cs =>
    intro h
    obtain ⟨he, hcs⟩ := Bool.and_eq_true_iff.mp h
    simpa [hletter he, isNumberChar_of_isDigits hcs] using
      (⟨by decide, isNumberChar_of_isDigits hcs⟩ : isNumberChar '-' ∧ _)
  | case3 e cs =>
    intro h
    obtain ⟨he, hcs⟩ := Bool.and_eq_true_iff.mp h
    simpa [hletter he] using isNumberChar_of_isDigits hcs
  | case4 => simp

lemma isNumberChar_of_isFraction {cs : List Char} (h : isFraction cs) :
    ∀ c ∈ cs, isNumberChar c := by
  revert h
  fun_cases isFraction cs with
  | case1 cs =>
    intro h
    simpa using (⟨by decide, isNumberChar_of_isDigits h⟩ : isNumberChar '.' ∧ _)
  | case2 cs =>
    intro h
    obtain rfl := List.isEmpty_iff.mp h
    simp

lemma isNumberChar_of_isNumber {literal : List Char} (h : isNumber literal) :
    ∀ c ∈ literal, isNumberChar c := by
  simp only [isNumber, isIntegerPart, Bool.and_eq_true] at h
  obtain ⟨⟨⟨hint, -⟩, hfraction⟩, hexponent⟩ := h
  have hall : ∀ c ∈ dropMinus literal, isNumberChar c := by
    intro c hc
    rw [← List.takeWhile_append_dropWhile (p := Char.isDigit) (l := dropMinus literal),
      List.mem_append] at hc
    simp only [List.span_eq_takeWhile_dropWhile] at hint hfraction hexponent
    rcases hc with hc | hc
    · exact isNumberChar_of_isDigits hint c hc
    · rw [← List.takeWhile_append_dropWhile (p := fun c => c ≠ 'e' && c ≠ 'E')
        (l := (dropMinus literal).dropWhile Char.isDigit), List.mem_append] at hc
      rcases hc with hc | hc
      · exact isNumberChar_of_isFraction hfraction c hc
      · exact isNumberChar_of_isExponent hexponent c hc
  intro c hc
  rcases literal with _ | ⟨d, cs⟩
  · cases hc
  by_cases hminus : d = '-'
  · subst hminus
    rcases List.mem_cons.mp hc with rfl | hc
    · decide
    · exact hall c hc
  · have hdrop : dropMinus (d :: cs) = d :: cs := by simp [dropMinus, hminus]
    exact hall c (by rwa [hdrop])

lemma lexFrom_num {literal : List Char} (h : isNumber literal) {cs : List Char} (hcs : Ends cs) :
    lexFrom .between (literal ++ cs)
      = (lexFrom .between cs).map (.num (String.ofList literal) :: ·) := by
  have hchars := isNumberChar_of_isNumber h
  obtain ⟨c, ds, rfl, hc⟩ := isNumber_head h
  have hstep : step .between c = some (.number [c], []) := start_number hc
  have hds : scan (.number [c]) ds = some (.number (c :: ds), []) :=
    scan_number (fun d hd => hchars d (List.mem_cons_of_mem c hd)) [c]
  have hend : lexFrom (.number (c :: ds)) cs
      = (lexFrom .between cs).map ([.num (String.ofList (c :: ds))] ++ ·) :=
    lexFrom_leave (by simp [State.token, h]) fun d hd => by
      simp [step, (not_mem_of_ends (hcs d hd)).1]
  rw [List.cons_append, lexFrom_cons, hstep, Option.bind_some, lexFrom_append, hds,
    Option.bind_some, hend]
  cases lexFrom .between cs <;> simp

lemma lexFrom_wordToken {word : List Char} {t : Token} (h : wordToken word = some t)
    {cs : List Char} (hcs : Ends cs) :
    lexFrom .between (word ++ cs) = (lexFrom .between cs).map (t :: ·) := by
  have hscan : scan .between word = some (.word word, []) := by
    simp only [wordToken] at h
    split_ifs at h <;> subst word <;> rfl
  have hend : lexFrom (.word word) cs = (lexFrom .between cs).map ([t] ++ ·) :=
    lexFrom_leave (by simp [State.token, h]) fun d hd => by
      simp [step, (not_mem_of_ends (hcs d hd)).2]
  rw [lexFrom_append, hscan, Option.bind_some, hend]
  cases lexFrom .between cs <;> simp

lemma lexFrom_blanks {xs : List Char} (h : ∀ c ∈ xs, isBlank c) (cs : List Char) :
    lexFrom .between (xs ++ cs) = lexFrom .between cs := by
  induction xs with
  | nil => rfl
  | cons c xs ih =>
    obtain ⟨hc, hxs⟩ := List.forall_mem_cons.mp h
    have hstep : step .between c = some (.between, []) := by simp [step, start, hc]
    rw [List.cons_append, lexFrom_cons, hstep, Option.bind_some, ih hxs]
    cases lexFrom .between cs <;> rfl

/-! ### Documents -/

/-- The blanks of a text. -/
structure Layout where
  /-- What stands in front of an element or a member, and behind the last one, by depth. -/
  newline : Nat → List Char
  /-- What stands between a colon and the value of the member. -/
  gap : List Char
  newline_blank : ∀ n, ∀ c ∈ newline n, isBlank c
  gap_blank : ∀ c ∈ gap, isBlank c

/-- One line without blanks. -/
def Layout.compact : Layout where
  newline _ := []
  gap := []
  newline_blank := by simp
  gap_blank := by simp

/-- A line for each element and member, indented by blanks. -/
def Layout.indented (width : Nat) : Layout where
  newline n := '\n' :: List.replicate (n * width) ' '
  gap := [' ']
  newline_blank n c hc := by
    simp only [List.mem_cons, List.mem_replicate] at hc
    rcases hc with rfl | ⟨-, rfl⟩ <;> rfl
  gap_blank c hc := by
    obtain rfl := List.mem_singleton.mp hc
    rfl

section Text

variable (L : Layout)

mutual

def text (n : Nat) : Value → List Char
  | .null => "null".toList
  | .bool true => "true".toList
  | .bool false => "false".toList
  | .num literal => literal.toList
  | .str s => quote s
  | .arr [] => ['[', ']']
  | .arr (v :: vs) => '[' :: (L.newline (n + 1) ++ (text (n + 1) v ++ (elementsText (n + 1) vs ++
      (L.newline n ++ [']']))))
  | .obj [] => ['\x7b', '\x7d']
  | .obj (m :: ms) => '\x7b' :: (L.newline (n + 1) ++ (memberText (n + 1) m ++
      (membersText (n + 1) ms ++ (L.newline n ++ ['\x7d']))))

def elementsText (n : Nat) : List Value → List Char
  | [] => []
  | v :: vs => ',' :: (L.newline n ++ (text n v ++ elementsText n vs))

def memberText (n : Nat) : String × Value → List Char
  | (k, v) => quote k ++ (':' :: (L.gap ++ text n v))

def membersText (n : Nat) : List (String × Value) → List Char
  | [] => []
  | m :: ms => ',' :: (L.newline n ++ (memberText n m ++ membersText n ms))

end

end Text

def encode (L : Layout) (v : Value) : String := String.ofList (text L 0 v)

mutual

/-- Every number of the document is spelled as one. -/
def numeric : Value → Bool
  | .num literal => isNumber literal.toList
  | .arr vs => numerics vs
  | .obj ms => memberNumerics ms
  | .null | .bool _ | .str _ => true

def numerics : List Value → Bool
  | [] => true
  | v :: vs => numeric v && numerics vs

def memberNumerics : List (String × Value) → Bool
  | [] => true
  | (_, v) :: ms => numeric v && memberNumerics ms

end

section Read

variable {L : Layout}

lemma lexFrom_mark {c : Char} {t : Token} (h : start c = some (.between, [t])) (cs : List Char) :
    lexFrom .between (c :: cs) = (lexFrom .between cs).map (t :: ·) := by
  have hstep : step .between c = some (.between, [t]) := h
  rw [lexFrom_cons, hstep]
  rfl

lemma ends_elementsText (n : Nat) (vs : List Value) (cs : List Char) :
    Ends (elementsText L (n + 1) vs ++ (L.newline n ++ (']' :: cs))) := by
  cases vs with
  | nil =>
    rw [elementsText, List.nil_append]
    exact ends_append (L.newline_blank n) (ends_cons (by simp) cs)
  | cons v vs => exact ends_cons (by simp) _

lemma ends_membersText (n : Nat) (ms : List (String × Value)) (cs : List Char) :
    Ends (membersText L (n + 1) ms ++ (L.newline n ++ ('\x7d' :: cs))) := by
  cases ms with
  | nil =>
    rw [membersText, List.nil_append]
    exact ends_append (L.newline_blank n) (ends_cons (by simp) cs)
  | cons m ms => exact ends_cons (by simp) _

mutual

/-- By induction on the document: what stands behind it goes on between two tokens. -/
lemma lexFrom_text (n : Nat) (v : Value) (hv : numeric v) {cs : List Char} (hcs : Ends cs) :
    lexFrom .between (text L n v ++ cs) = (lexFrom .between cs).map (tokens v ++ ·) := by
  match v with
  | .null => exact lexFrom_wordToken rfl hcs
  | .bool true => exact lexFrom_wordToken rfl hcs
  | .bool false => exact lexFrom_wordToken rfl hcs
  | .num literal =>
    have h := lexFrom_num hv hcs
    rwa [String.ofList_toList] at h
  | .str s => exact lexFrom_quote s cs
  | .arr [] =>
    simp only [text, List.cons_append, List.nil_append,
      lexFrom_mark (c := '[') (t := .lbracket) rfl, lexFrom_mark (c := ']') (t := .rbracket) rfl,
      Option.map_map]
    rfl
  | .obj [] =>
    simp only [text, List.cons_append, List.nil_append,
      lexFrom_mark (c := '\x7b') (t := .lbrace) rfl, lexFrom_mark (c := '\x7d') (t := .rbrace) rfl,
      Option.map_map]
    rfl
  | .arr (w :: ws) =>
    obtain ⟨hw, hws⟩ := Bool.and_eq_true_iff.mp hv
    have hend := ends_elementsText (L := L) n ws cs
    simp only [text, tokens, List.cons_append, List.append_assoc, List.nil_append,
      lexFrom_mark (c := '[') (t := .lbracket) rfl, lexFrom_blanks (L.newline_blank _),
      lexFrom_text (n + 1) w hw hend, lexFrom_elementsText n ws hws, Option.map_map]
    rfl
  | .obj (m :: ms) =>
    obtain ⟨hm, hms⟩ := Bool.and_eq_true_iff.mp hv
    have hend := ends_membersText (L := L) n ms cs
    simp only [text, tokens, List.cons_append, List.append_assoc, List.nil_append,
      lexFrom_mark (c := '\x7b') (t := .lbrace) rfl, lexFrom_blanks (L.newline_blank _),
      lexFrom_memberText (n + 1) m hm hend, lexFrom_membersText n ms hms, Option.map_map]
    rfl

lemma lexFrom_elementsText (n : Nat) (vs : List Value) (hvs : numerics vs) {cs : List Char} :
    lexFrom .between (elementsText L (n + 1) vs ++ (L.newline n ++ (']' :: cs)))
      = (lexFrom .between cs).map (elementTokens vs ++ .rbracket :: ·) := by
  match vs with
  | [] =>
    simp only [elementsText, elementTokens, List.nil_append, lexFrom_blanks (L.newline_blank _),
      lexFrom_mark (c := ']') (t := .rbracket) rfl]
  | w :: ws =>
    obtain ⟨hw, hws⟩ := Bool.and_eq_true_iff.mp hvs
    have hend := ends_elementsText (L := L) n ws cs
    simp only [elementsText, elementTokens, List.cons_append, List.append_assoc,
      lexFrom_mark (c := ',') (t := .comma) rfl, lexFrom_blanks (L.newline_blank _),
      lexFrom_text (n + 1) w hw hend, lexFrom_elementsText n ws hws, Option.map_map]
    rfl

lemma lexFrom_memberText (n : Nat) (m : String × Value) (hm : numeric m.2) {cs : List Char}
    (hcs : Ends cs) :
    lexFrom .between (memberText L n m ++ cs)
      = (lexFrom .between cs).map (memberTokens m ++ ·) := by
  match m with
  | (k, v) =>
    simp only [memberText, memberTokens, List.append_assoc, List.cons_append, lexFrom_quote,
      lexFrom_mark (c := ':') (t := .colon) rfl, lexFrom_blanks L.gap_blank,
      lexFrom_text n v hm hcs, Option.map_map]
    rfl

lemma lexFrom_membersText (n : Nat) (ms : List (String × Value)) (hms : memberNumerics ms)
    {cs : List Char} :
    lexFrom .between (membersText L (n + 1) ms ++ (L.newline n ++ ('\x7d' :: cs)))
      = (lexFrom .between cs).map (membersTokens ms ++ .rbrace :: ·) := by
  match ms with
  | [] =>
    simp only [membersText, membersTokens, List.nil_append, lexFrom_blanks (L.newline_blank _),
      lexFrom_mark (c := '\x7d') (t := .rbrace) rfl]
  | m :: ms =>
    obtain ⟨hm, hms⟩ := Bool.and_eq_true_iff.mp hms
    have hend := ends_membersText (L := L) n ms cs
    simp only [membersText, membersTokens, List.cons_append, List.append_assoc,
      lexFrom_mark (c := ',') (t := .comma) rfl, lexFrom_blanks (L.newline_blank _),
      lexFrom_memberText (n + 1) m hm hend, lexFrom_membersText n ms hms, Option.map_map]
    rfl

end

/-! ### The characters of a text -/

/-- No control character. -/
def IsPrintable (cs : List Char) : Prop := ∀ c ∈ cs, 0x20 ≤ c.toNat

instance : DecidablePred IsPrintable := List.decidableBAll fun c : Char => 0x20 ≤ c.toNat

lemma IsPrintable.append {xs ys : List Char} (hxs : IsPrintable xs) (hys : IsPrintable ys) :
    IsPrintable (xs ++ ys) := List.forall_mem_append.mpr ⟨hxs, hys⟩

lemma IsPrintable.cons {c : Char} {cs : List Char} (hcs : IsPrintable cs) (hc : 0x20 ≤ c.toNat) :
    IsPrintable (c :: cs) := List.forall_mem_cons.mpr ⟨hc, hcs⟩

lemma isPrintable_nil : IsPrintable [] := List.forall_mem_nil _

lemma isPrintable_unicodeEscape (n : Nat) : IsPrintable (unicodeEscape n) := by
  have hdigit : ∀ m < 16, 0x20 ≤ (hexDigit m).toNat := by decide
  have hover : ∀ m, 16 ≤ m → hexDigit m = '0' := by
    intro m hm
    have hlength : "0123456789abcdef".toList.length = 16 := rfl
    rw [hexDigit, List.getD_eq_getElem?_getD, List.getElem?_eq_none (by omega), Option.getD_none]
  have hall : ∀ m, 0x20 ≤ (hexDigit m).toNat := by
    intro m
    rcases Nat.lt_or_ge m 16 with hm | hm
    · exact hdigit m hm
    · rw [hover m hm]
      decide
  simp [IsPrintable, unicodeEscape, hall]

lemma isPrintable_escape (c : Char) : IsPrintable (escape c) := by
  rw [escape]
  split_ifs with hself hb hf hn hr ht hcode
  · rcases hself with rfl | rfl <;> simp [IsPrintable]
  all_goals try simp [IsPrintable]
  · exact isPrintable_unicodeEscape c.toNat
  · simp only [not_or, Nat.not_lt] at hcode
    exact hcode.1

lemma isPrintable_quote (s : String) : IsPrintable (quote s) := by
  have hbody : IsPrintable (s.toList.flatMap escape) := by
    intro c hc
    obtain ⟨d, -, hd⟩ := List.mem_flatMap.mp hc
    exact isPrintable_escape d c hd
  exact (hbody.append (isPrintable_nil.cons (by decide))).cons (by decide)

lemma isPrintable_literal {literal : List Char} (h : isNumber literal) : IsPrintable literal := by
  intro c hc
  by_contra hctrl
  have hchar := isNumberChar_of_isNumber h c hc
  simp only [isNumberChar, Char.isDigit, Bool.or_eq_true, Bool.and_eq_true,
    decide_eq_true_eq] at hchar
  have hlow : ∀ d : Char, 0x20 ≤ d.toNat → c ≠ d := by
    rintro d hd rfl
    exact hctrl hd
  rcases hchar with ((((⟨hzero, -⟩ | h) | h) | h) | h) | h
  · have : '0'.toNat ≤ c.toNat := hzero
    exact hctrl (le_trans (by decide) this)
  all_goals exact hlow _ (by decide) h

mutual

/-- A text in one line has no control character: those of the strings are escaped. -/
lemma isPrintable_text (n : Nat) (v : Value) (hv : numeric v) :
    IsPrintable (text .compact n v) := by
  match v with
  | .null | .bool true | .bool false => simp only [text]; decide
  | .num literal => exact isPrintable_literal hv
  | .str s => exact isPrintable_quote s
  | .arr [] | .obj [] => simp [text, IsPrintable]
  | .arr (w :: ws) =>
    obtain ⟨hw, hws⟩ := Bool.and_eq_true_iff.mp hv
    exact ((isPrintable_text (n + 1) w hw).append ((isPrintable_elementsText (n + 1) ws hws).append
      (isPrintable_nil.cons (by decide)))).cons (by decide)
  | .obj (m :: ms) =>
    obtain ⟨hm, hms⟩ := Bool.and_eq_true_iff.mp hv
    exact ((isPrintable_memberText (n + 1) m hm).append
      ((isPrintable_membersText (n + 1) ms hms).append
        (isPrintable_nil.cons (by decide)))).cons (by decide)

lemma isPrintable_elementsText (n : Nat) (vs : List Value) (hvs : numerics vs) :
    IsPrintable (elementsText .compact n vs) := by
  match vs with
  | [] => exact isPrintable_nil
  | w :: ws =>
    obtain ⟨hw, hws⟩ := Bool.and_eq_true_iff.mp hvs
    exact ((isPrintable_text n w hw).append (isPrintable_elementsText n ws hws)).cons (by decide)

lemma isPrintable_memberText (n : Nat) (m : String × Value) (hm : numeric m.2) :
    IsPrintable (memberText .compact n m) := by
  match m with
  | (k, v) => exact (isPrintable_quote k).append ((isPrintable_text n v hm).cons (by decide))

lemma isPrintable_membersText (n : Nat) (ms : List (String × Value)) (hms : memberNumerics ms) :
    IsPrintable (membersText .compact n ms) := by
  match ms with
  | [] => exact isPrintable_nil
  | m :: ms =>
    obtain ⟨hm, hms⟩ := Bool.and_eq_true_iff.mp hms
    exact ((isPrintable_memberText n m hm).append (isPrintable_membersText n ms hms)).cons
      (by decide)

end

/-- The text of a document is read as that document, with any blanks behind it. -/
theorem decode_text {v : Value} (hv : numeric v) {blanks : List Char}
    (hblanks : ∀ c ∈ blanks, isBlank c) :
    decode (String.ofList (text L 0 v ++ blanks)) = some v := by
  have hend : Ends blanks := by simpa using ends_append hblanks ends_nil
  have hlex : lexFrom .between blanks = some [] := by
    simpa [lexFrom_nil, State.token] using lexFrom_blanks hblanks []
  rw [decode_ofList, lexFrom_text 0 v hv hend, hlex]
  simp

theorem decode_encode {v : Value} (hv : numeric v) : decode (encode L v) = some v := by
  have h := decode_text (L := L) hv (List.forall_mem_nil (isBlank · = true))
  rwa [List.append_nil] at h

/-- The text of a document is not empty. -/
lemma encode_ne {v : Value} (hv : numeric v) : encode L v ≠ "" := by
  intro h
  have hdecode := decode_encode (L := L) hv
  have hempty : decode "" = none := by decide
  rw [h, hempty] at hdecode
  cases hdecode

end Read

/-! ### Cut texts -/

section Cut

variable {L : Layout} {ms : List (String × Value)}

/-- No token ends in the middle of one and is a document's last one but a number or a word. -/
lemma token_of_state {st : State} {last : List Token} (h : st.token = some last) :
    last = [] ∨ ∃ t, last = [t] ∧ t ≠ .rbrace := by
  cases st with
  | between =>
    cases h
    exact Or.inl rfl
  | string units esc => cases h
  | number literal =>
    simp only [State.token, Option.ite_none_right_eq_some, Option.some.injEq] at h
    exact Or.inr ⟨_, h.2.symm, by simp⟩
  | word letters =>
    obtain ⟨t, ht, rfl⟩ := Option.map_eq_some_iff.mp h
    refine Or.inr ⟨t, rfl, ?_⟩
    rintro rfl
    simp only [wordToken] at ht
    split_ifs at ht <;> cases ht

/-- Where a brace is read at the end, a token was read. -/
lemma lexFrom_rbrace {st : State} {toks : List Token} (h : lexFrom st ['\x7d'] = some toks) :
    toks ≠ [] := by
  obtain ⟨st', now, later, hstep, hlater, rfl⟩ := lexFrom_cons_eq_some h
  rw [lexFrom_nil] at hlater
  have hleave : leave st '\x7d' = some (st', now) → now ≠ [] := by
    intro hleft
    obtain ⟨toks, -, hleft⟩ := Option.bind_eq_some_iff.mp hleft
    cases hleft
    simp
  cases st with
  | between =>
    cases hstep
    simp
  | string units esc =>
    cases esc with
    | none =>
      cases hstep
      cases hlater
    | backslash => cases hstep
    | hex left value => cases hstep
  | number literal => simp [hleave hstep]
  | word letters => simp [hleave hstep]

lemma text_obj_ends (n : Nat) (ms : List (String × Value)) :
    ∃ cs, text L n (.obj ms) = '\x7b' :: (cs ++ ['\x7d']) := by
  cases ms with
  | nil => exact ⟨[], rfl⟩
  | cons m ms =>
    refine ⟨L.newline (n + 1) ++ (memberText L (n + 1) m ++
      (membersText L (n + 1) ms ++ L.newline n)), ?_⟩
    simp [text]

lemma tokens_obj_ends (ms : List (String × Value)) :
    ∃ ts, tokens (.obj ms) = ts ++ [.rbrace] := by
  cases ms with
  | nil => exact ⟨[.lbrace], rfl⟩
  | cons m ms =>
    refine ⟨.lbrace :: (memberTokens m ++ membersTokens ms), ?_⟩
    simp [tokens]

/-- A front of an object's text was read up to its brace at least. -/
lemma scan_lbrace {cs : List Char} {st : State} {toks : List Token}
    (h : scan .between ('\x7b' :: cs) = some (st, toks)) : ∃ later, toks = .lbrace :: later := by
  have hopen : step .between '\x7b' = some (.between, [.lbrace]) := rfl
  rw [scan_cons, hopen, Option.bind_some] at h
  obtain ⟨q, -, hq⟩ := Option.map_eq_some_iff.mp h
  cases hq
  exact ⟨q.2, rfl⟩

/-- What starts with a brace ends with one. -/
lemma tokens_of_lbrace {w : Value} {later : List Token} (h : tokens w = .lbrace :: later) :
    ∃ ts, tokens w = ts ++ [.rbrace] := by
  rcases w with _ | _ | _ | _ | (_ | _) | ms
  case obj => exact tokens_obj_ends ms
  all_goals simp [tokens] at h

/-- By the tokens: those of the cut text would be all of the object's, with a brace left over. -/
lemma eq_of_decode_cut (hms : numeric (.obj ms)) {cs : List Char} {w : Value}
    (hcut : cs <+: text L 0 (.obj ms)) (h : decode (String.ofList cs) = some w) :
    cs = text L 0 (.obj ms) := by
  obtain ⟨ds, hds⟩ := hcut
  obtain ⟨inner, htext⟩ := text_obj_ends (L := L) 0 ms
  rcases ds.eq_nil_or_concat with rfl | ⟨es, d, rfl⟩
  · rw [← hds, List.append_nil]
  exfalso
  rw [List.concat_eq_append] at hds
  -- the last character is the brace, the first one too unless all is cut off
  obtain ⟨hfront, rfl⟩ : cs ++ es = '\x7b' :: inner ∧ d = '\x7d' := by
    rw [htext, ← List.append_assoc, ← List.cons_append] at hds
    exact (List.append_inj' hds rfl).imp_right List.singleton_inj.mp
  have hw := decode_ofList.mp h
  have hv : lexFrom .between (cs ++ (es ++ ['\x7d'])) = some (tokens (.obj ms)) := by
    rw [hds]
    have hv := lexFrom_text (L := L) 0 (.obj ms) hms ends_nil
    simpa [lexFrom_nil, State.token] using hv
  rw [← List.append_nil cs, lexFrom_append] at hw
  obtain ⟨⟨st, toks⟩, hscan, hw⟩ := Option.bind_eq_some_iff.mp hw
  obtain ⟨last, hlast, hw⟩ := Option.map_eq_some_iff.mp hw
  rw [lexFrom_append, hscan, Option.bind_some] at hv
  obtain ⟨rest, hrest, hv⟩ := Option.map_eq_some_iff.mp hv
  rw [lexFrom_nil] at hlast
  have hrestne : rest ≠ [] := by
    rw [lexFrom_append] at hrest
    obtain ⟨⟨st', toks'⟩, -, hrest⟩ := Option.bind_eq_some_iff.mp hrest
    obtain ⟨brace, hbrace, rfl⟩ := Option.map_eq_some_iff.mp hrest
    simp [lexFrom_rbrace hbrace]
  have hlastnil : last = [] := by
    rcases token_of_state hlast with hnil | ⟨t, rfl, ht⟩
    · exact hnil
    -- the document starts with a brace, so it ends with one
    rcases cs with _ | ⟨c, cs⟩
    · cases hscan
      cases hlast
    obtain rfl := (List.cons.inj hfront).1
    obtain ⟨later, rfl⟩ := scan_lbrace hscan
    obtain ⟨ts, hts⟩ := tokens_of_lbrace hw.symm
    rw [hts] at hw
    exact absurd (List.singleton_inj.mp (List.append_inj' hw rfl).2) ht
  subst hlastnil
  rw [List.append_nil] at hw
  exact hrestne (tokens_append (hv.symm.trans (by rw [hw])))

/-- A text of an object that was cut off is no document, unless only blanks behind the object are
missing. -/
theorem decode_cut (hms : numeric (.obj ms)) {blanks cs : List Char} {w : Value}
    (hblanks : ∀ c ∈ blanks, isBlank c) (hcut : cs <+: text L 0 (.obj ms) ++ blanks) :
    decode (String.ofList cs) = some w ↔ text L 0 (.obj ms) <+: cs ∧ w = .obj ms := by
  have hwhole {cs : List Char} (hcut : cs <+: text L 0 (.obj ms) ++ blanks)
      (h : text L 0 (.obj ms) <+: cs) : decode (String.ofList cs) = some (.obj ms) := by
    obtain ⟨es, rfl⟩ := h
    rw [List.prefix_append_right_inj] at hcut
    exact decode_text hms fun c hc => hblanks c (hcut.subset hc)
  constructor
  · intro h
    have hwritten : text L 0 (.obj ms) <+: cs := by
      rcases List.prefix_or_prefix_of_prefix hcut (List.prefix_append _ _) with hle | hle
      · rw [eq_of_decode_cut hms hle h]
      · exact hle
    refine ⟨hwritten, ?_⟩
    rw [hwhole hcut hwritten] at h
    exact (Option.some.inj h).symm
  · rintro ⟨hwritten, rfl⟩
    exact hwhole hcut hwritten

end Cut

end GoLib.JsonText

namespace GoLib.JsonDecode

open JsonText Strings

universe u v

/-! ### Codecs -/

/-- An encoding of the values of a type, and the decoding in place that inverts it. -/
structure Codec (τ : Type u) where
  encode : τ → Value
  decode : Decoder τ
  /-- How deep the encodings are nested at most. -/
  height : Nat
  decode_encode : ∀ a old, decode (encode a) old = (a, none)
  numeric_encode : ∀ a, numeric (encode a)
  depth_encode : ∀ a, depth (encode a) ≤ height

/-- A field of a struct that is encoded too; `put a` copies the field from `a`. -/
structure Member (σ : Type u) extends StructField σ where
  encode : σ → Value
  put : σ → σ → σ
  height : Nat
  decode_encode : ∀ a s, decode (encode a) s = (put a s, none)
  numeric_encode : ∀ a, numeric (encode a)
  depth_encode : ∀ a, depth (encode a) ≤ height

variable {σ : Type u} {τ : Type v}

def Member.of (name : String) (get : σ → τ) (set : τ → σ → σ) (c : Codec τ) : Member σ where
  toStructField := .of name get set c.decode
  encode a := c.encode (get a)
  put a s := set (get a) s
  height := c.height
  decode_encode a s := by simp [StructField.of, c.decode_encode]
  numeric_encode a := c.numeric_encode (get a)
  depth_encode a := c.depth_encode (get a)

namespace Codec

def string : Codec String where
  encode := .str
  decode := JsonDecode.string
  height := 0
  decode_encode _ _ := rfl
  numeric_encode _ := rfl
  depth_encode _ := le_rfl

def bool : Codec Bool where
  encode := .bool
  decode := JsonDecode.bool
  height := 0
  decode_encode _ _ := rfl
  numeric_encode _ := rfl
  depth_encode _ := le_rfl

/-- Integers of a width that `ofInt` checks. -/
def integer (toInt : τ → Int) (ofInt : Int → Option τ) (hofInt : ∀ a, ofInt (toInt a) = some a)
    (hrange : ∀ a, -9223372036854775808 ≤ toInt a ∧ toInt a ≤ 9223372036854775807) : Codec τ where
  encode a := .num (intDigits (toInt a))
  decode v old :=
    match v with
    | .num literal =>
      match (atoi literal).bind ofInt with
      | some a => (a, none)
      | none => (old, some .mismatch)
    | .null => (old, none)
    | _ => (old, some .mismatch)
  height := 0
  decode_encode a old := by
    simp [atoi_intDigits (hrange a).1 (hrange a).2, hofInt]
  numeric_encode a := isNumber_intDigits (toInt a)
  depth_encode _ := le_rfl

def int64 : Codec Int64 :=
  integer Int64.toInt (fun i => some (Int64.ofInt i)) (by simp)
    fun i => ⟨Int64.le_toInt i, Int64.toInt_le i⟩

def int32 : Codec Int32 :=
  integer Int32.toInt
    (fun i => if -2147483648 ≤ i ∧ i ≤ 2147483647 then some (Int32.ofInt i) else none)
    (fun i => by
      have hle := Int32.le_toInt i
      have hlt := Int32.toInt_lt i
      rw [if_pos (by omega), Int32.ofInt_toInt])
    fun i => by
      have hle := Int32.le_toInt i
      have hlt := Int32.toInt_lt i
      omega

/-- An unsigned integer below the bound. -/
def uint (bound : Nat) (toNat : τ → Nat) (ofNat : Nat → τ) (hofNat : ∀ a, ofNat (toNat a) = a)
    (hbound : ∀ a, toNat a < bound) : Codec τ where
  encode a := .num (natDigits (toNat a))
  decode := JsonDecode.uint bound ofNat
  height := 0
  decode_encode a old := by
    have hdigits : unsigned (natDigits (toNat a)).toList = some (toNat a) := by
      rw [natDigits, String.toList_ofList, unsigned_toDigits]
    simp [JsonDecode.uint, hdigits, hbound, hofNat]
  numeric_encode a := by
    have h := isNumber_intDigits (toNat a)
    rwa [intDigits, if_neg (by omega), Int.natAbs_natCast] at h
  depth_encode _ := le_rfl

/-- A nil pointer is null. -/
def pointer (zero : τ) (c : Codec τ) (hnull : ∀ a, c.encode a ≠ .null) : Codec (Option τ) where
  encode
    | none => .null
    | some a => c.encode a
  decode v old :=
    match v with
    | .null => (none, none)
    | v => (c.decode v (old.getD zero)).map some id
  height := c.height
  decode_encode a old := by
    cases a with
    | none => rfl
    | some a =>
      have h := c.decode_encode a (old.getD zero)
      simp only
      split
      · next heq => exact absurd heq (hnull a)
      · rw [h]; rfl
  numeric_encode a := by
    cases a with
    | none => rfl
    | some a => exact c.numeric_encode a
  depth_encode a := by
    cases a with
    | none => exact Nat.zero_le _
    | some a => exact c.depth_encode a

/-! ### Slices -/

lemma elements_map (c : Codec τ) (zero : τ) (as done : List τ) :
    elements zero c.decode (as.map c.encode) done = (done ++ as, none) := by
  induction as generalizing done with
  | nil => simp [elements]
  | cons a as ih => simp [elements, c.decode_encode, ih, firstError]

lemma numerics_map (c : Codec τ) (as : List τ) : numerics (as.map c.encode) := by
  induction as with
  | nil => rfl
  | cons a as ih => simp [numerics, c.numeric_encode, ih]

lemma depths_map (c : Codec τ) (as : List τ) : depths (as.map c.encode) ≤ c.height := by
  induction as with
  | nil => exact Nat.zero_le _
  | cons a as ih => exact max_le (c.depth_encode a) ih

/-- A slice that is not nil. -/
def slice (zero : τ) (c : Codec τ) : Codec (List τ) where
  encode as := .arr (as.map c.encode)
  decode := JsonDecode.slice zero c.decode
  height := c.height + 1
  decode_encode as old := by simp [JsonDecode.slice, elements_map]
  numeric_encode as := numerics_map c as
  depth_encode as := Nat.succ_le_succ (depths_map c as)

/-- A slice that may be nil, which is null. -/
def nilSlice (zero : τ) (c : Codec τ) : Codec (Option (List τ)) where
  encode
    | none => .null
    | some as => .arr (as.map c.encode)
  decode v old :=
    match v with
    | .null => (none, none)
    | .arr vs => (elements zero c.decode vs []).map some id
    | _ => (old, some .mismatch)
  height := c.height + 1
  decode_encode as old := by
    cases as with
    | none => rfl
    | some as => simp [elements_map]
  numeric_encode as := by
    cases as with
    | none => rfl
    | some as => exact numerics_map c as
  depth_encode as := by
    cases as with
    | none => exact Nat.zero_le _
    | some as => exact Nat.succ_le_succ (depths_map c as)

/-! ### Structs -/

/-- The members of an object are decoded into the fields that they were encoded from. -/
lemma members_map {fields : List (StructField σ)} {ms : List (Member σ)}
    (h : ∀ m ∈ ms, fieldFor fields m.name = some m.toStructField) (a s : σ) :
    members fields (ms.map fun m => (m.name, m.encode a)) s
      = (ms.foldl (fun s m => m.put a s) s, none) := by
  induction ms generalizing s with
  | nil => rfl
  | cons m ms ih =>
    obtain ⟨hm, hms⟩ := List.forall_mem_cons.mp h
    simp [members, hm, m.decode_encode, ih hms, firstError]

lemma find?_name {ms : List (Member σ)} (hnames : (ms.map (·.name)).Nodup) {m : Member σ}
    (hm : m ∈ ms) :
    (ms.map (·.toStructField)).find? (·.name = m.name) = some m.toStructField := by
  induction ms with
  | nil => cases hm
  | cons m' ms ih =>
    obtain ⟨hnot, hnames⟩ := List.nodup_cons.mp hnames
    rcases List.mem_cons.mp hm with rfl | hm
    · simp
    · have hne : m'.name ≠ m.name := fun heq =>
        hnot (List.mem_map.mpr ⟨m, hm, heq.symm⟩)
      simpa [hne] using ih hnames hm

lemma memberNumerics_map (ms : List (Member σ)) (a : σ) :
    memberNumerics (ms.map fun m => (m.name, m.encode a)) := by
  induction ms with
  | nil => rfl
  | cons m ms ih => simp [memberNumerics, m.numeric_encode, ih]

lemma memberDepths_map (ms : List (Member σ)) (a : σ) :
    memberDepths (ms.map fun m => (m.name, m.encode a)) ≤ (ms.map (·.height)).foldr max 0 := by
  induction ms with
  | nil => exact Nat.zero_le _
  | cons m ms ih =>
    have hm := m.depth_encode a
    simp only [List.map_cons, memberDepths, List.foldr_cons]
    omega

/-- Some of the members of a struct are decoded into their fields, whatever the order. -/
lemma decode_struct {ms written : List (Member σ)} (hnames : (ms.map (·.name)).Nodup)
    (hwritten : ∀ m ∈ written, m ∈ ms) (a s : σ) :
    JsonDecode.struct (ms.map (·.toStructField))
        (.obj (written.map fun m => (m.name, m.encode a))) s
      = (written.foldl (fun s m => m.put a s) s, none) := by
  have hfields : ∀ m ∈ written, fieldFor (ms.map (·.toStructField)) m.name =
      some m.toStructField :=
    fun m hm => by rw [fieldFor, find?_name hnames (hwritten m hm), Option.some_or]
  rw [JsonDecode.struct, members_map hfields]

/-- A struct whose fields differ in name, and together are all of it. -/
def struct (ms : List (Member σ)) (hnames : (ms.map (·.name)).Nodup)
    (hput : ∀ a s, ms.foldl (fun s m => m.put a s) s = a) : Codec σ where
  encode a := .obj (ms.map fun m => (m.name, m.encode a))
  decode := JsonDecode.struct (ms.map (·.toStructField))
  height := (ms.map (·.height)).foldr max 0 + 1
  decode_encode a s := by rw [decode_struct hnames (fun _ => id), hput]
  numeric_encode a := memberNumerics_map ms a
  depth_encode a := Nat.succ_le_succ (memberDepths_map ms a)

/-! ### Texts -/

lemma document_text (c : Codec σ) (L : Layout) (hc : c.height ≤ JsonStream.maxNestingDepth) (a : σ)
    {blanks : List Char} (hblanks : ∀ d ∈ blanks, isBlank d) :
    document (String.ofList (text L 0 (c.encode a) ++ blanks)) = some (c.encode a) := by
  rw [document, decode_text (c.numeric_encode a) hblanks, Option.filter_some,
    if_pos (by simpa using (c.depth_encode a).trans hc)]

lemma document_encode (c : Codec σ) (L : Layout) (hc : c.height ≤ JsonStream.maxNestingDepth)
    (a : σ) : document (JsonText.encode L (c.encode a)) = some (c.encode a) := by
  have h := c.document_text L hc a (List.forall_mem_nil (isBlank · = true))
  rwa [List.append_nil] at h

/-- `json.Unmarshal` inverts the encoding, whatever was in the target. -/
theorem unmarshal_encode (c : Codec σ) (L : Layout) (hc : c.height ≤ JsonStream.maxNestingDepth)
    (a s : σ) : unmarshal c.decode (JsonText.encode L (c.encode a)) s = (a, none) := by
  rw [unmarshal, c.document_encode L hc]
  exact c.decode_encode a s

/-- `json.Marshal`. -/
def marshal (c : Codec σ) (a : σ) : String := JsonText.encode .compact (c.encode a)

lemma document_marshal (c : Codec σ) (hc : c.height ≤ JsonStream.maxNestingDepth) (a : σ) :
    document (c.marshal a) = some (c.encode a) := c.document_encode .compact hc a

lemma isPrintable_marshal (c : Codec σ) (a : σ) : IsPrintable (c.marshal a).toList := by
  rw [marshal, JsonText.encode, String.toList_ofList]
  exact isPrintable_text 0 _ (c.numeric_encode a)

end Codec

end GoLib.JsonDecode
