import HiddifyCore.GoLib.RegexpMap
import Mathlib.Data.List.TakeWhile

/-!
# Lowering the text of an expression

What `strings.ToLower` makes of the text of an expression, piece by piece. Punctuation and digits
stay, and so does the place where a piece ends, but the letter of an escape is another escape when
it is lowered, and the ends of a range can change places.
-/

namespace GoLib.Regexp

/-- Lowering as `unicode.ToLower` does it. Besides the capital letters only two other characters,
`İ` and the sign of the Kelvin, become a letter of ASCII. The names of the Unicode tables begin
with a capital letter. -/
structure Lowers (lower : Char → Char) (isTable : String → Bool) : Prop where
  ascii : ∀ c, c.toNat < 128 → lower c = c.toLower
  other : ∀ c, 128 ≤ c.toNat → 128 ≤ (lower c).toNat ∨ lower c = 'i' ∨ lower c = 'k'
  table : ∀ name : List Char, isTable (String.ofList (name.map lower)) = false

/-- A character of ASCII that is no letter. -/
def isPlain (c : Char) : Bool := c.toNat < 128 && !c.isAlpha

/-- A character of ASCII that is no capital letter. -/
def isLow (c : Char) : Bool := c.toNat < 128 && !c.isUpper

/-! ### What is lowered -/

section Map

variable (f : Char → Char)

def Point.map : Point → Point
  | .char c => .char (f c)
  | .code n => .code n

def ClassItem.map : ClassItem → ClassItem
  | .range lo hi => .range (lo.map f) (hi.map f)
  | .perl c => .perl (f c)
  | .posix neg name => .posix neg name
  | .table neg name => .table neg name

def CharClass.map (a : CharClass) : CharClass := { a with items := a.items.map (·.map f) }

/-- The item that the lowered text is read as. -/
def ClassItem.lower? : ClassItem → Option ClassItem
  | .range lo hi =>
    if (hi.map f).value < (lo.map f).value then none else some (.range (lo.map f) (hi.map f))
  | .perl c => some (.perl (f c))
  | .posix neg name => some (.posix neg name)
  | .table _ _ => none

def CharClass.lower? (a : CharClass) : Option CharClass :=
  (a.items.mapM (ClassItem.lower? f)).map fun items => { a with items := items }

/-- The token that the lowered text is read as. The text `\a` is the bell. -/
def Token.lower? : Token → Option Token
  | .atom a => (a.lower? f).map .atom
  | .quote _ => none
  | .beginText => some (.atom (.ofPoint (.code 7)))
  | .boundary _ => some (.boundary false)
  | .named withP => if withP then none else some (.named false)
  | .openFlags fs =>
    if fs.all fun (flag, _) => flag ≠ .nonGreedy then some (.openFlags fs) else none
  | .setFlags fs =>
    if fs.all fun (flag, _) => flag ≠ .nonGreedy then some (.setFlags fs) else none
  | t => some t

/-- What was read, and the rest of the text. -/
def onRest {α : Type} (g : α → α) : Option (α × List Char) → Option (α × List Char) :=
  Option.map (Prod.map g (List.map f))

end Map

/-- A property of all characters of ASCII, checked one by one. -/
lemma ascii_forall {P : Char → Prop} (h : ∀ n < 128, P (Char.ofNat n)) {c : Char}
    (hc : c.toNat < 128) : P c := by
  have := h c.toNat hc
  rwa [Char.ofNat_toNat] at this

lemma toLower_plain {c : Char} (hc : c.toNat < 128) :
    c.toLower = c ∨ (c.isAlpha = true ∧ c.toLower.isAlpha = true) :=
  ascii_forall (P := fun c => c.toLower = c ∨ (c.isAlpha = true ∧ c.toLower.isAlpha = true))
    (by decide) hc

lemma not_le_of_ascii {c : Char} (p : Char) (hp : p.toNat < 128)
    (hc : 128 ≤ c.toNat) : ¬ c ≤ p := by
  intro hle
  have : c.toNat ≤ p.toNat := hle
  omega

/-- The escapes for the classes of Perl stay such escapes. -/
lemma perl_lt {c : Char} (hc : isPerl c = true) : c.toNat < 128 := by
  simp only [isPerl, List.mem_cons, List.not_mem_nil, or_false, decide_eq_true_eq] at hc
  obtain rfl | rfl | rfl | rfl | rfl | rfl := hc <;> decide

lemma perl_lower {c : Char} (hc : isPerl c = true) :
    ¬(c.toLower = 'p' ∨ c.toLower = 'P') ∧ isPerl c.toLower = true :=
  ascii_forall (P := fun c => isPerl c = true →
    ¬(c.toLower = 'p' ∨ c.toLower = 'P') ∧ isPerl c.toLower = true) (by decide) (perl_lt hc) hc

/-- The letter of a named class is that of no other escape. -/
lemma lexBackslash_named {isTable : String → Bool} {c : Char} {cs : List Char}
    {result : Option (ClassItem × List Char)}
    (hlex : lexNamedClass isTable (c :: cs) = some result) :
    lexBackslash isTable (c :: cs) =
      result.map fun (item, rest) => (.atom { items := [item] }, rest) := by
  have hne (d : Char) (hd : lexNamedClass isTable (d :: cs) = none) : c ≠ d := by
    rintro rfl
    rw [hd] at hlex
    cases hlex
  rw [lexBackslash, if_neg (hne 'A' rfl), if_neg (hne 'z' rfl), if_neg (hne 'b' rfl),
    if_neg (hne 'B' rfl), if_neg (hne 'Q' rfl)]
  simp only [hlex]

/-- Whether an escape names a class is seen from its letter. -/
lemma lexNamedClass_none {isTable : String → Bool} {c : Char} {cs : List Char}
    (hlex : lexNamedClass isTable (c :: cs) = none) (cs' : List Char) :
    lexNamedClass isTable (c :: cs') = none := by
  rw [lexNamedClass] at hlex ⊢
  split_ifs at hlex ⊢
  rfl

/-- An item that begins with an escape reads it. -/
lemma lexRange_escape {cs : List Char} {r : ClassItem × List Char}
    (hlex : lexRange ('\\' :: cs) = some r) : ∃ p, lexEscape cs = some p := by
  rw [lexRange, lexPoint, if_pos rfl] at hlex
  cases hp : lexEscape cs with
  | none => simp [hp] at hlex
  | some p => exact ⟨p, rfl⟩

lemma wordChar_lt {c : Char} (hc : isWordChar c = true) : c.toNat < 128 := by
  rcases Bool.or_eq_true_iff.mp hc with hc | hc
  · rcases Bool.or_eq_true_iff.mp hc with hc | hc
    · have hval : c.toNat = c.val.toNat := rfl
      have hZ : 'Z'.val.toNat = 90 := rfl
      have hz : 'z'.val.toNat = 122 := rfl
      rcases Bool.or_eq_true_iff.mp hc with hc | hc
      · have hle : c.val.toNat ≤ 'Z'.val.toNat := (of_decide_eq_true hc).2
        omega
      · have hle : c.val.toNat ≤ 'z'.val.toNat :=
          of_decide_eq_true (Bool.and_eq_true_iff.mp hc).2
        omega
    · have := (Char.isDigit_iff_toNat.mp hc).2
      have h9 : '9'.toNat = 57 := rfl
      omega
  · rw [of_decide_eq_true hc]
    decide

/-- The name of a table is lost. -/
lemma lexTable_item {f : Char → Char} {isTable : String → Bool} {neg : Bool}
    {cs rest : List Char} {i : ClassItem} (hlex : lexTable isTable neg cs = some (i, rest)) :
    i.lower? f = none := by
  cases cs with
  | nil => cases hlex
  | cons c cs =>
    rw [lexTable] at hlex
    split at hlex
    · split at hlex
      · cases hlex
      · split_ifs at hlex
        cases hlex
        rfl

/-- The names of the classes of POSIX stay. -/
lemma posixItem_lower? {f : Char → Char} {name : List Char} {i : ClassItem}
    (hi : posixItem name = some i) : i.lower? f = some i := by
  unfold posixItem at hi
  split_ifs at hi
  cases hi
  rfl

lemma flagOf_nonGreedy {c : Char} (hf : flagOf c = some .nonGreedy) : c = 'U' := by
  unfold flagOf at hf
  split_ifs at hf with hi hm hs hu
  · cases hf
  · cases hf
  · cases hf
  · exact hu

lemma strip_eq_some {p : Char} {cs rest : List Char} (hs : strip p cs = some rest) :
    cs = p :: rest := by
  cases cs with
  | nil => cases hs
  | cons c cs =>
    rw [strip] at hs
    split_ifs at hs with hc
    cases hs
    rw [hc]

lemma lexName_token {withP : Bool} {cs rest : List Char} {t : Token}
    (hlex : lexName withP cs = some (t, rest)) : t = .named withP := by
  simp only [lexName] at hlex
  split_ifs at hlex
  simp only [Option.map_eq_some_iff, Prod.mk.injEq] at hlex
  obtain ⟨rest', -, rfl, -⟩ := hlex
  rfl

/-- The flags that were read stay. -/
lemma lexFlags_lower? {f : Char → Char} {neg found : Bool} {fs : List (Flag × Bool)}
    {cs rest : List Char} {t : Token} (hlex : lexFlags neg found fs cs = some (t, rest))
    (hfs : fs.all (fun (flag, _) => flag ≠ .nonGreedy) = false) : t.lower? f = none := by
  induction cs generalizing neg found fs with
  | nil => cases hlex
  | cons c cs ih =>
    simp only [lexFlags] at hlex
    split_ifs at hlex
    · cases hlex
      simp only [Token.lower?, hfs]
      rfl
    · cases hlex
      simp only [Token.lower?, hfs]
      rfl
    · exact ih hlex hfs
    · cases hf : flagOf c with
      | none => simp [hf] at hlex
      | some flag =>
        simp only [hf] at hlex
        exact ih hlex (by rw [List.all_append, hfs, Bool.false_and])

namespace Lowers

variable {lower : Char → Char} {isTable : String → Bool} (h : Lowers lower isTable)
include h

/-! ### Characters -/

/-- Only a plain character becomes that character. -/
lemma eq_iff {c p : Char} (hp : isPlain p = true) : lower c = p ↔ c = p := by
  simp only [isPlain, Bool.and_eq_true, decide_eq_true_eq, Bool.not_eq_true'] at hp
  obtain ⟨hp, ha⟩ := hp
  rcases Nat.lt_or_ge c.toNat 128 with hc | hc
  · rw [h.ascii c hc]
    obtain heq | ⟨hca, hla⟩ := toLower_plain hc
    · rw [heq]
    · constructor
      · rintro rfl
        simp [hla] at ha
      · rintro rfl
        simp [hca] at ha
  · have hcp : c ≠ p := by
      rintro rfl
      omega
    simp only [hcp, iff_false]
    rintro rfl
    obtain hge | hi | hk := h.other c hc
    · omega
    · simp [hi] at ha
    · simp [hk] at ha

/-- What holds of no character beyond ASCII, nor of the letters that some of them become, is not
changed by lowering when it is not changed within ASCII. -/
lemma same {α : Type} {q : Char → α} (d : α)
    (hascii : ∀ n < 128, q (Char.ofNat n).toLower = q (Char.ofNat n)) (hi : q 'i' = d)
    (hk : q 'k' = d) (hother : ∀ c, 128 ≤ c.toNat → q c = d) (c : Char) :
    q (lower c) = q c := by
  rcases Nat.lt_or_ge c.toNat 128 with hc | hc
  · rw [h.ascii c hc]
    exact ascii_forall (P := fun c => q c.toLower = q c) hascii hc
  · rw [hother c hc]
    obtain hge | hl | hl := h.other c hc
    · exact hother _ hge
    · rw [hl, hi]
    · rw [hl, hk]

lemma isDigit (c : Char) : (lower c).isDigit = c.isDigit := by
  refine h.same false (by decide) rfl rfl (fun c hc => ?_) c
  rw [Bool.eq_false_iff]
  intro hd
  have := (Char.isDigit_iff_toNat.mp hd).2
  have h9 : '9'.toNat = 57 := rfl
  omega

lemma isOctal (c : Char) : isOctal (lower c) = isOctal c := by
  refine h.same false (by decide) rfl rfl (fun c hc => ?_) c
  simp [Regexp.isOctal, not_le_of_ascii '7' (by decide) hc]

lemma hexValue (c : Char) : hexValue (lower c) = hexValue c := by
  refine h.same none (by decide) rfl rfl (fun c hc => ?_) c
  have hd : c.isDigit = false := by
    rw [Bool.eq_false_iff]
    intro hd
    exact not_le_of_ascii '9' (by decide) hc (Char.isDigit_iff_toNat.mp hd).2
  simp [Regexp.hexValue, hd, not_le_of_ascii 'f' (by decide) hc, not_le_of_ascii 'F' (by decide) hc]

lemma self {c : Char} (hc : isLow c = true) : lower c = c := by
  have hlt : c.toNat < 128 := by
    simp only [isLow, Bool.and_eq_true, decide_eq_true_eq] at hc
    exact hc.1
  rw [h.ascii c hlt]
  exact ascii_forall (P := fun c => isLow c = true → c.toLower = c) (by decide) hlt hc

lemma of_isDigit {c : Char} (hc : c.isDigit = true) : lower c = c :=
  h.self (ascii_forall (P := fun c => c.isDigit = true → isLow c = true) (by decide)
    (Nat.lt_of_le_of_lt (Char.isDigit_iff_toNat.mp hc).2 (by decide)) hc)

lemma of_isOctal {c : Char} (hc : Regexp.isOctal c = true) : lower c = c := by
  simp only [Regexp.isOctal, decide_eq_true_eq] at hc
  exact h.of_isDigit (Char.isDigit_iff_toNat.mpr ⟨hc.1, Nat.le_trans hc.2 (by decide)⟩)

/-! ### Pieces of a text -/

lemma strip_map {p : Char} (hp : isPlain p = true) (cs : List Char) :
    strip p (cs.map lower) = (strip p cs).map (List.map lower) := by
  cases cs with
  | nil => rfl
  | cons c cs =>
    simp only [List.map_cons, strip, h.eq_iff hp]
    split_ifs <;> rfl

lemma lexInt_map (cs : List Char) : lexInt (cs.map lower) = onRest lower id (lexInt cs) := by
  have hd : Char.isDigit ∘ lower = Char.isDigit := funext h.isDigit
  have ht : (cs.takeWhile Char.isDigit).map lower = cs.takeWhile Char.isDigit := by
    conv_rhs => rw [← List.map_id (cs.takeWhile Char.isDigit)]
    exact List.map_congr_left fun c hc => h.of_isDigit (List.mem_takeWhile_imp hc)
  simp only [lexInt, List.takeWhile_map, List.dropWhile_map, hd, ht]
  split_ifs <;> rfl

lemma lexCount_map (cs : List Char) : lexCount (cs.map lower) = onRest lower id (lexCount cs) := by
  simp only [lexCount, h.lexInt_map]
  rcases lexInt cs with - | ⟨min, cs⟩
  · rfl
  · simp only [onRest, Option.map_some, Prod.map_apply, id, h.strip_map (p := ',') rfl,
      h.strip_map (p := '}') rfl]
    cases strip ',' cs with
    | none => cases strip '}' cs <;> rfl
    | some cs =>
      simp only [Option.map_some, h.strip_map (p := '}') rfl, h.lexInt_map]
      cases strip '}' cs with
      | some rest => rfl
      | none =>
        rcases lexInt cs with - | ⟨max, cs⟩
        · rfl
        · simp only [onRest, Option.map_some, Option.map_none, Prod.map_apply, id,
            h.strip_map (p := '}') rfl]
          cases strip '}' cs <;> rfl

lemma cutPosix_map (cs : List Char) :
    cutPosix (cs.map lower) = onRest lower (List.map lower) (cutPosix cs) := by
  induction cs with
  | nil => rfl
  | cons c cs ih =>
    simp only [List.map_cons, cutPosix, h.eq_iff (p := ':') rfl, h.strip_map (p := ']') rfl, ih]
    by_cases hc : c = ':'
    · simp only [hc, if_true]
      cases strip ']' cs with
      | none => cases cutPosix cs <;> simp [onRest]
      | some rest => rfl
    · simp only [hc, if_false]
      cases cutPosix cs <;> rfl

lemma lexOctal_map (k n : Nat) (cs : List Char) :
    lexOctal k n (cs.map lower) =
      Prod.map (Point.map lower) (List.map lower) (lexOctal k n cs) := by
  induction k generalizing n cs with
  | zero => rfl
  | succ k ih =>
    cases cs with
    | nil => rfl
    | cons c cs =>
      simp only [List.map_cons, lexOctal, h.isOctal]
      by_cases hc : Regexp.isOctal c
      · simp only [hc, if_true, ih]
        rw [h.of_isOctal hc]
      · simp only [hc]
        rfl

lemma lexBraced_map (found : Bool) (n : Nat) (cs : List Char) :
    lexBraced found n (cs.map lower) = onRest lower (Point.map lower) (lexBraced found n cs) := by
  induction cs generalizing found n with
  | nil => rfl
  | cons c cs ih =>
    simp only [List.map_cons, lexBraced, h.eq_iff (p := '}') rfl, h.hexValue]
    split_ifs
    · rfl
    · rfl
    · cases Regexp.hexValue c with
      | none => rfl
      | some v =>
        simp only [ih]
        split_ifs <;> rfl

lemma lexHex_map (cs : List Char) :
    lexHex (cs.map lower) = onRest lower (Point.map lower) (lexHex cs) := by
  simp only [lexHex, h.strip_map (p := '{') rfl]
  cases strip '{' cs with
  | some cs => exact h.lexBraced_map false 0 cs
  | none =>
    rcases cs with - | ⟨c, - | ⟨d, cs⟩⟩
    · rfl
    · rfl
    · simp only [List.map_cons, h.hexValue]
      cases Regexp.hexValue c <;> cases Regexp.hexValue d <;> rfl

/-! ### Escapes -/

lemma of_controlCode {c : Char} {n : Nat} (hc : controlCode c = some n) : lower c = c := by
  apply h.self
  unfold controlCode at hc
  split_ifs at hc with ha hf hn hr ht hv
  · rw [ha]; rfl
  · rw [hf]; rfl
  · rw [hn]; rfl
  · rw [hr]; rfl
  · rw [ht]; rfl
  · rw [hv]; rfl

/-- No escape for a character begins with a capital letter. -/
lemma of_lexEscape {c : Char} {cs : List Char} {r : Point × List Char}
    (hlex : lexEscape (c :: cs) = some r) : lower c = c := by
  rw [lexEscape] at hlex
  by_cases ho : Regexp.isOctal c
  · exact h.of_isOctal ho
  · rw [if_neg ho] at hlex
    by_cases hx : c = 'x'
    · rw [hx]
      exact h.self rfl
    · rw [if_neg hx] at hlex
      cases hn : controlCode c with
      | some n => exact h.of_controlCode hn
      | none =>
        simp only [hn] at hlex
        split_ifs at hlex with hp
        obtain ⟨hlt, ha⟩ := hp
        apply h.self
        exact ascii_forall (P := fun c => c.isAlphanum = false → isLow c = true) (by decide) hlt ha

lemma lexEscape_map {cs rest : List Char} {p : Point} (hlex : lexEscape cs = some (p, rest)) :
    lexEscape (cs.map lower) = some (p.map lower, rest.map lower) := by
  cases cs with
  | nil => cases hlex
  | cons c cs =>
    rw [List.map_cons, h.of_lexEscape hlex]
    rw [lexEscape] at hlex ⊢
    have hhead : ((cs.map lower).head?.all fun d => !Regexp.isOctal d) =
        cs.head?.all fun d => !Regexp.isOctal d := by
      cases cs with
      | nil => rfl
      | cons d cs => simp [h.isOctal]
    rw [hhead]
    by_cases ho : Regexp.isOctal c
    · rw [if_pos ho] at hlex ⊢
      split_ifs at hlex ⊢ with hd
      rw [h.lexOctal_map, Option.some.inj hlex]
      rfl
    · rw [if_neg ho] at hlex ⊢
      by_cases hx : c = 'x'
      · rw [if_pos hx] at hlex ⊢
        rw [h.lexHex_map, hlex]
        rfl
      · rw [if_neg hx] at hlex ⊢
        cases hn : controlCode c with
        | some n =>
          simp only [hn] at hlex ⊢
          cases hlex
          rfl
        | none =>
          simp only [hn] at hlex ⊢
          split_ifs at hlex ⊢
          cases hlex
          rfl

lemma lexPoint_map {cs rest : List Char} {p : Point} (hlex : lexPoint cs = some (p, rest)) :
    lexPoint (cs.map lower) = some (p.map lower, rest.map lower) := by
  cases cs with
  | nil => cases hlex
  | cons c cs =>
    simp only [List.map_cons, lexPoint, h.eq_iff (p := '\\') rfl] at hlex ⊢
    split_ifs at hlex ⊢
    · exact h.lexEscape_map hlex
    · cases hlex
      rfl

end Lowers

end GoLib.Regexp
