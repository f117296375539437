import Mathlib.Algebra.Group.Nat.Defs
import Mathlib.Data.List.Infix
import Mathlib.Tactic.Common

/-!
# Go strings

The functions of `strings`, `strconv` and `encoding/base64` that the developments over this
library use, computed on the list of characters so that the kernel can run them. `ToLower` is not
here: it needs the Unicode tables.
-/

namespace GoLib.Strings

/-- `strings.HasPrefix`. -/
def hasPrefix (s p : String) : Bool := p.toList.isPrefixOf s.toList

/-- `strings.TrimPrefix`. -/
def trimPrefix (s p : String) : String :=
  if hasPrefix s p then String.ofList (s.toList.drop p.toList.length) else s

/-- `strings.Contains`. -/
def contains (s sub : String) : Bool := s.toList.tails.any sub.toList.isPrefixOf

/-- `unicode.IsSpace`. -/
def isSpace (c : Char) : Bool :=
  c ∈ ['\t', '\n', '\x0b', '\x0c', '\r', ' ', '\u0085', '\u00a0', '\u1680', '\u2028', '\u2029',
    '\u202f', '\u205f', '\u3000'] ∨ ('\u2000' ≤ c ∧ c ≤ '\u200a')

/-- `strings.TrimSpace`. -/
def trimSpace (s : String) : String :=
  String.ofList ((s.toList.dropWhile isSpace).reverse.dropWhile isSpace).reverse

/-- The text behind the first separator: the second piece of `strings.SplitN` into two. -/
def afterFirst (s : String) (sep : Char) : Option String :=
  match s.toList.dropWhile (· ≠ sep) with
  | [] => none
  | _ :: cs => some (String.ofList cs)

/-- `strings.Split` with a separator of one character. -/
def split (s : String) (sep : Char) : List String := (s.toList.splitOn sep).map String.ofList

lemma split_ne_nil (s : String) (sep : Char) : split s sep ≠ [] := by
  simp [split, List.splitOn_ne_nil]

/-- `strings.Join` with a separator of one character. -/
def join (xs : List String) (sep : Char) : String :=
  String.ofList ([sep].intercalate (xs.map String.toList))

/-- A string without the separator is its only piece. -/
lemma split_eq_singleton {s : String} {sep : Char} (h : sep ∉ s.toList) : split s sep = [s] := by
  rw [split, List.splitOn_eq_singleton h]
  simp

/-- The pieces of a joined list are those of its strings. -/
lemma split_join {xs : List String} (sep : Char) (h : xs ≠ []) :
    split (join xs sep) sep = xs.flatMap (split · sep) := by
  have hchars : ([sep].intercalate (xs.map String.toList)).splitOn sep =
      xs.flatMap fun x => x.toList.splitOn sep := by
    induction xs with
    | nil => exact absurd rfl h
    | cons y ys ih =>
      rcases ys with _ | ⟨z, zs⟩
      · simp
      · have htail := ih (List.cons_ne_nil z zs)
        simp only [List.map_cons] at htail
        simp only [List.map_cons, List.intercalate_cons_cons, List.append_assoc,
          List.singleton_append, List.splitOn_append_cons_self]
        rw [htail]
        rfl
  rw [split, join, String.toList_ofList, hchars, List.map_flatMap]
  rfl

/-- A prefix without the separator goes to the first piece. -/
lemma split_append {p : String} {sep : Char} (h : sep ∉ p.toList) (s : String) :
    split (p ++ s) sep = (split s sep).modifyHead (p ++ ·) := by
  have hchars (cs : List Char) (hcs : sep ∉ cs) :
      (cs ++ s.toList).splitOn sep = (s.toList.splitOn sep).modifyHead (cs ++ ·) := by
    induction cs with
    | nil =>
      rw [List.nil_append]
      cases s.toList.splitOn sep <;> rfl
    | cons c cs ih =>
      obtain ⟨hc, hcs⟩ : sep ≠ c ∧ sep ∉ cs := by simpa using hcs
      rw [List.cons_append, List.splitOn_cons_eq_if_modifyHead, if_neg (by simpa using hc.symm),
        ih hcs, List.modifyHead_modifyHead]
      rfl
  rw [split, String.toList_append, hchars _ h, split]
  cases s.toList.splitOn sep <;> simp [String.ofList_append]

lemma not_mem_of_mem_splitOn {sep : Char} {cs piece : List Char} (h : piece ∈ cs.splitOn sep) :
    sep ∉ piece := by
  induction cs generalizing piece with
  | nil =>
    rw [List.splitOn_nil, List.mem_singleton] at h
    simp [h]
  | cons c cs ih =>
    rw [List.splitOn_cons_eq_if_modifyHead] at h
    split_ifs at h with hc
    · rcases List.mem_cons.mp h with rfl | h
      · exact List.not_mem_nil
      · exact ih h
    · rcases hpieces : cs.splitOn sep with _ | ⟨head, tail⟩
      · exact absurd hpieces (List.splitOn_ne_nil sep cs)
      · rw [hpieces, List.modifyHead_cons] at h
        rcases List.mem_cons.mp h with rfl | h
        · have hhead := ih (hpieces ▸ List.mem_cons_self)
          simp only [beq_iff_eq] at hc
          simp [hhead, Ne.symm hc]
        · exact ih (hpieces ▸ List.mem_cons_of_mem _ h)

/-- A piece does not have the separator. -/
lemma not_mem_of_mem_split {s x : String} {sep : Char} (h : x ∈ split s sep) : sep ∉ x.toList := by
  obtain ⟨cs, hcs, rfl⟩ := List.mem_map.mp h
  rw [String.toList_ofList]
  exact not_mem_of_mem_splitOn hcs

/-- A piece of `SplitAfter` ends where the characters read so far end with the separator. -/
def splitAfterChars (sep : List Char) (piece : List Char) : List Char → List (List Char)
  | [] => [piece]
  | c :: cs =>
    if sep.isSuffixOf (piece ++ [c]) then (piece ++ [c]) :: splitAfterChars sep [] cs
    else splitAfterChars sep (piece ++ [c]) cs

/-- `strings.SplitAfter` with a separator that is not empty. -/
def splitAfter (s sep : String) : List String :=
  (splitAfterChars sep.toList [] s.toList).map String.ofList

example : splitAfter "https://a://b" "://" = ["https://", "a://", "b"] := by decide

/-! ### Numbers -/

def digitValue (c : Char) : Option Nat :=
  if '0' ≤ c ∧ c ≤ '9' then some (c.toNat - '0'.toNat) else none

/-- The number that a list of decimal digits denotes, on top of those already read. -/
def digitsValue (acc : Nat) : List Char → Option Nat
  | [] => some acc
  | c :: cs => do digitsValue (10 * acc + (← digitValue c)) cs

/-- One digit at least. -/
def unsigned (cs : List Char) : Option Nat :=
  match cs with
  | [] => none
  | c :: cs => digitsValue 0 (c :: cs)

/-- `strconv.Atoi` for a 64-bit `int`, with `none` for an error. -/
def atoi (s : String) : Option Int := do
  let i : Int ← match s.toList with
    | '-' :: cs => (unsigned cs).map fun n => -(n : Int)
    | '+' :: cs => (unsigned cs).map fun n => (n : Int)
    | cs => (unsigned cs).map fun n => (n : Int)
  if -9223372036854775808 ≤ i ∧ i ≤ 9223372036854775807 then some i else none

lemma atoi_range {s : String} {i : Int} (h : atoi s = some i) :
    -9223372036854775808 ≤ i ∧ i ≤ 9223372036854775807 := by
  rw [atoi] at h
  split at h <;> obtain ⟨j, -, hj⟩ := Option.bind_eq_some_iff.mp h
  all_goals
    dsimp only at hj
    split_ifs at hj with hrange
    cases hj
    exact hrange

/-- The decimal digits of `n`, as `%d` prints them. -/
def natDigits (n : Nat) : String := String.ofList (Nat.toDigits 10 n)

/-- The same for a number that may be negative. -/
def intDigits (i : Int) : String :=
  if i < 0 then String.ofList ('-' :: Nat.toDigits 10 i.natAbs) else natDigits i.natAbs

lemma digitsValue_eq {cs : List Char} (h : ∀ c ∈ cs, c.isDigit) (acc : Nat) :
    digitsValue acc cs = some (Nat.ofDigitChars 10 cs acc) := by
  induction cs generalizing acc with
  | nil => simp [digitsValue]
  | cons c cs ih =>
    obtain ⟨hc, hcs⟩ := List.forall_mem_cons.mp h
    have hle : '0' ≤ c ∧ c ≤ '9' := by
      simp only [Char.isDigit, Bool.and_eq_true, decide_eq_true_eq] at hc
      exact hc
    rw [Nat.ofDigitChars_cons]
    simp [digitsValue, digitValue, hle, ih hcs]

lemma isDigit_of_mem_toDigits {n : Nat} {c : Char} (h : c ∈ Nat.toDigits 10 n) : c.isDigit :=
  Nat.isDigit_of_mem_toDigits (by decide) (by decide) h

lemma unsigned_toDigits (n : Nat) : unsigned (Nat.toDigits 10 n) = some n := by
  have hne : Nat.toDigits 10 n ≠ [] := Nat.toDigits_ne_nil
  rcases hcs : Nat.toDigits 10 n with _ | ⟨c, cs⟩
  · exact absurd hcs hne
  · have hdigits : ∀ d ∈ c :: cs, d.isDigit := fun d hd => isDigit_of_mem_toDigits (hcs ▸ hd)
    simp only [unsigned]
    rw [digitsValue_eq hdigits, ← hcs, Nat.ofDigitChars_ten_toDigits]

/-- What `%d` prints is read back. -/
lemma atoi_intDigits {i : Int} (h : -9223372036854775808 ≤ i) (h' : i ≤ 9223372036854775807) :
    atoi (intDigits i) = some i := by
  obtain ⟨n, hn⟩ : ∃ n, i.natAbs = n := ⟨_, rfl⟩
  by_cases hneg : i < 0
  · have habs : -(n : Int) = i := by omega
    simp only [intDigits, hneg, if_true, hn]
    simp [atoi, unsigned_toDigits, habs, h, h']
  · have habs : (n : Int) = i := by omega
    have hne : Nat.toDigits 10 n ≠ [] := Nat.toDigits_ne_nil
    rcases hcs : Nat.toDigits 10 n with _ | ⟨c, cs⟩
    · exact absurd hcs hne
    · have hc : c.isDigit := isDigit_of_mem_toDigits (hcs ▸ List.mem_cons_self)
      have hminus : c ≠ '-' := by
        rintro rfl
        exact absurd hc (by decide)
      have hplus : c ≠ '+' := by
        rintro rfl
        exact absurd hc (by decide)
      have hvalue : unsigned (c :: cs) = some n := hcs ▸ unsigned_toDigits n
      simp only [intDigits, natDigits, hneg, if_false, hn, hcs]
      simp [atoi, hminus, hplus, hvalue, habs, h, h']

/-! ### Base64 -/

def base64URLAlphabet : List Char :=
  "ABCDEFGHIJKLMNOPQRSTUVWXYZabcdefghijklmnopqrstuvwxyz0123456789-_".toList

def base64URLChar (n : Nat) : Char := base64URLAlphabet.getD n 'A'

/-- `base64.URLEncoding`, with padding. -/
def base64URL : List UInt8 → List Char
  | [] => []
  | [a] =>
    let n := a.toNat * 2 ^ 16
    [base64URLChar (n / 2 ^ 18), base64URLChar (n / 2 ^ 12 % 64), '=', '=']
  | [a, b] =>
    let n := a.toNat * 2 ^ 16 + b.toNat * 2 ^ 8
    [base64URLChar (n / 2 ^ 18), base64URLChar (n / 2 ^ 12 % 64), base64URLChar (n / 2 ^ 6 % 64),
      '=']
  | a :: b :: c :: rest =>
    let n := a.toNat * 2 ^ 16 + b.toNat * 2 ^ 8 + c.toNat
    base64URLChar (n / 2 ^ 18) :: base64URLChar (n / 2 ^ 12 % 64) ::
      base64URLChar (n / 2 ^ 6 % 64) :: base64URLChar (n % 64) :: base64URL rest

lemma base64URLChar_mem (n : Nat) : base64URLChar n ∈ base64URLAlphabet := by
  rw [base64URLChar, List.getD_eq_getElem?_getD]
  cases h : base64URLAlphabet[n]? with
  | none => decide
  | some c => exact List.mem_of_getElem? h

/-- An encoded text is one character of the alphabet for each six bits that are begun, and then the
padding. -/
lemma base64URL_eq (bytes : List UInt8) : ∃ body pad,
    base64URL bytes = body ++ List.replicate pad '=' ∧
      body.length = (bytes.length * 4 + 2) / 3 ∧
      body.length + pad = (bytes.length + 2) / 3 * 4 ∧ ∀ c ∈ body, c ∈ base64URLAlphabet := by
  induction bytes using base64URL.induct with
  | case1 => exact ⟨[], 0, rfl, rfl, rfl, by simp⟩
  | case2 a =>
    refine ⟨[_, _], 2, rfl, by simp, by simp, ?_⟩
    simp [base64URLChar_mem]
  | case3 a b =>
    refine ⟨[_, _, _], 1, rfl, by simp, by simp, ?_⟩
    simp [base64URLChar_mem]
  | case4 a b c rest ih =>
    obtain ⟨body, pad, heq, hbody, hlen, hmem⟩ := ih
    refine ⟨_ :: _ :: _ :: _ :: body, pad, congrArg (_ :: _ :: _ :: _ :: ·) heq, ?_, ?_, ?_⟩
    · simp only [List.length_cons]
      omega
    · simp only [List.length_cons]
      omega
    · simpa [base64URLChar_mem] using hmem

/-- An encoded text has no other characters. -/
lemma mem_base64URL {bytes : List UInt8} {c : Char} (h : c ∈ base64URL bytes) :
    c ∈ '=' :: base64URLAlphabet := by
  obtain ⟨body, pad, heq, -, -, hmem⟩ := base64URL_eq bytes
  rw [heq] at h
  rcases List.mem_append.mp h with h | h
  · exact List.mem_cons_of_mem _ (hmem c h)
  · rw [List.eq_of_mem_replicate h]
    exact List.mem_cons_self

def base64StdAlphabet : List Char :=
  "ABCDEFGHIJKLMNOPQRSTUVWXYZabcdefghijklmnopqrstuvwxyz0123456789+/".toList

def base64StdValue (c : Char) : Option Nat := base64StdAlphabet.idxOf? c

/-- Decode four characters at a time, up to the first four that are not a quantum. A padded one is
the last, whatever follows it. -/
def base64StdQuanta : List Char → List UInt8
  | a :: b :: c :: d :: rest =>
    match base64StdValue a, base64StdValue b, base64StdValue c, base64StdValue d with
    | some x, some y, some z, some w =>
      let n := x * 2 ^ 18 + y * 2 ^ 12 + z * 2 ^ 6 + w
      UInt8.ofNat (n / 2 ^ 16) :: UInt8.ofNat (n / 2 ^ 8) :: UInt8.ofNat n :: base64StdQuanta rest
    | some x, some y, some z, none =>
      let n := x * 2 ^ 18 + y * 2 ^ 12 + z * 2 ^ 6
      if d = '=' then [UInt8.ofNat (n / 2 ^ 16), UInt8.ofNat (n / 2 ^ 8)] else []
    | some x, some y, none, none =>
      if c = '=' ∧ d = '=' then [UInt8.ofNat ((x * 2 ^ 18 + y * 2 ^ 12) / 2 ^ 16)] else []
    | _, _, _, _ => []
  | _ => []

/-- What `base64.StdEncoding.DecodeString` returns beside its error. Line breaks are skipped. -/
def base64StdDecode (s : String) : List UInt8 :=
  base64StdQuanta (s.toList.filter fun c => c ≠ '\n' ∧ c ≠ '\r')

example : (base64StdDecode "AQI=", base64StdDecode "AQID*") = ([1, 2], [1, 2, 3]) := by decide

end GoLib.Strings
