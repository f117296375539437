import HiddifyCore.GoLib.Text

/-!
# Base64

The encoder of `base64.StdEncoding`, and that the decoder of `HiddifyCore.GoLib.Text` reads back
every text that it writes.
-/

namespace GoLib.Strings

def base64StdChar (n : Nat) : Char := base64StdAlphabet.getD n 'A'

/-- `base64.StdEncoding`, with padding. -/
def base64Std : List UInt8 → List Char
  | [] => []
  | [a] =>
    let n := a.toNat * 2 ^ 16
    [base64StdChar (n / 2 ^ 18), base64StdChar (n / 2 ^ 12 % 64), '=', '=']
  | [a, b] =>
    let n := a.toNat * 2 ^ 16 + b.toNat * 2 ^ 8
    [base64StdChar (n / 2 ^ 18), base64StdChar (n / 2 ^ 12 % 64), base64StdChar (n / 2 ^ 6 % 64),
      '=']
  | a :: b :: c :: rest =>
    let n := a.toNat * 2 ^ 16 + b.toNat * 2 ^ 8 + c.toNat
    base64StdChar (n / 2 ^ 18) :: base64StdChar (n / 2 ^ 12 % 64) ::
      base64StdChar (n / 2 ^ 6 % 64) :: base64StdChar (n % 64) :: base64Std rest

/-- `EncodeToString`. -/
def base64StdEncode (bytes : List UInt8) : String := String.ofList (base64Std bytes)

/-! ### Characters -/

lemma base64StdValue_char {n : Nat} (h : n < 64) : base64StdValue (base64StdChar n) = some n := by
  have hall : ∀ n < 64, base64StdValue (base64StdChar n) = some n := by decide
  exact hall n h

lemma base64StdValue_pad : base64StdValue '=' = none := by decide

lemma base64StdChar_mem (n : Nat) : base64StdChar n ∈ base64StdAlphabet := by
  rw [base64StdChar, List.getD_eq_getElem?_getD]
  cases h : base64StdAlphabet[n]? with
  | none => decide
  | some c => exact List.mem_of_getElem? h

lemma mem_base64Std {bytes : List UInt8} {c : Char} (h : c ∈ base64Std bytes) :
    c ∈ '=' :: base64StdAlphabet := by
  induction bytes using base64Std.induct with
  | case1 => simp [base64Std] at h
  | case2 a =>
    simp only [base64Std, List.mem_cons, List.not_mem_nil, or_false] at h
    obtain rfl | rfl | rfl | rfl := h <;> simp [base64StdChar_mem]
  | case3 a b =>
    simp only [base64Std, List.mem_cons, List.not_mem_nil, or_false] at h
    obtain rfl | rfl | rfl | rfl := h <;> simp [base64StdChar_mem]
  | case4 a b c rest ih =>
    simp only [base64Std, List.mem_cons] at h
    obtain rfl | rfl | rfl | rfl | h := h
    · exact List.mem_cons_of_mem _ (base64StdChar_mem _)
    · exact List.mem_cons_of_mem _ (base64StdChar_mem _)
    · exact List.mem_cons_of_mem _ (base64StdChar_mem _)
    · exact List.mem_cons_of_mem _ (base64StdChar_mem _)
    · exact ih h

lemma length_base64Std (bytes : List UInt8) :
    (base64Std bytes).length = (bytes.length + 2) / 3 * 4 := by
  induction bytes using base64Std.induct with
  | case1 => rfl
  | case2 a => simp [base64Std]
  | case3 a b => simp [base64Std]
  | case4 a b c rest ih =>
    simp only [base64Std, List.length_cons, ih]
    omega

/-! ### Round trip -/

/-- The byte that begins `k` bits above the end of a quantum. -/
lemma ofNat_quantum {n : Nat} {a : UInt8} (h : n % 256 = a.toNat) : UInt8.ofNat n = a := by
  apply UInt8.toNat.inj
  rw [UInt8.toNat_ofNat', h]

/-- Each quantum is the number of its three bytes in base 64. -/
lemma base64StdQuanta_base64Std (bytes : List UInt8) :
    base64StdQuanta (base64Std bytes) = bytes := by
  induction bytes using base64Std.induct with
  | case1 => rfl
  | case2 a =>
    have ha := a.toNat_lt
    simp only [base64Std, base64StdQuanta]
    rw [base64StdValue_char (by omega), base64StdValue_char (by omega), base64StdValue_pad]
    simp only [and_self, if_true]
    rw [ofNat_quantum (a := a) (by omega)]
  | case3 a b =>
    have ha := a.toNat_lt
    have hb := b.toNat_lt
    simp only [base64Std, base64StdQuanta]
    rw [base64StdValue_char (by omega), base64StdValue_char (by omega),
      base64StdValue_char (by omega), base64StdValue_pad]
    simp only [if_true]
    rw [ofNat_quantum (a := a) (by omega), ofNat_quantum (a := b) (by omega)]
  | case4 a b c rest ih =>
    have ha := a.toNat_lt
    have hb := b.toNat_lt
    have hc := c.toNat_lt
    simp only [base64Std, base64StdQuanta]
    rw [base64StdValue_char (by omega), base64StdValue_char (by omega),
      base64StdValue_char (by omega), base64StdValue_char (by omega)]
    simp only [ih]
    rw [ofNat_quantum (a := a) (by omega), ofNat_quantum (a := b) (by omega),
      ofNat_quantum (a := c) (by omega)]

/-- What was encoded is decoded. -/
lemma base64StdDecode_encode (bytes : List UInt8) :
    base64StdDecode (base64StdEncode bytes) = bytes := by
  have hbreaks : '\n' ∉ '=' :: base64StdAlphabet ∧ '\r' ∉ '=' :: base64StdAlphabet := by decide
  rw [base64StdDecode, base64StdEncode, String.toList_ofList, List.filter_eq_self.mpr,
    base64StdQuanta_base64Std]
  intro c hc
  have hmem := mem_base64Std hc
  exact decide_eq_true ⟨fun h => hbreaks.1 (h ▸ hmem), fun h => hbreaks.2 (h ▸ hmem)⟩

lemma base64StdEncode_injective : Function.Injective base64StdEncode :=
  Function.LeftInverse.injective base64StdDecode_encode

end GoLib.Strings
