import HiddifyCore.Routing.WarpServers

/-!
# The form of a drawn string

`generateRandomString` encodes as many bytes as the requested length takes and slices the text to
that length, which leaves no padding. `Config.generateRandomString` is its result for the lengths
that are requested. Here the length is any `int`: the number of bytes is computed in 64 bits, where
it wraps, and `make` and the slice have bounds.
-/

namespace HiddifyCore.Routing

open GoLib GoLib.Strings Config

namespace Sliced

def bytesNeeded (length : Int64) : Int64 := (length * 6 + 7) / 8

/-- `generateRandomString`, where `make` allocates `maxAlloc` bytes at most. -/
def generateRandomString (maxAlloc : Nat) (random : Option (Nat → UInt8)) (length : Int64) :
    Outcome String :=
  if bytesNeeded length < 0 ∨ maxAlloc < (bytesNeeded length).toInt then
    .panic "runtime error: makeslice: len out of range"
  else
    match random with
    | none => .ok "hiddify"
    | some bytes =>
      let randomString := base64URL ((List.range (bytesNeeded length).toNatClampNeg).map bytes)
      -- `EncodeToString` makes a buffer for the text
      if maxAlloc < randomString.length then
        .panic "runtime error: makeslice: len out of range"
      else if length < 0 ∨ randomString.length < length.toInt then
        .panic "runtime error: slice bounds out of range"
      else
        .ok (String.ofList (randomString.take length.toNatClampNeg))

/-- The number of bytes does not wrap, and their text can be allocated. -/
def IsServed (maxAlloc : Nat) (length : Int64) : Prop :=
  length.toInt * 6 + 7 < 2 ^ 63 ∧ ((length.toInt * 6 + 7) / 8 + 2) / 3 * 4 ≤ maxAlloc

/-- A string of the requested length over the alphabet, that is a host name in lower case which no
list or address splits. -/
structure HasForm (D : Deps) (length : Int64) (s : String) : Prop where
  length : (s.toList.length : Int) = length.toInt
  alphabet : ∀ c ∈ s.toList, c ∈ base64URLAlphabet
  unpadded : '=' ∉ s.toList
  name : ∀ c ∈ (D.toLower s).toList, c ∉ [',', '.', ':']

/-! ### The number of bytes -/

/-- A quotient of the wrapped number of bits. -/
lemma exists_bits (length : Int64) : ∃ bits : Int,
    bits % 2 ^ 64 = (length.toInt * 6 + 7) % 2 ^ 64 ∧ -2 ^ 63 ≤ bits ∧ bits < 2 ^ 63 ∧
      (bytesNeeded length).toInt = bits.tdiv 8 := by
  refine ⟨(length * 6 + 7).toInt, ?_, Int64.le_toInt _, Int64.toInt_lt _,
    Int64.toInt_div_of_ne_right _ _ (by decide)⟩
  rw [Int64.toInt_add, Int64.toInt_mul, Int.bmod_add_bmod]
  exact Int.bmod_emod ..

lemma toInt_bytesNeeded {length : Int64} (hnonneg : 0 ≤ length.toInt)
    (hbits : length.toInt * 6 + 7 < 2 ^ 63) :
    (bytesNeeded length).toInt = (length.toInt * 6 + 7) / 8 := by
  obtain ⟨bits, hmod, hle, hlt, heq⟩ := exists_bits length
  have hself : bits = length.toInt * 6 + 7 := by omega
  rw [heq, hself, Int.tdiv_eq_ediv_of_nonneg (by omega)]

/-- After a wrap there are too few bytes. -/
lemma toInt_bytesNeeded_le {length : Int64} (hbits : 2 ^ 63 ≤ length.toInt * 6 + 7) :
    (bytesNeeded length).toInt ≤ 0 ∨
      (bytesNeeded length).toInt * 8 ≤ length.toInt * 6 + 7 - 2 ^ 64 := by
  obtain ⟨bits, hmod, hle, hlt, heq⟩ := exists_bits length
  rw [heq]
  rcases Int.lt_or_le bits 0 with hneg | hpos
  · left
    have hpos : 0 ≤ -bits := by omega
    have hdiv := Int.neg_tdiv (-bits) 8
    rw [Int.neg_neg, Int.tdiv_eq_ediv_of_nonneg hpos] at hdiv
    omega
  · right
    rw [Int.tdiv_eq_ediv_of_nonneg hpos]
    omega

/-! ### The text -/

lemma length_base64URL (bytes : List UInt8) :
    (base64URL bytes).length = (bytes.length + 2) / 3 * 4 := by
  obtain ⟨body, pad, heq, -, hlen, -⟩ := base64URL_eq bytes
  rw [heq, List.length_append, List.length_replicate, hlen]

/-- A slice that is not longer than the bytes has no padding. -/
lemma mem_take_base64URL {bytes : List UInt8} {n : Nat} (hn : n ≤ (bytes.length * 4 + 2) / 3)
    {c : Char} (hc : c ∈ (base64URL bytes).take n) : c ∈ base64URLAlphabet := by
  obtain ⟨body, pad, heq, hbody, -, hmem⟩ := base64URL_eq bytes
  rw [heq, List.take_append_of_le_length (hbody ▸ hn)] at hc
  exact hmem c (List.mem_of_mem_take hc)

lemma hasForm_ofList {D : Deps} (ht : DocumentedText D) {length : Int64} {cs : List Char}
    (hlen : (cs.length : Int) = length.toInt) (hmem : ∀ c ∈ cs, c ∈ base64URLAlphabet) :
    HasForm D length (String.ofList cs) := by
  have hname (c : Char) (hc : c ∈ cs) : c ∈ '=' :: base64URLAlphabet :=
    List.mem_cons_of_mem _ (hmem c hc)
  refine ⟨?_, ?_, fun hpad => ?_, fun c hc => ?_⟩
  · rw [String.toList_ofList, hlen]
  · rwa [String.toList_ofList]
  · rw [String.toList_ofList] at hpad
    exact absurd (hmem _ hpad) (by decide)
  · rw [ht.toLower_ascii _ fun c hc => (toLower_nameChar c (hname c (by simpa using hc))).1,
      String.toList_ofList, String.toList_ofList] at hc
    obtain ⟨b, hb, rfl⟩ := List.mem_map.mp hc
    exact (toLower_nameChar b (hname b hb)).2.2.2

/-- Where the length is served, the function is the one that the passes call. -/
lemma generateRandomString_of_isServed {maxAlloc : Nat} (bytes : Nat → UInt8) {length : Int64}
    (hnonneg : 0 ≤ length.toInt) (hserved : IsServed maxAlloc length) :
    generateRandomString maxAlloc (some bytes) length =
      .ok (Config.generateRandomString (some bytes) length.toNatClampNeg) := by
  obtain ⟨hbits, halloc⟩ := hserved
  have hbytes := toInt_bytesNeeded hnonneg hbits
  have hlen : (length.toNatClampNeg : Int) = length.toInt := by
    rw [← Int64.toNat_toInt]
    omega
  have hcount : (bytesNeeded length).toNatClampNeg = (length.toNatClampNeg * 6 + 7) / 8 := by
    rw [← Int64.toNat_toInt, hbytes]
    omega
  simp only [generateRandomString, Config.generateRandomString, length_base64URL, List.length_map,
    List.length_range, Int64.lt_iff_toInt_lt, Int64.toInt_zero, hbytes, hcount]
  rw [if_neg (by omega), if_neg (by omega), if_neg (by omega)]

/-- There are enough bytes for every length. -/
lemma hasForm_generateRandomString {D : Deps} (ht : DocumentedText D) (bytes : Nat → UInt8)
    {length : Int64} (hnonneg : 0 ≤ length.toInt) :
    HasForm D length (Config.generateRandomString (some bytes) length.toNatClampNeg) := by
  have hlen : (length.toNatClampNeg : Int) = length.toInt := by
    rw [← Int64.toNat_toInt]
    omega
  refine hasForm_ofList ht ?_ fun c hc => mem_take_base64URL ?_ hc
  · rw [List.length_take, length_base64URL, List.length_map, List.length_range]
    omega
  · rw [List.length_map, List.length_range]
    omega

/-- A call that cannot. -/
lemma generateRandomString_of_not_isServed {maxAlloc : Nat} (bytes : Nat → UInt8)
    {length : Int64} (hnonneg : 0 ≤ length.toInt) (hserved : ¬ IsServed maxAlloc length) :
    (generateRandomString maxAlloc (some bytes) length).IsPanic := by
  rw [generateRandomString]
  split_ifs with hmake
  · trivial
  · simp only [length_base64URL, List.length_map, List.length_range]
    split_ifs with halloc hslice
    · trivial
    · trivial
    · -- the text is allocated, so that the number of bytes has wrapped
      exfalso
      rw [Int64.lt_iff_toInt_lt, Int64.toInt_zero, not_or] at hmake hslice
      have hcount := Int64.toNat_toInt (bytesNeeded length)
      rcases Int.lt_or_le (length.toInt * 6 + 7) (2 ^ 63) with hbits | hbits
      · have hbytes := toInt_bytesNeeded hnonneg hbits
        exact hserved ⟨hbits, by omega⟩
      · have hfew := toInt_bytesNeeded_le hbits
        omega

/-- A string that was drawn has the requested form, and a length for which the number of bytes wraps
or is too large is a panic. -/
theorem generateRandomString_form {D : Deps} (ht : DocumentedText D) (maxAlloc : Nat)
    (bytes : Nat → UInt8) (length : Int64) (hnonneg : 0 ≤ length) :
    (IsServed maxAlloc length → ∃ s,
      generateRandomString maxAlloc (some bytes) length = .ok s ∧ HasForm D length s) ∧
    (¬ IsServed maxAlloc length →
      (generateRandomString maxAlloc (some bytes) length).IsPanic) := by
  rw [Int64.le_iff_toInt_le, Int64.toInt_zero] at hnonneg
  refine ⟨fun hserved => ⟨_, generateRandomString_of_isServed bytes hnonneg hserved,
    hasForm_generateRandomString ht bytes hnonneg⟩, ?_⟩
  exact generateRandomString_of_not_isServed bytes hnonneg

/-- What `patchWarp` takes for a name is the lower case of such a string. -/
lemma drawnName_eq (D : Deps) {maxAlloc : Nat} (halloc : 20 ≤ maxAlloc) {draws : Draws}
    {bytes : Nat → UInt8} (hdraws : draws.random = some bytes) : ∃ s,
      generateRandomString maxAlloc draws.random 20 = .ok s ∧ drawnName D draws = D.toLower s := by
  have hserved : IsServed maxAlloc 20 := by
    refine ⟨by decide, ?_⟩
    have hlen : (20 : Int64).toInt = 20 := rfl
    rw [hlen]
    omega
  refine ⟨_, ?_, rfl⟩
  rw [hdraws, generateRandomString_of_isServed bytes (by decide) hserved]
  rfl

/-- The name that `patchWarp` draws. -/
theorem generateRandomString_form_twenty : ∃ s,
    generateRandomString (2 ^ 48) (some UInt8.ofNat) 20 = .ok s ∧ HasForm dottedDeps 20 s ∧
      drawnName dottedDeps { random := some UInt8.ofNat } = dottedDeps.toLower s := by
  obtain ⟨s, hs, hform⟩ := (generateRandomString_form dottedDeps_text (2 ^ 48) UInt8.ofNat 20
    (by decide)).1 ⟨by decide, by decide⟩
  have hdraws : ({ random := some UInt8.ofNat } : Draws).random = some UInt8.ofNat := rfl
  have halloc : 20 ≤ 2 ^ 48 := by decide
  obtain ⟨s', hs', hname⟩ := drawnName_eq dottedDeps halloc hdraws
  rw [hs, Outcome.ok.injEq] at hs'
  exact ⟨s, hs, hform, hs' ▸ hname⟩

/-- A length whose bits wrap to 9: one byte is drawn for it. -/
theorem not_generateRandomString_form :
    ¬ ∀ {D : Deps}, DocumentedText D → ∀ (bytes : Nat → UInt8) (length : Int64), 0 ≤ length →
      ∃ s, generateRandomString (2 ^ 48) (some bytes) length = .ok s ∧ HasForm D length s := by
  intro h
  obtain ⟨s, hs, -⟩ := h dottedDeps_text UInt8.ofNat 3074457345618258603 (by decide)
  have hpanic : generateRandomString (2 ^ 48) (some UInt8.ofNat) 3074457345618258603 =
      .panic "runtime error: slice bounds out of range" := by
    decide +kernel
  rw [hpanic] at hs
  cases hs

end Sliced

end HiddifyCore.Routing
