import Mathlib.Logic.Function.Basic
import HiddifyCore.Warp.Endpoint

/-!
# Random addresses of a prefix

`RandomIPFromPrefix` adds the number drawn for the host part to the first address of the prefix, on
the 16 bytes of both, and unmaps the sum. An IPv4 prefix gets its family back so. An IPv6 prefix
that reaches into `::ffff:0:0/96` loses it: an address drawn there comes back as an IPv4 address,
which the prefix does not contain.
-/

namespace HiddifyCore.Warp

open GoLib Singbox

/-- The bits that are drawn. -/
def hostLen (p : Prefix) : Nat := p.masked.addr.bitLen - p.bits

/-- The sum, before it is unmapped. -/
def drawn16 (host : (n : Nat) → Fin (2 ^ n)) (p : Prefix) : BitVec 128 :=
  BitVec.ofNat 128 (p.masked.addr.as16.toNat + host (hostLen p))

/-- The draw succeeds with an address of the family of the prefix that the prefix contains. -/
def IsWithin (p : Prefix) (host : (n : Nat) → Fin (2 ^ n)) : Prop :=
  ∃ ip, randomIPFromPrefix host p = .ok ip ∧ ip.is4 = p.addr.is4 ∧ p.contains ip = true

/-- Every draw is within the prefix, no two draws give the same address, and every address of the
prefix is drawn. -/
structure StaysWithin (p : Prefix) : Prop where
  within : ∀ host, IsWithin p host
  injective : ∀ host host', randomIPFromPrefix host p = randomIPFromPrefix host' p →
    host (hostLen p) = host' (hostLen p)
  reachable : ∀ ip, p.contains ip = true → ∃ host, randomIPFromPrefix host p = .ok ip

/-- `::ffff:0:0`, the first of the mapped addresses. -/
def firstMapped : Addr := .v6 0xffff00000000

/-! ### The sum -/

/-- The 128 bits above and below the IPv4 part. -/
lemma toNat_ushiftRight_32 (a : BitVec 128) : (a >>> 32).toNat = a.toNat / 2 ^ 32 := by
  rw [BitVec.toNat_ushiftRight, Nat.shiftRight_eq_div_pow]

lemma mapped_iff {a : BitVec 128} : a >>> 32 = 0xffff#128 ↔ a.toNat / 2 ^ 32 = 0xffff := by
  rw [← BitVec.toNat_inj, toNat_ushiftRight_32]
  rfl

/-- Unmapping an address of 16 bytes loses nothing. -/
lemma unmap_injective {a b : BitVec 128} (h : (Addr.v6 a).unmap = (Addr.v6 b).unmap) : a = b := by
  rw [Addr.unmap, Addr.unmap] at h
  split_ifs at h with ha hb hb
  · rw [beq_iff_eq, mapped_iff] at ha hb
    have hlow := congrArg BitVec.toNat (Addr.v4.inj h)
    rw [BitVec.toNat_setWidth, BitVec.toNat_setWidth] at hlow
    apply BitVec.eq_of_toNat_eq
    omega
  · exact Addr.v6.inj h

lemma as16_masked_add_lt {p : Prefix} {r : Nat} (hr : r < 2 ^ hostLen p) :
    p.masked.addr.as16.toNat + r < 2 ^ 128 := by
  rcases p with ⟨a | a, bits⟩
  · have hlt := maskBits_add_lt a hr
    have heq := toNat_as16_v4 (maskBits bits a)
    simp only [Prefix.masked, heq]
    omega
  · exact maskBits_add_lt a hr

/-- What the call returns. -/
lemma randomIPFromPrefix_eq {p : Prefix} (hvalid : p.isValid = true)
    (hmapped : p.masked.addr.is4In6 = false) (host : (n : Nat) → Fin (2 ^ n)) :
    randomIPFromPrefix host p = .ok (Addr.v6 (drawn16 host p)).unmap := by
  have hlt := as16_masked_add_lt (host (hostLen p)).isLt
  rw [randomIPFromPrefix, if_neg (by simp [hmapped]), if_neg (by simp [hvalid])]
  exact if_neg (Nat.not_le.mpr hlt)

lemma drawn16_injective {p : Prefix} {host host' : (n : Nat) → Fin (2 ^ n)}
    (h : drawn16 host p = drawn16 host' p) : host (hostLen p) = host' (hostLen p) := by
  have hnat := congrArg BitVec.toNat h
  have hlt := as16_masked_add_lt (host (hostLen p)).isLt
  have hlt' := as16_masked_add_lt (host' (hostLen p)).isLt
  rw [drawn16, drawn16, BitVec.toNat_ofNat, BitVec.toNat_ofNat, Nat.mod_eq_of_lt hlt,
    Nat.mod_eq_of_lt hlt'] at hnat
  exact Fin.ext (Nat.add_left_cancel hnat)

/-! ### One draw -/

/-- A draw leaves the prefix when the sum is a mapped address and the prefix is none of IPv4. -/
lemma isWithin_iff {p : Prefix} (hvalid : p.isValid = true)
    (hmapped : p.masked.addr.is4In6 = false) (host : (n : Nat) → Fin (2 ^ n)) :
    IsWithin p host ↔ (p.addr.is6 && (Addr.v6 (drawn16 host p)).is4In6) = false := by
  rcases p with ⟨a | a, bits⟩
  · refine iff_of_true ⟨_, randomIPFromPrefix_v4 host hvalid, rfl, ?_⟩ rfl
    simp only [Prefix.contains, hvalid, Bool.true_and, beq_iff_eq]
    exact (maskBits_add a (host (32 - bits)).isLt).symm
  · simp only [IsWithin, randomIPFromPrefix_eq hvalid hmapped host, Outcome.ok.injEq,
      exists_eq_left', Addr.is6, Bool.true_and]
    rw [Addr.is4In6, Addr.unmap]
    cases hin : drawn16 host ⟨.v6 a, bits⟩ >>> 32 == 0xffff#128 with
    | true => simp [Addr.is4]
    | false =>
      simp only [Addr.is4, Prefix.contains, hvalid, Bool.true_and, beq_iff_eq, true_and,
        Bool.false_eq_true, if_false, iff_true]
      exact (maskBits_add a (host (128 - bits)).isLt).symm

/-! ### All draws -/

/-- Some draw is any given number. -/
lemma exists_host {n r : Nat} (hr : r < 2 ^ n) :
    ∃ host : (m : Nat) → Fin (2 ^ m), (host n : Nat) = r :=
  ⟨Function.update (fun m => ⟨0, Nat.two_pow_pos m⟩) n ⟨r, hr⟩, by rw [Function.update_self]⟩

/-- An address is its network and a host part. -/
lemma eq_maskBits_add {w bits : Nat} {a b : BitVec w} (h : maskBits bits a = maskBits bits b) :
    BitVec.ofNat w ((maskBits bits a).toNat + b.toNat % 2 ^ (w - bits)) = b := by
  rw [h, toNat_maskBits, Nat.div_add_mod', BitVec.ofNat_toNat, BitVec.setWidth_eq]

/-- A mask of 96 bits or more keeps what tells a mapped address. -/
lemma maskBits_div_of_le {bits : Nat} (hbits : 96 ≤ bits) (a : BitVec 128) :
    (maskBits bits a).toNat / 2 ^ 32 = a.toNat / 2 ^ 32 := by
  have hpow : 2 ^ 32 = 2 ^ (128 - bits) * 2 ^ (32 - (128 - bits)) := by
    rw [← Nat.pow_add]
    congr 1
    omega
  rw [toNat_maskBits, hpow, ← Nat.div_div_eq_div_mul, ← Nat.div_div_eq_div_mul,
    Nat.mul_div_cancel _ (Nat.two_pow_pos _)]

/-- A mask of 96 bits or less keeps nothing else. -/
lemma maskBits_congr {bits : Nat} (hbits : bits ≤ 96) {a b : BitVec 128}
    (h : a.toNat / 2 ^ 32 = b.toNat / 2 ^ 32) : maskBits bits a = maskBits bits b := by
  have hpow : 2 ^ (128 - bits) = 2 ^ 32 * 2 ^ (96 - bits) := by
    rw [← Nat.pow_add]
    congr 1
    omega
  apply BitVec.eq_of_toNat_eq
  rw [toNat_maskBits, toNat_maskBits, hpow, ← Nat.div_div_eq_div_mul, h, Nat.div_div_eq_div_mul]

/-- A prefix whose network is not mapped contains all mapped addresses or none. -/
lemma isUnmapped_iff {p : Prefix} (hvalid : p.isValid = true)
    (hmapped : p.masked.addr.is4In6 = false) :
    IsUnmapped p ↔ p.contains firstMapped = false := by
  rw [← Bool.not_eq_true]
  constructor
  · exact fun h hin => h _ hin (by decide)
  · intro hout b hin hb
    rcases p with ⟨a | a, bits⟩
    · simp [Prefix.contains] at hin
    · simp only [Prefix.contains, hvalid, Bool.true_and, beq_iff_eq] at hin
      rw [mapped_iff] at hb
      rcases Nat.le_total 96 bits with hbits | hbits
      · have hnet : maskBits bits a >>> 32 = 0xffff#128 := by
          rw [mapped_iff, hin, maskBits_div_of_le hbits, hb]
        simp [Prefix.masked, Addr.is4In6, hnet] at hmapped
      · refine hout ?_
        simp only [Prefix.contains, firstMapped, hvalid, Bool.true_and, beq_iff_eq]
        rw [hin]
        exact maskBits_congr hbits hb

lemma is6_of_contains {p : Prefix} {b : BitVec 128} (hin : p.contains (.v6 b) = true) :
    p.addr.is6 = true := by
  rcases p with ⟨a | a, bits⟩
  · simp [Prefix.contains] at hin
  · rfl

/-- Every IPv6 address of the prefix is the sum of some draw. -/
lemma exists_drawn16 {p : Prefix} (hvalid : p.isValid = true) {b : BitVec 128}
    (hin : p.contains (.v6 b) = true) : ∃ host, drawn16 host p = b := by
  rcases p with ⟨a | a, bits⟩
  · simp [Prefix.contains] at hin
  · simp only [Prefix.contains, hvalid, Bool.true_and, beq_iff_eq] at hin
    obtain ⟨host, hhost⟩ := exists_host (Nat.mod_lt b.toNat (Nat.two_pow_pos (128 - bits)))
    have hsum := eq_maskBits_add hin
    rw [← hhost] at hsum
    exact ⟨host, hsum⟩

/-- Without mapped addresses every address of the prefix is drawn. -/
lemma exists_randomIPFromPrefix {p : Prefix} (hvalid : p.isValid = true)
    (hmapped : p.masked.addr.is4In6 = false) (hnone : IsUnmapped p) {ip : Addr}
    (hin : p.contains ip = true) : ∃ host, randomIPFromPrefix host p = .ok ip := by
  rcases ip with b | b
  · rcases p with ⟨a | a, bits⟩
    · simp only [Prefix.contains, hvalid, Bool.true_and, beq_iff_eq] at hin
      obtain ⟨host, hhost⟩ := exists_host (Nat.mod_lt b.toNat (Nat.two_pow_pos (32 - bits)))
      refine ⟨host, ?_⟩
      rw [randomIPFromPrefix_v4 host hvalid, hhost, eq_maskBits_add hin]
    · simp [Prefix.contains] at hin
  · obtain ⟨host, hsum⟩ := exists_drawn16 hvalid hin
    refine ⟨host, ?_⟩
    rw [randomIPFromPrefix_eq hvalid hmapped, hsum, Addr.unmap, if_neg]
    rw [beq_iff_eq]
    exact hnone b hin

/-- A single draw leaves the prefix when it is a mapped address of an IPv6 prefix, and some draw
does when the prefix contains `::ffff:0:0`. -/
theorem staysWithin_iff (p : Prefix) (hvalid : p.isValid = true)
    (hmapped : p.masked.addr.is4In6 = false) :
    (∀ host, IsWithin p host ↔ (p.addr.is6 && (Addr.v6 (drawn16 host p)).is4In6) = false) ∧
      (StaysWithin p ↔ p.contains firstMapped = false) := by
  refine ⟨isWithin_iff hvalid hmapped, ?_⟩
  rw [← isUnmapped_iff hvalid hmapped]
  constructor
  · intro h b hin hb
    -- some draw has the mapped address as its sum
    obtain ⟨host, hsum⟩ := exists_drawn16 hvalid hin
    have hout := (isWithin_iff hvalid hmapped host).mp (h.within host)
    rw [hsum, Addr.is4In6, hb, is6_of_contains hin] at hout
    exact absurd hout (by decide)
  · intro h
    refine ⟨fun host => ?_, fun host host' heq => ?_, fun ip =>
      exists_randomIPFromPrefix hvalid hmapped h⟩
    · obtain ⟨ip, hip, hin⟩ := randomIPFromPrefix_ok host hvalid h
      refine ⟨ip, hip, ?_, hin⟩
      simpa [isAsked] using isAsked_of_contains hin true false
    · rw [randomIPFromPrefix_eq hvalid hmapped, randomIPFromPrefix_eq hvalid hmapped] at heq
      exact drawn16_injective (unmap_injective (Outcome.ok.inj heq))

/-- A prefix of WARP. -/
theorem staysWithin_warp : StaysWithin ⟨.v6 0x2606470000d100000000000000000000, 64⟩ :=
  (staysWithin_iff _ (by decide) (by decide)).2.mpr (by decide)

/-- From the prefix of all IPv6 addresses an IPv4 address is drawn. -/
theorem not_staysWithin : ¬ ∀ p : Prefix, p.isValid = true → p.masked.addr.is4In6 = false →
    StaysWithin p := by
  intro h
  have hreach := (h ⟨.v6 0, 0⟩ (by decide) (by decide)).within
    fun n => ⟨0xffff01020304 % 2 ^ n, Nat.mod_lt _ (Nat.two_pow_pos n)⟩
  obtain ⟨ip, hip, hfamily, -⟩ := hreach
  have heq : randomIPFromPrefix
      (fun n => ⟨0xffff01020304 % 2 ^ n, Nat.mod_lt _ (Nat.two_pow_pos n)⟩) ⟨.v6 0, 0⟩ =
      .ok (.v4 0x01020304) := by
    decide
  rw [heq] at hip
  cases hip
  cases hfamily

end HiddifyCore.Warp
