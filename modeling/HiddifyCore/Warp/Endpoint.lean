import HiddifyCore.GoLib.Panic
import HiddifyCore.GoLib.Text
import HiddifyCore.Config.Singbox

/-!
# WARP endpoints

`pkg/warp/endpoint.go` and `RandomIPFromPrefix` of `pkg/iputils`, over the part of `net/netip` that
they use. An address is drawn on its 16 bytes, where an IPv4 address is mapped, and unmapped at the
end, so the family of the result is a fact about the prefix.
-/

namespace HiddifyCore.Singbox

open GoLib.Strings

/-! ### Addresses -/

/-- The bits of an address behind its first `bits` are cleared. -/
def maskBits {w : Nat} (bits : Nat) (a : BitVec w) : BitVec w :=
  (a >>> (w - bits)) <<< (w - bits)

namespace Addr

def bitLen : Addr → Nat
  | .v4 _ => 32
  | .v6 _ => 128

def is4 : Addr → Bool
  | .v4 _ => true
  | .v6 _ => false

def is6 : Addr → Bool
  | .v4 _ => false
  | .v6 _ => true

/-- `::ffff:` before 32 bits. -/
def is4In6 : Addr → Bool
  | .v4 _ => false
  | .v6 a => a >>> 32 == 0xffff#128

/-- An IPv4 address has the 16 bytes of the mapped one. -/
def as16 : Addr → BitVec 128
  | .v4 a => 0xffff00000000#128 + a.setWidth 128
  | .v6 a => a

def unmap : Addr → Addr
  | .v4 a => .v4 a
  | .v6 a => if a >>> 32 == 0xffff#128 then .v4 (a.setWidth 32) else .v6 a

/-! ### The text of an address -/

def text4 (a : BitVec 32) : String :=
  join ([24, 16, 8, 0].map fun i => natDigits (a.toNat / 2 ^ i % 2 ^ 8)) '.'

def hexDigits (n : Nat) : String := String.ofList (Nat.toDigits 16 n)

/-- The eight groups of an IPv6 address. -/
def groups (a : BitVec 128) : List Nat :=
  [112, 96, 80, 64, 48, 32, 16, 0].map fun i => a.toNat / 2 ^ i % 2 ^ 16

/-- How many groups from position `i` on are zero. -/
def zeroRun (gs : List Nat) (i : Nat) : Nat := ((gs.drop i).takeWhile (· = 0)).length

/-- Start and length of the first of the longest runs of two zero groups or more. -/
def longestZeroRun (gs : List Nat) : Nat × Nat :=
  (List.range gs.length).foldl (fun best i =>
    if zeroRun gs i ≥ 2 ∧ zeroRun gs i > best.2 then (i, zeroRun gs i) else best) (0, 0)

def text6 (a : BitVec 128) : String :=
  let gs := groups a
  let (start, length) := longestZeroRun gs
  let hex (gs : List Nat) := join (gs.map hexDigits) ':'
  if length = 0 then hex gs else hex (gs.take start) ++ "::" ++ hex (gs.drop (start + length))

/-- `Addr.String`. -/
def string : Addr → String
  | .v4 a => text4 a
  | .v6 a => if a >>> 32 == 0xffff#128 then "::ffff:" ++ text4 (a.setWidth 32) else text6 a

example : (Addr.v6 0x2001000000000000000100000000ab00).string = "2001::1:0:0:ab00" := by decide

end Addr

/-! ### Prefixes -/

namespace Prefix

def isValid (p : Prefix) : Bool := p.bits ≤ p.addr.bitLen

def masked (p : Prefix) : Prefix :=
  match p.addr with
  | .v4 a => { p with addr := .v4 (maskBits p.bits a) }
  | .v6 a => { p with addr := .v6 (maskBits p.bits a) }

/-- The address is of the same family and has the same first bits. -/
def contains (p : Prefix) (ip : Addr) : Bool :=
  p.isValid &&
    match p.addr, ip with
    | .v4 a, .v4 b => maskBits p.bits a == maskBits p.bits b
    | .v6 a, .v6 b => maskBits p.bits a == maskBits p.bits b
    | _, _ => false

end Prefix

lemma toNat_maskBits {w : Nat} (bits : Nat) (a : BitVec w) :
    (maskBits bits a).toNat = a.toNat / 2 ^ (w - bits) * 2 ^ (w - bits) := by
  have hle := Nat.div_mul_le_self a.toNat (2 ^ (w - bits))
  rw [maskBits, BitVec.toNat_shiftLeft, BitVec.toNat_ushiftRight, Nat.shiftRight_eq_div_pow,
    Nat.shiftLeft_eq, Nat.mod_eq_of_lt (hle.trans_lt a.isLt)]

/-- A host part does not reach the bits of the network. -/
lemma maskBits_add_lt {w : Nat} {bits r : Nat} (a : BitVec w) (h : r < 2 ^ (w - bits)) :
    (maskBits bits a).toNat + r < 2 ^ w := by
  have hsplit : 2 ^ w = 2 ^ (w - (w - bits)) * 2 ^ (w - bits) := by
    rw [← Nat.pow_add]
    congr 1
    omega
  have hnet : a.toNat / 2 ^ (w - bits) < 2 ^ (w - (w - bits)) := by
    apply Nat.div_lt_of_lt_mul
    rw [Nat.mul_comm, ← hsplit]
    exact a.isLt
  calc (maskBits bits a).toNat + r
      < a.toNat / 2 ^ (w - bits) * 2 ^ (w - bits) + 2 ^ (w - bits) := by
        rw [toNat_maskBits]
        omega
    _ = (a.toNat / 2 ^ (w - bits) + 1) * 2 ^ (w - bits) := by rw [Nat.succ_mul]
    _ ≤ 2 ^ (w - (w - bits)) * 2 ^ (w - bits) := Nat.mul_le_mul_right _ hnet
    _ = 2 ^ w := hsplit.symm

/-- An address with a host part is in the network that the host part is added to. -/
lemma maskBits_add {w : Nat} {bits r : Nat} (a : BitVec w) (h : r < 2 ^ (w - bits)) :
    maskBits bits (BitVec.ofNat w ((maskBits bits a).toNat + r)) = maskBits bits a := by
  have hdiv : (a.toNat / 2 ^ (w - bits) * 2 ^ (w - bits) + r) / 2 ^ (w - bits) =
      a.toNat / 2 ^ (w - bits) := by
    rw [Nat.add_comm, Nat.add_mul_div_right _ _ (Nat.two_pow_pos _), Nat.div_eq_of_lt h,
      Nat.zero_add]
  apply BitVec.eq_of_toNat_eq
  rw [toNat_maskBits, BitVec.toNat_ofNat, Nat.mod_eq_of_lt (maskBits_add_lt a h), toNat_maskBits,
    hdiv]

end HiddifyCore.Singbox

namespace HiddifyCore.Warp

open GoLib Singbox

/-! ### Drawing an address -/

/-- `RandomIPFromPrefix`, where `host n` is the number drawn for a host part of `n` bits. -/
def randomIPFromPrefix (host : (n : Nat) → Fin (2 ^ n)) (cidr : Prefix) : Outcome Addr :=
  let startingAddress := cidr.masked.addr
  -- an invalid prefix is masked to the zero one, whose address is not mapped
  if cidr.isValid ∧ startingAddress.is4In6 then
    .fail "mapped v4 addresses not supported"
  else if ¬ cidr.isValid then
    .fail "invalid cidr: invalid Prefix"
  else
    let hostLen := startingAddress.bitLen - cidr.bits
    let randomAddressInt := startingAddress.as16.toNat + host hostLen
    -- `FillBytes` panics on a number of more than 16 bytes; `AddrFromSlice` takes every 16 bytes
    if 2 ^ 128 ≤ randomAddressInt then
      .panic "math/big: buffer too small to fit value"
    else
      .ok (Addr.v6 (BitVec.ofNat 128 randomAddressInt)).unmap

def warpPrefixes : List Prefix := [
  -- 162.159.192.0/24, 162.159.193.0/24 and 162.159.195.0/24
  { addr := .v4 0xA29FC000, bits := 24 },
  { addr := .v4 0xA29FC100, bits := 24 },
  { addr := .v4 0xA29FC300, bits := 24 },
  -- 188.114.96.0/24 to 188.114.99.0/24
  { addr := .v4 0xBC726000, bits := 24 },
  { addr := .v4 0xBC726100, bits := 24 },
  { addr := .v4 0xBC726200, bits := 24 },
  { addr := .v4 0xBC726300, bits := 24 },
  -- 2606:4700:d0::/64 and 2606:4700:d1::/64
  { addr := .v6 0x2606470000d000000000000000000000, bits := 64 },
  { addr := .v6 0x2606470000d100000000000000000000, bits := 64 }]

def warpPorts : List UInt16 := [500, 854, 859, 864, 878, 880, 890, 891, 894, 903, 908, 928, 934,
  939, 942, 943, 945, 946, 955, 968, 987, 988, 1002, 1010, 1014, 1018, 1070, 1074, 1180, 1387, 1701,
  1843, 2371, 2408, 2506, 3138, 3476, 3581, 3854, 4177, 4198, 4233, 4500, 5279, 5956, 7103, 7152,
  7156, 7281, 7559, 8319, 8742, 8854, 8886]

/-- What `math/rand` answers to one call of `RandomWarpEndpoint`. -/
structure EndpointDraws where
  /-- The answers to `Intn` in the loop of `RandomWarpPrefix`. -/
  picks : List (Fin warpPrefixes.length)
  host : (n : Nat) → Fin (2 ^ n)
  port : Fin warpPorts.length

/-- The loop of `RandomWarpPrefix`, with `none` while it has not returned. -/
def pickPrefix (v4 v6 : Bool) : List (Fin warpPrefixes.length) → Option Prefix
  | [] => none
  | pick :: picks =>
    let cidr := warpPrefixes.get pick
    if v4 && cidr.addr.is4 then some cidr
    else if v6 && cidr.addr.is6 then some cidr
    else pickPrefix v4 v6 picks

def randomWarpPrefix (picks : List (Fin warpPrefixes.length)) (v4 v6 : Bool) :
    Outcome (Option Prefix) :=
  if !v4 && !v6 then .panic "Must choose a IP version for RandomWarpPrefix"
  else .ok (pickPrefix v4 v6 picks)

/-- `netip.AddrPort`. -/
structure AddrPort where
  addr : Addr
  port : UInt16
  deriving DecidableEq, Repr

def randomWarpEndpoint (draws : EndpointDraws) (v4 v6 : Bool) : Outcome (Option AddrPort) := do
  match ← randomWarpPrefix draws.picks v4 v6 with
  | none => .ok none
  | some cidr =>
    let randomIP ← randomIPFromPrefix draws.host cidr
    .ok (some { addr := randomIP, port := warpPorts.get draws.port })

/-! ### Where the drawn address is -/

/-- No mapped address is in the prefix. -/
def IsUnmapped (p : Prefix) : Prop := ∀ a : BitVec 128, p.contains (.v6 a) → a >>> 32 ≠ 0xffff#128

lemma toNat_as16_v4 (a : BitVec 32) : (Addr.v4 a).as16.toNat = 0xffff00000000 + a.toNat := by
  have hlt := a.isLt
  simp only [Addr.as16, BitVec.toNat_add, BitVec.toNat_setWidth, BitVec.toNat_ofNat]
  omega

lemma unmap_mapped {n : Nat} (h : n < 2 ^ 32) :
    (Addr.v6 (BitVec.ofNat 128 (0xffff00000000 + n))).unmap = .v4 (BitVec.ofNat 32 n) := by
  have hhigh : BitVec.ofNat 128 (0xffff00000000 + n) >>> 32 = 0xffff#128 := by
    apply BitVec.eq_of_toNat_eq
    simp only [BitVec.toNat_ushiftRight, BitVec.toNat_ofNat, Nat.shiftRight_eq_div_pow]
    omega
  have hlow : (BitVec.ofNat 128 (0xffff00000000 + n)).setWidth 32 = BitVec.ofNat 32 n := by
    apply BitVec.eq_of_toNat_eq
    simp only [BitVec.toNat_setWidth, BitVec.toNat_ofNat]
    omega
  rw [Addr.unmap, hhigh, hlow, beq_self_eq_true, if_pos rfl]

/-- The network of an IPv4 prefix and a host part. -/
lemma randomIPFromPrefix_v4 (host : (n : Nat) → Fin (2 ^ n)) {a : BitVec 32} {bits : Nat}
    (hvalid : (Prefix.mk (.v4 a) bits).isValid) :
    randomIPFromPrefix host { addr := .v4 a, bits := bits } =
      .ok (.v4 (BitVec.ofNat 32 ((maskBits bits a).toNat + host (32 - bits)))) := by
  have hlt := maskBits_add_lt a (host (32 - bits)).isLt
  simp only [randomIPFromPrefix, hvalid, Prefix.masked, Addr.is4In6, Addr.bitLen, toNat_as16_v4,
    Bool.false_eq_true, and_false, not_true_eq_false, if_false]
  rw [if_neg (by omega), Nat.add_assoc, unmap_mapped hlt]

/-- The network of an IPv6 prefix and a host part, unless it is a mapped address. -/
lemma randomIPFromPrefix_v6 (host : (n : Nat) → Fin (2 ^ n)) {a : BitVec 128} {bits : Nat}
    (hvalid : (Prefix.mk (.v6 a) bits).isValid) (hnet : maskBits bits a >>> 32 ≠ 0xffff#128)
    (hip : BitVec.ofNat 128 ((maskBits bits a).toNat + host (128 - bits)) >>> 32 ≠ 0xffff#128) :
    randomIPFromPrefix host { addr := .v6 a, bits := bits } =
      .ok (.v6 (BitVec.ofNat 128 ((maskBits bits a).toNat + host (128 - bits)))) := by
  have hlt := maskBits_add_lt a (host (128 - bits)).isLt
  simp only [randomIPFromPrefix, hvalid, Prefix.masked, Addr.is4In6, Addr.bitLen, Addr.as16,
    Addr.unmap, beq_iff_eq, hnet, hip, and_false, not_true_eq_false, if_false]
  rw [if_neg (Nat.not_le.mpr hlt)]

/-- An address drawn from a prefix is in it, so that it is of the family of the prefix. -/
lemma randomIPFromPrefix_ok (host : (n : Nat) → Fin (2 ^ n)) {p : Prefix} (hvalid : p.isValid)
    (hmapped : IsUnmapped p) : ∃ ip, randomIPFromPrefix host p = .ok ip ∧ p.contains ip := by
  rcases p with ⟨a | a, bits⟩
  · refine ⟨_, randomIPFromPrefix_v4 host hvalid, ?_⟩
    simp only [Prefix.contains, hvalid, Bool.true_and, beq_iff_eq]
    exact (maskBits_add a (host (32 - bits)).isLt).symm
  · have hself (b : BitVec 128) (hb : maskBits bits b = maskBits bits a) :
        (Prefix.mk (.v6 a) bits).contains (.v6 b) := by
      simp only [Prefix.contains, hvalid, Bool.true_and, beq_iff_eq]
      exact hb.symm
    have hip := maskBits_add a (host (128 - bits)).isLt
    have hnet : maskBits bits (maskBits bits a) = maskBits bits a := by
      simpa using maskBits_add a (Nat.two_pow_pos (128 - bits))
    exact ⟨_, randomIPFromPrefix_v6 host hvalid (hmapped _ (hself _ hnet))
      (hmapped _ (hself _ hip)), hself _ hip⟩

/-! ### The drawn endpoint -/

lemma warpPrefixes_isValid : ∀ p ∈ warpPrefixes, p.isValid := by decide

/-- The first half of an IPv6 prefix is not zero. -/
lemma warpPrefixes_isUnmapped : ∀ p ∈ warpPrefixes, IsUnmapped p := by
  intro p hp b hb hmapped
  have hzero : maskBits 64 b = 0#128 := by
    apply BitVec.eq_of_toNat_eq
    have hb' := congrArg BitVec.toNat hmapped
    simp only [BitVec.toNat_ushiftRight, Nat.shiftRight_eq_div_pow, BitVec.toNat_ofNat] at hb'
    rw [toNat_maskBits, BitVec.toNat_zero]
    omega
  simp only [warpPrefixes, List.mem_cons, List.not_mem_nil, or_false] at hp
  rcases hp with rfl | rfl | rfl | rfl | rfl | rfl | rfl | rfl | rfl <;>
    simp [Prefix.contains, Prefix.isValid, Addr.bitLen, hzero] at hb
  all_goals exact absurd hb (by decide)

/-- The prefix is of a family that was asked for. -/
def isAsked (v4 v6 : Bool) (ip : Addr) : Bool := (v4 && ip.is4) || (v6 && ip.is6)

/-- The loop returns the first pick of a family that was asked for. -/
lemma pickPrefix_eq_find? (v4 v6 : Bool) (picks : List (Fin warpPrefixes.length)) :
    pickPrefix v4 v6 picks =
      (picks.map warpPrefixes.get).find? fun p => isAsked v4 v6 p.addr := by
  induction picks with
  | nil => rfl
  | cons pick picks ih =>
    simp only [pickPrefix, List.map_cons, List.find?_cons, isAsked]
    cases h4 : v4 && (warpPrefixes.get pick).addr.is4 <;>
      cases h6 : v6 && (warpPrefixes.get pick).addr.is6 <;> simp [ih, isAsked]

lemma pickPrefix_eq_some {v4 v6 : Bool} {picks : List (Fin warpPrefixes.length)} {p : Prefix}
    (h : pickPrefix v4 v6 picks = some p) : p ∈ warpPrefixes ∧ isAsked v4 v6 p.addr = true := by
  rw [pickPrefix_eq_find?] at h
  obtain ⟨pick, -, rfl⟩ := List.mem_map.mp (List.mem_of_find?_eq_some h)
  have hasked := List.find?_some h
  exact ⟨List.get_mem _ _, hasked⟩

/-- The address is in one of the WARP prefixes. -/
def IsWarpAddr (ip : Addr) : Prop := ∃ p ∈ warpPrefixes, p.contains ip = true

lemma isAsked_of_contains {p : Prefix} {ip : Addr} (h : p.contains ip = true) (v4 v6 : Bool) :
    isAsked v4 v6 ip = isAsked v4 v6 p.addr := by
  rcases p with ⟨a | a, bits⟩ <;> rcases ip with b | b <;>
    first | rfl | simp [Prefix.contains] at h

/-- With a family asked for the call does not fail, and the address is of it and of WARP. -/
theorem randomWarpEndpoint_ok (draws : EndpointDraws) {v4 v6 : Bool} (h : (v4 || v6) = true) :
    ∃ r, randomWarpEndpoint draws v4 v6 = .ok r ∧
      ∀ e ∈ r, IsWarpAddr e.addr ∧ isAsked v4 v6 e.addr = true := by
  have hasks : (!v4 && !v6) = false := by simpa [← Bool.not_or] using h
  simp only [randomWarpEndpoint, randomWarpPrefix, hasks, Bool.false_eq_true, if_false,
    Outcome.bind_ok]
  cases hpick : pickPrefix v4 v6 draws.picks with
  | none => exact ⟨none, rfl, by simp⟩
  | some p =>
    obtain ⟨hp, hasked⟩ := pickPrefix_eq_some hpick
    obtain ⟨ip, hip, hin⟩ := randomIPFromPrefix_ok draws.host (warpPrefixes_isValid p hp)
      (warpPrefixes_isUnmapped p hp)
    refine ⟨some { addr := ip, port := warpPorts.get draws.port }, ?_, ?_⟩
    · simp only [hip, Outcome.bind_ok]
    · rintro e ⟨⟩
      exact ⟨⟨p, hp, hin⟩, (isAsked_of_contains hin v4 v6).trans hasked⟩

/-- The text that `randomIpPort.Addr().String()` gives when the error is dropped. -/
def endpointText : Outcome (Option AddrPort) → Option String
  | .ok r => r.map fun e => e.addr.string
  | .fail _ => some "invalid IP"
  | .panic _ => none

/-- It is the text of an address of WARP. -/
lemma endpointText_eq {draws : EndpointDraws} {v4 v6 : Bool} (h : (v4 || v6) = true) {text : String}
    (htext : endpointText (randomWarpEndpoint draws v4 v6) = some text) :
    ∃ ip : Addr, text = ip.string ∧ IsWarpAddr ip ∧ isAsked v4 v6 ip = true := by
  obtain ⟨r, hr, hwarp⟩ := randomWarpEndpoint_ok draws h
  rw [hr] at htext
  obtain ⟨e, rfl, rfl⟩ := Option.map_eq_some_iff.mp htext
  exact ⟨e.addr, rfl, hwarp e rfl⟩

end HiddifyCore.Warp
