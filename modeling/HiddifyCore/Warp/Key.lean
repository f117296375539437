import Mathlib.Data.Nat.Digits.Lemmas
import HiddifyCore.GoLib.Base64
import HiddifyCore.Warp.Account

/-!
# Keys

`pkg/warp/key.go`: how `CreateIdentityOnly` draws its private key, and the text of a key. As a
number whose lowest byte is the first, a private key is what was drawn with its three lowest bits
cleared, its highest bit cleared and the one below it set; nothing else of the draw is lost. The
text is base64 and reads back as the key, all the way into the outbound of a registration.
-/

namespace HiddifyCore.Warp

open GoLib GoLib.Strings Singbox Config

def keyLen : Nat := 32

/-- `[KeyLen]byte`. -/
structure Key where
  bytes : List UInt8
  length_eq : bytes.length = keyLen

namespace Key

/-- An assignment to one of the bytes. -/
def update (k : Key) (i : Nat) (f : UInt8 → UInt8) : Key where
  bytes := k.bytes.modify i f
  length_eq := by rw [List.length_modify, k.length_eq]

/-- `String`. -/
def text (k : Key) : String := base64StdEncode k.bytes

/-- The number with these bytes, the lowest one first. -/
def value (k : Key) : Nat := Nat.ofDigits 256 (k.bytes.map UInt8.toNat)

end Key

def newKey (b : List UInt8) : Except String Key :=
  if h : b.length = keyLen then .ok ⟨b, h⟩
  else .error ("wgtypes: incorrect key size: " ++ toString b.length)

/-- What `rand.Read` writes, byte by byte, or its error. -/
abbrev RandomBytes := Except String (Nat → UInt8)

def generateKey (random : RandomBytes) : Except String Key :=
  match random with
  | .error e => .error ("wgtypes: failed to read random bytes: " ++ e)
  | .ok b => newKey ((List.range keyLen).map b)

def generatePrivateKey (random : RandomBytes) : Except String Key := do
  let key ← generateKey random
  let key := key.update 0 (· &&& 248)
  let key := key.update 31 (· &&& 127)
  pure (key.update 31 (· ||| 64))

/-- The texts of the key pair that `CreateIdentityOnly` makes, with `curve25519.ScalarBaseMult`. -/
def keyPairTexts (scalarBaseMult : Key → Key) (random : RandomBytes) :
    Except String (String × String) := do
  let priv ← generatePrivateKey random
  pure (priv.text, (scalarBaseMult priv).text)

/-! ### Texts -/

namespace Key

@[ext]
lemma ext {k k' : Key} (h : k.bytes = k'.bytes) : k = k' := by
  cases k
  cases k'
  cases h
  rfl

lemma decode_text (k : Key) : base64StdDecode k.text = k.bytes := base64StdDecode_encode k.bytes

lemma length_text (k : Key) : k.text.length = 44 := by
  rw [text, base64StdEncode, String.length_ofList, length_base64Std, k.length_eq]
  rfl

lemma text_inj {k k' : Key} : k.text = k'.text ↔ k = k' :=
  ⟨fun h => ext (base64StdEncode_injective h), congrArg text⟩

lemma digits_lt (bytes : List UInt8) : ∀ d ∈ bytes.map UInt8.toNat, d < 256 := by
  simp only [List.mem_map, forall_exists_index, and_imp, forall_apply_eq_imp_iff₂]
  exact fun b _ => b.toNat_lt

lemma value_inj {k k' : Key} : k.value = k'.value ↔ k = k' := by
  refine ⟨fun h => ext ?_, congrArg value⟩
  have hlen : (k.bytes.map UInt8.toNat).length = (k'.bytes.map UInt8.toNat).length := by
    rw [List.length_map, List.length_map, k.length_eq, k'.length_eq]
  have hdigits := Nat.ofDigits_inj_of_len_eq (by decide) hlen (digits_lt _) (digits_lt _) h
  exact List.map_injective_iff.mpr (fun a b => UInt8.toNat.inj) hdigits

/-! ### Private keys -/

/-- The first and the last byte, which a private key does not have as they were drawn. -/
lemma exists_ends (k : Key) : ∃ first mid last,
    k.bytes = first :: (mid ++ [last]) ∧ mid.length = 30 := by
  have hlen := k.length_eq
  rcases hbytes : k.bytes with - | ⟨first, rest⟩
  · rw [hbytes] at hlen
    cases hlen
  · rw [hbytes] at hlen
    rcases rest.eq_nil_or_concat with rfl | ⟨mid, last, rfl⟩
    · cases hlen
    · refine ⟨first, mid, last, by rw [List.concat_eq_append], ?_⟩
      simpa [keyLen] using hlen

lemma value_ends (first last : UInt8) (mid : List UInt8) (hmid : mid.length = 30) :
    Nat.ofDigits 256 ((first :: (mid ++ [last])).map UInt8.toNat) =
      first.toNat + 256 * Nat.ofDigits 256 (mid.map UInt8.toNat) + 2 ^ 248 * last.toNat := by
  rw [List.map_cons, List.map_append, Nat.ofDigits_cons, Nat.ofDigits_append, List.length_map, hmid]
  simp
  ring

/-- What `GeneratePrivateKey` makes of the random bytes. -/
def clamp (k : Key) : Key :=
  ((k.update 0 (· &&& 248)).update 31 (· &&& 127)).update 31 (· ||| 64)

lemma modify_last {α : Type} (xs : List α) (x : α) (f : α → α) :
    (xs ++ [x]).modify xs.length f = xs ++ [f x] := by
  induction xs with
  | nil => rfl
  | cons y ys ih => rw [List.cons_append, List.length_cons, List.modify_succ_cons, ih]; rfl

lemma clamp_ends {k : Key} {first last : UInt8} {mid : List UInt8}
    (h : k.bytes = first :: (mid ++ [last])) (hmid : mid.length = 30) :
    k.clamp.bytes = (first &&& 248) :: (mid ++ [(last &&& 127) ||| 64]) := by
  simp only [clamp, update, h, List.modify_zero_cons, List.modify_succ_cons]
  rw [← hmid, modify_last, modify_last]

lemma toNat_first (b : UInt8) : (b &&& 248).toNat = b.toNat / 8 * 8 := by
  have hall : ∀ n < 256, n &&& 248 = n / 8 * 8 := by decide +kernel
  rw [UInt8.toNat_and]
  exact hall _ b.toNat_lt

lemma toNat_last (b : UInt8) : ((b &&& 127) ||| 64).toNat = b.toNat % 64 + 64 := by
  have hall : ∀ n < 256, n &&& 127 ||| 64 = n % 64 + 64 := by decide +kernel
  rw [UInt8.toNat_or, UInt8.toNat_and]
  exact hall _ b.toNat_lt

/-- Five bits of the draw are overwritten, and the others kept. -/
lemma value_clamp (k : Key) : k.clamp.value = k.value % 2 ^ 254 / 8 * 8 + 2 ^ 254 := by
  obtain ⟨first, mid, last, hbytes, hmid⟩ := k.exists_ends
  have hlt : Nat.ofDigits 256 (mid.map UInt8.toNat) < 256 ^ 30 := by
    rw [← hmid, ← List.length_map (f := UInt8.toNat)]
    exact Nat.ofDigits_lt_base_pow_length (by decide) (digits_lt mid)
  have hfirst := first.toNat_lt
  have hlast := last.toNat_lt
  rw [value, value, clamp_ends hbytes hmid, hbytes, value_ends _ _ mid hmid,
    value_ends _ _ mid hmid, toNat_first, toNat_last]
  omega

/-- A multiple of the cofactor with the bit 254 for its highest. -/
structure IsScalar (k : Key) : Prop where
  dvd : 8 ∣ k.value
  ge : 2 ^ 254 ≤ k.value
  lt : k.value < 2 ^ 255

lemma isScalar_clamp (k : Key) : k.clamp.IsScalar := by
  constructor <;> rw [value_clamp] <;> omega

lemma IsScalar.clamp_eq {k : Key} (h : k.IsScalar) : k.clamp = k := by
  obtain ⟨hdvd, hge, hlt⟩ := h
  rw [← value_inj, value_clamp]
  omega

/-- The key with the first bytes of the random source. -/
def drawn (b : Nat → UInt8) : Key where
  bytes := (List.range keyLen).map b
  length_eq := by rw [List.length_map, List.length_range]

lemma exists_drawn (k : Key) : ∃ b, drawn b = k := by
  refine ⟨fun n => k.bytes.getD n 0, ext ?_⟩
  apply List.ext_getElem
  · simp [drawn, k.length_eq]
  · intro n _ hn
    simp [drawn, hn]

end Key

section Draws

variable {scalarBaseMult : Key → Key} {random : RandomBytes} {a : Answers}

lemma generatePrivateKey_ok (b : Nat → UInt8) :
    generatePrivateKey (.ok b) = .ok (Key.drawn b).clamp := by
  have hlen : ((List.range keyLen).map b).length = keyLen := by
    rw [List.length_map, List.length_range]
  simp only [generatePrivateKey, generateKey, newKey, dif_pos hlen]
  rfl

lemma generatePrivateKey_isScalar {k : Key} (h : generatePrivateKey random = .ok k) :
    k.IsScalar := by
  cases random with
  | error e => cases h
  | ok b =>
    rw [generatePrivateKey_ok] at h
    cases h
    exact Key.isScalar_clamp _

/-- Private keys are the scalars, and the texts of two draws are equal exactly when the draws agree
but for the five bits. -/
theorem generatePrivateKey_draws :
    (∀ k, (∃ b, generatePrivateKey (.ok b) = .ok k) ↔ k.IsScalar) ∧
    ∀ b b' : Nat → UInt8, ∃ k k', generatePrivateKey (.ok b) = .ok k ∧
      generatePrivateKey (.ok b') = .ok k' ∧
      (k.text = k'.text ↔
        (Key.drawn b).value % 2 ^ 254 / 8 = (Key.drawn b').value % 2 ^ 254 / 8) := by
  constructor
  · intro k
    constructor
    · rintro ⟨b, h⟩
      exact generatePrivateKey_isScalar h
    · intro h
      obtain ⟨b, rfl⟩ := k.exists_drawn
      exact ⟨b, by rw [generatePrivateKey_ok, h.clamp_eq]⟩
  · intro b b'
    refine ⟨_, _, generatePrivateKey_ok b, generatePrivateKey_ok b', ?_⟩
    rw [Key.text_inj, ← Key.value_inj, Key.value_clamp, Key.value_clamp]
    omega

/-! ### The key of a registration -/

lemma keyPairTexts_ok {texts : String × String}
    (h : keyPairTexts scalarBaseMult random = .ok texts) :
    ∃ k, generatePrivateKey random = .ok k ∧ texts = (k.text, (scalarBaseMult k).text) := by
  cases hkey : generatePrivateKey random with
  | error e =>
    simp only [keyPairTexts, hkey] at h
    cases h
  | ok k =>
    simp only [keyPairTexts, hkey] at h
    cases h
    exact ⟨k, rfl, rfl⟩

variable {license oldAccountId oldAccessToken : String} {devices : Devices}

/-- The outbound of a registration has the text of a private key that was drawn for it, and the
service was given the text of the public key that belongs to it. -/
theorem registeredOutbound_privateKey {D : Deps}
    (ha : a.privateKey = keyPairTexts scalarBaseMult random) {host : String} {port : UInt16}
    {fake : FakePackets} {out : Outbound}
    (h : registeredOutbound D a license oldAccountId oldAccessToken devices host port fake =
      .ok out) :
    ∃ k i peer, generatePrivateKey random = .ok k ∧ k.IsScalar ∧
      base64StdDecode out.wireGuardOptions.privateKey = k.bytes ∧
      out.wireGuardOptions.privateKey.length = 44 ∧
      a.register (scalarBaseMult k).text = .ok i ∧ i.config.peers.head? = some peer ∧
      out.wireGuardOptions.peerPublicKey = peer.publicKey := by
  obtain ⟨wgConfig, hconfig, hsingbox⟩ := Outcome.bind_eq_ok.mp h
  obtain ⟨reserved, p4, p6, -, -, -, rfl⟩ := generateWarpSingbox_eq_ok.mp hsingbox
  obtain ⟨r, created, hcases, hrun⟩ :=
    generateWarpInfo_cases a license oldAccountId oldAccessToken devices
  rw [hrun] at hconfig
  cases hcases with
  | unregistered e hnone =>
    rw [warpInfoOf_error] at hconfig
    cases hconfig
  | unlicensed hreg hac =>
    rw [warpInfoOf_error] at hconfig
    cases hconfig
  | @created text i ac hreg hac =>
    obtain ⟨publicText, hpair, hanswer⟩ := hreg
    cases hpeers : i.config.peers with
    | nil =>
      rw [warpInfoOf_no_peer (by exact hpeers)] at hconfig
      cases hconfig
    | cons peer rest =>
      rw [warpInfoOf_peer (by exact hpeers)] at hconfig
      cases hconfig
      rw [ha] at hpair
      obtain ⟨k, hkey, htexts⟩ := keyPairTexts_ok hpair
      cases htexts
      exact ⟨k, i, peer, hkey, generatePrivateKey_isScalar hkey, k.decode_text, k.length_text,
        hanswer, by rw [hpeers]; rfl, rfl⟩

end Draws

/-! ### A registration -/

namespace Curve25519

def fieldSize : Nat := 2 ^ 255 - 19

def sub (a b : Nat) : Nat := (a + (fieldSize - b)) % fieldSize

/-- The power for the lowest bits of the exponent. -/
def pow (b e : Nat) : Nat → Nat
  | 0 => 1
  | bits + 1 =>
    let r := pow b (e / 2) bits
    if e % 2 = 1 then r * r % fieldSize * b % fieldSize else r * r % fieldSize

/-- Two points of Curve25519 that differ by the base point, each as the quotient of two numbers. -/
structure Ladder where
  x2 : Nat := 1
  z2 : Nat := 0
  x3 : Nat := 9
  z3 : Nat := 1

def Ladder.swapIf (bit : Bool) (l : Ladder) : Ladder :=
  if bit then ⟨l.x3, l.z3, l.x2, l.z2⟩ else l

/-- The first point doubled, and the sum of the two. -/
def Ladder.step (l : Ladder) : Ladder :=
  let aa := (l.x2 + l.z2) ^ 2 % fieldSize
  let bb := sub l.x2 l.z2 ^ 2 % fieldSize
  let e := sub aa bb
  let da := sub l.x3 l.z3 * (l.x2 + l.z2) % fieldSize
  let cb := (l.x3 + l.z3) * sub l.x2 l.z2 % fieldSize
  { x2 := aa * bb % fieldSize
    z2 := e * (aa + 121665 * e) % fieldSize
    x3 := (da + cb) ^ 2 % fieldSize
    z3 := 9 * sub da cb ^ 2 % fieldSize }

/-- Montgomery's ladder for the lowest bits of the scalar. -/
def Ladder.run (scalar : Nat) : Nat → Ladder → Ladder
  | 0, l => l
  | bits + 1, l =>
    let bit := scalar.testBit bits
    Ladder.run scalar bits ((l.swapIf bit).step.swapIf bit)

/-- The key with this value. -/
def keyOf (value : Nat) : Key := .drawn fun i => UInt8.ofNat (value / 256 ^ i)

/-- `curve25519.ScalarBaseMult`. -/
def scalarBaseMult (k : Key) : Key :=
  let l := Ladder.run k.clamp.value 255 {}
  keyOf (l.x2 * pow l.z2 (fieldSize - 2) 255 % fieldSize)

example : (scalarBaseMult
      (keyOf 0x2a2cb91da5fb77b12a99c0eb872f4cdf4566b25172c1163c7da518730a6d0777)).value =
    0x6a4e9baa8ea9a4ebf41a38260d3abf0d5af73eb4dc7d8b7454a7308909f02085 := by decide +kernel

end Curve25519

/-- The bytes of the random source count up. -/
def Reference.counting : RandomBytes := .ok UInt8.ofNat

/-- A service that registers one device with the key of these bytes. -/
def Reference.drawing : Answers :=
  { Reference.registering "AQID" with
    privateKey := keyPairTexts Curve25519.scalarBaseMult Reference.counting }

/-- The draws of a builder that registers a device with these answers. -/
def Reference.drawingDraws : Draws where
  generateWarpInfo license := warpConfigOf (generateWarpInfo Reference.drawing license "" "" ∅).1

open Reference in
/-- The outbound that the builder makes for a key of its own. -/
theorem registeredOutbound_privateKey_drawing : ∃ out,
    generateWarp Config.Reference.decodingDeps drawingDraws "" "" 0 {} = .ok out ∧
    ∃ k i peer, generatePrivateKey counting = .ok k ∧ k.IsScalar ∧
      base64StdDecode out.wireGuardOptions.privateKey = k.bytes ∧
      out.wireGuardOptions.privateKey.length = 44 ∧
      drawing.register (Curve25519.scalarBaseMult k).text = .ok i ∧
      i.config.peers.head? = some peer ∧ out.wireGuardOptions.peerPublicKey = peer.publicKey := by
  have hreg : ∃ out, registeredOutbound Config.Reference.decodingDeps drawing "" "" "" ∅ "" 0 {} =
      .ok out := ⟨_, rfl⟩
  obtain ⟨out, hout⟩ := hreg
  have hbuilder := generateWarp_eq_registeredOutbound Config.Reference.decodingDeps drawingDraws
    drawing ∅ "" "" 0 {} fun _ => rfl
  exact ⟨out, hbuilder.trans hout, registeredOutbound_privateKey rfl hout⟩

end HiddifyCore.Warp
