import Mathlib.Algebra.Group.Int.Defs
import HiddifyCore.Config.Warp
import HiddifyCore.Config.Reference

/-!
# What is generated from a WARP identity

When `GenerateWarpSingbox` succeeds and the record it then returns, as one equivalence. From it:
which addresses of an identity may be absent, and what a custom WARP outbound keeps of its own
settings.
-/

namespace HiddifyCore.Config

open GoLib GoLib.Strings Singbox

variable {D : Deps}

/-! ### The generated record -/

/-- The settings that are left empty get their defaults. -/
def FakePackets.filled (fake : FakePackets) (host : String) : FakePackets :=
  let packets := if (host = "auto" ∨ host = "auto4" ∨ host = "auto6") ∧ fake.packets = "" then "1-3"
    else fake.packets
  { packets := packets
    size := if packets ≠ "" ∧ fake.size = "" then "10-30" else fake.size
    delay := if packets ≠ "" ∧ fake.delay = "" then "10-30" else fake.delay
    mode := fake.mode }

def filledHost (host : String) : String := if host = "" then "auto4" else host

/-- The outbound with the settings as they were filled. -/
def warpRecord (wgConfig : WarpWireguardConfig) (reserved : List UInt8) (prefixes : List Prefix)
    (host : String) (port : UInt16) (fake : FakePackets) : Outbound where
  type := .wireguard
  tag := "WARP"
  wireGuardOptions := {
    server := host
    serverPort := port
    privateKey := wgConfig.privateKey
    peerPublicKey := wgConfig.peerPublicKey
    reserved := reserved
    mtu := 1330
    localAddress := prefixes
    fakePackets := fake.packets
    fakePacketsSize := fake.size
    fakePacketsDelay := fake.delay
    fakePacketsMode := fake.mode }

/-- Both addresses are parsed, present or not: with its prefix length neither text is empty. -/
lemma parsePrefixes_addresses (wgConfig : WarpWireguardConfig) :
    parsePrefixes D
        ([wgConfig.localAddressIPv4 ++ "/24", wgConfig.localAddressIPv6 ++ "/128"].filter
          (· ≠ "")) =
      (do
        let p4 ← D.parsePrefix (wgConfig.localAddressIPv4 ++ "/24")
        let p6 ← D.parsePrefix (wgConfig.localAddressIPv6 ++ "/128")
        .ok [p4, p6]) := by
  have hkept (addr bits : String) (h : bits ≠ "") : addr ++ bits ≠ "" := by
    simp [String.append_eq_empty_iff, h]
  have h4 := hkept wgConfig.localAddressIPv4 "/24" (by decide)
  have h6 := hkept wgConfig.localAddressIPv6 "/128" (by decide)
  simp only [List.filter_cons, List.filter_nil, h4, h6, ne_eq, not_false_eq_true, decide_true,
    if_true]
  simp only [parsePrefixes]
  cases D.parsePrefix (wgConfig.localAddressIPv4 ++ "/24") with
  | ok p4 => cases D.parsePrefix (wgConfig.localAddressIPv6 ++ "/128") <;> rfl
  | fail e => rfl
  | panic e => rfl

/-- `GenerateWarpSingbox` is three steps that may fail, and the record. -/
lemma generateWarpSingbox_eq (wgConfig : WarpWireguardConfig) (host : String) (port : UInt16)
    (fake : FakePackets) :
    generateWarpSingbox D wgConfig host port fake =
      (do
        let reserved ← reservedBytes (D.decodeBase64 wgConfig.clientID)
        let p4 ← D.parsePrefix (wgConfig.localAddressIPv4 ++ "/24")
        let p6 ← D.parsePrefix (wgConfig.localAddressIPv6 ++ "/128")
        .ok (warpRecord wgConfig reserved [p4, p6] (filledHost host) port
          (fake.filled (filledHost host)))) := by
  simp only [generateWarpSingbox, wireGuardToSingbox, parsePrefixes_addresses]
  cases reservedBytes (D.decodeBase64 wgConfig.clientID) with
  | fail e => rfl
  | panic e => rfl
  | ok reserved =>
    cases D.parsePrefix (wgConfig.localAddressIPv4 ++ "/24") with
    | fail e => rfl
    | panic e => rfl
    | ok p4 => cases D.parsePrefix (wgConfig.localAddressIPv6 ++ "/128") <;> rfl

lemma generateWarpSingbox_eq_ok {wgConfig : WarpWireguardConfig} {host : String} {port : UInt16}
    {fake : FakePackets} {out : Outbound} :
    generateWarpSingbox D wgConfig host port fake = .ok out ↔
      ∃ reserved p4 p6, reservedBytes (D.decodeBase64 wgConfig.clientID) = .ok reserved ∧
        D.parsePrefix (wgConfig.localAddressIPv4 ++ "/24") = .ok p4 ∧
        D.parsePrefix (wgConfig.localAddressIPv6 ++ "/128") = .ok p6 ∧
        out = warpRecord wgConfig reserved [p4, p6] (filledHost host) port
          (fake.filled (filledHost host)) := by
  rw [generateWarpSingbox_eq]
  constructor
  · intro h
    obtain ⟨reserved, hreserved, h⟩ := Outcome.bind_eq_ok.mp h
    obtain ⟨p4, hp4, h⟩ := Outcome.bind_eq_ok.mp h
    obtain ⟨p6, hp6, h⟩ := Outcome.bind_eq_ok.mp h
    cases h
    exact ⟨reserved, p4, p6, hreserved, hp4, hp6, rfl⟩
  · rintro ⟨reserved, p4, p6, hreserved, hp4, hp6, rfl⟩
    rw [hreserved, Outcome.bind_ok, hp4, Outcome.bind_ok, hp6]
    rfl

/-! ### The reserved bytes -/

/-- The first three bytes of the client id, or three zero bytes when it has fewer. -/
def firstThree (clientID : List UInt8) : List UInt8 :=
  if 3 ≤ clientID.length then clientID.take 3 else [0, 0, 0]

lemma reservedBytes_of_length {clientID : List UInt8} (h : clientID.length ≠ 2) :
    reservedBytes clientID = .ok (firstThree clientID) := by
  match clientID, h with
  | [], _ => rfl
  | [_], _ => rfl
  | [_, _], h => exact absurd rfl h
  | a :: b :: c :: rest, _ => simp [reservedBytes, firstThree]

lemma reservedBytes_isPanic {clientID : List UInt8} :
    (reservedBytes clientID).IsPanic ↔ clientID.length = 2 := by
  constructor
  · intro h
    by_contra hne
    rw [reservedBytes_of_length hne] at h
    exact h
  · intro h
    match clientID, h with
    | [_, _], _ => trivial

/-! ### Absent addresses -/

/-- What `netip.ParsePrefix` documents: it panics on no text, and a prefix starts with an
address. -/
structure Deps.PrefixDocumented (D : Deps) : Prop where
  returns (s : String) : ¬ (D.parsePrefix s).IsPanic
  needs_address {s : String} (h : hasPrefix s "/" = true) : ¬ (D.parsePrefix s).IsOk

def Deps.ValidPrefix (D : Deps) (s : String) : Prop := (D.parsePrefix s).IsOk

instance (s : String) : Decidable (D.ValidPrefix s) :=
  inferInstanceAs (Decidable (D.parsePrefix s).IsOk)

/-- The addresses that the identity has, each with its prefix length. -/
def presentAddresses (wgConfig : WarpWireguardConfig) : List String :=
  (if wgConfig.localAddressIPv4 = "" then [] else [wgConfig.localAddressIPv4 ++ "/24"]) ++
    if wgConfig.localAddressIPv6 = "" then [] else [wgConfig.localAddressIPv6 ++ "/128"]

lemma mem_presentAddresses {wgConfig : WarpWireguardConfig} {addr : String} :
    addr ∈ presentAddresses wgConfig ↔
      (wgConfig.localAddressIPv4 ≠ "" ∧ addr = wgConfig.localAddressIPv4 ++ "/24") ∨
        (wgConfig.localAddressIPv6 ≠ "" ∧ addr = wgConfig.localAddressIPv6 ++ "/128") := by
  simp only [presentAddresses, List.mem_append]
  by_cases h4 : wgConfig.localAddressIPv4 = "" <;> by_cases h6 : wgConfig.localAddressIPv6 = "" <;>
    simp [h4, h6]

/-- Only a present address that is not valid is an error, and `LocalAddress` lists the present
ones. -/
structure SkipsAbsent (D : Deps) (wgConfig : WarpWireguardConfig) (o : Outcome Outbound) :
    Prop where
  isFail_iff : o.IsFail ↔ ∃ addr ∈ presentAddresses wgConfig, ¬ D.ValidPrefix addr
  lists (h : ∀ addr ∈ presentAddresses wgConfig, D.ValidPrefix addr) :
    ∃ out, o = .ok out ∧ List.Forall₂ (fun addr p => D.parsePrefix addr = .ok p)
      (presentAddresses wgConfig) out.wireGuardOptions.localAddress

lemma Deps.PrefixDocumented.ok_or_fail (hD : D.PrefixDocumented) (s : String) :
    (∃ p, D.parsePrefix s = .ok p) ∨ ∃ e, D.parsePrefix s = .fail e := by
  cases hs : D.parsePrefix s with
  | ok p => exact .inl ⟨p, rfl⟩
  | fail e => exact .inr ⟨e, rfl⟩
  | panic e => exact absurd (hs ▸ trivial) (hD.returns s)

lemma generateWarpSingbox_isFail_iff (hD : D.PrefixDocumented) {wgConfig : WarpWireguardConfig}
    (hclient : (D.decodeBase64 wgConfig.clientID).length ≠ 2) (host : String) (port : UInt16)
    (fake : FakePackets) :
    (generateWarpSingbox D wgConfig host port fake).IsFail ↔
      ¬ (D.ValidPrefix (wgConfig.localAddressIPv4 ++ "/24") ∧
        D.ValidPrefix (wgConfig.localAddressIPv6 ++ "/128")) := by
  rw [generateWarpSingbox_eq, reservedBytes_of_length hclient, Outcome.bind_ok]
  simp only [Deps.ValidPrefix]
  obtain ⟨p4, hp4⟩ | ⟨e, hp4⟩ := hD.ok_or_fail (wgConfig.localAddressIPv4 ++ "/24")
  · obtain ⟨p6, hp6⟩ | ⟨e, hp6⟩ := hD.ok_or_fail (wgConfig.localAddressIPv6 ++ "/128")
    · simp [hp4, hp6]
    · simp [hp4, hp6]
  · simp [hp4]

/-- The only panic is the index into a client id of two bytes. -/
lemma generateWarpSingbox_isPanic_iff (hD : D.PrefixDocumented) {wgConfig : WarpWireguardConfig}
    (host : String) (port : UInt16) (fake : FakePackets) :
    (generateWarpSingbox D wgConfig host port fake).IsPanic ↔
      (D.decodeBase64 wgConfig.clientID).length = 2 := by
  rw [← reservedBytes_isPanic, generateWarpSingbox_eq]
  cases reservedBytes (D.decodeBase64 wgConfig.clientID) with
  | panic e => simp
  | fail e => simp
  | ok reserved =>
    rw [Outcome.bind_ok]
    obtain ⟨p4, hp4⟩ | ⟨e, hp4⟩ := hD.ok_or_fail (wgConfig.localAddressIPv4 ++ "/24")
    · obtain ⟨p6, hp6⟩ | ⟨e, hp6⟩ := hD.ok_or_fail (wgConfig.localAddressIPv6 ++ "/128")
      · simp [hp4, hp6]
      · simp [hp4, hp6]
    · simp [hp4]

/-- The skip comes after the prefix length was appended, so that an absent address is an error. -/
theorem generateWarpSingbox_skipsAbsent_iff (hD : D.PrefixDocumented)
    {wgConfig : WarpWireguardConfig} (hclient : (D.decodeBase64 wgConfig.clientID).length ≠ 2)
    (host : String) (port : UInt16) (fake : FakePackets) :
    SkipsAbsent D wgConfig (generateWarpSingbox D wgConfig host port fake) ↔
      (wgConfig.localAddressIPv4 ≠ "" ∧ wgConfig.localAddressIPv6 ≠ "") ∨
        ∃ addr ∈ presentAddresses wgConfig, ¬ D.ValidPrefix addr := by
  have hfail := generateWarpSingbox_isFail_iff hD hclient host port fake
  constructor
  · intro h
    by_contra! hno
    obtain ⟨habsent, hvalid⟩ := hno
    obtain ⟨out, hout, -⟩ := h.lists hvalid
    obtain ⟨-, p4, p6, -, hp4, hp6, -⟩ := generateWarpSingbox_eq_ok.mp hout
    -- one of the two texts is a prefix length alone
    by_cases h4 : wgConfig.localAddressIPv4 = ""
    · refine hD.needs_address (s := wgConfig.localAddressIPv4 ++ "/24") (by rw [h4]; decide) ?_
      rw [hp4]
      trivial
    · have h6 := habsent h4
      refine hD.needs_address (s := wgConfig.localAddressIPv6 ++ "/128") (by rw [h6]; decide) ?_
      rw [hp6]
      trivial
  · rintro (⟨h4, h6⟩ | hinvalid)
    · have hpresent : presentAddresses wgConfig =
          [wgConfig.localAddressIPv4 ++ "/24", wgConfig.localAddressIPv6 ++ "/128"] := by
        simp [presentAddresses, h4, h6]
      refine ⟨?_, fun hvalid => ?_⟩
      · rw [hfail, hpresent]
        simp only [List.mem_cons, List.not_mem_nil, or_false, exists_eq_or_imp, exists_eq_left]
        tauto
      · rw [hpresent] at hvalid ⊢
        obtain ⟨p4, hp4⟩ := (hvalid _ List.mem_cons_self).exists_eq
        obtain ⟨p6, hp6⟩ := (hvalid _ (List.mem_cons_of_mem _ List.mem_cons_self)).exists_eq
        exact ⟨_, generateWarpSingbox_eq_ok.mpr
          ⟨_, p4, p6, reservedBytes_of_length hclient, hp4, hp6, rfl⟩, .cons hp4 (.cons hp6 .nil)⟩
    · refine ⟨?_, fun hvalid => ?_⟩
      · refine iff_of_true (hfail.mpr ?_) hinvalid
        rintro ⟨hv4, hv6⟩
        obtain ⟨addr, haddr, hbad⟩ := hinvalid
        rcases mem_presentAddresses.mp haddr with ⟨-, rfl⟩ | ⟨-, rfl⟩
        · exact hbad hv4
        · exact hbad hv6
      · obtain ⟨addr, haddr, hbad⟩ := hinvalid
        exact absurd (hvalid addr haddr) hbad

/-- The reference dependencies with the decoder of the standard library. -/
def Reference.decodingDeps : Deps := { Reference.deps with decodeBase64 := base64StdDecode }

lemma Reference.decodingDeps_prefixDocumented : Reference.decodingDeps.PrefixDocumented where
  returns s := by
    simp only [Reference.decodingDeps, Reference.deps, Reference.parsePrefix]
    split <;> simp
  needs_address {s} h := by
    simp only [Reference.decodingDeps, Reference.deps, Reference.parsePrefix]
    split
    · exact absurd h (by decide)
    · exact absurd h (by decide)
    · exact id

/-- An identity with both addresses and one without an IPv6 address. -/
def Reference.dualStack : WarpWireguardConfig where
  localAddressIPv4 := "172.16.0.2"
  localAddressIPv6 := "2606:4700:110:8a36::1"

def Reference.onlyIPv4 : WarpWireguardConfig where
  localAddressIPv4 := "172.16.0.2"

theorem skipsAbsent_dualStack :
    SkipsAbsent Reference.decodingDeps Reference.dualStack
      (generateWarpSingbox Reference.decodingDeps Reference.dualStack "" 0 {}) :=
  (generateWarpSingbox_skipsAbsent_iff Reference.decodingDeps_prefixDocumented (by decide) "" 0
    {}).mpr (Or.inl (by decide))

theorem not_skipsAbsent_onlyIPv4 :
    ¬ SkipsAbsent Reference.decodingDeps Reference.onlyIPv4
      (generateWarpSingbox Reference.decodingDeps Reference.onlyIPv4 "" 0 {}) := by
  intro h
  have hvalid : ∀ addr ∈ presentAddresses Reference.onlyIPv4,
      Reference.decodingDeps.ValidPrefix addr := by
    intro addr haddr
    obtain rfl : addr = "172.16.0.2/24" := by
      simpa [presentAddresses, Reference.onlyIPv4] using haddr
    decide
  obtain ⟨out, hout, -⟩ := h.lists hvalid
  exact absurd (hout ▸ trivial : (generateWarpSingbox Reference.decodingDeps Reference.onlyIPv4
    "" 0 {}).IsOk) (by decide)

/-! ### Custom WARP outbounds -/

/-- The settings of the `warp` object of a custom outbound. -/
structure CustomWarp where
  key : String
  host : String
  port : Nat
  detour : String
  fake : FakePackets

/-- The object gives all of them, for one of the two identities of the options. -/
structure CustomWarp.GivenIn (w : CustomWarp) (warp : JObj) : Prop where
  key : warp.get? "key" = some (.str w.key)
  key_mem : w.key = "p1" ∨ w.key = "p2"
  host : warp.get? "host" = some (.str w.host)
  port : ∃ e, warp.get? "port" = some (.num (w.port * 10 ^ e) e)
  port_mem : 1 ≤ w.port ∧ w.port ≤ 65535
  detour : warp.get? "detour" = some (.str w.detour)
  packets : warp.get? "fake_packets" = some (.str w.fake.packets)
  size : warp.get? "fake_packets_size" = some (.str w.fake.size)
  delay : warp.get? "fake_packets_delay" = some (.str w.fake.delay)
  mode : warp.get? "fake_packets_mode" = some (.str w.fake.mode)

/-- The identity that the key names. -/
def identityOf (opt : ConfigOptions) (key : String) : WarpWireguardConfig :=
  if key = "p1" then opt.warp.wireguardConfig else opt.warp2.wireguardConfig

structure Usable (D : Deps) (wgConfig : WarpWireguardConfig) : Prop where
  clientID : (D.decodeBase64 wgConfig.clientID).length ≠ 2
  ipv4 : D.ValidPrefix (wgConfig.localAddressIPv4 ++ "/24")
  ipv6 : D.ValidPrefix (wgConfig.localAddressIPv6 ++ "/128")

/-- An identity that is usable fails with no settings. -/
lemma Usable.generateWarpSingbox_eq {wgConfig : WarpWireguardConfig} (h : Usable D wgConfig) :
    ∃ p4 p6, D.parsePrefix (wgConfig.localAddressIPv4 ++ "/24") = .ok p4 ∧
      D.parsePrefix (wgConfig.localAddressIPv6 ++ "/128") = .ok p6 ∧
      ∀ host port fake, generateWarpSingbox D wgConfig host port fake =
        .ok (warpRecord wgConfig (firstThree (D.decodeBase64 wgConfig.clientID)) [p4, p6]
          (filledHost host) port (fake.filled (filledHost host))) := by
  obtain ⟨p4, hp4⟩ := h.ipv4.exists_eq
  obtain ⟨p6, hp6⟩ := h.ipv6.exists_eq
  refine ⟨p4, p6, hp4, hp6, fun host port fake => ?_⟩
  rw [Config.generateWarpSingbox_eq, reservedBytes_of_length h.clientID, hp4, hp6]
  rfl

/-- The WireGuard outbound has the settings and the identity. -/
structure CustomWarp.CarriedOver (w : CustomWarp) (D : Deps) (wgConfig : WarpWireguardConfig)
    (base out : Outbound) : Prop where
  type : out.type = .wireguard
  tag : out.tag = base.tag
  server : out.wireGuardOptions.server = w.host
  serverPort : out.wireGuardOptions.serverPort.toNat = w.port
  detour : out.wireGuardOptions.detour = w.detour
  packets : out.wireGuardOptions.fakePackets = w.fake.packets
  size : out.wireGuardOptions.fakePacketsSize = w.fake.size
  delay : out.wireGuardOptions.fakePacketsDelay = w.fake.delay
  mode : out.wireGuardOptions.fakePacketsMode = w.fake.mode
  privateKey : out.wireGuardOptions.privateKey = wgConfig.privateKey
  peerPublicKey : out.wireGuardOptions.peerPublicKey = wgConfig.peerPublicKey
  localAddress : List.Forall₂ (fun addr p => D.parsePrefix addr = .ok p)
    [wgConfig.localAddressIPv4 ++ "/24", wgConfig.localAddressIPv6 ++ "/128"]
    out.wireGuardOptions.localAddress

/-- The settings after the defaults of `GenerateWarpSingbox`, with a port. -/
def CustomWarp.filled (w : CustomWarp) (port : Nat) : CustomWarp :=
  { w with host := filledHost w.host, port := port, fake := w.fake.filled (filledHost w.host) }

/-- None of the settings with a default is left empty. -/
def CustomWarp.Complete (w : CustomWarp) : Prop :=
  w.host ≠ "" ∧ w.fake.packets ≠ "" ∧ w.fake.size ≠ "" ∧ w.fake.delay ≠ ""

lemma CustomWarp.Complete.filled_eq {w : CustomWarp} (h : w.Complete) (port : Nat) :
    w.filled port = { w with port := port } := by
  obtain ⟨hhost, hpackets, hsize, hdelay⟩ := h
  simp [filled, FakePackets.filled, filledHost, hhost, hpackets, hsize, hdelay]

/-- For the keys of the options the port is the one that the assertion yields. -/
lemma customWarpConfig_of_key {draws : Draws} {opt : ConfigOptions} {warp : JObj}
    (h : warp.getString "key" = "p1" ∨ warp.getString "key" = "p2") :
    customWarpConfig D draws (some opt) warp =
      some <$> generateWarpSingbox D (identityOf opt (warp.getString "key"))
        (warp.getString "host") (warp.getUInt16 "port") (warpFake warp) := by
  simp only [customWarpConfig, identityOf, JObj.getUInt16_eq_zero]
  rcases h with h | h <;> simp [h]

lemma patchWarp_of_config {draws : Draws} {base config : Outbound}
    {configOpt : Option ConfigOptions} {warp : JObj} (hwarp : warpObject base = some warp)
    (hconfig : customWarpConfig D draws configOpt warp = .ok (some config)) (final : Bool) :
    patchWarp D draws base configOpt final =
      .ok (finishWarp D draws (resolveWarp base config (warp.getString "detour")) final) := by
  simp only [patchWarp, hwarp, hconfig, Outcome.bind_ok]

@[simp]
lemma finishWarp_not_final (draws : Draws) (base : Outbound) :
    finishWarp D draws base false = (base, []) := by
  simp [finishWarp]

/-- What a custom outbound with all the settings becomes. -/
lemma patchWarp_filled {draws : Draws} {opt : ConfigOptions} {base : Outbound} {warp : JObj}
    {w : CustomWarp} (hwarp : warpObject base = some warp) (hw : w.GivenIn warp)
    (huse : Usable D (identityOf opt w.key)) :
    ∃ out, patchWarp D draws base (some opt) false = .ok (out, []) ∧
      (w.filled 0).CarriedOver D (identityOf opt w.key) base out := by
  have hkey := Reference.getString_of_get? hw.key
  have hhost := Reference.getString_of_get? hw.host
  have hdetour := Reference.getString_of_get? hw.detour
  have hfake : warpFake warp = w.fake := by
    simp only [warpFake, Reference.getString_of_get? hw.packets,
      Reference.getString_of_get? hw.size, Reference.getString_of_get? hw.delay,
      Reference.getString_of_get? hw.mode]
  obtain ⟨p4, p6, hp4, hp6, hgen⟩ := huse.generateWarpSingbox_eq
  have hconfig : customWarpConfig D draws (some opt) warp = _ :=
    customWarpConfig_of_key (hkey.symm ▸ hw.key_mem)
  rw [hkey, hhost, hfake, JObj.getUInt16_eq_zero, hgen] at hconfig
  have hpatch := patchWarp_of_config hwarp hconfig false
  rw [hdetour, finishWarp_not_final] at hpatch
  exact ⟨_, hpatch, {
    type := rfl
    tag := rfl
    server := rfl
    serverPort := rfl
    detour := rfl
    packets := rfl
    size := rfl
    delay := rfl
    mode := rfl
    privateKey := rfl
    peerPublicKey := rfl
    localAddress := .cons hp4 (.cons hp6 .nil) }⟩

/-- The assertion on the port fails on every decoded number. All the other settings are carried
over, and the port is zero. -/
theorem patchWarp_custom_port {draws : Draws} {opt : ConfigOptions} {base : Outbound}
    {warp : JObj} {w : CustomWarp} (hwarp : warpObject base = some warp) (hw : w.GivenIn warp)
    (huse : Usable D (identityOf opt w.key)) :
    ∃ out, patchWarp D draws base (some opt) false = .ok (out, []) ∧
      ¬ w.CarriedOver D (identityOf opt w.key) base out ∧
      (w.Complete → { w with port := 0 }.CarriedOver D (identityOf opt w.key) base out) := by
  obtain ⟨out, hout, hfilled⟩ := @patchWarp_filled D draws _ _ _ _ hwarp hw huse
  refine ⟨out, hout, fun h => ?_, fun hcomplete => ?_⟩
  · have hport : w.port = 0 := h.serverPort.symm.trans hfilled.serverPort
    have hpos := hw.port_mem.1
    omega
  · rw [← hcomplete.filled_eq]
    exact hfilled

namespace Reference

def customWarp : CustomWarp where
  key := "p1"
  host := "188.114.97.3"
  port := 2408
  detour := "proxy"
  fake := { packets := "5-10", size := "40-100", delay := "20-250", mode := "m4" }

def customWarpObject : JObj :=
  [("key", .str "p1"), ("host", .str "188.114.97.3"), ("port", .num 2408 0),
    ("detour", .str "proxy"), ("fake_packets", .str "5-10"), ("fake_packets_size", .str "40-100"),
    ("fake_packets_delay", .str "20-250"), ("fake_packets_mode", .str "m4")]

def customOutbound : Outbound where
  type := .custom
  tag := "own-warp"
  customOptions := [("warp", .obj customWarpObject)]

/-- Options with the identity of both addresses. -/
def dualStackOptions : ConfigOptions := { warp := { wireguardConfig := dualStack } }

lemma customWarp_givenIn : customWarp.GivenIn customWarpObject where
  key := rfl
  key_mem := Or.inl rfl
  host := rfl
  port := ⟨0, rfl⟩
  port_mem := by decide
  detour := rfl
  packets := rfl
  size := rfl
  delay := rfl
  mode := rfl

lemma dualStack_usable : Usable decodingDeps dualStack where
  clientID := by decide
  ipv4 := by decide
  ipv6 := by decide

end Reference

theorem patchWarp_customWarp :
    ∃ out, patchWarp Reference.decodingDeps {} Reference.customOutbound
        (some Reference.dualStackOptions) false = .ok (out, []) ∧
      ¬ Reference.customWarp.CarriedOver Reference.decodingDeps Reference.dualStack
        Reference.customOutbound out := by
  obtain ⟨out, hout, hlost, -⟩ := @patchWarp_custom_port Reference.decodingDeps {}
    Reference.dualStackOptions Reference.customOutbound Reference.customWarpObject _ rfl
    Reference.customWarp_givenIn Reference.dualStack_usable
  exact ⟨out, hout, hlost⟩

theorem customWarp_not_carriedOver :
    ¬ ∃ out, patchWarp Reference.decodingDeps {} Reference.customOutbound
        (some Reference.dualStackOptions) false = .ok (out, []) ∧
      Reference.customWarp.CarriedOver Reference.decodingDeps Reference.dualStack
        Reference.customOutbound out := by
  rintro ⟨out, hout, h⟩
  obtain ⟨out', hout', hfilled⟩ := @patchWarp_filled Reference.decodingDeps {}
    Reference.dualStackOptions Reference.customOutbound Reference.customWarpObject _ rfl
    Reference.customWarp_givenIn Reference.dualStack_usable
  obtain rfl : out = out' := by simpa using hout.symm.trans hout'
  exact absurd (h.serverPort.symm.trans hfilled.serverPort) (by decide)

end HiddifyCore.Config
