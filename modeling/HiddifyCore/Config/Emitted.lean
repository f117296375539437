import HiddifyCore.Config.Codec
import HiddifyCore.Config.Groups
import HiddifyCore.Config.OverWarp

/-!
# The emitted outbounds

What a document says of each outbound besides the server: its tag, type, detour and MTU, and the
members and default of a group. Without a generated WARP outbound these are read off the input,
position by position (`Built.emitted_eq`).
-/

namespace HiddifyCore.Singbox.Outbound

/-- The part of an emitted outbound that is not drawn or looked up. -/
structure Emitted where
  tag : String
  type : OutboundType
  detour : String
  mtu : Option UInt32
  members : List String
  default : String
  deriving DecidableEq, Repr

def mtu (o : Outbound) : Option UInt32 :=
  if o.type = .wireguard then some o.wireGuardOptions.mtu else none

def groupDefault (o : Outbound) : String :=
  if o.type = .selector then o.selectorOptions.default else ""

def emitted (o : Outbound) : Emitted where
  tag := o.tag
  type := o.type
  detour := o.detour
  mtu := o.mtu
  members := o.members
  default := o.groupDefault

end HiddifyCore.Singbox.Outbound

namespace HiddifyCore.Config

open GoLib Singbox

variable {D : Deps}

/-- What sing-box documents about WireGuard outbounds: the MTU and the private key are read from
the keys of these names. -/
structure WireGuardKeyed (D : Deps) : Prop where
  mtu_of_key {o o' : Outbound} {m m' : JObj} (h : D.marshalOutbound o = .ok m)
    (h' : D.unmarshalOutbound m' = .ok o') (htype : m'.get? "type" = m.get? "type")
    (hkey : m'.get? "mtu" = m.get? "mtu") (hwg : o.type = .wireguard) :
    o'.wireGuardOptions.mtu = o.wireGuardOptions.mtu
  privateKey_of_key {o o' : Outbound} {m m' : JObj} (h : D.marshalOutbound o = .ok m)
    (h' : D.unmarshalOutbound m' = .ok o') (htype : m'.get? "type" = m.get? "type")
    (hkey : m'.get? "private_key" = m.get? "private_key") (hwg : o.type = .wireguard) :
    o'.wireGuardOptions.privateKey = o.wireGuardOptions.privateKey

/-! ### WireGuard records -/

/-- The MTU after the custom WARP options are resolved. -/
def resolvedMTU (out : Outbound) : UInt32 :=
  if (warpObject out).isSome then 1330 else out.wireGuardOptions.mtu

/-- The MTU of a patched outbound. -/
def loweredMTU (detour : String) (mtu : UInt32) : UInt32 :=
  if detour ≠ "" ∧ mtu > 1000 then mtu - 50 else mtu

lemma generateWarpSingbox_record {wgConfig : WarpWireguardConfig} {host : String} {port : UInt16}
    {fake : FakePackets} {out : Outbound}
    (h : generateWarpSingbox D wgConfig host port fake = .ok out) :
    out.wireGuardOptions.mtu = 1330 ∧ out.wireGuardOptions.privateKey = wgConfig.privateKey := by
  obtain ⟨reserved, p4, p6, -, -, -, rfl⟩ := generateWarpSingbox_eq_ok.mp h
  exact ⟨rfl, rfl⟩

/-- A custom WARP outbound is generated from one of three identities. -/
lemma customWarpConfig_generated {draws : Draws} {opt : ConfigOptions} {warp : JObj}
    {config : Outbound} (h : customWarpConfig D draws (some opt) warp = .ok (some config)) :
    ∃ wgConfig host fake, generateWarpSingbox D wgConfig host 0 fake = .ok config ∧
      (warp.getString "key" = "p1" → wgConfig = opt.warp.wireguardConfig) := by
  simp only [customWarpConfig] at h
  split_ifs at h with hp1 hp2
  · obtain ⟨_, hgen, heq⟩ := Outcome.bind_eq_ok.mp h
    cases heq
    exact ⟨_, _, _, hgen, fun _ => rfl⟩
  · obtain ⟨_, hgen, heq⟩ := Outcome.bind_eq_ok.mp h
    cases heq
    exact ⟨_, _, _, hgen, fun hp => absurd hp hp1⟩
  · obtain ⟨_, hgen, heq⟩ := Outcome.bind_eq_ok.mp h
    cases heq
    obtain ⟨wgConfig, -, hgen⟩ := Outcome.bind_eq_ok.mp hgen
    exact ⟨_, _, _, hgen, fun hp => absurd hp hp1⟩

lemma finishWireGuard_record (draws : Draws) (wg : WireGuardOutboundOptions) :
    (finishWireGuard D draws wg).1.mtu = loweredMTU wg.detour wg.mtu ∧
      (finishWireGuard D draws wg).1.privateKey = wg.privateKey := by
  unfold finishWireGuard loweredMTU
  dsimp only
  split_ifs <;> simp_all

lemma finishWarp_record {draws : Draws} {base : Outbound} (h : base.type = .wireguard) :
    (finishWarp D draws base true).1.wireGuardOptions =
      (finishWireGuard D draws base.wireGuardOptions).1 := by
  simp only [finishWarp, h, and_self, if_true]

/-- The record of a resolved WireGuard outbound. -/
lemma patchWarp_mtu {draws : Draws} {base out : Outbound} {opt : ConfigOptions}
    {writes : List StaticIP} (h : patchWarp D draws base (some opt) true = .ok (out, writes))
    (hwg : resolvedType base = .wireguard) :
    out.wireGuardOptions.mtu = loweredMTU (resolvedDetour base) (resolvedMTU base) := by
  simp only [resolvedType] at hwg
  simp only [resolvedDetour, resolvedMTU]
  rcases patchWarp_resolved h with ⟨hwarp, rfl⟩ | ⟨warp, config, hwarp, hconfig, rfl⟩
  · rw [hwarp] at hwg ⊢
    replace hwg : base.type = .wireguard := hwg
    rw [finishWarp_record hwg, (finishWireGuard_record draws _).1]
    simp only [Outbound.detour, hwg]
    rfl
  · obtain ⟨wgConfig, host, fake, hgen, -⟩ := customWarpConfig_generated hconfig
    rw [hwarp, finishWarp_record rfl, (finishWireGuard_record draws _).1]
    exact congrArg _ (generateWarpSingbox_record hgen).1

/-- The private key is the one that the scan for the WARP key looks for. -/
def HasWarpKey (opt : ConfigOptions) (out : Outbound) : Prop :=
  out.type = .wireguard ∧ (out.wireGuardOptions.privateKey = opt.warp.wireguardConfig.privateKey ∨
    out.wireGuardOptions.privateKey = "p1")

lemma HasWarpKey.usesWarpKey {opt : ConfigOptions} {out : Outbound} (h : HasWarpKey opt out) :
    usesWarpKey opt out = true := by
  simp only [Config.usesWarpKey, h.1, decide_true, Bool.true_and, Bool.or_eq_true,
    decide_eq_true_eq]
  exact Or.inr h.2

/-- An outbound that uses the key is a WireGuard outbound with it once it is resolved. -/
lemma patchWarp_hasWarpKey {draws : Draws} {base out : Outbound} {opt : ConfigOptions}
    {writes : List StaticIP} (h : patchWarp D draws base (some opt) true = .ok (out, writes))
    (huses : usesWarpKey opt base = true) : HasWarpKey opt out := by
  simp only [usesWarpKey, Bool.or_eq_true, Bool.and_eq_true, decide_eq_true_eq] at huses
  rcases patchWarp_resolved h with ⟨hwarp, rfl⟩ | ⟨warp, config, hwarp, hconfig, rfl⟩
  · obtain ⟨hwg, hkey⟩ : base.type = .wireguard ∧ _ := by simpa [hwarp] using huses
    refine ⟨(finishWarp_type draws base true).trans hwg, ?_⟩
    rw [finishWarp_record hwg, (finishWireGuard_record draws _).2]
    exact hkey
  · obtain ⟨wgConfig, host, fake, hgen, hp1⟩ := customWarpConfig_generated hconfig
    have hcustom : base.type = .custom := by
      by_contra hne
      simp [warpObject, hne] at hwarp
    have hkey : warp.getString "key" = "p1" := by simpa [hwarp, hcustom] using huses
    refine ⟨finishWarp_type draws _ true, Or.inl ?_⟩
    rw [finishWarp_record rfl, (finishWireGuard_record draws _).2, ← hp1 hkey]
    exact (generateWarpSingbox_record hgen).2

/-! ### Patched outbounds -/

/-- What is emitted for a kept outbound of the input when no detour is added. -/
def keptEmitted (out : Outbound) : Outbound.Emitted where
  tag := out.tag
  type := resolvedType out
  detour := resolvedDetour out
  mtu :=
    if resolvedType out = .wireguard then
      some (loweredMTU (resolvedDetour out) (resolvedMTU out))
    else none
  members := []
  default := ""

lemma groupDefault_of_kept {o : Outbound} (h : isDropped o.type = false) :
    o.groupDefault = "" := by
  rw [Outbound.groupDefault, if_neg]
  intro hselector
  rw [hselector] at h
  cases h

lemma patchOutbound_emitted (hD : D.Documented) (hwg : WireGuardKeyed D) {draws : Draws}
    {base : Outbound} {opt : ConfigOptions} {p : Patched}
    (h : patchOutbound D draws base opt = .ok p) (hkeep : keeps base = true) :
    p.outbound.emitted = keptEmitted base := by
  obtain ⟨htype, htag, hdetour⟩ := patchOutbound_ok hD h
  have hdrop : isDropped p.outbound.type = false := by
    rw [htype]
    simpa [keeps] using hkeep
  have hmtu : p.outbound.mtu = (keptEmitted base).mtu := by
    simp only [Outbound.mtu, keptEmitted, htype]
    split_ifs with hwire
    · obtain ⟨base', obj, obj', hwarp, hobj, -, hsame, hout⟩ := patchOutbound_steps h
      rw [hwg.mtu_of_key hobj hout (hsame "type" (by decide)) (hsame "mtu" (by decide))
        ((patchWarp_ok hwarp).1.trans hwire), patchWarp_mtu hwarp hwire]
    · rfl
  simp only [Outbound.emitted, htag, htype, hdetour, hmtu, members_of_kept hdrop,
    groupDefault_of_kept hdrop]
  rfl

lemma patchOutbound_hasWarpKey (hD : D.Documented) (hwg : WireGuardKeyed D) {draws : Draws}
    {base : Outbound} {opt : ConfigOptions} {p : Patched}
    (h : patchOutbound D draws base opt = .ok p) (huses : usesWarpKey opt base = true) :
    HasWarpKey opt p.outbound := by
  obtain ⟨base', obj, obj', hwarp, hobj, -, hsame, hout⟩ := patchOutbound_steps h
  obtain ⟨hwire, hkey⟩ := patchWarp_hasWarpKey hwarp huses
  have htype := hsame "type" (by decide)
  refine ⟨(hD.type_of_key hobj hout htype).trans hwire, ?_⟩
  rw [hwg.privateKey_of_key hobj hout htype (hsame "private_key" (by decide)) hwire]
  exact hkey

/-- The kept outbounds follow the input, position by position. -/
lemma Patches.emitted (hD : D.Documented) (hwg : WireGuardKeyed D) {opt : ConfigOptions}
    {draws : Nat → Draws} {i : Nat} {outs : List Outbound} {ps : List Patched}
    (h : Patches D opt draws i outs ps) :
    (keptOf ps).map Outbound.emitted = (outs.filter keeps).map keptEmitted := by
  induction h with
  | nil => rfl
  | @cons i out p outs ps hp _ ih =>
    have hdrop : isDropped p.outbound.type = !keeps out := by
      rw [(patchOutbound_ok hD hp).1, keeps, Bool.not_not]
    rw [keptOf_cons, List.map_append, ih, hdrop, List.filter_cons]
    cases hkeep : keeps out with
    | false => rfl
    | true =>
      rw [if_pos rfl, List.map_cons, ← patchOutbound_emitted hD hwg hp hkeep]
      rfl

/-! ### The whole document -/

lemma patchHiddifyWarp_off {opt : ConfigOptions} (h : generatesWarp opt = false) (o : Outbound) :
    patchHiddifyWarpFromConfig opt o = o := by
  apply if_neg
  rintro ⟨hon, hmode⟩
  simp [generatesWarp, hon, hmode] at h

namespace Built

variable {env : BuildEnv} {opt : ConfigOptions} {input out : Options} {tag : String}

lemma kept_emitted (hD : D.Documented) (hwg : WireGuardKeyed D)
    (b : Built D env opt input tag out) :
    b.kept.map Outbound.emitted = (input.outbounds.filter keeps).map keptEmitted :=
  b.patches.emitted hD hwg

lemma warp_off (b : Built D env opt input tag out)
    (hoff : generatesWarp (scannedOptions env opt input) = false) : b.warp = [] := by
  have hpart := b.warpPart
  generalize b.warp = warp at hpart
  cases hpart with
  | off _ => rfl
  | on hon => simp [hon] at hoff

/-- Without a WARP outbound the document is the groups, the kept outbounds and the built-in ones. -/
lemma outbounds_off (b : Built D env opt input tag out)
    (hoff : generatesWarp (scannedOptions env opt input) = false) :
    out.outbounds = [selectorOutbound (visibleTags b.kept),
      urlTestOutbound (scannedOptions env opt input) (visibleTags b.kept)] ++ b.kept ++
        builtinOutbounds (scannedOptions env opt input) := by
  have hmap : b.kept.map (patchHiddifyWarpFromConfig (scannedOptions env opt input)) = b.kept := by
    rw [funext (patchHiddifyWarp_off hoff), List.map_id']
  rw [b.outbounds_eq, b.warp_off hoff, hmap, List.append_nil]

/-- What a document without a WARP outbound emits, read off the input. -/
theorem emitted_eq (hD : D.Documented) (hwg : WireGuardKeyed D)
    (b : Built D env opt input tag out)
    (hoff : generatesWarp (scannedOptions env opt input) = false) :
    out.outbounds.map Outbound.emitted =
      [selectorOutbound (visibleOf input.outbounds),
        urlTestOutbound opt (visibleOf input.outbounds)].map Outbound.emitted ++
      (input.outbounds.filter keeps).map keptEmitted ++
      (builtinOutbounds opt).map Outbound.emitted := by
  rw [b.outbounds_off hoff, List.map_append, List.map_append, b.kept_emitted hD hwg,
    b.visibleTags_eq hD]
  rfl

end Built

end HiddifyCore.Config
