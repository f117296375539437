import HiddifyCore.Config.Rebuild
import HiddifyCore.Config.OverWarp

/-!
# Detoured WireGuard outbounds

`patchWarp` lowers the MTU and drops the fake packets of a WireGuard outbound that has a detour. It
runs before `patchHiddifyWarpFromConfig` gives the outbounds without a detour one, so in mode
proxy_over_warp a WireGuard outbound of the input is detoured and not adjusted.
-/

namespace HiddifyCore.Config

open GoLib Singbox

variable {D : Deps}

/-- The fake packets, their size and their delay. -/
def fakeSettings (wg : WireGuardOutboundOptions) : String × String × String :=
  (wg.fakePackets, wg.fakePacketsSize, wg.fakePacketsDelay)

/-- What sing-box documents about the fake packets of WireGuard: they are read from the keys of
these names. -/
structure FakePacketsKeyed (D : Deps) : Prop where
  fakeSettings_of_key {o o' : Outbound} {m m' : JObj} (h : D.marshalOutbound o = .ok m)
    (h' : D.unmarshalOutbound m' = .ok o') (htype : m'.get? "type" = m.get? "type")
    (hkey : ∀ k ∈ ["fake_packets", "fake_packets_size", "fake_packets_delay"],
      m'.get? k = m.get? k) (hwg : o.type = .wireguard) :
    fakeSettings o'.wireGuardOptions = fakeSettings o.wireGuardOptions

/-- The MTU was lowered once, and there are no fake packets. -/
structure IsAdjusted (configured : UInt32) (o : Outbound) : Prop where
  fake : fakeSettings o.wireGuardOptions = ("", "", "")
  mtu : o.wireGuardOptions.mtu = if configured > 1000 then configured - 50 else configured

/-- The outbound is adjusted if it is a WireGuard outbound with a detour. -/
def AdjustedIfDetoured (configured : UInt32) (o : Outbound) : Prop :=
  o.type = .wireguard → o.detour ≠ "" → IsAdjusted configured o

/-- Every detoured WireGuard outbound of the document is adjusted: the generated one from the MTU
of `wireGuardToSingbox`, the others from the one that the input gives them. -/
def AdjustsWireGuard (D : Deps) (env : BuildEnv) (opt : ConfigOptions) (input out : Options) :
    Prop :=
  ∃ groups warp kept builtin,
    out.outbounds = groups ++ warp ++ kept ++ builtin ∧
    (∀ o ∈ groups ++ builtin, o.type ≠ .wireguard) ∧
    WarpPart D env.warp opt warp ∧ (∀ o ∈ warp, AdjustedIfDetoured 1330 o) ∧
    List.Forall₂ (fun o i => EmittedFrom D env.outbound opt o i ∧
      AdjustedIfDetoured (resolvedMTU i.1) o) kept (keptInputs input.outbounds 0)

/-- There is nothing to adjust. -/
def IsPlainWireGuard (i : Outbound) : Prop :=
  warpObject i = none ∧ i.wireGuardOptions.mtu ≤ 1000 ∧
    fakeSettings i.wireGuardOptions = ("", "", "")

/-- In mode proxy_over_warp a WireGuard outbound of the input without a detour has nothing to
adjust. -/
def NothingToAdjust (opt : ConfigOptions) (input : Options) : Prop :=
  opt.warp.enableWarp = true → opt.warp.mode = "proxy_over_warp" →
    ∀ i ∈ input.outbounds, resolvedType i = .wireguard → resolvedDetour i = "" →
      IsPlainWireGuard i

/-! ### Elements at the same position -/

lemma forall₂_exists_left {α β : Type} {R : α → β → Prop} {l : List α} {u : List β}
    (h : List.Forall₂ R l u) {b : β} (hb : b ∈ u) : ∃ a, R a b := by
  induction h with
  | nil => cases hb
  | cons hab _ ih =>
    rcases List.mem_cons.mp hb with rfl | hb
    · exact ⟨_, hab⟩
    · exact ih hb

lemma forall₂_and_of_mem {α β : Type} {R S : α → β → Prop} {l : List α} {u : List β}
    (h : List.Forall₂ R l u) (hS : ∀ a, ∀ b ∈ u, R a b → S a b) :
    List.Forall₂ (fun a b => R a b ∧ S a b) l u := by
  induction h with
  | nil => exact .nil
  | cons hab _ ih =>
    exact .cons ⟨hab, hS _ _ List.mem_cons_self hab⟩
      (ih fun a b hb => hS a b (List.mem_cons_of_mem _ hb))

/-! ### The record of a patched outbound -/

lemma finishWireGuard_fakeSettings (draws : Draws) (wg : WireGuardOutboundOptions) :
    fakeSettings (finishWireGuard D draws wg).1 =
      if wg.detour ≠ "" then ("", "", "") else fakeSettings wg := by
  unfold finishWireGuard
  dsimp only
  split_ifs <;> rfl

/-- A detour that is there before the patch drops the fake packets. -/
lemma patchWarp_fakeSettings {draws : Draws} {base out : Outbound} {opt : ConfigOptions}
    {writes : List StaticIP} (h : patchWarp D draws base (some opt) true = .ok (out, writes))
    (hwg : resolvedType base = .wireguard) :
    (resolvedDetour base ≠ "" → fakeSettings out.wireGuardOptions = ("", "", "")) ∧
      (resolvedDetour base = "" → warpObject base = none →
        fakeSettings out.wireGuardOptions = fakeSettings base.wireGuardOptions) := by
  simp only [resolvedType] at hwg
  simp only [resolvedDetour]
  rcases patchWarp_resolved h with ⟨hwarp, rfl⟩ | ⟨warp, config, hwarp, hconfig, rfl⟩
  · rw [hwarp] at hwg ⊢
    replace hwg : base.type = .wireguard := hwg
    rw [finishWarp_record hwg, finishWireGuard_fakeSettings]
    simp only [Outbound.detour, hwg]
    exact ⟨fun hne => if_pos hne, fun heq _ => if_neg (not_not.mpr heq)⟩
  · rw [hwarp, finishWarp_record rfl, finishWireGuard_fakeSettings]
    exact ⟨fun hne => if_pos hne, fun _ hnone => by cases hnone⟩

/-- The record of an outbound that is marshalled, edited and read back. -/
lemma patchOutbound_wireGuard (hwg : WireGuardKeyed D) (hfake : FakePacketsKeyed D) {draws : Draws}
    {base : Outbound} {opt : ConfigOptions} {p : Patched}
    (h : patchOutbound D draws base opt = .ok p) (hwire : resolvedType base = .wireguard) :
    p.outbound.wireGuardOptions.mtu = loweredMTU (resolvedDetour base) (resolvedMTU base) ∧
      (resolvedDetour base ≠ "" →
        fakeSettings p.outbound.wireGuardOptions = ("", "", "")) ∧
      (resolvedDetour base = "" → warpObject base = none →
        fakeSettings p.outbound.wireGuardOptions = fakeSettings base.wireGuardOptions) := by
  obtain ⟨base', obj, obj', hwarp, hobj, -, hsame, hout⟩ := patchOutbound_steps h
  have htype := hsame "type" (by decide)
  have hbase : base'.type = .wireguard := (patchWarp_ok hwarp).1.trans hwire
  have hkeys : ∀ k ∈ ["fake_packets", "fake_packets_size", "fake_packets_delay"],
      k ∉ patchedKeys := by decide
  rw [hwg.mtu_of_key hobj hout htype (hsame "mtu" (by decide)) hbase,
    hfake.fakeSettings_of_key hobj hout htype (fun k hk => hsame k (hkeys k hk)) hbase]
  exact ⟨patchWarp_mtu hwarp hwire, patchWarp_fakeSettings hwarp hwire⟩

/-- The detour through WARP changes nothing else in the record. -/
lemma patchHiddifyWarp_record (opt : ConfigOptions) (o : Outbound) :
    (patchHiddifyWarpFromConfig opt o).wireGuardOptions.mtu = o.wireGuardOptions.mtu ∧
      fakeSettings (patchHiddifyWarpFromConfig opt o).wireGuardOptions =
        fakeSettings o.wireGuardOptions := by
  simp only [patchHiddifyWarpFromConfig]
  split_ifs <;> exact ⟨rfl, rfl⟩

/-- A WireGuard outbound of the input is adjusted exactly when it has a detour of its own or
nothing to adjust. -/
lemma EmittedFrom.isAdjusted_iff (hwg : WireGuardKeyed D)
    (hfake : FakePacketsKeyed D) {draws : Nat → Draws} {opt : ConfigOptions} {o : Outbound}
    {i : Outbound × Nat} (h : EmittedFrom D draws opt o i) (hwire : resolvedType i.1 = .wireguard) :
    IsAdjusted (resolvedMTU i.1) o ↔ (resolvedDetour i.1 = "" → IsPlainWireGuard i.1) := by
  obtain ⟨p, hp, -, rfl⟩ := h
  obtain ⟨hmtu, hdetoured, hplain⟩ := patchOutbound_wireGuard hwg hfake hp hwire
  obtain ⟨hsame, hsamefake⟩ := patchHiddifyWarp_record opt p.outbound
  rw [← hsame] at hmtu
  rw [← hsamefake] at hdetoured hplain
  constructor
  · rintro ⟨hfakeless, hlowered⟩ hdetour
    rw [hmtu, loweredMTU, if_neg fun hne => hne.1 hdetour] at hlowered
    have hle : ¬ resolvedMTU i.1 > 1000 := fun hgt => by
      rw [if_pos hgt] at hlowered
      grind
    have hwarp : warpObject i.1 = none := by
      by_contra hsome
      rw [resolvedMTU, if_pos (Option.isSome_iff_ne_none.mpr hsome)] at hle
      exact hle (by decide)
    refine ⟨hwarp, ?_, (hplain hdetour hwarp).symm.trans hfakeless⟩
    simpa [resolvedMTU, hwarp] using hle
  · intro hcond
    by_cases hdetour : resolvedDetour i.1 = ""
    · obtain ⟨hwarp, hle, hnofake⟩ := hcond hdetour
      have hle' : ¬ resolvedMTU i.1 > 1000 := by simpa [resolvedMTU, hwarp] using hle
      refine ⟨(hplain hdetour hwarp).trans hnofake, ?_⟩
      rw [hmtu, loweredMTU, if_neg fun hne => hne.1 hdetour, if_neg hle']
    · refine ⟨hdetoured hdetour, ?_⟩
      rw [hmtu, loweredMTU]
      simp only [ne_eq, hdetour, not_false_eq_true, true_and]

/-- Which WireGuard outbounds of the input are adjusted in the output. -/
lemma EmittedFrom.adjustedIfDetoured_iff (hwg : WireGuardKeyed D)
    (hfake : FakePacketsKeyed D) {draws : Nat → Draws} {opt : ConfigOptions} {o : Outbound}
    {i : Outbound × Nat} (h : EmittedFrom D draws opt o i) :
    AdjustedIfDetoured (resolvedMTU i.1) o ↔
      (opt.warp.enableWarp = true → opt.warp.mode = "proxy_over_warp" →
        resolvedType i.1 = .wireguard → resolvedDetour i.1 = "" → IsPlainWireGuard i.1) := by
  have hiff := h.isAdjusted_iff hwg hfake
  obtain ⟨p, -, hmade, rfl⟩ := h
  have htype : (patchHiddifyWarpFromConfig opt p.outbound).type = resolvedType i.1 :=
    (patchHiddifyWarp_type opt p.outbound).trans hmade.type
  simp only [AdjustedIfDetoured, htype, hmade.detourVia_eq, detourVia]
  constructor
  · intro hadj hon hmode hwire hdetour
    have hvia : takesWarpDetour (resolvedType i.1) = true := by rw [hwire]; rfl
    rw [if_pos ⟨hdetour, hon, hmode, hvia⟩] at hadj
    exact (hiff hwire).mp (hadj hwire (by decide)) hdetour
  · intro hcond hwire hne
    refine (hiff hwire).mpr fun hdetour => ?_
    split_ifs at hne with hvia
    · exact hcond hvia.2.1 hvia.2.2.1 hwire hdetour
    · exact absurd hdetour hne

/-! ### The generated outbound -/

lemma warpOutbound_mtu {opt : ConfigOptions} {raw : Outbound} (h : warpOutbound D opt = .ok raw) :
    raw.wireGuardOptions.mtu = 1330 := by
  obtain ⟨reserved, prefixes, rfl⟩ := warpOutbound_record h
  rfl

/-- The generated outbound has its detour when it is patched. -/
lemma WarpPart.isAdjusted {draws : Draws} {opt : ConfigOptions} {warp : List Outbound}
    (h : WarpPart D draws opt warp) {o : Outbound} (ho : o ∈ warp) : IsAdjusted 1330 o := by
  cases h with
  | off _ => cases ho
  | @on raw out _ hraw hout =>
    obtain ⟨htype, -, hdetour⟩ := warpOutbound_ok hraw
    have hne : raw.wireGuardOptions.detour ≠ "" := by
      rw [hdetour]
      split_ifs <;> decide
    rw [List.mem_singleton.mp ho, patchWarpOutbound_eq hraw hout]
    refine ⟨?_, ?_⟩
    · rw [finishWarp_record htype, finishWireGuard_fakeSettings, if_pos hne]
    · rw [finishWarp_record htype, (finishWireGuard_record _ _).1, warpOutbound_mtu hraw,
        loweredMTU, if_pos ⟨hne, by decide⟩]
      rfl

/-! ### The whole document -/

lemma nothingToAdjust_of_adjusts (hwg : WireGuardKeyed D) (hfake : FakePacketsKeyed D)
    {env : BuildEnv} {opt : ConfigOptions} {input out : Options}
    (h : AdjustsWireGuard D env opt input out) : NothingToAdjust opt input := by
  obtain ⟨groups, warp, kept, builtin, -, -, -, -, hkept⟩ := h
  intro hon hmode i hi hwire hdetour
  have hkeep : keeps i = true := by rw [keeps, hwire]; rfl
  have hmem : i ∈ (keptInputs input.outbounds 0).map Prod.fst := by
    rw [keptInputs_map_fst]
    exact List.mem_filter.mpr ⟨hi, hkeep⟩
  obtain ⟨⟨_, k⟩, hk, rfl⟩ := List.mem_map.mp hmem
  obtain ⟨o, hemitted, hadj⟩ := forall₂_exists_left hkept hk
  exact (hemitted.adjustedIfDetoured_iff hwg hfake).mp hadj hon hmode hwire hdetour

/-- The detoured WireGuard outbounds of a document are adjusted exactly when WARP does not detour
one that has something to adjust. -/
theorem adjustsWireGuard_iff (hD : D.Documented) (hwg : WireGuardKeyed D)
    (hfake : FakePacketsKeyed D) {env : BuildEnv} {opt : ConfigOptions} {input out : Options}
    {g g' : Globals} (h : buildConfig D env opt input g = (.ret (.ok out), g')) :
    AdjustsWireGuard D env (scannedOptions env opt input) input out ↔
      NothingToAdjust (scannedOptions env opt input) input := by
  obtain ⟨b⟩ := buildConfig_ok h
  refine ⟨nothingToAdjust_of_adjusts hwg hfake, fun hcond => ?_⟩
  refine ⟨_, b.warp, _, _, b.outbounds_eq, ?_, b.warpPart, fun o ho _ _ =>
    b.warpPart.isAdjusted ho, ?_⟩
  · simp [builtinOutbounds, selectorOutbound, urlTestOutbound]
  · refine forall₂_and_of_mem (b.patches.emittedFrom hD) fun o i hi hemitted => ?_
    refine (hemitted.adjustedIfDetoured_iff hwg hfake).mpr fun hon hmode => ?_
    refine hcond hon hmode i.1 (List.mem_of_mem_filter (p := keeps) ?_)
    rw [← keptInputs_map_fst _ 0]
    exact List.mem_map_of_mem hi

lemma Codec.fakePacketsKeyed : FakePacketsKeyed Codec.deps where
  fakeSettings_of_key {o o' m m'} h h' htype hkey hwg := by
    have hwg' : o'.type = .wireguard := (Codec.type_of_key h h' htype).trans hwg
    obtain ⟨-, rfl⟩ := Codec.marshalOutbound_ok h
    have hrec := (Codec.unmarshalOutbound_ok h').2.2
    rw [hwg'] at hrec
    simp only [List.forall_mem_cons, List.not_mem_nil, false_imp_iff, forall_true_iff, and_true,
      Codec.recordFields, hwg] at hkey
    obtain ⟨hpackets, hsize, hdelay⟩ := hkey
    rw [hrec]
    simp only [fakeSettings, Codec.decodeRecord]
    rw [Reference.getString_congr hpackets, Reference.getString_congr hsize,
      Reference.getString_congr hdelay]
    rfl

/-- A WireGuard outbound with a key of its own and this detour, and a proxy. -/
def keyedWireGuard (detour : String) : Options where
  outbounds := [
    { type := .wireguard, tag := "w"
      wireGuardOptions := { detour := detour, privateKey := "k", mtu := 1400 } },
    { type := .socks, tag := "a" }]

theorem adjustsWireGuard_detoured :
    AdjustsWireGuard Codec.deps {} (scannedOptions {} proxyOverWarp (keyedWireGuard "a"))
      (keyedWireGuard "a")
      (documentOf (buildConfig Codec.deps {} proxyOverWarp (keyedWireGuard "a") {}).1) := by
  have hbuilt : isDocument
      (buildConfig Codec.deps {} proxyOverWarp (keyedWireGuard "a") {}).1 = true := by decide
  refine (adjustsWireGuard_iff Codec.deps_documented Codec.wireGuardKeyed Codec.fakePacketsKeyed
    (Prod.ext (eq_documentOf hbuilt) rfl)).mpr fun _ _ i hi hwire hdetour => ?_
  simp only [keyedWireGuard, List.mem_cons, List.not_mem_nil, or_false] at hi
  rcases hi with rfl | rfl
  · exact absurd hdetour (by decide)
  · exact absurd hwire (by decide)

/-- Without a detour of its own it gets one after its MTU was looked at. -/
theorem not_adjustsWireGuard :
    ¬ ∀ D : Deps, D.Documented → WireGuardKeyed D → FakePacketsKeyed D → ∀ (env : BuildEnv)
      (opt : ConfigOptions) (input out : Options) (g g' : Globals),
        buildConfig D env opt input g = (.ret (.ok out), g') →
          AdjustsWireGuard D env (scannedOptions env opt input) input out := by
  intro h
  have hbuilt : isDocument
      (buildConfig Codec.deps {} proxyOverWarp (keyedWireGuard "") {}).1 = true := by decide
  have hadj := h _ Codec.deps_documented Codec.wireGuardKeyed Codec.fakePacketsKeyed _ _ _ _ _ _
    (Prod.ext (eq_documentOf hbuilt) rfl)
  have hplain := nothingToAdjust_of_adjusts Codec.wireGuardKeyed Codec.fakePacketsKeyed hadj
    (by decide) (by decide) _ List.mem_cons_self (by decide) (by decide)
  exact absurd hplain.2.1 (by decide)

end HiddifyCore.Config
