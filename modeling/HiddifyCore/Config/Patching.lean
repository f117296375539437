import HiddifyCore.Config.Build

/-!
# What patching keeps

The edits of `patchOutbound` stay away from the keys that name an outbound and its detour, so with
the documented codec a patched outbound has the type, the tag and the detour of the outbound it
was made from, up to the resolution of a custom WARP outbound.
-/

namespace HiddifyCore.Config

open GoLib Singbox

variable {D : Deps}

/-! ### WARP resolution -/

/-- The type after the custom WARP options are resolved. -/
def resolvedType (out : Outbound) : OutboundType :=
  if (warpObject out).isSome then .wireguard else out.type

/-- The detour after the custom WARP options are resolved. -/
def resolvedDetour (out : Outbound) : String :=
  match warpObject out with
  | some warp => warp.getString "detour"
  | none => out.detour

lemma finishWireGuard_detour (draws : Draws) (wg : WireGuardOutboundOptions) :
    (finishWireGuard D draws wg).1.detour = wg.detour := by
  unfold finishWireGuard
  dsimp only
  split_ifs <;> rfl

lemma finishWarp_type (draws : Draws) (base : Outbound) (final : Bool) :
    (finishWarp D draws base final).1.type = base.type := by
  simp only [finishWarp]
  split_ifs <;> rfl

lemma finishWarp_tag (draws : Draws) (base : Outbound) (final : Bool) :
    (finishWarp D draws base final).1.tag = base.tag := by
  simp only [finishWarp]
  split_ifs <;> rfl

lemma finishWarp_detour (draws : Draws) (base : Outbound) (final : Bool) :
    (finishWarp D draws base final).1.detour = base.detour := by
  simp only [finishWarp]
  split_ifs with h
  · simp only [Outbound.detour, h.2]
    exact finishWireGuard_detour draws _
  · rfl

/-- With options given the custom options of every WARP outbound are resolved. -/
lemma patchWarp_resolved {draws : Draws} {base out : Outbound} {opt : ConfigOptions} {final : Bool}
    {writes : List StaticIP}
    (h : patchWarp D draws base (some opt) final = .ok (out, writes)) :
    (warpObject base = none ∧ out = (finishWarp D draws base final).1) ∨
      ∃ warp config, warpObject base = some warp ∧
        customWarpConfig D draws (some opt) warp = .ok (some config) ∧
        out = (finishWarp D draws
          (resolveWarp base config (warp.getString "detour")) final).1 := by
  simp only [patchWarp] at h
  cases hwarp : warpObject base with
  | none =>
    simp only [hwarp, Outcome.ok.injEq] at h
    exact Or.inl ⟨rfl, by rw [h]⟩
  | some warp =>
    simp only [hwarp] at h
    obtain ⟨config, hconfig, h⟩ := Outcome.bind_eq_ok.mp h
    cases config with
    | none =>
      exfalso
      unfold customWarpConfig at hconfig
      dsimp only at hconfig
      split_ifs at hconfig <;>
        · obtain ⟨_, _, hnone⟩ := Outcome.bind_eq_ok.mp hconfig
          cases hnone
    | some config =>
      simp only [Outcome.ok.injEq] at h
      exact Or.inr ⟨warp, config, rfl, hconfig, by rw [h]⟩

/-- A final patch resolves the custom options and changes neither tag nor detour. -/
lemma patchWarp_ok {draws : Draws} {base out : Outbound} {opt : ConfigOptions} {final : Bool}
    {writes : List StaticIP}
    (h : patchWarp D draws base (some opt) final = .ok (out, writes)) :
    out.type = resolvedType base ∧ out.tag = base.tag ∧ out.detour = resolvedDetour base := by
  simp only [resolvedType, resolvedDetour]
  rcases patchWarp_resolved h with ⟨hwarp, rfl⟩ | ⟨warp, config, hwarp, -, rfl⟩
  · rw [hwarp]
    exact ⟨finishWarp_type draws base final, finishWarp_tag draws base final,
      finishWarp_detour draws base final⟩
  · rw [hwarp]
    exact ⟨finishWarp_type draws _ final, finishWarp_tag draws _ final,
      finishWarp_detour draws _ final⟩

/-! ### Edits of the object -/

/-- The keys that the edits of `patchOutbound` may write. -/
def patchedKeys : List String := ["multiplex", "tcp_fast_open", "tls_fragment", "tls",
  "xray_fragment"]

/-- The objects agree outside the patched keys. -/
def SameKeys (m m' : JObj) : Prop := ∀ k, k ∉ patchedKeys → m'.get? k = m.get? k

lemma SameKeys.refl (m : JObj) : SameKeys m m := fun _ _ => rfl

lemma SameKeys.trans {m₁ m₂ m₃ : JObj} (h : SameKeys m₁ m₂) (h' : SameKeys m₂ m₃) :
    SameKeys m₁ m₃ := fun k hk => (h' k hk).trans (h k hk)

lemma SameKeys.set {k : String} (hk : k ∈ patchedKeys) (m : JObj) (v : Json) :
    SameKeys m (m.set k v) := by
  intro k' hk'
  refine JObj.get?_set_of_ne m v ?_
  intro h
  subst h
  exact hk' hk

lemma patchOutboundMux_same (opt : ConfigOptions) (obj : JObj) :
    SameKeys obj (patchOutboundMux D opt obj) := by
  simp only [patchOutboundMux]
  split_ifs
  · exact SameKeys.set (by decide) _ _
  · exact SameKeys.refl _

lemma patchOutboundFragment_same (opt : ConfigOptions) (obj : JObj) :
    SameKeys obj (patchOutboundFragment D opt obj) := by
  simp only [patchOutboundFragment]
  split_ifs
  · exact (SameKeys.set (by decide) obj _).trans (SameKeys.set (by decide) _ _)
  · exact SameKeys.refl _

lemma patchOutboundFragment_tls (opt : ConfigOptions) (m : JObj) :
    (patchOutboundFragment D opt m).get? "tls" = m.get? "tls" := by
  simp only [Config.patchOutboundFragment]
  split_ifs
  · rw [JObj.get?_set_of_ne _ _ (by decide), JObj.get?_set_of_ne _ _ (by decide)]
  · rfl

lemma patchXrayFragment_same {base : Outbound} {opt : ConfigOptions} {obj obj' : JObj}
    (h : patchXrayFragment base opt obj = .ok obj') : SameKeys obj obj' := by
  simp only [patchXrayFragment] at h
  split_ifs at h
  · obtain ⟨lacks, -, h⟩ := Outcome.bind_eq_ok.mp h
    split_ifs at h <;> cases h
    · exact SameKeys.set (by decide) _ _
    · exact SameKeys.refl _
  · cases h
    exact SameKeys.refl _

lemma patchTransport_same (base : Outbound) (opt : ConfigOptions) (obj : JObj) :
    SameKeys obj (patchTransport D base opt obj) := by
  simp only [patchTransport]
  split_ifs
  · exact patchOutboundFragment_same opt obj
  split
  · split_ifs
    · exact SameKeys.refl _
    · exact SameKeys.refl _
    · split
      · exact (patchOutboundFragment_same opt obj).trans (SameKeys.set (by decide) _ _)
      · exact SameKeys.refl _
  · exact SameKeys.refl _

lemma patchOutboundTLSTricks_same {base : Outbound} {opt : ConfigOptions} {obj obj' : JObj}
    (h : patchOutboundTLSTricks D base opt obj = .ok obj') : SameKeys obj obj' := by
  simp only [patchOutboundTLSTricks] at h
  split_ifs at h
  · cases h
    exact SameKeys.refl _
  · cases h
    exact SameKeys.refl _
  · obtain ⟨obj₁, hobj₁, h⟩ := Outcome.bind_eq_ok.mp h
    cases h
    exact (patchXrayFragment_same hobj₁).trans (patchTransport_same base opt obj₁)

/-- The object that is read back agrees with the marshalled one outside the patched keys. -/
lemma patchedObject_same {base : Outbound} {opt : ConfigOptions} {obj obj' : JObj}
    (h : patchOutboundTLSTricks D base opt obj = .ok obj') :
    SameKeys obj (if base.type = .vmess ∨ base.type = .vless ∨ base.type = .trojan ∨
      base.type = .shadowsocks then patchOutboundMux D opt obj' else obj') := by
  apply (patchOutboundTLSTricks_same h).trans
  split_ifs
  · exact patchOutboundMux_same opt _
  · exact SameKeys.refl _

/-- The outbound is resolved, marshalled, edited and read back. -/
lemma patchOutbound_steps {draws : Draws} {base : Outbound} {opt : ConfigOptions} {p : Patched}
    (h : patchOutbound D draws base opt = .ok p) :
    ∃ base' obj obj', patchWarp D draws base (some opt) true = .ok (base', p.staticIPs) ∧
      D.marshalOutbound base' = .ok obj ∧ p.serverDomain = serverDomain D obj ∧
      SameKeys obj obj' ∧ D.unmarshalOutbound obj' = .ok p.outbound := by
  simp only [patchOutbound] at h
  obtain ⟨⟨base', writes⟩, hwarp, h⟩ := Outcome.bind_eq_ok.mp h
  obtain ⟨obj, hobj, h⟩ := Outcome.bind_eq_ok.mp h
  obtain ⟨obj₁, hobj₁, h⟩ := Outcome.bind_eq_ok.mp h
  obtain ⟨out, hout, h⟩ := Outcome.bind_eq_ok.mp h
  rw [Outcome.mapErr_eq_ok] at hwarp hobj hout
  cases h
  exact ⟨base', obj, _, hwarp, hobj, rfl, patchedObject_same hobj₁, hout⟩

/-- A patched outbound is named like the outbound it was made from, and dials like it once that is
resolved. -/
lemma patchOutbound_ok (hD : D.Documented) {draws : Draws} {base : Outbound} {opt : ConfigOptions}
    {p : Patched} (h : patchOutbound D draws base opt = .ok p) :
    p.outbound.type = resolvedType base ∧ p.outbound.tag = base.tag ∧
      p.outbound.detour = resolvedDetour base := by
  obtain ⟨base', obj, obj', hwarp, hobj, -, hsame, hout⟩ := patchOutbound_steps h
  obtain ⟨htype, htag, hdetour⟩ := patchWarp_ok hwarp
  have hkey : ∀ k ∈ ["type", "tag", "detour"], k ∉ patchedKeys := by decide
  refine ⟨?_, ?_, ?_⟩
  · rw [← htype]
    exact hD.type_of_key hobj hout (hsame _ (hkey _ (by simp)))
  · rw [← htag]
    exact hD.tag_of_key hobj hout (hsame _ (hkey _ (by simp)))
  · rw [← hdetour]
    exact hD.detour_of_key hobj hout (hsame _ (hkey _ (by simp))) (hsame _ (hkey _ (by simp)))

end HiddifyCore.Config
