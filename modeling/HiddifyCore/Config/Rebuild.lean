import HiddifyCore.Config.Emitted
import HiddifyCore.Config.MainProxy

/-!
# Building a built document

A document that `BuildConfig` returned is handed to it again. The second call drops the groups and
the built-in outbounds of the first and patches the kept ones once more. It emits the same
outbounds unless the first call generated a WARP outbound, which the second one takes for a proxy
of the user, or lowered an MTU so little that the second one lowers it again.
-/

namespace HiddifyCore.Config

open GoLib Singbox

variable {D : Deps}

/-! ### Outbounds that can be patched -/

/-- The types of the outbounds that the pass adds besides WARP. -/
def addedTypes : List OutboundType := [.selector, .urltest, .dns, .direct, .block]

/-- An outbound that was read from an object, up to its WireGuard record, or one that the pass
adds. -/
inductive Known (D : Deps) : Outbound → Prop where
  | read {m : JObj} {o : Outbound} (h : D.unmarshalOutbound m = .ok o)
    (wg : WireGuardOutboundOptions) : Known D { o with wireGuardOptions := wg }
  | added {o : Outbound} (h : o.type ∈ addedTypes) (hrest : o.rest = []) : Known D o

lemma known_of_type {o : Outbound} (t : OutboundType) (htype : o.type = t) (ht : t ∈ addedTypes)
    (hrest : o.rest = []) : Known D o ∧ o.type ≠ .custom := by
  subst htype
  refine ⟨.added ht hrest, fun hcustom => ?_⟩
  rw [hcustom] at ht
  exact absurd ht (by decide)

/-- The type has a dialer: it is direct or has TLS options. -/
def HasDialer (t : OutboundType) (m : JObj) : Prop := t = .direct ∨ ∃ tls, m.get? "tls" = some tls

/-- A TLS object after fields of it are set. -/
inductive EditedTLS (D : Deps) (m : JObj) : JObj → Prop where
  | refl : EditedTLS D m m
  | utls {m' : JObj} (h : EditedTLS D m m') (enabled : Bool) (fingerprint : String) :
    EditedTLS D m (m'.set "utls"
      (.obj [("enabled", .bool enabled), ("fingerprint", .str fingerprint)]))
  | tlsTricks {m' : JObj} (h : EditedTLS D m m') (o : TLSTricksOptions) :
    EditedTLS D m (m'.set "tls_tricks" (D.encodeTLSTricks o))

/-- An object of an outbound of the type, after fields that the type has are set. -/
inductive Edited (D : Deps) (t : OutboundType) (m : JObj) : JObj → Prop where
  | refl : Edited D t m m
  | multiplex {m' : JObj} (h : Edited D t m m')
    (ht : t = .vmess ∨ t = .vless ∨ t = .trojan ∨ t = .shadowsocks) (o : MultiplexOptions) :
    Edited D t m (m'.set "multiplex" (D.encodeMultiplex o))
  | tcpFastOpen {m' : JObj} (h : Edited D t m m') (ht : HasDialer t m') (b : Bool) :
    Edited D t m (m'.set "tcp_fast_open" (.bool b))
  | tlsFragment {m' : JObj} (h : Edited D t m m') (ht : HasDialer t m') (o : TLSFragmentOptions) :
    Edited D t m (m'.set "tls_fragment" (D.encodeTLSFragment o))
  | xrayFragment {m' : JObj} (h : Edited D t m m') (ht : t = .xray)
    (packets length interval : String) :
    Edited D t m (m'.set "xray_fragment" (.obj [("packets", .str packets),
      ("length", .str length), ("interval", .str interval)]))
  | tls {m' tls tls' : JObj} (h : Edited D t m m') (htls : m'.get? "tls" = some (.obj tls))
    (hedit : EditedTLS D tls tls') : Edited D t m (m'.set "tls" (.obj tls'))

/-- What sing-box documents about its codec: an outbound that was read can be written, what is
written can be read, also after fields of its type are set, and the fragment of an xray outbound
is written as an object. -/
structure Rereads (D : Deps) : Prop where
  marshal_isOk {o : Outbound} (h : Known D o) : (D.marshalOutbound o).IsOk
  unmarshal_isOk {o : Outbound} {m m' : JObj} (h : Known D o) (hm : D.marshalOutbound o = .ok m)
    (hedit : Edited D o.type m m') : (D.unmarshalOutbound m').IsOk
  xrayFragment {o : Outbound} {m : JObj} {v : Json} (hm : D.marshalOutbound o = .ok m)
    (ht : o.type = .xray) (hv : m.get? "xray_fragment" = some v) :
    v = .null ∨ ∃ fragment, v = .obj fragment

lemma Known.finishWarp {o : Outbound} (h : Known D o) (draws : Draws) :
    Known D (finishWarp D draws o true).1 := by
  simp only [Config.finishWarp]
  split_ifs with hwg
  · cases h with
    | read h wg => exact .read h _
    | added hadded =>
      rw [hwg.2] at hadded
      exact absurd hadded (by decide)
  · exact h

section Edits

variable {t : OutboundType} {m m' : JObj} {opt : ConfigOptions}

lemma Edited.patchOutboundMux (h : Edited D t m m')
    (ht : t = .vmess ∨ t = .vless ∨ t = .trojan ∨ t = .shadowsocks) :
    Edited D t m (patchOutboundMux D opt m') := by
  simp only [Config.patchOutboundMux]
  split_ifs
  · exact h.multiplex ht _
  · exact h

lemma Edited.patchOutboundFragment (h : Edited D t m m') (ht : HasDialer t m') :
    Edited D t m (patchOutboundFragment D opt m') := by
  simp only [Config.patchOutboundFragment]
  split_ifs
  · refine (h.tcpFastOpen ht false).tlsFragment ?_ _
    rcases ht with ht | ⟨tls, htls⟩
    · exact Or.inl ht
    · refine Or.inr ⟨tls, ?_⟩
      rw [JObj.get?_set_of_ne _ _ (by decide), htls]
  · exact h

lemma editedTLS_patchTLSObject (tls : OutboundTLSOptions) (m : JObj) :
    EditedTLS D m (patchTLSObject D tls opt m) := by
  simp only [patchTLSObject]
  split_ifs
  · exact (EditedTLS.refl.utls _ _).tlsTricks _
  · exact EditedTLS.refl.tlsTricks _

lemma Edited.patchTransport {base : Outbound} (h : Edited D base.type m m') :
    Edited D base.type m (patchTransport D base opt m') := by
  simp only [Config.patchTransport]
  split_ifs with hdirect
  · exact h.patchOutboundFragment (Or.inl hdirect)
  split
  · split_ifs
    · exact h
    · exact h
    · cases htls : (m'.get? "tls").bind Json.asObject? with
      | none => exact h
      | some outtls =>
        obtain ⟨v, hv, hobj⟩ := Option.bind_eq_some_iff.mp htls
        obtain rfl : v = .obj outtls := by
          cases v <;> simp_all [Json.asObject?]
        refine Edited.tls (h.patchOutboundFragment (Or.inr ⟨_, hv⟩)) ?_
          (editedTLS_patchTLSObject _ outtls)
        rw [patchOutboundFragment_tls, hv]
  · exact h

lemma lacksXrayFragment_isOk {base : Outbound} (hre : Rereads D)
    (hm : D.marshalOutbound base = .ok m) (ht : base.type = .xray) :
    (lacksXrayFragment m).IsOk := by
  simp only [lacksXrayFragment]
  cases hv : m.get? "xray_fragment" with
  | none => trivial
  | some v => rcases hre.xrayFragment hm ht hv with rfl | ⟨fragment, rfl⟩ <;> trivial

lemma patchXrayFragment_isOk {base : Outbound} (hre : Rereads D)
    (hm : D.marshalOutbound base = .ok m) (opt : ConfigOptions) :
    ∃ m', patchXrayFragment base opt m = .ok m' ∧ Edited D base.type m m' := by
  simp only [patchXrayFragment]
  split_ifs with hxray
  · obtain ⟨lacks, hlacks⟩ := (lacksXrayFragment_isOk hre hm hxray.1).exists_eq
    rw [hlacks, Outcome.bind_ok]
    cases lacks with
    | false => exact ⟨m, rfl, .refl⟩
    | true => exact ⟨_, rfl, Edited.refl.xrayFragment hxray.1 _ _ _⟩
  · exact ⟨m, rfl, .refl⟩

lemma patchOutboundTLSTricks_isOk {base : Outbound} (hre : Rereads D)
    (hm : D.marshalOutbound base = .ok m) (opt : ConfigOptions) :
    ∃ m', patchOutboundTLSTricks D base opt m = .ok m' ∧ Edited D base.type m m' := by
  simp only [patchOutboundTLSTricks]
  split_ifs
  · exact ⟨m, rfl, .refl⟩
  · exact ⟨m, rfl, .refl⟩
  · obtain ⟨m', hxray, hedit⟩ := patchXrayFragment_isOk hre hm opt
    rw [hxray, Outcome.bind_ok]
    exact ⟨_, rfl, hedit.patchTransport⟩

end Edits

lemma warpObject_of_ne {o : Outbound} (h : o.type ≠ .custom) : warpObject o = none := by
  rw [warpObject, if_neg h]

/-- An outbound of a built document is patched without an error. -/
lemma patchOutbound_isOk (hre : Rereads D) (draws : Draws) {o : Outbound} (h : Known D o)
    (htype : o.type ≠ .custom) (opt : ConfigOptions) : (patchOutbound D draws o opt).IsOk := by
  have hwarp : patchWarp D draws o (some opt) true = .ok (finishWarp D draws o true) := by
    simp only [patchWarp]
    rw [warpObject_of_ne htype]
  rcases hfinish : finishWarp D draws o true with ⟨base, writes⟩
  have hknown : Known D base := by
    have hfst := h.finishWarp draws
    rwa [hfinish] at hfst
  obtain ⟨m, hm⟩ := (hre.marshal_isOk hknown).exists_eq
  obtain ⟨m', htricks, hedit⟩ := patchOutboundTLSTricks_isOk hre hm opt
  have hread : (D.unmarshalOutbound (if base.type = .vmess ∨ base.type = .vless ∨
      base.type = .trojan ∨ base.type = .shadowsocks then patchOutboundMux D opt m'
      else m')).IsOk := by
    apply hre.unmarshal_isOk hknown hm
    split_ifs with hmux
    · exact hedit.patchOutboundMux hmux
    · exact hedit
  obtain ⟨out, hout⟩ := hread.exists_eq
  simp only [patchOutbound, hwarp, hfinish, Outcome.mapErr, Outcome.bind_ok, hm, htricks, hout]
  trivial

/-! ### The document as an input -/

lemma type_ne_custom {o : Outbound} (h : isDropped o.type = false) : o.type ≠ .custom := by
  intro hcustom
  rw [hcustom] at h
  cases h

lemma keeps_of_not_dropped {o : Outbound} (h : isDropped o.type = false) : keeps o = true := by
  simp [keeps, resolvedType, warpObject_of_ne (type_ne_custom h), h]

/-- What is emitted for an outbound that is emitted and then built again. -/
def reEmitted (e : Outbound.Emitted) : Outbound.Emitted :=
  { e with mtu := e.mtu.map (loweredMTU e.detour) }

lemma keptEmitted_of_not_dropped {o : Outbound} (h : isDropped o.type = false) :
    keptEmitted o = reEmitted o.emitted := by
  have hwarp := warpObject_of_ne (type_ne_custom h)
  simp only [keptEmitted, reEmitted, Outbound.emitted, Outbound.mtu, resolvedType, resolvedDetour,
    resolvedMTU, hwarp, members_of_kept h, groupDefault_of_kept h]
  split_ifs <;> simp_all

lemma loweredMTU_twice (detour : String) (mtu : UInt32) :
    loweredMTU detour (loweredMTU detour mtu) = loweredMTU detour mtu ↔
      (detour ≠ "" → mtu ≤ 1050) := by
  by_cases hdetour : detour = ""
  · simp [loweredMTU, hdetour]
  · simp only [loweredMTU, hdetour, ne_eq, not_false_eq_true, true_and, forall_const]
    split_ifs <;> grind

/-- A kept outbound is emitted alike by the second call when its MTU is not lowered again. -/
lemma reEmitted_keptEmitted (i : Outbound) :
    reEmitted (keptEmitted i) = keptEmitted i ↔
      (resolvedType i = .wireguard → resolvedDetour i ≠ "" → resolvedMTU i ≤ 1050) := by
  by_cases hwire : resolvedType i = .wireguard
  · rw [← loweredMTU_twice]
    simp [reEmitted, keptEmitted, hwire]
  · simp [reEmitted, keptEmitted, hwire]

/-! ### The second scan -/

lemma usesWarpKey_scannedOptions (env : BuildEnv) (opt : ConfigOptions) (input : Options) :
    usesWarpKey (scannedOptions env opt input) = usesWarpKey opt :=
  scannedOptions_congr usesWarpKey (fun _ _ => rfl) (fun _ _ => rfl) env opt input

lemma generatesWarp_scannedOptions (env : BuildEnv) (opt : ConfigOptions) (input : Options) :
    generatesWarp (scannedOptions env opt input) =
      (generatesWarp opt && !input.outbounds.any (usesWarpKey opt)) := by
  have huses : usesWarpKey (withSecret env opt) = usesWarpKey opt :=
    withSecret_congr usesWarpKey (fun _ _ => rfl) env opt
  have hwarp : (withSecret env opt).warp = opt.warp :=
    withSecret_congr (·.warp) (fun _ _ => rfl) env opt
  simp only [scannedOptions, scanWarp, huses, hwarp]
  split_ifs with hscan
  · simp [generatesWarp, hscan.2]
  · simp only [generatesWarp, hwarp]
    cases hon : opt.warp.enableWarp
    · rfl
    · have hnone : input.outbounds.any (usesWarpKey opt) = false := by simpa [hon] using hscan
      simp [hnone]

section Patches

variable {opt : ConfigOptions} {draws : Nat → Draws} {i : Nat} {outs : List Outbound}
  {ps : List Patched}

lemma Patches.exists_patch (h : Patches D opt draws i outs ps) :
    ∀ out ∈ outs, ∃ k, ∃ p ∈ ps, patchOutbound D (draws k) out opt = .ok p := by
  induction h with
  | nil => simp
  | cons hp _ ih =>
    intro out hmem
    rcases List.mem_cons.mp hmem with rfl | hmem
    · exact ⟨_, _, List.mem_cons_self, hp⟩
    · obtain ⟨k, p, hmem, hp⟩ := ih out hmem
      exact ⟨k, p, List.mem_cons_of_mem _ hmem, hp⟩

lemma Patches.exists_source (h : Patches D opt draws i outs ps) :
    ∀ p ∈ ps, ∃ out ∈ outs, ∃ k, patchOutbound D (draws k) out opt = .ok p := by
  induction h with
  | nil => simp
  | cons hp _ ih =>
    intro p hmem
    rcases List.mem_cons.mp hmem with rfl | hmem
    · exact ⟨_, List.mem_cons_self, _, hp⟩
    · obtain ⟨out, hout, k, hp⟩ := ih p hmem
      exact ⟨out, List.mem_cons_of_mem _ hout, k, hp⟩

lemma Patches.exists_read (h : Patches D opt draws i outs ps) :
    ∀ p ∈ ps, ∃ m, D.unmarshalOutbound m = .ok p.outbound := by
  intro p hmem
  obtain ⟨out, -, k, hp⟩ := h.exists_source p hmem
  obtain ⟨-, -, obj, -, -, -, -, hout⟩ := patchOutbound_steps hp
  exact ⟨obj, hout⟩

end Patches

namespace Built

variable {env : BuildEnv} {opt : ConfigOptions} {input out : Options} {tag : String}

lemma warp_not_dropped (b : Built D env opt input tag out) {o : Outbound} (ho : o ∈ b.warp) :
    isDropped o.type = false := by
  have hpart := b.warpPart
  generalize b.warp = warp at hpart ho
  cases hpart with
  | off _ => simp at ho
  | on _ hraw hout =>
    rw [List.mem_singleton.mp ho, (patchWarpOutbound_ok hraw hout).1]
    rfl

/-- The second call keeps the WARP outbound and the kept outbounds of the first. -/
lemma filter_keeps (b : Built D env opt input tag out) :
    out.outbounds.filter keeps =
      b.warp ++ b.kept.map (patchHiddifyWarpFromConfig (scannedOptions env opt input)) := by
  have hwarp : b.warp.filter keeps = b.warp :=
    List.filter_eq_self.mpr fun o ho => keeps_of_not_dropped (b.warp_not_dropped ho)
  have hkept : (b.kept.map (patchHiddifyWarpFromConfig (scannedOptions env opt input))).filter
      keeps = b.kept.map (patchHiddifyWarpFromConfig (scannedOptions env opt input)) := by
    refine List.filter_eq_self.mpr fun o ho => keeps_of_not_dropped ?_
    obtain ⟨k, hk, rfl⟩ := List.mem_map.mp ho
    rw [patchHiddifyWarp_type]
    exact (mem_keptOf.mp hk).2
  rw [b.outbounds_eq, List.filter_append, List.filter_append, List.filter_append, hwarp, hkept]
  have hgroups : ∀ tags opt',
      [selectorOutbound tags, urlTestOutbound opt' tags].filter keeps = [] := fun _ _ => rfl
  have hbuiltin : ∀ opt', (builtinOutbounds opt').filter keeps = [] := fun _ => rfl
  rw [hgroups, hbuiltin, List.nil_append, List.append_nil]

/-- Every outbound of a document without WARP can be patched. -/
lemma known (b : Built D env opt input tag out)
    (hoff : generatesWarp (scannedOptions env opt input) = false) {o : Outbound}
    (ho : o ∈ out.outbounds) : Known D o ∧ o.type ≠ .custom := by
  rw [b.outbounds_off hoff, List.mem_append, List.mem_append] at ho
  rcases ho with (ho | ho) | ho
  · simp only [List.mem_cons, List.not_mem_nil, or_false] at ho
    rcases ho with rfl | rfl
    · exact known_of_type .selector rfl (by decide) rfl
    · exact known_of_type .urltest rfl (by decide) rfl
  · obtain ⟨⟨p, hp, rfl⟩, hdrop⟩ := mem_keptOf.mp ho
    obtain ⟨m, hm⟩ := b.patches.exists_read p hp
    exact ⟨.read hm p.outbound.wireGuardOptions, type_ne_custom hdrop⟩
  · simp only [builtinOutbounds, List.mem_cons, List.not_mem_nil, or_false] at ho
    rcases ho with rfl | rfl | rfl | rfl | rfl
    · exact known_of_type .dns rfl (by decide) rfl
    · exact known_of_type .direct rfl (by decide) rfl
    · exact known_of_type .direct rfl (by decide) rfl
    · exact known_of_type .direct rfl (by decide) rfl
    · exact known_of_type .block rfl (by decide) rfl

/-- The second scan finds the outbound that the first one found. -/
lemma scanned_off (hD : D.Documented) (hwg : WireGuardKeyed D) (b : Built D env opt input tag out)
    (hoff : generatesWarp (scannedOptions env opt input) = false) (env' : BuildEnv) :
    generatesWarp (scannedOptions env' opt out) = false := by
  rw [generatesWarp_scannedOptions] at hoff ⊢
  cases hgen : generatesWarp opt with
  | false => rfl
  | true =>
    obtain ⟨i, hi, huses⟩ : ∃ i ∈ input.outbounds, usesWarpKey opt i = true := by
      simpa [hgen] using hoff
    obtain ⟨k, p, hp, hpatch⟩ := b.patches.exists_patch i hi
    rw [← usesWarpKey_scannedOptions env opt input] at huses
    have hkey := patchOutbound_hasWarpKey hD hwg hpatch huses
    have hkept : p.outbound ∈ b.kept := by
      refine mem_keptOf.mpr ⟨⟨p, hp, rfl⟩, ?_⟩
      rw [hkey.1]
      rfl
    have hany : out.outbounds.any (usesWarpKey opt) = true := by
      refine List.any_eq_true.mpr ⟨_, b.kept_subset hkept, ?_⟩
      rw [patchHiddifyWarp_off, ← usesWarpKey_scannedOptions env opt input]
      · exact hkey.usesWarpKey
      · rw [generatesWarp_scannedOptions, hoff]
    rw [hany]
    rfl

end Built

lemma WarpPart.hasWarpKey {draws : Draws} {opt : ConfigOptions} {warp : Outbound}
    (h : WarpPart D draws opt [warp]) : HasWarpKey opt warp := by
  cases h with
  | @on raw _ _ hraw hout =>
    have htype := (warpOutbound_ok hraw).1
    rw [patchWarpOutbound_eq hraw hout]
    refine ⟨(finishWarp_type draws raw true).trans htype, Or.inl ?_⟩
    rw [finishWarp_record htype, (finishWireGuard_record draws _).2]
    obtain ⟨reserved, prefixes, rfl⟩ := warpOutbound_record hraw
    rfl

/-! ### The second call -/

/-- The second call returns a document with the same outbounds and the same default route. -/
def RebuildsSame (D : Deps) (env : BuildEnv) (opt : ConfigOptions) (out : Options) (g : Globals) :
    Prop :=
  ∃ out', (buildConfig D env opt out g).1 = .ret (.ok out') ∧
    out'.outbounds.map Outbound.emitted = out.outbounds.map Outbound.emitted ∧
    finalOf out' = finalOf out

namespace Built

variable {env : BuildEnv} {opt : ConfigOptions} {input out : Options} {tag : String}

lemma finalOf_eq (b : Built D env opt input tag out) : finalOf out = some tag := by
  rw [finalOf, b.route_eq, Option.map_some]

variable (hD : D.Documented) (hwg : WireGuardKeyed D) (b : Built D env opt input tag out)
include hD hwg b

lemma rebuild_isOk (hre : Rereads D)
    (hoff : generatesWarp (scannedOptions env opt input) = false) (env' : BuildEnv) (g : Globals) :
    ∃ out', (buildConfig D env' opt out g).1 = .ret (.ok out') := by
  refine (buildConfig_isOk ⟨env', opt, out⟩ g).mpr ?_
  rintro (⟨hon, -⟩ | ⟨k, o, ho, hfails⟩)
  · rw [b.scanned_off hD hwg hoff env'] at hon
    cases hon
  · obtain ⟨hknown, htype⟩ := b.known hoff (List.mem_of_getElem? ho)
    exact hfails (patchOutbound_isOk hre _ hknown htype _)

/-- Without WARP the second document differs in the MTU of outbounds alone. -/
lemma rebuild_emitted_iff (hoff : generatesWarp (scannedOptions env opt input) = false)
    {env' : BuildEnv} {out' : Options} {tag' : String} (b' : Built D env' opt out tag' out') :
    out'.outbounds.map Outbound.emitted = out.outbounds.map Outbound.emitted ↔
      ∀ i ∈ input.outbounds, resolvedType i = .wireguard → resolvedDetour i ≠ "" →
        resolvedMTU i ≤ 1050 := by
  have hfilter : out.outbounds.filter keeps = b.kept := by
    rw [b.filter_keeps, b.warp_off hoff, funext (patchHiddifyWarp_off hoff), List.map_id',
      List.nil_append]
  have hvisible : visibleOf out.outbounds = visibleOf input.outbounds := by
    rw [← b.visibleTags_eq hD, visibleOf, hfilter]
    rfl
  have hkept : b.kept.map keptEmitted =
      ((input.outbounds.filter keeps).map keptEmitted).map reEmitted := by
    rw [← b.kept_emitted hD hwg, List.map_map]
    refine List.map_congr_left fun o ho => ?_
    exact keptEmitted_of_not_dropped (mem_keptOf.mp ho).2
  rw [b'.emitted_eq hD hwg (b.scanned_off hD hwg hoff env'), b.emitted_eq hD hwg hoff, hvisible,
    hfilter, hkept, List.append_left_inj, List.append_right_inj, List.map_map,
    List.map_inj_left]
  constructor
  · intro h i hi hwire
    refine (reEmitted_keptEmitted i).mp (h i ?_) hwire
    refine List.mem_filter.mpr ⟨hi, ?_⟩
    simp [keeps, hwire, isDropped]
  · intro h i hi
    exact (reEmitted_keptEmitted i).mpr (h i (List.mem_filter.mp hi).1)

/-- The second call lists the generated WARP outbound in its groups. -/
lemma not_rebuild_emitted (hon : generatesWarp (scannedOptions env opt input) = true)
    {env' : BuildEnv} {out' : Options} {tag' : String} (b' : Built D env' opt out tag' out') :
    out'.outbounds.map Outbound.emitted ≠ out.outbounds.map Outbound.emitted := by
  intro hsame
  obtain ⟨warp, hwarp, htag, -⟩ := b.warpPart.exists_warp hon
  have hpart : WarpPart D env.warp (scannedOptions env opt input) [warp] := hwarp ▸ b.warpPart
  have hany : out.outbounds.any (usesWarpKey opt) = true := by
    refine List.any_eq_true.mpr ⟨warp, b.warp_subset (hwarp ▸ List.mem_singleton_self warp), ?_⟩
    rw [← usesWarpKey_scannedOptions env opt input]
    exact hpart.hasWarpKey.usesWarpKey
  have hoff : generatesWarp (scannedOptions env' opt out) = false := by
    rw [generatesWarp_scannedOptions, hany, Bool.not_true, Bool.and_false]
  -- the members of the selector of the second document
  have hvisible : visibleOf out.outbounds = warpTag :: visibleTags b.kept := by
    have htags : Outbound.tag ∘ patchHiddifyWarpFromConfig (scannedOptions env opt input) =
        Outbound.tag := funext (patchHiddifyWarp_tag _)
    rw [visibleOf, b.filter_keeps, hwarp, List.map_append, List.map_map, htags, List.filter_append]
    simp only [List.map_cons, List.map_nil, htag]
    rfl
  rw [b'.emitted_eq hD hwg hoff, hvisible, b.outbounds_eq] at hsame
  have hmembers := congrArg (fun es => es.head?.map Outbound.Emitted.members) hsame
  simp [Outbound.emitted, Outbound.members, selectorOutbound] at hmembers

end Built

/-- A built document is built again into the same outbounds and the same default route exactly
when the first call generated no WARP outbound, found the selector as the main proxy, and lowered
no MTU to one that is lowered again. -/
theorem rebuildsSame_iff (hD : D.Documented) (hwg : WireGuardKeyed D) (hre : Rereads D)
    {env : BuildEnv} {opt : ConfigOptions} {input out : Options} {g g' : Globals}
    (h : buildConfig D env opt input g = (.ret (.ok out), g')) (env' : BuildEnv) :
    RebuildsSame D env' opt out g' ↔
      generatesWarp (scannedOptions env opt input) = false ∧
      g.outboundMainProxyTag = outboundSelectTag ∧
      ∀ i ∈ input.outbounds, resolvedType i = .wireguard → resolvedDetour i ≠ "" →
        resolvedMTU i ≤ 1050 := by
  obtain ⟨b⟩ := buildConfig_ok h
  have htag : g'.outboundMainProxyTag = tagAfter D (scannedOptions env opt input) := by
    rw [← buildConfig_mainProxyTag D env opt input g, h]
  cases hgen : generatesWarp (scannedOptions env opt input) with
  | true =>
    simp only [Bool.true_eq_false, false_and, iff_false]
    rintro ⟨out', hout', hsame, -⟩
    obtain ⟨b'⟩ := buildConfig_fst_ok hout'
    exact b.not_rebuild_emitted hD hwg hgen b' hsame
  | false =>
    have hselect : g'.outboundMainProxyTag = outboundSelectTag := by
      rw [htag, tagAfter, hgen]
      rfl
    obtain ⟨out', hout'⟩ := b.rebuild_isOk hD hwg hre hgen env' g'
    obtain ⟨b'⟩ := buildConfig_fst_ok hout'
    have hfinal : finalOf out' = finalOf out ↔ g.outboundMainProxyTag = outboundSelectTag := by
      rw [b'.finalOf_eq, b.finalOf_eq, hselect, Option.some.injEq]
      exact eq_comm
    rw [← hfinal, ← b.rebuild_emitted_iff hD hwg hgen b']
    constructor
    · rintro ⟨out'', hout'', hsame, hroute⟩
      rw [hout'] at hout''
      cases hout''
      exact ⟨rfl, hroute, hsame⟩
    · rintro ⟨-, hroute, hsame⟩
      exact ⟨out', hout', hsame, hroute⟩

/-! ### The codec -/

namespace Codec

variable {o : Outbound} {m m' : JObj}

lemma marshalOutbound_wireguard (h : deps.marshalOutbound o = .ok m) (hwg : o.type = .wireguard) :
    m.get? "mtu" = some (.num o.wireGuardOptions.mtu.toNat 0) ∧
      m.get? "private_key" = some (.str o.wireGuardOptions.privateKey) := by
  obtain ⟨-, rfl⟩ := marshalOutbound_ok h
  simp only [recordFields, hwg]
  have hlt := o.wireGuardOptions.mtu.toNat_lt
  refine ⟨JObj.get?_unmarshalMap_whole rfl ?_, rfl⟩
  omega

lemma unmarshalOutbound_wireguard (h : unmarshalOutbound m = .ok o) (hwg : o.type = .wireguard) :
    o.wireGuardOptions.mtu = decodeMTU m ∧
      o.wireGuardOptions.privateKey = m.getString "private_key" := by
  have heq := (unmarshalOutbound_ok h).2.2
  rw [hwg] at heq
  rw [heq]
  exact ⟨rfl, rfl⟩

lemma ofInt_toNat (mtu : UInt32) : UInt32.ofInt (mtu.toNat : Int) = mtu := by
  have hlt := mtu.toNat_lt
  apply UInt32.toNat_inj.mp
  simp only [UInt32.ofInt, UInt32.toNat_ofNat']
  omega

lemma wireGuardKeyed : WireGuardKeyed deps where
  mtu_of_key {o o' m m'} h h' htype hkey hwg := by
    have hwg' : o'.type = .wireguard := (type_of_key h h' htype).trans hwg
    rw [(unmarshalOutbound_wireguard h' hwg').1, decodeMTU, hkey,
      (marshalOutbound_wireguard h hwg).1]
    exact ofInt_toNat _
  privateKey_of_key {o o' m m'} h h' htype hkey hwg := by
    have hwg' : o'.type = .wireguard := (type_of_key h h' htype).trans hwg
    rw [(unmarshalOutbound_wireguard h' hwg').2, Reference.getString_congr hkey]
    exact Reference.getString_of_get? (marshalOutbound_wireguard h hwg).2

lemma type_of_known (h : Known deps o) : o.type ∈ codedTypes := by
  cases h with
  | read h _ => exact (unmarshalOutbound_ok h).1
  | added h _ =>
    revert h
    generalize o.type = t
    revert t
    decide

lemma get?_type_of_edited (h : Edited deps o.type m m') : m'.get? "type" = m.get? "type" := by
  induction h with
  | refl => rfl
  | multiplex _ _ _ ih => rw [JObj.get?_set_of_ne _ _ (by decide), ih]
  | tcpFastOpen _ _ _ ih => rw [JObj.get?_set_of_ne _ _ (by decide), ih]
  | tlsFragment _ _ _ ih => rw [JObj.get?_set_of_ne _ _ (by decide), ih]
  | xrayFragment _ _ _ _ _ ih => rw [JObj.get?_set_of_ne _ _ (by decide), ih]
  | tls _ _ _ ih => rw [JObj.get?_set_of_ne _ _ (by decide), ih]

/-- An object with the name of a known type is read. -/
lemma unmarshalOutbound_isOk {t : OutboundType} (ht : t ∈ codedTypes)
    (hm : m.getString "type" = t.name) : (unmarshalOutbound m).IsOk := by
  have hfind : (codedTypes.find? (·.name = m.getString "type")).isSome := by
    rw [List.find?_isSome]
    exact ⟨t, ht, by simp [hm]⟩
  obtain ⟨t', ht'⟩ := Option.isSome_iff_exists.mp hfind
  simp only [unmarshalOutbound, ht']
  trivial

lemma rereads : Rereads deps where
  marshal_isOk h := by
    simp only [Deps.marshalOutbound, deps, marshalJSON, type_of_known h, if_true]
    trivial
  unmarshal_isOk h hm hedit := by
    refine unmarshalOutbound_isOk (type_of_known h) ?_
    rw [Reference.getString_congr (get?_type_of_edited hedit), marshalOutbound_type hm]
  xrayFragment {o m v} hm ht hv := by
    obtain ⟨-, rfl⟩ := marshalOutbound_ok hm
    simp only [recordFields, ht, Reference.encodeDetour] at hv
    split_ifs at hv <;> cases hv

end Codec

/-- A WireGuard outbound behind a proxy, with this MTU. -/
def detouredWireGuard (mtu : UInt32) : Options where
  outbounds := [
    { type := .wireguard, tag := "w", wireGuardOptions := { detour := "a", mtu := mtu } },
    { type := .socks, tag := "a" }]

lemma buildConfig_detouredWireGuard (mtu : UInt32) : isDocument
    (buildConfig Codec.deps {} defaultConfigOptions (detouredWireGuard mtu) {}).1 = true := by
  rfl

theorem rebuildsSame_1040 :
    RebuildsSame Codec.deps {} defaultConfigOptions
      (documentOf (buildConfig Codec.deps {} defaultConfigOptions (detouredWireGuard 1040) {}).1)
      (buildConfig Codec.deps {} defaultConfigOptions (detouredWireGuard 1040) {}).2 := by
  apply (rebuildsSame_iff Codec.deps_documented Codec.wireGuardKeyed Codec.rereads
    (Prod.ext (eq_documentOf (buildConfig_detouredWireGuard 1040)) rfl) {}).mpr
  exact ⟨by decide, rfl, by decide⟩

/-- The MTU of a detoured WARP outbound is lowered by each of two calls. -/
theorem not_rebuildsSame :
    ¬ ∀ D : Deps, D.Documented → WireGuardKeyed D → Rereads D → ∀ (env : BuildEnv)
      (opt : ConfigOptions) (input out : Options) (g g' : Globals),
        buildConfig D env opt input g = (.ret (.ok out), g') →
          ∀ env', RebuildsSame D env' opt out g' := by
  intro h
  have hbuilt := Prod.ext (eq_documentOf (buildConfig_detouredWireGuard 1330)) rfl
  obtain ⟨out', hout', hsame, -⟩ := h _ Codec.deps_documented Codec.wireGuardKeyed Codec.rereads
    _ _ _ _ _ _ hbuilt {}
  obtain ⟨b⟩ := buildConfig_ok hbuilt
  obtain ⟨b'⟩ := buildConfig_fst_ok hout'
  have hmtu := (b.rebuild_emitted_iff Codec.deps_documented Codec.wireGuardKeyed (by decide)
    b').mp hsame
  exact absurd hmtu (by decide)

end HiddifyCore.Config
