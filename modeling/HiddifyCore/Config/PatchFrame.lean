import HiddifyCore.Config.Patching
import HiddifyCore.Config.Reference

/-!
# The frame of patchOutbound

The object that `patchOutbound` gives to `UnmarshalJSON` is the text of `MarshalJSON` but for the
keys that the options ask to change, and for the numbers that a `float64` does not keep: the text
is read into a map before it is edited. The objects are maps: two of them are compared key by key.
-/

namespace HiddifyCore.Config

open GoLib Singbox

section Frame

variable {D : Deps} {base : Outbound} {opt : ConfigOptions} {m m' : JObj}

/-! ### The keys that may change -/

/-- TLS that is enabled, over one of the transports that the TLS tricks are meant for. -/
def HasTrickedTransport (base : Outbound) : Prop :=
  ∃ record ∈ [base.vlessOptions, base.trojanOptions, base.vmessOptions], ∃ tls transport,
    record.tls = some tls ∧ tls.enabled = true ∧ record.transport = some transport ∧
      (transport = .websocket ∨ transport = .grpc ∨ transport = .httpUpgrade)

/-- The object has no packets for the fragments of an xray outbound. -/
def HasNoPackets (m : JObj) : Prop :=
  m.get? "xray_fragment" = none ∨ m.get? "xray_fragment" = some .null ∨
    ∃ fragment : JObj, m.get? "xray_fragment" = some (.obj fragment) ∧
      fragment.get? "packets" = some (.str "")

/-- The options ask for another value at the key of the object `m` of `base`. -/
inductive MayChange (base : Outbound) (opt : ConfigOptions) (m : JObj) : String → Prop
  | multiplex (h : opt.mux.enable = true)
      (htype : base.type ∈ [.vmess, .vless, .trojan, .shadowsocks]) :
      MayChange base opt m "multiplex"
  | tlsFragment (h : opt.tlsTricks.enableFragment = true)
      (hbase : base.type = .direct ∨ HasTrickedTransport base) : MayChange base opt m "tls_fragment"
  | tcpFastOpen (h : opt.tlsTricks.enableFragment = true)
      (hbase : base.type = .direct ∨ HasTrickedTransport base) :
      MayChange base opt m "tcp_fast_open"
  | xrayFragment (h : opt.tlsTricks.enableFragment = true) (htype : base.type = .xray)
      (hpackets : HasNoPackets m) : MayChange base opt m "xray_fragment"
  | tls (hbase : HasTrickedTransport base) : MayChange base opt m "tls"

/-- The same for the object under the key `tls`. -/
inductive MayChangeTLS (opt : ConfigOptions) : String → Prop
  | utls (h : opt.tlsTricks.enablePadding = true) : MayChangeTLS opt "utls"
  | tlsTricks : MayChangeTLS opt "tls_tricks"

/-- A VLESS outbound with Reality enabled. -/
def UsesReality (base : Outbound) : Prop :=
  base.type = .vless ∧ ∃ tls, base.vlessOptions.tls = some tls ∧ tls.reality = some true

/-- Outside of what may change, every number of the text `m` is one that a `float64` keeps. -/
structure KeepsNumbers (base : Outbound) (opt : ConfigOptions) (m : JObj) : Prop where
  keys {k : String} {v : Json} : m.get? k = some v → ¬ MayChange base opt m k → v.exact = true
  tls {v : Json} : m.get? "tls" = some v → v.exact = true ∨ ∃ tls : JObj, v = .obj tls ∧
    ∀ k w, tls.get? k = some w → ¬ MayChangeTLS opt k → w.exact = true
  reality : UsesReality base → ∀ k v, m.get? k = some v → k ≠ "multiplex" → v.exact = true

/-- The object `m'` is `m` with what the options ask for. -/
structure ChangesOnly (base : Outbound) (opt : ConfigOptions) (m m' : JObj) : Prop where
  keys : ∀ k, m'.get? k ≠ m.get? k → MayChange base opt m k
  tls : m'.get? "tls" ≠ m.get? "tls" → ∃ tls tls' : JObj,
    m.get? "tls" = some (.obj tls) ∧ m'.get? "tls" = some (.obj tls') ∧
      ∀ k, tls'.get? k ≠ tls.get? k → MayChangeTLS opt k
  reality : UsesReality base → ∀ k, m'.get? k ≠ m.get? k → k = "multiplex"

/-! ### Frames -/

/-- The objects agree at every key outside `P`. -/
def Frame (P : String → Prop) (m m' : JObj) : Prop := ∀ k, m'.get? k ≠ m.get? k → P k

lemma Frame.refl (P : String → Prop) (m : JObj) : Frame P m m := fun _ hk => absurd rfl hk

lemma Frame.trans {P : String → Prop} {m₁ m₂ m₃ : JObj} (h : Frame P m₁ m₂)
    (h' : Frame P m₂ m₃) : Frame P m₁ m₃ := by
  intro k hk
  by_cases hk' : m₃.get? k = m₂.get? k
  · exact h k (hk' ▸ hk)
  · exact h' k hk'

lemma Frame.set {P : String → Prop} {k : String} (h : P k) (m : JObj) (v : Json) :
    Frame P m (m.set k v) := by
  intro k' hk'
  by_cases heq : k' = k
  · rwa [heq]
  · exact absurd (JObj.get?_set_of_ne m v heq) hk'

lemma Frame.mono {P Q : String → Prop} (h : Frame P m m') (hPQ : ∀ k, P k → Q k) :
    Frame Q m m' := fun k hk => hPQ k (h k hk)

lemma Frame.eq_of_not {P : String → Prop} (h : Frame P m m') {k : String} (hk : ¬ P k) :
    m'.get? k = m.get? k := by
  by_contra hne
  exact hk (h k hne)

/-! ### The edits -/

lemma patchOutboundFragment_frame (hbase : base.type = .direct ∨ HasTrickedTransport base)
    (obj : JObj) : Frame (MayChange base opt m) obj (patchOutboundFragment D opt obj) := by
  simp only [patchOutboundFragment]
  split_ifs with h
  · exact (Frame.set (.tcpFastOpen h hbase) _ _).trans (.set (.tlsFragment h hbase) _ _)
  · exact .refl _ _

lemma hasNoPackets_of_lacks (h : lacksXrayFragment m = .ok true) : HasNoPackets m := by
  simp only [lacksXrayFragment] at h
  split at h
  · exact .inl ‹_›
  · exact .inr (.inl ‹_›)
  · rename_i fragment hfragment
    refine .inr (.inr ⟨fragment, hfragment, ?_⟩)
    simp only [Outcome.ok.injEq, beq_iff_eq] at h
    obtain ⟨v, hv, hstr⟩ := Option.bind_eq_some_iff.mp h
    cases v with
    | str s =>
      cases hstr
      exact hv
    | null | bool | num | arr | obj => cases hstr
  · cases h

/-- The first edit, in xray outbounds. -/
lemma patchXrayFragment_frame (h : patchXrayFragment base opt m = .ok m') :
    Frame (fun k => k = "xray_fragment" ∧ MayChange base opt m k) m m' := by
  simp only [patchXrayFragment] at h
  split_ifs at h with hxray
  · obtain ⟨lacks, hlacks, h⟩ := Outcome.bind_eq_ok.mp h
    cases lacks with
    | true =>
      cases h
      exact .set ⟨rfl, .xrayFragment hxray.2 hxray.1 (hasNoPackets_of_lacks hlacks)⟩ _ _
    | false =>
      cases h
      exact .refl _ _
  · cases h
    exact .refl _ _

lemma trickedTLS_mem {tls : OutboundTLSOptions} {transport : Option V2RayTransportType}
    (h : trickedTLS base = some (tls, transport)) :
    ∃ record ∈ [base.vlessOptions, base.trojanOptions, base.vmessOptions],
      record.tls = some tls ∧ record.transport = transport := by
  simp only [trickedTLS] at h
  split at h
  · cases h
    exact ⟨_, by simp, ‹_›, rfl⟩
  · cases h
    exact ⟨_, by simp, ‹_›, rfl⟩
  · cases h
    exact ⟨_, by simp, ‹_›, rfl⟩
  · cases h

lemma patchTLSObject_frame (tls : OutboundTLSOptions) (outtls : JObj) :
    Frame (MayChangeTLS opt) outtls (patchTLSObject D tls opt outtls) := by
  simp only [patchTLSObject]
  split_ifs with h
  · exact (Frame.set (.utls h) _ _).trans (.set .tlsTricks _ _)
  · exact .set .tlsTricks _ _

/-- What `patchTransport` does: the fragment of a direct outbound, or the fragment and the TLS
object of one with a transport that is tricked, or nothing. -/
lemma patchTransport_cases (D : Deps) (base : Outbound) (opt : ConfigOptions) (obj : JObj) :
    (base.type = .direct ∧ patchTransport D base opt obj = patchOutboundFragment D opt obj) ∨
    (∃ tls outtls, HasTrickedTransport base ∧ obj.get? "tls" = some (.obj outtls) ∧
      patchTransport D base opt obj = (patchOutboundFragment D opt obj).set "tls"
        (.obj (patchTLSObject D tls opt outtls))) ∨
    patchTransport D base opt obj = obj := by
  simp only [patchTransport]
  split_ifs with hdirect
  · exact .inl ⟨hdirect, rfl⟩
  refine .inr ?_
  cases htls : trickedTLS base with
  | none => exact .inr rfl
  | some pair =>
    obtain ⟨tls, _ | transport⟩ := pair
    · exact .inr rfl
    obtain ⟨record, hmem, hrecord, htransport⟩ := trickedTLS_mem htls
    simp only
    split_ifs with henabled hother
    · exact .inr rfl
    · exact .inr rfl
    cases hobj : (obj.get? "tls").bind Json.asObject? with
    | none => exact .inr rfl
    | some outtls =>
      refine .inl ⟨tls, outtls,
        ⟨record, hmem, tls, transport, hrecord, ?_, htransport, ?_⟩, ?_, rfl⟩
      · simpa using henabled
      · by_contra hno
        exact hother (by simpa only [not_or] using hno)
      · obtain ⟨v, hv, hv'⟩ := Option.bind_eq_some_iff.mp hobj
        cases v with
        | obj kvs =>
          cases hv'
          exact hv
        | null | bool | num | str | arr => cases hv'

lemma patchTransport_frame (obj : JObj) :
    Frame (MayChange base opt m) obj (patchTransport D base opt obj) := by
  rcases patchTransport_cases D base opt obj with ⟨hdirect, heq⟩ | ⟨tls, outtls, hhas, -, heq⟩ | heq
  · rw [heq]
    exact patchOutboundFragment_frame (.inl hdirect) obj
  · rw [heq]
    exact (patchOutboundFragment_frame (.inr hhas) obj).trans (.set (.tls hhas) _ _)
  · rw [heq]
    exact .refl _ _

/-- The TLS object changes as a whole, and inside of it only the tricks. -/
lemma patchTransport_tls {obj : JObj}
    (h : (patchTransport D base opt obj).get? "tls" ≠ obj.get? "tls") :
    ∃ tls tls' : JObj, obj.get? "tls" = some (.obj tls) ∧
      (patchTransport D base opt obj).get? "tls" = some (.obj tls') ∧
      Frame (MayChangeTLS opt) tls tls' := by
  rcases patchTransport_cases D base opt obj with ⟨-, heq⟩ | ⟨tls, outtls, -, htls, heq⟩ | heq
  · rw [heq] at h
    exact absurd (patchOutboundFragment_tls opt obj) h
  · refine ⟨outtls, patchTLSObject D tls opt outtls, htls, ?_, patchTLSObject_frame tls outtls⟩
    rw [heq, JObj.get?_set_self]
  · rw [heq] at h
    exact absurd rfl h

/-- The object once all edits are made. -/
def editedObject (D : Deps) (base : Outbound) (opt : ConfigOptions) (obj : JObj) :
    Outcome JObj := do
  let obj ← patchOutboundTLSTricks D base opt obj
  .ok (if base.type = .vmess ∨ base.type = .vless ∨ base.type = .trojan ∨ base.type = .shadowsocks
    then patchOutboundMux D opt obj else obj)

/-- The object before the multiplex options. -/
lemma patchOutboundTLSTricks_cases (h : patchOutboundTLSTricks D base opt m = .ok m') :
    m' = m ∨ ∃ obj, isOutboundReality base = false ∧ patchXrayFragment base opt m = .ok obj ∧
      m' = patchTransport D base opt obj := by
  simp only [patchOutboundTLSTricks] at h
  split_ifs at h with htype hreality
  · cases h
    exact .inl rfl
  · cases h
    exact .inl rfl
  · obtain ⟨obj, hobj, h⟩ := Outcome.bind_eq_ok.mp h
    cases h
    exact .inr ⟨obj, by simpa using hreality, hobj, rfl⟩

lemma isOutboundReality_of_uses (h : UsesReality base) : isOutboundReality base = true := by
  obtain ⟨htype, tls, htls, hreality⟩ := h
  simp [isOutboundReality, htype, htls, hreality]

/-- The last edit, in the types that have multiplexing. -/
lemma muxed_frame (base : Outbound) (opt : ConfigOptions) (obj : JObj) :
    Frame (fun k => k = "multiplex" ∧ MayChange base opt m k) obj
      (if base.type = .vmess ∨ base.type = .vless ∨ base.type = .trojan ∨ base.type = .shadowsocks
        then patchOutboundMux D opt obj else obj) := by
  split_ifs with htype
  · simp only [patchOutboundMux]
    split_ifs with h
    · refine .set ⟨rfl, .multiplex h ?_⟩ _ _
      simpa using htype
    · exact .refl _ _
  · exact .refl _ _

/-- The edits of a map that was read. -/
lemma editedObject_changesOnly (h : editedObject D base opt m = .ok m') :
    ChangesOnly base opt m m' := by
  obtain ⟨obj, hobj, h⟩ := Outcome.bind_eq_ok.mp h
  have hmux := muxed_frame (D := D) (m := m) base opt obj
  rw [Outcome.ok.inj h] at hmux
  have htls : m'.get? "tls" = obj.get? "tls" := hmux.eq_of_not fun h => absurd h.1 (by decide)
  rcases patchOutboundTLSTricks_cases hobj with rfl | ⟨obj₁, hreality, hxray, rfl⟩
  · exact ⟨hmux.mono fun _ h => h.2, fun h => absurd htls h, fun _ k hk => (hmux k hk).1⟩
  · have hframe := patchXrayFragment_frame hxray
    refine ⟨?_, fun hne => ?_, fun huses => ?_⟩
    · exact ((hframe.mono fun _ h => h.2).trans (patchTransport_frame obj₁)).trans
        (hmux.mono fun _ h => h.2)
    · have hkept : obj₁.get? "tls" = m.get? "tls" :=
        hframe.eq_of_not fun h => absurd h.1 (by decide)
      rw [htls, ← hkept] at hne
      rw [htls, ← hkept]
      exact patchTransport_tls hne
    · rw [isOutboundReality_of_uses huses] at hreality
      cases hreality

/-! ### Numbers that were read -/

lemma hasNoPackets_of_unmarshalMap (h : HasNoPackets m.unmarshalMap) : HasNoPackets m := by
  rcases h with hnone | hnull | ⟨fragment, hobj, hempty⟩
  · rw [JObj.get?_unmarshalMap, Option.map_eq_none_iff] at hnone
    exact .inl hnone
  · rw [JObj.get?_unmarshalMap] at hnull
    obtain ⟨v, hv, hread⟩ := Option.map_eq_some_iff.mp hnull
    cases v with
    | null => exact .inr (.inl hv)
    | bool | num | str | arr | obj => simp [Json.unmarshalAny] at hread
  · obtain ⟨kvs, hkvs, rfl⟩ := JObj.get?_unmarshalMap_eq_obj.mp hobj
    rw [JObj.get?_unmarshalMap] at hempty
    obtain ⟨v, hv, hread⟩ := Option.map_eq_some_iff.mp hempty
    cases v with
    | str s =>
      cases hread
      exact .inr (.inr ⟨kvs, hkvs, hv⟩)
    | null | bool | num | arr | obj => simp [Json.unmarshalAny] at hread

lemma MayChange.of_unmarshalMap {k : String} (h : MayChange base opt m.unmarshalMap k) :
    MayChange base opt m k := by
  cases h with
  | multiplex h htype => exact .multiplex h htype
  | tlsFragment h hbase => exact .tlsFragment h hbase
  | tcpFastOpen h hbase => exact .tcpFastOpen h hbase
  | tls hbase => exact .tls hbase
  | xrayFragment h htype hpackets =>
    exact .xrayFragment h htype (hasNoPackets_of_unmarshalMap hpackets)

/-- A text of exact numbers. -/
lemma keepsNumbers_of_exact (h : Json.exactMembers m = true) : KeepsNumbers base opt m where
  keys hv _ := JObj.exact_of_get? h hv
  tls hv := .inl (JObj.exact_of_get? h hv)
  reality _ _ _ hv _ := JObj.exact_of_get? h hv

lemma KeepsNumbers.frame (h : KeepsNumbers base opt m) :
    Frame (MayChange base opt m) m m.unmarshalMap := by
  intro k hk
  by_contra hno
  exact hk (JObj.get?_unmarshalMap_eq_self.mpr fun v hv => h.keys hv hno)

lemma KeepsNumbers.frame_tls (h : KeepsNumbers base opt m) {tls : JObj}
    (htls : m.get? "tls" = some (.obj tls)) :
    Frame (MayChangeTLS opt) tls tls.unmarshalMap := by
  intro k hk
  by_contra hno
  refine hk (JObj.get?_unmarshalMap_eq_self.mpr fun w hw => ?_)
  rcases h.tls htls with hexact | ⟨tls', heq, hkeys⟩
  · exact JObj.exact_of_get? (by simpa only [Json.exact] using hexact) hw
  · cases heq
    exact hkeys k w hw hno

/-- The edits of the map are edits of the text when reading it keeps the other numbers. -/
lemma KeepsNumbers.changesOnly (h : KeepsNumbers base opt m)
    (hedit : ChangesOnly base opt m.unmarshalMap m') : ChangesOnly base opt m m' := by
  refine ⟨?_, fun hne => ?_, fun huses k hk => ?_⟩
  · exact h.frame.trans fun k hk => (hedit.keys k hk).of_unmarshalMap
  · by_cases hsame : m'.get? "tls" = m.unmarshalMap.get? "tls"
    · -- reading alone has changed it
      rw [hsame, ne_eq, JObj.get?_unmarshalMap_eq_self] at hne
      push Not at hne
      obtain ⟨v, hv, hexact⟩ := hne
      obtain ⟨tls, rfl, -⟩ := (h.tls hv).resolve_left hexact
      refine ⟨tls, tls.unmarshalMap, hv, ?_, h.frame_tls hv⟩
      exact hsame.trans (JObj.get?_unmarshalMap_eq_obj.mpr ⟨tls, hv, rfl⟩)
    · obtain ⟨read, tls', hread, htls', hframe⟩ := hedit.tls hsame
      obtain ⟨tls, htls, rfl⟩ := JObj.get?_unmarshalMap_eq_obj.mp hread
      exact ⟨tls, tls', htls, htls', (h.frame_tls htls).trans hframe⟩
  · by_contra hne
    refine hk (Eq.trans ?_ (JObj.get?_unmarshalMap_eq_self.mpr fun v hv =>
      h.reality huses k v hv hne))
    by_contra hk'
    exact hne (hedit.reality huses k hk')

lemma ChangesOnly.frame_tls {tls tls' : JObj} (h : ChangesOnly base opt m m')
    (htls : m.get? "tls" = some (.obj tls)) (htls' : m'.get? "tls" = some (.obj tls')) :
    Frame (MayChangeTLS opt) tls tls' := by
  by_cases hsame : m'.get? "tls" = m.get? "tls"
  · rw [htls, htls'] at hsame
    cases hsame
    exact .refl _ _
  · obtain ⟨_, _, h₁, h₂, hframe⟩ := h.tls hsame
    rw [htls] at h₁
    rw [htls'] at h₂
    cases h₁
    cases h₂
    exact hframe

/-- A number that reading changes and no edit may change is not in the text. -/
lemma ChangesOnly.keepsNumbers (h : ChangesOnly base opt m m')
    (hedit : ChangesOnly base opt m.unmarshalMap m') : KeepsNumbers base opt m := by
  have hkeys : Frame (MayChange base opt m) m.unmarshalMap m' :=
    fun k hk => (hedit.keys k hk).of_unmarshalMap
  refine ⟨fun {k v} hv hno => ?_, fun {v} hv => ?_, fun huses k v hv hne => ?_⟩
  · refine JObj.get?_unmarshalMap_eq_self.mp ?_ v hv
    exact (hkeys.eq_of_not hno).symm.trans (Frame.eq_of_not h.keys hno)
  · by_cases hexact : v.exact = true
    · exact .inl hexact
    -- reading has changed the value, so it is an object on both ways
    have hread : m.unmarshalMap.get? "tls" ≠ m.get? "tls" := fun heq =>
      hexact (JObj.get?_unmarshalMap_eq_self.mp heq v hv)
    obtain ⟨tls, tls', htls, htls'⟩ : ∃ tls tls' : JObj,
        m.get? "tls" = some (.obj tls) ∧ m'.get? "tls" = some (.obj tls') := by
      by_cases hsame : m'.get? "tls" = m.get? "tls"
      · obtain ⟨_, _, h₁, -⟩ := hedit.tls (hsame ▸ hread.symm)
        obtain ⟨tls, htls, -⟩ := JObj.get?_unmarshalMap_eq_obj.mp h₁
        exact ⟨tls, tls, htls, hsame.trans htls⟩
      · obtain ⟨tls, tls', htls, htls', -⟩ := h.tls hsame
        exact ⟨tls, tls', htls, htls'⟩
    obtain rfl : v = .obj tls := Option.some.inj (hv.symm.trans htls)
    refine .inr ⟨tls, rfl, fun k w hw hno => JObj.get?_unmarshalMap_eq_self.mp ?_ w hw⟩
    have hobj := JObj.get?_unmarshalMap_eq_obj.mpr ⟨tls, htls, rfl⟩
    exact ((hedit.frame_tls hobj htls').eq_of_not hno).symm.trans
      ((h.frame_tls htls htls').eq_of_not hno)
  · refine JObj.get?_unmarshalMap_eq_self.mp ?_ v hv
    by_contra hk
    by_cases hsame : m'.get? k = m.get? k
    · exact hne (hedit.reality huses k (hsame ▸ Ne.symm hk))
    · exact hne (h.reality huses k hsame)

/-! ### The object that is given to UnmarshalJSON -/

/-- `patchOutbound` gives `m'` to `UnmarshalJSON`: whatever that returns, `patchOutbound` makes its
result of what it returns for `m'`. -/
def GivesObject (D : Deps) (draws : Draws) (base : Outbound) (opt : ConfigOptions) (m' : JObj) :
    Prop :=
  ∃ domain writes, ∀ unmarshal : JObj → Outcome Outbound,
    patchOutbound { D with unmarshalOutbound := unmarshal } draws base opt =
      ((unmarshal m').mapErr (formatErr base)).bind fun out => .ok ⟨out, domain, writes⟩

variable {draws : Draws}

/-- Of two objects that are given, `UnmarshalJSON` would tell the difference. -/
lemma GivesObject.unique {m'' : JObj} (h : GivesObject D draws base opt m')
    (h' : GivesObject D draws base opt m'') : m' = m'' := by
  classical
  obtain ⟨domain, writes, hout⟩ := h
  obtain ⟨domain', writes', hout'⟩ := h'
  let unmarshal : JObj → Outcome Outbound := fun obj => .panic (if obj = m' then "" else "other")
  have heq := (hout unmarshal).symm.trans (hout' unmarshal)
  by_contra hne
  simp [unmarshal, Outcome.mapErr, Outcome.bind, Ne.symm hne] at heq

/-- Without custom or WireGuard options to resolve, the marshalled outbound is edited. -/
lemma patchOutbound_eq (hcustom : base.type ≠ .custom) (hwg : base.type ≠ .wireguard)
    (hm : D.marshalOutbound base = .ok m) (unmarshal : JObj → Outcome Outbound) :
    patchOutbound { D with unmarshalOutbound := unmarshal } draws base opt =
      (editedObject D base opt m).bind fun obj =>
        ((unmarshal obj).mapErr (formatErr base)).bind fun out =>
          .ok ⟨out, serverDomain D m, []⟩ := by
  have hwarp : patchWarp { D with unmarshalOutbound := unmarshal } draws base (some opt) true =
      .ok (base, []) := by
    simp [patchWarp, warpObject, hcustom, finishWarp, hwg]
  have hmarshal : Deps.marshalOutbound { D with unmarshalOutbound := unmarshal } base = .ok m := hm
  have hedit : patchOutboundTLSTricks { D with unmarshalOutbound := unmarshal } base opt m =
      patchOutboundTLSTricks D base opt m := rfl
  rw [patchOutbound, hwarp]
  simp only [Outcome.mapErr, Outcome.bind_ok, hmarshal, hedit, editedObject]
  cases patchOutboundTLSTricks D base opt m with
  | ok obj => rfl
  | fail e => rfl
  | panic e => rfl

/-- The object is given unless an edit panics: none of them returns an error. -/
lemma givesObject_of_edited (hcustom : base.type ≠ .custom) (hwg : base.type ≠ .wireguard)
    (hm : D.marshalOutbound base = .ok m) (hedited : editedObject D base opt m = .ok m') :
    GivesObject D draws base opt m' := by
  refine ⟨serverDomain D m, [], fun unmarshal => ?_⟩
  rw [patchOutbound_eq hcustom hwg hm, hedited]
  rfl

/-- An object that is given was edited. -/
lemma edited_of_givesObject (hcustom : base.type ≠ .custom) (hwg : base.type ≠ .wireguard)
    (hm : D.marshalOutbound base = .ok m) (hgiven : GivesObject D draws base opt m') :
    editedObject D base opt m = .ok m' := by
  cases hedited : editedObject D base opt m with
  | ok obj => rw [hgiven.unique (givesObject_of_edited hcustom hwg hm hedited)]
  | fail e =>
    -- then no object is given: the result would not depend on what `UnmarshalJSON` does
    obtain ⟨domain, writes, hout⟩ := hgiven
    have hfail := (hout fun _ => .panic "").symm.trans (patchOutbound_eq hcustom hwg hm _)
    rw [hedited] at hfail
    cases hfail
  | panic e =>
    obtain ⟨domain, writes, hout⟩ := hgiven
    have hpanic := (hout fun _ => .fail "").symm.trans (patchOutbound_eq hcustom hwg hm _)
    rw [hedited] at hpanic
    cases hpanic

/-- The object that `patchOutbound` gives to `UnmarshalJSON` differs from the text of `MarshalJSON`
only where the options ask for it, exactly when a `float64` keeps the numbers elsewhere. -/
theorem patchOutbound_changesOnly_iff (hcustom : base.type ≠ .custom)
    (hwg : base.type ≠ .wireguard) (hm : D.marshalJSON base = .ok m)
    (hgiven : GivesObject D draws base opt m') :
    ChangesOnly base opt m m' ↔ KeepsNumbers base opt m := by
  have hread : D.marshalOutbound base = .ok m.unmarshalMap := by
    rw [Deps.marshalOutbound, hm]
    rfl
  have hedit := editedObject_changesOnly (edited_of_givesObject hcustom hwg hread hgiven)
  exact ⟨fun h => h.keepsNumbers hedit, fun h => h.changesOnly hedit⟩

end Frame

/-! ### A VLESS outbound with every trick -/

namespace VlessReference

/-- A VLESS outbound over a WebSocket with TLS. -/
def base : Outbound where
  type := .vless
  tag := "vless"
  vlessOptions := { tls := some { enabled := true }, transport := some .websocket }

def object : JObj := [("type", .str "vless"), ("tag", .str "vless"), ("server_port", .num 443 0),
  ("tls", .obj [("enabled", .bool true)]), ("transport", .obj [("type", .str "ws")])]

def deps : Deps := { Reference.deps with marshalJSON := fun _ => .ok object }

/-- Every option that changes an outbound. -/
def opt : ConfigOptions where
  mux := { enable := true }
  tlsTricks := { enableFragment := true, enablePadding := true }

def edited : JObj :=
  match editedObject deps base opt object with
  | .ok obj => obj
  | _ => []

end VlessReference

open VlessReference in
theorem patchOutbound_changesOnly_vless : ChangesOnly base opt object edited :=
  have hgiven : GivesObject deps {} base opt edited :=
    givesObject_of_edited (m := object) (by decide) (by decide) rfl rfl
  (patchOutbound_changesOnly_iff (by decide) (by decide) rfl hgiven).mpr
    (keepsNumbers_of_exact (by decide))

/-! ### A Hysteria outbound with a large window -/

namespace HysteriaReference

/-- A Hysteria outbound with these members behind its type and tag. -/
def outbound (tag : String) (rest : JObj) : Outbound where
  type := .hysteria
  tag := tag
  rest := rest

/-- The outbound has no other options. -/
def IsPlain (o : Outbound) : Prop :=
  o.type = .hysteria ∧ o.directOptions = {} ∧ o.socksOptions = {} ∧ o.httpOptions = {} ∧
    o.shadowsocksOptions = {} ∧ o.vmessOptions = {} ∧ o.trojanOptions = {} ∧
    o.wireGuardOptions = {} ∧ o.hysteriaOptions = {} ∧ o.torOptions = {} ∧ o.sshOptions = {} ∧
    o.shadowTLSOptions = {} ∧ o.shadowsocksROptions = {} ∧ o.vlessOptions = {} ∧
    o.tuicOptions = {} ∧ o.hysteria2Options = {} ∧ o.selectorOptions = {} ∧
    o.urlTestOptions = {} ∧ o.customOptions.isEmpty = true ∧ o.xrayOptions = {}

instance (o : Outbound) : Decidable (IsPlain o) := inferInstanceAs (Decidable (_ ∧ _))

lemma eq_outbound {o : Outbound} (h : IsPlain o) : o = outbound o.tag o.rest := by
  obtain ⟨htype, hdirect, hsocks, hhttp, hss, hvmess, htrojan, hwg, hhysteria, htor, hssh, hstls,
    hssr, hvless, htuic, hhysteria2, hselector, hurltest, hcustom, hxray⟩ := h
  cases o
  rw [List.isEmpty_iff] at hcustom
  subst_vars
  rfl

def marshalJSON (o : Outbound) : Outcome JObj :=
  if IsPlain o then .ok (("type", .str "hysteria") :: ("tag", .str o.tag) :: o.rest)
  else .fail ("unknown outbound type: " ++ o.type.name)

def unmarshalOutbound : JObj → Outcome Outbound
  | ("type", .str "hysteria") :: ("tag", .str tag) :: rest => .ok (outbound tag rest)
  | _ => .fail "unknown outbound type"

def deps : Deps :=
  { Reference.deps with marshalJSON := marshalJSON, unmarshalOutbound := unmarshalOutbound }

/-- A window that no `float64` has. -/
def base : Outbound :=
  outbound "hysteria" [("recv_window_conn", .num 9007199254740993 0)]

/-- What the outbound is read as. -/
def rounded : JObj :=
  [("type", .str "hysteria"), ("tag", .str "hysteria"),
    ("recv_window_conn", .num 9007199254740992 0)]

end HysteriaReference

/-- Reading and writing an outbound are inverse. -/
def IsInverse (D : Deps) : Prop :=
  ∀ o m, D.marshalJSON o = .ok m → D.unmarshalOutbound m = .ok o

open HysteriaReference in
lemma HysteriaReference.isInverse : IsInverse deps := by
  intro o m h
  simp only [deps, HysteriaReference.marshalJSON] at h
  split_ifs at h with hplain
  cases h
  rw [eq_outbound hplain]
  rfl

open HysteriaReference in
/-- A window of 2^53 + 1 bytes loses a byte though no option is set. -/
theorem not_patchOutbound_changesOnly :
    ¬ ∀ D : Deps, IsInverse D → ∀ (draws : Draws) (base : Outbound) (opt : ConfigOptions)
      (m m' : JObj), base.type ≠ .custom → base.type ≠ .wireguard →
        D.marshalJSON base = .ok m → GivesObject D draws base opt m' →
          ChangesOnly base opt m m' := by
  intro h
  have hgiven : GivesObject deps {} base {} rounded :=
    givesObject_of_edited (m := rounded) (by decide) (by decide) rfl rfl
  have hchanges := h deps isInverse {} base {} _ rounded (by decide) (by decide) rfl hgiven
  have hne : rounded.get? "recv_window_conn" ≠
      JObj.get? (("type", .str "hysteria") :: ("tag", .str base.tag) :: base.rest)
        "recv_window_conn" :=
    fun heq => absurd (Json.num.inj (Option.some.inj heq)).1 (by decide)
  have hmay := hchanges.keys "recv_window_conn" hne
  generalize hk : "recv_window_conn" = k at hmay
  cases hmay <;> exact absurd hk (by decide)

end HiddifyCore.Config
