import HiddifyCore.Config.BuildSpec
import HiddifyCore.Config.PatchFrame

/-!
# The TLS tricks in a patch

An outbound has up to three records of TLS tricks, each behind a pointer. What `patchOutbound` makes
of the outbound depends on what these hold through one value: the tricks that the object given to
`UnmarshalJSON` shows under `tls_tricks`, which are those of the edited record, or of the record
that the outbound's type selects.
-/

namespace HiddifyCore.Singbox

/-- The option records with TLS options that the builder looks at. -/
inductive TLSRecord where
  | vless | trojan | vmess
  deriving DecidableEq, Repr

/-- The record that the outbound's type selects. -/
def OutboundType.tlsRecord : OutboundType → Option TLSRecord
  | .vless => some .vless
  | .trojan => some .trojan
  | .vmess => some .vmess
  | _ => none

/-- What `TLSTricks` points to, unless it is nil. -/
def V2RayOutboundOptions.tricks (v : V2RayOutboundOptions) : Option TLSTricksOptions :=
  v.tls.bind (·.tlsTricks)

/-- The record with `t` behind `TLSTricks`, unless that is nil. -/
def V2RayOutboundOptions.withTricks (t : TLSTricksOptions) (v : V2RayOutboundOptions) :
    V2RayOutboundOptions :=
  { v with tls := v.tls.map fun tls => { tls with tlsTricks := tls.tlsTricks.map fun _ => t } }

lemma V2RayOutboundOptions.withTricks_eq_self {v : V2RayOutboundOptions} {t : TLSTricksOptions}
    (h : ∀ u ∈ v.tricks, u = t) : v.withTricks t = v := by
  obtain ⟨p, tls, transport⟩ := v
  rcases tls with _ | ⟨enabled, reality, _ | u⟩
  · rfl
  · rfl
  · obtain rfl : u = t := h u rfl
    rfl

namespace Outbound

def v2rayOptions (o : Outbound) : TLSRecord → V2RayOutboundOptions
  | .vless => o.vlessOptions
  | .trojan => o.trojanOptions
  | .vmess => o.vmessOptions

def tricks (o : Outbound) (r : TLSRecord) : Option TLSTricksOptions := (o.v2rayOptions r).tricks

/-- The tricks of the record that the type selects. -/
def typeTricks (o : Outbound) : Option TLSTricksOptions := o.type.tlsRecord.bind o.tricks

/-- The outbound with other contents behind its pointers. -/
def withTricks (f : TLSRecord → TLSTricksOptions) (o : Outbound) : Outbound :=
  { o with
    vlessOptions := o.vlessOptions.withTricks (f .vless)
    trojanOptions := o.trojanOptions.withTricks (f .trojan)
    vmessOptions := o.vmessOptions.withTricks (f .vmess) }

@[simp]
lemma withTricks_type (o : Outbound) (f : TLSRecord → TLSTricksOptions) :
    (o.withTricks f).type = o.type := rfl

@[simp]
lemma withTricks_tag (o : Outbound) (f : TLSRecord → TLSTricksOptions) :
    (o.withTricks f).tag = o.tag := rfl

lemma withTricks_eq_self {o : Outbound} {f : TLSRecord → TLSTricksOptions}
    (h : ∀ r, ∀ u ∈ o.tricks r, u = f r) : o.withTricks f = o := by
  rw [withTricks, V2RayOutboundOptions.withTricks_eq_self (v := o.vlessOptions) (h .vless),
    V2RayOutboundOptions.withTricks_eq_self (v := o.trojanOptions) (h .trojan),
    V2RayOutboundOptions.withTricks_eq_self (v := o.vmessOptions) (h .vmess)]

/-- An outbound holds what it holds. -/
lemma exists_withTricks (o : Outbound) : ∃ f, o.withTricks f = o := by
  refine ⟨fun r => (o.tricks r).getD {}, withTricks_eq_self fun r u hu => ?_⟩
  rw [Option.mem_def.mp hu, Option.getD_some]

@[simp]
lemma v2rayOptions_withTricks (o : Outbound) (f : TLSRecord → TLSTricksOptions) (r : TLSRecord) :
    (o.withTricks f).v2rayOptions r = (o.v2rayOptions r).withTricks (f r) := by
  cases r <;> rfl

lemma tricks_withTricks (o : Outbound) (f : TLSRecord → TLSTricksOptions) (r : TLSRecord) :
    (o.withTricks f).tricks r = (o.tricks r).map fun _ => f r := by
  simp only [tricks, v2rayOptions_withTricks]
  rcases o.v2rayOptions r with ⟨p, _ | ⟨enabled, reality, _ | u⟩, transport⟩ <;> rfl

lemma withTricks_withTricks (o : Outbound) (f g : TLSRecord → TLSTricksOptions) :
    (o.withTricks f).withTricks g = o.withTricks g := by
  have hrecord (v : V2RayOutboundOptions) (t u : TLSTricksOptions) :
      (v.withTricks t).withTricks u = v.withTricks u := by
    obtain ⟨p, tls, transport⟩ := v
    rcases tls with _ | ⟨enabled, reality, _ | w⟩ <;> rfl
  simp only [withTricks, hrecord]

end Outbound

end HiddifyCore.Singbox

namespace HiddifyCore.Config

open GoLib Singbox

/-! ### The edited record -/

/-- The record of `trickedTLS`. -/
def trickedRecord (base : Outbound) : Option TLSRecord :=
  match base.vlessOptions.tls, base.trojanOptions.tls, base.vmessOptions.tls with
  | some _, _, _ => some .vless
  | none, some _, _ => some .trojan
  | none, none, some _ => some .vmess
  | none, none, none => none

/-- The record whose tricks `patchTransport` edits. -/
def transportRecord (base : Outbound) (obj : JObj) : Option TLSRecord :=
  if base.type = .direct then
    none
  else
    match trickedTLS base with
    | some (tls, some transport) =>
      if !tls.enabled then
        none
      else if transport ≠ .websocket ∧ transport ≠ .grpc ∧ transport ≠ .httpUpgrade then
        none
      else
        match (obj.get? "tls").bind Json.asObject? with
        | some _ => trickedRecord base
        | none => none
    | _ => none

/-- The record whose tricks `patchOutboundTLSTricks` edits. -/
def editedRecord (base : Outbound) (opt : ConfigOptions) (obj : JObj) : Option TLSRecord :=
  if base.type = .selector ∨ base.type = .urltest ∨ base.type = .block ∨ base.type = .dns then
    none
  else if isOutboundReality base then
    none
  else
    match patchXrayFragment base opt obj with
    | .ok obj => transportRecord base obj
    | .fail _ | .panic _ => none

/-- The record whose tricks are under `tls_tricks` in the end, and whether it is an edited one. -/
def shownRecord (base : Outbound) (opt : ConfigOptions) (obj : JObj) : Option (TLSRecord × Bool) :=
  match editedRecord base opt obj with
  | some r => some (r, true)
  | none => if base.typeTricks.isSome then base.type.tlsRecord.map (·, false) else none

/-! ### Objects with other tricks -/

/-- The value with `v` under its key `tls_tricks`, if it is an object that has the key. -/
def Json.putTricks (v : Json) : Json → Json
  | .obj tls => .obj (JObj.modify tls "tls_tricks" fun _ => v)
  | w => w

/-- The object with `v` under `tls_tricks` of its key `tls`. -/
def JObj.putTricks (m : JObj) : Option Json → JObj
  | some v => m.modify "tls" (Json.putTricks v)
  | none => m

/-- The object has TLS options with tricks. -/
def JObj.HasTricks (m : JObj) : Prop :=
  ∃ tls : JObj, m.get? "tls" = some (.obj tls) ∧ (tls.get? "tls_tricks").isSome = true

section Put

variable {m : JObj} {v : Option Json}

lemma get?_putTricks_of_ne {k : String} (h : k ≠ "tls") : (m.putTricks v).get? k = m.get? k := by
  cases v with
  | none => rfl
  | some v => exact JObj.get?_modify_of_ne m _ h

lemma putTricks_set_of_ne {k : String} (w : Json) (h : k ≠ "tls") :
    (m.set k w).putTricks v = (m.putTricks v).set k w := by
  cases v with
  | none => rfl
  | some v => exact JObj.modify_set_of_ne m _ w h

lemma set_putTricks (w : Json) : (m.putTricks v).set "tls" w = m.set "tls" w := by
  cases v with
  | none => rfl
  | some v => exact JObj.set_modify_self m _ _ w

/-- The TLS options, with their tricks replaced. -/
lemma asObject_putTricks : ((m.putTricks v).get? "tls").bind Json.asObject? =
    ((m.get? "tls").bind Json.asObject?).map fun tls =>
      v.elim tls fun v => JObj.modify tls "tls_tricks" fun _ => v := by
  cases v with
  | none => simp [JObj.putTricks]
  | some v =>
    rw [JObj.putTricks, JObj.get?_modify_self]
    cases m.get? "tls" with
    | none => rfl
    | some w => cases w <;> rfl

end Put

section Edits

variable {D : Deps} {base : Outbound} {opt : ConfigOptions} {m : JObj} {v : Option Json}
  {f : TLSRecord → TLSTricksOptions}

lemma trickedTLS_eq (base : Outbound) : trickedTLS base = (trickedRecord base).bind fun r =>
    (base.v2rayOptions r).tls.map (·, (base.v2rayOptions r).transport) := by
  simp only [trickedTLS, trickedRecord]
  split <;> simp_all [Outbound.v2rayOptions]

lemma trickedRecord_withTricks (base : Outbound) :
    trickedRecord (base.withTricks f) = trickedRecord base := by
  simp only [trickedRecord, Outbound.withTricks, V2RayOutboundOptions.withTricks]
  cases base.vlessOptions.tls <;> cases base.trojanOptions.tls <;> cases base.vmessOptions.tls <;>
    rfl

lemma isOutboundReality_withTricks (base : Outbound) :
    isOutboundReality (base.withTricks f) = isOutboundReality base := by
  simp only [isOutboundReality, Outbound.withTricks, V2RayOutboundOptions.withTricks]
  cases base.vlessOptions.tls <;> rfl

lemma lacksXrayFragment_putTricks : lacksXrayFragment (m.putTricks v) = lacksXrayFragment m := by
  simp only [lacksXrayFragment, get?_putTricks_of_ne (show "xray_fragment" ≠ "tls" by decide)]

lemma patchXrayFragment_withTricks :
    patchXrayFragment (base.withTricks f) opt (m.putTricks v) =
      (patchXrayFragment base opt m).bind fun obj => .ok (obj.putTricks v) := by
  have htype : (base.withTricks f).type = base.type := rfl
  simp only [patchXrayFragment, lacksXrayFragment_putTricks, htype]
  split_ifs
  · cases lacksXrayFragment m with
    | ok lacks =>
      cases lacks with
      | true => exact congrArg Outcome.ok (putTricks_set_of_ne _ (by decide)).symm
      | false => rfl
    | fail e => rfl
    | panic e => rfl
  · rfl

lemma patchOutboundFragment_putTricks :
    patchOutboundFragment D opt (m.putTricks v) = (patchOutboundFragment D opt m).putTricks v := by
  simp only [patchOutboundFragment]
  split_ifs
  · rw [putTricks_set_of_ne _ (by decide), putTricks_set_of_ne _ (by decide)]
  · rfl

lemma patchOutboundMux_putTricks :
    patchOutboundMux D opt (m.putTricks v) = (patchOutboundMux D opt m).putTricks v := by
  simp only [patchOutboundMux]
  split_ifs
  · rw [putTricks_set_of_ne _ (by decide)]
  · rfl

/-- The tricks that an edit puts into the object: those of the edited record. -/
def editedTricks (D : Deps) (opt : ConfigOptions) (base : Outbound) : Option TLSRecord →
    Option Json → Option Json
  | some r, _ => some (D.encodeTLSTricks (patchTLSTricks opt ((base.tricks r).getD {})))
  | none, v => v

/-- The edited tricks replace those that were there. -/
lemma patchTLSObject_modify (tls tls' : OutboundTLSOptions) (outtls : JObj) :
    patchTLSObject D tls' opt
        (v.elim outtls fun v => JObj.modify outtls "tls_tricks" fun _ => v) =
      JObj.modify (patchTLSObject D tls opt outtls) "tls_tricks"
        fun _ => D.encodeTLSTricks (patchTLSTricks opt (tls'.tlsTricks.getD {})) := by
  simp only [patchTLSObject]
  rw [JObj.modify_set_self]
  cases v with
  | none => rfl
  | some v =>
    simp only [Option.elim_some]
    split_ifs
    · rw [← JObj.modify_set_of_ne _ _ _ (by decide), JObj.set_modify_self]
    · rw [JObj.set_modify_self]

lemma patchTransport_withTricks :
    patchTransport D (base.withTricks f) opt (m.putTricks v) =
      (patchTransport D base opt m).putTricks
        (editedTricks D opt (base.withTricks f) (transportRecord base m) v) := by
  have htype : (base.withTricks f).type = base.type := rfl
  simp only [patchTransport, transportRecord, htype]
  split_ifs with hdirect
  · exact patchOutboundFragment_putTricks
  rw [trickedTLS_eq base, trickedTLS_eq (base.withTricks f), trickedRecord_withTricks]
  cases hr : trickedRecord base with
  | none => rfl
  | some r =>
    simp only [Option.bind_some, Outbound.v2rayOptions_withTricks]
    rcases hopt : base.v2rayOptions r with ⟨p, _ | ⟨enabled, reality, tricks⟩, _ | transport⟩
    · rfl
    · rfl
    · rfl
    simp only [V2RayOutboundOptions.withTricks, Option.map_some]
    split_ifs
    · rfl
    · rfl
    rw [asObject_putTricks]
    cases hobj : (m.get? "tls").bind Json.asObject? with
    | none => rfl
    | some outtls =>
      simp only [Option.map_some]
      rw [patchOutboundFragment_putTricks, set_putTricks,
        patchTLSObject_modify ⟨enabled, reality, tricks⟩]
      simp only [editedTricks, JObj.putTricks]
      rw [JObj.modify_set_self]
      simp only [Json.putTricks, Outbound.tricks, Outbound.v2rayOptions_withTricks, hopt]
      rfl

lemma patchOutboundTLSTricks_withTricks :
    patchOutboundTLSTricks D (base.withTricks f) opt (m.putTricks v) =
      (patchOutboundTLSTricks D base opt m).bind fun obj =>
        .ok (obj.putTricks
          (editedTricks D opt (base.withTricks f) (editedRecord base opt m) v)) := by
  have htype : (base.withTricks f).type = base.type := rfl
  simp only [patchOutboundTLSTricks, editedRecord, htype, isOutboundReality_withTricks]
  split_ifs
  · rfl
  · rfl
  · rw [patchXrayFragment_withTricks]
    cases patchXrayFragment base opt m with
    | ok obj => exact congrArg Outcome.ok patchTransport_withTricks
    | fail e => rfl
    | panic e => rfl

/-- The edits of an outbound with other tricks, on its object with other tricks. -/
lemma editedObject_withTricks :
    editedObject D (base.withTricks f) opt (m.putTricks v) =
      (editedObject D base opt m).bind fun obj =>
        .ok (obj.putTricks
          (editedTricks D opt (base.withTricks f) (editedRecord base opt m) v)) := by
  have htype : (base.withTricks f).type = base.type := rfl
  simp only [editedObject, patchOutboundTLSTricks_withTricks, htype]
  cases patchOutboundTLSTricks D base opt m with
  | ok obj =>
    refine congrArg Outcome.ok ?_
    split_ifs
    · exact patchOutboundMux_putTricks
    · rfl
  | fail e => rfl
  | panic e => rfl

lemma HasTricks.set_of_ne {k : String} (h : m.HasTricks) (w : Json) (hk : k ≠ "tls") :
    (m.set k w).HasTricks := by
  obtain ⟨tls, htls, htricks⟩ := h
  exact ⟨tls, by rw [JObj.get?_set_of_ne _ _ hk.symm, htls], htricks⟩

lemma HasTricks.patchOutboundFragment (h : m.HasTricks) :
    (patchOutboundFragment D opt m).HasTricks := by
  simp only [Config.patchOutboundFragment]
  split_ifs
  · exact HasTricks.set_of_ne (HasTricks.set_of_ne h _ (by decide)) _ (by decide)
  · exact h

lemma patchTransport_hasTricks (h : m.HasTricks ∨ (transportRecord base m).isSome = true) :
    (patchTransport D base opt m).HasTricks := by
  simp only [transportRecord] at h
  simp only [patchTransport]
  split_ifs at h ⊢ with hdirect
  · exact HasTricks.patchOutboundFragment (h.resolve_right Bool.false_ne_true)
  cases htls : trickedTLS base with
  | none =>
    simp only [htls] at h
    exact h.resolve_right Bool.false_ne_true
  | some pair =>
    obtain ⟨tls, _ | transport⟩ := pair
    · simp only [htls] at h
      exact h.resolve_right Bool.false_ne_true
    simp only [htls] at h ⊢
    split_ifs at h ⊢
    · exact h.resolve_right Bool.false_ne_true
    · exact h.resolve_right Bool.false_ne_true
    cases hobj : (m.get? "tls").bind Json.asObject? with
    | none =>
      rw [hobj] at h
      exact h.resolve_right Bool.false_ne_true
    | some outtls =>
      -- the tricks are set
      exact ⟨_, JObj.get?_set_self _ _ _, by simp [patchTLSObject]⟩

/-- What the edits leave has tricks when it had them, or when they edit some. -/
lemma hasTricks_of_edited {m' : JObj} (h : editedObject D base opt m = .ok m')
    (hm : m.HasTricks ∨ (editedRecord base opt m).isSome = true) : m'.HasTricks := by
  obtain ⟨obj, hobj, h⟩ := Outcome.bind_eq_ok.mp h
  have htricks : obj.HasTricks := by
    simp only [patchOutboundTLSTricks] at hobj
    simp only [editedRecord] at hm
    split_ifs at hobj hm with htype hreality
    · cases hobj
      exact hm.resolve_right Bool.false_ne_true
    · cases hobj
      exact hm.resolve_right Bool.false_ne_true
    · obtain ⟨obj₁, hobj₁, hobj⟩ := Outcome.bind_eq_ok.mp hobj
      cases hobj
      rw [hobj₁] at hm
      refine patchTransport_hasTricks (hm.imp_left fun hm => ?_)
      have htls : obj₁.get? "tls" = m.get? "tls" :=
        (patchXrayFragment_frame hobj₁).eq_of_not fun h => absurd h.1 (by decide)
      simpa only [JObj.HasTricks, htls] using hm
  cases h
  split_ifs
  · simp only [patchOutboundMux]
    split_ifs
    · exact HasTricks.set_of_ne htricks _ (by decide)
    · exact htricks
  · exact htricks

end Edits

/-! ### The codec and the tricks -/

/-- Two calls that both return a result, or fail alike. -/
def FailAlike {α : Type*} (x y : Outcome α) : Prop := x.IsOk ∧ y.IsOk ∨ x = y

/-- What sing-box documents about TLS tricks: the record that the outbound's type selects is under
`tls_tricks`, and the others are not written; tricks are texts and a flag, which are read without
an error, and what is read shows them. -/
structure TricksKeyed (D : Deps) : Prop where
  marshal (o : Outbound) (f : TLSRecord → TLSTricksOptions) :
    D.marshalOutbound (o.withTricks f) = (D.marshalOutbound o).bind fun m =>
      .ok (m.putTricks ((o.withTricks f).typeTricks.map D.encodeTLSTricks))
  hasTricks {o : Outbound} {m : JObj} (h : D.marshalOutbound o = .ok m)
    (ho : o.typeTricks.isSome = true) : m.HasTricks
  unmarshal (m : JObj) (t t' : TLSTricksOptions) :
    FailAlike (D.unmarshalOutbound (m.putTricks (some (D.encodeTLSTricks t))))
      (D.unmarshalOutbound (m.putTricks (some (D.encodeTLSTricks t'))))
  tricks_of_key {m : JObj} {t t' : TLSTricksOptions} {o o' : Outbound} (hm : m.HasTricks)
    (h : D.unmarshalOutbound (m.putTricks (some (D.encodeTLSTricks t))) = .ok o)
    (h' : D.unmarshalOutbound (m.putTricks (some (D.encodeTLSTricks t'))) = .ok o')
    (hsame : detourThroughWarp o = detourThroughWarp o') : t = t'

/-- What `patchOutbound` has before it calls `UnmarshalJSON`. -/
structure Given where
  base : Outbound
  obj : JObj
  shown : Option (TLSRecord × Bool)
  serverDomain : String
  staticIPs : List StaticIP

/-- What is behind the pointer of a shown record, after its edits. -/
def recordTricks (opt : ConfigOptions) (base : Outbound) (s : TLSRecord × Bool) :
    TLSTricksOptions :=
  let t := (base.tricks s.1).getD {}
  if s.2 then patchTLSTricks opt t else t

/-- The tricks that the object shows. -/
def Given.tricks (opt : ConfigOptions) (g : Given) : Option TLSTricksOptions :=
  g.shown.map (recordTricks opt g.base)

/-- The same for an outbound with other tricks. -/
def Given.withTricks (D : Deps) (opt : ConfigOptions) (f : TLSRecord → TLSTricksOptions)
    (g : Given) : Given :=
  { g with
    base := g.base.withTricks f
    obj := g.obj.putTricks
      ((g.shown.map (recordTricks opt (g.base.withTricks f))).map D.encodeTLSTricks) }

section Given

variable (D : Deps) (draws : Draws) (opt : ConfigOptions)

def given (out : Outbound) : Outcome Given := do
  let (base, writes) ← (patchWarp D draws out (some opt) true).mapErr (formatErr out)
  let obj ← (D.marshalOutbound base).mapErr (formatErr base)
  let edited ← editedObject D base opt obj
  .ok {
    base := base
    obj := edited
    shown := shownRecord base opt obj
    serverDomain := serverDomain D obj
    staticIPs := writes }

/-- The call of `UnmarshalJSON`. -/
def finishGiven (g : Given) : Outcome Patched := do
  let outbound ← (D.unmarshalOutbound g.obj).mapErr (formatErr g.base)
  .ok { outbound := outbound, serverDomain := g.serverDomain, staticIPs := g.staticIPs }

lemma patchOutbound_eq_given (out : Outbound) :
    patchOutbound D draws out opt = (given D draws opt out).bind (finishGiven D) := by
  simp only [patchOutbound, given, editedObject]
  cases patchWarp D draws out (some opt) true with
  | fail e => rfl
  | panic e => rfl
  | ok bw =>
    obtain ⟨base, writes⟩ := bw
    simp only [Outcome.mapErr, Outcome.bind_ok]
    cases D.marshalOutbound base with
    | fail e => rfl
    | panic e => rfl
    | ok obj =>
      simp only [Outcome.bind_ok]
      cases patchOutboundTLSTricks D base opt obj <;> rfl

/-- The tricks that the patched outbound has. -/
def shownTricks (out : Outbound) : Option TLSTricksOptions :=
  match given D draws opt out with
  | .ok g => g.tricks opt
  | .fail _ | .panic _ => none

variable {D draws opt}

lemma patchWarp_withTricks (out : Outbound) (f : TLSRecord → TLSTricksOptions) :
    patchWarp D draws (out.withTricks f) (some opt) true =
      (patchWarp D draws out (some opt) true).bind fun bw => .ok (bw.1.withTricks f, bw.2) := by
  have hfinish (o : Outbound) : finishWarp D draws (o.withTricks f) true =
      ((finishWarp D draws o true).1.withTricks f, (finishWarp D draws o true).2) := by
    have htype : (o.withTricks f).type = o.type := rfl
    simp only [finishWarp, htype]
    split_ifs <;> rfl
  have hobject : warpObject (out.withTricks f) = warpObject out := rfl
  simp only [patchWarp, hobject]
  cases warpObject out with
  | none => exact congrArg Outcome.ok (hfinish out)
  | some warp =>
    dsimp only
    cases customWarpConfig D draws (some opt) warp with
    | fail e => rfl
    | panic e => rfl
    | ok config =>
      cases config with
      | none => rfl
      | some config =>
        exact congrArg Outcome.ok (hfinish (resolveWarp out config (warp.getString "detour")))

variable {base : Outbound} {obj : JObj} {v : Option Json} {f : TLSRecord → TLSTricksOptions}

lemma transportRecord_withTricks :
    transportRecord (base.withTricks f) (obj.putTricks v) = transportRecord base obj := by
  have htype : (base.withTricks f).type = base.type := rfl
  simp only [transportRecord, htype, trickedTLS_eq, trickedRecord_withTricks, asObject_putTricks]
  split_ifs
  · rfl
  cases trickedRecord base with
  | none => rfl
  | some r =>
    simp only [Option.bind_some, Outbound.v2rayOptions_withTricks]
    rcases base.v2rayOptions r with ⟨p, _ | ⟨enabled, reality, tricks⟩, _ | transport⟩
    · rfl
    · rfl
    · rfl
    simp only [V2RayOutboundOptions.withTricks, Option.map_some]
    cases (obj.get? "tls").bind Json.asObject? <;> rfl

lemma editedRecord_withTricks :
    editedRecord (base.withTricks f) opt (obj.putTricks v) = editedRecord base opt obj := by
  have htype : (base.withTricks f).type = base.type := rfl
  simp only [editedRecord, htype, isOutboundReality_withTricks, patchXrayFragment_withTricks]
  split_ifs
  · rfl
  · rfl
  · cases patchXrayFragment base opt obj with
    | ok obj => exact transportRecord_withTricks
    | fail e => rfl
    | panic e => rfl

lemma typeTricks_withTricks : (base.withTricks f).typeTricks.isSome = base.typeTricks.isSome := by
  simp only [Outbound.typeTricks, Outbound.tricks_withTricks, show (base.withTricks f).type =
    base.type from rfl]
  cases base.type.tlsRecord with
  | none => rfl
  | some r => simp

lemma shownRecord_withTricks :
    shownRecord (base.withTricks f) opt (obj.putTricks v) = shownRecord base opt obj := by
  simp only [shownRecord, editedRecord_withTricks, typeTricks_withTricks]
  rfl

/-- The edits show the tricks of the shown record. -/
lemma editedTricks_shown (D : Deps) (opt : ConfigOptions) (base : Outbound) (obj : JObj) :
    editedTricks D opt base (editedRecord base opt obj)
      (base.typeTricks.map D.encodeTLSTricks) =
    ((shownRecord base opt obj).map (recordTricks opt base)).map D.encodeTLSTricks := by
  simp only [shownRecord]
  cases editedRecord base opt obj with
  | some r => rfl
  | none =>
    simp only [editedTricks, Outbound.typeTricks]
    obtain h | ⟨r, h⟩ := Option.eq_none_or_eq_some base.type.tlsRecord
    · simp [h]
    · cases ht : base.tricks r <;> simp [h, ht, recordTricks]

/-- What is given depends on the contents behind the pointers through the shown tricks only. -/
lemma given_withTricks (hD : TricksKeyed D) (draws : Draws) (opt : ConfigOptions) (out : Outbound)
    (f : TLSRecord → TLSTricksOptions) :
    given D draws opt (out.withTricks f) =
      (given D draws opt out).bind fun g => .ok (g.withTricks D opt f) := by
  simp only [given, patchWarp_withTricks]
  cases patchWarp D draws out (some opt) true with
  | fail e => rfl
  | panic e => rfl
  | ok bw =>
    obtain ⟨base, writes⟩ := bw
    simp only [Outcome.mapErr, Outcome.bind_ok, Outcome.bind, hD.marshal base f]
    cases D.marshalOutbound base with
    | fail e => rfl
    | panic e => rfl
    | ok obj =>
      simp only [Outcome.bind_ok, Outcome.bind, editedObject_withTricks]
      cases editedObject D base opt obj with
      | fail e => rfl
      | panic e => rfl
      | ok edited =>
        refine congrArg Outcome.ok ?_
        have htricks := editedTricks_shown D opt (base.withTricks f)
          (obj.putTricks ((base.withTricks f).typeTricks.map D.encodeTLSTricks))
        rw [editedRecord_withTricks, shownRecord_withTricks] at htricks
        simp only [Given.withTricks, ← htricks, shownRecord_withTricks, serverDomain,
          get?_putTricks_of_ne (show "server" ≠ "tls" by decide)]

/-- An object that shows tricks has them. -/
lemma hasTricks_of_given (hD : TricksKeyed D) {out : Outbound} {g : Given}
    (h : given D draws opt out = .ok g) (hs : g.shown.isSome = true) : g.obj.HasTricks := by
  obtain ⟨⟨base, writes⟩, hwarp, h⟩ := Outcome.bind_eq_ok.mp h
  obtain ⟨obj, hobj, h⟩ := Outcome.bind_eq_ok.mp h
  obtain ⟨edited, hedited, h⟩ := Outcome.bind_eq_ok.mp h
  cases h
  rw [Outcome.mapErr_eq_ok] at hobj
  refine hasTricks_of_edited hedited ?_
  simp only [shownRecord] at hs
  cases hrec : editedRecord base opt obj with
  | some r => exact .inr rfl
  | none =>
    simp only [hrec] at hs
    split_ifs at hs with htype
    · exact .inl (hD.hasTricks hobj htype)
    · cases hs

end Given

/-! ### Outbounds that differ in their tricks -/

/-- One outbound with two contents behind its pointers. -/
def SameButTricks (o o' : Outbound) : Prop := ∃ f, o' = o.withTricks f

lemma SameButTricks.refl (o : Outbound) : SameButTricks o o := by
  obtain ⟨f, hf⟩ := o.exists_withTricks
  exact ⟨f, hf.symm⟩

lemma SameButTricks.symm {o o' : Outbound} (h : SameButTricks o o') : SameButTricks o' o := by
  obtain ⟨f, rfl⟩ := h
  obtain ⟨g, hg⟩ := o.exists_withTricks
  exact ⟨g, by rw [Outbound.withTricks_withTricks, hg]⟩

lemma SameButTricks.trans {o₁ o₂ o₃ : Outbound} (h : SameButTricks o₁ o₂)
    (h' : SameButTricks o₂ o₃) : SameButTricks o₁ o₃ := by
  obtain ⟨f, rfl⟩ := h
  obtain ⟨g, rfl⟩ := h'
  exact ⟨g, Outbound.withTricks_withTricks _ _ _⟩

section Same

variable {D : Deps} {draws : Draws} {opt : ConfigOptions} {o o' : Outbound}

/-- What is given for two such outbounds: the objects are equal, or they show the tricks. -/
structure Given.Alike (D : Deps) (opt : ConfigOptions) (g g' : Given) : Prop where
  base : formatErr g.base = formatErr g'.base
  serverDomain : g.serverDomain = g'.serverDomain
  staticIPs : g.staticIPs = g'.staticIPs
  obj : (g.tricks opt = none ∧ g'.tricks opt = none ∧ g.obj = g'.obj) ∨
    ∃ (m : JObj) (t t' : TLSTricksOptions), m.HasTricks ∧
      g.tricks opt = some t ∧ g.obj = m.putTricks (some (D.encodeTLSTricks t)) ∧
      g'.tricks opt = some t' ∧ g'.obj = m.putTricks (some (D.encodeTLSTricks t'))

lemma formatErr_withTricks (base : Outbound) (f : TLSRecord → TLSTricksOptions) :
    formatErr base = formatErr (base.withTricks f) := by
  funext err
  unfold formatErr
  rw [Outbound.withTricks_tag, Outbound.withTricks_type]

lemma Given.withTricks_base (g : Given) (f : TLSRecord → TLSTricksOptions) :
    (g.withTricks D opt f).base = g.base.withTricks f := rfl

lemma given_alike (hD : TricksKeyed D) (draws : Draws) (opt : ConfigOptions)
    (h : SameButTricks o o') :
    (∃ g g', given D draws opt o = .ok g ∧ given D draws opt o' = .ok g' ∧ g.Alike D opt g') ∨
      given D draws opt o = given D draws opt o' ∧ ∀ g, given D draws opt o ≠ .ok g := by
  obtain ⟨f, rfl⟩ := h
  rw [given_withTricks hD draws opt o f]
  cases hg : given D draws opt o with
  | fail e => exact .inr ⟨rfl, fun g hok => by cases hok⟩
  | panic e => exact .inr ⟨rfl, fun g hok => by cases hok⟩
  | ok g =>
    refine .inl ⟨g, g.withTricks D opt f, rfl, rfl, ?_, rfl, rfl, ?_⟩
    · rw [Given.withTricks_base]
      exact formatErr_withTricks g.base f
    cases hs : g.shown with
    | none =>
      refine .inl ⟨?_, ?_, ?_⟩
      · rw [Given.tricks, hs, Option.map_none]
      · simp [Given.tricks, Given.withTricks, hs]
      · simp [Given.withTricks, hs, JObj.putTricks]
    | some s =>
      -- the outbound holds what it holds, so its object shows that
      obtain ⟨f₀, hf₀⟩ := o.exists_withTricks
      have hself := given_withTricks hD draws opt o f₀
      rw [hf₀, hg] at hself
      have hg₀ : g = g.withTricks D opt f₀ := Outcome.ok.inj hself
      refine .inr ⟨g.obj, recordTricks opt g.base s,
        recordTricks opt (g.base.withTricks f) s,
        hasTricks_of_given hD hg (by rw [hs]; rfl), ?_, ?_, ?_, ?_⟩
      · rw [Given.tricks, hs, Option.map_some]
      · have hbase : g.base = g.base.withTricks f₀ := congrArg Given.base hg₀
        have hobj := congrArg Given.obj hg₀
        simp only [Given.withTricks, hs, Option.map_some, ← hbase] at hobj
        exact hobj
      · simp [Given.tricks, Given.withTricks, hs]
      · simp [Given.withTricks, hs]

/-- Outbounds that show the same tricks are patched alike. -/
lemma patchOutbound_congr (hD : TricksKeyed D) (draws : Draws) (opt : ConfigOptions)
    (h : SameButTricks o o')
    (hs : shownTricks D draws opt o = shownTricks D draws opt o') :
    patchOutbound D draws o opt = patchOutbound D draws o' opt := by
  rw [patchOutbound_eq_given, patchOutbound_eq_given]
  rcases given_alike hD draws opt h with ⟨g, g', hg, hg', ha⟩ | ⟨heq, -⟩
  · simp only [shownTricks, hg, hg'] at hs
    have hobj : g.obj = g'.obj := by
      rcases ha.obj with ⟨-, -, hobj⟩ | ⟨m, t, t', -, ht, hobj, ht', hobj'⟩
      · exact hobj
      · rw [ht, ht', Option.some.injEq] at hs
        rw [hobj, hobj', hs]
    simp only [hg, hg', Outcome.bind, finishGiven, hobj, ha.base, ha.serverDomain, ha.staticIPs]
  · rw [heq]

/-- Two such patches return a result alike, and the domain and the addresses do not differ. -/
lemma patchOutbound_alike (hD : TricksKeyed D) (draws : Draws) (opt : ConfigOptions)
    (h : SameButTricks o o') :
    (∃ p p', patchOutbound D draws o opt = .ok p ∧ patchOutbound D draws o' opt = .ok p' ∧
        p.serverDomain = p'.serverDomain ∧ p.staticIPs = p'.staticIPs) ∨
      patchOutbound D draws o opt = patchOutbound D draws o' opt ∧
        ¬ (patchOutbound D draws o opt).IsOk := by
  rw [patchOutbound_eq_given, patchOutbound_eq_given]
  rcases given_alike hD draws opt h with ⟨g, g', hg, hg', ha⟩ | ⟨heq, hno⟩
  · have hread : FailAlike (D.unmarshalOutbound g.obj) (D.unmarshalOutbound g'.obj) := by
      rcases ha.obj with ⟨-, -, hobj⟩ | ⟨m, t, t', -, -, hobj, -, hobj'⟩
      · exact .inr (by rw [hobj])
      · rw [hobj, hobj']
        exact hD.unmarshal m t t'
    simp only [hg, hg', Outcome.bind, finishGiven, ← ha.base, ← ha.serverDomain, ← ha.staticIPs]
    rcases hread with ⟨hok, hok'⟩ | heq
    · obtain ⟨out, hout⟩ := hok.exists_eq
      obtain ⟨out', hout'⟩ := hok'.exists_eq
      rw [hout, hout']
      exact .inl ⟨_, _, rfl, rfl, rfl, rfl⟩
    · rw [← heq]
      cases D.unmarshalOutbound g.obj with
      | ok out => exact .inl ⟨_, _, rfl, rfl, rfl, rfl⟩
      | fail e => exact .inr ⟨rfl, id⟩
      | panic e => exact .inr ⟨rfl, id⟩
  · rw [← heq]
    cases hg : given D draws opt o with
    | ok g => exact absurd hg (hno g)
    | fail e => exact .inr ⟨rfl, id⟩
    | panic e => exact .inr ⟨rfl, id⟩

/-- Patched outbounds that are the same but for a detour show the same tricks. -/
lemma shownTricks_of_patched (hD : TricksKeyed D) (h : SameButTricks o o') {p p' : Patched}
    (hp : patchOutbound D draws o opt = .ok p) (hp' : patchOutbound D draws o' opt = .ok p')
    (hsame : detourThroughWarp p.outbound = detourThroughWarp p'.outbound) :
    shownTricks D draws opt o = shownTricks D draws opt o' := by
  rw [patchOutbound_eq_given] at hp hp'
  rcases given_alike hD draws opt h with ⟨g, g', hg, hg', ha⟩ | ⟨heq, -⟩
  · simp only [hg, hg', Outcome.bind, finishGiven] at hp hp'
    obtain ⟨out, hout, hp⟩ := Outcome.bind_eq_ok.mp hp
    obtain ⟨out', hout', hp'⟩ := Outcome.bind_eq_ok.mp hp'
    rw [Outcome.mapErr_eq_ok] at hout hout'
    cases hp
    cases hp'
    simp only [shownTricks, hg, hg']
    rcases ha.obj with ⟨hnone, hnone', -⟩ | ⟨m, t, t', hm, ht, hobj, ht', hobj'⟩
    · rw [hnone, hnone']
    · rw [hobj] at hout
      rw [hobj'] at hout'
      rw [ht, ht', hD.tricks_of_key hm hout hout' hsame]
  · simp only [shownTricks, heq]

end Same

end HiddifyCore.Config
