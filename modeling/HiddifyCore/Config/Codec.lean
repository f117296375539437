import HiddifyCore.Config.Reference

/-!
# A codec for every outbound type

The reference dependencies with all of sing-box's outbound types coded, in the fields that the
builder looks at: the type, the tag, the dialer's detour, the server and its port, the key, the
MTU and the fake packets of WireGuard, and the members of a group.
-/

namespace HiddifyCore.Singbox.Outbound

/-- The server of the option record that the outbound's type selects. -/
def server (o : Outbound) : String :=
  match o.type with
  | .socks => o.socksOptions.server
  | .http => o.httpOptions.server
  | .shadowsocks => o.shadowsocksOptions.server
  | .vmess => o.vmessOptions.server
  | .trojan => o.trojanOptions.server
  | .wireguard => o.wireGuardOptions.server
  | .hysteria => o.hysteriaOptions.server
  | .ssh => o.sshOptions.server
  | .shadowtls => o.shadowTLSOptions.server
  | .shadowsocksr => o.shadowsocksROptions.server
  | .vless => o.vlessOptions.server
  | .tuic => o.tuicOptions.server
  | .hysteria2 => o.hysteria2Options.server
  | .direct | .tor | .xray | .block | .dns | .selector | .urltest | .custom | .other _ => ""

end HiddifyCore.Singbox.Outbound

namespace HiddifyCore.Config

open GoLib GoLib.Strings Singbox

namespace Codec

open Reference (header encodeDetour decodePort decodeMembers)

def proxyFields (p : ProxyOptions) : JObj :=
  [("server", .str p.server), ("server_port", .num p.serverPort.toNat 0)] ++ encodeDetour p.detour

/-- The fields of the record that the type selects. -/
def recordFields (o : Outbound) : JObj :=
  match o.type with
  | .direct => encodeDetour o.directOptions.detour
  | .socks => proxyFields o.socksOptions
  | .http => proxyFields o.httpOptions
  | .shadowsocks => proxyFields o.shadowsocksOptions
  | .vmess => proxyFields o.vmessOptions.toProxyOptions
  | .trojan => proxyFields o.trojanOptions.toProxyOptions
  | .wireguard => [("private_key", .str o.wireGuardOptions.privateKey),
      ("mtu", .num o.wireGuardOptions.mtu.toNat 0),
      ("fake_packets", .str o.wireGuardOptions.fakePackets),
      ("fake_packets_size", .str o.wireGuardOptions.fakePacketsSize),
      ("fake_packets_delay", .str o.wireGuardOptions.fakePacketsDelay),
      ("fake_packets_mode", .str o.wireGuardOptions.fakePacketsMode)] ++
      proxyFields o.wireGuardOptions.toProxyOptions
  | .hysteria => proxyFields o.hysteriaOptions
  | .tor => encodeDetour o.torOptions.detour
  | .ssh => proxyFields o.sshOptions
  | .shadowtls => proxyFields o.shadowTLSOptions
  | .shadowsocksr => proxyFields o.shadowsocksROptions
  | .vless => proxyFields o.vlessOptions.toProxyOptions
  | .tuic => proxyFields o.tuicOptions
  | .hysteria2 => proxyFields o.hysteria2Options
  | .xray => encodeDetour o.xrayOptions.detour
  | .selector => [("outbounds", .arr (o.selectorOptions.outbounds.map .str)),
      ("default", .str o.selectorOptions.default)]
  | .urltest => [("outbounds", .arr (o.urlTestOptions.outbounds.map .str)),
      ("url", .str o.urlTestOptions.url)]
  | .custom => o.customOptions
  | .block | .dns | .other _ => []

/-- The types that sing-box knows. -/
def codedTypes : List OutboundType :=
  [.direct, .block, .dns, .socks, .http, .shadowsocks, .vmess, .trojan, .wireguard, .hysteria,
    .tor, .ssh, .shadowtls, .shadowsocksr, .vless, .tuic, .hysteria2, .selector, .urltest,
    .custom, .xray]

def marshalJSON (o : Outbound) : Outcome JObj :=
  if o.type ∈ codedTypes then .ok (header o ++ recordFields o)
  else .fail ("unknown outbound type: " ++ o.type.name)

def decodeDialer (m : JObj) : DialerOptions := { detour := m.getString "detour" }

def decodeProxy (m : JObj) : ProxyOptions where
  detour := m.getString "detour"
  server := m.getString "server"
  serverPort := decodePort m

def decodeMTU (m : JObj) : UInt32 :=
  match m.get? "mtu" with
  | some (.num mtu 0) => UInt32.ofInt mtu
  | _ => 0

/-- The record that the type selects, read from the object. -/
def decodeRecord (t : OutboundType) (m : JObj) : Outbound :=
  let o : Outbound := { type := t, tag := m.getString "tag" }
  match t with
  | .direct => { o with directOptions := decodeDialer m }
  | .socks => { o with socksOptions := decodeProxy m }
  | .http => { o with httpOptions := decodeProxy m }
  | .shadowsocks => { o with shadowsocksOptions := decodeProxy m }
  | .vmess => { o with vmessOptions := { decodeProxy m with } }
  | .trojan => { o with trojanOptions := { decodeProxy m with } }
  | .wireguard => { o with
      wireGuardOptions := { decodeProxy m with
        privateKey := m.getString "private_key"
        mtu := decodeMTU m
        fakePackets := m.getString "fake_packets"
        fakePacketsSize := m.getString "fake_packets_size"
        fakePacketsDelay := m.getString "fake_packets_delay"
        fakePacketsMode := m.getString "fake_packets_mode" } }
  | .hysteria => { o with hysteriaOptions := decodeProxy m }
  | .tor => { o with torOptions := decodeDialer m }
  | .ssh => { o with sshOptions := decodeProxy m }
  | .shadowtls => { o with shadowTLSOptions := decodeProxy m }
  | .shadowsocksr => { o with shadowsocksROptions := decodeProxy m }
  | .vless => { o with vlessOptions := { decodeProxy m with } }
  | .tuic => { o with tuicOptions := decodeProxy m }
  | .hysteria2 => { o with hysteria2Options := decodeProxy m }
  | .xray => { o with xrayOptions := decodeDialer m }
  | .selector => { o with
      selectorOptions := { outbounds := decodeMembers m, default := m.getString "default" } }
  | .urltest => { o with
      urlTestOptions := { outbounds := decodeMembers m, url := m.getString "url" } }
  | .custom => { o with customOptions := m.filter fun kv => kv.1 ≠ "type" && kv.1 ≠ "tag" }
  | .block | .dns | .other _ => o

def unmarshalOutbound (m : JObj) : Outcome Outbound :=
  match codedTypes.find? (·.name = m.getString "type") with
  | some t => .ok (decodeRecord t m)
  | none => .fail ("unknown outbound type: " ++ m.getString "type")

def deps : Deps :=
  { Reference.deps with
    marshalJSON := marshalJSON
    unmarshalOutbound := unmarshalOutbound }

/-! ### The documented laws -/

/-- The types with a dialer. -/
def hasDialer (t : OutboundType) : Bool :=
  t ≠ .block && t ≠ .dns && t ≠ .selector && t ≠ .urltest && t ≠ .custom

/-- The types with a server. -/
def hasServer (t : OutboundType) : Bool := hasDialer t && t ≠ .direct && t ≠ .tor && t ≠ .xray

lemma type_eq_of_name : ∀ t ∈ codedTypes, ∀ t' ∈ codedTypes, t'.name = t.name → t' = t := by
  decide

section Marshal

variable {o : Outbound} {m : JObj} (h : deps.marshalOutbound o = .ok m)
include h

lemma marshalOutbound_ok :
    o.type ∈ codedTypes ∧ m = JObj.unmarshalMap (header o ++ recordFields o) := by
  obtain ⟨text, htext, h⟩ := Outcome.bind_eq_ok.mp h
  cases h
  simp only [deps, marshalJSON] at htext
  split_ifs at htext with hcoded
  cases htext
  exact ⟨hcoded, rfl⟩

lemma marshalOutbound_type : m.getString "type" = o.type.name := by
  rw [(marshalOutbound_ok h).2]
  rfl

lemma marshalOutbound_tag : m.getString "tag" = o.tag := by
  rw [(marshalOutbound_ok h).2]
  rfl

omit h in
lemma getString_encodeDetour (detour : String) :
    JObj.getString (encodeDetour detour) "detour" = detour := by
  simp only [encodeDetour]
  split_ifs with hempty
  · exact hempty.symm
  · rfl

lemma marshalOutbound_detour (hdial : hasDialer o.type = true) :
    m.getString "detour" = o.detour := by
  obtain ⟨hcoded, rfl⟩ := marshalOutbound_ok h
  have hheader : JObj.getString (header o ++ recordFields o) "detour" =
      JObj.getString (recordFields o) "detour" := rfl
  rw [JObj.getString_unmarshalMap, hheader]
  simp only [recordFields, Outbound.detour]
  cases htype : o.type <;>
    first
    | exact getString_encodeDetour _
    | simp [hasDialer, codedTypes, htype] at hdial hcoded

lemma marshalOutbound_server (hserver : hasServer o.type = true) :
    m.get? "server" = some (.str o.server) := by
  obtain ⟨hcoded, rfl⟩ := marshalOutbound_ok h
  have hheader : JObj.get? (header o ++ recordFields o) "server" =
      JObj.get? (recordFields o) "server" := rfl
  apply JObj.get?_unmarshalMap_str
  rw [hheader]
  simp only [recordFields, Outbound.server]
  cases htype : o.type <;>
    first
    | rfl
    | simp [hasServer, hasDialer, codedTypes, htype] at hserver hcoded

omit h in
lemma hasServer_of_ne (hne : o.server ≠ "") : hasServer o.type = true := by
  cases htype : o.type <;> simp [Outbound.server, htype] at hne <;> rfl

end Marshal

section Unmarshal

variable {o : Outbound} {m : JObj} (h : unmarshalOutbound m = .ok o)
include h

lemma unmarshalOutbound_ok :
    o.type ∈ codedTypes ∧ o.type.name = m.getString "type" ∧ o = decodeRecord o.type m := by
  simp only [unmarshalOutbound] at h
  split at h
  · rename_i t hfind
    cases h
    have htype : (decodeRecord t m).type = t := by cases t <;> rfl
    rw [htype]
    exact ⟨List.mem_of_find?_eq_some hfind, by simpa using List.find?_some hfind, rfl⟩
  · cases h

lemma unmarshalOutbound_tag : o.tag = m.getString "tag" := by
  rw [(unmarshalOutbound_ok h).2.2]
  cases o.type <;> rfl

lemma unmarshalOutbound_detour :
    o.detour = if hasDialer o.type then m.getString "detour" else "" := by
  obtain ⟨hcoded, -, heq⟩ := unmarshalOutbound_ok h
  generalize o.type = t at hcoded heq
  subst heq
  cases t <;> first | rfl | simp [codedTypes] at hcoded

lemma unmarshalOutbound_server :
    o.server = if hasServer o.type then m.getString "server" else "" := by
  obtain ⟨hcoded, -, heq⟩ := unmarshalOutbound_ok h
  generalize o.type = t at hcoded heq
  subst heq
  cases t <;> first | rfl | simp [codedTypes] at hcoded

end Unmarshal

/-- The types of an outbound and of what is read from an object with the same type are equal. -/
lemma type_of_key {o o' : Outbound} {m m' : JObj} (h : deps.marshalOutbound o = .ok m)
    (h' : unmarshalOutbound m' = .ok o') (hkey : m'.get? "type" = m.get? "type") :
    o'.type = o.type := by
  obtain ⟨hcoded', hname', -⟩ := unmarshalOutbound_ok h'
  apply type_eq_of_name _ (marshalOutbound_ok h).1 _ hcoded'
  rw [hname', Reference.getString_congr hkey, marshalOutbound_type h]

lemma server_of_key {o o' : Outbound} {m m' : JObj} (h : deps.marshalOutbound o = .ok m)
    (h' : unmarshalOutbound m' = .ok o') (htype : m'.get? "type" = m.get? "type")
    (hkey : m'.get? "server" = m.get? "server") : o'.server = o.server := by
  rw [unmarshalOutbound_server h', type_of_key h h' htype]
  split_ifs with hserver
  · rw [Reference.getString_congr hkey]
    exact Reference.getString_of_get? (marshalOutbound_server h hserver)
  · cases ho : o.type <;> simp [hasServer, hasDialer, Outbound.server, ho] at hserver ⊢

theorem deps_documented : deps.Documented where
  ruleIsValid := Reference.deps_documented.ruleIsValid
  dnsRuleIsValid := Reference.deps_documented.dnsRuleIsValid
  type_of_key := type_of_key
  tag_of_key h h' hkey := by
    rw [unmarshalOutbound_tag h', Reference.getString_congr hkey, marshalOutbound_tag h]
  detour_of_key {o o' m m'} h h' htype hkey := by
    rw [unmarshalOutbound_detour h', type_of_key h h' htype]
    split_ifs with hdial
    · rw [Reference.getString_congr hkey, marshalOutbound_detour h hdial]
    · cases ho : o.type <;> simp [hasDialer, Outbound.detour, ho] at hdial ⊢

end Codec

end HiddifyCore.Config
