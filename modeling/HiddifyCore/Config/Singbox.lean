import HiddifyCore.Config.Json

/-!
# The sing-box options the builder reads and writes

The part of sing-box's `option` package that the config package touches. An option record holds
the fields the builder reads or writes; `Outbound.rest` and `Inbound.rest` carry the other fields
of the record of the outbound's own type, as the JSON object they are marshalled to.
-/

namespace HiddifyCore.Singbox

open Config (JObj)

/-! ### Addresses -/

inductive Addr where
  | v4 (a : BitVec 32)
  | v6 (a : BitVec 128)
  deriving DecidableEq, Repr

structure Prefix where
  addr : Addr
  bits : Nat
  deriving DecidableEq, Repr

inductive DomainStrategy where
  | asIS | preferIPv4 | preferIPv6 | useIPv4 | useIPv6
  deriving DecidableEq, Repr

/-! ### Inbounds -/

structure InboundOptions where
  sniffEnabled : Bool := false
  sniffOverrideDestination : Bool := false
  domainStrategy : DomainStrategy := .asIS
  deriving DecidableEq, Repr

structure ListenOptions extends InboundOptions where
  listen : Option Addr := none
  listenPort : UInt16 := 0
  deriving DecidableEq, Repr

structure TunInboundOptions extends InboundOptions where
  stack : String := ""
  mtu : UInt32 := 0
  autoRoute : Bool := false
  strictRoute : Bool := false
  endpointIndependentNat : Bool := false
  inet4Address : List Prefix := []
  inet6Address : List Prefix := []
  deriving DecidableEq, Repr

structure HTTPMixedInboundOptions extends ListenOptions where
  setSystemProxy : Bool := false
  deriving DecidableEq, Repr

inductive InboundType where
  | tun | mixed | direct
  | other (name : String)
  deriving DecidableEq, Repr

structure Inbound where
  type : InboundType
  tag : String
  tunOptions : TunInboundOptions := {}
  mixedOptions : HTTPMixedInboundOptions := {}
  directOptions : ListenOptions := {}
  rest : JObj := []

/-! ### Outbounds -/

/-- The `C.Type*` constants of outbounds. -/
inductive OutboundType where
  | direct | block | dns | socks | http | shadowsocks | vmess | trojan | wireguard | hysteria
  | tor | ssh | shadowtls | shadowsocksr | vless | tuic | hysteria2 | selector | urltest
  | custom | xray
  | other (name : String)
  deriving DecidableEq, Repr

/-- The constant itself, as error texts and JSON have it. -/
def OutboundType.name : OutboundType → String
  | .direct => "direct"
  | .block => "block"
  | .dns => "dns"
  | .socks => "socks"
  | .http => "http"
  | .shadowsocks => "shadowsocks"
  | .vmess => "vmess"
  | .trojan => "trojan"
  | .wireguard => "wireguard"
  | .hysteria => "hysteria"
  | .tor => "tor"
  | .ssh => "ssh"
  | .shadowtls => "shadowtls"
  | .shadowsocksr => "shadowsocksr"
  | .vless => "vless"
  | .tuic => "tuic"
  | .hysteria2 => "hysteria2"
  | .selector => "selector"
  | .urltest => "urltest"
  | .custom => "custom"
  | .xray => "xray"
  | .other name => name

structure TLSFragmentOptions where
  enabled : Bool := false
  size : String := ""
  sleep : String := ""
  deriving DecidableEq, Repr

structure DialerOptions where
  detour : String := ""
  tcpFastOpen : Bool := false
  tlsFragment : Option TLSFragmentOptions := none
  deriving DecidableEq, Repr

/-- The dialer and server parts that most option records share. -/
structure ProxyOptions extends DialerOptions where
  server : String := ""
  serverPort : UInt16 := 0
  deriving DecidableEq, Repr

structure MultiplexOptions where
  enabled : Bool := false
  protocol : String := ""
  maxStreams : Int := 0
  padding : Bool := false
  deriving DecidableEq, Repr

structure TLSTricksOptions where
  mixedCaseSNI : Bool := false
  paddingMode : String := ""
  paddingSize : String := ""
  deriving DecidableEq, Repr

structure OutboundTLSOptions where
  enabled : Bool := false
  /-- The `Enabled` field of the `Reality` record, when that pointer is not nil. -/
  reality : Option Bool := none
  tlsTricks : Option TLSTricksOptions := none
  deriving DecidableEq, Repr

inductive V2RayTransportType where
  | http | websocket | quic | grpc | httpUpgrade
  | other (name : String)
  deriving DecidableEq, Repr

/-- The options of `vless`, `vmess` and `trojan` outbounds. -/
structure V2RayOutboundOptions extends ProxyOptions where
  tls : Option OutboundTLSOptions := none
  transport : Option V2RayTransportType := none
  deriving DecidableEq, Repr

structure WireGuardOutboundOptions extends ProxyOptions where
  localAddress : List Prefix := []
  privateKey : String := ""
  peerPublicKey : String := ""
  reserved : List UInt8 := []
  mtu : UInt32 := 0
  fakePackets : String := ""
  fakePacketsSize : String := ""
  fakePacketsDelay : String := ""
  fakePacketsMode : String := ""
  deriving DecidableEq, Repr

structure SelectorOutboundOptions where
  outbounds : List String := []
  default : String := ""
  deriving DecidableEq, Repr

/-- Durations are in nanoseconds, as `time.Duration` is. -/
structure URLTestOutboundOptions where
  outbounds : List String := []
  url : String := ""
  interval : Int64 := 0
  tolerance : UInt16 := 0
  idleTimeout : Int64 := 0
  deriving DecidableEq, Repr

structure Outbound where
  type : OutboundType
  tag : String
  directOptions : DialerOptions := {}
  socksOptions : ProxyOptions := {}
  httpOptions : ProxyOptions := {}
  shadowsocksOptions : ProxyOptions := {}
  vmessOptions : V2RayOutboundOptions := {}
  trojanOptions : V2RayOutboundOptions := {}
  wireGuardOptions : WireGuardOutboundOptions := {}
  hysteriaOptions : ProxyOptions := {}
  torOptions : DialerOptions := {}
  sshOptions : ProxyOptions := {}
  shadowTLSOptions : ProxyOptions := {}
  shadowsocksROptions : ProxyOptions := {}
  vlessOptions : V2RayOutboundOptions := {}
  tuicOptions : ProxyOptions := {}
  hysteria2Options : ProxyOptions := {}
  selectorOptions : SelectorOutboundOptions := {}
  urlTestOptions : URLTestOutboundOptions := {}
  customOptions : JObj := []
  xrayOptions : DialerOptions := {}
  rest : JObj := []

namespace Outbound

/-- The detour of the option record that the outbound's type selects. Groups and the built-in
block, dns and custom types have no dialer. -/
def detour (o : Outbound) : String :=
  match o.type with
  | .direct => o.directOptions.detour
  | .socks => o.socksOptions.detour
  | .http => o.httpOptions.detour
  | .shadowsocks => o.shadowsocksOptions.detour
  | .vmess => o.vmessOptions.detour
  | .trojan => o.trojanOptions.detour
  | .wireguard => o.wireGuardOptions.detour
  | .hysteria => o.hysteriaOptions.detour
  | .tor => o.torOptions.detour
  | .ssh => o.sshOptions.detour
  | .shadowtls => o.shadowTLSOptions.detour
  | .shadowsocksr => o.shadowsocksROptions.detour
  | .vless => o.vlessOptions.detour
  | .tuic => o.tuicOptions.detour
  | .hysteria2 => o.hysteria2Options.detour
  | .xray => o.xrayOptions.detour
  | .block | .dns | .selector | .urltest | .custom | .other _ => ""

/-- The members of a group. -/
def members (o : Outbound) : List String :=
  match o.type with
  | .selector => o.selectorOptions.outbounds
  | .urltest => o.urlTestOptions.outbounds
  | _ => []

end Outbound

/-! ### Rules -/

structure DefaultRule where
  inbound : List String := []
  network : List String := []
  protocol : List String := []
  domain : List String := []
  domainSuffix : List String := []
  domainKeyword : List String := []
  domainRegex : List String := []
  geosite : List String := []
  geoIP : List String := []
  ipCIDR : List String := []
  ipIsPrivate : Bool := false
  port : List UInt16 := []
  portRange : List String := []
  processName : List String := []
  ruleSet : List String := []
  outbound : String := ""
  deriving DecidableEq, Repr

structure DefaultDNSRule where
  inbound : List String := []
  domain : List String := []
  domainSuffix : List String := []
  domainKeyword : List String := []
  domainRegex : List String := []
  geosite : List String := []
  ruleSet : List String := []
  server : String := ""
  disableCache : Bool := false
  rewriteTTL : Option UInt32 := none
  deriving DecidableEq, Repr

/-- A rule has a condition when something besides its outbound differs from the zero value. -/
def DefaultRule.HasCondition (r : DefaultRule) : Prop := r ≠ { outbound := r.outbound }

/-- A DNS rule has a condition when something besides its server and its two cache options
differs from the zero value. -/
def DefaultDNSRule.HasCondition (r : DefaultDNSRule) : Prop :=
  r ≠ { server := r.server, disableCache := r.disableCache, rewriteTTL := r.rewriteTTL }

instance (r : DefaultRule) : Decidable r.HasCondition := inferInstanceAs (Decidable (_ ≠ _))

instance (r : DefaultDNSRule) : Decidable r.HasCondition := inferInstanceAs (Decidable (_ ≠ _))

structure RuleSet where
  tag : String
  url : String
  /-- In hours. -/
  updateInterval : Nat
  deriving DecidableEq, Repr

structure RouteOptions where
  rules : List DefaultRule := []
  final : String := ""
  autoDetectInterface : Bool := false
  overrideAndroidVPN : Bool := false
  ruleSet : List RuleSet := []
  deriving DecidableEq, Repr

/-! ### DNS -/

structure DNSServerOptions where
  tag : String := ""
  address : String := ""
  addressResolver : String := ""
  strategy : DomainStrategy := .asIS
  detour : String := ""
  deriving DecidableEq, Repr

structure DNSFakeIPOptions where
  enabled : Bool := false
  inet4Range : Option Prefix := none
  inet6Range : Option Prefix := none
  deriving DecidableEq, Repr

structure DNSOptions where
  servers : List DNSServerOptions := []
  rules : List DefaultDNSRule := []
  final : String := ""
  staticIPs : List (String × List String) := []
  independentCache : Bool := false
  fakeIP : Option DNSFakeIPOptions := none
  deriving DecidableEq, Repr

/-! ### The document -/

structure LogOptions where
  level : String := ""
  output : String := ""
  disabled : Bool := false
  timestamp : Bool := false
  disableColor : Bool := false
  deriving DecidableEq, Repr

structure ClashAPIOptions where
  externalController : String := ""
  externalUI : String := ""
  secret : String := ""
  deriving DecidableEq, Repr

structure CacheFileOptions where
  enabled : Bool := false
  path : String := ""
  deriving DecidableEq, Repr

structure ExperimentalOptions where
  clashAPI : Option ClashAPIOptions := none
  cacheFile : Option CacheFileOptions := none
  deriving DecidableEq, Repr

structure Options where
  log : Option LogOptions := none
  dns : Option DNSOptions := none
  inbounds : List Inbound := []
  outbounds : List Outbound := []
  route : Option RouteOptions := none
  experimental : Option ExperimentalOptions := none

end HiddifyCore.Singbox
