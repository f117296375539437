import HiddifyCore.Config.Singbox

/-!
# The options of the builder

`ConfigOptions` and its parts, with the defaults of `DefaultConfigOptions`.
-/

namespace HiddifyCore.Config

open Singbox (DomainStrategy)

/-- One user rule. `Domains`, `IP`, `Port` and `Protocol` are comma-separated lists. -/
structure Rule where
  ruleSetUrl : String := ""
  domains : String := ""
  ip : String := ""
  port : String := ""
  network : String := ""
  protocol : String := ""
  outbound : String := ""
  deriving DecidableEq, Repr

structure WarpWireguardConfig where
  privateKey : String := ""
  localAddressIPv4 : String := ""
  localAddressIPv6 : String := ""
  peerPublicKey : String := ""
  clientID : String := ""
  deriving DecidableEq, Repr

structure WarpAccount where
  accountID : String := ""
  accessToken : String := ""
  deriving DecidableEq, Repr

structure WarpOptions where
  enableWarp : Bool := false
  mode : String := ""
  wireguardConfigStr : String := ""
  wireguardConfig : WarpWireguardConfig := {}
  fakePackets : String := ""
  fakePacketSize : String := ""
  fakePacketDelay : String := ""
  fakePacketMode : String := ""
  cleanIP : String := ""
  cleanPort : UInt16 := 0
  account : WarpAccount := {}
  deriving DecidableEq, Repr

structure MuxOptions where
  enable : Bool := false
  padding : Bool := false
  maxStreams : Int := 0
  protocol : String := ""
  deriving DecidableEq, Repr

structure TLSTricks where
  enableFragment : Bool := false
  fragmentSize : String := ""
  fragmentSleep : String := ""
  mixedSNICase : Bool := false
  enablePadding : Bool := false
  paddingSize : String := ""
  deriving DecidableEq, Repr

structure DNSOptions where
  remoteDnsAddress : String := ""
  remoteDnsDomainStrategy : DomainStrategy := .asIS
  directDnsAddress : String := ""
  directDnsDomainStrategy : DomainStrategy := .asIS
  independentDNSCache : Bool := false
  enableFakeDNS : Bool := false
  enableDNSRouting : Bool := false
  deriving DecidableEq, Repr

structure InboundOptions where
  enableTun : Bool := false
  enableTunService : Bool := false
  setSystemProxy : Bool := false
  mixedPort : UInt16 := 0
  tproxyPort : UInt16 := 0
  localDnsPort : UInt16 := 0
  mtu : UInt32 := 0
  strictRoute : Bool := false
  tunStack : String := ""
  deriving DecidableEq, Repr

structure URLTestOptions where
  connectionTestUrl : String := ""
  /-- In seconds: a Go `int`. -/
  urlTestInterval : Int64 := 0
  deriving DecidableEq, Repr

structure RouteOptions where
  resolveDestination : Bool := false
  ipv6Mode : DomainStrategy := .asIS
  bypassLAN : Bool := false
  allowConnectionFromLAN : Bool := false
  deriving DecidableEq, Repr

structure ConfigOptions extends DNSOptions, InboundOptions, URLTestOptions, RouteOptions where
  enableFullConfig : Bool := false
  logLevel : String := ""
  enableClashApi : Bool := false
  clashApiPort : UInt16 := 0
  clashApiSecret : String := ""
  region : String := ""
  blockAds : Bool := false
  rules : List Rule := []
  warp : WarpOptions := {}
  warp2 : WarpOptions := {}
  mux : MuxOptions := {}
  tlsTricks : TLSTricks := {}
  deriving DecidableEq, Repr

def defaultConfigOptions : ConfigOptions where
  remoteDnsAddress := "1.1.1.1"
  directDnsAddress := "1.1.1.1"
  mixedPort := 2334
  tproxyPort := 2335
  localDnsPort := 16450
  mtu := 9000
  strictRoute := true
  tunStack := "mixed"
  connectionTestUrl := "http://cp.cloudflare.com/"
  urlTestInterval := 600
  logLevel := "warn"
  region := "other"
  enableClashApi := true
  clashApiPort := 6756
  mux := { padding := true, maxStreams := 8, protocol := "h2mux" }
  tlsTricks := {
    fragmentSize := "10-100"
    fragmentSleep := "50-200"
    paddingSize := "1200-1500" }

end HiddifyCore.Config
