import HiddifyCore.GoLib.JsonDecode
import HiddifyCore.Config.Option

/-!
# The JSON of the options

How `encoding/json` decodes `ConfigOptions` and its parts, after the tags of `config/option.go`,
`config/rules.go` and `config/warp_account.go`. The fields of the embedded records are fields of
the options themselves.
-/

namespace HiddifyCore.Config

open GoLib GoLib.JsonDecode
open Singbox (DomainStrategy)

def uint16 : Decoder UInt16 := uint (2 ^ 16) UInt16.ofNat

def uint32 : Decoder UInt32 := uint (2 ^ 32) UInt32.ofNat

/-- `DurationInSeconds.UnmarshalJSON`. -/
def durationInSeconds : JsonText.Value → Option Int64
  | .null => some 0
  | .num literal => (Strings.atoi literal).map Int64.ofInt
  | _ => none

def ruleFields : List (StructField Rule) := [
  .of "rule-set-url" Rule.ruleSetUrl (fun v r => { r with ruleSetUrl := v }) string,
  .of "domains" Rule.domains (fun v r => { r with domains := v }) string,
  .of "ip" Rule.ip (fun v r => { r with ip := v }) string,
  .of "port" Rule.port (fun v r => { r with port := v }) string,
  .of "network" Rule.network (fun v r => { r with network := v }) string,
  .of "protocol" Rule.protocol (fun v r => { r with protocol := v }) string,
  .of "outbound" Rule.outbound (fun v r => { r with outbound := v }) string]

def wireguardConfigFields : List (StructField WarpWireguardConfig) := [
  .of "private-key" (·.privateKey) (fun v w => { w with privateKey := v }) string,
  .of "local-address-ipv4" (·.localAddressIPv4) (fun v w => { w with localAddressIPv4 := v })
    string,
  .of "local-address-ipv6" (·.localAddressIPv6) (fun v w => { w with localAddressIPv6 := v })
    string,
  .of "peer-public-key" (·.peerPublicKey) (fun v w => { w with peerPublicKey := v }) string,
  .of "client-id" (·.clientID) (fun v w => { w with clientID := v }) string]

def accountFields : List (StructField WarpAccount) := [
  .of "account-id" (·.accountID) (fun v a => { a with accountID := v }) string,
  .of "access-token" (·.accessToken) (fun v a => { a with accessToken := v }) string]

def warpFields : List (StructField WarpOptions) := [
  .of "enable" (·.enableWarp) (fun v w => { w with enableWarp := v }) bool,
  .of "mode" (·.mode) (fun v w => { w with mode := v }) string,
  .of "wireguard-config" (·.wireguardConfigStr) (fun v w => { w with wireguardConfigStr := v })
    string,
  .of "wireguardConfig" (·.wireguardConfig) (fun v w => { w with wireguardConfig := v })
    (struct wireguardConfigFields),
  .of "noise" (·.fakePackets) (fun v w => { w with fakePackets := v }) string,
  .of "noise-size" (·.fakePacketSize) (fun v w => { w with fakePacketSize := v }) string,
  .of "noise-delay" (·.fakePacketDelay) (fun v w => { w with fakePacketDelay := v }) string,
  .of "noise-mode" (·.fakePacketMode) (fun v w => { w with fakePacketMode := v }) string,
  .of "clean-ip" (·.cleanIP) (fun v w => { w with cleanIP := v }) string,
  .of "clean-port" (·.cleanPort) (fun v w => { w with cleanPort := v }) uint16,
  .of "Account" (·.account) (fun v w => { w with account := v }) (struct accountFields)]

def muxFields : List (StructField MuxOptions) := [
  .of "enable" (·.enable) (fun v m => { m with enable := v }) bool,
  .of "padding" (·.padding) (fun v m => { m with padding := v }) bool,
  .of "max-streams" (·.maxStreams) (fun v m => { m with maxStreams := v }) int,
  .of "protocol" (·.protocol) (fun v m => { m with protocol := v }) string]

def tlsTricksFields : List (StructField TLSTricks) := [
  .of "enable-fragment" (·.enableFragment) (fun v t => { t with enableFragment := v }) bool,
  .of "fragment-size" (·.fragmentSize) (fun v t => { t with fragmentSize := v }) string,
  .of "fragment-sleep" (·.fragmentSleep) (fun v t => { t with fragmentSleep := v }) string,
  .of "mixed-sni-case" (·.mixedSNICase) (fun v t => { t with mixedSNICase := v }) bool,
  .of "enable-padding" (·.enablePadding) (fun v t => { t with enablePadding := v }) bool,
  .of "padding-size" (·.paddingSize) (fun v t => { t with paddingSize := v }) string]

/-- The decoder of the options, over sing-box's `DomainStrategy.UnmarshalJSON`. -/
def optionsFields (domainStrategy : JsonText.Value → Option DomainStrategy) :
    List (StructField ConfigOptions) := [
  .of "enable-full-config" (·.enableFullConfig) (fun v o => { o with enableFullConfig := v }) bool,
  .of "log-level" (·.logLevel) (fun v o => { o with logLevel := v }) string,
  .of "enable-clash-api" (·.enableClashApi) (fun v o => { o with enableClashApi := v }) bool,
  .of "clash-api-port" (·.clashApiPort) (fun v o => { o with clashApiPort := v }) uint16,
  .of "web-secret" (·.clashApiSecret) (fun v o => { o with clashApiSecret := v }) string,
  .of "region" (·.region) (fun v o => { o with region := v }) string,
  .of "block-ads" (·.blockAds) (fun v o => { o with blockAds := v }) bool,
  .of "rules" (·.rules) (fun v o => { o with rules := v }) (slice {} (struct ruleFields)),
  .of "warp" (·.warp) (fun v o => { o with warp := v }) (struct warpFields),
  .of "warp2" (·.warp2) (fun v o => { o with warp2 := v }) (struct warpFields),
  .of "mux" (·.mux) (fun v o => { o with mux := v }) (struct muxFields),
  .of "tls-tricks" (·.tlsTricks) (fun v o => { o with tlsTricks := v }) (struct tlsTricksFields),
  .of "remote-dns-address" (·.remoteDnsAddress) (fun v o => { o with remoteDnsAddress := v })
    string,
  .of "remote-dns-domain-strategy" (·.remoteDnsDomainStrategy)
    (fun v o => { o with remoteDnsDomainStrategy := v }) (custom domainStrategy),
  .of "direct-dns-address" (·.directDnsAddress) (fun v o => { o with directDnsAddress := v })
    string,
  .of "direct-dns-domain-strategy" (·.directDnsDomainStrategy)
    (fun v o => { o with directDnsDomainStrategy := v }) (custom domainStrategy),
  .of "independent-dns-cache" (·.independentDNSCache)
    (fun v o => { o with independentDNSCache := v }) bool,
  .of "enable-fake-dns" (·.enableFakeDNS) (fun v o => { o with enableFakeDNS := v }) bool,
  .of "enable-dns-routing" (·.enableDNSRouting) (fun v o => { o with enableDNSRouting := v }) bool,
  .of "enable-tun" (·.enableTun) (fun v o => { o with enableTun := v }) bool,
  .of "enable-tun-service" (·.enableTunService) (fun v o => { o with enableTunService := v }) bool,
  .of "set-system-proxy" (·.setSystemProxy) (fun v o => { o with setSystemProxy := v }) bool,
  .of "mixed-port" (·.mixedPort) (fun v o => { o with mixedPort := v }) uint16,
  .of "tproxy-port" (·.tproxyPort) (fun v o => { o with tproxyPort := v }) uint16,
  .of "local-dns-port" (·.localDnsPort) (fun v o => { o with localDnsPort := v }) uint16,
  .of "mtu" (·.mtu) (fun v o => { o with mtu := v }) uint32,
  .of "strict-route" (·.strictRoute) (fun v o => { o with strictRoute := v }) bool,
  .of "tun-implementation" (·.tunStack) (fun v o => { o with tunStack := v }) string,
  .of "connection-test-url" (·.connectionTestUrl) (fun v o => { o with connectionTestUrl := v })
    string,
  .of "url-test-interval" (·.urlTestInterval) (fun v o => { o with urlTestInterval := v })
    (custom durationInSeconds),
  .of "resolve-destination" (·.resolveDestination) (fun v o => { o with resolveDestination := v })
    bool,
  .of "ipv6-mode" (·.ipv6Mode) (fun v o => { o with ipv6Mode := v }) (custom domainStrategy),
  .of "bypass-lan" (·.bypassLAN) (fun v o => { o with bypassLAN := v }) bool,
  .of "allow-connection-from-lan" (·.allowConnectionFromLAN)
    (fun v o => { o with allowConnectionFromLAN := v }) bool]

/-- `json.Unmarshal` into `ConfigOptions`. -/
def unmarshalConfigOptions (domainStrategy : JsonText.Value → Option DomainStrategy)
    (text : String) (o : ConfigOptions) : ConfigOptions × Option DecodeError :=
  unmarshal (struct (optionsFields domainStrategy)) text o

/-- `json.Unmarshal` into `WarpWireguardConfig`. -/
def unmarshalWireguardConfig (text : String) (w : WarpWireguardConfig) :
    WarpWireguardConfig × Option DecodeError :=
  unmarshal (struct wireguardConfigFields) text w

end HiddifyCore.Config
