import HiddifyCore.Config.Outbound
import HiddifyCore.Config.Rules
import HiddifyCore.Config.Tunnel

/-!
# BuildConfig

The passes of `config/config.go` in the order in which `BuildConfig` runs them. Two package
variables outlive a call: `OutboundMainProxyTag`, which `setRoutingOptions` reads and the later
`setOutbounds` writes, and the tunnel service that `setInbound` commands.
-/

namespace HiddifyCore.Config

open GoLib GoLib.Strings Singbox

def dnsRemoteTag := "dns-remote"
def dnsLocalTag := "dns-local"
def dnsDirectTag := "dns-direct"
def dnsBlockTag := "dns-block"
def dnsFakeTag := "dns-fake"
def dnsTricksDirectTag := "dns-trick-direct"

def outboundDirectTag := "direct"
def outboundBypassTag := "bypass"
def outboundBlockTag := "block"
def outboundSelectTag := "select"
def outboundURLTestTag := "auto"
def outboundDNSTag := "dns-out"
def outboundDirectFragmentTag := "direct-fragment"

def inboundTUNTag := "tun-in"
def inboundMixedTag := "mixed-in"
def inboundDNSTag := "dns-in"

/-- The tag that the generated WARP outbound is given. -/
def warpTag := "Hiddify Warp ✅"

/-- The package variables of `config`. -/
structure Globals where
  outboundMainProxyTag : String := outboundSelectTag
  tunnel : Tunnel := {}

namespace Globals

@[simps]
def setMainProxyTag (tag : String) (g : Globals) : Globals := { g with outboundMainProxyTag := tag }

@[simps]
def setTunnel (t : Tunnel) (g : Globals) : Globals := { g with tunnel := t }

end Globals

/-- Edit `options.DNS`, which no pass that runs after `setDns` finds nil. -/
def modifyDNS (f : Singbox.DNSOptions → Singbox.DNSOptions) (options : Options) : Options :=
  { options with dns := options.dns.map f }

/-! ### The clash API, the log and the inbounds -/

/-- `setClashAPI` also stores the secret that it draws in the options. -/
def withSecret (env : BuildEnv) (opt : ConfigOptions) : ConfigOptions :=
  if opt.enableClashApi ∧ opt.clashApiSecret = "" then
    { opt with clashApiSecret := generateRandomString env.secret 16 }
  else
    opt

def setClashAPI (opt : ConfigOptions) (options : Options) : Options :=
  if opt.enableClashApi then
    { options with
      experimental := some {
        clashAPI := some {
          externalController := "127.0.0.1:" ++ natDigits opt.clashApiPort.toNat
          secret := opt.clashApiSecret }
        cacheFile := some { enabled := true, path := "clash.db" } } }
  else
    options

def setLog (opt : ConfigOptions) (options : Options) : Options :=
  { options with
    log := some {
      level := opt.logLevel
      output := "box.log"
      disabled := false
      timestamp := true
      disableColor := true } }

/-- 172.19.0.1/28. -/
def tunPrefix4 : Prefix := { addr := .v4 0xAC130001, bits := 28 }

/-- fdfe:dcba:9876::1/126. -/
def tunPrefix6 : Prefix := { addr := .v6 0xfdfedcba987600000000000000000001, bits := 126 }

def inboundDomainStrategy (opt : ConfigOptions) : DomainStrategy :=
  if opt.resolveDestination then opt.ipv6Mode else .asIS

def tunInbound (opt : ConfigOptions) : Inbound where
  type := .tun
  tag := inboundTUNTag
  tunOptions := {
    stack := opt.tunStack
    mtu := opt.mtu
    autoRoute := true
    strictRoute := opt.strictRoute
    endpointIndependentNat := true
    inet4Address := if opt.ipv6Mode = .useIPv6 then [] else [tunPrefix4]
    inet6Address := if opt.ipv6Mode = .useIPv4 then [] else [tunPrefix6]
    sniffEnabled := true
    sniffOverrideDestination := true
    domainStrategy := inboundDomainStrategy opt }

/-- 0.0.0.0 or 127.0.0.1. -/
def bindAddress (opt : ConfigOptions) : Addr :=
  if opt.allowConnectionFromLAN then .v4 0 else .v4 0x7F000001

def mixedInbound (opt : ConfigOptions) : Inbound where
  type := .mixed
  tag := inboundMixedTag
  mixedOptions := {
    listen := some (bindAddress opt)
    listenPort := opt.mixedPort
    sniffEnabled := true
    sniffOverrideDestination := true
    domainStrategy := inboundDomainStrategy opt
    setSystemProxy := opt.setSystemProxy }

def dnsInbound (opt : ConfigOptions) : Inbound where
  type := .direct
  tag := inboundDNSTag
  directOptions := {
    listen := some (bindAddress opt)
    listenPort := opt.localDnsPort }

/-- The activation inside `setInbound`. -/
def commandTunnel (opt : ConfigOptions) (g : Globals) : Globals :=
  if opt.enableTunService then g.setTunnel (activateTunnelService opt g.tunnel) else g

def setInbound (opt : ConfigOptions) (options : Options) : Options :=
  let tun := if ¬ opt.enableTunService ∧ opt.enableTun then [tunInbound opt] else []
  { options with inbounds := options.inbounds ++ tun ++ [mixedInbound opt] ++ [dnsInbound opt] }

/-! ### DNS -/

def getIPs (lookupHost : String → Option (List String)) (domains : List String) : List String :=
  domains.flatMap fun d =>
    match lookupHost d with
    | none => []
    | some ips => ips.filter fun ip => !hasPrefix ip "10."

/-- `staticIPs[entry.1] = entry.2`. -/
def setStaticIP (staticIPs : List StaticIP) (entry : StaticIP) : List StaticIP :=
  entry :: staticIPs.filter (·.1 ≠ entry.1)

def dnsServers (opt : ConfigOptions) : List DNSServerOptions := [
  { tag := dnsRemoteTag
    address := opt.remoteDnsAddress
    addressResolver := dnsDirectTag
    strategy := opt.remoteDnsDomainStrategy },
  { tag := dnsTricksDirectTag
    address := "https://sky.rethinkdns.com/"
    strategy := opt.directDnsDomainStrategy
    detour := outboundDirectFragmentTag },
  { tag := dnsDirectTag
    address := opt.directDnsAddress
    addressResolver := dnsLocalTag
    strategy := opt.directDnsDomainStrategy
    detour := outboundDirectTag },
  { tag := dnsLocalTag
    address := "local"
    detour := outboundDirectTag },
  { tag := dnsBlockTag
    address := "rcode://success" }]

def setDns (env : BuildEnv) (opt : ConfigOptions) (options : Options) : Options :=
  let skyRethinkdns := getIPs env.lookupHost ["www.speedtest.net", "sky.rethinkdns.com"]
  { options with
    dns := some {
      staticIPs := if skyRethinkdns ≠ [] then [("sky.rethinkdns.com", skyRethinkdns)] else []
      independentCache := opt.independentDNSCache
      final := dnsRemoteTag
      servers := dnsServers opt } }

/-- 198.18.0.0/15. -/
def fakePrefix4 : Prefix := { addr := .v4 0xC6120000, bits := 15 }

/-- fc00::/18. -/
def fakePrefix6 : Prefix := { addr := .v6 0xfc000000000000000000000000000000, bits := 18 }

def fakeDnsRule : DefaultDNSRule where
  inbound := [inboundTUNTag]
  server := dnsFakeTag
  disableCache := true

def setFakeDns (opt : ConfigOptions) (options : Options) : Options :=
  if opt.enableFakeDNS then
    modifyDNS (fun dns => { dns with
      fakeIP := some {
        enabled := true
        inet4Range := some fakePrefix4
        inet6Range := some fakePrefix6 }
      servers := dns.servers ++ [{
        tag := dnsFakeTag
        address := "fakeip"
        strategy := .useIPv4 }]
      rules := dns.rules ++ [fakeDnsRule] }) options
  else
    options

/-! ### Routing -/

section Routing

variable (D : Deps)

/-- The rules that come before those of the user. -/
def builtinRules (opt : ConfigOptions) : List DefaultRule :=
  [{ inbound := [inboundDNSTag], outbound := outboundDNSTag },
    { port := [53], outbound := outboundDNSTag }] ++
  (if opt.enableTun then
    [{ processName := ["Hiddify", "Hiddify.exe", "HiddifyCli", "HiddifyCli.exe"],
       outbound := outboundBypassTag }] else []) ++
  (if opt.bypassLAN then [{ ipIsPrivate := true, outbound := outboundBypassTag }] else [])

/-- The switch on `rule.Outbound` for the route rule. A rule whose outbound is none of the three
keeps the empty one. -/
def routeOutbound (r : Rule) : String :=
  if r.outbound = "bypass" then outboundBypassTag
  else if r.outbound = "block" then outboundBlockTag
  else if r.outbound = "proxy" then outboundDNSTag
  else ""

def userRule (r : Rule) : DefaultRule := { r.makeRule D with outbound := routeOutbound r }

/-- The DNS rules of one user rule. The inbounds of the fake copy are set before the check of its
conditions. -/
def userDNSRules (opt : ConfigOptions) (r : Rule) : List DefaultDNSRule :=
  let dnsRule := r.makeDNSRule D
  if r.outbound = "bypass" then [{ dnsRule with server := dnsDirectTag }]
  else if r.outbound = "block" then [{ dnsRule with server := dnsBlockTag, disableCache := true }]
  else if r.outbound = "proxy" then
    (if opt.enableFakeDNS then
      [{ dnsRule with server := dnsFakeTag, inbound := [inboundTUNTag, inboundMixedTag] }]
    else []) ++ [{ dnsRule with server := dnsRemoteTag }]
  else [dnsRule]

/-- The rule for the host of the connection test. -/
def testDNSRules (opt : ConfigOptions) : List DefaultDNSRule :=
  match D.urlHost opt.connectionTestUrl with
  | some host => [{
      domain := [host]
      server := dnsRemoteTag
      rewriteTTL := some 3000
      disableCache := false }]
  | none => []

def adsRuleSets : List String :=
  ["geosite-ads", "geosite-malware", "geosite-phishing", "geosite-cryptominers", "geoip-malware",
    "geoip-phishing"]

def adsRules (opt : ConfigOptions) : List DefaultRule :=
  if opt.blockAds then [{ ruleSet := adsRuleSets, outbound := outboundBlockTag }] else []

def regionRuleSets (opt : ConfigOptions) : List String :=
  ["geoip-" ++ opt.region, "geosite-" ++ opt.region]

def regionRules (opt : ConfigOptions) : List DefaultRule :=
  if opt.region ≠ "other" then
    [{ domainSuffix := ["." ++ opt.region], outbound := outboundDirectTag },
      { ruleSet := regionRuleSets opt, outbound := outboundDirectTag }]
  else []

def regionDNSRules (opt : ConfigOptions) : List DefaultDNSRule :=
  if opt.region ≠ "other" then
    [{ domainSuffix := ["." ++ opt.region], server := dnsDirectTag },
      { ruleSet := regionRuleSets opt, server := dnsDirectTag }]
  else []

/-- A remote binary rule set, updated every five days. -/
def remoteRuleSet (tag url : String) : RuleSet where
  tag := tag
  url := "https://raw.githubusercontent.com/hiddify/hiddify-geo/rule-set/" ++ url ++ ".srs"
  updateInterval := 5 * 24

def ruleSets (opt : ConfigOptions) : List RuleSet :=
  (if opt.blockAds then
    [remoteRuleSet "geosite-ads" "block/geosite-category-ads-all",
      remoteRuleSet "geosite-malware" "block/geosite-malware",
      remoteRuleSet "geosite-phishing" "block/geosite-phishing",
      remoteRuleSet "geosite-cryptominers" "block/geosite-cryptominers",
      remoteRuleSet "geoip-phishing" "block/geoip-phishing",
      remoteRuleSet "geoip-malware" "block/geoip-malware"]
  else []) ++
  (if opt.region ≠ "other" then
    [remoteRuleSet ("geoip-" ++ opt.region) ("country/geoip-" ++ opt.region),
      remoteRuleSet ("geosite-" ++ opt.region) ("country/geosite-" ++ opt.region)]
  else [])

def routeRules (opt : ConfigOptions) : List DefaultRule :=
  builtinRules opt ++ (opt.rules.map (userRule D)).filter D.ruleIsValid ++ adsRules opt ++
    regionRules opt

def dnsRules (opt : ConfigOptions) : List DefaultDNSRule :=
  opt.rules.flatMap (userDNSRules D opt) ++ testDNSRules D opt ++ regionDNSRules opt

/-- `mainProxyTag` is the value that `OutboundMainProxyTag` has when this pass runs. -/
def setRoutingOptions (mainProxyTag : String) (opt : ConfigOptions) (options : Options) :
    Options :=
  let options := { options with
    route := some {
      rules := routeRules D opt
      final := mainProxyTag
      autoDetectInterface := true
      overrideAndroidVPN := true
      ruleSet := ruleSets opt } }
  if opt.enableDNSRouting then
    modifyDNS (fun dns => { dns with
      rules := dns.rules ++ (dnsRules D opt).filter D.dnsRuleIsValid }) options
  else
    options

end Routing

/-! ### Outbounds -/

section Outbounds

variable (D : Deps)

/-- An input outbound that makes `setOutbounds` switch WARP off. -/
def usesWarpKey (opt : ConfigOptions) (out : Outbound) : Bool :=
  (match warpObject out with
    | some warp => warp.getString "key" == "p1"
    | none => false) ||
  (out.type = .wireguard &&
    (out.wireGuardOptions.privateKey = opt.warp.wireguardConfig.privateKey ||
      out.wireGuardOptions.privateKey = "p1"))

/-- The scan of the input outbounds, which stops at the first one that uses the key. -/
def scanWarp (input : List Outbound) (opt : ConfigOptions) : ConfigOptions :=
  if opt.warp.enableWarp ∧ input.any (usesWarpKey opt) then
    { opt with warp := { opt.warp with enableWarp := false } }
  else
    opt

def generatesWarp (opt : ConfigOptions) : Bool :=
  opt.warp.enableWarp && (opt.warp.mode = "warp_over_proxy" || opt.warp.mode = "proxy_over_warp")

def warpFakeOf (opt : ConfigOptions) : FakePackets where
  packets := opt.warp.fakePackets
  size := opt.warp.fakePacketSize
  delay := opt.warp.fakePacketDelay
  mode := opt.warp.fakePacketMode

/-- The WARP outbound before its patch. -/
def warpOutbound (opt : ConfigOptions) : Outcome Outbound := do
  let out ← (generateWarpSingbox D opt.warp.wireguardConfig opt.warp.cleanIP opt.warp.cleanPort
    (warpFakeOf opt)).mapErr ("failed to generate warp config: " ++ ·)
  .ok { out with
    tag := warpTag
    wireGuardOptions := { out.wireGuardOptions with
      detour :=
        if opt.warp.mode = "warp_over_proxy" then outboundSelectTag else outboundDirectTag } }

/-- `patchWarp(out, opt, true, nil)` with its error dropped. A write to the nil map panics. -/
def patchWarpOutbound (draws : Draws) (opt : ConfigOptions) (out : Outbound) : Outcome Outbound :=
  match patchWarp D draws out (some opt) true with
  | .ok (out, []) => .ok out
  | .ok (_, _ :: _) => .panic "assignment to entry in nil map"
  | .fail _ => .ok out
  | .panic e => .panic e

/-- Detour an outbound through WARP in every option record that has a dialer and no detour. The
xray record is not among them. -/
def detourThroughWarp (out : Outbound) : Outbound :=
  let detour (d : DialerOptions) : DialerOptions :=
    { d with detour := if d.detour = "" then warpTag else d.detour }
  { out with
    directOptions := detour out.directOptions
    httpOptions := { out.httpOptions with
      toDialerOptions := detour out.httpOptions.toDialerOptions }
    hysteria2Options := { out.hysteria2Options with
      toDialerOptions := detour out.hysteria2Options.toDialerOptions }
    hysteriaOptions := { out.hysteriaOptions with
      toDialerOptions := detour out.hysteriaOptions.toDialerOptions }
    sshOptions := { out.sshOptions with toDialerOptions := detour out.sshOptions.toDialerOptions }
    shadowTLSOptions := { out.shadowTLSOptions with
      toDialerOptions := detour out.shadowTLSOptions.toDialerOptions }
    shadowsocksOptions := { out.shadowsocksOptions with
      toDialerOptions := detour out.shadowsocksOptions.toDialerOptions }
    shadowsocksROptions := { out.shadowsocksROptions with
      toDialerOptions := detour out.shadowsocksROptions.toDialerOptions }
    socksOptions := { out.socksOptions with
      toDialerOptions := detour out.socksOptions.toDialerOptions }
    tuicOptions := { out.tuicOptions with
      toDialerOptions := detour out.tuicOptions.toDialerOptions }
    torOptions := detour out.torOptions
    trojanOptions := { out.trojanOptions with
      toDialerOptions := detour out.trojanOptions.toDialerOptions }
    vlessOptions := { out.vlessOptions with
      toDialerOptions := detour out.vlessOptions.toDialerOptions }
    vmessOptions := { out.vmessOptions with
      toDialerOptions := detour out.vmessOptions.toDialerOptions }
    wireGuardOptions := { out.wireGuardOptions with
      toDialerOptions := detour out.wireGuardOptions.toDialerOptions } }

def patchHiddifyWarpFromConfig (opt : ConfigOptions) (out : Outbound) : Outbound :=
  if opt.warp.enableWarp ∧ opt.warp.mode = "proxy_over_warp" then detourThroughWarp out else out

/-- The types that the switch in the loop of `setOutbounds` drops. -/
def isDropped (t : OutboundType) : Bool :=
  t = .direct || t = .block || t = .dns || t = .selector || t = .urltest || t = .custom

def isHidden (tag : String) : Bool := contains tag "§hide§"

/-- The variables that the loop of `setOutbounds` fills. -/
structure Collected where
  outbounds : List Outbound := []
  tags : List String := []
  directDNSDomains : List String := []
  staticIPs : List StaticIP := []

/-- `directDNSDomains[domain] = true`. -/
def addDomain (domains : List String) (domain : String) : List String :=
  if domain ∈ domains then domains else domains ++ [domain]

/-- The body of the loop of `setOutbounds` on a patched outbound. -/
def Collected.add (opt : ConfigOptions) (acc : Collected) (p : Patched) : Collected :=
  let acc := { acc with
    staticIPs := p.staticIPs.foldl setStaticIP acc.staticIPs
    directDNSDomains :=
      if p.serverDomain ≠ "" then addDomain acc.directDNSDomains p.serverDomain
      else acc.directDNSDomains }
  if isDropped p.outbound.type then
    acc
  else
    { acc with
      tags := if isHidden p.outbound.tag then acc.tags else acc.tags ++ [p.outbound.tag]
      outbounds := acc.outbounds ++ [patchHiddifyWarpFromConfig opt p.outbound] }

/-- The loop of `setOutbounds`, at position `i` of the input. It stops at the first error. -/
def collect (opt : ConfigOptions) (draws : Nat → Draws) :
    List Outbound → Nat → Collected → Outcome Collected
  | [], _, acc => .ok acc
  | out :: rest, i, acc => do
    let p ← patchOutbound D (draws i) out opt
    collect opt draws rest (i + 1) (acc.add opt p)

def nanoseconds (seconds : Int64) : Int64 := seconds * 1000000000

def urlTestOutbound (opt : ConfigOptions) (tags : List String) : Outbound where
  type := .urltest
  tag := outboundURLTestTag
  urlTestOptions := {
    outbounds := tags
    url := opt.connectionTestUrl
    interval := nanoseconds opt.urlTestInterval
    tolerance := 1
    idleTimeout := nanoseconds opt.urlTestInterval * 3 }

def selectorOutbound (tags : List String) : Outbound where
  type := .selector
  tag := outboundSelectTag
  selectorOptions := {
    outbounds := outboundURLTestTag :: tags
    default :=
      if tags.any (contains · "§default§") then "§default§" else outboundURLTestTag }

def builtinOutbounds (opt : ConfigOptions) : List Outbound := [
  { tag := outboundDNSTag, type := .dns },
  { tag := outboundDirectTag, type := .direct },
  { tag := outboundDirectFragmentTag
    type := .direct
    directOptions := {
      tcpFastOpen := false
      tlsFragment := some {
        enabled := true
        size := opt.tlsTricks.fragmentSize
        sleep := opt.tlsTricks.fragmentSleep } } },
  { tag := outboundBypassTag, type := .direct },
  { tag := outboundBlockTag, type := .block }]

/-- The part of a remote DNS address behind its scheme, up to the next separator. -/
def afterScheme (address : String) : String :=
  if contains address "://" then (splitAfter address "://").getD 1 "" else address

/-- The domains that `addForceDirect` resolves directly. -/
def forceDirectDomains (opt : ConfigOptions) (directDNSDomains : List String) : List String :=
  match D.urlHost ("https://" ++ afterScheme opt.remoteDnsAddress) with
  | some host => if D.isIP host then directDNSDomains else addDomain directDNSDomains host
  | none => directDNSDomains

/-- The rule that `addForceDirect` prepends, for the keys in the order of the iteration. -/
def forceDirectRule (keys : List String) : DefaultDNSRule :=
  let directRule : Rule := { domains := join keys ',', outbound := outboundBypassTag }
  { directRule.makeDNSRule D with server := dnsDirectTag }

def addForceDirect (order : MapOrder) (opt : ConfigOptions) (directDNSDomains : List String)
    (options : Options) : Options :=
  let domains := forceDirectDomains D opt directDNSDomains
  if domains ≠ [] then
    modifyDNS (fun dns => { dns with
      rules := forceDirectRule D (order.toFun domains) :: dns.rules }) options
  else
    options

/-- The end of `setOutbounds`, once the loop has collected the outbounds behind `warp`. -/
def assembleOutbounds (order : MapOrder) (opt : ConfigOptions) (warp : List Outbound)
    (acc : Collected) (options : Options) : Options :=
  let options := modifyDNS (fun dns => { dns with staticIPs := acc.staticIPs }) options
  let options := { options with
    outbounds := [selectorOutbound acc.tags, urlTestOutbound opt acc.tags] ++ warp ++
      acc.outbounds ++ builtinOutbounds opt }
  addForceDirect D order opt acc.directDNSDomains options

/-- The generated WARP outbound, if there is one. `OutboundMainProxyTag` is set between the
generation and the patch. -/
def addWarp (draws : Draws) (opt : ConfigOptions) : Go Globals (Except String (List Outbound)) :=
  if generatesWarp opt then do
    match ← Go.call (warpOutbound D opt) with
    | .error e => pure (.error e)
    | .ok out =>
      Go.modify fun g =>
        if opt.warp.mode = "warp_over_proxy" then g.setMainProxyTag out.tag else g
      match ← Go.call (patchWarpOutbound D draws opt out) with
      | .error e => pure (.error e)
      | .ok out => pure (.ok [out])
  else
    pure (.ok [])

def staticIPsOf (options : Options) : List StaticIP := (options.dns.getD {}).staticIPs

def setOutbounds (env : BuildEnv) (input : List Outbound) (opt : ConfigOptions)
    (options : Options) : Go Globals (Except String Options) := do
  Go.modify (Globals.setMainProxyTag outboundSelectTag)
  let opt := scanWarp input opt
  match ← addWarp D env.warp opt with
  | .error e => pure (.error e)
  | .ok warp =>
    match ← Go.call
      (collect D opt env.outbound input 0 { staticIPs := staticIPsOf options }) with
    | .error e => pure (.error e)
    | .ok acc => pure (.ok (assembleOutbounds D env.keyOrder opt warp acc options))

/-- `BuildConfig`. The full configuration keeps the input's inbounds; its DNS and route are
overwritten by later passes. -/
def buildConfig (env : BuildEnv) (opt : ConfigOptions) (input : Options) :
    Go Globals (Except String Options) := do
  let options : Options :=
    if opt.enableFullConfig then
      { inbounds := input.inbounds, dns := input.dns, route := input.route }
    else {}
  let opt := withSecret env opt
  let options := setLog opt (setClashAPI opt options)
  Go.modify (commandTunnel opt)
  let options := setDns env opt (setInbound opt options)
  let options := setRoutingOptions D (← Go.get).outboundMainProxyTag opt options
  setOutbounds D env input.outbounds opt (setFakeDns opt options)

end Outbounds

end HiddifyCore.Config
