import HiddifyCore.GoLib.Text
import HiddifyCore.Config.Deps

/-!
# WARP outbounds

`wireGuardToSingbox`, `GenerateWarpSingbox` and `patchWarp` of `config/warp.go`, with
`isBlockedDomain` and `generateRandomString` of `config/config.go` that they call. The
`StaticIPs` map is not passed down: `patchWarp` returns the entries that it writes.
-/

namespace HiddifyCore.Config

open GoLib GoLib.Strings Singbox

variable (D : Deps)

def isBlockedDomain (lookupHost : String → Option (List String)) (domain : String) : Bool :=
  -- the arguments of `HasPrefix` are in this order in the source
  if hasPrefix "full:" domain then
    false
  else
    match lookupHost domain with
    | none => true
    | some ips => ips.any fun ip => hasPrefix ip "10."

def generateRandomString (random : Option (Nat → UInt8)) (length : Nat) : String :=
  let bytesNeeded := (length * 6 + 7) / 8
  match random with
  | none => "hiddify"
  | some bytes => String.ofList ((base64URL ((List.range bytesNeeded).map bytes)).take length)

/-- The addresses that are written without an own prefix length. -/
def parsePrefixes : List String → Outcome (List Prefix)
  | [] => .ok []
  | addr :: rest => do
    let p ← D.parsePrefix addr
    let ps ← parsePrefixes rest
    .ok (p :: ps)

/-- The three reserved bytes. A client id of two bytes is long enough for the check and too short
for the index. -/
def reservedBytes (clientID : List UInt8) : Outcome (List UInt8) :=
  match clientID with
  | [] | [_] => .ok [0, 0, 0]
  | [_, _] => .panic "index out of range [2] with length 2"
  | a :: b :: c :: _ => .ok [a, b, c]

def wireGuardToSingbox (wgConfig : WarpWireguardConfig) (server : String) (port : UInt16) :
    Outcome Outbound := do
  let reserved ← reservedBytes (D.decodeBase64 wgConfig.clientID)
  let ips := [wgConfig.localAddressIPv4 ++ "/24", wgConfig.localAddressIPv6 ++ "/128"]
  let localAddress ← parsePrefixes D (ips.filter (· ≠ ""))
  .ok {
    type := .wireguard
    tag := "WARP"
    wireGuardOptions := {
      server := server
      serverPort := port
      privateKey := wgConfig.privateKey
      peerPublicKey := wgConfig.peerPublicKey
      reserved := reserved
      mtu := 1330
      localAddress := localAddress } }

/-- The fake packet settings of a WARP outbound. -/
structure FakePackets where
  packets : String := ""
  size : String := ""
  delay : String := ""
  mode : String := ""
  deriving DecidableEq, Repr

def generateWarpSingbox (wgConfig : WarpWireguardConfig) (host : String) (port : UInt16)
    (fake : FakePackets) : Outcome Outbound := do
  let host := if host = "" then "auto4" else host
  let packets := if (host = "auto" ∨ host = "auto4" ∨ host = "auto6") ∧ fake.packets = "" then "1-3"
    else fake.packets
  let size := if packets ≠ "" ∧ fake.size = "" then "10-30" else fake.size
  let delay := if packets ≠ "" ∧ fake.delay = "" then "10-30" else fake.delay
  let out ← wireGuardToSingbox D wgConfig host port
  .ok { out with
    wireGuardOptions := { out.wireGuardOptions with
      fakePackets := packets
      fakePacketsSize := size
      fakePacketsDelay := delay
      fakePacketsMode := fake.mode } }

def generateWarp (draws : Draws) (license host : String) (port : UInt16) (fake : FakePackets) :
    Outcome Outbound := do
  let wgConfig ← draws.generateWarpInfo license
  generateWarpSingbox D wgConfig host port fake

/-- `base.CustomOptions["warp"]` of a custom outbound, when it is an object. -/
def warpObject (base : Outbound) : Option JObj :=
  if base.type = .custom then (base.customOptions.get? "warp").bind Json.asObject? else none

def warpFake (warp : JObj) : FakePackets where
  packets := warp.getString "fake_packets"
  size := warp.getString "fake_packets_size"
  delay := warp.getString "fake_packets_delay"
  mode := warp.getString "fake_packets_mode"

/-- The generated outbound of a custom WARP outbound. The assertion `warp["port"].(uint16)` fails
on every decoded number, so the port is zero. -/
def customWarpConfig (draws : Draws) (configOpt : Option ConfigOptions) (warp : JObj) :
    Outcome (Option Outbound) :=
  let key := warp.getString "key"
  let host := warp.getString "host"
  match configOpt with
  | none =>
    if key = "p1" ∨ key = "p2" then .ok none
    else some <$> generateWarp D draws key host 0 (warpFake warp)
  | some opt =>
    if key = "p1" then
      some <$> generateWarpSingbox D opt.warp.wireguardConfig host 0 (warpFake warp)
    else if key = "p2" then
      some <$> generateWarpSingbox D opt.warp2.wireguardConfig host 0 (warpFake warp)
    else
      some <$> generateWarp D draws key host 0 (warpFake warp)

/-- An entry `staticIpsDns[name] = ips`. -/
abbrev StaticIP := String × List String

/-- The server of a WireGuard outbound that names no address, and the entry for it. -/
def placeholderServer (draws : Draws) (host detour : String) : String × List StaticIP :=
  if detour ≠ "" then
    ("162.159.192.1", [])
  else
    let rndDomain := D.toLower (generateRandomString draws.random 20)
    let ips6 := if host ≠ "auto4" then [draws.endpoint6] else []
    let ips4 := if host ≠ "auto6" then [draws.endpoint4] else []
    (rndDomain, [(rndDomain, ips6 ++ ips4)])

def isPlaceholder (draws : Draws) (host : String) : Bool :=
  host = "default" || host = "random" || host = "auto" || host = "auto4" || host = "auto6" ||
    isBlockedDomain draws.lookupHost host

/-- The part of `patchWarp` for `final` on a WireGuard outbound. -/
def finishWireGuard (draws : Draws) (wg : WireGuardOutboundOptions) :
    WireGuardOutboundOptions × List StaticIP :=
  let (server, writes) :=
    if isPlaceholder draws wg.server then placeholderServer D draws wg.server wg.detour
    else (wg.server, [])
  let wg := { wg with
    server := server
    serverPort := if wg.serverPort = 0 then draws.port else wg.serverPort }
  if wg.detour ≠ "" then
    ({ wg with
        mtu := if wg.mtu > 1000 then wg.mtu - 50 else wg.mtu
        fakePackets := ""
        fakePacketsDelay := ""
        fakePacketsSize := "" }, writes)
  else
    (wg, writes)

/-- `patchWarp` once the custom options are resolved. -/
def finishWarp (draws : Draws) (base : Outbound) (final : Bool) : Outbound × List StaticIP :=
  if final ∧ base.type = .wireguard then
    let (wg, writes) := finishWireGuard D draws base.wireGuardOptions
    ({ base with wireGuardOptions := wg }, writes)
  else
    (base, [])

/-- A custom outbound becomes a WireGuard outbound with the options of the generated one. -/
def resolveWarp (base : Outbound) (warpConfig : Outbound) (detour : String) : Outbound :=
  { base with
    type := .wireguard
    wireGuardOptions := { warpConfig.wireGuardOptions with detour := detour } }

def patchWarp (draws : Draws) (base : Outbound) (configOpt : Option ConfigOptions) (final : Bool) :
    Outcome (Outbound × List StaticIP) :=
  match warpObject base with
  | none => .ok (finishWarp D draws base final)
  | some warp => do
    match ← customWarpConfig D draws configOpt warp with
    | none => .ok (base, [])
    | some warpConfig =>
      .ok (finishWarp D draws (resolveWarp base warpConfig (warp.getString "detour")) final)

end HiddifyCore.Config
