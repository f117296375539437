import HiddifyCore.Config.Warp

/-!
# Patching one outbound

`patchOutbound` of `config/outbound.go`: the outbound is marshalled to an object, the object is
edited, and the result is read back.
-/

namespace HiddifyCore.Config

open GoLib GoLib.Strings Singbox

variable (D : Deps)

def patchOutboundMux (opt : ConfigOptions) (obj : JObj) : JObj :=
  if opt.mux.enable then
    obj.set "multiplex" (D.encodeMultiplex {
      enabled := true
      padding := opt.mux.padding
      maxStreams := opt.mux.maxStreams
      protocol := opt.mux.protocol })
  else
    obj

def patchOutboundFragment (opt : ConfigOptions) (obj : JObj) : JObj :=
  if opt.tlsTricks.enableFragment then
    (obj.set "tcp_fast_open" (.bool false)).set "tls_fragment" (D.encodeTLSFragment {
      enabled := opt.tlsTricks.enableFragment
      size := opt.tlsTricks.fragmentSize
      sleep := opt.tlsTricks.fragmentSleep })
  else
    obj

/-- Reality is looked for in vless outbounds only. -/
def isOutboundReality (base : Outbound) : Bool :=
  base.type = .vless &&
    match base.vlessOptions.tls with
    | none => false
    | some tls => tls.reality.getD false

/-- `obj["xray_fragment"] == nil || obj["xray_fragment"].(map[string]any)["packets"] == ""`. The
type assertion panics on a value that is not an object. -/
def lacksXrayFragment (obj : JObj) : Outcome Bool :=
  match obj.get? "xray_fragment" with
  | none | some .null => .ok true
  | some (.obj fragment) =>
    .ok (((JObj.get? fragment "packets").bind Json.asString?) == some "")
  | some _ => .panic "interface conversion: interface {} is not map[string]interface {}"

def patchXrayFragment (base : Outbound) (opt : ConfigOptions) (obj : JObj) : Outcome JObj :=
  if base.type = .xray ∧ opt.tlsTricks.enableFragment then do
    if ← lacksXrayFragment obj then
      .ok (obj.set "xray_fragment" (.obj [
        ("packets", .str "tlshello"),
        ("length", .str opt.tlsTricks.fragmentSize),
        ("interval", .str opt.tlsTricks.fragmentSleep)]))
    else
      .ok obj
  else
    .ok obj

/-- The TLS record and the transport that the TLS tricks look at. -/
def trickedTLS (base : Outbound) : Option (OutboundTLSOptions × Option V2RayTransportType) :=
  match base.vlessOptions.tls, base.trojanOptions.tls, base.vmessOptions.tls with
  | some tls, _, _ => some (tls, base.vlessOptions.transport)
  | none, some tls, _ => some (tls, base.trojanOptions.transport)
  | none, none, some tls => some (tls, base.vmessOptions.transport)
  | none, none, none => none

/-- What `tlsTricks` points to after the edits. The pointer is `tls.TLSTricks` unless that is nil,
so they are made in the record of the input outbound, where later calls find them. -/
def patchTLSTricks (opt : ConfigOptions) (tlsTricks : TLSTricksOptions) : TLSTricksOptions :=
  let tlsTricks := { tlsTricks with
    mixedCaseSNI := tlsTricks.mixedCaseSNI || opt.tlsTricks.mixedSNICase }
  if opt.tlsTricks.enablePadding then
    { tlsTricks with paddingMode := "random", paddingSize := opt.tlsTricks.paddingSize }
  else
    tlsTricks

def patchTLSObject (tls : OutboundTLSOptions) (opt : ConfigOptions) (outtls : JObj) : JObj :=
  let tlsTricks := patchTLSTricks opt (tls.tlsTricks.getD {})
  let outtls :=
    if opt.tlsTricks.enablePadding then
      outtls.set "utls" (.obj [("enabled", .bool true), ("fingerprint", .str "custom")])
    else
      outtls
  outtls.set "tls_tricks" (D.encodeTLSTricks tlsTricks)

/-- `patchOutboundTLSTricks` behind the fragment of xray outbounds. -/
def patchTransport (base : Outbound) (opt : ConfigOptions) (obj : JObj) : JObj :=
  if base.type = .direct then
    patchOutboundFragment D opt obj
  else
    match trickedTLS base with
    | some (tls, some transport) =>
      if !tls.enabled then
        obj
      else if transport ≠ .websocket ∧ transport ≠ .grpc ∧ transport ≠ .httpUpgrade then
        obj
      else
        match (obj.get? "tls").bind Json.asObject? with
        | some outtls =>
          (patchOutboundFragment D opt obj).set "tls" (.obj (patchTLSObject D tls opt outtls))
        | none => obj
    | _ => obj

def patchOutboundTLSTricks (base : Outbound) (opt : ConfigOptions) (obj : JObj) : Outcome JObj :=
  if base.type = .selector ∨ base.type = .urltest ∨ base.type = .block ∨ base.type = .dns then
    .ok obj
  else if isOutboundReality base then
    .ok obj
  else do
    let obj ← patchXrayFragment base opt obj
    .ok (patchTransport D base opt obj)

/-- `"full:" + server` when the server is a name. -/
def serverDomain (obj : JObj) : String :=
  match (obj.get? "server").bind Json.asString? with
  | some server => if server ≠ "" ∧ ¬ D.isIP server then "full:" ++ server else ""
  | none => ""

/-- What `patchOutbound` returns, with the entries that it writes to `StaticIPs`. -/
structure Patched where
  outbound : Outbound
  serverDomain : String
  staticIPs : List StaticIP

def formatErr (base : Outbound) (err : String) : String :=
  "error patching outbound[" ++ base.tag ++ "][" ++ base.type.name ++ "]: " ++ err

def patchOutbound (draws : Draws) (base : Outbound) (opt : ConfigOptions) : Outcome Patched := do
  let (base, writes) ← (patchWarp D draws base (some opt) true).mapErr (formatErr base)
  let obj ← (D.marshalOutbound base).mapErr (formatErr base)
  let domain := serverDomain D obj
  let obj ← patchOutboundTLSTricks D base opt obj
  let obj :=
    if base.type = .vmess ∨ base.type = .vless ∨ base.type = .trojan ∨ base.type = .shadowsocks then
      patchOutboundMux D opt obj
    else
      obj
  let outbound ← (D.unmarshalOutbound obj).mapErr (formatErr base)
  .ok { outbound := outbound, serverDomain := domain, staticIPs := writes }

end HiddifyCore.Config
