import HiddifyCore.GoLib.JsonEncode
import HiddifyCore.V2.Loaders
import HiddifyCore.Warp.Account

/-!
# Exported WARP accounts

`GenerateWarpAccount` of `config/warp_account.go` and `GenerateWarpConfig` of `v2/warp.go` hand out
what `GenerateWarpInfo` registered. The `config` object of the exported text is what the options
take back as `wireguard-config`: whoever gives it back builds the outbound of that registration.
-/

namespace HiddifyCore.Warp

open GoLib GoLib.JsonDecode Config Singbox

/-! ### The exports -/

/-- `config.WarpGenerationResponse`; the account is embedded. -/
structure WarpGenerationResponse where
  account : WarpAccount := {}
  log : String := ""
  config : WarpWireguardConfig := {}
  deriving DecidableEq, Repr

def wireguardConfigMembers : List (Member WarpWireguardConfig) := [
  .of "private-key" (·.privateKey) (fun v w => { w with privateKey := v }) .string,
  .of "local-address-ipv4" (·.localAddressIPv4) (fun v w => { w with localAddressIPv4 := v })
    .string,
  .of "local-address-ipv6" (·.localAddressIPv6) (fun v w => { w with localAddressIPv6 := v })
    .string,
  .of "peer-public-key" (·.peerPublicKey) (fun v w => { w with peerPublicKey := v }) .string,
  .of "client-id" (·.clientID) (fun v w => { w with clientID := v }) .string]

def wireguardConfigCodec : Codec WarpWireguardConfig :=
  .struct wireguardConfigMembers (by decide) fun _ _ => rfl

def responseMembers : List (Member WarpGenerationResponse) := [
  .of "account-id" (·.account.accountID)
    (fun v r => { r with account := { r.account with accountID := v } }) .string,
  .of "access-token" (·.account.accessToken)
    (fun v r => { r with account := { r.account with accessToken := v } }) .string,
  .of "log" (·.log) (fun v r => { r with log := v }) .string,
  .of "config" (·.config) (fun v r => { r with config := v }) wireguardConfigCodec]

def responseCodec : Codec WarpGenerationResponse :=
  .struct responseMembers (by decide) fun _ _ => rfl

def generateWarpAccount (a : Answers) (licenseKey accountId accessToken : String) :
    Go Devices (Except String String) := do
  let info ← generateWarpInfo a licenseKey accountId accessToken
  match info.err with
  | some e => pure (.error e)
  | none =>
    let warpAccount : WarpAccount :=
      { accountID := info.identity.id, accessToken := info.identity.token }
    let warpConfig : WarpWireguardConfig := {
      privateKey := info.config.privateKey
      localAddressIPv4 := info.config.localAddressIPv4
      localAddressIPv6 := info.config.localAddressIPv6
      peerPublicKey := info.config.peerPublicKey
      clientID := info.config.clientID }
    pure (.ok (responseCodec.marshal ⟨warpAccount, info.res, warpConfig⟩))

/-- `pb.WarpGenerationResponse`, of which neither part is nil in a reply. -/
structure GenerationReply where
  account : WarpAccount
  config : WarpWireguardConfig
  log : String
  deriving DecidableEq, Repr

def generateWarpConfig (a : Answers) (licenseKey accountId accessToken : String) :
    Go Devices (Except String GenerationReply) := do
  let info ← generateWarpInfo a licenseKey accountId accessToken
  match info.err with
  | some e => pure (.error e)
  | none =>
    pure (.ok {
      account := { accountID := info.identity.id, accessToken := info.identity.token }
      config := {
        privateKey := info.config.privateKey
        localAddressIPv4 := info.config.localAddressIPv4
        localAddressIPv6 := info.config.localAddressIPv6
        peerPublicKey := info.config.peerPublicKey
        clientID := info.config.clientID }
      log := info.res })

/-! ### Given back -/

/-- Whoever imports an export takes its `config` object and spells it in some way. -/
def IsConfigOf (configText text : String) : Prop :=
  ∃ v, (document text).bind (·.get? "config") = some v ∧ document configText = some v

section Imports

variable {a : Answers} {licenseKey accountId accessToken : String} {devices devices' : Devices}

lemma unmarshal_wireguardConfig {configText : String} {config : WarpWireguardConfig}
    (h : document configText = some (wireguardConfigCodec.encode config))
    (old : WarpWireguardConfig) : unmarshalWireguardConfig configText old = (config, none) := by
  rw [unmarshalWireguardConfig, unmarshal, h]
  exact wireguardConfigCodec.decode_encode config old

lemma document_config {r : WarpGenerationResponse} {configText : String}
    (h : IsConfigOf configText (responseCodec.marshal r)) :
    document configText = some (wireguardConfigCodec.encode r.config) := by
  obtain ⟨v, hv, hdocument⟩ := h
  have hget : (responseCodec.encode r).get? "config" =
      some (wireguardConfigCodec.encode r.config) := rfl
  rw [responseCodec.document_marshal (by decide), Option.bind_some, hget] at hv
  rwa [hv]

/-- An empty text is no document, so the imported text is decoded. -/
lemma nestedDecoded_imported {w : WarpOptions} {config decoded : WarpWireguardConfig}
    (h : document w.wireguardConfigStr = some (wireguardConfigCodec.encode config))
    (hdecoded : NestedDecoded w decoded) : decoded = config := by
  have hne : w.wireguardConfigStr ≠ "" := by
    intro hempty
    rw [hempty] at h
    have hnone : document "" = none := by decide
    rw [hnone] at h
    cases h
  rw [NestedDecoded, if_neg hne, unmarshal_wireguardConfig h] at hdecoded
  cases hdecoded
  rfl

/-- The text of the options that a key reads. -/
def configTextOf (opt : ConfigOptions) (key : String) : String :=
  if key = "p1" then opt.warp.wireguardConfigStr else opt.warp2.wireguardConfigStr

lemma identityOf_imported {domainStrategy : JsonText.Value → Option DomainStrategy}
    {json key : String} {opt : ConfigOptions} {config : WarpWireguardConfig}
    (hopt : FullyDecoded domainStrategy json opt)
    (h : document (configTextOf opt key) = some (wireguardConfigCodec.encode config)) :
    identityOf opt key = config := by
  obtain ⟨decoded, config1, config2, -, h1, h2, rfl⟩ := hopt
  rw [configTextOf] at h
  rw [identityOf]
  split_ifs at h ⊢
  · exact nestedDecoded_imported (w := decoded.warp) h h1
  · exact nestedDecoded_imported (w := decoded.warp2) h h2

/-- What `GenerateWarpConfig` replies with. -/
def replyOf (info : WarpInfo) : GenerationReply where
  account := { accountID := info.identity.id, accessToken := info.identity.token }
  config := info.config
  log := info.res

/-- Both exports are functions of the same registration. -/
lemma exports_of_info {info : WarpInfo}
    (h : generateWarpInfo a licenseKey accountId accessToken devices = (.ret info, devices'))
    (herr : info.err = none) :
    generateWarpAccount a licenseKey accountId accessToken devices =
        (.ret (.ok (responseCodec.marshal
          ⟨(replyOf info).account, (replyOf info).log, (replyOf info).config⟩)), devices') ∧
      generateWarpConfig a licenseKey accountId accessToken devices =
        (.ret (.ok (replyOf info)), devices') := by
  constructor
  · simp only [generateWarpAccount, Go.bind_run, h, herr]
    rfl
  · simp only [generateWarpConfig, Go.bind_run, h, herr]
    rfl

lemma info_of_account {text : String}
    (h : generateWarpAccount a licenseKey accountId accessToken devices =
      (.ret (.ok text), devices')) :
    ∃ info, generateWarpInfo a licenseKey accountId accessToken devices = (.ret info, devices') ∧
      info.err = none ∧ text = responseCodec.marshal
        ⟨(replyOf info).account, (replyOf info).log, (replyOf info).config⟩ := by
  simp only [generateWarpAccount, Go.bind_run] at h
  rcases hinfo : generateWarpInfo a licenseKey accountId accessToken devices with
    ⟨info | msg, after⟩
  · rw [hinfo] at h
    rcases herr : info.err with _ | e
    · simp only [herr] at h
      cases h
      exact ⟨info, rfl, herr, rfl⟩
    · simp only [herr] at h
      cases h
  · rw [hinfo] at h
    cases h

/-- A success names a device that is registered now. -/
lemma registered_of_info {info : WarpInfo}
    (h : generateWarpInfo a licenseKey accountId accessToken devices = (.ret info, devices'))
    (herr : info.err = none) : info.identity.id ∈ devices' := by
  obtain ⟨r, created, hcases, hrun⟩ :=
    generateWarpInfo_cases a licenseKey accountId accessToken devices
  rw [hrun] at h
  cases hcases with
  | unregistered e hnone =>
    cases h
    cases herr
  | unlicensed hregisters hac =>
    cases h
    cases herr
  | @created k i ac hregisters hac =>
    cases hpeers : i.config.peers with
    | nil =>
      rw [warpInfoOf_no_peer (by exact hpeers)] at h
      cases h
    | cons peer rest =>
      rw [warpInfoOf_peer (by exact hpeers)] at h
      cases h
      exact Finset.mem_insert_self _ _

/-- An exported account reads back as the reply of `GenerateWarpConfig`, and options that hold its
`config` object build the outbound that the registration itself would build. -/
theorem generateWarpAccount_imported {text : String}
    (h : generateWarpAccount a licenseKey accountId accessToken devices =
      (.ret (.ok text), devices')) :
    ∃ reply, generateWarpConfig a licenseKey accountId accessToken devices =
        (.ret (.ok reply), devices') ∧
      reply.account.accountID ∈ devices' ∧
      (∀ old, unmarshal responseCodec.decode text old =
        (⟨reply.account, reply.log, reply.config⟩, none)) ∧
      ∀ (D : Deps) (draws : Draws) (domainStrategy : JsonText.Value → Option DomainStrategy)
        (json : String) (opt : ConfigOptions) (warp : JObj),
        FullyDecoded domainStrategy json opt →
        warp.getString "key" ∈ ["p1", "p2"] →
        IsConfigOf (configTextOf opt (warp.getString "key")) text →
        customWarpConfig D draws (some opt) warp =
          some <$> registeredOutbound D a licenseKey accountId accessToken devices
            (warp.getString "host") 0 (warpFake warp) := by
  obtain ⟨info, hinfo, herr, rfl⟩ := info_of_account h
  refine ⟨replyOf info, (exports_of_info hinfo herr).2, registered_of_info hinfo herr,
    responseCodec.unmarshal_encode .compact (by decide) _, ?_⟩
  intro D draws domainStrategy json opt warp hopt hkey htext
  have hidentity : identityOf opt (warp.getString "key") = info.config :=
    identityOf_imported hopt (document_config htext)
  have hregistered : warpConfigOf
      (generateWarpInfo a licenseKey accountId accessToken devices).1 = .ok info.config := by
    simp only [hinfo, warpConfigOf, herr]
  rw [registeredOutbound, hregistered, Outcome.bind_ok, ← hidentity]
  rcases List.mem_pair.mp hkey with hp1 | hp2
  · simp [customWarpConfig, identityOf, hp1]
  · simp [customWarpConfig, identityOf, hp2]

end Imports

namespace Reference

def exportedConfig : WarpWireguardConfig where
  privateKey := "private"
  localAddressIPv4 := "172.16.0.2"
  localAddressIPv6 := "2606:4700:110:8a36::1"
  peerPublicKey := "peer"
  clientID := "AQID"

/-- Options that hold the exported configuration, with blanks that the export has not. -/
def importingOptions : ConfigOptions where
  warp := {
    wireguardConfigStr := JsonText.encode (.indented 2) (wireguardConfigCodec.encode exportedConfig)
    wireguardConfig := exportedConfig }

def importingJson : String :=
  JsonText.encode .compact (.obj [("warp", .obj [("wireguard-config",
    .str importingOptions.warp.wireguardConfigStr)])])

lemma importingOptions_fullyDecoded :
    FullyDecoded (fun _ => none) importingJson importingOptions :=
  decodeStages_eq_none.mp (by decide +kernel)

end Reference

theorem generateWarpAccount_imported_registering :
    customWarpConfig Config.Reference.decodingDeps {} (some Reference.importingOptions)
        Config.Reference.customWarpObject =
      some <$> registeredOutbound Config.Reference.decodingDeps (Reference.registering "AQID") ""
        "" "" ∅ "188.114.97.3" 0 (warpFake Config.Reference.customWarpObject) := by
  obtain ⟨reply, -, -, -, himported⟩ := @generateWarpAccount_imported
    (Reference.registering "AQID") "" "" "" ∅ _ _ rfl
  apply himported _ _ _ Reference.importingJson _ _ Reference.importingOptions_fullyDecoded
  · decide
  · refine ⟨wireguardConfigCodec.encode Reference.exportedConfig, ?_,
      wireguardConfigCodec.document_encode (.indented 2) (by decide) _⟩
    rw [responseCodec.document_marshal (by decide)]
    rfl

end HiddifyCore.Warp
