import HiddifyCore.GoLib.JsonEncode
import HiddifyCore.Warp.Account

/-!
# WARP identities

The records of `pkg/warp/api.go` with all their fields, and `CreateIdentityOnly` over them. What
`Warp.Account` reads of an identity is a part of it (`Identity.read`), and the two registrations
are one (`createIdentityOnly_read`).
-/

namespace HiddifyCore.Warp.Api

open GoLib GoLib.JsonDecode

/-! ### The records -/

structure IdentityAccount where
  created : String := ""
  updated : String := ""
  license : String := ""
  premiumData : Int64 := 0
  warpPlus : Bool := false
  accountType : String := ""
  referralRenewalCountdown : Int64 := 0
  role : String := ""
  id : String := ""
  quota : Int64 := 0
  usage : Int64 := 0
  referralCount : Int64 := 0
  ttl : String := ""
  deriving DecidableEq

structure IdentityConfigPeerEndpoint where
  v4 : String := ""
  v6 : String := ""
  host : String := ""
  /-- A slice that may be nil. -/
  ports : Option (List UInt16) := none
  deriving DecidableEq

structure IdentityConfigPeer where
  publicKey : String := ""
  endpoint : IdentityConfigPeerEndpoint := {}
  deriving DecidableEq

structure IdentityConfigInterfaceAddresses where
  v4 : String := ""
  v6 : String := ""
  deriving DecidableEq

structure IdentityConfigInterface where
  addresses : IdentityConfigInterfaceAddresses := {}
  deriving DecidableEq

structure IdentityConfigServices where
  httpProxy : String := ""
  deriving DecidableEq

structure IdentityConfig where
  /-- A slice that may be nil. -/
  peers : Option (List IdentityConfigPeer) := none
  interface : IdentityConfigInterface := {}
  services : IdentityConfigServices := {}
  clientID : String := ""
  deriving DecidableEq

structure Identity where
  privateKey : String := ""
  key : String := ""
  account : IdentityAccount := {}
  place : Int64 := 0
  fcmToken : String := ""
  name : String := ""
  tos : String := ""
  locale : String := ""
  installID : String := ""
  warpEnabled : Bool := false
  type : String := ""
  model : String := ""
  config : IdentityConfig := {}
  token : String := ""
  enabled : Bool := false
  id : String := ""
  created : String := ""
  updated : String := ""
  waitlistEnabled : Bool := false
  deriving DecidableEq

/-! ### Their JSON -/

def accountMembers : List (Member IdentityAccount) := [
  .of "created" (·.created) (fun v a => { a with created := v }) .string,
  .of "updated" (·.updated) (fun v a => { a with updated := v }) .string,
  .of "license" (·.license) (fun v a => { a with license := v }) .string,
  .of "premium_data" (·.premiumData) (fun v a => { a with premiumData := v }) .int64,
  .of "warp_plus" (·.warpPlus) (fun v a => { a with warpPlus := v }) .bool,
  .of "account_type" (·.accountType) (fun v a => { a with accountType := v }) .string,
  .of "referral_renewal_countdown" (·.referralRenewalCountdown)
    (fun v a => { a with referralRenewalCountdown := v }) .int64,
  .of "role" (·.role) (fun v a => { a with role := v }) .string,
  .of "id" (·.id) (fun v a => { a with id := v }) .string,
  .of "quota" (·.quota) (fun v a => { a with quota := v }) .int64,
  .of "usage" (·.usage) (fun v a => { a with usage := v }) .int64,
  .of "referral_count" (·.referralCount) (fun v a => { a with referralCount := v }) .int64,
  .of "ttl" (·.ttl) (fun v a => { a with ttl := v }) .string]

def accountCodec : Codec IdentityAccount :=
  .struct accountMembers (by decide) fun a s => by
    cases a
    cases s
    rfl

def portCodec : Codec UInt16 :=
  .uint (2 ^ 16) UInt16.toNat UInt16.ofNat (fun _ => UInt16.ofNat_toNat) UInt16.toNat_lt

def endpointMembers : List (Member IdentityConfigPeerEndpoint) := [
  .of "v4" (·.v4) (fun v e => { e with v4 := v }) .string,
  .of "v6" (·.v6) (fun v e => { e with v6 := v }) .string,
  .of "host" (·.host) (fun v e => { e with host := v }) .string,
  .of "ports" (·.ports) (fun v e => { e with ports := v }) (.nilSlice 0 portCodec)]

def endpointCodec : Codec IdentityConfigPeerEndpoint :=
  .struct endpointMembers (by decide) fun _ _ => rfl

def peerMembers : List (Member IdentityConfigPeer) := [
  .of "public_key" (·.publicKey) (fun v p => { p with publicKey := v }) .string,
  .of "endpoint" (·.endpoint) (fun v p => { p with endpoint := v }) endpointCodec]

def peerCodec : Codec IdentityConfigPeer := .struct peerMembers (by decide) fun _ _ => rfl

def addressesMembers : List (Member IdentityConfigInterfaceAddresses) := [
  .of "v4" (·.v4) (fun v a => { a with v4 := v }) .string,
  .of "v6" (·.v6) (fun v a => { a with v6 := v }) .string]

def addressesCodec : Codec IdentityConfigInterfaceAddresses :=
  .struct addressesMembers (by decide) fun _ _ => rfl

def interfaceMembers : List (Member IdentityConfigInterface) := [
  .of "addresses" (·.addresses) (fun v i => { i with addresses := v }) addressesCodec]

def interfaceCodec : Codec IdentityConfigInterface :=
  .struct interfaceMembers (by decide) fun _ _ => rfl

def servicesMembers : List (Member IdentityConfigServices) := [
  .of "http_proxy" (·.httpProxy) (fun v s => { s with httpProxy := v }) .string]

def servicesCodec : Codec IdentityConfigServices :=
  .struct servicesMembers (by decide) fun _ _ => rfl

def configMembers : List (Member IdentityConfig) := [
  .of "peers" (·.peers) (fun v c => { c with peers := v }) (.nilSlice {} peerCodec),
  .of "interface" (·.interface) (fun v c => { c with interface := v }) interfaceCodec,
  .of "services" (·.services) (fun v c => { c with services := v }) servicesCodec,
  .of "client_id" (·.clientID) (fun v c => { c with clientID := v }) .string]

def configCodec : Codec IdentityConfig := .struct configMembers (by decide) fun _ _ => rfl

def identityMembers : List (Member Identity) := [
  .of "private_key" (·.privateKey) (fun v i => { i with privateKey := v }) .string,
  .of "key" (·.key) (fun v i => { i with key := v }) .string,
  .of "account" (·.account) (fun v i => { i with account := v }) accountCodec,
  .of "place" (·.place) (fun v i => { i with place := v }) .int64,
  .of "fcm_token" (·.fcmToken) (fun v i => { i with fcmToken := v }) .string,
  .of "name" (·.name) (fun v i => { i with name := v }) .string,
  .of "tos" (·.tos) (fun v i => { i with tos := v }) .string,
  .of "locale" (·.locale) (fun v i => { i with locale := v }) .string,
  .of "install_id" (·.installID) (fun v i => { i with installID := v }) .string,
  .of "warp_enabled" (·.warpEnabled) (fun v i => { i with warpEnabled := v }) .bool,
  .of "type" (·.type) (fun v i => { i with type := v }) .string,
  .of "model" (·.model) (fun v i => { i with model := v }) .string,
  .of "config" (·.config) (fun v i => { i with config := v }) configCodec,
  .of "token" (·.token) (fun v i => { i with token := v }) .string,
  .of "enabled" (·.enabled) (fun v i => { i with enabled := v }) .bool,
  .of "id" (·.id) (fun v i => { i with id := v }) .string,
  .of "created" (·.created) (fun v i => { i with created := v }) .string,
  .of "updated" (·.updated) (fun v i => { i with updated := v }) .string,
  .of "waitlist_enabled" (·.waitlistEnabled) (fun v i => { i with waitlistEnabled := v }) .bool]

def identityCodec : Codec Identity :=
  .struct identityMembers (by decide) fun a s => by
    cases a
    cases s
    rfl

/-! ### Registration -/

/-- What the random source and the service answer to one call of `CreateIdentityOnly`. -/
structure Answers where
  privateKey : Except String (String × String)
  register : String → Except String Identity
  update : String → String → String → Except String IdentityAccount
  /-- The device that is registered for a public key although the answer is an error. -/
  lostRegister : String → Option String := fun _ => none

def register (a : Answers) (publicKey : String) : Go Devices (Except String Identity) := do
  match a.register publicKey with
  | .error e =>
    Go.modify (addDevice (a.lostRegister publicKey))
    pure (.error e)
  | .ok i =>
    Go.modify fun devices => insert i.id devices
    pure (.ok i)

def updateAccount (a : Answers) (authToken deviceID license : String) :
    Go Devices (Except String IdentityAccount) :=
  pure (a.update authToken deviceID license)

def createIdentityOnly (a : Answers) (license : String) : Go Devices (Except String Identity) := do
  match a.privateKey with
  | .error e => pure (.error e)
  | .ok (privateKey, publicKey) =>
    match ← register a publicKey with
    | .error e => pure (.error e)
    | .ok i =>
      if license ≠ "" then
        match ← updateAccount a i.token i.id license with
        | .error e => pure (.error e)
        | .ok ac => pure (.ok { i with account := ac, privateKey := privateKey })
      else
        pure (.ok { i with privateKey := privateKey })

/-! ### What is read of an identity -/

def IdentityAccount.read (ac : IdentityAccount) : Warp.IdentityAccount where
  warpPlus := ac.warpPlus
  accountType := ac.accountType

def IdentityConfigPeer.read (p : IdentityConfigPeer) : Warp.IdentityConfigPeer where
  publicKey := p.publicKey

/-- `len` and the index make no difference between a nil slice and an empty one. -/
def IdentityConfig.read (c : IdentityConfig) : Warp.IdentityConfig where
  peers := (c.peers.getD []).map IdentityConfigPeer.read
  interfaceAddresses := { v4 := c.interface.addresses.v4, v6 := c.interface.addresses.v6 }
  clientID := c.clientID

def Identity.read (i : Identity) : Warp.Identity where
  privateKey := i.privateKey
  account := i.account.read
  config := i.config.read
  token := i.token
  id := i.id

/-- The same answers, of which less is read; nothing is deleted. -/
def Answers.read (a : Answers) : Warp.Answers where
  privateKey := a.privateKey
  delete _ _ := .error ""
  register publicKey := (a.register publicKey).map Identity.read
  update authToken deviceID license := (a.update authToken deviceID license).map (·.read)
  lostRegister := a.lostRegister

/-- The reading of what is registered is registered by the readings. -/
lemma createIdentityOnly_read (a : Answers) (license : String) (devices : Devices) :
    Warp.createIdentityOnly a.read license devices =
      match createIdentityOnly a license devices with
      | (.ret r, devices') => (.ret (r.map Identity.read), devices')
      | (.panic msg, devices') => (.panic msg, devices') := by
  simp only [Warp.createIdentityOnly, createIdentityOnly, Answers.read]
  cases a.privateKey with
  | error e => rfl
  | ok pair =>
    simp only [Go.bind_run, Warp.register, register]
    cases hregister : a.register pair.2 with
    | error e => rfl
    | ok i =>
      by_cases hlicense : license = ""
      · subst hlicense
        rfl
      simp only [Except.map, Go.bind_run, Go.modify, Go.pure_run, hlicense, ne_eq,
        not_false_eq_true, if_true, Warp.updateAccount, updateAccount]
      have htoken : i.read.token = i.token := rfl
      have hid : i.read.id = i.id := rfl
      rw [htoken, hid]
      cases a.update i.token i.id license <;> rfl

end HiddifyCore.Warp.Api
