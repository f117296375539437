import Mathlib.Data.Finset.Basic
import HiddifyCore.Config.WarpRecord

/-!
# WARP registration

`CreateIdentityOnly` of `pkg/warp/account.go` and `GenerateWarpInfo` of `config/warp.go` over the
registration service, whose state is the set of the devices it knows. A request for which the
caller gets an error may have been carried out all the same: its answer can be lost, and `Register`
also fails when it cannot read or decode the answer to a registration that the service accepted.
-/

namespace HiddifyCore.Warp

open GoLib Config Singbox

/-! ### The identity -/

structure IdentityAccount where
  warpPlus : Bool := false
  accountType : String := ""
  deriving DecidableEq, Repr

structure IdentityConfigPeer where
  publicKey : String := ""
  deriving DecidableEq, Repr

structure IdentityConfigInterfaceAddresses where
  v4 : String := ""
  v6 : String := ""
  deriving DecidableEq, Repr

structure IdentityConfig where
  peers : List IdentityConfigPeer := []
  interfaceAddresses : IdentityConfigInterfaceAddresses := {}
  clientID : String := ""
  deriving DecidableEq, Repr

/-- The fields of a decoded registration that are read here. -/
structure Identity where
  privateKey : String := ""
  account : IdentityAccount := {}
  config : IdentityConfig := {}
  token : String := ""
  id : String := ""
  deriving DecidableEq, Repr

/-! ### The service -/

/-- The identifiers of the registered devices. -/
abbrev Devices := Finset String

/-- What the random source and the service answer to one call of `GenerateWarpInfo`. -/
structure Answers where
  /-- `GeneratePrivateKey`, as the texts of the private and of the public key. -/
  privateKey : Except String (String × String)
  /-- The answer to `DELETE` for a token and a device. -/
  delete : String → String → Except String Unit
  /-- The decoded answer to `POST` for a public key. -/
  register : String → Except String Identity
  /-- The decoded answer to `PUT` for a token, a device and a license. -/
  update : String → String → String → Except String IdentityAccount
  /-- Whether a device is deleted although the answer is an error. -/
  lostDelete : String → String → Bool := fun _ _ => false
  /-- The device that is registered for a public key although the answer is an error. -/
  lostRegister : String → Option String := fun _ => none

/-- The devices with another one, if there is one. -/
def addDevice (device : Option String) (devices : Devices) : Devices :=
  match device with
  | some deviceID => insert deviceID devices
  | none => devices

lemma subset_addDevice (device : Option String) (devices : Devices) :
    devices ⊆ addDevice device devices := by
  cases device with
  | none => exact subset_rfl
  | some deviceID => exact Finset.subset_insert _ _

def deleteDevice (a : Answers) (authToken deviceID : String) :
    Go Devices (Except String Unit) := do
  match a.delete authToken deviceID with
  | .error e =>
    Go.modify fun devices =>
      if a.lostDelete authToken deviceID then devices.erase deviceID else devices
    pure (.error e)
  | .ok _ =>
    Go.modify fun devices => devices.erase deviceID
    pure (.ok ())

def register (a : Answers) (publicKey : String) : Go Devices (Except String Identity) := do
  match a.register publicKey with
  | .error e =>
    Go.modify (addDevice (a.lostRegister publicKey))
    pure (.error e)
  | .ok i =>
    Go.modify fun devices => insert i.id devices
    pure (.ok i)

/-- The service keeps its devices, whether or not it takes the license. -/
def updateAccount (a : Answers) (authToken deviceID license : String) :
    Go Devices (Except String IdentityAccount) :=
  pure (a.update authToken deviceID license)

def createIdentityOnly (a : Answers) (license : String) : Go Devices (Except String Identity) := do
  match a.privateKey with
  | .error e => pure (.error e)
  | .ok (privateKey, publicKey) =>
    match ← register a publicKey with
    | .error e => pure (.error e)
    | .ok i =>
      if license ≠ "" then
        match ← updateAccount a i.token i.id license with
        -- the new device stays registered
        | .error e => pure (.error e)
        | .ok ac => pure (.ok { i with account := ac, privateKey := privateKey })
      else
        pure (.ok { i with privateKey := privateKey })

/-- The four results of `GenerateWarpInfo`. -/
structure WarpInfo where
  identity : Identity := {}
  res : String := "Error!"
  config : WarpWireguardConfig := {}
  err : Option String := none

def successText (account : IdentityAccount) : String :=
  "Warp+ enabled: " ++ (if account.warpPlus then "true" else "false") ++ "\n" ++
    "\nAccount type: " ++ account.accountType ++ "\n"

/-- The results for a new identity with its first peer. -/
def successInfo (identity : Identity) (peer : IdentityConfigPeer) : WarpInfo where
  identity := identity
  res := successText identity.account
  config := {
    privateKey := identity.privateKey
    peerPublicKey := peer.publicKey
    localAddressIPv4 := identity.config.interfaceAddresses.v4
    localAddressIPv6 := identity.config.interfaceAddresses.v6
    clientID := identity.config.clientID }

/-- The part of `GenerateWarpInfo` after the identity is there, or its error. -/
def warpInfoOf (r : Except String Identity) : Go Devices WarpInfo :=
  match r with
  | .error e => pure { err := some e }
  | .ok identity =>
    match identity.config.peers with
    | [] => Go.panic "index out of range [0] with length 0"
    | peer :: _ => pure (successInfo identity peer)

def generateWarpInfo (a : Answers) (license oldAccountId oldAccessToken : String) :
    Go Devices WarpInfo := do
  if oldAccountId ≠ "" ∧ oldAccessToken ≠ "" then
    -- either result is only printed
    let _ ← deleteDevice a oldAccessToken oldAccountId
  let r ← createIdentityOnly a license
  warpInfoOf r

/-! ### What a call does -/

variable {a : Answers} {license oldAccountId oldAccessToken : String} {devices : Devices}

/-- The key pair is there and the service answers its registration with the identity. -/
def Registers (a : Answers) (privateKey : String) (i : Identity) : Prop :=
  ∃ publicKey, a.privateKey = .ok (privateKey, publicKey) ∧ a.register publicKey = .ok i

/-- The account of a new identity: the license is only sent when there is one. -/
def licensedAccount (a : Answers) (license : String) (i : Identity) :
    Except String IdentityAccount :=
  if license ≠ "" then a.update i.token i.id license else .ok i.account

/-- The device of a registration that the service accepted and the caller got an error for. -/
def lostDevice (a : Answers) : Option String :=
  match a.privateKey with
  | .error _ => none
  | .ok (_, publicKey) => a.lostRegister publicKey

/-- A registration without an identity leaves the device that the service accepted, if there is
one, and one with an identity leaves its device behind, licensed or not. -/
inductive CreateIdentityOnly (a : Answers) (license : String) (devices : Devices) :
    Except String Identity → Devices → Prop where
  | unregistered (e : String) (h : ∀ k i, ¬ Registers a k i) :
    CreateIdentityOnly a license devices (.error e) (addDevice (lostDevice a) devices)
  | unlicensed {k e : String} {i : Identity} (h : Registers a k i)
      (hac : licensedAccount a license i = .error e) :
    CreateIdentityOnly a license devices (.error e) (insert i.id devices)
  | created {k : String} {i : Identity} {ac : IdentityAccount} (h : Registers a k i)
      (hac : licensedAccount a license i = .ok ac) :
    CreateIdentityOnly a license devices (.ok { i with account := ac, privateKey := k })
      (insert i.id devices)

lemma createIdentityOnly_run (a : Answers) (license : String) (devices : Devices) :
    ∃ r devices', createIdentityOnly a license devices = (.ret r, devices') ∧
      CreateIdentityOnly a license devices r devices' := by
  cases hkey : a.privateKey with
  | error e =>
    refine ⟨.error e, _, ?_, .unregistered e fun k i => ?_⟩
    · simp only [createIdentityOnly, hkey, lostDevice, addDevice]
      rfl
    · rintro ⟨publicKey, hpair, -⟩
      exact absurd (hkey.symm.trans hpair) (by simp)
  | ok pair =>
    obtain ⟨k, publicKey⟩ := pair
    cases hreg : a.register publicKey with
    | error e =>
      refine ⟨.error e, _, ?_, .unregistered e fun k' i => ?_⟩
      · simp only [createIdentityOnly, hkey, Go.bind_run, register, hreg, Go.pure_run, Go.modify,
          lostDevice]
      · rintro ⟨publicKey', hpair, hi⟩
        obtain ⟨-, rfl⟩ : k = k' ∧ publicKey = publicKey' := by
          simpa using hkey.symm.trans hpair
        exact absurd (hreg.symm.trans hi) (by simp)
    | ok i =>
      have hregisters : Registers a k i := ⟨publicKey, hkey, hreg⟩
      by_cases hlicense : license = ""
      · have hac : licensedAccount a license i = .ok i.account := by
          simp [licensedAccount, hlicense]
        refine ⟨_, _, ?_, .created hregisters hac⟩
        simp only [createIdentityOnly, hkey, Go.bind_run, register, hreg, Go.pure_run, Go.modify,
          hlicense, ne_eq, not_true_eq_false, if_false]
      · cases hupdate : a.update i.token i.id license with
        | error e =>
          refine ⟨_, _, ?_, .unlicensed (e := e) hregisters
            (by simp [licensedAccount, hlicense, hupdate])⟩
          simp only [createIdentityOnly, hkey, Go.bind_run, register, hreg, Go.pure_run, Go.modify,
            hlicense, ne_eq, not_false_eq_true, if_true, updateAccount, hupdate]
        | ok ac =>
          have hac : licensedAccount a license i = .ok ac := by
            simp [licensedAccount, hlicense, hupdate]
          refine ⟨_, _, ?_, .created hregisters hac⟩
          simp only [createIdentityOnly, hkey, Go.bind_run, register, hreg, Go.pure_run, Go.modify,
            hlicense, ne_eq, not_false_eq_true, if_true, updateAccount, hupdate]

/-- The service deletes the device, whatever the caller gets to know. -/
def Answers.deletes (a : Answers) (authToken deviceID : String) : Bool :=
  (a.delete authToken deviceID).isOk || a.lostDelete authToken deviceID

/-- The devices once the old one is deleted, if it is. -/
def withoutOld (a : Answers) (oldAccountId oldAccessToken : String) (devices : Devices) :
    Devices :=
  if oldAccountId ≠ "" ∧ oldAccessToken ≠ "" ∧ a.deletes oldAccessToken oldAccountId then
    devices.erase oldAccountId
  else
    devices

/-- The new identity is made over what the deletion left. -/
lemma generateWarpInfo_run (a : Answers) (license oldAccountId oldAccessToken : String)
    (devices : Devices) :
    generateWarpInfo a license oldAccountId oldAccessToken devices =
      (createIdentityOnly a license >>= warpInfoOf)
        (withoutOld a oldAccountId oldAccessToken devices) := by
  by_cases hold : oldAccountId ≠ "" ∧ oldAccessToken ≠ ""
  · cases hdelete : a.delete oldAccessToken oldAccountId with
    | error e =>
      simp [generateWarpInfo, withoutOld, hold, Go.bind_run, deleteDevice, hdelete, Go.pure_run,
        Answers.deletes, Except.isOk, Except.toBool, Go.modify]
    | ok u =>
      simp [generateWarpInfo, withoutOld, hold, Go.bind_run, deleteDevice, hdelete, Go.pure_run,
        Answers.deletes, Except.isOk, Except.toBool, Go.modify]
  · have hkeep : withoutOld a oldAccountId oldAccessToken devices = devices := by
      simp only [withoutOld]
      exact if_neg fun h => hold ⟨h.1, h.2.1⟩
    rw [hkeep, generateWarpInfo, if_neg hold]

/-- An error of the identity is the error of the whole call. -/
lemma generateWarpInfo_cases (a : Answers) (license oldAccountId oldAccessToken : String)
    (devices : Devices) :
    ∃ r devices', CreateIdentityOnly a license (withoutOld a oldAccountId oldAccessToken devices)
        r devices' ∧
      generateWarpInfo a license oldAccountId oldAccessToken devices = warpInfoOf r devices' := by
  obtain ⟨r, devices', hrun, hcases⟩ := createIdentityOnly_run a license
    (withoutOld a oldAccountId oldAccessToken devices)
  refine ⟨r, devices', hcases, ?_⟩
  rw [generateWarpInfo_run, Go.bind_run, hrun]

@[simp]
lemma warpInfoOf_error (e : String) (devices : Devices) :
    warpInfoOf (.error e) devices = (.ret { err := some e }, devices) := rfl

lemma warpInfoOf_no_peer {i : Identity} (h : i.config.peers = []) (devices : Devices) :
    warpInfoOf (.ok i) devices = (.panic "index out of range [0] with length 0", devices) := by
  simp only [warpInfoOf, h]
  rfl

lemma warpInfoOf_peer {i : Identity} {peer : IdentityConfigPeer} {rest : List IdentityConfigPeer}
    (h : i.config.peers = peer :: rest) (devices : Devices) :
    warpInfoOf (.ok i) devices = (.ret (successInfo i peer), devices) := by
  simp only [warpInfoOf, h]
  rfl

/-! ### Renewal -/

/-- An error leaves the registered devices as they were. -/
def IsAtomic (a : Answers) (license oldAccountId oldAccessToken : String) (devices : Devices) :
    Prop :=
  ∀ info devices', generateWarpInfo a license oldAccountId oldAccessToken devices =
    (.ret info, devices') → info.err ≠ none → devices' = devices

/-- A success has no error. -/
lemma warpInfoOf_ok_err {i : Identity} {info : WarpInfo} {devices devices' : Devices}
    (h : warpInfoOf (.ok i) devices = (.ret info, devices')) : info.err = none := by
  cases hpeers : i.config.peers with
  | nil =>
    rw [warpInfoOf_no_peer hpeers] at h
    cases h
  | cons peer rest =>
    rw [warpInfoOf_peer hpeers] at h
    cases h
    rfl

/-- On an error the old device is gone if the service deleted it, and a new one is there if its
license was refused or the answer to its registration gave no identity. -/
theorem generateWarpInfo_error_devices {info : WarpInfo} {devices' : Devices}
    (h : generateWarpInfo a license oldAccountId oldAccessToken devices = (.ret info, devices'))
    (herr : info.err ≠ none) :
    (devices' = addDevice (lostDevice a) (withoutOld a oldAccountId oldAccessToken devices) ∧
        ∀ k i, ¬ Registers a k i) ∨
      ∃ k i e, Registers a k i ∧ license ≠ "" ∧ a.update i.token i.id license = .error e ∧
        devices' = insert i.id (withoutOld a oldAccountId oldAccessToken devices) := by
  obtain ⟨r, created, hcases, hrun⟩ :=
    generateWarpInfo_cases a license oldAccountId oldAccessToken devices
  rw [hrun] at h
  cases hcases with
  | unregistered e hnone =>
    cases h
    exact Or.inl ⟨rfl, hnone⟩
  | @unlicensed k e i hregisters hac =>
    cases h
    simp only [licensedAccount] at hac
    split_ifs at hac with hlicense
    exact Or.inr ⟨k, i, e, hregisters, hlicense, hac, rfl⟩
  | created hregisters hac => exact absurd (warpInfoOf_ok_err h) herr

/-- A service that takes the deletion and the registration and refuses every license. -/
def Reference.refusing : Answers where
  privateKey := .ok ("private", "public")
  delete _ _ := .ok ()
  register _ := .ok { id := "new", token := "token" }
  update _ _ _ := .error "403 Forbidden"

theorem refusing_devices :
    (insert "new" ∅ = addDevice (lostDevice Reference.refusing)
          (withoutOld Reference.refusing "old" "secret" {"old"}) ∧
        ∀ k i, ¬ Registers Reference.refusing k i) ∨
      ∃ k i e, Registers Reference.refusing k i ∧ "license" ≠ "" ∧
        Reference.refusing.update i.token i.id "license" = .error e ∧
        insert "new" ∅ = insert i.id (withoutOld Reference.refusing "old" "secret" {"old"}) := by
  have hrun : generateWarpInfo Reference.refusing "license" "old" "secret" {"old"} =
      (.ret { err := some "403 Forbidden" }, insert "new" ∅) := rfl
  exact generateWarpInfo_error_devices hrun (by decide)

/-- The old device is deleted and the new one stays. -/
theorem refusing_not_isAtomic :
    ¬ IsAtomic Reference.refusing "license" "old" "secret" {"old"} := by
  intro h
  have hsame : insert "new" ∅ = ({"old"} : Devices) :=
    h { err := some "403 Forbidden" } _ rfl (by decide)
  exact absurd hsame (by decide)

/-! ### Registration data -/

/-- The configuration that the caller gets, unless it gets an error. -/
def warpConfigOf (exit : Exit WarpInfo) : Outcome WarpWireguardConfig :=
  match exit with
  | .panic msg => .panic msg
  | .ret info =>
    match info.err with
    | none => .ok info.config
    | some e => .fail e

/-- `GenerateWarpInfo`, and `GenerateWarpSingbox` on the configuration that it returns. -/
def registeredOutbound (D : Deps) (a : Answers)
    (license oldAccountId oldAccessToken : String) (devices : Devices) (host : String)
    (port : UInt16) (fake : FakePackets) : Outcome Outbound := do
  let wgConfig ← warpConfigOf
    (generateWarpInfo a license oldAccountId oldAccessToken devices).1
  generateWarpSingbox D wgConfig host port fake

/-- The builder takes this path for a key of its own, without an old device. -/
lemma generateWarp_eq_registeredOutbound (D : Deps) (draws : Draws) (a : Answers)
    (devices : Devices) (license host : String) (port : UInt16) (fake : FakePackets)
    (h : ∀ license, draws.generateWarpInfo license =
      warpConfigOf (generateWarpInfo a license "" "" devices).1) :
    generateWarp D draws license host port fake =
      registeredOutbound D a license "" "" devices host port fake := by
  rw [generateWarp, h, registeredOutbound]

/-- No call crashes, and the reserved bytes come from the client id. -/
structure IsSafe (D : Deps) (path : String → UInt16 → FakePackets → Outcome Outbound)
    (clientID : String) : Prop where
  returns (host : String) (port : UInt16) (fake : FakePackets) : ¬ (path host port fake).IsPanic
  reserved {host : String} {port : UInt16} {fake : FakePackets} {out : Outbound}
    (h : path host port fake = .ok out) :
    out.wireGuardOptions.reserved = firstThree (D.decodeBase64 clientID)

lemma IsSafe.of_fail {D : Deps} {path : String → UInt16 → FakePackets → Outcome Outbound}
    {clientID : String} (h : ∀ host port fake, ∃ e, path host port fake = .fail e) :
    IsSafe D path clientID where
  returns host port fake := by
    obtain ⟨e, he⟩ := h host port fake
    simp [he]
  reserved {host port fake out} hout := by
    obtain ⟨e, he⟩ := h host port fake
    cases he.symm.trans hout

/-- With a peer, the path is as safe as the client id. -/
lemma isSafe_generateWarpSingbox_iff {D : Deps} (hD : D.PrefixDocumented)
    (wgConfig : WarpWireguardConfig) :
    IsSafe D (generateWarpSingbox D wgConfig) wgConfig.clientID ↔
      (D.decodeBase64 wgConfig.clientID).length ≠ 2 := by
  constructor
  · intro h htwo
    exact h.returns "" 0 {} ((generateWarpSingbox_isPanic_iff hD "" 0 {}).mpr htwo)
  · intro htwo
    refine ⟨fun host port fake => mt (generateWarpSingbox_isPanic_iff hD host port fake).mp htwo,
      fun hout => ?_⟩
    obtain ⟨reserved, _, _, hreserved, -, -, rfl⟩ := generateWarpSingbox_eq_ok.mp hout
    rw [reservedBytes_of_length htwo] at hreserved
    cases hreserved
    rfl

/-- A service that registers one identity does not register another one. -/
lemma Registers.unique {k k' : String} {i i' : Identity} (h : Registers a k i)
    (h' : Registers a k' i') : k = k' ∧ i = i' := by
  obtain ⟨publicKey, hpair, hi⟩ := h
  obtain ⟨publicKey', hpair', hi'⟩ := h'
  obtain ⟨rfl, rfl⟩ : k = k' ∧ publicKey = publicKey' := by simpa using hpair.symm.trans hpair'
  exact ⟨rfl, by simpa using hi.symm.trans hi'⟩

/-- A registration crashes the builder when its license is not refused and it has no peer, or a
client id of two bytes. -/
theorem registeredOutbound_isSafe_iff {D : Deps} (hD : D.PrefixDocumented) {k : String}
    {i : Identity} (h : Registers a k i) :
    IsSafe D (registeredOutbound D a license oldAccountId oldAccessToken devices)
        i.config.clientID ↔
      (∃ e, licensedAccount a license i = .error e) ∨
        (i.config.peers ≠ [] ∧ (D.decodeBase64 i.config.clientID).length ≠ 2) := by
  obtain ⟨r, created, hcases, hrun⟩ :=
    generateWarpInfo_cases a license oldAccountId oldAccessToken devices
  cases hcases with
  | unregistered e hnone => exact absurd h (hnone k i)
  | @unlicensed k' e i' h' hac =>
    obtain ⟨rfl, rfl⟩ := h.unique h'
    refine iff_of_true (IsSafe.of_fail fun host port fake => ⟨e, ?_⟩) (Or.inl ⟨e, hac⟩)
    rw [registeredOutbound, hrun, warpInfoOf_error]
    rfl
  | @created k' i' ac h' hac =>
    obtain ⟨rfl, rfl⟩ := h.unique h'
    have hlicensed : ¬ ∃ e, licensedAccount a license i = .error e := by simp [hac]
    rw [or_iff_right hlicensed]
    cases hpeers : i.config.peers with
    | nil =>
      refine iff_of_false (fun hsafe => hsafe.returns "" 0 {} ?_) (fun hcond => hcond.1 rfl)
      rw [registeredOutbound, hrun, warpInfoOf_no_peer (by exact hpeers)]
      trivial
    | cons peer rest =>
      -- the call made from here on is one of `GenerateWarpSingbox`
      have hpath : registeredOutbound D a license oldAccountId oldAccessToken devices =
          generateWarpSingbox D
            (successInfo { i with account := ac, privateKey := k } peer).config := by
        funext host port fake
        rw [registeredOutbound, hrun, warpInfoOf_peer (by exact hpeers)]
        rfl
      rw [hpath]
      refine (isSafe_generateWarpSingbox_iff hD _).trans ?_
      simp [successInfo]

def Reference.identity (clientID : String) : Identity where
  id := "new"
  config := {
    peers := [{ publicKey := "peer" }]
    interfaceAddresses := { v4 := "172.16.0.2", v6 := "2606:4700:110:8a36::1" }
    clientID := clientID }

/-- A service that registers one device with a client id. -/
def Reference.registering (clientID : String) : Answers where
  privateKey := .ok ("private", "public")
  delete _ _ := .ok ()
  register _ := .ok (Reference.identity clientID)
  update _ _ _ := .error "403 Forbidden"

theorem registering_three_isSafe :
    IsSafe Config.Reference.decodingDeps
      (registeredOutbound Config.Reference.decodingDeps (Reference.registering "AQID") "" "" "" ∅)
      "AQID" :=
  (registeredOutbound_isSafe_iff Config.Reference.decodingDeps_prefixDocumented (k := "private")
    (i := Reference.identity "AQID") ⟨"public", rfl, rfl⟩).mpr (Or.inr ⟨by decide, by decide⟩)

theorem registering_two_not_isSafe :
    ¬ IsSafe Config.Reference.decodingDeps
      (registeredOutbound Config.Reference.decodingDeps (Reference.registering "AQI=") "" "" "" ∅)
      "AQI=" :=
  fun h => h.returns "" 0 {} (by decide)

end HiddifyCore.Warp
