import HiddifyCore.V2.Loaders
import HiddifyCore.V2.Status
import HiddifyCore.V2.Success

/-!
# The C library

The exported functions of `custom/custom.go`, and `parseCli` of `custom/cmd_interface.go`. The
functions of the first never call `ChangeConfigOptions`, so without a `parseCli` `StartService`
finds a nil `configOptions`, and `Start` recovers from the dereference: the core is never started,
and what `startService` returns does not say so. The command client of the library is accounted for
whatever the core does.
-/

namespace HiddifyCore.Custom

open GoLib Config V2
open Singbox (DomainStrategy)

/-! ### The state -/

/-- A `libbox.CommandClient`, by the calls made on it. -/
structure CommandClient where
  connectCalls : Nat := 0
  disconnectCalls : Nat := 0
  deriving DecidableEq

/-- The package variables, and every command client that was made. -/
structure Library where
  core : Core := {}
  defaultOptionJson : String := ""
  defaultConfigJson : String := ""
  commandClient : Option Nat := none
  clients : List CommandClient := []

namespace Library

@[simps]
def setCore (s : Core) (l : Library) : Library := { l with core := s }

@[simps]
def addClient (l : Library) : Library :=
  { l with clients := l.clients ++ [{}], commandClient := some l.clients.length }

@[simps]
def connect (j : Nat) (l : Library) : Library :=
  { l with clients := l.clients.modify j fun c => { c with connectCalls := c.connectCalls + 1 } }

@[simps]
def disconnect (j : Nat) (l : Library) : Library :=
  { l with
    clients := l.clients.modify j fun c => { c with disconnectCalls := c.disconnectCalls + 1 } }

@[simps]
def dropClient (l : Library) : Library := { l with commandClient := none }

end Library

def onCore {α : Type} (m : Go Core α) : Go Library α := Go.zoom Library.core Library.setCore m

/-- A call that leaves the library as it is. -/
def callExit {α : Type} (e : Exit α) : Go Library α := fun l => (e, l)

/-! ### The calls -/

/-- The C string of an error; `none` is the empty one. -/
abbrev CErr := Option LoadError

structure StartCalls where
  setup : Outcome PUnit := .ok ⟨⟩
  build : Utils.BuildCalls
  start : V2.StartCalls := {}
  connect : Outcome PUnit := .ok ⟨⟩

structure StopCalls where
  stop : V2.StopCalls := {}
  disconnect : Outcome PUnit := .ok ⟨⟩

/-- `v2.Setup` with the working directory of the library. -/
def setup (o : Outcome PUnit) : Go Core (Except String PUnit) := do
  Go.modify fun s =>
    { s with coreLogFactory := o.IsOk
             currentBuildConfigPath := "/tmp/axxwow/workingDir/current-config.json" }
  Go.call o

section Functions

variable (domainStrategy : JsonText.Value → Option DomainStrategy)

/-- The call of `ActivateTunnelService` inside `utils.BuildConfig`, if it gets there. -/
def activateBuilt (x : Utils.BuildCalls) (optionJson configJson : String) : Go Core PUnit :=
  match x.unmarshalJSON configJson, decodeStages domainStrategy optionJson with
  | .ok _, (o, none) => activateTunnel o
  | _, _ => pure ⟨⟩

def getAllJson (x : Utils.BuildCalls) : Go Library (Except LoadError String) := do
  let l ← Go.get
  onCore (activateBuilt domainStrategy x l.defaultOptionJson l.defaultConfigJson)
  callExit (Utils.buildConfig domainStrategy x l.defaultOptionJson l.defaultConfigJson)

/-- The error of `Connect` is dropped. -/
def startCommandClient (o : Outcome PUnit) : Go Library PUnit := do
  let l ← Go.get
  match l.commandClient with
  | some _ => pure ⟨⟩
  | none =>
    Go.modify Library.addClient
    Go.modify (Library.connect l.clients.length)
    let _ ← Go.call o
    pure ⟨⟩

def closeCommandServer (o : Outcome PUnit) : Go Library PUnit := do
  match (← Go.get).commandClient with
  | none => pure ⟨⟩
  | some j =>
    Go.modify (Library.disconnect j)
    let _ ← Go.call o
    Go.modify Library.dropClient

def startRequest (allJson : String) : StartRequest :=
  { configContent := allJson, enableOldCommandServer := true, disableMemoryLimit := false }

/-- `startService` from the call of `Start` on. -/
def startContent (x : StartCalls) (allJson : String) : Go Library CErr := do
  let reply ← onCore (V2.start (startRequest allJson) x.start)
  match reply.err with
  | some err => pure (some (.other err))
  | none =>
    startCommandClient x.connect
    pure none

def startService (x : StartCalls) : Go Library CErr := do
  match ← onCore (setup x.setup) with
  | .error err => pure (some (.other err))
  | .ok _ =>
    match ← getAllJson domainStrategy x.build with
    | .error err => pure (some err)
    | .ok allJson => startContent x allJson

def stopService (x : StopCalls) : Go Library CErr := do
  let reply ← onCore (V2.stop x.stop)
  match reply.err with
  | some err => pure (some (.other err))
  | none =>
    closeCommandServer x.disconnect
    pure none

def serviceStarted (l : Library) : Bool := l.core.coreState = .started

/-- `cmd.ParseCli` runs a command of the program in this process: it leaves the variables of the
library, but `gen` sets the options of the core and `run` starts and stops it. The program's name
is cut off the arguments. -/
def parseCli (argc : Int) (cli : Go Core (Option String)) : Go Library CErr := do
  if argc < 0 then Go.panic "makeslice: len out of range"
  else if argc = 0 then Go.panic "slice bounds out of range [1:0]"
  else
    let err ← onCore cli
    pure (err.map .other)

/-- A call of an exported function but `upLink`, `downLink` and `serviceStarted`, which only read.
What a command does to the core is left open. -/
inductive Op where
  | startService (x : StartCalls)
  | stopService (x : StopCalls)
  | setOptionJson (optionJson : String)
  | setConfigJson (configJson : String)
  | parseCli (argc : Int) (cli : Go Core (Option String))

def Op.isParseCli : Op → Bool
  | .parseCli _ _ => true
  | _ => false

/-- Of the two functions without a result the result is left empty. -/
def Op.exec : Op → Go Library CErr
  | .startService x => Custom.startService domainStrategy x
  | .stopService x => Custom.stopService x
  | .setOptionJson optionJson => do
    Go.modify fun l => { l with defaultOptionJson := optionJson }
    pure none
  | .setConfigJson configJson => do
    Go.modify fun l => { l with defaultConfigJson := configJson }
    pure none
  | .parseCli argc cli => Custom.parseCli argc cli

/-- The call returns; a panic that is not recovered ends the process. -/
def Step (l : Library) (op : Op) (l' : Library) : Prop :=
  ∃ r, op.exec domainStrategy l = (.ret r, l')

end Functions

/-! ### Command clients -/

/-- Every client that was made was connected once, and disconnected once unless it is held. -/
def Balanced (l : Library) : Prop :=
  (∀ j ∈ l.commandClient, j < l.clients.length) ∧
    ∀ j c, l.clients[j]? = some c → c.connectCalls = 1 ∧
      c.disconnectCalls = if l.commandClient = some j then 0 else 1

section Clients

variable {domainStrategy : JsonText.Value → Option DomainStrategy}

/-- The command client and the clients stay as they are. -/
def SameClients (l l' : Library) : Prop :=
  l'.commandClient = l.commandClient ∧ l'.clients = l.clients

lemma Balanced.of_same {l l' : Library} (h : Balanced l) (hsame : SameClients l l') :
    Balanced l' := by
  obtain ⟨hheld, hclients⟩ := hsame
  simpa only [Balanced, hheld, hclients] using h

lemma onCore_within {α : Type} (m : Go Core α) : Go.Within SameClients (onCore m) :=
  fun _ => ⟨rfl, rfl⟩

lemma onCore_balanced {α : Type} (m : Go Core α) :
    Go.Triple Balanced (onCore m) (fun _ => Balanced) (fun _ => True) :=
  (Go.Triple.of_within (onCore_within m) fun _ _ h => h.of_same).onPanic fun _ _ => trivial

lemma Balanced.addClient {l : Library} (h : Balanced l) (hnone : l.commandClient = none) :
    Balanced (l.addClient.connect l.clients.length) := by
  obtain ⟨-, hclients⟩ := h
  have hadded : (l.addClient.connect l.clients.length).clients = l.clients ++ [⟨1, 0⟩] :=
    modify_last _ _ _
  refine ⟨by simp, fun j c hc => ?_⟩
  rw [hadded, List.getElem?_append] at hc
  simp only [Library.connect_commandClient, Library.addClient_commandClient, Option.some.injEq]
  split_ifs at hc with hj
  · have hne : l.clients.length ≠ j := by omega
    simpa [hnone, hne] using hclients j c hc
  · obtain ⟨hlt, rfl⟩ := List.getElem?_eq_some_iff.mp hc
    rw [List.length_singleton] at hlt
    have heq : l.clients.length = j := by omega
    simp [heq]

lemma Balanced.dropClient {l : Library} (h : Balanced l) {j : Nat}
    (hj : l.commandClient = some j) : Balanced (l.disconnect j).dropClient := by
  obtain ⟨-, hclients⟩ := h
  refine ⟨by simp, fun k c hc => ?_⟩
  simp only [Library.dropClient_clients, Library.disconnect_clients,
    Library.dropClient_commandClient, reduceCtorEq, if_false] at hc ⊢
  by_cases hk : j = k
  · subst hk
    rw [List.getElem?_modify_eq, Option.map_eq_map, Option.map_eq_some_iff] at hc
    obtain ⟨c', hc', rfl⟩ := hc
    simpa [hj] using hclients j c' hc'
  · rw [List.getElem?_modify_ne _ _ hk] at hc
    simpa [hj, hk] using hclients k c hc

lemma startCommandClient_balanced (o : Outcome PUnit) :
    Go.Triple Balanced (startCommandClient o) (fun _ => Balanced) (fun _ => True) := by
  apply Go.Triple.get_bind
  intro l hl
  cases hheld : l.commandClient with
  | some j => exact .pure fun _ => (· ▸ hl)
  | none =>
    rintro _ rfl
    have hadd := hl.addClient hheld
    cases o with
    | ok a => exact hadd
    | fail e => exact hadd
    | panic e => trivial

lemma closeCommandServer_balanced (o : Outcome PUnit) :
    Go.Triple Balanced (closeCommandServer o) (fun _ l => Balanced l ∧ l.commandClient = none)
      (fun _ => True) := by
  apply Go.Triple.get_bind
  intro l hl
  cases hheld : l.commandClient with
  | none => exact .pure fun _ => (· ▸ ⟨hl, hheld⟩)
  | some j =>
    rintro _ rfl
    have hdrop := hl.dropClient hheld
    cases o with
    | ok a => exact ⟨hdrop, rfl⟩
    | fail e => exact ⟨hdrop, rfl⟩
    | panic e => trivial

lemma getAllJson_balanced (x : Utils.BuildCalls) :
    Go.Triple Balanced (getAllJson domainStrategy x) (fun _ => Balanced) (fun _ => True) := by
  apply Go.Triple.get_bind
  intro l hl
  refine Go.Triple.bind ((onCore_balanced _).pre fun _ => (· ▸ hl)) fun _ => ?_
  intro l' hl'
  simp only [callExit]
  rcases Utils.buildConfig domainStrategy x l.defaultOptionJson l.defaultConfigJson with r | msg
  · exact hl'
  · trivial

lemma startContent_balanced (x : StartCalls) (allJson : String) :
    Go.Triple Balanced (startContent x allJson) (fun _ => Balanced) (fun _ => True) := by
  refine (onCore_balanced _).bind fun reply => ?_
  cases reply.err with
  | some err => exact .pure fun _ => id
  | none => exact (startCommandClient_balanced x.connect).bind fun _ => .pure fun _ => id

lemma startService_balanced (x : StartCalls) :
    Go.Triple Balanced (startService domainStrategy x) (fun _ => Balanced) (fun _ => True) := by
  refine (onCore_balanced _).bind fun r => ?_
  cases r with
  | error err => exact .pure fun _ => id
  | ok a =>
    refine (getAllJson_balanced x.build).bind fun r => ?_
    cases r with
    | error err => exact .pure fun _ => id
    | ok allJson => exact startContent_balanced x allJson

/-- A `stopService` that returns no error holds no client any more. -/
lemma stopService_balanced (x : StopCalls) :
    Go.Triple Balanced (stopService x)
      (fun r l => Balanced l ∧ (r = none → l.commandClient = none)) (fun _ => True) := by
  refine (onCore_balanced _).bind fun reply => ?_
  cases reply.err with
  | some err => exact .pure fun _ h => ⟨h, nofun⟩
  | none =>
    exact (closeCommandServer_balanced x.disconnect).bind fun _ =>
      .pure fun _ h => ⟨h.1, fun _ => h.2⟩

lemma parseCli_balanced (argc : Int) (cli : Go Core (Option String)) :
    Go.Triple Balanced (parseCli argc cli) (fun _ => Balanced) (fun _ => True) := by
  unfold parseCli
  split_ifs
  · exact fun _ _ => trivial
  · exact fun _ _ => trivial
  · exact (onCore_balanced cli).bind fun _ => .pure fun _ => id

lemma Step.balanced {l l' : Library} {op : Op} (h : Step domainStrategy l op l')
    (hI : Balanced l) : Balanced l' := by
  obtain ⟨r, hr⟩ := h
  cases op with
  | startService x => exact (startService_balanced x).ret hI hr
  | stopService x => exact ((stopService_balanced x).ret hI hr).1
  | setOptionJson optionJson =>
    cases hr
    exact hI.of_same ⟨rfl, rfl⟩
  | setConfigJson configJson =>
    cases hr
    exact hI.of_same ⟨rfl, rfl⟩
  | parseCli argc cli => exact (parseCli_balanced argc cli).ret hI hr

/-- In every run of the library each client it made was connected once, and is the one it holds or
was disconnected once. A `stopService` that returns no error leaves none of them connected. -/
theorem run_balanced {l l' : Library} (hl : l.commandClient = none ∧ l.clients = [])
    (hrun : Run (Step domainStrategy) (fun _ _ => True) l l') :
    Balanced l' ∧ ∀ x l'', stopService x l' = (.ret none, l'') →
      l''.commandClient = none ∧ ∀ c ∈ l''.clients, c.disconnectCalls = 1 := by
  have hinit : Balanced l := by simp [Balanced, hl]
  have hend : Balanced l' := hrun.invariant hinit fun _ _ _ hI _ hstep => hstep.balanced hI
  refine ⟨hend, fun x l'' h => ?_⟩
  obtain ⟨⟨-, hclients⟩, hnone⟩ := (stopService_balanced x).ret hend h
  refine ⟨hnone rfl, fun c hc => ?_⟩
  obtain ⟨j, hj⟩ := List.getElem?_of_mem hc
  simpa [hnone rfl] using (hclients j c hj).2

/-- A start of which every call outside the program succeeds. -/
def servedStart : StartCalls where
  build := { unmarshalJSON := fun _ => .ok {}, buildConfigJson := fun _ _ => .ret (.ok "\x7b\x7d") }

/-- The command `gen` of a file of which the configuration is built. -/
def genCommand : Go Core (Option String) := do
  Go.modify (Core.setConfigOptions defaultConfigOptions)
  pure none

/-- The library after these calls. -/
def afterCalls (ops : List Op) : Library :=
  ops.foldl (fun l op => (op.exec (fun _ => none) l).2) {}

/-- A start without options, which makes the client, and one behind `gen`, which starts the core. -/
def servedOps : List Op := [
  .setOptionJson "\x7b\x7d", .startService servedStart, .parseCli 3 genCommand,
  .startService servedStart]

theorem run_balanced_start :
    (afterCalls servedOps).commandClient = some 0 ∧ serviceStarted (afterCalls servedOps) = true ∧
      Balanced (afterCalls servedOps) ∧
      (stopService {} (afterCalls servedOps)).2.commandClient = none ∧
      ∀ c ∈ (stopService {} (afterCalls servedOps)).2.clients, c.disconnectCalls = 1 := by
  have hrun : Run (Step fun _ => none) (fun _ _ => True) {} (afterCalls servedOps) :=
    .tail (.tail (.tail (.single (.setOptionJson "\x7b\x7d") trivial ⟨_, rfl⟩)
      (.startService servedStart) trivial ⟨_, rfl⟩) (.parseCli 3 genCommand) trivial ⟨_, rfl⟩)
      (.startService servedStart) trivial ⟨_, rfl⟩
  obtain ⟨hbalanced, hstop⟩ := run_balanced ⟨rfl, rfl⟩ hrun
  exact ⟨rfl, rfl, hbalanced, hstop {} _ rfl⟩

end Clients

/-! ### The core behind the library -/

/-- A core that was not started, with the options never set. -/
structure Idle (s : Core) : Prop where
  coreState : s.coreState = .stopped
  box : s.box = none
  configOptions : s.configOptions = none

section Idle

variable {req : StartRequest}

lemma keeps_configOptions {α : Type} {m : Go Core α} (h : Go.Within SameSetup m) :
    Go.Triple (fun s => s.configOptions = none) m (fun _ s => s.configOptions = none)
      (fun s => s.configOptions = none) :=
  Go.Triple.of_within h fun _ _ hs hst => hst.1.trans hs

lemma startService_idle (hreq : req.enableRawConfig = false) (x : StartServiceCalls) :
    Go.Triple (fun s => s.configOptions = none) (V2.startService req x)
      (fun _ s => s.coreState = .stopped ∧ s.box = none) (fun _ => True) := by
  intro s hs
  refine ((startService_triple req x s).conseq (fun _ => id) ?_ fun _ _ => trivial) s rfl
  rintro reply t ⟨-, hsucceeds, -, hclean⟩
  apply hclean
  intro hnil
  obtain ⟨_, _, _, -, -, hbuilt⟩ := (hsucceeds hnil).loads
  simp [StartServiceCalls.built, hreq, hs] at hbuilt

lemma start_stopped (hreq : req.enableRawConfig = false) (x : V2.StartCalls) :
    Go.Triple (fun s => s.configOptions = none) (V2.start req x)
      (fun _ s => s.coreState = .stopped ∧ s.box = none) (fun _ => True) := by
  have hensure : Go.Within SameSetup (ensureStopped x.stop) := by
    apply Go.Within.get_bind
    intro s
    split_ifs
    · exact Go.Within.bind setupFrame.trans (setupFrame.stop_within x.stop)
        (fun _ => .pure setupFrame.refl _) s
    · exact setupFrame.refl s
  have henter : Go.Triple (fun s => s.configOptions = none) (enterStarting req x)
      (fun _ s => s.coreState = .stopped ∧ s.box = none) (fun _ => True) := by
    refine Go.Triple.bind (M := fun _ s => s.configOptions = none) ?_ fun _ => ?_
    · exact (keeps_configOptions (setupFrame.toStopFrame.setCoreStatus_within _ _ _)).onPanic
        fun _ _ => trivial
    refine Go.Triple.bind (M := fun _ s => s.configOptions = none) ?_ fun _ => ?_
    · exact .callVoid (fun _ _ => id) fun _ _ _ => trivial
    exact startService_idle hreq x.service
  refine .deferRecover (M := fun _ => True)
    (((keeps_configOptions hensure).onPanic fun _ _ => trivial).bind fun _ => henter)
    fun e s _ => ?_
  exact ((stopAndAlert_triple _ _ x.recovery s).conseq (fun _ => id) (fun _ _ h => h.2)
    fun _ _ => trivial) s rfl

/-- Without options `Start` ends with a stopped core, and reports no error exactly when it has
recovered from a panic. -/
lemma start_idle (hreq : req.enableRawConfig = false) (x : V2.StartCalls) {s : Core}
    (hs : Idle s) :
    Go.Triple (· = s) (V2.start req x)
      (fun reply t => Idle t ∧ (reply.err = none ↔ x.EnterPanics req s)) (fun _ => True) := by
  have hpanics : x.StartPanics req s ↔ x.EnterPanics req s := by
    rw [V2.StartCalls.StartPanics, if_pos hs.coreState]
  have hkeeps : Go.Triple (fun t => t.configOptions = none) (V2.start req x)
      (fun _ t => t.configOptions = none) (fun _ => True) :=
    (keeps_configOptions (setupFrame.start_within req x)).onPanic fun _ _ => trivial
  refine (((start_success req x s).and (start_stopped hreq x)).and hkeeps).conseq ?_ ?_
    fun _ _ => trivial
  · rintro _ rfl
    exact ⟨⟨rfl, hs.configOptions⟩, hs.configOptions⟩
  · rintro reply t ⟨⟨hsuccess, hstate, hbox⟩, hoptions⟩
    refine ⟨⟨hstate, hbox, hoptions⟩, ?_⟩
    have hnot : NoFalseSuccess reply t ↔ reply.err ≠ none := by
      refine ⟨fun h hnil => ?_, fun h hnil => absurd hnil h⟩
      have hstarted := (h hnil).1
      rw [hstate] at hstarted
      cases hstarted
    rw [← hpanics, ← not_iff_not, ← hsuccess, hnot]

end Idle

section Runs

variable {domainStrategy : JsonText.Value → Option DomainStrategy}

lemma onCore_triple {α : Type} {m : Go Core α} {Q : α → Core → Prop} {l : Library}
    (h : Go.Triple (· = l.core) m Q fun _ => True) :
    Go.Triple (· = l) (onCore m) (fun a l' => Q a l'.core) (fun _ => True) := by
  apply Go.Triple.zoom
  rintro l rfl
  have hm := h l.core rfl
  rcases hrun : m l.core with ⟨a | e, s⟩
  · rw [hrun] at hm
    exact hm
  · trivial

/-- The command client is all that a function writes. -/
def SameCore (l l' : Library) : Prop := l'.core = l.core

lemma sameCore_startCommandClient (o : Outcome PUnit) :
    Go.Within SameCore (startCommandClient o) := by
  apply Go.Within.get_bind
  intro l
  cases l.commandClient with
  | some j => rfl
  | none => cases o <;> rfl

lemma startContent_idle (x : StartCalls) (allJson : String) {l : Library} (hl : Idle l.core) :
    Go.Triple (· = l) (startContent x allJson)
      (fun r l' => Idle l'.core ∧ (r = none ↔ x.start.EnterPanics (startRequest allJson) l.core))
      (fun _ => True) := by
  refine (onCore_triple (start_idle rfl x.start hl)).bind fun reply => ?_
  cases reply.err with
  | some err =>
    refine .pure fun l' h => ⟨h.1, ?_⟩
    simpa using h.2
  | none =>
    refine Go.Triple.bind (M := fun _ l' => Idle l'.core ∧
      x.start.EnterPanics (startRequest allJson) l.core) ?_ fun _ => .pure fun l' h => ?_
    · refine ((Go.Triple.of_within (sameCore_startCommandClient x.connect) ?_).pre
        fun l₁ h => ⟨h.1, by simpa using h.2⟩).onPanic fun _ _ => trivial
      rintro l₁ l₂ ⟨hidle, hpanics⟩ hsame
      rw [SameCore] at hsame
      rw [hsame]
      exact ⟨hidle, hpanics⟩
    · exact ⟨h.1, iff_of_true rfl h.2⟩

lemma activateBuilt_run (x : Utils.BuildCalls) (optionJson configJson : String) (s : Core) :
    ∃ t, activateBuilt domainStrategy x optionJson configJson s = (.ret ⟨⟩, s.setTunnel t) := by
  rw [activateBuilt]
  rcases x.unmarshalJSON configJson with err | options
  · exact ⟨s.tunnel, rfl⟩
  rcases decodeStages domainStrategy optionJson with ⟨o, _ | err⟩
  · by_cases htun : o.enableTunService = true
    · exact ⟨activateTunnelService o s.tunnel, by simp [activateTunnel, htun, Go.modify]⟩
    · exact ⟨s.tunnel, by simp [activateTunnel, htun, Go.pure_run, Core.setTunnel]⟩
  · exact ⟨s.tunnel, rfl⟩

/-- The core that `Start` finds in `startService`. -/
def Library.prepared (domainStrategy : JsonText.Value → Option DomainStrategy) (x : StartCalls)
    (l : Library) : Core :=
  (activateBuilt domainStrategy x.build l.defaultOptionJson l.defaultConfigJson
    (setup x.setup l.core).2).2

/-- `startService` gets to `Start`, and the start panics. -/
def StartCalls.Panics (domainStrategy : JsonText.Value → Option DomainStrategy) (x : StartCalls)
    (l : Library) : Prop :=
  x.setup.IsOk ∧ ∃ allJson,
    Utils.buildConfig domainStrategy x.build l.defaultOptionJson l.defaultConfigJson =
      .ret (.ok allJson) ∧
    x.start.EnterPanics (startRequest allJson) (l.prepared domainStrategy x)

lemma setup_triple (o : Outcome PUnit) (l : Library) :
    Go.Triple (· = l) (onCore (setup o))
      (fun r l' => l' = l.setCore (setup o l.core).2 ∧ (r = .ok ⟨⟩ ↔ o.IsOk))
      (fun _ => True) := by
  apply Go.Triple.zoom
  rintro _ rfl
  cases o <;> simp [setup, Go.bind_run, Go.modify]

lemma getAllJson_triple (x : Utils.BuildCalls) (l : Library) :
    Go.Triple (· = l) (getAllJson domainStrategy x)
      (fun r l' => Utils.buildConfig domainStrategy x l.defaultOptionJson l.defaultConfigJson =
          .ret r ∧
        l' = l.setCore
          (activateBuilt domainStrategy x l.defaultOptionJson l.defaultConfigJson l.core).2)
      (fun _ => True) := by
  rintro l rfl
  obtain ⟨t, ht⟩ := @activateBuilt_run domainStrategy x l.defaultOptionJson
    l.defaultConfigJson l.core
  simp only [getAllJson, Go.bind_run, Go.get, onCore, Go.zoom, ht, callExit]
  rcases Utils.buildConfig domainStrategy x l.defaultOptionJson l.defaultConfigJson with r | msg
  · exact ⟨rfl, rfl⟩
  · trivial

/-- `startService` leaves the core stopped, and returns the empty string exactly when the start it
made panicked. -/
lemma startService_returns (x : StartCalls) {l : Library} (hl : Idle l.core) :
    Go.Triple (· = l) (startService domainStrategy x)
      (fun r l' => Idle l'.core ∧ (r = none ↔ x.Panics domainStrategy l)) (fun _ => True) := by
  have hsetup : Idle (setup x.setup l.core).2 := by
    cases x.setup <;> exact ⟨hl.coreState, hl.box, hl.configOptions⟩
  have hprepared : Idle (l.prepared domainStrategy x) := by
    obtain ⟨t, ht⟩ := @activateBuilt_run domainStrategy x.build
      l.defaultOptionJson l.defaultConfigJson (setup x.setup l.core).2
    rw [Library.prepared, ht]
    exact ⟨hsetup.coreState, hsetup.box, hsetup.configOptions⟩
  refine (setup_triple x.setup l).bind fun r => ?_
  cases r with
  | error err =>
    refine .pure fun l' ⟨hl', hok⟩ => ⟨hl' ▸ hsetup, ?_⟩
    have hnot : ¬ x.setup.IsOk := by simpa using hok
    simp [StartCalls.Panics, hnot]
  | ok a =>
    rintro l' ⟨rfl, hok⟩
    have hok : x.setup.IsOk := hok.mp rfl
    refine ((getAllJson_triple x.build _).bind fun r => ?_) _ rfl
    cases r with
    | error err =>
      refine .pure fun l' ⟨hbuild, hl'⟩ => ⟨hl' ▸ hprepared, ?_⟩
      simp only [Library.setCore_defaultOptionJson, Library.setCore_defaultConfigJson] at hbuild
      simp [StartCalls.Panics, hbuild]
    | ok allJson =>
      rintro l' ⟨hbuild, rfl⟩
      simp only [Library.setCore_defaultOptionJson, Library.setCore_defaultConfigJson] at hbuild
      refine ((startContent_idle x allJson (by exact hprepared)).post fun r l' h => ⟨h.1, ?_⟩) _ rfl
      rw [h.2]
      simp [StartCalls.Panics, hok, hbuild, Library.prepared]

/-- `stopService` of a stopped core returns an error and does nothing. -/
lemma stopService_idle (x : StopCalls) {l : Library} (hl : Idle l.core) :
    stopService x l = (.ret (some (.other "instance not started")), l) := by
  have hstop : V2.stop x.stop l.core = (.ret (notStarted l.core), l.core) := by
    simp [V2.stop, V2.deferPanicToError, Go.deferRecover, Go.bind_run, Go.get, Go.pure_run,
      hl.coreState]
  simp only [stopService, onCore, Go.bind_run, Go.zoom, hstop]
  rfl

/-- The core of a new process that has not called `ChangeConfigOptions`. -/
structure Library.IsInitial (l : Library) : Prop where
  core : Idle l.core
  commandClient : l.commandClient = none
  clients : l.clients = []

lemma Op.exec_idle {op : Op} (hop : op.isParseCli = false) {l l' : Library} {r : CErr}
    (hl : Idle l.core) (h : op.exec domainStrategy l = (.ret r, l')) : Idle l'.core := by
  cases op with
  | startService x => exact ((startService_returns x hl).ret rfl h).1
  | stopService x =>
    cases (stopService_idle x hl).symm.trans h
    exact hl
  | setOptionJson optionJson =>
    cases h
    exact hl
  | setConfigJson configJson =>
    cases h
    exact hl
  | parseCli argc cli => cases hop

/-- Without `parseCli` the calls of the library never start the core: `startService` that returns
the empty string has recovered from a panic, and `stopService` always returns an error. -/
theorem run_neverStarts {l l' : Library} (hl : l.IsInitial)
    (hrun : Run (Step domainStrategy) (fun _ op => op.isParseCli = false) l l') :
    serviceStarted l' = false ∧
      (∀ x r l'', startService domainStrategy x l' = (.ret r, l'') →
        serviceStarted l'' = false ∧ (r = none ↔ x.Panics domainStrategy l')) ∧
      ∀ x, stopService x l' = (.ret (some (.other "instance not started")), l') := by
  have hidle : Idle l'.core :=
    hrun.invariant (I := fun l => Idle l.core) hl.core fun t op u hI hop ⟨r, hr⟩ =>
      Op.exec_idle hop hI hr
  refine ⟨by simp [serviceStarted, hidle.coreState], fun x r l'' h => ?_,
    fun x => stopService_idle x hidle⟩
  obtain ⟨hend, hresult⟩ := (startService_returns x hidle).ret rfl h
  exact ⟨by simp [serviceStarted, hend.coreState], hresult⟩

/-- A start that recovers from the panic of the nil options, and makes the client. -/
def unservedOps : List Op := [.setOptionJson "\x7b\x7d", .startService servedStart]

/-- The client is there, nothing runs, the next start is no better and no stop succeeds. -/
theorem run_neverStarts_start :
    (afterCalls unservedOps).commandClient = some 0 ∧
      serviceStarted (afterCalls unservedOps) = false ∧
      servedStart.Panics (fun _ => none) (afterCalls unservedOps) ∧
      stopService {} (afterCalls unservedOps) =
        (.ret (some (.other "instance not started")), afterCalls unservedOps) := by
  have hrun : Run (Step fun _ => none) (fun _ op => op.isParseCli = false) {}
      (afterCalls unservedOps) :=
    .tail (.single (.setOptionJson "\x7b\x7d") rfl ⟨_, rfl⟩) (.startService servedStart) rfl
      ⟨_, rfl⟩
  obtain ⟨hnone, hstart, hstop⟩ := run_neverStarts ⟨⟨rfl, rfl, rfl⟩, rfl, rfl⟩ hrun
  exact ⟨rfl, hnone, (hstart servedStart none _ rfl).2.mp rfl, hstop {}⟩

end Runs

end HiddifyCore.Custom
