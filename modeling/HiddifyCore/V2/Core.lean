import HiddifyCore.Config.Tunnel

/-!
# The state of the core process

The package variables of `v2` that the service operations share, together with every box instance
and command server the process ever created. A handle (`Box`, `oldCommandServer`) is the index of
what it points to, so an instance that no handle points to any more is still counted.
-/

namespace HiddifyCore.V2

open GoLib Config

inductive CoreState where
  | stopped | starting | started | stopping
  deriving DecidableEq, Repr

inductive MessageType where
  | empty | startCommandServer | createService | startService | unexpectedError
  | instanceNotFound | instanceNotStarted
  | errorBuildingConfig | errorParsingConfig | errorReadingConfig
  deriving DecidableEq, Repr

structure CoreInfoResponse where
  coreState : CoreState
  messageType : MessageType
  message : String
  deriving DecidableEq, Repr

structure StartRequest where
  configPath : String := ""
  configContent : String := ""
  disableMemoryLimit : Bool := false
  delayStart : Bool := false
  enableOldCommandServer : Bool := false
  enableRawConfig : Bool := false
  deriving DecidableEq, Repr

/-- The results `(*pb.CoreInfoResponse, error)`, nil pointers being `none`. -/
structure Reply where
  resp : Option CoreInfoResponse := none
  err : Option String := none
  deriving DecidableEq, Repr

/-- A `libbox.BoxService`: what it was created from, whether its `Start` returned nil, and how
often `Close` was called on it. -/
structure BoxInstance where
  options : Singbox.Options
  started : Bool := false
  closeCalls : Nat := 0

/-- A `libbox.CommandServer`. -/
structure CommandServer where
  started : Bool := false
  closeCalls : Nat := 0
  service : Option Nat := none
  deriving DecidableEq

structure Core where
  coreState : CoreState := .stopped
  box : Option Nat := none
  oldCommandServer : Option Nat := none
  configOptions : Option ConfigOptions := none
  activeConfigPath : String := ""
  /-- `filepath.Join(sWorkingPath, "current-config.json")`. -/
  currentBuildConfigPath : String := ""
  /-- Whether `Setup` has set `coreLogFactory`, which is a nil interface before. -/
  coreLogFactory : Bool := false
  tunnel : Tunnel := {}
  instances : List BoxInstance := []
  servers : List CommandServer := []

namespace Core

/-- Instance `i` was started and `Close` has not been called on it. -/
def Live (s : Core) (i : Nat) : Prop :=
  ∃ b ∈ s.instances[i]?, b.started = true ∧ b.closeCalls = 0

/-! ### Updates -/

@[simps]
def setState (c : CoreState) (s : Core) : Core := { s with coreState := c }

@[simps]
def setBox (b : Option Nat) (s : Core) : Core := { s with box := b }

@[simps]
def setServer (j : Option Nat) (s : Core) : Core := { s with oldCommandServer := j }

@[simps]
def setPath (path : String) (s : Core) : Core := { s with activeConfigPath := path }

@[simps]
def setConfigOptions (o : ConfigOptions) (s : Core) : Core := { s with configOptions := some o }

@[simps]
def setTunnel (t : Tunnel) (s : Core) : Core := { s with tunnel := t }

@[simps]
def addInstance (o : Singbox.Options) (s : Core) : Core :=
  { s with instances := s.instances ++ [{ options := o }] }

@[simps]
def startInstance (i : Nat) (s : Core) : Core :=
  { s with instances := s.instances.modify i fun b => { b with started := true } }

@[simps]
def closeInstance (i : Nat) (s : Core) : Core :=
  { s with instances := s.instances.modify i fun b => { b with closeCalls := b.closeCalls + 1 } }

@[simps]
def addServer (s : Core) : Core :=
  { s with servers := s.servers ++ [{}], oldCommandServer := some s.servers.length }

@[simps]
def startServer (j : Nat) (s : Core) : Core :=
  { s with servers := s.servers.modify j fun v => { v with started := true } }

@[simps]
def serveServer (j : Nat) (service : Option Nat) (s : Core) : Core :=
  { s with servers := s.servers.modify j fun v => { v with service := service } }

@[simps]
def closeServer (j : Nat) (s : Core) : Core :=
  { s with servers := s.servers.modify j fun v => { v with closeCalls := v.closeCalls + 1 } }

end Core

end HiddifyCore.V2
