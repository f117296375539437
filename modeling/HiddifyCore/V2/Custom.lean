import HiddifyCore.V2.Core

/-!
# The service operations

`StopAndAlert`, `StartService`, `Start`, `Stop` and `Restart` of `v2/custom.go`, `ServiceReload`
and `startCommandServer` of `v2/old_command_server.go`. What the code outside the model does in
one call of an operation is a record of outcomes, with a field for each call site; the default
record is the one where every call succeeds. Logging, the status events and the messages to the
Flutter bridge change none of the variables of `Core` and are left out.
-/

namespace HiddifyCore.V2

open GoLib Config

/-! ### Outcomes of the external calls -/

/-- The calls of `StopAndAlert`. -/
structure AlertCalls where
  stopTunnel : Outcome PUnit := .ok ⟨⟩
  clearService : Exit PUnit := .ret ⟨⟩
  boxClose : Outcome PUnit := .ok ⟨⟩
  serverClose : Outcome PUnit := .ok ⟨⟩

/-- The calls of `Stop`, and those of the `StopAndAlert` that runs when one of them panics. -/
structure StopCalls extends AlertCalls where
  recovery : AlertCalls := {}

/-- The calls of `StartService`, and those of the `StopAndAlert` on its error exits. -/
structure StartServiceCalls where
  readFile : String → Outcome String := fun _ => .ok ""
  parse : String → Outcome Singbox.Options := fun _ => .ok {}
  build : ConfigOptions → Singbox.Options → Outcome Singbox.Options := fun _ parsed => .ok parsed
  saveConfig : Exit PUnit := .ret ⟨⟩
  serverStart : Outcome PUnit := .ok ⟨⟩
  newService : Outcome PUnit := .ok ⟨⟩
  boxStart : Outcome PUnit := .ok ⟨⟩
  setService : Exit PUnit := .ret ⟨⟩
  alert : AlertCalls := {}

/-- The calls of `Start` and of `Restart`. -/
structure StartCalls where
  stop : StopCalls := {}
  setMemoryLimit : Exit PUnit := .ret ⟨⟩
  service : StartServiceCalls := {}
  recovery : AlertCalls := {}

/-- The calls of `ServiceReload`. -/
structure ReloadCalls where
  clearService : Exit PUnit := .ret ⟨⟩
  boxClose : Outcome PUnit := .ok ⟨⟩
  service : StartServiceCalls := {}

/-! ### Shared pieces -/

def setCoreStatus (state : CoreState) (msgType : MessageType) (message : String) :
    Go Core CoreInfoResponse := do
  Go.modify (Core.setState state)
  pure { coreState := state, messageType := msgType, message := message }

def deactivateTunnel (stop : Outcome PUnit) : Go Core (Except String PUnit) :=
  Go.zoom Core.tunnel Core.setTunnel (deactivateTunnelService stop)

/-- `if oldCommandServer != nil { oldCommandServer.SetService(nil) }`. -/
def clearService (o : Exit PUnit) : Go Core PUnit := do
  match (← Go.get).oldCommandServer with
  | none => pure ⟨⟩
  | some j =>
    Go.callVoid o
    Go.modify (Core.serveServer j none)

/-- `Close` of box instance `i`. -/
def closeBox (i : Nat) (o : Outcome PUnit) : Go Core (Except String PUnit) := do
  Go.modify (Core.closeInstance i)
  Go.call o

/-- `Close` of command server `j`. -/
def closeCommandServer (j : Nat) (o : Outcome PUnit) : Go Core (Except String PUnit) := do
  Go.modify (Core.closeServer j)
  Go.call o

/-- `if Box != nil { Box.Close(); Box = nil }`. -/
def dropBox (o : Outcome PUnit) : Go Core PUnit := do
  match (← Go.get).box with
  | none => pure ⟨⟩
  | some i =>
    let _ ← closeBox i o
    Go.modify (Core.setBox none)

def stopAndAlert (msgType : MessageType) (message : String) (x : AlertCalls) : Go Core PUnit := do
  let _ ← setCoreStatus .stopped msgType message
  let _ ← deactivateTunnel x.stopTunnel
  clearService x.clearService
  dropBox x.boxClose
  match (← Go.get).oldCommandServer with
  | none => pure ⟨⟩
  | some j =>
    let _ ← closeCommandServer j x.serverClose
    pure ⟨⟩

/-- `defer DeferPanicToError(name, ...)` in an operation: the recovered panic runs `StopAndAlert`
and the operation returns `nil, nil`. The stack trace in the text is left out. -/
def deferPanicToError (name : String) (x : AlertCalls) (body : Go Core Reply) : Go Core Reply :=
  Go.deferRecover {} (fun r => stopAndAlert .unexpectedError (name ++ " panic: " ++ r) x) body

/-! ### StartService -/

/-- The error exit of `StartService`, one copy for each step with the step's message type. -/
def failStart (msgType : MessageType) (err : String) (x : AlertCalls) : Go Core Reply := do
  let resp ← setCoreStatus .stopped msgType err
  stopAndAlert .unexpectedError err x
  pure { resp := some resp, err := some err }

/-- Run a step of `StartService`, leaving through `failStart` when it returns an error. -/
def attempt {α : Type} (step : Go Core (Except String α)) (msgType : MessageType) (x : AlertCalls)
    (next : α → Go Core Reply) : Go Core Reply := do
  match ← step with
  | .error e => failStart msgType e x
  | .ok a => next a

def readContent (req : StartRequest) (x : StartServiceCalls) : Go Core (Except String String) :=
  if req.configContent = "" then do
    Go.modify (Core.setPath req.configPath)
    Go.call (x.readFile req.configPath)
  else
    pure (.ok req.configContent)

/-- The call of `ActivateTunnelService` inside `BuildConfig`. -/
def activateTunnel (opt : ConfigOptions) : Go Core PUnit :=
  if opt.enableTunService then
    Go.modify fun s => s.setTunnel (activateTunnelService opt s.tunnel)
  else
    pure ⟨⟩

/-- `BuildConfig(*configOptions, parsedContent)` unless the raw configuration was asked for. The
dereference of a nil `configOptions` panics. -/
def buildContent (req : StartRequest) (parsed : Singbox.Options) (x : StartServiceCalls) :
    Go Core (Except String Singbox.Options) := do
  if req.enableRawConfig then
    pure (.ok parsed)
  else
    match (← Go.get).configOptions with
    | none => Go.panic "invalid memory address or nil pointer dereference"
    | some opt =>
      activateTunnel opt
      Go.call (x.build opt parsed)

def saveCurrentConfig (x : StartServiceCalls) : Go Core PUnit := do
  Go.callVoid x.saveConfig
  Go.modify fun s => if s.activeConfigPath = "" then s.setPath s.currentBuildConfigPath else s

def startCommandServer (o : Outcome PUnit) : Go Core (Except String PUnit) := do
  if (← Go.get).coreLogFactory then
    let j := (← Go.get).servers.length
    Go.modify Core.addServer
    match ← Go.call o with
    | .error e => pure (.error e)
    | .ok _ =>
      Go.modify (Core.startServer j)
      pure (.ok ⟨⟩)
  else
    Go.panic "invalid memory address or nil pointer dereference"

def commandServerStep (req : StartRequest) (x : StartServiceCalls) :
    Go Core (Except String PUnit) :=
  if req.enableOldCommandServer then startCommandServer x.serverStart else pure (.ok ⟨⟩)

/-- `NewService`: the new instance is the last one of `instances`. -/
def newService (options : Singbox.Options) (o : Outcome PUnit) : Go Core (Except String Nat) := do
  match ← Go.call o with
  | .error e => pure (.error e)
  | .ok _ =>
    let i := (← Go.get).instances.length
    Go.modify (Core.addInstance options)
    pure (.ok i)

def startBox (i : Nat) (o : Outcome PUnit) : Go Core (Except String PUnit) := do
  match ← Go.call o with
  | .error e => pure (.error e)
  | .ok _ =>
    Go.modify (Core.startInstance i)
    pure (.ok ⟨⟩)

/-- `if in.EnableOldCommandServer { oldCommandServer.SetService(Box) }`. -/
def serveBox (req : StartRequest) (i : Nat) (o : Exit PUnit) : Go Core PUnit :=
  if req.enableOldCommandServer then do
    match (← Go.get).oldCommandServer with
    | none => Go.panic "invalid memory address or nil pointer dereference"
    | some j =>
      Go.callVoid o
      Go.modify (Core.serveServer j (some i))
  else
    pure ⟨⟩

/-- The last lines of `StartService`: `Box = instance` and the status update. -/
def publish (req : StartRequest) (i : Nat) (o : Exit PUnit) : Go Core Reply := do
  Go.modify (Core.setBox (some i))
  serveBox req i o
  let resp ← setCoreStatus .started .empty ""
  pure { resp := some resp }

def startService (req : StartRequest) (x : StartServiceCalls) : Go Core Reply :=
  attempt (readContent req x) .errorReadingConfig x.alert fun content =>
  attempt (Go.call (x.parse content)) .errorParsingConfig x.alert fun parsed =>
  attempt (buildContent req parsed x) .errorBuildingConfig x.alert fun built => do
    saveCurrentConfig x
    attempt (commandServerStep req x) .startCommandServer x.alert fun _ =>
      attempt (newService built x.newService) .createService x.alert fun i =>
      attempt (startBox i x.boxStart) .startService x.alert fun _ =>
      publish req i x.setService

/-! ### Stop, Start, Restart and ServiceReload -/

def notStarted (s : Core) : Reply where
  resp := some { coreState := s.coreState, messageType := .instanceNotStarted,
                 message := "instance is not started" }
  err := some "instance not started"

def notFound (s : Core) : Reply where
  resp := some { coreState := s.coreState, messageType := .instanceNotFound,
                 message := "instance is not found" }
  err := some "instance not found"

def stopError (s : Core) (message err : String) : Reply where
  resp := some { coreState := s.coreState, messageType := .unexpectedError, message := message }
  err := some err

/-- `Stop` once the instance is closed, from `Box = nil` on. -/
def stopServer (x : AlertCalls) : Go Core Reply := do
  Go.modify (Core.setBox none)
  match (← Go.get).oldCommandServer with
  | none =>
    let resp ← setCoreStatus .stopped .empty ""
    pure { resp := some resp }
  | some j =>
    match ← closeCommandServer j x.serverClose with
    | .error _ =>
      pure (stopError (← Go.get) "Error while Closing the comand server."
        "error while Closing the comand server.")
    | .ok _ =>
      Go.modify (Core.setServer none)
      let resp ← setCoreStatus .stopped .empty ""
      pure { resp := some resp }

/-- `Stop` after its two guards, with `i` the instance that `Box` points to. -/
def stopBox (i : Nat) (x : AlertCalls) : Go Core Reply := do
  let _ ← setCoreStatus .stopping .empty ""
  let _ ← deactivateTunnel x.stopTunnel
  clearService x.clearService
  match ← closeBox i x.boxClose with
  | .error _ =>
    pure (stopError (← Go.get) "Error while stopping the service."
      "Error while stopping the service.")
  | .ok _ => stopServer x

def stop (x : StopCalls) : Go Core Reply :=
  deferPanicToError "stop" x.recovery do
    let s ← Go.get
    if s.coreState ≠ .started then
      pure (notStarted s)
    else
      match s.box with
      | none => pure (notFound s)
      | some i => stopBox i x.toAlertCalls

/-- `Start` and `Restart` once the core is stopped. The 250 ms wait of `Restart` is left out. -/
def enterStarting (req : StartRequest) (x : StartCalls) : Go Core Reply := do
  let _ ← setCoreStatus .starting .empty ""
  Go.callVoid x.setMemoryLimit
  startService req x.service

/-- `if CoreState != STOPPED { Stop() }`, which drops the error of `Stop`. -/
def ensureStopped (x : StopCalls) : Go Core PUnit := do
  if (← Go.get).coreState ≠ .stopped then
    let _ ← stop x
    pure ⟨⟩
  else
    pure ⟨⟩

def start (req : StartRequest) (x : StartCalls) : Go Core Reply :=
  deferPanicToError "start" x.recovery do
    ensureStopped x.stop
    enterStarting req x

def restart (req : StartRequest) (x : StartCalls) : Go Core Reply :=
  deferPanicToError "restart" x.recovery do
    let s ← Go.get
    if s.coreState ≠ .started then
      pure (notStarted s)
    else
      match s.box with
      | none => pure (notFound s)
      | some _ =>
        let reply ← stop x.stop
        if reply.err.isSome then pure reply else enterStarting req x

/-- The request of `ServiceReload`, with neither a path nor a content. -/
def reloadRequest : StartRequest := { enableOldCommandServer := true, delayStart := true }

def serviceReload (x : ReloadCalls) : Go Core (Option String) := do
  let _ ← setCoreStatus .starting .empty ""
  clearService x.clearService
  Go.modify (Core.setServer none)
  dropBox x.boxClose
  let reply ← startService reloadRequest x.service
  pure reply.err

end HiddifyCore.V2
