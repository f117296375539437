import HiddifyCore.GoLib.JsonEncode
import HiddifyCore.GoLib.Simulate
import HiddifyCore.V2.Operations

/-!
# What the operations announce

`SetCoreStatus` of `v2/coreinfo.go` and `StopAndAlert` tell the listeners of `CoreInfo` and the
port of the Flutter bridge about every change of `CoreState`. The operations of `v2/custom.go` and
`ServiceReload` are repeated here with what they announce. Without it they are the operations on
`Core` (`simulates_start` and the others), so that what is known of those holds of these.
-/

namespace HiddifyCore.V2

open GoLib Config JsonDecode

/-! ### Messages -/

def convert2OldState : CoreState → String
  | .stopped => "Stopped"
  | .started => "Started"
  | .starting => "Starting"
  | .stopping => "Stopping"

/-- `pb.MessageType.String`. -/
def MessageType.string : MessageType → String
  | .empty => "EMPTY"
  | .startCommandServer => "START_COMMAND_SERVER"
  | .createService => "CREATE_SERVICE"
  | .startService => "START_SERVICE"
  | .unexpectedError => "UNEXPECTED_ERROR"
  | .instanceNotFound => "INSTANCE_NOT_FOUND"
  | .instanceNotStarted => "INSTANCE_NOT_STARTED"
  | .errorBuildingConfig => "ERROR_BUILDING_CONFIG"
  | .errorParsingConfig => "ERROR_PARSING_CONFIG"
  | .errorReadingConfig => "ERROR_READING_CONFIG"

structure StatusMessage where
  status : String
  alert : Option String := none
  message : Option String := none
  deriving DecidableEq, Repr

def pointerString : Codec (Option String) := .pointer "" .string fun _ => nofun

def statusMessageMembers : List (Member StatusMessage) := [
  .of "status" (·.status) (fun v m => { m with status := v }) .string,
  .of "alert" (·.alert) (fun v m => { m with alert := v }) pointerString,
  .of "message" (·.message) (fun v m => { m with message := v }) pointerString]

def statusMessageCodec : Codec StatusMessage :=
  .struct statusMessageMembers (by decide) fun _ _ => rfl

/-- `json.Marshal(StatusMessage{...})`. -/
def marshalStatus (m : StatusMessage) : String := statusMessageCodec.marshal m

/-- What the other side reads of a text that is passed as a C string. -/
def cString (text : String) : String := String.ofList (text.toList.takeWhile (· ≠ '\x00'))

lemma cString_of_isPrintable {text : String} (h : JsonText.IsPrintable text.toList) :
    cString text = text := by
  have hall : ∀ c ∈ text.toList, decide (c ≠ '\x00') = true := by
    intro c hc
    apply decide_eq_true
    rintro rfl
    exact absurd (h _ hc) (by decide)
  rw [cString, List.takeWhile_eq_self_iff.mpr hall, String.ofList_toList]

/-- A marshalled message has no control character in it, so all of it arrives. -/
lemma cString_marshalStatus (m : StatusMessage) : cString (marshalStatus m) = marshalStatus m :=
  cString_of_isPrintable (statusMessageCodec.isPrintable_marshal m)

lemma unmarshal_marshalStatus (m old : StatusMessage) :
    unmarshal statusMessageCodec.decode (cString (marshalStatus m)) old = (m, none) := by
  rw [cString_marshalStatus]
  exact statusMessageCodec.unmarshal_encode .compact (by decide) m old

/-! ### The record -/

/-- The core with what was announced since the process started. -/
structure Announcer where
  core : Core := {}
  /-- What `coreInfoObserver` emitted. -/
  infos : List CoreInfoResponse := []
  /-- What arrived at `statusPropagationPort`. -/
  texts : List String := []

namespace Announcer

@[simps]
def setCore (s : Core) (a : Announcer) : Announcer := { a with core := s }

@[simps]
def emit (info : CoreInfoResponse) (a : Announcer) : Announcer :=
  { a with infos := a.infos ++ [info] }

@[simps]
def post (text : String) (a : Announcer) : Announcer := { a with texts := a.texts ++ [text] }

end Announcer

/-- A computation that announces nothing. -/
def quiet {α : Type} (m : Go Core α) : Go Announcer α := Go.zoom Announcer.core Announcer.setCore m

namespace Announced

section Operations

-- whether `useFlutterBridge` is set, which only the command line tools clear
variable (useFlutterBridge : Bool)

/-- `bridge.SendStringToPort(statusPropagationPort, msg)` for the current `CoreState`. -/
def sendStatus (alert message : Option String) : Go Announcer PUnit :=
  Go.modify fun a =>
    if useFlutterBridge then
      a.post (cString (marshalStatus { status := convert2OldState a.core.coreState, alert := alert,
                                       message := message }))
    else a

def setCoreStatus (state : CoreState) (msgType : MessageType) (message : String) :
    Go Announcer CoreInfoResponse := do
  let info ← quiet (V2.setCoreStatus state msgType message)
  Go.modify (Announcer.emit info)
  sendStatus useFlutterBridge none none
  pure info

def stopAndAlert (msgType : MessageType) (message : String) (x : AlertCalls) :
    Go Announcer PUnit := do
  let _ ← setCoreStatus useFlutterBridge .stopped msgType message
  let _ ← quiet (deactivateTunnel x.stopTunnel)
  quiet (clearService x.clearService)
  quiet (dropBox x.boxClose)
  quiet do
    match (← Go.get).oldCommandServer with
    | none => pure ⟨⟩
    | some j =>
      let _ ← closeCommandServer j x.serverClose
      pure ⟨⟩
  sendStatus useFlutterBridge (some msgType.string) (some message)

def deferPanicToError (name : String) (x : AlertCalls) (body : Go Announcer Reply) :
    Go Announcer Reply :=
  Go.deferRecover {}
    (fun r => stopAndAlert useFlutterBridge .unexpectedError (name ++ " panic: " ++ r) x) body

def failStart (msgType : MessageType) (err : String) (x : AlertCalls) : Go Announcer Reply := do
  let resp ← setCoreStatus useFlutterBridge .stopped msgType err
  stopAndAlert useFlutterBridge .unexpectedError err x
  pure { resp := some resp, err := some err }

def attempt {α : Type} (step : Go Core (Except String α)) (msgType : MessageType) (x : AlertCalls)
    (next : α → Go Announcer Reply) : Go Announcer Reply := do
  match ← quiet step with
  | .error e => failStart useFlutterBridge msgType e x
  | .ok a => next a

def publish (req : StartRequest) (i : Nat) (o : Exit PUnit) : Go Announcer Reply := do
  quiet (Go.modify (Core.setBox (some i)))
  quiet (serveBox req i o)
  let resp ← setCoreStatus useFlutterBridge .started .empty ""
  pure { resp := some resp }

def startService (req : StartRequest) (x : StartServiceCalls) : Go Announcer Reply :=
  attempt useFlutterBridge (readContent req x) .errorReadingConfig x.alert fun content =>
  attempt useFlutterBridge (Go.call (x.parse content)) .errorParsingConfig x.alert fun parsed =>
  attempt useFlutterBridge (buildContent req parsed x) .errorBuildingConfig x.alert fun built => do
    quiet (saveCurrentConfig x)
    attempt useFlutterBridge (commandServerStep req x) .startCommandServer x.alert fun _ =>
      attempt useFlutterBridge (newService built x.newService) .createService x.alert fun i =>
      attempt useFlutterBridge (startBox i x.boxStart) .startService x.alert fun _ =>
      publish useFlutterBridge req i x.setService

def stopServer (x : AlertCalls) : Go Announcer Reply := do
  quiet (Go.modify (Core.setBox none))
  match (← Go.get).core.oldCommandServer with
  | none =>
    let resp ← setCoreStatus useFlutterBridge .stopped .empty ""
    pure { resp := some resp }
  | some j =>
    match ← quiet (closeCommandServer j x.serverClose) with
    | .error _ =>
      pure (stopError (← Go.get).core "Error while Closing the comand server."
        "error while Closing the comand server.")
    | .ok _ =>
      quiet (Go.modify (Core.setServer none))
      let resp ← setCoreStatus useFlutterBridge .stopped .empty ""
      pure { resp := some resp }

def stopBox (i : Nat) (x : AlertCalls) : Go Announcer Reply := do
  let _ ← setCoreStatus useFlutterBridge .stopping .empty ""
  let _ ← quiet (deactivateTunnel x.stopTunnel)
  quiet (clearService x.clearService)
  match ← quiet (closeBox i x.boxClose) with
  | .error _ =>
    pure (stopError (← Go.get).core "Error while stopping the service."
      "Error while stopping the service.")
  | .ok _ => stopServer useFlutterBridge x

def stop (x : StopCalls) : Go Announcer Reply :=
  deferPanicToError useFlutterBridge "stop" x.recovery do
    let a ← Go.get
    if a.core.coreState ≠ .started then
      pure (notStarted a.core)
    else
      match a.core.box with
      | none => pure (notFound a.core)
      | some i => stopBox useFlutterBridge i x.toAlertCalls

def enterStarting (req : StartRequest) (x : StartCalls) : Go Announcer Reply := do
  let _ ← setCoreStatus useFlutterBridge .starting .empty ""
  quiet (Go.callVoid x.setMemoryLimit)
  startService useFlutterBridge req x.service

def ensureStopped (x : StopCalls) : Go Announcer PUnit := do
  if (← Go.get).core.coreState ≠ .stopped then
    let _ ← stop useFlutterBridge x
    pure ⟨⟩
  else
    pure ⟨⟩

def start (req : StartRequest) (x : StartCalls) : Go Announcer Reply :=
  deferPanicToError useFlutterBridge "start" x.recovery do
    ensureStopped useFlutterBridge x.stop
    enterStarting useFlutterBridge req x

def restart (req : StartRequest) (x : StartCalls) : Go Announcer Reply :=
  deferPanicToError useFlutterBridge "restart" x.recovery do
    let a ← Go.get
    if a.core.coreState ≠ .started then
      pure (notStarted a.core)
    else
      match a.core.box with
      | none => pure (notFound a.core)
      | some _ =>
        let reply ← stop useFlutterBridge x.stop
        if reply.err.isSome then pure reply else enterStarting useFlutterBridge req x

def serviceReload (x : ReloadCalls) : Go Announcer (Option String) := do
  let _ ← setCoreStatus useFlutterBridge .starting .empty ""
  quiet (clearService x.clearService)
  quiet (Go.modify (Core.setServer none))
  quiet (dropBox x.boxClose)
  let reply ← startService useFlutterBridge reloadRequest x.service
  pure reply.err

/-- The entry points, as in `Op.exec`. -/
def exec (op : Op) : Go Announcer PUnit :=
  match op with
  | .start req x => do let _ ← start useFlutterBridge req x; pure ⟨⟩
  | .startService req x => do let _ ← startService useFlutterBridge req x; pure ⟨⟩
  | .stop x => do let _ ← stop useFlutterBridge x; pure ⟨⟩
  | .restart req x => do let _ ← restart useFlutterBridge req x; pure ⟨⟩
  | .stopAndAlert msgType message x => stopAndAlert useFlutterBridge msgType message x
  | .serviceReload x => do let _ ← serviceReload useFlutterBridge x; pure ⟨⟩

/-- The call `op` takes `a` to `b` and returns. -/
def Step (a : Announcer) (op : Op) (b : Announcer) : Prop :=
  exec useFlutterBridge op a = (.ret ⟨⟩, b)

end Operations

/-! ### Without the announcements -/

section Simulation

variable {useFlutterBridge : Bool}

/-- Forgetting the announcements of `m` leaves `n`. -/
abbrev Erases {α : Type} (m : Go Announcer α) (n : Go Core α) : Prop :=
  Go.Simulates (Announcer.core · = ·) (· = ·) m n

lemma erases_quiet {α : Type} (m : Go Core α) : Erases (quiet m) m := .zoom (fun _ _ => rfl) m

lemma erases_pure {α : Type} (a : α) : Erases (pure a) (pure a) := .pure rfl

lemma sendStatus_core (alert message : Option String) (a : Announcer) :
    (if useFlutterBridge then
      a.post (cString (marshalStatus { status := convert2OldState a.core.coreState, alert := alert,
                                       message := message }))
    else a).core = a.core := by
  split <;> rfl

lemma simulates_setCoreStatus (state : CoreState) (msgType : MessageType) (message : String) :
    Erases (setCoreStatus useFlutterBridge state msgType message)
      (V2.setCoreStatus state msgType message) := by
  rintro a _ rfl
  exact .ret rfl (sendStatus_core none none _)

lemma simulates_stopAndAlert (msgType : MessageType) (message : String) (x : AlertCalls) :
    Erases (stopAndAlert useFlutterBridge msgType message x)
      (V2.stopAndAlert msgType message x) := by
  refine (simulates_setCoreStatus _ _ _).bind_eq fun _ => ?_
  refine (erases_quiet _).bind_eq fun _ => (erases_quiet _).bind_eq fun _ => ?_
  refine (erases_quiet _).bind_eq fun _ => ?_
  -- the last message is sent behind the last step of the plain operation
  rintro a _ rfl
  let last : Go Core PUnit := do
    match (← Go.get).oldCommandServer with
    | none => pure ⟨⟩
    | some j =>
      let _ ← closeCommandServer j x.serverClose
      pure ⟨⟩
  have h := erases_quiet last a a.core rfl
  change Go.Related _ _ _ (last a.core)
  rw [Go.bind_run]
  generalize quiet last a = p at h ⊢
  generalize last a.core = q at h ⊢
  cases h with
  | ret hS hR => exact .ret rfl ((sendStatus_core _ _ _).trans hR)
  | panic e hR => exact .panic e hR

lemma simulates_deferPanicToError {name : String} {x : AlertCalls} {body : Go Announcer Reply}
    {body' : Go Core Reply} (h : Erases body body') :
    Erases (deferPanicToError useFlutterBridge name x body) (V2.deferPanicToError name x body') :=
  .deferRecover rfl h fun _ => simulates_stopAndAlert _ _ x

lemma simulates_failStart (msgType : MessageType) (err : String) (x : AlertCalls) :
    Erases (failStart useFlutterBridge msgType err x) (V2.failStart msgType err x) :=
  (simulates_setCoreStatus _ _ _).bind_eq fun _ =>
    (simulates_stopAndAlert _ _ x).bind_eq fun _ => erases_pure _

lemma simulates_attempt {α : Type} {step : Go Core (Except String α)} {msgType : MessageType}
    {x : AlertCalls} {next : α → Go Announcer Reply} {next' : α → Go Core Reply}
    (hnext : ∀ a, Erases (next a) (next' a)) :
    Erases (attempt useFlutterBridge step msgType x next) (V2.attempt step msgType x next') := by
  refine (erases_quiet step).bind_eq fun r => ?_
  cases r with
  | error e => exact simulates_failStart msgType e x
  | ok a => exact hnext a

lemma simulates_publish (req : StartRequest) (i : Nat) (o : Exit PUnit) :
    Erases (publish useFlutterBridge req i o) (V2.publish req i o) :=
  (erases_quiet _).bind_eq fun _ => (erases_quiet _).bind_eq fun _ =>
    (simulates_setCoreStatus _ _ _).bind_eq fun _ => erases_pure _

lemma simulates_startService (req : StartRequest) (x : StartServiceCalls) :
    Erases (startService useFlutterBridge req x) (V2.startService req x) := by
  apply simulates_attempt
  intro content
  apply simulates_attempt
  intro parsed
  apply simulates_attempt
  intro built
  refine (erases_quiet _).bind_eq fun _ => ?_
  apply simulates_attempt
  intro _
  apply simulates_attempt
  intro i
  apply simulates_attempt
  intro _
  exact simulates_publish req i _

lemma simulates_stopServer (x : AlertCalls) :
    Erases (stopServer useFlutterBridge x) (V2.stopServer x) := by
  refine (erases_quiet _).bind_eq fun _ => ?_
  apply Go.Simulates.get_bind
  rintro a _ rfl
  cases a.core.oldCommandServer with
  | none => exact (simulates_setCoreStatus _ _ _).bind_eq fun _ => erases_pure _
  | some j =>
    refine (erases_quiet _).bind_eq fun r => ?_
    cases r with
    | error e =>
      apply Go.Simulates.get_bind
      rintro b _ rfl
      exact erases_pure _
    | ok u =>
      exact (erases_quiet _).bind_eq fun _ =>
        (simulates_setCoreStatus _ _ _).bind_eq fun _ => erases_pure _

lemma simulates_stopBox (i : Nat) (x : AlertCalls) :
    Erases (stopBox useFlutterBridge i x) (V2.stopBox i x) := by
  refine (simulates_setCoreStatus _ _ _).bind_eq fun _ => ?_
  refine (erases_quiet _).bind_eq fun _ => (erases_quiet _).bind_eq fun _ => ?_
  refine (erases_quiet _).bind_eq fun r => ?_
  cases r with
  | error e =>
    apply Go.Simulates.get_bind
    rintro b _ rfl
    exact erases_pure _
  | ok u => exact simulates_stopServer x

lemma simulates_stop (x : StopCalls) : Erases (stop useFlutterBridge x) (V2.stop x) := by
  apply simulates_deferPanicToError
  apply Go.Simulates.get_bind
  rintro a _ rfl
  split_ifs
  · exact erases_pure _
  cases a.core.box with
  | none => exact erases_pure _
  | some i => exact simulates_stopBox i _

lemma simulates_enterStarting (req : StartRequest) (x : StartCalls) :
    Erases (enterStarting useFlutterBridge req x) (V2.enterStarting req x) :=
  (simulates_setCoreStatus _ _ _).bind_eq fun _ => (erases_quiet _).bind_eq fun _ =>
    simulates_startService req x.service

lemma simulates_ensureStopped (x : StopCalls) :
    Erases (ensureStopped useFlutterBridge x) (V2.ensureStopped x) := by
  apply Go.Simulates.get_bind
  rintro a _ rfl
  split_ifs
  · exact (simulates_stop x).bind_eq fun _ => erases_pure _
  · exact erases_pure _

lemma simulates_start (req : StartRequest) (x : StartCalls) :
    Erases (start useFlutterBridge req x) (V2.start req x) :=
  simulates_deferPanicToError <|
    (simulates_ensureStopped x.stop).bind_eq fun _ => simulates_enterStarting req x

lemma simulates_restart (req : StartRequest) (x : StartCalls) :
    Erases (restart useFlutterBridge req x) (V2.restart req x) := by
  apply simulates_deferPanicToError
  apply Go.Simulates.get_bind
  rintro a _ rfl
  split_ifs
  · exact erases_pure _
  cases a.core.box with
  | none => exact erases_pure _
  | some i =>
    refine (simulates_stop x.stop).bind_eq fun reply => ?_
    split_ifs
    · exact erases_pure _
    · exact simulates_enterStarting req x

lemma simulates_serviceReload (x : ReloadCalls) :
    Erases (serviceReload useFlutterBridge x) (V2.serviceReload x) := by
  refine (simulates_setCoreStatus _ _ _).bind_eq fun _ => ?_
  refine (erases_quiet _).bind_eq fun _ => (erases_quiet _).bind_eq fun _ => ?_
  refine (erases_quiet _).bind_eq fun _ => ?_
  exact (simulates_startService reloadRequest x.service).bind_eq fun _ => erases_pure _

/-- An operation with its announcements is the operation on the core. -/
lemma simulates_exec (op : Op) : Erases (exec useFlutterBridge op) op.exec := by
  cases op with
  | start req x => exact (simulates_start req x).bind_eq fun _ => erases_pure _
  | startService req x => exact (simulates_startService req x).bind_eq fun _ => erases_pure _
  | stop x => exact (simulates_stop x).bind_eq fun _ => erases_pure _
  | restart req x => exact (simulates_restart req x).bind_eq fun _ => erases_pure _
  | stopAndAlert msgType message x => exact simulates_stopAndAlert msgType message x
  | serviceReload x => exact (simulates_serviceReload x).bind_eq fun _ => erases_pure _

lemma Step.core {a b : Announcer} {op : Op} (h : Step useFlutterBridge a op b) :
    V2.Step a.core op b.core := by
  have hsim := @simulates_exec useFlutterBridge op a a.core rfl
  rw [h] at hsim
  rw [V2.Step]
  generalize op.exec a.core = q at hsim
  cases hsim with
  | ret hS hR => rw [hR]

lemma exists_step {a : Announcer} {op : Op} {t : Core} (h : V2.Step a.core op t) :
    ∃ b, Step useFlutterBridge a op b ∧ b.core = t := by
  have hsim := @simulates_exec useFlutterBridge op a a.core rfl
  rw [h] at hsim
  simp only [Step]
  generalize exec useFlutterBridge op a = p at hsim
  cases hsim with
  | ret hS hR => exact ⟨_, rfl, hR⟩

/-- A run with announcements is a run of the core, and every run of the core is one. -/
theorem run_iff {a : Announcer} {C : Op → Prop} {t : Core} :
    Run V2.Step (fun _ => C) a.core t ↔
      ∃ b, Run (Step useFlutterBridge) (fun _ => C) a b ∧ b.core = t := by
  constructor
  · intro h
    induction h with
    | refl => exact ⟨a, .refl, rfl⟩
    | tail _ op hC hstep ih =>
      obtain ⟨b, hrun, rfl⟩ := ih
      obtain ⟨c, hc, rfl⟩ := @exists_step useFlutterBridge _ _ _ hstep
      exact ⟨c, hrun.tail op hC hc, rfl⟩
  · rintro ⟨b, hrun, rfl⟩
    induction hrun with
    | refl => exact .refl
    | tail _ op hC hstep ih => exact ih.tail op hC hstep.core

end Simulation

end Announced

end HiddifyCore.V2
