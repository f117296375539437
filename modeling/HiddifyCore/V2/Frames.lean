import HiddifyCore.V2.Operations

/-!
# What the pieces write

The pieces of the operations write to few variables each. A relation of states that allows these
writes relates the states before and after a piece, however it ends. `StepFrame` is for the steps of
`StartService` up to the new instance, `StopFrame` for all of `StopAndAlert` and `Stop`.
-/

namespace HiddifyCore.V2

open GoLib Config

/-- The command server is all that `clearService` writes to. -/
lemma clearService_of_serveServer {R : Core → Core → Prop} (hrefl : ∀ s, R s s)
    (htrans : ∀ s t u, R s t → R t u → R s u) (hserve : ∀ j s, R s (s.serveServer j none))
    (o : Exit PUnit) : Go.Within R (clearService o) := by
  apply Go.Within.get_bind
  intro s
  cases s.oldCommandServer with
  | none => exact hrefl s
  | some j =>
    exact Go.Within.bind htrans (m := Go.callVoid o) (.callVoid hrefl o)
      (fun _ => Go.Within.modify (f := Core.serveServer j none) (hserve j)) s

/-- A preorder of states that allows writes to the status, the path, the tunnel service, and the
service of a command server. -/
structure StepFrame (R : Core → Core → Prop) : Prop where
  refl (s : Core) : R s s
  trans (s t u : Core) : R s t → R t u → R s u
  setState (c : CoreState) (s : Core) : R s (s.setState c)
  setPath (path : String) (s : Core) : R s (s.setPath path)
  setTunnel (t : Tunnel) (s : Core) : R s (s.setTunnel t)
  serveServer (j : Nat) (service : Option Nat) (s : Core) : R s (s.serveServer j service)

namespace StepFrame

variable {R : Core → Core → Prop} (hR : StepFrame R)

include hR

lemma setCoreStatus_within (c : CoreState) (msgType : MessageType) (message : String) :
    Go.Within R (setCoreStatus c msgType message) :=
  .bind hR.trans (.modify (hR.setState c)) fun _ => .pure hR.refl _

lemma deactivateTunnel_within (o : Outcome PUnit) : Go.Within R (deactivateTunnel o) :=
  fun s => hR.setTunnel _ s

lemma clearService_within (o : Exit PUnit) : Go.Within R (clearService o) :=
  clearService_of_serveServer hR.refl hR.trans (fun j s => hR.serveServer j none s) o

lemma readContent_within (req : StartRequest) (x : StartServiceCalls) :
    Go.Within R (readContent req x) := by
  simp only [readContent]
  split_ifs
  · exact .bind hR.trans (.modify (hR.setPath _)) fun _ => .call hR.refl _
  · exact .pure hR.refl _

lemma activateTunnel_within (opt : ConfigOptions) : Go.Within R (activateTunnel opt) := by
  simp only [activateTunnel]
  split_ifs
  · exact .modify fun s => hR.setTunnel _ s
  · exact .pure hR.refl _

lemma buildContent_within (req : StartRequest) (parsed : Singbox.Options) (x : StartServiceCalls) :
    Go.Within R (buildContent req parsed x) := by
  simp only [buildContent]
  split_ifs
  · exact .pure hR.refl _
  apply Go.Within.get_bind
  intro s
  cases s.configOptions with
  | none => exact hR.refl s
  | some opt =>
    exact Go.Within.bind hR.trans (hR.activateTunnel_within opt)
      (fun _ => .call hR.refl (x.build opt parsed)) s

lemma saveCurrentConfig_within (x : StartServiceCalls) : Go.Within R (saveCurrentConfig x) := by
  refine .bind hR.trans (.callVoid hR.refl _) fun _ => .modify ?_
  intro s
  split_ifs
  · exact hR.setPath _ s
  · exact hR.refl s

lemma serveBox_within (req : StartRequest) (i : Nat) (o : Exit PUnit) :
    Go.Within R (serveBox req i o) := by
  simp only [serveBox]
  split_ifs
  · apply Go.Within.get_bind
    intro s
    cases s.oldCommandServer with
    | none => exact hR.refl s
    | some j =>
      exact Go.Within.bind hR.trans (m := Go.callVoid o) (.callVoid hR.refl o)
        (fun _ => Go.Within.modify (f := Core.serveServer j (some i)) (hR.serveServer j _)) s
  · exact .pure hR.refl _

lemma commandServerStep_within (hadd : ∀ s, R s s.addServer) (hstart : ∀ j s, R s (s.startServer j))
    (req : StartRequest) (x : StartServiceCalls) : Go.Within R (commandServerStep req x) := by
  simp only [commandServerStep]
  split_ifs
  · apply Go.Within.get_bind
    intro s
    split_ifs
    · refine Go.Within.bind hR.trans (.get hR.refl) (fun t => ?_) s
      refine .bind hR.trans (.modify hadd) fun _ => ?_
      refine .bind hR.trans (.call hR.refl x.serverStart) ?_
      intro r
      cases r with
      | error e => exact .pure hR.refl _
      | ok a => exact .bind hR.trans (.modify (hstart _)) fun _ => .pure hR.refl _
    · exact hR.refl s
  · exact .pure hR.refl _

end StepFrame

/-! ### The box -/

lemma sameBoxFrame : StepFrame SameBox where
  refl := SameBox.refl
  trans := SameBox.trans
  setState _ _ := ⟨rfl, rfl⟩
  setPath _ _ := ⟨rfl, rfl⟩
  setTunnel _ _ := ⟨rfl, rfl⟩
  serveServer _ _ _ := ⟨rfl, rfl⟩

lemma closeCommandServer_within (j : Nat) (o : Outcome PUnit) :
    Go.Within SameBox (closeCommandServer j o) :=
  .bind SameBox.trans (.modify fun _ => ⟨rfl, rfl⟩) fun _ => .call SameBox.refl o

lemma sameBox_commandServerStep (req : StartRequest) (x : StartServiceCalls) :
    Go.Within SameBox (commandServerStep req x) :=
  sameBoxFrame.commandServerStep_within (fun _ => ⟨rfl, rfl⟩) (fun _ _ => ⟨rfl, rfl⟩) req x

/-! ### Stopping -/

/-- A preorder of states that allows what `StopAndAlert` and `Stop` write. -/
structure StopFrame (R : Core → Core → Prop) : Prop where
  refl (s : Core) : R s s
  trans (s t u : Core) : R s t → R t u → R s u
  setState (c : CoreState) (s : Core) : R s (s.setState c)
  deactivate (o : Outcome PUnit) : Go.Within R (deactivateTunnel o)
  unserve (j : Nat) (s : Core) : R s (s.serveServer j none)
  closeInstance (i : Nat) (s : Core) : R s (s.closeInstance i)
  dropBox (s : Core) : R s (s.setBox none)
  closeServer (j : Nat) (s : Core) : R s (s.closeServer j)
  dropServer (s : Core) : R s (s.setServer none)

namespace StopFrame

variable {R : Core → Core → Prop} (hR : StopFrame R)

include hR

lemma setCoreStatus_within (c : CoreState) (msgType : MessageType) (message : String) :
    Go.Within R (setCoreStatus c msgType message) :=
  .bind hR.trans (.modify (hR.setState c)) fun _ => .pure hR.refl _

lemma clearService_within (o : Exit PUnit) : Go.Within R (clearService o) :=
  clearService_of_serveServer hR.refl hR.trans hR.unserve o

lemma closeBox_within (i : Nat) (o : Outcome PUnit) : Go.Within R (closeBox i o) :=
  .bind hR.trans (.modify (hR.closeInstance i)) fun _ => .call hR.refl o

lemma closeCommandServer_within (j : Nat) (o : Outcome PUnit) :
    Go.Within R (closeCommandServer j o) :=
  .bind hR.trans (.modify (hR.closeServer j)) fun _ => .call hR.refl o

lemma dropBox_within (o : Outcome PUnit) : Go.Within R (V2.dropBox o) := by
  apply Go.Within.get_bind
  intro s
  cases s.box with
  | none => exact hR.refl s
  | some i =>
    exact Go.Within.bind hR.trans (hR.closeBox_within i o)
      (fun _ => Go.Within.modify (f := Core.setBox none) hR.dropBox) s

/-- `StopAndAlert` from the two services on. -/
lemma closeServices_within (x : AlertCalls) : Go.Within R (do
    clearService x.clearService
    V2.dropBox x.boxClose
    match (← Go.get).oldCommandServer with
    | none => pure ⟨⟩
    | some j =>
      let _ ← closeCommandServer j x.serverClose
      pure ⟨⟩ : Go Core PUnit) := by
  refine .bind hR.trans (hR.clearService_within _) fun _ => ?_
  refine .bind hR.trans (hR.dropBox_within _) fun _ => ?_
  apply Go.Within.get_bind
  intro s
  cases s.oldCommandServer with
  | none => exact hR.refl s
  | some j =>
    exact Go.Within.bind hR.trans (hR.closeCommandServer_within j _)
      (fun _ => .pure hR.refl _) s

lemma stopAndAlert_within (msgType : MessageType) (message : String) (x : AlertCalls) :
    Go.Within R (stopAndAlert msgType message x) :=
  .bind hR.trans (hR.setCoreStatus_within _ _ _) fun _ =>
    .bind hR.trans (hR.deactivate _) fun _ => hR.closeServices_within x

lemma deferPanicToError_within {name : String} {x : AlertCalls} {body : Go Core Reply}
    (h : Go.Within R body) : Go.Within R (deferPanicToError name x body) :=
  .deferRecover hR.refl hR.trans h fun _ => hR.stopAndAlert_within _ _ x

lemma stopServer_within (x : AlertCalls) : Go.Within R (stopServer x) := by
  refine .bind hR.trans (.modify hR.dropBox) fun _ => ?_
  apply Go.Within.get_bind
  intro s
  cases s.oldCommandServer with
  | none =>
    exact Go.Within.bind hR.trans (hR.setCoreStatus_within _ _ _) (fun _ => .pure hR.refl _) s
  | some j =>
    refine Go.Within.bind hR.trans (hR.closeCommandServer_within j _) (fun r => ?_) s
    cases r with
    | error e => exact .get_bind fun s => hR.refl s
    | ok a =>
      refine .bind hR.trans (.modify hR.dropServer) fun _ => ?_
      exact .bind hR.trans (hR.setCoreStatus_within _ _ _) fun _ => .pure hR.refl _

/-- `stopBox` from its call of `DeactivateTunnelService` on. -/
lemma closeBox_stopServer_within (i : Nat) (x : AlertCalls) :
    Go.Within R (do
      clearService x.clearService
      match ← closeBox i x.boxClose with
      | .error _ =>
        pure (stopError (← Go.get) "Error while stopping the service."
          "Error while stopping the service.")
      | .ok _ => stopServer x) := by
  refine .bind hR.trans (hR.clearService_within _) fun _ => ?_
  apply Go.Within.bind hR.trans (hR.closeBox_within i _)
  intro r
  cases r with
  | error e => exact .get_bind fun s => hR.refl s
  | ok a => exact hR.stopServer_within x

lemma stopBox_within (i : Nat) (x : AlertCalls) : Go.Within R (stopBox i x) := by
  refine .bind hR.trans (hR.setCoreStatus_within _ _ _) fun _ => ?_
  refine .bind hR.trans (hR.deactivate _) fun _ => ?_
  exact hR.closeBox_stopServer_within i x

lemma stop_within (x : StopCalls) : Go.Within R (stop x) := by
  apply hR.deferPanicToError_within
  apply Go.Within.get_bind
  intro s
  split_ifs
  · exact hR.refl s
  cases s.box with
  | none => exact hR.refl s
  | some i => exact hR.stopBox_within i _ s

lemma failStart_within (msgType : MessageType) (err : String) (x : AlertCalls) :
    Go.Within R (failStart msgType err x) := by
  refine .bind hR.trans (hR.setCoreStatus_within _ _ _) fun _ => ?_
  exact .bind hR.trans (hR.stopAndAlert_within _ _ x) fun _ => .pure hR.refl _

lemma attempt_within {α : Type} {step : Go Core (Except String α)} {msgType : MessageType}
    {x : AlertCalls} {next : α → Go Core Reply} (hstep : Go.Within R step)
    (hnext : ∀ a, Go.Within R (next a)) : Go.Within R (attempt step msgType x next) := by
  apply Go.Within.bind hR.trans hstep
  intro r
  cases r with
  | error e => exact hR.failStart_within msgType e x
  | ok a => exact hnext a

end StopFrame

/-! ### Whole operations -/

/-- A preorder of states that allows every write of the operations. -/
structure OpFrame (R : Core → Core → Prop) : Prop extends StepFrame R, StopFrame R where
  setBox (i : Nat) (s : Core) : R s (s.setBox (some i))
  addInstance (o : Singbox.Options) (s : Core) : R s (s.addInstance o)
  startInstance (i : Nat) (s : Core) : R s (s.startInstance i)
  addServer (s : Core) : R s s.addServer
  startServer (j : Nat) (s : Core) : R s (s.startServer j)

namespace OpFrame

variable {R : Core → Core → Prop} (hR : OpFrame R)

include hR

lemma newService_within (options : Singbox.Options) (o : Outcome PUnit) :
    Go.Within R (newService options o) := by
  refine .bind hR.trans (.call hR.refl o) ?_
  intro r
  cases r with
  | error e => exact .pure hR.refl _
  | ok a => exact Go.Within.get_bind fun s => hR.addInstance options s

lemma startBox_within (i : Nat) (o : Outcome PUnit) : Go.Within R (startBox i o) := by
  refine .bind hR.trans (.call hR.refl o) ?_
  intro r
  cases r with
  | error e => exact .pure hR.refl _
  | ok a => exact .bind hR.trans (.modify (hR.startInstance i)) fun _ => .pure hR.refl _

lemma publish_within (req : StartRequest) (i : Nat) (o : Exit PUnit) :
    Go.Within R (publish req i o) := by
  refine .bind hR.trans (.modify (hR.setBox i)) fun _ => ?_
  refine .bind hR.trans (hR.serveBox_within req i o) fun _ => ?_
  exact .bind hR.trans (hR.toStopFrame.setCoreStatus_within _ _ _) fun _ => .pure hR.refl _

lemma startService_within (req : StartRequest) (x : StartServiceCalls) :
    Go.Within R (startService req x) := by
  apply hR.attempt_within (hR.readContent_within req x)
  intro content
  apply hR.attempt_within (.call hR.refl _)
  intro parsed
  apply hR.attempt_within (hR.buildContent_within req parsed x)
  intro built
  refine .bind hR.trans (hR.saveCurrentConfig_within x) fun _ => ?_
  apply hR.attempt_within (hR.commandServerStep_within hR.addServer hR.startServer req x)
  intro _
  apply hR.attempt_within (hR.newService_within built _)
  intro i
  apply hR.attempt_within (hR.startBox_within i _)
  intro _
  exact hR.publish_within req i _

lemma enterStarting_within (req : StartRequest) (x : StartCalls) :
    Go.Within R (enterStarting req x) := by
  refine .bind hR.trans (hR.toStopFrame.setCoreStatus_within _ _ _) fun _ => ?_
  refine .bind hR.trans (.callVoid hR.refl _) fun _ => ?_
  exact hR.startService_within req x.service

lemma start_within (req : StartRequest) (x : StartCalls) : Go.Within R (start req x) := by
  apply hR.deferPanicToError_within
  refine .bind hR.trans ?_ fun _ => hR.enterStarting_within req x
  apply Go.Within.get_bind
  intro s
  split_ifs
  · exact Go.Within.bind hR.trans (hR.stop_within x.stop) (fun _ => .pure hR.refl _) s
  · exact hR.refl s

lemma restart_within (req : StartRequest) (x : StartCalls) : Go.Within R (restart req x) := by
  apply hR.deferPanicToError_within
  apply Go.Within.get_bind
  intro s
  split_ifs
  · exact hR.refl s
  cases s.box with
  | none => exact hR.refl s
  | some i =>
    refine Go.Within.bind hR.trans (hR.stop_within x.stop) (fun reply => ?_) s
    split_ifs
    · exact .pure hR.refl _
    · exact hR.enterStarting_within req x

lemma serviceReload_within (x : ReloadCalls) : Go.Within R (serviceReload x) := by
  refine .bind hR.trans (hR.toStopFrame.setCoreStatus_within _ _ _) fun _ => ?_
  refine .bind hR.trans (hR.toStopFrame.clearService_within _) fun _ => ?_
  refine .bind hR.trans (.modify hR.dropServer) fun _ => ?_
  refine .bind hR.trans (hR.dropBox_within _) fun _ => ?_
  exact .bind hR.trans (hR.startService_within reloadRequest x.service) fun _ => .pure hR.refl _

lemma exec_within (op : Op) : Go.Within R op.exec := by
  have hdiscard : ∀ {α : Type} {m : Go Core α}, Go.Within R m → Go.Within R (discard m) :=
    fun hm => .bind hR.trans hm fun _ => .pure hR.refl _
  cases op with
  | start req x => exact hdiscard (hR.start_within req x)
  | startService req x => exact hdiscard (hR.startService_within req x)
  | stop x => exact hdiscard (hR.stop_within x)
  | restart req x => exact hdiscard (hR.restart_within req x)
  | stopAndAlert msgType message x => exact hR.stopAndAlert_within msgType message x
  | serviceReload x => exact hdiscard (hR.serviceReload_within x)

end OpFrame

lemma Step.within {R : Core → Core → Prop} (hR : OpFrame R) {s t : Core} {op : Op}
    (h : Step s op t) : R s t := by
  have hexec := hR.exec_within op s
  rw [h] at hexec
  exact hexec

/-- What decides how far `StartService` gets. -/
def SameSetup (s t : Core) : Prop :=
  t.configOptions = s.configOptions ∧ t.coreLogFactory = s.coreLogFactory

/-- No operation writes to the setup. -/
lemma setupFrame : OpFrame SameSetup where
  refl _ := ⟨rfl, rfl⟩
  trans _ _ _ hst htu := ⟨htu.1.trans hst.1, htu.2.trans hst.2⟩
  setState _ _ := ⟨rfl, rfl⟩
  setPath _ _ := ⟨rfl, rfl⟩
  setTunnel _ _ := ⟨rfl, rfl⟩
  serveServer _ _ _ := ⟨rfl, rfl⟩
  deactivate _ _ := ⟨rfl, rfl⟩
  unserve _ _ := ⟨rfl, rfl⟩
  closeInstance _ _ := ⟨rfl, rfl⟩
  dropBox _ := ⟨rfl, rfl⟩
  closeServer _ _ := ⟨rfl, rfl⟩
  dropServer _ := ⟨rfl, rfl⟩
  setBox _ _ := ⟨rfl, rfl⟩
  addInstance _ _ := ⟨rfl, rfl⟩
  startInstance _ _ := ⟨rfl, rfl⟩
  addServer _ := ⟨rfl, rfl⟩
  startServer _ _ := ⟨rfl, rfl⟩

lemma SameSetup.symm {s t : Core} (h : SameSetup s t) : SameSetup t s := ⟨h.1.symm, h.2.symm⟩

end HiddifyCore.V2
