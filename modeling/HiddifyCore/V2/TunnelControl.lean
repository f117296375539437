import HiddifyCore.GoLib.Panic

/-!
# The tunnel service under a service manager

`StartTunnelService` and `control` of `v2/tunnel_platform_service.go`, over what the service manager
of the operating system does. The exit code speaks of the last call only, the others are made for
their effect: with a manager as assumed it can still be trusted, but for an `uninstall` of a running
service that does not stop.
-/

namespace HiddifyCore.V2

open GoLib

/-- `service.Status`. -/
inductive ServiceStatus where
  | unknown | running | stopped
  deriving DecidableEq

/-- A `service.Service` and its manager in the state `σ`: a call returns an error or nil. -/
structure ServiceManager (σ : Type) where
  status : σ → ServiceStatus
  start : σ → Option String × σ
  stop : σ → Option String × σ
  install : σ → Option String × σ
  uninstall : σ → Option String × σ
  /-- `service.Control`, for the actions that `control` does not know. -/
  control : String → σ → Option String × σ
  run : σ → Option String × σ
  /-- The error of `service.New`. -/
  new : Option String := none
  /-- The error of `Logger`, which then returns a nil logger. -/
  logger : Option String := none

variable {σ : Type}

/-- One of the calls. -/
def act (call : σ → Option String × σ) : Go σ (Option String) := fun s =>
  (.ret (call s).1, (call s).2)

/-- The results at the end of `control`. -/
def controlResult (goArg : String) (err : Option String) : Nat × String :=
  match err with
  | none => (0, "Tunnel Service " ++ goArg ++ "ed Successfully.")
  | some e => (2, "Error: " ++ e)

variable (m : ServiceManager σ)

def control (goArg : String) : Go σ (Nat × String) := do
  let mut status := m.status (← Go.get)
  match goArg with
  | "uninstall" =>
    if status = .running then
      let _ ← act m.stop
    pure (controlResult goArg (← act m.uninstall))
  | "start" =>
    if status = .running then
      pure (0, "Tunnel Service Already Running.")
    else
      if status = .unknown then
        let _ ← act m.uninstall
        let _ ← act m.install
        status := m.status (← Go.get)
      if status ≠ .running then
        pure (controlResult goArg (← act m.start))
      else
        pure (controlResult goArg none)
  | "install" =>
    let _ ← act m.uninstall
    let err ← act m.install
    status := m.status (← Go.get)
    if status ≠ .running then
      pure (controlResult goArg (← act m.start))
    else
      pure (controlResult goArg err)
  | "stop" =>
    if status = .stopped then
      pure (0, "Tunnel Service Already Stopped.")
    else
      pure (controlResult goArg (← act m.stop))
  | _ => pure (controlResult goArg (← act (m.control goArg)))

def startTunnelService (goArg : String) : Go σ (Nat × String) := do
  match m.new with
  | some e => pure (1, "Error: " ++ e)
  | none =>
    if goArg ≠ "" ∧ goArg ≠ "run" then
      control m goArg
    else
      match ← act m.run with
      | none => pure (0, "")
      | some e =>
        if m.logger.isSome then
          Go.panic "invalid memory address or nil pointer dereference"
        else
          pure (3, "Error: " ++ e)

/-! ### What is assumed of the manager -/

/-- The assumptions: after a call that returns nil, `Status` and the installation are what the call
was for, only an installed service is started, and removing one does not start it. -/
structure Promises (installed : σ → Prop) : Prop where
  start {s : σ} (h : (m.start s).1 = none) :
    m.status (m.start s).2 = .running ∧ installed (m.start s).2
  stop {s : σ} (h : (m.stop s).1 = none) : m.status (m.stop s).2 = .stopped
  install {s : σ} (h : (m.install s).1 = none) : installed (m.install s).2
  uninstall {s : σ} (h : (m.uninstall s).1 = none) : ¬ installed (m.uninstall s).2
  uninstall_running {s : σ} (h : m.status (m.uninstall s).2 = .running) : m.status s = .running

/-- The commands that `control` knows. -/
inductive ControlCommand where
  | uninstall | start | install | stop
  deriving DecidableEq

def ControlCommand.arg : ControlCommand → String
  | .uninstall => "uninstall"
  | .start => "start"
  | .install => "install"
  | .stop => "stop"

/-- What a command is for. -/
def ControlCommand.Reached (installed : σ → Prop) : ControlCommand → σ → Prop
  | .uninstall, s => ¬ installed s
  | .start, s => m.status s = .running
  | .install, s => installed s ∧ m.status s = .running
  | .stop, s => m.status s = .stopped

/-! ### What an exit code says -/

/-- What can be said of the results of a command given in the state `s`. -/
structure Settles (installed : σ → Prop) (c : ControlCommand) (s : σ) (r : Nat × String) (t : σ) :
    Prop where
  code : r.1 = 0 ∨ r.1 = 2
  reached : r.1 = 0 → c.Reached m installed t
  /-- Given again, the command finds its work done. -/
  again : r.1 = 0 → c = .start ∨ c = .stop → ∃ out, control m c.arg t = (.ret (0, out), t)
  /-- `uninstall` drops the error of `Stop`. -/
  leftRunning : c = .uninstall → r.1 = 0 → m.status t = .running →
    m.status s = .running ∧ (m.stop s).1.isSome

variable {m} {installed : σ → Prop} {s t : σ}

lemma controlResult_code (goArg : String) (err : Option String) :
    (controlResult goArg err).1 = 0 ∨ (controlResult goArg err).1 = 2 := by
  cases err with
  | none => exact Or.inl rfl
  | some e => exact Or.inr rfl

lemma controlResult_eq_zero {goArg : String} {err : Option String} :
    (controlResult goArg err).1 = 0 ↔ err = none := by
  cases err <;> simp [controlResult]

lemma control_start_running (h : m.status s = .running) :
    control m "start" s = (.ret (0, "Tunnel Service Already Running."), s) := by
  simp [control, Go.bind_run, Go.get, h, Go.pure_run]

lemma control_stop_stopped (h : m.status s = .stopped) :
    control m "stop" s = (.ret (0, "Tunnel Service Already Stopped."), s) := by
  simp [control, Go.bind_run, Go.get, h, Go.pure_run]

/-- A start ends well in a running service. -/
lemma Settles.of_start {r : Nat × String} (hcode : r.1 = 0 ∨ r.1 = 2)
    (h : r.1 = 0 → m.status t = .running) : Settles m installed .start s r t where
  code := hcode
  reached := h
  again hzero _ := ⟨_, control_start_running (h hzero)⟩
  leftRunning := nofun

lemma Settles.of_stop {r : Nat × String} (hcode : r.1 = 0 ∨ r.1 = 2)
    (h : r.1 = 0 → m.status t = .stopped) : Settles m installed .stop s r t where
  code := hcode
  reached := h
  again hzero _ := ⟨_, control_stop_stopped (h hzero)⟩
  leftRunning := nofun

/-! ### The commands in one equation each -/

/-- `Start`, unless the service runs by then. -/
def startUnlessRunning (m : ServiceManager σ) (goArg : String) (err : Option String) (u : σ) :
    Exit (Nat × String) × σ :=
  if m.status u = .running then (.ret (controlResult goArg err), u)
  else (.ret (controlResult goArg (m.start u).1), (m.start u).2)

lemma control_uninstall (s : σ) :
    control m "uninstall" s =
      let u := if m.status s = .running then (m.stop s).2 else s
      (.ret (controlResult "uninstall" (m.uninstall u).1), (m.uninstall u).2) := by
  simp only [control, Go.bind_run, Go.get]
  split_ifs <;> rfl

lemma control_start (h : m.status s ≠ .running) :
    control m "start" s = startUnlessRunning m "start" none
      (if m.status s = .unknown then (m.install (m.uninstall s).2).2 else s) := by
  simp only [control, Go.bind_run, Go.get, if_neg h, startUnlessRunning]
  by_cases hunknown : m.status s = .unknown
  · simp only [hunknown, if_true]
    by_cases hrun : m.status (m.install (m.uninstall s).2).2 = .running
    · simp [act, Go.bind_run, Go.get, Go.pure_run, hrun]
    · simp [act, Go.bind_run, Go.get, Go.pure_run, hrun]
  · simp [act, Go.bind_run, Go.pure_run, hunknown, h]

lemma control_install (s : σ) :
    control m "install" s = startUnlessRunning m "install" (m.install (m.uninstall s).2).1
      (m.install (m.uninstall s).2).2 := by
  simp only [control, Go.bind_run, Go.get, startUnlessRunning]
  by_cases hrun : m.status (m.install (m.uninstall s).2).2 = .running
  · simp [act, Go.pure_run, hrun]
  · simp [act, Go.bind_run, Go.pure_run, hrun]

lemma control_stop (h : m.status s ≠ .stopped) :
    control m "stop" s = (.ret (controlResult "stop" (m.stop s).1), (m.stop s).2) := by
  simp [control, act, Go.bind_run, Go.get, Go.pure_run, h]

/-- What a manager as assumed makes of it. -/
lemma startUnlessRunning_spec (hm : Promises m installed) (goArg : String) (err : Option String)
    (u : σ) : ∃ r t, startUnlessRunning m goArg err u = (.ret r, t) ∧ (r.1 = 0 ∨ r.1 = 2) ∧
      (r.1 = 0 → m.status t = .running ∧ (installed t ∨ t = u ∧ err = none)) := by
  unfold startUnlessRunning
  split_ifs with hrun
  · exact ⟨_, _, rfl, controlResult_code _ _, fun hzero =>
      ⟨hrun, Or.inr ⟨rfl, controlResult_eq_zero.mp hzero⟩⟩⟩
  · refine ⟨_, _, rfl, controlResult_code _ _, fun hzero => ?_⟩
    obtain ⟨hrunning, hinstalled⟩ := hm.start (controlResult_eq_zero.mp hzero)
    exact ⟨hrunning, Or.inl hinstalled⟩

lemma uninstall_settles (hm : Promises m installed) (s : σ) :
    ∃ r t, control m "uninstall" s = (.ret r, t) ∧ Settles m installed .uninstall s r t := by
  refine ⟨_, _, control_uninstall s, controlResult_code _ _, ?_, ?_, ?_⟩
  · intro hzero
    exact hm.uninstall (controlResult_eq_zero.mp hzero)
  · rintro - (h | h) <;> cases h
  · intro _ _ hrunning
    have hbefore := hm.uninstall_running hrunning
    by_cases hrun : m.status s = .running
    · -- the service ran, was to be stopped, and still runs
      rw [if_pos hrun] at hbefore
      refine ⟨hrun, Option.ne_none_iff_isSome.mp fun hstop => ?_⟩
      rw [hm.stop hstop] at hbefore
      cases hbefore
    · rw [if_neg hrun] at hbefore
      exact absurd hbefore hrun

lemma control_settles (hm : Promises m installed) (c : ControlCommand) (s : σ) :
    ∃ r t, control m c.arg s = (.ret r, t) ∧ Settles m installed c s r t := by
  cases c with
  | uninstall => exact uninstall_settles hm s
  | start =>
    by_cases hrun : m.status s = .running
    · exact ⟨_, _, control_start_running hrun, .of_start (Or.inl rfl) fun _ => hrun⟩
    · obtain ⟨r, t, heq, hcode, hzero⟩ := startUnlessRunning_spec hm "start" none
        (if m.status s = .unknown then (m.install (m.uninstall s).2).2 else s)
      exact ⟨r, t, (control_start hrun).trans heq, .of_start hcode fun h => (hzero h).1⟩
  | install =>
    obtain ⟨r, t, heq, hcode, hzero⟩ := startUnlessRunning_spec hm "install"
      (m.install (m.uninstall s).2).1 (m.install (m.uninstall s).2).2
    refine ⟨r, t, (control_install s).trans heq, hcode, fun h => ?_, ?_, nofun⟩
    · obtain ⟨hrunning, hinstalled | ⟨rfl, herr⟩⟩ := hzero h
      · exact ⟨hinstalled, hrunning⟩
      · exact ⟨hm.install herr, hrunning⟩
    · rintro - (h | h) <;> cases h
  | stop =>
    by_cases hstopped : m.status s = .stopped
    · exact ⟨_, _, control_stop_stopped hstopped, .of_stop (Or.inl rfl) fun _ => hstopped⟩
    · exact ⟨_, _, control_stop hstopped, .of_stop (controlResult_code _ _) fun hzero =>
        hm.stop (controlResult_eq_zero.mp hzero)⟩

/-- With a manager as assumed, an exit code of zero means that the command is done, and no other
code than two comes otherwise, or one when there is no manager. A start or a stop that succeeded
does nothing when it is given again. An `uninstall` leaves a running service behind only when `Stop`
refused to end it. -/
theorem startTunnelService_settles (hm : Promises m installed) (c : ControlCommand) (s : σ) :
    ∃ r t, startTunnelService m c.arg s = (.ret r, t) ∧
      if m.new.isSome then r.1 = 1 ∧ t = s else Settles m installed c s r t := by
  cases hnew : m.new with
  | some e =>
    exact ⟨(1, "Error: " ++ e), s, by simp [startTunnelService, hnew, Go.pure_run], by simp⟩
  | none =>
    obtain ⟨r, t, hrun, hsettles⟩ := control_settles hm c s
    have harg : c.arg ≠ "" ∧ c.arg ≠ "run" := by cases c <;> simp [ControlCommand.arg]
    refine ⟨r, t, ?_, by simpa using hsettles⟩
    simpa only [startTunnelService, hnew, if_pos harg] using hrun

/-- A manager of one service, which is installed or not and runs or not. -/
def singleService : ServiceManager (Bool × Bool) where
  status
    | (_, true) => .running
    | (true, false) => .stopped
    | (false, false) => .unknown
  start
    | (true, _) => (none, (true, true))
    | s => (some "not installed", s)
  stop
    | (true, _) => (none, (true, false))
    | s => (some "not installed", s)
  install
    | (false, running) => (none, (true, running))
    | s => (some "already installed", s)
  uninstall
    | (true, running) => (none, (false, running))
    | s => (some "not installed", s)
  control action s := (some ("Unknown action " ++ action), s)
  run s := (none, s)

lemma singleService_promises : Promises singleService fun s => s.1 = true := by
  constructor <;> rintro ⟨_ | _, _ | _⟩ h <;> simp_all [singleService]

/-- From nothing to a running service. -/
theorem startTunnelService_settles_install :
    ∃ r t, startTunnelService singleService "install" (false, false) = (.ret r, t) ∧
      if singleService.new.isSome then r.1 = 1 ∧ t = (false, false)
      else Settles singleService (fun s => s.1 = true) .install (false, false) r t :=
  startTunnelService_settles singleService_promises .install (false, false)

end HiddifyCore.V2
