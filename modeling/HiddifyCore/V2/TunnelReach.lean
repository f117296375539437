import HiddifyCore.Config.TunnelFailover
import HiddifyCore.V2.Restart
import HiddifyCore.V2.TunnelProcess

/-!
# Reaching the tunnel service process

The machine of `startTunnelRequest` with the process of the tunnel service behind the port: its
handlers answer the messages, and the commands may put any other process in its place. When the
request reports success the process runs an instance, made from the text for the options
(`startTunnelRequest_serves`).
-/

namespace HiddifyCore.V2

open GoLib Config

/-! ### What a start without an error has done -/

/-- `Box` points to a live instance that was created from these options. -/
def Core.RunsFrom (s : Core) (o : Singbox.Options) : Prop :=
  ∃ i b, s.box = some i ∧ s.instances[i]? = some b ∧ b.options = o ∧ b.started = true ∧
    b.closeCalls = 0

lemma ServiceStarted.runsFrom {req : StartRequest} {o : Singbox.Options} {s t : Core}
    (h : ServiceStarted req o s t) : t.RunsFrom o :=
  ⟨s.instances.length, { options := o, started := true }, h.box, by simp [h.instances], rfl, rfl,
    rfl⟩

/-- The core runs what sing-box parses from the text of the request. -/
def RunsRequest (req : StartRequest) (x : StartServiceCalls) (t : Core) : Prop :=
  t.coreState = .started ∧ ∃ o, x.parse req.configContent = .ok o ∧ t.RunsFrom o

variable {req : StartRequest}

/-- What a reply promises, unless it is that of a recovered panic. -/
def Trusted (req : StartRequest) (x : StartServiceCalls) (reply : Reply) (t : Core) : Prop :=
  (reply.err = none → reply.resp.isSome → RunsRequest req x t) ∧
    (reply.err ≠ none → t.coreState = .stopped)

lemma startService_trusted (hreq : req.IsRaw) (x : StartServiceCalls) (s : Core) :
    Go.Triple (· = s) (startService req x) (Trusted req x) fun _ => True := by
  rintro s rfl
  have h := startService_triple req x s s rfl
  rcases hrun : startService req x s with ⟨reply | e, t⟩
  · rw [hrun] at h
    obtain ⟨-, hsucc, -, hfail⟩ := h
    refine ⟨fun hnil _ => ?_, fun herr => (hfail herr).1⟩
    have hx := hsucc hnil
    obtain ⟨content, parsed, built, hcontent, hparse, hbuilt⟩ := hx.loads
    obtain ⟨t', hrun', hstarted⟩ :=
      startService_started hx ⟨content, parsed, hcontent, hparse, hbuilt⟩
    cases hrun.symm.trans hrun'
    rw [StartServiceCalls.content, if_neg hreq.content] at hcontent
    cases hcontent
    -- a raw configuration is run as it was parsed
    simp only [StartServiceCalls.built, hreq.raw, if_true] at hbuilt
    cases hbuilt
    exact ⟨hstarted.coreState, parsed, hparse, hstarted.runsFrom⟩
  · trivial

/-- A recovered panic returns the zero results, which say nothing. -/
lemma start_trusted (hreq : req.IsRaw) (x : StartCalls) (s : Core) :
    Go.Triple (· = s) (start req x) (Trusted req x.service) fun _ => True := by
  have hall {α : Type} (m : Go Core α) {P : Core → Prop} :
      Go.Triple P m (fun _ _ => True) fun _ => True := by
    intro t _
    rcases m t with ⟨a | e, u⟩ <;> trivial
  have hbody : Go.Triple (· = s) (do ensureStopped x.stop; enterStarting req x)
      (Trusted req x.service) fun _ => True := by
    refine Go.Triple.bind (hall _) fun _ => Go.Triple.bind (hall _) fun _ =>
      Go.Triple.bind (hall _) fun _ u _ => startService_trusted hreq x.service u u rfl
  refine Go.Triple.deferRecover hbody fun e => (hall _).post fun _ t _ => ?_
  exact ⟨fun _ h => absurd h (by simp), fun h => absurd rfl h⟩

/-- Without a panic to recover, a nil error and a running core are the same. -/
lemma start_err_iff (hreq : req.IsRaw) {x : StartCalls} {s t : Core} {reply : Reply}
    (hx : ¬ x.StartPanics req s) (h : start req x s = (.ret reply, t)) :
    reply.err = none ↔ RunsRequest req x.service t := by
  obtain ⟨hruns, hstopped⟩ := (start_trusted hreq x s).ret rfl h
  have hsuccess := ((start_success req x s).ret rfl h).mpr hx
  refine ⟨fun hnil => hruns hnil (hsuccess hnil).2.2, fun hrun => ?_⟩
  by_contra herr
  have hstate := hstopped herr
  rw [hrun.1] at hstate
  cases hstate

/-! ### The process behind the port -/

/-- What the code outside does while a message is answered. -/
structure ServiceCalls where
  start : StartCalls := {}
  stop : StopCalls := {}

/-- The process behind the port, and how many messages were answered. -/
structure ServiceWorld where
  process : TunnelProcess := {}
  count : Nat := 0

/-- What a handler leaves. A panic that leaves it ends the process, and the client loses the
connection. -/
def ServiceWorld.answer (w : ServiceWorld) :
    Exit TunnelResponse × Core → Option String × ServiceWorld
  | (.ret resp, t) => (resp.err, ⟨w.process.served t, w.count + 1⟩)
  | (.panic _, t) =>
    (some "connection lost", ⟨{ w.process with core := t, exited := true }, w.count + 1⟩)

/-- `Exit` ends the process whatever its `Stop` does. -/
def ServiceWorld.exit (w : ServiceWorld) (t : Core) : Option String × ServiceWorld :=
  (some "connection lost", ⟨{ w.process with core := t, exited := true }, w.count + 1⟩)

def handle (calls : Nat → ServiceCalls) (rpc : Rpc) (w : ServiceWorld) :
    Option String × ServiceWorld :=
  if w.process.exited then (some "connection refused", w)
  else match rpc with
  | .start req => w.answer (TunnelService.start req (calls w.count).start w.process.core)
  | .stop => w.answer (TunnelService.stop (calls w.count).stop w.process.core)
  | .exit => w.exit (TunnelService.stop (calls w.count).stop w.process.core).2

/-- The machine with the tunnel service of this package behind the port. Its commands may do
anything to the process, and replace it. -/
structure IsServiceMachine (calls : Nat → ServiceCalls) (m : Machine ServiceWorld) : Prop where
  dial : m.dial = none
  portInUse (w : ServiceWorld) : m.portInUse w = !w.process.exited
  answer (rpc : Rpc) (w : ServiceWorld) : m.answer rpc w = handle calls rpc w

/-- No call inside a `Start` of the process panics. -/
def StartsWithoutPanic (calls : Nat → ServiceCalls) (opt : ConfigOptions) : Prop :=
  ∀ n s, ¬ (calls n).start.StartPanics (tunnelCoreRequest (tunnelStartRequest opt)) s

/-- The process runs what sing-box parses from the text for the options. -/
def Serves (calls : Nat → ServiceCalls) (opt : ConfigOptions) (w : ServiceWorld) : Prop :=
  w.process.exited = false ∧ RunsRequest (tunnelCoreRequest (tunnelStartRequest opt))
    (calls (w.count - 1)).start.service w.process.core

/-- The answer to a `Start`. -/
lemma handle_start {calls : Nat → ServiceCalls} {opt : ConfigOptions}
    (hcalls : StartsWithoutPanic calls opt) {w w' : ServiceWorld} {err : Option String}
    (h : handle calls (.start (tunnelStartRequest opt)) w = (err, w')) :
    err = none ↔ Serves calls opt w' := by
  simp only [handle] at h
  split_ifs at h with hexited
  · cases h
    simp [Serves, hexited]
  · rcases hrun : V2.start (tunnelCoreRequest (tunnelStartRequest opt)) (calls w.count).start
      w.process.core with ⟨reply | e, t⟩
    · simp only [TunnelService.start, Go.bind_run, hrun, Go.pure_run, ServiceWorld.answer] at h
      cases h
      have herr : (tunnelResponse reply).err = reply.err := by
        rw [tunnelResponse]
        split <;> simp_all
      rw [herr, start_err_iff (tunnelCoreRequest_isRaw _) (hcalls _ _) hrun]
      have hup : (w.process.served t).exited = false := by
        simpa [TunnelProcess.served] using hexited
      exact (and_iff_right hup).symm
    · simp only [TunnelService.start, Go.bind_run, hrun, ServiceWorld.answer] at h
      cases h
      simp [Serves]

/-- When no `Start` of the tunnel service panics, `startTunnelRequest` reports success exactly when
the process it leaves behind the port runs the configuration for the options, whatever the
commands have put there. -/
theorem startTunnelRequest_serves_iff {calls : Nat → ServiceCalls} {m : Machine ServiceWorld}
    (hm : IsServiceMachine calls m) {opt : ConfigOptions} (hcalls : StartsWithoutPanic calls opt)
    (installService : Bool) (s : Session ServiceWorld) :
    ∃ r t, startTunnelRequest m opt installService s = (.ret r, t) ∧
      (r.1 = true ↔ Serves calls opt t.world) := by
  have h := startTunnelRequest_requests hm.dial opt installService s.answered s.tried s
    ⟨trivial, rfl, rfl⟩
  rcases hrun : startTunnelRequest m opt installService s with ⟨r | e, t⟩
  · rw [hrun] at h
    obtain ⟨-, -, -, hends, -⟩ := h
    refine ⟨r, t, rfl, ?_⟩
    cases hends with
    | started hstart =>
      rw [hm.answer] at hstart
      simpa using (handle_start hcalls hstart).mp rfl
    | refused hstart =>
      rw [hm.answer] at hstart
      simpa using (handle_start hcalls hstart).not.mp (by simp)
    | unserved hport =>
      rw [hm.portInUse] at hport
      simp_all [Serves]
  · rw [hrun] at h
    exact h.elim

/-- A new process listens, and no call fails. -/
def listeningMachine : Machine ServiceWorld where
  portInUse w := !w.process.exited
  answer := handle fun _ => {}
  command _ words w := (none, if passesArguments words then {} else w)
  wait w := w
  tunnelServicePath := "/opt/hiddify/HiddifyCli"

theorem startTunnelRequest_serves_iff_listening :
    ∃ r t, startTunnelRequest listeningMachine {} true { world := {} } = (.ret r, t) ∧
      (r.1 = true ↔ Serves (fun _ => {}) {} t.world) := by
  apply startTunnelRequest_serves_iff
  · exact ⟨rfl, fun _ => rfl, fun _ _ => rfl⟩
  · exact fun n s => allSucceed_default.not_startPanics ⟨nofun, nofun⟩

end HiddifyCore.V2
