import HiddifyCore.V2.Status
import HiddifyCore.V2.Frames
import HiddifyCore.V2.TunnelService

/-!
# The tunnel service process

The process behind 127.0.0.1:18020. Its `Stop` runs `DeactivateTunnelService` as every `Stop` of
the package does, and in this process that is a request to itself: nobody raises
`tunnelServiceRunning` here, so that `stopTunnelRequest` is launched and not waited for. Such a
request arrives whenever it arrives, and stops the core that runs by then.
-/

namespace HiddifyCore.V2

open GoLib Config

structure TunnelProcess where
  core : Core := {}
  inFlight : List Attempt := []
  exited : Bool := false

/-- A message that a handler answers, with what the code outside does meanwhile. -/
inductive TunnelMessage where
  | start (req : TunnelStartRequest) (x : StartCalls)
  | stop (x : StopCalls)
  | exit (x : StopCalls)
  /-- The message at position `i` of those in flight. -/
  | deliver (i : Nat) (x : StopCalls)

/-- The requests that a handler launched on the way from `s` to `t`. -/
def launched (s t : Core) : List Attempt :=
  ((t.tunnel.requests.drop s.tunnel.requests.length).filter (· = .stop false)).map fun _ => .first

namespace TunnelProcess

/-- The process once a handler has left the core in the state `t`. -/
def served (s : TunnelProcess) (t : Core) : TunnelProcess :=
  { s with core := t, inFlight := s.inFlight ++ launched s.core t }

/-- The process once the message at position `i` was taken out and `next` put in. -/
def delivered (s : TunnelProcess) (i : Nat) (next : Option Attempt) : TunnelProcess :=
  { s with inFlight := s.inFlight.eraseIdx i ++ next.toList }

inductive Step (s : TunnelProcess) : TunnelMessage → TunnelProcess → Prop where
  | start {req : TunnelStartRequest} {x : StartCalls} {resp : TunnelResponse} {t : Core}
      (hs : s.exited = false) (h : TunnelService.start req x s.core = (.ret resp, t)) :
      Step s (.start req x) (s.served t)
  | stop {x : StopCalls} {resp : TunnelResponse} {t : Core} (hs : s.exited = false)
      (h : TunnelService.stop x s.core = (.ret resp, t)) : Step s (.stop x) (s.served t)
  | exit {x : StopCalls} {resp : TunnelResponse} {t : Core} (hs : s.exited = false)
      (h : TunnelService.stop x s.core = (.ret resp, t)) :
      Step s (.exit x) { s.served t with exited := true }
  | deliver {i : Nat} {x : StopCalls} {a : Attempt} {resp : TunnelResponse} {t : Core}
      (hs : s.exited = false) (hi : s.inFlight[i]? = some a)
      (h : TunnelService.stop x s.core = (.ret resp, t)) :
      Step s (.deliver i x) ((s.delivered i (a.next resp.err.isSome)).served t)

/-- A process that has answered no message yet. -/
structure IsInitial (s : TunnelProcess) : Prop where
  core : s.core.IsInitial
  tunnel : s.core.tunnel = {}
  inFlight : s.inFlight = []

/-- A `Start` arrives when no core runs and no request to the process itself is in flight. -/
def StartsCalm (s : TunnelProcess) : TunnelMessage → Prop
  | .start _ _ => s.inFlight = [] ∧ ¬ s.core.Stoppable
  | _ => True

end TunnelProcess

/-- A `Stop` or an `Exit` of a client. -/
def TunnelMessage.IsClientStop : TunnelMessage → Prop
  | .stop _ => True
  | .exit _ => True
  | _ => False

/-! ### What the operations do to the tunnel service -/

/-- No request is taken back, and a flag that is not raised stays so. -/
def TunnelExtends (s t : Core) : Prop :=
  (s.tunnel.running = false → t.tunnel.running = false) ∧
    s.tunnel.requests <+: t.tunnel.requests

lemma TunnelExtends.of_eq {s t : Core} (h : t.tunnel = s.tunnel) : TunnelExtends s t := by
  simp [TunnelExtends, h]

lemma TunnelExtends.refl (s : Core) : TunnelExtends s s := .of_eq rfl

lemma TunnelExtends.trans (s t u : Core) (hst : TunnelExtends s t) (htu : TunnelExtends t u) :
    TunnelExtends s u :=
  ⟨fun h => htu.1 (hst.1 h), hst.2.trans htu.2⟩

lemma modify_extends {f : Core → Core} (h : ∀ s, (f s).tunnel = s.tunnel) :
    Go.Within TunnelExtends (Go.modify f) := .modify fun s => .of_eq (h s)

lemma deactivateTunnel_extends (o : Outcome PUnit) :
    Go.Within TunnelExtends (deactivateTunnel o) := by
  intro s
  simp only [deactivateTunnel, Go.zoom, TunnelExtends, Core.setTunnel_tunnel]
  by_cases hrun : s.tunnel.running = true
  · cases o <;>
      simp [deactivateTunnelService, Go.bind_run, Go.get, Go.modify, Go.call, Go.pure_run, hrun]
  · simp [deactivateTunnelService, Go.bind_run, Go.get, Go.modify, Go.pure_run, hrun]

lemma tunnelFrame : StopFrame TunnelExtends where
  refl := TunnelExtends.refl
  trans := TunnelExtends.trans
  setState _ _ := .of_eq rfl
  deactivate := deactivateTunnel_extends
  unserve _ _ := .of_eq rfl
  closeInstance _ _ := .of_eq rfl
  dropBox _ := .of_eq rfl
  closeServer _ _ := .of_eq rfl
  dropServer _ := .of_eq rfl

/-- However it ends, `StopAndAlert` has sent a `Stop` to the tunnel service. -/
lemma stopAndAlert_sends (msgType : MessageType) (message : String) (x : AlertCalls) (s : Core) :
    s.tunnel.requests ++ [.stop s.tunnel.running] <+:
      (stopAndAlert msgType message x s).2.tunnel.requests := by
  have hsend : (deactivateTunnel x.stopTunnel (s.setState .stopped)).2.tunnel.requests =
      s.tunnel.requests ++ [.stop s.tunnel.running] := by
    by_cases hrun : s.tunnel.running = true
    · cases x.stopTunnel <;> simp [deactivateTunnel, Go.zoom, deactivateTunnelService,
        Go.bind_run, Go.get, Go.modify, Go.call, Go.pure_run, hrun]
    · simp [deactivateTunnel, Go.zoom, deactivateTunnelService, Go.bind_run, Go.get, Go.modify,
        Go.pure_run, hrun]
  rw [← hsend]
  simp only [stopAndAlert, setCoreStatus]
  simp only [Go.bind_run, Go.modify, Go.pure_run]
  rcases deactivateTunnel x.stopTunnel (s.setState .stopped) with ⟨a | e, t⟩
  · exact (tunnelFrame.closeServices_within x t).2
  · exact List.prefix_rfl

/-- With a raw configuration `BuildConfig` is not called, and nothing else activates the service. -/
lemma startService_extends {req : StartRequest} (hreq : req.IsRaw) (x : StartServiceCalls) :
    Go.Within TunnelExtends (startService req x) := by
  apply tunnelFrame.attempt_within
  · rw [readContent, if_neg hreq.content]
    exact .pure TunnelExtends.refl _
  intro content
  apply tunnelFrame.attempt_within (.call TunnelExtends.refl _)
  intro parsed
  apply tunnelFrame.attempt_within
  · rw [buildContent, if_pos hreq.raw]
    exact .pure TunnelExtends.refl _
  intro built
  refine .bind TunnelExtends.trans ?_ fun _ => ?_
  · refine .bind TunnelExtends.trans (.callVoid TunnelExtends.refl _) fun _ => .modify fun s => ?_
    split_ifs
    · exact .of_eq rfl
    · exact .refl s
  apply tunnelFrame.attempt_within
  · rw [commandServerStep, hreq.server, if_neg Bool.false_ne_true]
    exact .pure TunnelExtends.refl _
  intro _
  apply tunnelFrame.attempt_within
  · apply Go.Within.bind TunnelExtends.trans (.call TunnelExtends.refl _)
    intro r
    cases r with
    | error e => exact .pure TunnelExtends.refl _
    | ok a =>
      apply Go.Within.get_bind
      intro s
      exact .of_eq rfl
  intro i
  apply tunnelFrame.attempt_within
  · apply Go.Within.bind TunnelExtends.trans (.call TunnelExtends.refl _)
    intro r
    cases r with
    | error e => exact .pure TunnelExtends.refl _
    | ok a =>
      exact .bind TunnelExtends.trans (modify_extends fun _ => rfl)
        fun _ => .pure TunnelExtends.refl _
  intro _
  refine .bind TunnelExtends.trans (modify_extends fun _ => rfl) fun _ => ?_
  rw [serveBox, hreq.server, if_neg Bool.false_ne_true]
  refine .bind TunnelExtends.trans (.pure TunnelExtends.refl _) fun _ => ?_
  exact .bind TunnelExtends.trans (tunnelFrame.setCoreStatus_within _ _ _)
    fun _ => .pure TunnelExtends.refl _

lemma enterStarting_extends {req : StartRequest} (hreq : req.IsRaw) (x : StartCalls) :
    Go.Within TunnelExtends (enterStarting req x) := by
  refine .bind TunnelExtends.trans (tunnelFrame.setCoreStatus_within _ _ _) fun _ => ?_
  refine .bind TunnelExtends.trans (.callVoid TunnelExtends.refl _) fun _ => ?_
  exact startService_extends hreq x.service

lemma start_extends {req : StartRequest} (hreq : req.IsRaw) (x : StartCalls) :
    Go.Within TunnelExtends (start req x) := by
  apply tunnelFrame.deferPanicToError_within
  refine .bind TunnelExtends.trans ?_ fun _ => enterStarting_extends hreq x
  apply Go.Within.get_bind
  intro s
  split_ifs
  · exact Go.Within.bind TunnelExtends.trans (tunnelFrame.stop_within x.stop)
      (fun _ => .pure TunnelExtends.refl _) s
  · exact TunnelExtends.refl s

/-! ### The request that a stop launches -/

/-- The core has sent itself a request since it was in the state `s`. -/
def SelfStopped (s t : Core) : Prop := s.tunnel.requests ++ [.stop false] <+: t.tunnel.requests

lemma SelfStopped.of_extends {s : Core} (t u : Core) (hst : SelfStopped s t)
    (htu : TunnelExtends t u) : SelfStopped s u := hst.trans htu.2

/-- What follows the request keeps it, however it ends. -/
lemma selfStopped_triple {α : Type} {m : Go Core α} (s : Core) (hm : Go.Within TunnelExtends m) :
    Go.Triple (SelfStopped s) m (fun _ => SelfStopped s) (SelfStopped s) :=
  .of_within hm fun t u => SelfStopped.of_extends t u

/-- `Stop` of a running core launches a request, because the service is not marked as running. -/
lemma stop_selfStopped (x : StopCalls) {s : Core} (hs : s.Stoppable)
    (hrun : s.tunnel.running = false) :
    Go.Triple (· = s) (stop x) (fun _ => SelfStopped s) (SelfStopped s) := by
  apply Go.Triple.deferRecover (M := SelfStopped s)
  · apply Go.Triple.get_bind
    rintro _ rfl a rfl
    obtain ⟨i, hi⟩ := Option.isSome_iff_exists.mp hs.2
    rw [if_neg (not_not.mpr hs.1), hi]
    refine Go.Triple.bind (M := fun _ t => t.tunnel = a.tunnel) ?_ (fun _ => ?_) a rfl
    · rintro t rfl
      rfl
    refine Go.Triple.bind (M := fun _ => SelfStopped a) ?_ fun _ =>
      selfStopped_triple a (tunnelFrame.closeBox_stopServer_within i _)
    intro t ht
    simp [deactivateTunnel, Go.zoom, deactivateTunnelService, Go.bind_run, Go.get, Go.modify,
      Go.pure_run, SelfStopped, ht, hrun]
  · intro e
    exact selfStopped_triple s (tunnelFrame.stopAndAlert_within _ _ x.recovery)

lemma start_selfStopped {req : StartRequest} (hreq : req.IsRaw) (x : StartCalls) {s : Core}
    (hs : s.Stoppable) (hrun : s.tunnel.running = false) :
    Go.Triple (· = s) (start req x) (fun _ => SelfStopped s) (SelfStopped s) := by
  apply Go.Triple.deferRecover (M := SelfStopped s)
  · refine Go.Triple.bind (M := fun _ => SelfStopped s) ?_ fun _ =>
      selfStopped_triple s (enterStarting_extends hreq x)
    apply Go.Triple.get_bind
    rintro _ rfl a rfl
    have hstate : a.coreState ≠ .stopped := by
      rw [hs.1]
      decide
    rw [if_pos hstate]
    refine Go.Triple.bind (stop_selfStopped x.stop hs hrun) (fun _ => ?_) a rfl
    exact Go.Triple.pure fun _ => id
  · intro e
    exact selfStopped_triple s (tunnelFrame.stopAndAlert_within _ _ x.recovery)

/-! ### The core that an operation leaves -/

/-- `Start` with no core to stop runs the new one without a request to the tunnel service. -/
lemma start_calm_triple {req : StartRequest} (hreq : req.IsRaw) (x : StartCalls) {s : Core}
    (hs : ¬ s.Stoppable) :
    Go.Triple (· = s) (start req x)
      (fun _ t => t.coreState = .started → t.box.isSome ∧ t.tunnel = s.tunnel)
      fun _ => True := by
  apply Go.Triple.deferRecover (M := fun _ => True)
  · refine Go.Triple.bind (M := fun _ t => t = s) ?_ fun _ => ?_
    · apply Go.Triple.get_bind
      rintro _ rfl a rfl
      split_ifs
      · refine Go.Triple.bind (M := fun _ t => t = a) ?_ (fun _ => ?_) a rfl
        · exact (stop_triple x.stop a).conseq (fun _ => Eq.symm) (fun _ _ ht => (ht.2.1 hs).2)
            fun _ _ => trivial
        · exact Go.Triple.pure fun _ => id
      · rfl
    refine Go.Triple.bind (M := fun _ t => t = s.setState .starting) ?_ fun _ => ?_
    · rintro t rfl
      rfl
    refine Go.Triple.bind (M := fun _ t => t = s.setState .starting)
      (Go.Triple.callVoid (fun _ _ => id) fun _ _ _ => trivial) fun _ => ?_
    refine ((startService_triple req x.service _).and
      (startService_raw_triple hreq x.service _)).conseq
      (fun t ht => ⟨ht, ht⟩) (fun reply t ht h => ?_) fun _ _ => trivial
    obtain ⟨⟨-, -, -, hclean⟩, hraw⟩ := ht
    by_cases hnil : reply.err = none
    · exact hraw hnil
    · rw [(hclean hnil).1] at h
      cases h
  · intro e t _
    refine ((stopAndAlert_triple _ _ x.recovery t).conseq (fun _ => id) (fun _ u hu h => ?_)
      fun _ _ => trivial) t rfl
    rw [hu.2.1] at h
    cases h

/-! ### Runs of the process -/

lemma tunnelCoreRequest_isRaw (req : TunnelStartRequest) : (tunnelCoreRequest req).IsRaw :=
  ⟨tunnelConfig_ne _, rfl, rfl⟩

lemma TunnelService.start_ret {req : TunnelStartRequest} {x : StartCalls} {s t : Core}
    {resp : TunnelResponse} (h : TunnelService.start req x s = (.ret resp, t)) :
    ∃ reply, V2.start (tunnelCoreRequest req) x s = (.ret reply, t) := by
  simp only [TunnelService.start, Go.bind_run] at h
  rcases hrun : V2.start (tunnelCoreRequest req) x s with ⟨reply | e, u⟩
  · rw [hrun] at h
    cases h
    exact ⟨reply, rfl⟩
  · rw [hrun] at h
    cases h

lemma TunnelService.stop_ret {x : StopCalls} {s t : Core} {resp : TunnelResponse}
    (h : TunnelService.stop x s = (.ret resp, t)) :
    ∃ reply, V2.stop x s = (.ret reply, t) := by
  simp only [TunnelService.stop, Go.bind_run] at h
  rcases hrun : V2.stop x s with ⟨reply | e, u⟩
  · rw [hrun] at h
    cases h
    exact ⟨reply, rfl⟩
  · rw [hrun] at h
    cases h

lemma launched_eq_nil {s t : Core} (h : t.tunnel = s.tunnel) : launched s t = [] := by
  simp [launched, h]

lemma launched_ne_nil {s t : Core} (h : SelfStopped s t) : launched s t ≠ [] := by
  obtain ⟨later, hlater⟩ := h
  rw [launched, ← hlater, List.append_assoc, List.drop_left]
  simp

namespace TunnelProcess

/-- While a core runs there is a handle to it and no request in flight. -/
structure Settled (s : TunnelProcess) : Prop where
  quiet : s.core.coreState = .started → s.core.box.isSome ∧ s.inFlight = []
  notRunning : s.core.tunnel.running = false

lemma Settled.stoppable {s : TunnelProcess} (h : s.Settled) (hs : s.core.coreState = .started) :
    s.core.Stoppable := ⟨hs, (h.quiet hs).1⟩

lemma IsInitial.settled {s : TunnelProcess} (h : s.IsInitial) : s.Settled := by
  constructor
  · intro hs
    rw [h.core.coreState] at hs
    cases hs
  · rw [h.tunnel]

/-- What a `Stop` leaves of a settled process. -/
lemma Settled.stop {s : TunnelProcess} (hs : s.Settled) {x : StopCalls} {reply : Reply} {t : Core}
    (h : V2.stop x s.core = (.ret reply, t)) :
    t.coreState ≠ .started ∧ t.tunnel.running = false := by
  constructor
  · intro ht
    obtain ⟨hnot, rfl⟩ := (stop_started_triple x s.core).ret rfl h ht
    exact hnot (hs.stoppable ht)
  · have hext := tunnelFrame.stop_within x s.core
    rw [h] at hext
    exact hext.1 hs.notRunning

lemma Step.settled {s t : TunnelProcess} {m : TunnelMessage} (h : Step s m t) (hs : s.Settled)
    (hC : StartsCalm s m) : t.Settled := by
  cases h with
  | @start req x _ t _ h =>
    obtain ⟨hflight, hcore⟩ := hC
    obtain ⟨reply, hrun⟩ := TunnelService.start_ret h
    constructor
    · intro ht
      obtain ⟨hbox, htunnel⟩ :=
        (start_calm_triple (tunnelCoreRequest_isRaw req) x hcore).ret rfl hrun ht
      refine ⟨hbox, ?_⟩
      simp [served, hflight, launched_eq_nil htunnel]
    · have hext := start_extends (tunnelCoreRequest_isRaw req) x s.core
      rw [hrun] at hext
      exact hext.1 hs.notRunning
  | stop _ h =>
    obtain ⟨reply, hrun⟩ := TunnelService.stop_ret h
    obtain ⟨hstate, hrunning⟩ := hs.stop hrun
    exact ⟨fun ht => absurd ht hstate, hrunning⟩
  | exit _ h =>
    obtain ⟨reply, hrun⟩ := TunnelService.stop_ret h
    obtain ⟨hstate, hrunning⟩ := hs.stop hrun
    exact ⟨fun ht => absurd ht hstate, hrunning⟩
  | deliver _ _ h =>
    obtain ⟨reply, hrun⟩ := TunnelService.stop_ret h
    obtain ⟨hstate, hrunning⟩ := hs.stop hrun
    exact ⟨fun ht => absurd ht hstate, hrunning⟩

/-- A process that is started calmly stays settled. -/
lemma run_settled {s t : TunnelProcess} (hs : s.IsInitial) (hrun : Run Step StartsCalm s t) :
    t.Settled :=
  hrun.invariant hs.settled fun _ _ _ hI hC hstep => hstep.settled hI hC

/-- A running core with a request in flight can be stopped by it. -/
lemma exists_deliver {s : TunnelProcess} (hs : s.exited = false) (hcore : s.core.Stoppable)
    (hflight : s.inFlight ≠ []) :
    ∃ u, Step s (.deliver 0 {}) u ∧ u.core.coreState ≠ .started := by
  obtain ⟨i, hi⟩ := Option.isSome_iff_exists.mp hcore.2
  obtain ⟨a, rest, hcons⟩ := List.exists_cons_of_ne_nil hflight
  obtain ⟨reply, t, hrun, -, hstate, -⟩ :=
    stop_run (x := {}) ⟨trivial, id, trivial, trivial⟩ hcore.1 hi
  have hserve : TunnelService.stop {} s.core = (.ret (tunnelResponse reply), t) := by
    simp only [TunnelService.stop, Go.bind_run, hrun, Go.pure_run]
  refine ⟨_, .deliver hs (by rw [hcons]; rfl) hserve, ?_⟩
  show t.coreState ≠ .started
  rw [hstate]
  decide

section Start

variable {s t : TunnelProcess} {req : TunnelStartRequest} {x : StartCalls}

lemma Step.exited (h : Step s (.start req x) t) : t.exited = false := by
  cases h with
  | start hs _ => exact hs

/-- The core that `Start` leaves running has a handle. -/
lemma Step.stoppable (h : Step s (.start req x) t) (ht : t.core.coreState = .started) :
    t.core.Stoppable := by
  cases h with
  | start _ h =>
    obtain ⟨reply, hrun⟩ := TunnelService.start_ret h
    have hagrees : StatusAgrees _ := (start_agrees _ x).ret trivial hrun
    exact ⟨ht, Option.isSome_iff_ne_none.mpr (hagrees.2.mp ht)⟩

/-- A `Start` that had something to wait for leaves a request in flight. -/
lemma Step.inFlight_ne_nil (h : Step s (.start req x) t) (hs : s.Settled)
    (hC : ¬ StartsCalm s (.start req x)) : t.inFlight ≠ [] := by
  cases h with
  | start _ h =>
    obtain ⟨reply, hrun⟩ := TunnelService.start_ret h
    by_cases hflight : s.inFlight = []
    · have hcore : s.core.Stoppable := by
        by_contra hcore
        exact hC ⟨hflight, hcore⟩
      have hself := (start_selfStopped (tunnelCoreRequest_isRaw req) x hcore hs.notRunning).ret
        rfl hrun
      simp [served, hflight, launched_ne_nil hself]
    · simp [served, hflight]

end Start

/-- As long as every `Start` finds neither a core nor a request of the process to itself, only
clients stop a running core; and a `Start` that replies leaves a core that no such request can stop
exactly when it found neither of them. -/
theorem stopped_by_clients {s₀ s : TunnelProcess} (h₀ : s₀.IsInitial)
    (hrun : Run Step StartsCalm s₀ s) :
    (∀ m t, StartsCalm s m → Step s m t → s.core.coreState = .started →
      t.core.coreState ≠ .started → m.IsClientStop) ∧
    (∀ req x t, Step s (.start req x) t → t.core.coreState = .started →
      ((∀ i y u, Step t (.deliver i y) u → u.core.coreState = .started) ↔
        StartsCalm s (.start req x))) := by
  have hs : s.Settled := run_settled h₀ hrun
  constructor
  · intro m t hC hstep hstarted _
    cases hstep with
    | start _ _ => exact absurd (hs.stoppable hstarted) hC.2
    | stop _ _ => trivial
    | exit _ _ => trivial
    | deliver _ hi _ =>
      rw [(hs.quiet hstarted).2] at hi
      cases hi
  · intro req x t hstep hstarted
    constructor
    · intro hsafe
      by_contra hnot
      obtain ⟨u, hu, hstopped⟩ :=
        exists_deliver hstep.exited (hstep.stoppable hstarted) (hstep.inFlight_ne_nil hs hnot)
      exact hstopped (hsafe 0 {} u hu)
    · intro hC i y u hdeliver
      have ht : t.Settled := hstep.settled hs hC
      cases hdeliver with
      | deliver _ hi _ =>
        rw [(ht.quiet hstarted).2] at hi
        cases hi

/-- A stopped process that starts with no call failing. -/
lemma exists_start {s : TunnelProcess} (req : TunnelStartRequest) (hs : s.exited = false)
    (hcore : s.core.coreState = .stopped) :
    ∃ t, Step s (.start req {}) t ∧ t.core.coreState = .started ∧ t.core.tunnel = s.core.tunnel ∧
      t.inFlight = s.inFlight := by
  obtain ⟨reply, t, hrun, -, hstate, -, -, htunnel⟩ :=
    startService_run (x := {}) (s := s.core.setState .starting) (o := {})
      (tunnelCoreRequest_isRaw req) rfl id trivial trivial
  have hstart : V2.start (tunnelCoreRequest req) {} s.core = (.ret reply, t) := by
    simp only [V2.start, deferPanicToError, Go.deferRecover, ensureStopped, enterStarting,
      setCoreStatus, Go.bind_run, Go.get, Go.modify, Go.callVoid, Go.pure_run, hcore, ne_eq,
      not_true_eq_false, if_false, hrun]
  have hserve : TunnelService.start req {} s.core = (.ret (tunnelResponse reply), t) := by
    simp only [TunnelService.start, Go.bind_run, hstart, Go.pure_run]
  have htunnel' : t.tunnel = s.core.tunnel := htunnel
  refine ⟨_, .start hs hserve, hstate, htunnel', ?_⟩
  simp [served, launched_eq_nil htunnel']

/-- A request with the values that the default options give. -/
def sampleRequest : TunnelStartRequest := ⟨false, 2334, true, true, "mixed"⟩

lemma initial : IsInitial {} := ⟨⟨rfl, rfl, rfl, rfl, rfl⟩, rfl, rfl⟩

theorem stopped_by_clients_first :
    ∃ t, Step {} (.start sampleRequest {}) t ∧ t.core.coreState = .started ∧
      ∀ i y u, Step t (.deliver i y) u → u.core.coreState = .started := by
  obtain ⟨t, hstep, hstarted, -, -⟩ := exists_start (s := {}) sampleRequest rfl rfl
  have hcalm : StartsCalm {} (.start sampleRequest {}) :=
    ⟨rfl, fun h => absurd h.1 (by decide)⟩
  exact ⟨t, hstep, hstarted,
    ((stopped_by_clients initial .refl).2 sampleRequest {} t hstep hstarted).mpr hcalm⟩

/-- `Start`, `Stop` and `Start` of a client: the request that the `Stop` launched arrives last and
stops the second core. -/
theorem not_stopped_by_clients :
    ¬ ∀ (s₀ s t : TunnelProcess) (m : TunnelMessage), s₀.IsInitial →
      Run Step (fun _ _ => True) s₀ s → Step s m t → s.core.coreState = .started →
        t.core.coreState ≠ .started → m.IsClientStop := by
  intro h
  obtain ⟨p₁, h₁, hstate₁, htunnel₁, -⟩ := exists_start (s := {}) sampleRequest rfl rfl
  have hcore₁ : p₁.core.Stoppable := h₁.stoppable hstate₁
  obtain ⟨i, hi⟩ := Option.isSome_iff_exists.mp hcore₁.2
  obtain ⟨reply, t, hstop, -, hstate₂, -⟩ :=
    stop_run (x := {}) ⟨trivial, id, trivial, trivial⟩ hstate₁ hi
  have hself : SelfStopped p₁.core t :=
    (stop_selfStopped {} hcore₁ (by rw [htunnel₁])).ret rfl hstop
  have hserve : TunnelService.stop {} p₁.core = (.ret (tunnelResponse reply), t) := by
    simp only [TunnelService.stop, Go.bind_run, hstop, Go.pure_run]
  have h₂ : Step p₁ (.stop {}) (p₁.served t) := .stop h₁.exited hserve
  have hflight₂ : (p₁.served t).inFlight ≠ [] := by simp [served, launched_ne_nil hself]
  obtain ⟨p₃, h₃, hstate₃, -, hflight₃⟩ :=
    exists_start (s := p₁.served t) sampleRequest h₁.exited hstate₂
  obtain ⟨p₄, h₄, hstate₄⟩ :=
    exists_deliver h₃.exited (h₃.stoppable hstate₃) (hflight₃ ▸ hflight₂)
  have hrun : Run Step (fun _ _ => True) {} p₃ :=
    .tail (.tail (.single _ trivial h₁) _ trivial h₂) _ trivial h₃
  exact h {} p₃ p₄ _ initial hrun h₄ hstate₃ hstate₄

end TunnelProcess

end HiddifyCore.V2
