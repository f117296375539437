import HiddifyCore.V2.Operations
import HiddifyCore.V2.Frames

/-!
# How StartService ends

`StartService` runs up to eight external calls, each of which can return an error or panic, and
its error exit runs `StopAndAlert`, whose calls can panic too. Here the two ways of ending are
read off the request, the state before the call and the outcomes: `Panics` and `Succeeds`.
-/

namespace HiddifyCore.V2

open GoLib Config

/-! ### StopAndAlert -/

/-- A call that `StopAndAlert` makes in the state `s` panics. -/
def AlertCalls.Panics (x : AlertCalls) (s : Core) : Prop :=
  (s.tunnel.running = true ∧ x.stopTunnel.IsPanic) ∨
  (s.oldCommandServer.isSome ∧ (x.clearService.IsPanic ∨ x.serverClose.IsPanic)) ∨
  (s.box.isSome ∧ x.boxClose.IsPanic)

/-- The variables that decide which calls `StopAndAlert` makes. -/
def SameAlert (s t : Core) : Prop :=
  (t.oldCommandServer.isSome = s.oldCommandServer.isSome) ∧ (t.box.isSome = s.box.isSome) ∧
    t.tunnel.running = s.tunnel.running

lemma AlertCalls.panics_congr (x : AlertCalls) {s t : Core} (h : SameAlert s t) :
    x.Panics t ↔ x.Panics s := by
  simp only [AlertCalls.Panics, h.1, h.2.1, h.2.2]

/-- The variables that the pieces of `StopAndAlert` leave alone until its last two lines. -/
def SameHandles (s t : Core) : Prop :=
  t.oldCommandServer = s.oldCommandServer ∧ t.box = s.box ∧ t.coreState = s.coreState

/-- `DeactivateTunnelService` waits for the service, and can panic in doing so, only when it is
running. -/
lemma deactivateTunnel_triple (o : Outcome PUnit) (s : Core) :
    Go.Triple (· = s) (deactivateTunnel o)
      (fun _ t => ¬ (s.tunnel.running = true ∧ o.IsPanic) ∧ SameHandles s t)
      (fun _ => s.tunnel.running = true ∧ o.IsPanic) := by
  apply Go.Triple.zoom
  rintro t rfl
  by_cases hrun : t.tunnel.running = true
  · cases o <;> simp [deactivateTunnelService, Go.bind_run, Go.get, Go.modify, Go.call, Go.pure_run,
      hrun, SameHandles]
  · simp [deactivateTunnelService, Go.bind_run, Go.get, Go.modify, Go.pure_run, hrun, SameHandles]

lemma clearService_triple (o : Exit PUnit) (s : Core) :
    Go.Triple (· = s) (clearService o)
      (fun _ t => ¬ (s.oldCommandServer.isSome ∧ o.IsPanic) ∧ SameHandles s t)
      (fun _ => s.oldCommandServer.isSome ∧ o.IsPanic) := by
  rintro t rfl
  rcases h : t.oldCommandServer with _ | j
  · simp [clearService, Go.bind_run, Go.get, Go.pure_run, h, SameHandles]
  · cases o <;> simp [clearService, Go.bind_run, Go.get, Go.modify, Go.callVoid, h, SameHandles]

lemma dropBox_triple (o : Outcome PUnit) (s : Core) :
    Go.Triple (· = s) (dropBox o)
      (fun _ t => ¬ (s.box.isSome ∧ o.IsPanic) ∧ t.oldCommandServer = s.oldCommandServer ∧
        t.box = none ∧ t.coreState = s.coreState)
      (fun _ => s.box.isSome ∧ o.IsPanic) := by
  rintro t rfl
  rcases h : t.box with _ | i
  · simp [dropBox, Go.bind_run, Go.get, Go.pure_run, h]
  · cases o <;> simp [dropBox, closeBox, Go.bind_run, Go.get, Go.modify, Go.call, h]

/-- `StopAndAlert` ends the way `Panics` says, and leaves no core when it returns. -/
lemma stopAndAlert_triple (msgType : MessageType) (message : String) (x : AlertCalls) (s : Core) :
    Go.Triple (· = s) (stopAndAlert msgType message x)
      (fun _ t => ¬ x.Panics s ∧ t.coreState = .stopped ∧ t.box = none)
      (fun _ => x.Panics s) := by
  refine Go.Triple.bind (M := fun _ t => t = s.setState .stopped) ?_ fun _ => ?_
  · rintro t rfl
    simp [setCoreStatus, Go.bind_run, Go.modify, Go.pure_run]
  refine Go.Triple.bind ((deactivateTunnel_triple x.stopTunnel _).onPanic
    fun _ h => Or.inl h) fun _ => ?_
  apply Go.Triple.assume
  intro hstop
  refine Go.Triple.bind (M := fun _ t => ¬ (s.oldCommandServer.isSome ∧ x.clearService.IsPanic) ∧
    SameHandles (s.setState .stopped) t) ?_ fun _ => ?_
  · intro t ht
    refine ((clearService_triple x.clearService t).conseq (fun _ => id) (fun _ u hu => ?_)
      fun u hu => ?_) t rfl
    · obtain ⟨hpanic, hserver, hbox, hstate⟩ := hu
      exact ⟨by simpa [ht.1] using hpanic, hserver.trans ht.1, hbox.trans ht.2.1,
        hstate.trans ht.2.2⟩
    · exact Or.inr (Or.inl ⟨by simpa [ht.1] using hu.1, Or.inl hu.2⟩)
  apply Go.Triple.assume
  intro hclear
  refine Go.Triple.bind (M := fun _ t => ¬ (s.box.isSome ∧ x.boxClose.IsPanic) ∧
    t.oldCommandServer = s.oldCommandServer ∧ t.box = none ∧ t.coreState = .stopped) ?_ fun _ => ?_
  · intro t ht
    refine ((dropBox_triple x.boxClose t).conseq (fun _ => id) (fun _ u hu => ?_)
      fun u hu => ?_) t rfl
    · obtain ⟨hpanic, hserver, hbox, hstate⟩ := hu
      exact ⟨by simpa [ht.2.1] using hpanic, hserver.trans ht.1, hbox, hstate.trans ht.2.2⟩
    · exact Or.inr (Or.inr ⟨by simpa [ht.2.1] using hu.1, hu.2⟩)
  apply Go.Triple.assume
  intro hdrop
  -- what is left is the `Close` of the command server
  rintro t ⟨hserver, hbox, hstate⟩
  simp only [Core.setState_tunnel] at hstop
  rcases h : s.oldCommandServer with _ | j
  · simp [Go.bind_run, Go.get, Go.pure_run, hserver, h, AlertCalls.Panics, hstop, hdrop, hbox,
      hstate]
  · simp only [h, Option.isSome_some, true_and] at hclear
    cases hc : x.serverClose <;>
      simp [Go.bind_run, Go.get, Go.modify, Go.call, Go.pure_run, closeCommandServer, hserver, h,
        hc, AlertCalls.Panics, hstop, hclear, hdrop, hbox, hstate]

/-! ### StartService -/

namespace StartServiceCalls

/-- Where the content comes from: the request, or the file it names. -/
def content (x : StartServiceCalls) (req : StartRequest) : Outcome String :=
  if req.configContent = "" then x.readFile req.configPath else .ok req.configContent

/-- The configuration that is run, given the global `configOptions`. -/
def built (x : StartServiceCalls) (req : StartRequest) (configOptions : Option ConfigOptions)
    (parsed : Singbox.Options) : Outcome Singbox.Options :=
  if req.enableRawConfig then
    .ok parsed
  else
    match configOptions with
    | none => .panic "invalid memory address or nil pointer dereference"
    | some opt => x.build opt parsed

/-- The start of the command server, given whether `Setup` has run. -/
def server (x : StartServiceCalls) (req : StartRequest) (coreLogFactory : Bool) : Outcome PUnit :=
  if req.enableOldCommandServer then
    if coreLogFactory then x.serverStart
    else .panic "invalid memory address or nil pointer dereference"
  else
    .ok ⟨⟩

/-- Every call of `StartService` succeeds. -/
structure Succeeds (x : StartServiceCalls) (req : StartRequest) (s : Core) : Prop where
  loads : ∃ content parsed built, x.content req = .ok content ∧ x.parse content = .ok parsed ∧
    x.built req s.configOptions parsed = .ok built
  saves : ¬ x.saveConfig.IsPanic
  serves : (x.server req s.coreLogFactory).IsOk
  creates : x.newService.IsOk
  starts : x.boxStart.IsOk
  publishes : ¬ (req.enableOldCommandServer = true ∧ x.setService.IsPanic)

end StartServiceCalls

lemma SameSetup.succeeds {s t : Core} (h : SameSetup s t) {x : StartServiceCalls}
    {req : StartRequest} (hx : x.Succeeds req s) : x.Succeeds req t where
  loads := by
    rw [h.1]
    exact hx.loads
  saves := hx.saves
  serves := by
    rw [h.2]
    exact hx.serves
  creates := hx.creates
  starts := hx.starts
  publishes := hx.publishes

/-- `s` with the tunnel service activated, as it is once `BuildConfig` was called. -/
def Core.built (req : StartRequest) (s : Core) : Core :=
  match req.enableRawConfig, s.configOptions with
  | false, some opt =>
    if opt.enableTunService then s.setTunnel (activateTunnelService opt s.tunnel) else s
  | _, _ => s

lemma Core.built_coreLogFactory (req : StartRequest) (s : Core) :
    (s.built req).coreLogFactory = s.coreLogFactory := by
  simp only [Core.built]
  split <;> try rfl
  split_ifs <;> rfl

/-- `s` with a command server, as it is once `startCommandServer` was called. -/
def Core.served (req : StartRequest) (s : Core) : Core :=
  if req.enableOldCommandServer then s.addServer else s

/-- A panic leaves `StartService`: one of its calls panics, or one fails and `StopAndAlert`
panics in the state reached by then. -/
def StartServiceCalls.Panics (x : StartServiceCalls) (req : StartRequest) (s : Core) : Prop :=
  (x.content req).PanicsThen (x.alert.Panics s) fun content =>
  (x.parse content).PanicsThen (x.alert.Panics s) fun parsed =>
  (x.built req s.configOptions parsed).PanicsThen (x.alert.Panics (s.built req)) fun _ =>
  x.saveConfig.IsPanic ∨
  (x.server req s.coreLogFactory).PanicsThen (x.alert.Panics ((s.built req).served req)) fun _ =>
  x.newService.PanicsThen (x.alert.Panics ((s.built req).served req)) fun _ =>
  x.boxStart.PanicsThen (x.alert.Panics ((s.built req).served req)) fun _ =>
  req.enableOldCommandServer = true ∧ x.setService.IsPanic

/-- What a nil error promises: a response, and a started core. -/
def NoFalseSuccess (reply : Reply) (t : Core) : Prop :=
  reply.err = none →
    t.coreState = .started ∧ (∃ i, t.box = some i ∧ t.Live i) ∧ reply.resp.isSome

/-- What a non-nil error promises: a stopped core. -/
def FailsClean (reply : Reply) (t : Core) : Prop :=
  reply.err ≠ none → t.coreState = .stopped ∧ t.box = none

lemma failStart_triple (msgType : MessageType) (err : String) (x : AlertCalls) (s : Core) :
    Go.Triple (· = s) (failStart msgType err x)
      (fun reply t => ¬ x.Panics s ∧ reply.err = some err ∧ t.coreState = .stopped ∧ t.box = none)
      (fun _ => x.Panics s) := by
  refine Go.Triple.bind (M := fun _ t => t = s.setState .stopped) ?_ fun resp => ?_
  · rintro t rfl
    simp [setCoreStatus, Go.bind_run, Go.modify, Go.pure_run]
  have hsame : x.Panics (s.setState .stopped) ↔ x.Panics s := x.panics_congr ⟨rfl, rfl, rfl⟩
  refine Go.Triple.bind ((stopAndAlert_triple _ err x _).onPanic
    fun _ h => hsame.mp h) fun _ => Go.Triple.pure fun t ht => ?_
  exact ⟨fun h => ht.1 (hsame.mpr h), rfl, ht.2⟩

/-- The state of `StartService` between two steps, up to the variables its exits depend on. -/
def Between (s₀ t : Core) : Prop :=
  SameAlert s₀ t ∧ t.configOptions = s₀.configOptions ∧ t.coreLogFactory = s₀.coreLogFactory

lemma Between.refl (s : Core) : Between s s := ⟨⟨rfl, rfl, rfl⟩, rfl, rfl⟩

/-- One step of `StartService`: its outcome is `o`, it leads from states like `s₀` to states like
`s₁`, and the rest of the function ends with a panic exactly when `N` says so. The step may turn
the value of the outcome into a result of its own. -/
lemma attempt_triple {α β : Type} {step : Go Core (Except String α)} {msgType : MessageType}
    {x : AlertCalls} {next : α → Go Core Reply} {o : Outcome β} {value : α → β}
    {P : Core → Prop} {s₁ : Core} {M : α → Core → Prop} {N : β → Prop} {Q : Reply → Core → Prop}
    (hstep : Go.Triple P step
      (Go.results (fun a t => o = .ok (value a) ∧ M a t) fun e t => o = .fail e ∧ SameAlert s₁ t)
      fun _ => o.IsPanic)
    (herr : ∀ reply t, reply.err ≠ none → t.coreState = .stopped ∧ t.box = none → Q reply t)
    (hnext : ∀ a, o = .ok (value a) →
      Go.Triple (M a) (next a) (fun reply t => ¬ N (value a) ∧ Q reply t) fun _ => N (value a)) :
    Go.Triple P (attempt step msgType x next)
      (fun reply t => ¬ o.PanicsThen (x.Panics s₁) N ∧ Q reply t)
      fun _ => o.PanicsThen (x.Panics s₁) N := by
  refine Go.Triple.bind (hstep.onPanic fun t ht => ?_) fun r => ?_
  · cases o with
    | panic e => trivial
    | ok a => exact ht.elim
    | fail e => exact ht.elim
  cases r with
  | ok a =>
    rintro t ⟨rfl, ht⟩
    exact hnext a rfl t ht
  | error e =>
    rintro t ⟨rfl, ht⟩
    have hsame : x.Panics t ↔ x.Panics s₁ := x.panics_congr ht
    refine ((failStart_triple msgType e x t).conseq (fun _ => id) (fun reply u hu => ?_)
      fun _ hu => hsame.mp hu) t rfl
    obtain ⟨hpanic, herror, hclean⟩ := hu
    exact ⟨fun h => hpanic (hsame.mpr h), herr reply u (by simp [herror]) hclean⟩

lemma Between.trans {s t u : Core} (hst : Between s t) (htu : Between t u) : Between s u :=
  ⟨⟨htu.1.1.trans hst.1.1, htu.1.2.1.trans hst.1.2.1, htu.1.2.2.trans hst.1.2.2⟩,
    htu.2.1.trans hst.2.1, htu.2.2.trans hst.2.2⟩

/-- A call to code outside, as a step. -/
lemma call_step {α : Type} {o : Outcome α} {P : Core → Prop} {s₁ : Core}
    (hP : ∀ t, P t → SameAlert s₁ t) :
    Go.Triple P (Go.call o)
      (Go.results (fun a t => o = .ok a ∧ P t) fun e t => o = .fail e ∧ SameAlert s₁ t)
      fun _ => o.IsPanic := by
  refine Go.Triple.call (fun a ha t ht => ⟨ha, ht⟩) (fun e he t ht => ⟨he, hP t ht⟩) fun h _ _ => h

lemma readContent_step (req : StartRequest) (x : StartServiceCalls) (s : Core) :
    Go.Triple (· = s) (readContent req x)
      (Go.results (fun c t => x.content req = .ok c ∧ Between s t)
        fun e t => x.content req = .fail e ∧ SameAlert s t)
      fun _ => (x.content req).IsPanic := by
  simp only [readContent, StartServiceCalls.content]
  split_ifs
  · refine Go.Triple.bind (M := fun _ => Between s) (Go.Triple.modify ?_) fun _ =>
      call_step fun _ h => h.1
    rintro t rfl
    exact Between.refl t
  · apply Go.Triple.pure
    rintro t rfl
    exact ⟨rfl, Between.refl t⟩

lemma activateTunnel_triple (req : StartRequest) (opt : ConfigOptions) (s : Core)
    (hraw : req.enableRawConfig = false) (hopt : s.configOptions = some opt) :
    Go.Triple (Between s) (activateTunnel opt) (fun _ => Between (s.built req)) fun _ => False := by
  have hbuilt : s.built req
      = if opt.enableTunService then s.setTunnel (activateTunnelService opt s.tunnel) else s := by
    simp only [Core.built, hraw, hopt]
  rw [hbuilt]
  simp only [activateTunnel]
  split_ifs
  · exact Go.Triple.modify fun t ht => ⟨⟨ht.1.1, ht.1.2.1, rfl⟩, ht.2⟩
  · exact Go.Triple.pure fun t ht => ht

lemma buildContent_step (req : StartRequest) (parsed : Singbox.Options) (x : StartServiceCalls)
    (s : Core) :
    Go.Triple (Between s) (buildContent req parsed x)
      (Go.results
        (fun b t => x.built req s.configOptions parsed = .ok b ∧ Between (s.built req) t)
        fun e t => x.built req s.configOptions parsed = .fail e ∧ SameAlert (s.built req) t)
      fun _ => (x.built req s.configOptions parsed).IsPanic := by
  simp only [buildContent, StartServiceCalls.built]
  split_ifs with hraw
  · refine Go.Triple.pure fun t ht => ⟨rfl, ?_⟩
    simpa only [Core.built, hraw] using ht
  have hraw' : req.enableRawConfig = false := by simpa using hraw
  apply Go.Triple.get_bind
  rintro _ ht a rfl
  have hconf : a.configOptions = s.configOptions := ht.2.1
  rcases hopt : s.configOptions with _ | opt
  · simp [hconf, hopt, Go.panic]
  simp only [hconf, hopt]
  refine (Go.Triple.bind ((activateTunnel_triple req opt s hraw' hopt).onPanic
    fun _ h => h.elim) fun _ => call_step fun _ h => h.1) a ht

lemma saveCurrentConfig_triple (x : StartServiceCalls) (s : Core) :
    Go.Triple (Between s) (saveCurrentConfig x)
      (fun _ t => ¬ x.saveConfig.IsPanic ∧ Between s t) fun _ => x.saveConfig.IsPanic := by
  refine Go.Triple.bind (M := fun _ t => ¬ x.saveConfig.IsPanic ∧ Between s t)
    (Go.Triple.callVoid (fun h t ht => ⟨h, ht⟩) fun h _ _ => h) fun _ => ?_
  refine Go.Triple.modify fun t ht => ⟨ht.1, ?_⟩
  split_ifs
  · exact ht.2.trans ⟨⟨rfl, rfl, rfl⟩, rfl, rfl⟩
  · exact ht.2

lemma startCommandServer_step (o : Outcome PUnit) (s : Core) (hfactory : s.coreLogFactory = true) :
    Go.Triple (Between s) (startCommandServer o)
      (Go.results (fun _ t => o = .ok ⟨⟩ ∧ Between s.addServer t)
        fun e t => o = .fail e ∧ SameAlert s.addServer t)
      fun _ => o.IsPanic := by
  apply Go.Triple.get_bind
  rintro _ ht a rfl
  have hlog : a.coreLogFactory = true := ht.2.2.trans hfactory
  simp only [hlog, if_true]
  refine (Go.Triple.bind (M := fun _ => Between s) (Go.Triple.get fun _ => id) fun b => ?_) a ht
  refine Go.Triple.bind (M := fun _ => Between s.addServer)
    (Go.Triple.modify fun t ht => ⟨⟨rfl, ht.1.2⟩, ht.2⟩) fun _ => ?_
  apply Go.Triple.bind (call_step fun _ h => h.1)
  intro r
  cases r with
  | error e => exact Go.Triple.pure fun t ht => ht
  | ok a =>
    rintro t ⟨ho, ht⟩
    exact ⟨ho, ht.trans ⟨⟨rfl, rfl, rfl⟩, rfl, rfl⟩⟩

lemma commandServerStep_step (req : StartRequest) (x : StartServiceCalls) (s : Core) :
    Go.Triple (Between s) (commandServerStep req x)
      (Go.results
        (fun _ t => x.server req s.coreLogFactory = .ok ⟨⟩ ∧ Between (s.served req) t)
        fun e t => x.server req s.coreLogFactory = .fail e ∧ SameAlert (s.served req) t)
      fun _ => (x.server req s.coreLogFactory).IsPanic := by
  simp only [commandServerStep, StartServiceCalls.server, Core.served]
  split_ifs with hreq hlog
  · exact startCommandServer_step x.serverStart s hlog
  · rintro t ht
    have hlog' : t.coreLogFactory = false := by simpa [ht.2.2] using hlog
    simp [startCommandServer, Go.bind_run, Go.get, Go.panic, hlog']
  · exact Go.Triple.pure fun t ht => ⟨rfl, ht⟩

/-- Instance `i` exists and has neither been started nor closed. -/
def Core.Fresh (s : Core) (i : Nat) : Prop :=
  ∃ b ∈ s.instances[i]?, b.started = false ∧ b.closeCalls = 0

lemma Core.Fresh.live_startInstance {s : Core} {i : Nat} (h : s.Fresh i) :
    (s.startInstance i).Live i := by
  obtain ⟨b, hb, -, hclose⟩ := h
  refine ⟨{ b with started := true }, ?_, rfl, hclose⟩
  simp only [Option.mem_def] at hb
  simp [hb]

lemma newService_step (options : Singbox.Options) (o : Outcome PUnit) (s : Core) :
    Go.Triple (Between s) (newService options o)
      (Go.results (fun i t => o = .ok ⟨⟩ ∧ Between s t ∧ t.Fresh i)
        fun e t => o = .fail e ∧ SameAlert s t)
      fun _ => o.IsPanic := by
  apply Go.Triple.bind (call_step fun _ h => h.1)
  intro r
  cases r with
  | error e => exact Go.Triple.pure fun t ht => ht
  | ok a =>
    rintro t ⟨ho, ht⟩
    refine ⟨ho, ht.trans ⟨⟨rfl, rfl, rfl⟩, rfl, rfl⟩, { options := options }, ?_, rfl, rfl⟩
    simp

lemma startBox_step (i : Nat) (o : Outcome PUnit) (s : Core) :
    Go.Triple (fun t => Between s t ∧ t.Fresh i) (startBox i o)
      (Go.results (fun _ t => o = .ok ⟨⟩ ∧ Between s t ∧ t.Live i)
        fun e t => o = .fail e ∧ SameAlert s t)
      fun _ => o.IsPanic := by
  apply Go.Triple.bind (call_step fun _ h => h.1.1)
  intro r
  cases r with
  | error e => exact Go.Triple.pure fun t ht => ht
  | ok a =>
    rintro t ⟨ho, ht, hfresh⟩
    exact ⟨ho, ht.trans ⟨⟨rfl, rfl, rfl⟩, rfl, rfl⟩, hfresh.live_startInstance⟩

lemma publish_triple (req : StartRequest) (i : Nat) (o : Exit PUnit) :
    Go.Triple (fun t => (req.enableOldCommandServer = true → t.oldCommandServer.isSome) ∧ t.Live i)
      (publish req i o)
      (fun reply t => ¬ (req.enableOldCommandServer = true ∧ o.IsPanic) ∧ reply.err = none ∧
        NoFalseSuccess reply t)
      fun _ => req.enableOldCommandServer = true ∧ o.IsPanic := by
  rintro t ⟨hserver, hlive⟩
  by_cases hreq : req.enableOldCommandServer = true
  · obtain ⟨j, hj⟩ := Option.isSome_iff_exists.mp (hserver hreq)
    cases o with
    | panic e =>
      simp [publish, serveBox, Go.bind_run, Go.get, Go.modify, Go.callVoid, hreq, hj]
    | ret a =>
      simp [publish, serveBox, setCoreStatus, Go.bind_run, Go.get, Go.modify, Go.callVoid,
        Go.pure_run, hreq, hj, NoFalseSuccess, Core.Live]
      simpa only [Core.Live, Option.mem_def] using hlive
  · simp [publish, serveBox, setCoreStatus, Go.bind_run, Go.modify, Go.pure_run, hreq,
      NoFalseSuccess, Core.Live]
    simpa only [Core.Live, Option.mem_def] using hlive

/-- `StartService` ends with a panic exactly when `Panics` says so. A nil error from it means that
every call succeeded and that the core is started, another error that the core is stopped. -/
theorem startService_triple (req : StartRequest) (x : StartServiceCalls) (s : Core) :
    Go.Triple (· = s) (startService req x)
      (fun reply t => ¬ x.Panics req s ∧
        (reply.err = none → x.Succeeds req s) ∧ NoFalseSuccess reply t ∧ FailsClean reply t)
      fun _ => x.Panics req s := by
  have herr : ∀ (reply : Reply) (t : Core), reply.err ≠ none →
      t.coreState = .stopped ∧ t.box = none →
      (reply.err = none → x.Succeeds req s) ∧ NoFalseSuccess reply t ∧ FailsClean reply t :=
    fun reply t h hclean => ⟨fun h' => absurd h' h, fun h' => absurd h' h, fun _ => hclean⟩
  have hconf : (s.built req).coreLogFactory = s.coreLogFactory := s.built_coreLogFactory req
  apply attempt_triple (readContent_step req x s) herr
  intro content hcontent
  apply attempt_triple (call_step fun _ h => h.1) herr
  intro parsed hparsed
  apply attempt_triple (buildContent_step req parsed x s) herr
  intro built hbuilt
  refine Go.Triple.bind ((saveCurrentConfig_triple x _).onPanic fun _ => Or.inl)
    fun _ => Go.Triple.assume fun hsave => ?_
  simp only [hsave, false_or]
  rw [← hconf]
  apply attempt_triple (commandServerStep_step req x _) herr
  intro _ hserver
  apply attempt_triple (newService_step built x.newService _) herr
  intro i hnew
  apply attempt_triple (startBox_step i x.boxStart _) herr
  intro _ hstart
  refine (publish_triple req i x.setService).conseq (fun t ht => ⟨fun hreq => ?_, ht.2⟩)
    (fun reply t ht => ⟨ht.1, fun _ => ?_, ht.2.2, fun h => absurd ht.2.1 h⟩) fun _ => id
  · have := ht.1.1.1
    simpa [Core.served, hreq] using this
  · exact { loads := ⟨content, parsed, built, hcontent, hparsed, hbuilt⟩
            saves := hsave
            serves := by rw [← hconf, hserver]; trivial
            creates := by rw [hnew]; trivial
            starts := by rw [hstart]; trivial
            publishes := ht.1 }

/-! ### A start without a failure -/

lemma modify_last {α : Type} (l : List α) (a : α) (f : α → α) :
    (l ++ [a]).modify l.length f = l ++ [f a] := by
  induction l with
  | nil => rfl
  | cons b l ih => simp [ih]

/-- The path that `StartService` keeps while it reads the content. -/
def StartRequest.activePath (req : StartRequest) (s : Core) : String :=
  if req.configContent = "" then req.configPath else s.activeConfigPath

/-- The path that is kept once the built configuration is saved. -/
def Core.savedPath (s : Core) : String :=
  if s.activeConfigPath = "" then s.currentBuildConfigPath else s.activeConfigPath

/-- What a successful `StartService` writes. -/
structure ServiceStarted (req : StartRequest) (built : Singbox.Options) (s t : Core) : Prop where
  coreState : t.coreState = .started
  box : t.box = some s.instances.length
  instances : t.instances = s.instances ++ [{ options := built, started := true }]
  oldCommandServer : t.oldCommandServer =
    if req.enableOldCommandServer then some s.servers.length else s.oldCommandServer
  servers : t.servers =
    if req.enableOldCommandServer then
      s.servers ++ [{ started := true, service := some s.instances.length }]
    else s.servers
  tunnel : t.tunnel = (s.built req).tunnel
  activeConfigPath : t.activeConfigPath = (s.setPath (req.activePath s)).savedPath

lemma readContent_run {req : StartRequest} {x : StartServiceCalls} {content : String} (s : Core)
    (h : x.content req = .ok content) :
    readContent req x s = (.ret (.ok content), s.setPath (req.activePath s)) := by
  simp only [StartServiceCalls.content] at h
  simp only [readContent, StartRequest.activePath]
  split_ifs at h ⊢
  · simp [Go.bind_run, Go.modify, h]
  · cases h
    rfl

lemma buildContent_run {req : StartRequest} {x : StartServiceCalls} {parsed built : Singbox.Options}
    {s : Core} (h : x.built req s.configOptions parsed = .ok built) :
    buildContent req parsed x s = (.ret (.ok built), s.built req) := by
  simp only [StartServiceCalls.built] at h
  simp only [buildContent, Core.built]
  split_ifs at h ⊢ with hraw
  · cases h
    rw [hraw]
    rfl
  · cases hopt : s.configOptions with
    | none => simp [hopt] at h
    | some opt =>
      simp only [hopt] at h
      have hraw' : req.enableRawConfig = false := by simpa using hraw
      simp only [Go.bind_run, Go.get, hopt, hraw', activateTunnel, h]
      split_ifs <;> rfl

lemma saveCurrentConfig_run {x : StartServiceCalls} (s : Core) (h : ¬ x.saveConfig.IsPanic) :
    saveCurrentConfig x s = (.ret ⟨⟩, s.setPath s.savedPath) := by
  cases hsave : x.saveConfig with
  | panic e => exact absurd (hsave ▸ trivial) h
  | ret a =>
    simp only [saveCurrentConfig, Go.bind_run, Go.callVoid, hsave, Go.modify, Core.savedPath]
    split_ifs <;> rfl

/-- `s` with a running command server, when one is asked for. -/
def Core.serving (req : StartRequest) (s : Core) : Core :=
  if req.enableOldCommandServer then s.addServer.startServer s.servers.length else s

lemma commandServerStep_run {req : StartRequest} {x : StartServiceCalls} (s : Core)
    (h : (x.server req s.coreLogFactory).IsOk) :
    commandServerStep req x s = (.ret (.ok ⟨⟩), s.serving req) := by
  simp only [StartServiceCalls.server] at h
  simp only [commandServerStep, Core.serving]
  split_ifs at h ⊢ with hreq hlog
  · obtain ⟨⟨⟩, hstart⟩ := h.exists_eq
    simp [startCommandServer, Go.bind_run, Go.get, Go.modify, Go.pure_run, hlog, hstart]
  · exact h.elim
  · rfl

lemma bind_of_ret {α β : Type} {m : Go Core α} {f : α → Go Core β} {s t : Core} {a : α}
    (h : m s = (.ret a, t)) : (m >>= f) s = f a t := by
  rw [Go.bind_run, h]

lemma attempt_of_ok {α : Type} {step : Go Core (Except String α)} {msgType : MessageType}
    {x : AlertCalls} {next : α → Go Core Reply} {s t : Core} {a : α}
    (h : step s = (.ret (.ok a), t)) : attempt step msgType x next s = next a t :=
  bind_of_ret h

lemma newService_run {o : Outcome PUnit} (built : Singbox.Options) (s : Core) (h : o.IsOk) :
    newService built o s = (.ret (.ok s.instances.length), s.addInstance built) := by
  obtain ⟨⟨⟩, rfl⟩ := h.exists_eq
  rfl

lemma startBox_run {o : Outcome PUnit} (i : Nat) (s : Core) (h : o.IsOk) :
    startBox i o s = (.ret (.ok ⟨⟩), s.startInstance i) := by
  obtain ⟨⟨⟩, rfl⟩ := h.exists_eq
  rfl

/-- `s` once the new instance `i` is published. -/
def Core.published (req : StartRequest) (i : Nat) (s : Core) : Core :=
  match req.enableOldCommandServer, s.oldCommandServer with
  | true, some j => ((s.setBox (some i)).serveServer j (some i)).setState .started
  | _, _ => (s.setBox (some i)).setState .started

lemma publish_run {req : StartRequest} {o : Exit PUnit} (i : Nat) {s : Core}
    (hserver : req.enableOldCommandServer = true → s.oldCommandServer.isSome)
    (ho : ¬ (req.enableOldCommandServer = true ∧ o.IsPanic)) :
    publish req i o s = (.ret { resp := some ⟨.started, .empty, ""⟩ }, s.published req i) := by
  cases hreq : req.enableOldCommandServer with
  | false =>
    simp [publish, serveBox, setCoreStatus, Go.bind_run, Go.modify, Go.pure_run, hreq,
      Core.published]
  | true =>
    obtain ⟨j, hj⟩ := Option.isSome_iff_exists.mp (hserver hreq)
    cases o with
    | panic e => exact absurd ⟨hreq, trivial⟩ ho
    | ret a =>
      simp [publish, serveBox, setCoreStatus, Go.bind_run, Go.get, Go.modify, Go.callVoid,
        Go.pure_run, hreq, hj, Core.published]

/-- The configuration `built` is what `StartService` reads, parses and builds. -/
def StartServiceCalls.Loads (x : StartServiceCalls) (req : StartRequest) (s : Core)
    (built : Singbox.Options) : Prop :=
  ∃ content parsed, x.content req = .ok content ∧ x.parse content = .ok parsed ∧
    x.built req s.configOptions parsed = .ok built

/-- With every call succeeding `StartService` runs the new instance, whatever ran before. -/
lemma startService_started {x : StartServiceCalls} {req : StartRequest} {built : Singbox.Options}
    {s : Core} (hx : x.Succeeds req s) (hbuilt : x.Loads req s built) :
    ∃ t, startService req x s = (.ret { resp := some ⟨.started, .empty, ""⟩ }, t) ∧
      ServiceStarted req built s t := by
  obtain ⟨content, parsed, hcontent, hparsed, hbuilt⟩ := hbuilt
  let r := s.setPath (req.activePath s)
  have hparse : Go.call (x.parse content) r = (.ret (.ok parsed), r) := by rw [hparsed, Go.call_ok]
  let b := r.setTunnel (s.built req).tunnel
  have hb : r.built req = b := by
    simp only [b, r, Core.built, Core.setPath_configOptions]
    cases req.enableRawConfig <;> cases s.configOptions <;> try rfl
    simp only
    split_ifs <;> rfl
  let u := b.setPath b.savedPath
  let i := (u.serving req).instances.length
  let v := ((u.serving req).addInstance built).startInstance i
  have hrun : startService req x s = publish req i x.setService v :=
    (attempt_of_ok (readContent_run s hcontent)).trans <|
    (attempt_of_ok hparse).trans <|
    (attempt_of_ok ((buildContent_run (s := r) hbuilt).trans (by rw [hb]))).trans <|
    (bind_of_ret (saveCurrentConfig_run b hx.saves)).trans <|
    (attempt_of_ok (commandServerStep_run u hx.serves)).trans <|
    (attempt_of_ok (newService_run built _ hx.creates)).trans <|
    attempt_of_ok (startBox_run i _ hx.starts)
  have hserver : req.enableOldCommandServer = true → v.oldCommandServer.isSome := by
    intro hreq
    simp [v, Core.serving, hreq]
  refine ⟨_, hrun.trans (publish_run i hserver hx.publishes), ?_⟩
  cases hreq : req.enableOldCommandServer with
  | false =>
    constructor <;>
      simp [Core.published, v, i, u, b, r, Core.serving, hreq, modify_last, Core.savedPath]
  | true =>
    constructor <;>
      simp [Core.published, v, i, u, b, r, Core.serving, hreq, modify_last, Core.savedPath]

/-! ### A raw configuration -/

/-- The request has a configuration of its own, which is neither built nor served. -/
structure StartRequest.IsRaw (req : StartRequest) : Prop where
  content : req.configContent ≠ ""
  raw : req.enableRawConfig = true
  server : req.enableOldCommandServer = false

/-- With no call failing, `StartService` adds a started instance behind those of `s` and puts it
into `Box`, whatever `Box` was. -/
lemma startService_run {x : StartServiceCalls} {req : StartRequest} {o : Singbox.Options} {s : Core}
    (hreq : req.IsRaw) (hparse : x.parse req.configContent = .ok o)
    (hsave : ¬ x.saveConfig.IsPanic) (hnew : x.newService.IsOk) (hstart : x.boxStart.IsOk) :
    ∃ reply t, startService req x s = (.ret reply, t) ∧ reply.err = none ∧
      t.coreState = .started ∧ t.box = some s.instances.length ∧
      t.instances = s.instances ++ [{ options := o, started := true }] ∧ t.tunnel = s.tunnel := by
  have hbuilt : x.Loads req s o := by
    refine ⟨req.configContent, o, ?_, hparse, ?_⟩
    · rw [StartServiceCalls.content, if_neg hreq.content]
    · simp only [StartServiceCalls.built, hreq.raw, if_true]
  have hx : x.Succeeds req s :=
    { loads := by
        obtain ⟨content, parsed, h⟩ := hbuilt
        exact ⟨content, parsed, o, h⟩
      saves := hsave
      serves := by simp [StartServiceCalls.server, hreq.server]
      creates := hnew
      starts := hstart
      publishes := by simp [hreq.server] }
  obtain ⟨t, hrun, hstarted⟩ := startService_started hx hbuilt
  refine ⟨_, t, hrun, rfl, hstarted.coreState, hstarted.box, hstarted.instances, ?_⟩
  rw [hstarted.tunnel, Core.built, hreq.raw]

/-- A raw configuration that `StartService` reports as running leaves the tunnel service alone. -/
lemma startService_raw_triple {req : StartRequest} (hreq : req.IsRaw) (x : StartServiceCalls)
    (s : Core) :
    Go.Triple (· = s) (startService req x)
      (fun reply t => reply.err = none → t.box.isSome ∧ t.tunnel = s.tunnel) fun _ => True := by
  rintro s rfl
  have h := startService_triple req x s s rfl
  rcases hrun : startService req x s with ⟨reply | e, t⟩
  · rw [hrun] at h
    obtain ⟨-, hsucc, -, -⟩ := h
    intro hnil
    obtain ⟨⟨content, parsed, built, hcontent, hparse, -⟩, hsave, -, hnew, hstart, -⟩ := hsucc hnil
    rw [StartServiceCalls.content, if_neg hreq.content] at hcontent
    cases hcontent
    obtain ⟨reply', t', hrun', -, -, hbox, -, htunnel⟩ :=
      startService_run (s := s) hreq hparse hsave hnew hstart
    cases hrun.symm.trans hrun'
    exact ⟨by rw [hbox]; rfl, htunnel⟩
  · trivial

end HiddifyCore.V2
