import HiddifyCore.V2.Success

/-!
# Restart and recovery

`Restart` is `Stop`, and `Start` unless `Stop` returned an error (`restart_eq`): in a core that can
be stopped the two differ in what they do about that error. No sequence of operations wedges the
core: from every state one `Start` of which the calls succeed ends with a running instance
(`start_recovers`).
-/

namespace HiddifyCore.V2

open GoLib Config

/-! ### Restart -/

/-- The text of the alert is not kept, so it makes no difference which operation recovers. -/
lemma deferPanicToError_congr {name name' : String} {x : AlertCalls} {body body' : Go Core Reply}
    {s t : Core} (h : body s = body' t) :
    deferPanicToError name x body s = deferPanicToError name' x body' t := by
  simp only [deferPanicToError, Go.deferRecover, h]
  rcases body' t with ⟨reply | e, u⟩ <;> rfl

variable {req : StartRequest} {x : StartCalls} {s t : Core}

/-- `Start` of a stopped core has nothing to stop. -/
lemma start_of_stopped (h : s.coreState = .stopped) :
    start req x s = deferPanicToError "start" x.recovery (enterStarting req x) s := by
  apply deferPanicToError_congr
  simp [ensureStopped, Go.bind_run, Go.get, Go.pure_run, h]

/-- The guards of `Stop` return an error and change nothing. -/
lemma stop_refuses {x : StopCalls} (h : ¬ s.Stoppable) :
    ∃ reply, stop x s = (.ret reply, s) ∧ reply.err.isSome := by
  by_cases hstate : s.coreState = .started
  · have hbox : s.box = none := by simpa [Core.Stoppable, hstate] using h
    refine ⟨notFound s, ?_, rfl⟩
    simp [stop, deferPanicToError, Go.deferRecover, Go.bind_run, Go.get, Go.pure_run, hstate, hbox]
  · refine ⟨notStarted s, ?_, rfl⟩
    simp [stop, deferPanicToError, Go.deferRecover, Go.bind_run, Go.get, Go.pure_run, hstate]

/-- Those of `Restart` are the same. -/
lemma restart_refuses (h : ¬ s.Stoppable) : restart req x s = stop x.stop s := by
  by_cases hstate : s.coreState = .started
  · have hbox : s.box = none := by simpa [Core.Stoppable, hstate] using h
    simp [restart, stop, deferPanicToError, Go.deferRecover, Go.bind_run, Go.get, Go.pure_run,
      hstate, hbox]
  · simp [restart, stop, deferPanicToError, Go.deferRecover, Go.bind_run, Go.get, Go.pure_run,
      hstate]

/-- Past its guards `Restart` stops the core and looks at the error. -/
lemma restart_of_stoppable (h : s.Stoppable) :
    restart req x s = deferPanicToError "restart" x.recovery (do
      let reply ← stop x.stop
      if reply.err.isSome then pure reply else enterStarting req x) s := by
  obtain ⟨hstate, hbox⟩ := h
  obtain ⟨i, hi⟩ := Option.isSome_iff_exists.mp hbox
  apply deferPanicToError_congr
  simp [Go.bind_run, Go.get, hstate, hi]

/-- Past its guard `Start` stops the core and drops the error. -/
lemma start_of_started (h : s.coreState = .started) :
    start req x s = deferPanicToError "start" x.recovery (do
      let _ ← stop x.stop
      enterStarting req x) s := by
  apply deferPanicToError_congr
  simp only [ensureStopped, Go.bind_run, Go.get, h, ne_eq, reduceCtorEq, not_false_eq_true,
    if_true]
  rcases stop x.stop s with ⟨reply | e, t⟩ <;> rfl

/-- `Restart` is `Stop` and then `Start`, unless `Stop` returns an error: then it returns what
`Stop` returned. Where a panic leaves `Stop`, it ends as `Start` does. -/
theorem restart_eq (req : StartRequest) (x : StartCalls) (s : Core) :
    restart req x s =
      match stop x.stop s with
      | (.ret reply, t) => if reply.err.isSome then (.ret reply, t) else start req x t
      | (.panic _, _) => start req x s := by
  by_cases hstop : s.Stoppable
  · have htriple := stop_triple x.stop s s rfl
    rw [restart_of_stoppable hstop]
    rcases hrun : stop x.stop s with ⟨reply | e, t⟩
    · rw [hrun] at htriple
      obtain ⟨-, -, hends⟩ := htriple
      obtain ⟨herr, hstopped⟩ := hends hstop
      by_cases h : reply.err.isSome
      · simp [deferPanicToError, Go.deferRecover, Go.bind_run, Go.pure_run, hrun, h]
      · have hstate : t.coreState = .stopped := by
          refine (hstopped fun hfails => h ?_).1
          exact Option.ne_none_iff_isSome.mp (herr.mpr hfails)
        simp only [h]
        rw [start_of_stopped hstate]
        apply deferPanicToError_congr
        simp [Go.bind_run, hrun, h]
    · simp only
      rw [start_of_started hstop.1]
      apply deferPanicToError_congr
      simp [Go.bind_run, hrun]
  · obtain ⟨reply, hreply, herr⟩ := stop_refuses (x := x.stop) hstop
    rw [restart_refuses hstop, hreply]
    simp [herr]

/-! ### Recovery -/

/-- Every call of `Start` succeeds, whatever it is asked. -/
structure StartCalls.AllSucceed (x : StartCalls) : Prop where
  stop : x.stop.toAlertCalls.Succeeds
  setMemoryLimit : ¬ x.setMemoryLimit.IsPanic
  readFile : ∀ path, (x.service.readFile path).IsOk
  parse : ∀ content, (x.service.parse content).IsOk
  build : ∀ opt parsed, (x.service.build opt parsed).IsOk
  saveConfig : ¬ x.service.saveConfig.IsPanic
  serverStart : x.service.serverStart.IsOk
  newService : x.service.newService.IsOk
  boxStart : x.service.boxStart.IsOk
  setService : ¬ x.service.setService.IsPanic

/-- What `Start` needs of the process: the options, unless the configuration is raw, and the logger
for the command server. -/
structure StartRequest.Served (req : StartRequest) (s : Core) : Prop where
  configOptions : req.enableRawConfig = false → s.configOptions.isSome
  coreLogFactory : req.enableOldCommandServer = true → s.coreLogFactory = true

lemma StartCalls.AllSucceed.succeeds (hx : x.AllSucceed) (hreq : req.Served s) :
    x.service.Succeeds req s where
  loads := by
    have hcontent : (x.service.content req).IsOk := by
      rw [StartServiceCalls.content]
      split_ifs
      · exact hx.readFile _
      · trivial
    obtain ⟨content, hcontent⟩ := hcontent.exists_eq
    obtain ⟨parsed, hparsed⟩ := (hx.parse content).exists_eq
    have hbuilt : (x.service.built req s.configOptions parsed).IsOk := by
      simp only [StartServiceCalls.built]
      split_ifs with hraw
      · trivial
      · obtain ⟨opt, hopt⟩ := Option.isSome_iff_exists.mp
          (hreq.configOptions (Bool.eq_false_iff.mpr hraw))
        rw [hopt]
        exact hx.build opt parsed
    obtain ⟨built, hbuilt⟩ := hbuilt.exists_eq
    exact ⟨content, parsed, built, hcontent, hparsed, hbuilt⟩
  saves := hx.saveConfig
  serves := by
    rw [StartServiceCalls.server]
    split_ifs with hserver hlog
    · exact hx.serverStart
    · exact absurd (hreq.coreLogFactory hserver) hlog
    · trivial
  creates := hx.newService
  starts := hx.boxStart
  publishes h := hx.setService h.2

lemma ServiceStarted.live {built : Singbox.Options} (h : ServiceStarted req built s t) :
    t.Live s.instances.length := by
  refine ⟨{ options := built, started := true }, ?_, rfl, rfl⟩
  simp [h.instances]

lemma ensureStopped_run (hx : x.AllSucceed) (s : Core) :
    ∃ t, ensureStopped x.stop s = (.ret ⟨⟩, t) ∧ SameSetup s t := by
  have hsame : SameSetup s (ensureStopped x.stop s).2 := by
    have h : Go.Within SameSetup (ensureStopped x.stop) := by
      apply Go.Within.get_bind
      intro s
      split_ifs
      · exact Go.Within.bind setupFrame.trans (setupFrame.stop_within x.stop)
          (fun _ => .pure setupFrame.refl _) s
      · exact setupFrame.refl s
    exact h s
  rcases hrun : ensureStopped x.stop s with ⟨u | e, t⟩
  · rw [hrun] at hsame
    exact ⟨t, rfl, hsame⟩
  exfalso
  simp only [ensureStopped, Go.bind_run, Go.get] at hrun
  split_ifs at hrun
  · by_cases hstop : s.Stoppable
    · obtain ⟨i, hi⟩ := Option.isSome_iff_exists.mp hstop.2
      obtain ⟨reply, u, hreply, -⟩ := stop_run hx.stop hstop.1 hi
      rw [Go.bind_run, hreply] at hrun
      cases hrun
    · obtain ⟨reply, hreply, -⟩ := stop_refuses (x := x.stop) hstop
      rw [Go.bind_run, hreply] at hrun
      cases hrun
  · cases hrun

/-- `Start` ends as its `StartService` does. -/
lemma start_started (hx : x.AllSucceed) (hreq : req.Served s) :
    ∃ built u t, start req x s = (.ret { resp := some ⟨.started, .empty, ""⟩ }, t) ∧
      ServiceStarted req built u t := by
  obtain ⟨u, hu, hsame⟩ := ensureStopped_run hx s
  have hsucceeds : x.service.Succeeds req (u.setState .starting) :=
    (setupFrame.trans s u (u.setState .starting) hsame ⟨rfl, rfl⟩).succeeds (hx.succeeds hreq)
  obtain ⟨content, parsed, built, hloads⟩ := hsucceeds.loads
  obtain ⟨t, hrun, hstarted⟩ := startService_started hsucceeds ⟨content, parsed, hloads⟩
  refine ⟨built, _, t, ?_, hstarted⟩
  cases hlimit : x.setMemoryLimit with
  | ret a =>
    simp [start, deferPanicToError, Go.deferRecover, Go.bind_run, hu, enterStarting,
      setCoreStatus, Go.modify, Go.pure_run, Go.callVoid, hlimit, hrun]
  | panic e => exact absurd (hlimit ▸ trivial) hx.setMemoryLimit

/-- Calls that succeed do not panic. -/
lemma StartCalls.AllSucceed.not_startPanics (hx : x.AllSucceed) (hreq : req.Served s) :
    ¬ x.StartPanics req s := by
  obtain ⟨built, u, t, hrun, hstarted⟩ := start_started hx hreq
  exact ((start_success req x s).ret rfl hrun).mp fun _ =>
    ⟨hstarted.coreState, ⟨_, hstarted.box, hstarted.live⟩, rfl⟩

/-- Whatever happened before, one `Start` of which the calls succeed runs a new instance. -/
theorem start_recovers (hx : x.AllSucceed) (hreq : req.Served s) :
    ∃ t i, start req x s = (.ret { resp := some ⟨.started, .empty, ""⟩ }, t) ∧
      t.coreState = .started ∧ t.box = some i ∧ t.Live i := by
  obtain ⟨built, u, t, hrun, hstarted⟩ := start_started hx hreq
  exact ⟨t, _, hrun, hstarted.coreState, hstarted.box, hstarted.live⟩

/-- With the zero values of the calls nothing fails. -/
lemma allSucceed_default : ({} : StartCalls).AllSucceed := by
  constructor
  · constructor <;> simp
  all_goals simp

/-- What a `Stop` leaves of which `Close` returned an error. -/
def halfStopped : Core where
  coreState := .stopping
  box := some 0
  instances := [{ options := {}, started := true, closeCalls := 1 }]

theorem start_recovers_halfStopped :
    ∃ t i, start rawRequest {} halfStopped =
        (.ret { resp := some ⟨.started, .empty, ""⟩ }, t) ∧
      t.coreState = .started ∧ t.box = some i ∧ t.Live i := by
  apply start_recovers allSucceed_default
  constructor <;> simp [rawRequest]

end HiddifyCore.V2
