import HiddifyCore.V2.Exits

/-!
# How Stop ends

`Stop` refuses a core that is not started, returns an error when a `Close` fails, and recovers a
panic of its calls by `StopAndAlert`, whose own panic leaves it. Here these ends are read off the
state before the call and the outcomes of the calls.
-/

namespace HiddifyCore.V2

open GoLib Config

/-- Neither of the two guards of `Stop` holds. -/
def Core.Stoppable (s : Core) : Prop := s.coreState = .started ∧ s.box.isSome

/-- `s` after `DeactivateTunnelService`. -/
def Core.deactivated (stop : Outcome PUnit) (s : Core) : Core :=
  s.setTunnel (deactivateTunnelService stop s.tunnel).2

namespace AlertCalls

/-- `Stop` reaches one of its two `Close` calls and that call returns an error. -/
def CloseFails (x : AlertCalls) (s : Core) : Prop :=
  ¬ (s.tunnel.running = true ∧ x.stopTunnel.IsPanic) ∧
  ¬ (s.oldCommandServer.isSome ∧ x.clearService.IsPanic) ∧
  (x.boxClose.IsFail ∨ x.boxClose.IsOk ∧ s.oldCommandServer.isSome ∧ x.serverClose.IsFail)

/-- `Stop` panics in a state that is like `t`, as far as `StopAndAlert` can tell. -/
inductive PanicsIn (x : AlertCalls) (s : Core) : Core → Prop where
  | stopTunnel : s.tunnel.running = true → x.stopTunnel.IsPanic → PanicsIn x s s
  | clearService : ¬ (s.tunnel.running = true ∧ x.stopTunnel.IsPanic) →
      s.oldCommandServer.isSome → x.clearService.IsPanic →
      PanicsIn x s (s.deactivated x.stopTunnel)
  | boxClose : ¬ (s.tunnel.running = true ∧ x.stopTunnel.IsPanic) →
      ¬ (s.oldCommandServer.isSome ∧ x.clearService.IsPanic) → x.boxClose.IsPanic →
      PanicsIn x s (s.deactivated x.stopTunnel)
  | serverClose : ¬ (s.tunnel.running = true ∧ x.stopTunnel.IsPanic) →
      ¬ (s.oldCommandServer.isSome ∧ x.clearService.IsPanic) → x.boxClose.IsOk →
      s.oldCommandServer.isSome → x.serverClose.IsPanic →
      PanicsIn x s ((s.deactivated x.stopTunnel).setBox none)

/-- The calls that panic decide where `Stop` is when it panics. -/
lemma PanicsIn.unique {x : AlertCalls} {s t u : Core} (ht : x.PanicsIn s t)
    (hu : x.PanicsIn s u) : t = u := by
  have hok : ∀ {o : Outcome PUnit}, o.IsOk → ¬ o.IsPanic := fun h => h.not_isPanic
  cases ht <;> cases hu <;> first | rfl | (exfalso; tauto)

lemma PanicsIn.not_closeFails {x : AlertCalls} {s t : Core} (ht : x.PanicsIn s t) :
    ¬ x.CloseFails s := by
  rintro ⟨htun, hclear, hclose⟩
  cases ht with
  | stopTunnel hrun hp => exact htun ⟨hrun, hp⟩
  | clearService _ hs hp => exact hclear ⟨hs, hp⟩
  | boxClose _ _ hp =>
    rcases hclose with hfail | ⟨hok, -⟩
    · exact hfail.not_isPanic hp
    · exact hok.not_isPanic hp
  | serverClose _ _ hok _ hp =>
    rcases hclose with hfail | ⟨-, -, hfail⟩
    · exact hok.not_isFail hfail
    · exact hfail.not_isPanic hp

end AlertCalls

/-- A panic leaves `Stop`: one of its calls panics, and so does the `StopAndAlert` that runs
then. -/
def StopCalls.Panics (x : StopCalls) (s : Core) : Prop :=
  s.Stoppable ∧ ∃ t, x.toAlertCalls.PanicsIn s t ∧ x.recovery.Panics t

/-- The two ways `Stop` returns from `stopBox`. -/
def Stopped (x : AlertCalls) (s : Core) (reply : Reply) (t : Core) : Prop :=
  (reply.err ≠ none ↔ x.CloseFails s) ∧
    (¬ x.CloseFails s → t.coreState = .stopped ∧ t.box = none)

/-- The part of `Stop` after `Close` of the instance returned nil. -/
lemma stopServer_triple (x : AlertCalls) (s : Core) :
    Go.Triple (· = s) (stopServer x)
      (fun reply t => (reply.err ≠ none ↔ s.oldCommandServer.isSome ∧ x.serverClose.IsFail) ∧
        (¬ (s.oldCommandServer.isSome ∧ x.serverClose.IsFail) →
          t.coreState = .stopped ∧ t.box = none) ∧
        ¬ (s.oldCommandServer.isSome ∧ x.serverClose.IsPanic))
      (fun t => s.oldCommandServer.isSome ∧ x.serverClose.IsPanic ∧
        SameAlert (s.setBox none) t) := by
  rintro t rfl
  cases hserver : t.oldCommandServer with
  | none =>
    simp [stopServer, Go.bind_run, Go.get, Go.modify, Go.pure_run, setCoreStatus, hserver]
  | some j =>
    cases hclose : x.serverClose <;>
      simp [stopServer, closeCommandServer, Go.bind_run, Go.get, Go.modify, Go.call, Go.pure_run,
        setCoreStatus, stopError, hserver, hclose, SameAlert]

/-- `DeactivateTunnelService` in a state that differs from `s` in the status only. -/
lemma deactivateTunnel_state (c : CoreState) (o : Outcome PUnit) (s : Core) :
    Go.Triple (· = s.setState c) (deactivateTunnel o)
      (fun _ t => ¬ (s.tunnel.running = true ∧ o.IsPanic) ∧ t = (s.deactivated o).setState c)
      (fun t => s.tunnel.running = true ∧ o.IsPanic ∧ SameAlert s t) := by
  apply Go.Triple.zoom
  rintro t rfl
  by_cases hrun : s.tunnel.running = true
  · cases o <;> simp [deactivateTunnelService, Core.deactivated, Core.setTunnel, Core.setState,
      Go.bind_run, Go.get, Go.modify, Go.call, Go.pure_run, hrun, SameAlert]
  · simp [deactivateTunnelService, Core.deactivated, Core.setTunnel, Core.setState, Go.bind_run,
      Go.get, Go.modify, Go.pure_run, hrun]

lemma clearService_state (o : Exit PUnit) (s : Core) :
    Go.Triple (· = s) (clearService o)
      (fun _ t => ¬ (s.oldCommandServer.isSome ∧ o.IsPanic) ∧ SameAlert s t)
      (fun t => (s.oldCommandServer.isSome ∧ o.IsPanic) ∧ SameAlert s t) := by
  rintro t rfl
  cases h : t.oldCommandServer with
  | none => simp [clearService, Go.bind_run, Go.get, Go.pure_run, h, SameAlert]
  | some j =>
    cases o <;> simp [clearService, Go.bind_run, Go.get, Go.modify, Go.callVoid, h, SameAlert]

/-- `Stop` past its guards: what it returns, and what the deferred function finds. -/
lemma stopBox_triple (i : Nat) (x : AlertCalls) (s : Core) :
    Go.Triple (fun t => t = s ∧ s.box = some i) (stopBox i x)
      (fun reply t => (∀ u, ¬ x.PanicsIn s u) ∧ Stopped x s reply t)
      (fun t => ∃ u, x.PanicsIn s u ∧ SameAlert u t) := by
  refine Go.Triple.bind (M := fun _ t => t = s.setState .stopping) ?_ fun _ => ?_
  · rintro t ⟨rfl, -⟩
    simp [setCoreStatus, Go.bind_run, Go.modify, Go.pure_run]
  refine Go.Triple.bind ((deactivateTunnel_state .stopping x.stopTunnel s).onPanic
    fun t ht => ⟨s, .stopTunnel ht.1 ht.2.1, ht.2.2⟩) fun _ => ?_
  apply Go.Triple.assume
  intro htun
  refine Go.Triple.bind ((clearService_state x.clearService _).onPanic
    fun t ht => ⟨_, .clearService htun ht.1.1 ht.1.2, ht.2⟩) fun _ => ?_
  apply Go.Triple.assume
  intro hclear
  have hclear' : ¬ (s.oldCommandServer.isSome ∧ x.clearService.IsPanic) := hclear
  refine Go.Triple.bind
    (M := fun r t => SameAlert (s.deactivated x.stopTunnel) t ∧ ¬ x.boxClose.IsPanic ∧
      (r.isOk = true ↔ x.boxClose.IsOk)) ?_ fun r => ?_
  · refine Go.Triple.bind (M := fun _ => SameAlert (s.deactivated x.stopTunnel))
      (Go.Triple.modify fun t ht => ht) fun _ => ?_
    refine Go.Triple.call (fun a ha t ht => ?_) (fun e he t ht => ?_)
      fun hpanic t ht => ⟨_, .boxClose htun hclear hpanic, ht⟩
    · simp [ha, ht, Except.isOk, Except.toBool]
    · simp [he, ht, Except.isOk, Except.toBool]
  -- past the two services, only a panicking `Close` is left
  have hnone : ¬ x.boxClose.IsPanic →
      ¬ (x.boxClose.IsOk ∧ s.oldCommandServer.isSome ∧ x.serverClose.IsPanic) →
      ∀ u, ¬ x.PanicsIn s u := by
    rintro hbox hserver u (⟨hrun, hp⟩ | ⟨-, hs, hp⟩ | ⟨-, -, hp⟩ | ⟨-, -, hok, hs, hp⟩)
    · exact htun ⟨hrun, hp⟩
    · exact hclear ⟨hs, hp⟩
    · exact hbox hp
    · exact hserver ⟨hok, hs, hp⟩
  rintro t ⟨hsame, hbox, hr⟩
  cases r with
  | error e =>
    have hok : ¬ x.boxClose.IsOk := fun h => by simpa [Except.isOk, Except.toBool] using hr.mpr h
    have hfails : x.CloseFails s := ⟨htun, hclear, Or.inl (Outcome.isFail_of_not hok hbox)⟩
    refine ⟨hnone hbox fun h => hok h.1, ?_, fun h => absurd hfails h⟩
    simp [stopError, hfails]
  | ok _ =>
    have hok : x.boxClose.IsOk := hr.mp rfl
    have hserver : t.oldCommandServer.isSome = s.oldCommandServer.isSome := hsame.1
    have hfails : x.CloseFails s ↔ t.oldCommandServer.isSome ∧ x.serverClose.IsFail := by
      simp only [AlertCalls.CloseFails, hserver, hok.not_isFail, hok, htun, hclear',
        not_false_eq_true, true_and, false_or]
    refine ((stopServer_triple x t).conseq (fun _ => id) (fun reply u hu => ?_)
      fun u hu => ?_) t rfl
    · obtain ⟨herr, hclean, hpanic⟩ := hu
      refine ⟨hnone hbox fun h => hpanic (by rw [hserver]; exact h.2), ?_, ?_⟩
      · rw [hfails]
        exact herr
      · rw [hfails]
        exact hclean
    · obtain ⟨hsome, hpanic, hlike⟩ := hu
      refine ⟨_, .serverClose htun hclear hok (hserver ▸ hsome) hpanic, ?_⟩
      exact ⟨hlike.1.trans hsame.1, hlike.2.1, hlike.2.2.trans hsame.2.2⟩

/-- What `Stop` returns: the refusal of a core that cannot be stopped, or one of the ends of
`stopBox`, or the zero results after a recovered panic. -/
theorem stop_triple (x : StopCalls) (s : Core) :
    Go.Triple (· = s) (stop x)
      (fun reply t => ¬ x.Panics s ∧ (¬ s.Stoppable → reply.err ≠ none ∧ t = s) ∧
        (s.Stoppable → Stopped x.toAlertCalls s reply t))
      (fun _ => x.Panics s) := by
  refine Go.Triple.deferRecover
    (M := fun t => s.Stoppable ∧ ∃ u, x.toAlertCalls.PanicsIn s u ∧ SameAlert u t) ?_ fun e => ?_
  · apply Go.Triple.get_bind
    rintro _ rfl a rfl
    split_ifs with hstate
    · have hnot : ¬ a.Stoppable := fun h => hstate h.1
      exact ⟨fun h => hnot h.1, fun _ => ⟨by simp [notStarted], rfl⟩, fun h => absurd h hnot⟩
    cases hbox : a.box with
    | none =>
      have hnot : ¬ a.Stoppable := fun h => by simpa [hbox] using h.2
      exact ⟨fun h => hnot h.1, fun _ => ⟨by simp [notFound], rfl⟩, fun h => absurd h hnot⟩
    | some i =>
      have hstop : a.Stoppable := ⟨not_not.mp hstate, by simp [hbox]⟩
      refine ((stopBox_triple i x.toAlertCalls a).conseq (fun _ => id) (fun reply t ht => ?_)
        fun t ht => ⟨hstop, ht⟩) a ⟨rfl, hbox⟩
      refine ⟨?_, fun h => absurd hstop h, fun _ => ht.2⟩
      rintro ⟨-, u, hu, -⟩
      exact ht.1 u hu
  · rintro t ⟨hstop, u, hu, hlike⟩
    have hrec : x.recovery.Panics t ↔ x.recovery.Panics u := x.recovery.panics_congr hlike
    refine ((stopAndAlert_triple _ _ x.recovery t).conseq (fun _ => id) (fun _ v hv => ?_)
      fun v hv => ⟨hstop, u, hu, hrec.mp hv⟩) t rfl
    have hnofail : ¬ x.toAlertCalls.CloseFails s := hu.not_closeFails
    refine ⟨?_, fun h => absurd hstop h, fun _ => ⟨?_, fun _ => hv.2⟩⟩
    · rintro ⟨-, u', hu', hpanic⟩
      rw [hu'.unique hu] at hpanic
      exact hv.1 (hrec.mpr hpanic)
    · simp [hnofail]

/-- `Stop` past its guards ends in STOPPING or in STOPPED. -/
lemma stopBox_notStarted (i : Nat) (x : AlertCalls) :
    Go.Triple (fun _ => True) (stopBox i x) (fun _ t => t.coreState ≠ .started)
      fun _ => True := by
  refine Go.Triple.bind (M := fun _ t => t.coreState = .stopping) ?_ fun _ => ?_
  · intro s _
    rfl
  refine Go.Triple.bind (M := fun _ t => t.coreState = .stopping) ?_ fun _ => ?_
  · intro s hs
    exact ((deactivateTunnel_triple x.stopTunnel s).conseq (fun _ => id)
      (fun _ _ ht => ht.2.2.2.trans hs) fun _ _ => trivial) s rfl
  refine Go.Triple.bind (M := fun _ t => t.coreState = .stopping) ?_ fun _ => ?_
  · intro s hs
    exact ((clearService_triple x.clearService s).conseq (fun _ => id)
      (fun _ _ ht => ht.2.2.2.trans hs) fun _ _ => trivial) s rfl
  refine Go.Triple.bind (M := fun _ t => t.coreState = .stopping) ?_ fun r => ?_
  · refine Go.Triple.bind (M := fun _ t => t.coreState = .stopping)
      (Go.Triple.modify fun _ hs => hs) fun _ => ?_
    exact Go.Triple.call (fun _ _ _ => id) (fun _ _ _ => id) fun _ _ _ => trivial
  cases r with
  | error e =>
    refine Go.Triple.bind (M := fun _ t => t.coreState = .stopping) (Go.Triple.get fun _ => id)
      fun _ => Go.Triple.pure fun s hs => ?_
    rw [hs]
    decide
  | ok a =>
    refine Go.Triple.bind (M := fun _ t => t.coreState = .stopping)
      (Go.Triple.modify fun _ hs => hs) fun _ => ?_
    intro s hs
    cases hserver : s.oldCommandServer <;> cases x.serverClose <;>
      simp [closeCommandServer, setCoreStatus, Go.bind_run, Go.get, Go.modify, Go.pure_run,
        hserver, hs]

/-- `Stop` leaves a core running only when it refuses to act. -/
lemma stop_started_triple (x : StopCalls) (s : Core) :
    Go.Triple (· = s) (stop x) (fun _ t => t.coreState = .started → ¬ s.Stoppable ∧ t = s)
      fun _ => True := by
  apply Go.Triple.deferRecover (M := fun _ => True)
  · apply Go.Triple.get_bind
    rintro _ rfl a rfl
    split_ifs with hstate
    · exact fun h => absurd h hstate
    cases hbox : a.box with
    | none => exact fun _ => ⟨fun h => by simpa [hbox] using h.2, rfl⟩
    | some i =>
      exact ((stopBox_notStarted i x.toAlertCalls).conseq (fun _ _ => trivial)
        (fun _ _ ht h => absurd h ht) fun _ => id) a rfl
  · intro e s _
    refine ((stopAndAlert_triple _ _ x.recovery s).conseq (fun _ => id) (fun _ t ht h => ?_)
      fun _ _ => trivial) s rfl
    rw [ht.2.1] at h
    cases h

/-- Every call of `Stop` succeeds. -/
structure AlertCalls.Succeeds (x : AlertCalls) : Prop where
  stopTunnel : x.stopTunnel.IsOk
  clearService : ¬ x.clearService.IsPanic
  boxClose : x.boxClose.IsOk
  serverClose : x.serverClose.IsOk

/-- `Stop` of a running core with no call failing: the core is stopped and instance `i` closed. -/
lemma stop_run {x : StopCalls} {s : Core} {i : Nat} (hx : x.toAlertCalls.Succeeds)
    (hstate : s.coreState = .started) (hi : s.box = some i) :
    ∃ reply t, stop x s = (.ret reply, t) ∧ reply.err = none ∧ t.coreState = .stopped ∧
      t.box = none ∧ t.instances = (s.closeInstance i).instances := by
  obtain ⟨⟨⟩, hstop⟩ := hx.stopTunnel.exists_eq
  obtain ⟨⟨⟩, hbox⟩ := hx.boxClose.exists_eq
  obtain ⟨⟨⟩, hserver⟩ := hx.serverClose.exists_eq
  obtain ⟨⟨⟩, hclear⟩ : ∃ a, x.clearService = .ret a := by
    rcases h : x.clearService with a | e
    · exact ⟨a, rfl⟩
    · exact absurd (h ▸ trivial) hx.clearService
  rcases hsrv : s.oldCommandServer with _ | j <;> by_cases htun : s.tunnel.running = true <;>
    simp [stop, deferPanicToError, Go.deferRecover, stopBox, stopServer, setCoreStatus,
      deactivateTunnel, deactivateTunnelService, Go.zoom, clearService, closeBox,
      closeCommandServer, Go.bind_run, Go.get, Go.modify, Go.call, Go.callVoid, Go.pure_run,
      hstate, hi, hstop, hbox, hserver, hclear, hsrv, htun, Core.closeInstance]

end HiddifyCore.V2
