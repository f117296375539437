import HiddifyCore.V2.StopExits
import HiddifyCore.V2.Operations

/-!
# What a nil error means

`Start` and `Restart` have unnamed results, so the deferred `DeferPanicToError` cannot set the
error: after a recovered panic they return `nil, nil`, while `StopAndAlert` has stopped the core.
Every other nil error comes from `StartService` and means that the core is running.
-/

namespace HiddifyCore.V2

open GoLib Config

namespace StartCalls

/-- A panic leaves the common end of `Start` and `Restart`, entered from `s`. -/
def EnterPanics (x : StartCalls) (req : StartRequest) (s : Core) : Prop :=
  x.setMemoryLimit.IsPanic ∨ x.service.Panics req (s.setState .starting)

/-- A call inside `Start` panics, and no callee recovers it. -/
def StartPanics (x : StartCalls) (req : StartRequest) (s : Core) : Prop :=
  if s.coreState = .stopped then x.EnterPanics req s
  else x.stop.Panics s ∨ x.EnterPanics req (V2.stop x.stop s).2

/-- A call inside `Restart` panics, and no callee recovers it. -/
def RestartPanics (x : StartCalls) (req : StartRequest) (s : Core) : Prop :=
  s.Stoppable ∧ (x.stop.Panics s ∨
    ¬ x.stop.toAlertCalls.CloseFails s ∧ x.EnterPanics req (V2.stop x.stop s).2)

end StartCalls

lemma enterStarting_triple (req : StartRequest) (x : StartCalls) (s : Core) :
    Go.Triple (· = s) (enterStarting req x)
      (fun reply t => ¬ x.EnterPanics req s ∧ NoFalseSuccess reply t)
      fun _ => x.EnterPanics req s := by
  refine Go.Triple.bind (M := fun _ t => t = s.setState .starting) ?_ fun _ => ?_
  · rintro t rfl
    simp [setCoreStatus, Go.bind_run, Go.modify, Go.pure_run]
  refine Go.Triple.bind
    (M := fun _ t => ¬ x.setMemoryLimit.IsPanic ∧ t = s.setState .starting)
    (Go.Triple.callVoid (fun h t ht => ⟨h, ht⟩) fun h _ _ => Or.inl h) fun _ => ?_
  apply Go.Triple.assume
  intro hlimit
  refine (startService_triple req x.service _).conseq (fun _ => id) (fun reply t ht => ?_)
    fun _ => Or.inr
  obtain ⟨hpanic, -, hok, -⟩ := ht
  exact ⟨not_or.mpr ⟨hlimit, hpanic⟩, hok⟩

/-- The zero results of a recovered panic are a false success. -/
lemma not_noFalseSuccess_zero (t : Core) : ¬ NoFalseSuccess {} t := by
  intro h
  obtain ⟨-, -, hresp⟩ := h rfl
  cases hresp

/-- When the body panics exactly under `p`, a nil error can be trusted exactly outside `p`. -/
lemma deferPanicToError_success {name : String} {x : AlertCalls} {body : Go Core Reply} {s : Core}
    {p : Prop} (hbody : Go.Triple (· = s) body (fun reply t => ¬ p ∧ NoFalseSuccess reply t)
      fun _ => p) :
    Go.Triple (· = s) (deferPanicToError name x body)
      (fun reply t => NoFalseSuccess reply t ↔ ¬ p) fun _ => True := by
  have hbody' := hbody.conseq (fun _ => id)
    (Q := fun reply t => NoFalseSuccess reply t ↔ ¬ p) (fun reply t ht => iff_of_true ht.2 ht.1)
    fun _ => id
  refine Go.Triple.deferRecover hbody' fun e => ?_
  intro t hp
  refine ((stopAndAlert_triple _ _ x t).conseq (fun _ => id) (fun _ u _ => ?_)
    fun _ _ => trivial) t rfl
  exact iff_of_false (not_noFalseSuccess_zero u) (not_not.mpr hp)

/-- The state in which `Stop` returns is the one its run gives. -/
lemma stop_run_triple (x : StopCalls) (s : Core) :
    Go.Triple (· = s) (stop x)
      (fun reply t => t = (stop x s).2 ∧ ¬ x.Panics s ∧
        (s.Stoppable → (reply.err ≠ none ↔ x.toAlertCalls.CloseFails s)))
      (fun _ => x.Panics s) := by
  rintro t rfl
  have h := stop_triple x t t rfl
  rcases hrun : stop x t with ⟨reply | e, u⟩
  · rw [hrun] at h
    exact ⟨rfl, h.1, fun hstop => (h.2.2 hstop).1⟩
  · rw [hrun] at h
    exact h

lemma start_success (req : StartRequest) (x : StartCalls) (s : Core) :
    Go.Triple (· = s) (start req x)
      (fun reply t => NoFalseSuccess reply t ↔ ¬ x.StartPanics req s) fun _ => True := by
  apply deferPanicToError_success
  simp only [StartCalls.StartPanics]
  split_ifs with hstate
  · refine Go.Triple.bind (M := fun _ t => t = s) ?_ fun _ => enterStarting_triple req x s
    rintro t rfl
    simp [ensureStopped, Go.bind_run, Go.get, Go.pure_run, hstate]
  · refine Go.Triple.bind
      (M := fun _ t => ¬ x.stop.Panics s ∧ t = (stop x.stop s).2) ?_ fun _ => ?_
    · apply Go.Triple.get_bind
      rintro _ rfl a rfl
      rw [if_pos hstate]
      exact Go.Triple.bind ((stop_run_triple x.stop a).onPanic fun _ => Or.inl)
        (fun _ => Go.Triple.pure fun u hu => ⟨hu.2.1, hu.1⟩) a rfl
    apply Go.Triple.assume
    intro hstop
    refine (enterStarting_triple req x _).conseq (fun _ => id) (fun reply t ht => ?_)
      fun _ => Or.inr
    exact ⟨not_or.mpr ⟨hstop, ht.1⟩, ht.2⟩

lemma restart_success (req : StartRequest) (x : StartCalls) (s : Core) :
    Go.Triple (· = s) (restart req x)
      (fun reply t => NoFalseSuccess reply t ↔ ¬ x.RestartPanics req s) fun _ => True := by
  apply deferPanicToError_success
  apply Go.Triple.get_bind
  rintro _ rfl a rfl
  split_ifs with hstate
  · exact ⟨fun h => hstate h.1.1, fun hnil => by simp [notStarted] at hnil⟩
  cases hbox : a.box with
  | none =>
    refine ⟨fun h => ?_, fun hnil => by simp [notFound] at hnil⟩
    simpa [hbox] using h.1.2
  | some i =>
    have hstop : a.Stoppable := ⟨not_not.mp hstate, by simp [hbox]⟩
    refine Go.Triple.bind ((stop_run_triple x.stop a).onPanic
      fun _ h => ⟨hstop, Or.inl h⟩) (fun reply => ?_) a rfl
    split_ifs with herr
    · rintro u ⟨-, hpanic, hclose⟩
      have herr' : reply.err ≠ none := Option.ne_none_iff_isSome.mpr herr
      refine ⟨?_, fun hnil => absurd hnil herr'⟩
      rintro ⟨-, h | ⟨h, -⟩⟩
      · exact hpanic h
      · exact h ((hclose hstop).mp herr')
    · rintro u ⟨rfl, hpanic, hclose⟩
      have hclose' : ¬ x.stop.toAlertCalls.CloseFails a := fun h =>
        herr (Option.ne_none_iff_isSome.mp ((hclose hstop).mpr h))
      refine ((enterStarting_triple req x _).conseq (fun _ => id) (fun reply v hv => ?_)
        fun v hv => ⟨hstop, Or.inr ⟨hclose', hv⟩⟩) _ rfl
      refine ⟨?_, hv.2⟩
      rintro ⟨-, h | ⟨-, h⟩⟩
      · exact hpanic h
      · exact hv.1 h

/-- A nil error of `Start` or `Restart` comes with a running core and a response exactly when no
panic had to be recovered. -/
theorem success_iff_not_panics (s : Core) (req : StartRequest) (x : StartCalls) (reply : Reply)
    (t : Core) :
    (start req x s = (.ret reply, t) → (NoFalseSuccess reply t ↔ ¬ x.StartPanics req s)) ∧
    (restart req x s = (.ret reply, t) → (NoFalseSuccess reply t ↔ ¬ x.RestartPanics req s)) :=
  ⟨fun h => (start_success req x s).ret rfl h, fun h => (restart_success req x s).ret rfl h⟩

theorem success_iff_not_panics_raw :
    NoFalseSuccess (.mk (some (.mk .started .empty "")) none)
      (start rawRequest {} {}).2 := by
  apply ((success_iff_not_panics {} rawRequest {} _ _).1 rfl).mpr
  simp [rawRequest, StartCalls.StartPanics, StartCalls.EnterPanics, StartServiceCalls.Panics,
    StartServiceCalls.content, StartServiceCalls.built, StartServiceCalls.server]

/-- `Start` before any `ChangeConfigOptions`: the dereference of the nil `configOptions` panics, and
the caller sees `nil, nil`. -/
theorem not_noFalseSuccess :
    ¬ ∀ s₀ s : Core, s₀.IsInitial → Run Step (fun _ _ => True) s₀ s →
      ∀ (req : StartRequest) (x : StartCalls) (reply : Reply) (t : Core),
        (start req x s = (.ret reply, t) → NoFalseSuccess reply t) ∧
        (restart req x s = (.ret reply, t) → NoFalseSuccess reply t) := by
  intro h
  have hstart := (h {} {} ⟨rfl, rfl, rfl, rfl, rfl⟩ .refl { configContent := "{}" } {} {} _).1 rfl
  exact not_noFalseSuccess_zero _ hstart

end HiddifyCore.V2
