import HiddifyCore.V2.StopExits
import HiddifyCore.V2.Operations

/-!
# Status and handle

`CoreState` says whether a core is running and `Box` is the handle of it. They are updated at
different points, and agree again whenever an operation ends by `StopAndAlert` or by starting a
core. `Stop` leaves them apart on the two exits where a `Close` fails: the status stays STOPPING,
a state that no later `Stop` or `Restart` leaves.
-/

namespace HiddifyCore.V2

open GoLib Config

/-- The core is stopped or started, and it is started exactly when there is a box. -/
def StatusAgrees (s : Core) : Prop :=
  (s.coreState = .stopped ∨ s.coreState = .started) ∧ (s.coreState = .started ↔ s.box ≠ none)

lemma StatusAgrees.of_stopped {s : Core} (h : s.coreState = .stopped ∧ s.box = none) :
    StatusAgrees s := by
  obtain ⟨hstate, hbox⟩ := h
  refine ⟨Or.inl hstate, ?_⟩
  simp [hstate, hbox]

lemma StatusAgrees.of_started {s : Core} {i : Nat} (hstate : s.coreState = .started)
    (hbox : s.box = some i) : StatusAgrees s := by
  refine ⟨Or.inr hstate, ?_⟩
  simp [hstate, hbox]

lemma Core.IsInitial.statusAgrees {s : Core} (h : s.IsInitial) : StatusAgrees s :=
  .of_stopped ⟨h.coreState, h.box⟩

/-! ### What each operation leaves -/

lemma stopAndAlert_agrees (msgType : MessageType) (message : String) (x : AlertCalls) :
    Go.Triple (fun _ => True) (stopAndAlert msgType message x) (fun _ => StatusAgrees)
      fun _ => True := by
  intro s _
  exact ((stopAndAlert_triple msgType message x s).conseq (fun _ => id)
    (fun _ _ ht => .of_stopped ht.2) fun _ _ => trivial) s rfl

/-- A recovered panic leaves a stopped core. -/
lemma deferPanicToError_agrees {name : String} {x : AlertCalls} {body : Go Core Reply}
    {P : Core → Prop} (hbody : Go.Triple P body (fun _ => StatusAgrees) fun _ => True) :
    Go.Triple P (deferPanicToError name x body) (fun _ => StatusAgrees) fun _ => True :=
  Go.Triple.deferRecover hbody fun _ => stopAndAlert_agrees _ _ x

lemma startService_agrees (req : StartRequest) (x : StartServiceCalls) :
    Go.Triple (fun _ => True) (startService req x) (fun _ => StatusAgrees) fun _ => True := by
  intro s _
  refine ((startService_triple req x s).conseq (fun _ => id) (fun reply t ht => ?_)
    fun _ _ => trivial) s rfl
  obtain ⟨-, -, hok, herr⟩ := ht
  by_cases hnil : reply.err = none
  · obtain ⟨hstate, ⟨i, hbox, -⟩, -⟩ := hok hnil
    exact .of_started hstate hbox
  · exact .of_stopped (herr hnil)

/-- A computation of which only the end matters. -/
lemma triple_true {α : Type} (m : Go Core α) :
    Go.Triple (fun _ => True) m (fun _ _ => True) fun _ => True := by
  intro s _
  rcases m s with ⟨a | e, t⟩ <;> trivial

lemma enterStarting_agrees (req : StartRequest) (x : StartCalls) :
    Go.Triple (fun _ => True) (enterStarting req x) (fun _ => StatusAgrees) fun _ => True :=
  .bind (triple_true _) fun _ => .bind (triple_true _) fun _ => startService_agrees req x.service

/-- `Start` repairs the status whatever it finds. -/
lemma start_agrees (req : StartRequest) (x : StartCalls) :
    Go.Triple (fun _ => True) (start req x) (fun _ => StatusAgrees) fun _ => True :=
  deferPanicToError_agrees (.bind (triple_true _) fun _ => enterStarting_agrees req x)

lemma serviceReload_agrees (x : ReloadCalls) :
    Go.Triple (fun _ => True) (serviceReload x) (fun _ => StatusAgrees) fun _ => True := by
  refine .bind (triple_true _) fun _ => .bind (triple_true _) ?_
  intro _
  refine .bind (triple_true _) fun _ => .bind (triple_true _) ?_
  intro _
  exact .bind (startService_agrees reloadRequest x.service) fun _ => Go.Triple.pure fun _ => id

lemma stop_agrees (x : StopCalls) {s : Core} (hs : StatusAgrees s)
    (hclose : ¬ (s.Stoppable ∧ x.toAlertCalls.CloseFails s)) :
    Go.Triple (· = s) (stop x) (fun _ => StatusAgrees) fun _ => True := by
  refine (stop_triple x s).conseq (fun _ => id) (fun reply t ht => ?_) fun _ _ => trivial
  obtain ⟨-, hrefused, hstopped⟩ := ht
  by_cases hstop : s.Stoppable
  · exact .of_stopped ((hstopped hstop).2 fun h => hclose ⟨hstop, h⟩)
  · rw [(hrefused hstop).2]
    exact hs

lemma restart_agrees (req : StartRequest) (x : StartCalls) {s : Core} (hs : StatusAgrees s)
    (hclose : ¬ (s.Stoppable ∧ x.stop.toAlertCalls.CloseFails s)) :
    Go.Triple (· = s) (restart req x) (fun _ => StatusAgrees) fun _ => True := by
  apply deferPanicToError_agrees
  apply Go.Triple.get_bind
  rintro _ rfl a rfl
  split_ifs
  · exact hs
  cases a.box with
  | none => exact hs
  | some i =>
    refine Go.Triple.bind (stop_agrees x.stop hs hclose) (fun reply => ?_) a rfl
    split_ifs
    · exact Go.Triple.pure fun _ => id
    · exact (enterStarting_agrees req x).pre fun _ _ => trivial

/-! ### Runs -/

/-- The call is a `Stop`, by itself or inside `Restart`, that returns because a `Close` failed. -/
def Op.StopFails (s : Core) : Op → Prop
  | .stop x => s.Stoppable ∧ x.toAlertCalls.CloseFails s
  | .restart _ x => s.Stoppable ∧ x.stop.toAlertCalls.CloseFails s
  | _ => False

lemma Op.exec_agrees {s : Core} (op : Op) (hs : StatusAgrees s) (hop : ¬ op.StopFails s) :
    Go.Triple (· = s) op.exec (fun _ => StatusAgrees) fun _ => True := by
  cases op with
  | start req x => exact Triple.discard ((start_agrees req x).pre fun _ _ => trivial)
  | startService req x => exact Triple.discard ((startService_agrees req x).pre fun _ _ => trivial)
  | serviceReload x => exact Triple.discard ((serviceReload_agrees x).pre fun _ _ => trivial)
  | stopAndAlert msgType message x =>
    exact (stopAndAlert_agrees msgType message x).pre fun _ _ => trivial
  | stop x => exact Triple.discard (stop_agrees x hs hop)
  | restart req x => exact Triple.discard (restart_agrees req x hs hop)

lemma Step.statusAgrees {s t : Core} {op : Op} (h : Step s op t) (hs : StatusAgrees s)
    (hop : ¬ op.StopFails s) : StatusAgrees t := (op.exec_agrees hs hop).ret rfl h

/-- In a run where no `Stop` meets a failing `Close`, status and handle agree after each
operation. -/
theorem run_statusAgrees {s t : Core} (hs : s.IsInitial)
    (hrun : Run Step (fun s op => ¬ op.StopFails s) s t) : StatusAgrees t :=
  hrun.invariant hs.statusAgrees fun _ _ _ hI hC hstep => hstep.statusAgrees hI hC

theorem run_statusAgrees_start_stop :
    StatusAgrees (stop {} (start rawRequest {} {}).2).2 := by
  apply run_statusAgrees (s := {}) ⟨rfl, rfl, rfl, rfl, rfl⟩
  refine .tail (.single (.start rawRequest {}) id rfl)
    (.stop {}) ?_ rfl
  rintro ⟨-, -, -, hbox | ⟨-, hserver, -⟩⟩
  · exact hbox
  · exact absurd hserver (by decide)

/-- `Stop` of a running core whose `Close` returns an error leaves STOPPING. -/
theorem not_run_statusAgrees :
    ¬ ∀ s t : Core, s.IsInitial → Run Step (fun _ _ => True) s t → StatusAgrees t := by
  intro h
  let started : Core := (start rawRequest {} {}).2
  let left : Core := (stop { boxClose := .fail "close" } started).2
  have hrun : Run Step (fun _ _ => True) {} left :=
    .tail (.single (.start rawRequest {}) trivial rfl)
      (.stop { boxClose := .fail "close" }) trivial rfl
  obtain ⟨hstate, -⟩ := h {} left ⟨rfl, rfl, rfl, rfl, rfl⟩ hrun
  have hstopping : left.coreState = .stopping := rfl
  rw [hstopping] at hstate
  rcases hstate with h | h <;> cases h

end HiddifyCore.V2
