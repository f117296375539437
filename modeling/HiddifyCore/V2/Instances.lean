import HiddifyCore.V2.Exits
import HiddifyCore.V2.Frames

/-!
# Live instances

How many started and unclosed box instances there are, over a whole run of the operations. `Stop`,
`StopAndAlert` and `ServiceReload` close the instance that `Box` points to, and `Start` and
`Restart` stop the core before they start another one. `StartService` assigns `Box` without
looking at it, so a call made while a core is running loses the old instance.
-/

namespace HiddifyCore.V2

open GoLib Config

/-- At most one instance is live, and if there is one then `Box` points to it. -/
def SingleInstance (s : Core) : Prop :=
  (∀ i j, s.Live i → s.Live j → i = j) ∧ ∀ i, s.Live i → s.box = some i

def SingleLive (s : Core) : Prop := ∀ i, s.Live i → s.box = some i

def NoLive (s : Core) : Prop := ∀ i, ¬ s.Live i

/-- The invariant between the operations. A live instance also shows in the status, which is
what makes `Start` and `Restart` stop it. -/
def Tidy (s : Core) : Prop := ∀ i, s.Live i → s.box = some i ∧ s.coreState = .started

lemma SingleLive.singleInstance {s : Core} (h : SingleLive s) : SingleInstance s := by
  refine ⟨fun i j hi hj => ?_, h⟩
  have hij : some i = some j := (h i hi).symm.trans (h j hj)
  exact Option.some.inj hij

lemma NoLive.singleLive {s : Core} (h : NoLive s) : SingleLive s := fun i hi => absurd hi (h i)

lemma NoLive.tidy {s : Core} (h : NoLive s) : Tidy s := fun i hi => absurd hi (h i)

lemma Tidy.singleLive {s : Core} (h : Tidy s) : SingleLive s := fun i hi => (h i hi).1

lemma Core.IsInitial.noLive {s : Core} (h : s.IsInitial) : NoLive s := by
  rintro i ⟨b, hb, -⟩
  simp [h.instances] at hb

lemma SingleLive.of_shrinks (s t : Core) (h : SingleLive s) (hst : Shrinks s t) :
    SingleLive t := by
  intro i hi
  obtain ⟨hs, hbox⟩ := hst i hi
  exact hbox (h i hs)

lemma NoLive.of_shrinks (s t : Core) (h : NoLive s) (hst : Shrinks s t) : NoLive t :=
  fun i hi => h i (hst i hi).1

lemma SingleLive.noLive_of_box_none {s : Core} (h : SingleLive s) (hbox : s.box = none) :
    NoLive s := by
  intro i hi
  have := h i hi
  rw [hbox] at this
  cases this

lemma SingleLive.noLive_closeInstance {s : Core} {i : Nat} (h : SingleLive s)
    (hbox : s.box = some i) : NoLive (s.closeInstance i) := by
  intro k hk
  obtain ⟨hs, hki⟩ := Core.live_closeInstance.mp hk
  have := h k hs
  rw [hbox] at this
  exact hki (Option.some.inj this).symm

/-! ### Stopping -/

/-- The pieces that leave the instances and `Box` alone keep every invariant about them. -/
lemma SameBox.triple {α : Type} {I : Core → Prop} {m : Go Core α} (hm : Go.Within SameBox m)
    (hI : ∀ s t, I s → Shrinks s t → I t) : Go.Triple I m (fun _ => I) I :=
  Go.Triple.of_within hm fun s t hs hst => hI s t hs hst.shrinks

/-- A piece that only touches other variables keeps a core without live instances. -/
lemma noLive_triple {α : Type} {m : Go Core α} (hm : Go.Within SameBox m) :
    Go.Triple NoLive m (fun _ => NoLive) SingleLive :=
  (SameBox.triple hm NoLive.of_shrinks).onPanic fun _ => NoLive.singleLive

lemma dropBox_live (o : Outcome PUnit) :
    Go.Triple SingleLive (dropBox o) (fun _ => NoLive) SingleLive := by
  apply Go.Triple.get_bind
  rintro _ hs a rfl
  cases hbox : a.box with
  | none => exact hs.noLive_of_box_none hbox
  | some i =>
    have hclosed : NoLive (a.closeInstance i) := hs.noLive_closeInstance hbox
    cases o with
    | panic e => exact hclosed.singleLive
    | ok _ => exact hclosed
    | fail e => exact hclosed

lemma stopAndAlert_live (msgType : MessageType) (message : String) (x : AlertCalls) :
    Go.Triple SingleLive (stopAndAlert msgType message x) (fun _ => NoLive) SingleLive := by
  refine .bind (SameBox.triple (sameBoxFrame.setCoreStatus_within _ _ _) SingleLive.of_shrinks) ?_
  intro _
  refine .bind (SameBox.triple (sameBoxFrame.deactivateTunnel_within _) SingleLive.of_shrinks) ?_
  intro _
  refine .bind (SameBox.triple (sameBoxFrame.clearService_within _) SingleLive.of_shrinks) ?_
  intro _
  refine .bind (dropBox_live x.boxClose) ?_
  intro _
  apply Go.Triple.bind (M := fun _ => NoLive) (Go.Triple.get fun _ => id)
  intro s
  cases s.oldCommandServer with
  | none => exact Go.Triple.pure fun _ => id
  | some j =>
    exact .bind (noLive_triple (closeCommandServer_within j _)) fun _ => Go.Triple.pure fun _ => id

lemma stopServer_live (x : AlertCalls) :
    Go.Triple NoLive (stopServer x) (fun _ => NoLive) SingleLive := by
  refine Go.Triple.bind (M := fun _ => NoLive) (Go.Triple.modify fun s hs => hs) ?_
  intro _
  refine .bind (noLive_triple (.get SameBox.refl)) ?_
  intro s
  cases s.oldCommandServer with
  | none =>
    exact .bind (noLive_triple (sameBoxFrame.setCoreStatus_within _ _ _))
      fun _ => Go.Triple.pure fun _ => id
  | some j =>
    refine .bind (noLive_triple (closeCommandServer_within j _)) ?_
    intro r
    cases r with
    | error e => exact .bind (noLive_triple (.get SameBox.refl)) fun _ => Go.Triple.pure fun _ => id
    | ok _ =>
      refine Go.Triple.bind (M := fun _ => NoLive) (Go.Triple.modify fun s hs => hs) ?_
      intro _
      exact .bind (noLive_triple (sameBoxFrame.setCoreStatus_within _ _ _))
        fun _ => Go.Triple.pure fun _ => id

/-- `Stop` closes the instance even on the exits that keep `Box`. -/
lemma stopBox_live (i : Nat) (x : AlertCalls) :
    Go.Triple (fun s => SingleLive s ∧ s.box = some i) (stopBox i x) (fun _ => NoLive)
      SingleLive := by
  have hpieces : ∀ {α : Type} {m : Go Core α}, Go.Within SameBox m →
      Go.Triple (fun s => SingleLive s ∧ s.box = some i) m
        (fun _ s => SingleLive s ∧ s.box = some i) SingleLive := by
    intro α m hm
    have h := Go.Triple.of_within (I := fun s => SingleLive s ∧ s.box = some i) hm
      fun s t hs hst => ⟨SingleLive.of_shrinks s t hs.1 hst.shrinks, hst.2.trans hs.2⟩
    exact h.onPanic fun _ => And.left
  refine .bind (hpieces (sameBoxFrame.setCoreStatus_within _ _ _)) ?_
  intro _
  refine .bind (hpieces (sameBoxFrame.deactivateTunnel_within _)) ?_
  intro _
  refine .bind (hpieces (sameBoxFrame.clearService_within _)) ?_
  intro _
  refine Go.Triple.bind (M := fun _ => NoLive) ?_ fun r => ?_
  · refine Go.Triple.bind (M := fun _ => NoLive)
      (Go.Triple.modify fun s hs => hs.1.noLive_closeInstance hs.2) fun _ => ?_
    exact Go.Triple.call (fun _ _ _ => id) (fun _ _ _ => id) fun _ _ => NoLive.singleLive
  cases r with
  | error e => exact .bind (noLive_triple (.get SameBox.refl)) fun _ => Go.Triple.pure fun _ => id
  | ok _ => exact stopServer_live x

lemma deferPanicToError_live {name : String} {x : AlertCalls} {body : Go Core Reply}
    {P Q : Core → Prop} (hbody : Go.Triple P body (fun _ => Q) SingleLive)
    (hQ : ∀ s, NoLive s → Q s) :
    Go.Triple P (deferPanicToError name x body) (fun _ => Q) SingleLive :=
  Go.Triple.deferRecover hbody fun _ =>
    (stopAndAlert_live _ _ x).post fun _ => hQ

lemma stop_live (x : StopCalls) : Go.Triple Tidy (stop x) (fun _ => NoLive) SingleLive := by
  refine deferPanicToError_live ?_ fun _ => id
  apply Go.Triple.get_bind
  rintro _ hs s rfl
  split_ifs with hstate
  · exact fun i hi => hstate (hs i hi).2
  cases hbox : s.box with
  | none => exact hs.singleLive.noLive_of_box_none hbox
  | some i => exact stopBox_live i x.toAlertCalls s ⟨hs.singleLive, hbox⟩

/-! ### Starting -/

section Starting

/- Under `p` there is no live instance before the call. -/
variable {p : Prop}

/-- Before the new instance is started. -/
def Calm (p : Prop) (s : Core) : Prop := SingleLive s ∧ (p → NoLive s)

lemma Calm.of_shrinks (s t : Core) (h : Calm p s) (hst : Shrinks s t) : Calm p t :=
  ⟨SingleLive.of_shrinks s t h.1 hst, fun hp => NoLive.of_shrinks s t (h.2 hp) hst⟩

/-- What `StartService` leaves when it returns. -/
def Started (p : Prop) (reply : Reply) (t : Core) : Prop :=
  (reply.err ≠ none → NoLive t) ∧ (p → Tidy t)

lemma failStart_live (msgType : MessageType) (err : String) (x : AlertCalls) :
    Go.Triple (Calm p) (failStart msgType err x) (Started p) (fun t => p → SingleLive t) := by
  refine .bind ((SameBox.triple (sameBoxFrame.setCoreStatus_within _ _ _) Calm.of_shrinks).onPanic
    fun _ h _ => h.1) fun _ => ?_
  refine .bind ((stopAndAlert_live _ err x).conseq (fun _ => And.left) (fun _ _ => id)
    fun _ h _ => h) fun _ => ?_
  exact Go.Triple.pure fun t ht => ⟨fun _ => ht, fun _ => ht.tidy⟩

lemma attempt_live {α : Type} {step : Go Core (Except String α)} {msgType : MessageType}
    {x : AlertCalls} {next : α → Go Core Reply} {P : Core → Prop} {M : α → Core → Prop}
    (hstep : Go.Triple P step (Go.results M fun _ => Calm p) (Calm p))
    (hnext : ∀ a, Go.Triple (M a) (next a) (Started p) fun t => p → SingleLive t) :
    Go.Triple P (attempt step msgType x next) (Started p) (fun t => p → SingleLive t) := by
  refine .bind (hstep.onPanic fun _ h _ => h.1) ?_
  intro r
  cases r with
  | error e => exact failStart_live msgType e x
  | ok a => exact hnext a

/-- A step that only shrinks the set of live instances. -/
lemma calm_step {α : Type} {step : Go Core (Except String α)} (h : Go.Within Shrinks step) :
    Go.Triple (Calm p) step (Go.results (fun _ => Calm p) fun _ => Calm p) (Calm p) := by
  refine (Go.Triple.of_within h Calm.of_shrinks).post fun r t ht => ?_
  cases r <;> exact ht

lemma SameBox.within {α : Type} {m : Go Core α} (h : Go.Within SameBox m) :
    Go.Within Shrinks m := fun s => (h s).shrinks

lemma newService_within (options : Singbox.Options) (o : Outcome PUnit) :
    Go.Within Shrinks (newService options o) := by
  refine .bind Shrinks.trans (.call Shrinks.refl o) ?_
  intro r
  cases r with
  | error e => exact .pure Shrinks.refl _
  | ok a =>
    apply Go.Within.get_bind
    intro s
    exact Shrinks.addInstance s options

/-- The started instance is the only live one when there was none before. -/
lemma startBox_live (i : Nat) (o : Outcome PUnit) :
    Go.Triple (Calm p) (startBox i o)
      (Go.results (fun _ t => p → ∀ k, t.Live k → k = i) fun _ => Calm p) (Calm p) := by
  refine Go.Triple.bind (M := fun _ => Calm p)
    (Go.Triple.call (fun _ _ _ => id) (fun _ _ _ => id) fun _ _ => id) fun r => ?_
  cases r with
  | error e => exact Go.Triple.pure fun _ => id
  | ok _ =>
    refine Go.Triple.bind (M := fun _ t => p → ∀ k, t.Live k → k = i) (Go.Triple.modify ?_)
      fun _ => Go.Triple.pure fun _ => id
    intro s hs hp k hk
    rcases Core.live_startInstance hk with h | h
    · exact absurd h (hs.2 hp k)
    · exact h

lemma publish_live (req : StartRequest) (i : Nat) (o : Exit PUnit) :
    Go.Triple (fun t => p → ∀ k, t.Live k → k = i) (publish req i o) (Started p)
      (fun t => p → SingleLive t) := by
  refine Go.Triple.bind (M := fun _ t => p → SingleLive t) (Go.Triple.modify ?_) fun _ => ?_
  · intro s hs hp k hk
    have hki : k = i := hs hp k hk
    simp [hki]
  refine .bind (SameBox.triple (sameBoxFrame.serveBox_within req i o) fun s t hs hst hp =>
    SingleLive.of_shrinks s t (hs hp) hst) fun _ => ?_
  refine Go.Triple.bind (M := fun _ t => (p → SingleLive t) ∧ t.coreState = .started) ?_
    fun _ => Go.Triple.pure fun t ht => ⟨fun h => absurd rfl h, fun hp k hk => ⟨ht.1 hp k hk, ht.2⟩⟩
  exact fun s hs => ⟨hs, rfl⟩

lemma startService_live (req : StartRequest) (x : StartServiceCalls) :
    Go.Triple (Calm p) (startService req x) (Started p) (fun t => p → SingleLive t) := by
  apply attempt_live (calm_step (SameBox.within (sameBoxFrame.readContent_within req x)))
  intro content
  apply attempt_live (calm_step (.call Shrinks.refl _))
  intro parsed
  apply attempt_live (calm_step (SameBox.within (sameBoxFrame.buildContent_within req parsed x)))
  intro built
  refine .bind ((SameBox.triple (sameBoxFrame.saveCurrentConfig_within x) Calm.of_shrinks).onPanic
    fun _ h _ => h.1) fun _ => ?_
  apply attempt_live (calm_step (SameBox.within (sameBox_commandServerStep req x)))
  intro _
  apply attempt_live (calm_step (newService_within built x.newService))
  intro i
  apply attempt_live (startBox_live i x.boxStart)
  intro _
  exact publish_live req i x.setService

end Starting

/-- From a state without a live instance `StartService` leaves the invariant, also by a panic. -/
lemma startService_tidy (req : StartRequest) (x : StartServiceCalls) :
    Go.Triple NoLive (startService req x) (fun _ => Tidy) SingleLive :=
  (startService_live (p := True) req x).conseq (fun _ h => ⟨h.singleLive, fun _ => h⟩)
    (fun _ _ h => h.2 trivial) fun _ h => h trivial

lemma enterStarting_tidy (req : StartRequest) (x : StartCalls) :
    Go.Triple NoLive (enterStarting req x) (fun _ => Tidy) SingleLive := by
  refine Go.Triple.bind (M := fun _ => NoLive) (fun s hs => hs) ?_
  intro _
  refine Go.Triple.bind (M := fun _ => NoLive)
    (Go.Triple.callVoid (fun _ _ => id) fun _ _ => NoLive.singleLive) fun _ => ?_
  exact startService_tidy req x.service

lemma start_tidy (req : StartRequest) (x : StartCalls) :
    Go.Triple Tidy (start req x) (fun _ => Tidy) SingleLive := by
  refine deferPanicToError_live ?_ fun _ => NoLive.tidy
  refine Go.Triple.bind (M := fun _ => NoLive) ?_ fun _ => enterStarting_tidy req x
  apply Go.Triple.get_bind
  rintro _ hs s rfl
  split_ifs with hstate
  · exact Go.Triple.bind (stop_live x.stop) (fun _ => Go.Triple.pure fun _ => id) s hs
  · intro i hi
    -- a live instance would show in the status
    have hstopped : s.coreState = .stopped := not_not.mp hstate
    have hstarted := (hs i hi).2
    rw [hstopped] at hstarted
    cases hstarted

lemma restart_tidy (req : StartRequest) (x : StartCalls) :
    Go.Triple Tidy (restart req x) (fun _ => Tidy) SingleLive := by
  refine deferPanicToError_live ?_ fun _ => NoLive.tidy
  apply Go.Triple.get_bind
  rintro _ hs s rfl
  split_ifs with hstate
  · exact hs
  cases s.box with
  | none => exact hs
  | some i =>
    refine Go.Triple.bind (stop_live x.stop) (fun reply => ?_) s hs
    split_ifs
    · exact Go.Triple.pure fun _ => NoLive.tidy
    · exact enterStarting_tidy req x

lemma serviceReload_tidy (x : ReloadCalls) :
    Go.Triple SingleLive (serviceReload x) (fun _ => Tidy) SingleLive := by
  refine .bind (SameBox.triple (sameBoxFrame.setCoreStatus_within _ _ _) SingleLive.of_shrinks) ?_
  intro _
  refine .bind (SameBox.triple (sameBoxFrame.clearService_within _) SingleLive.of_shrinks) ?_
  intro _
  refine Go.Triple.bind (M := fun _ => SingleLive) (Go.Triple.modify fun s hs => hs) ?_
  intro _
  refine .bind (dropBox_live x.boxClose) ?_
  intro _
  exact .bind (startService_tidy reloadRequest x.service) fun _ => Go.Triple.pure fun _ => id

/-! ### Runs -/

/-- The call loses a running instance: it is a `StartService` that replaces a live `Box`. -/
def Op.Leaks (s : Core) : Op → Prop
  | .startService req x => (∃ i, s.box = some i ∧ s.Live i) ∧ x.Succeeds req s
  | _ => False

/-- A `StartService` in which some step fails closes the instance that was running. -/
lemma startService_fails (req : StartRequest) (x : StartServiceCalls) {s : Core} (hs : SingleLive s)
    (hfails : ¬ x.Succeeds req s) :
    Go.Triple (· = s) (startService req x) (fun _ => NoLive) fun _ => True := by
  have h := (startService_live (p := False) req x).and (startService_triple req x s)
  refine h.conseq ?_ (fun reply t ht => ?_) fun _ _ => trivial
  · rintro t rfl
    exact ⟨⟨hs, False.elim⟩, rfl⟩
  · obtain ⟨⟨hlive, -⟩, -, hsucc, -, -⟩ := ht
    exact hlive fun hnil => hfails (hsucc hnil)

/-- One operation keeps the invariant unless it loses an instance. -/
lemma Op.exec_tidy {s : Core} (op : Op) (hs : Tidy s) (hop : ¬ op.Leaks s) :
    Go.Triple (· = s) op.exec (fun _ => Tidy) fun _ => True := by
  have hpre : ∀ t, t = s → Tidy t := by
    rintro t rfl
    exact hs
  cases op with
  | start req x =>
    exact Triple.discard ((start_tidy req x).conseq hpre (fun _ _ => id) fun _ _ => trivial)
  | restart req x =>
    exact Triple.discard ((restart_tidy req x).conseq hpre (fun _ _ => id) fun _ _ => trivial)
  | serviceReload x =>
    exact Triple.discard ((serviceReload_tidy x).conseq (fun t ht => (hpre t ht).singleLive)
      (fun _ _ => id) fun _ _ => trivial)
  | stop x =>
    exact Triple.discard ((stop_live x).conseq hpre (fun _ _ => NoLive.tidy) fun _ _ => trivial)
  | stopAndAlert msgType message x =>
    exact (stopAndAlert_live msgType message x).conseq (fun t ht => (hpre t ht).singleLive)
      (fun _ _ => NoLive.tidy) fun _ _ => trivial
  | startService req x =>
    by_cases hlive : ∃ i, s.box = some i ∧ s.Live i
    · have hfails : ¬ x.Succeeds req s := fun h => hop ⟨hlive, h⟩
      exact Triple.discard ((startService_fails req x hs.singleLive hfails).post
        fun _ _ => NoLive.tidy)
    · have hnone : NoLive s := fun i hi => hlive ⟨i, (hs i hi).1, hi⟩
      refine Triple.discard ((startService_tidy req x).conseq ?_ (fun _ _ => id)
        fun _ _ => trivial)
      rintro t rfl
      exact hnone

lemma Step.tidy {s t : Core} {op : Op} (h : Step s op t) (hs : Tidy s) (hop : ¬ op.Leaks s) :
    Tidy t := (op.exec_tidy hs hop).ret rfl h

/-- In a run that never replaces a live `Box`, at most one instance is live after each operation,
and `Box` points to it. -/
theorem run_singleInstance {s t : Core} (hs : s.IsInitial)
    (hrun : Run Step (fun s op => ¬ op.Leaks s) s t) : SingleInstance t := by
  have htidy : Tidy t :=
    hrun.invariant hs.noLive.tidy fun _ _ _ hI hC hstep => hstep.tidy hI hC
  exact htidy.singleLive.singleInstance

/-- `StartService` behind a `Stop` replaces nothing that runs. -/
theorem run_singleInstance_raw :
    SingleInstance (startService rawRequest {} (stop {} (start rawRequest {} {}).2).2).2 := by
  have hstopped :
      ¬ (Op.startService rawRequest {}).Leaks (stop {} (start rawRequest {} {}).2).2 := by
    rintro ⟨⟨i, hbox, -⟩, -⟩
    cases hbox
  exact run_singleInstance (s := {}) ⟨rfl, rfl, rfl, rfl, rfl⟩
    (.tail (.tail (.single (.start rawRequest {}) id rfl) (.stop {}) id rfl)
      (.startService rawRequest {}) hstopped rfl)

/-- Two `StartService` calls leave two running instances. -/
theorem not_run_singleInstance :
    ¬ ∀ s t : Core, s.IsInitial → Run Step (fun _ _ => True) s t → SingleInstance t := by
  intro h
  let op : Op := .startService rawRequest {}
  let s₁ : Core := (op.exec {}).2
  have hrun : Run Step (fun _ _ => True) {} (op.exec s₁).2 :=
    .tail (.single op trivial rfl) op trivial rfl
  obtain ⟨hone, -⟩ := h {} _ ⟨rfl, rfl, rfl, rfl, rfl⟩ hrun
  have h0 : (op.exec s₁).2.Live 0 := ⟨_, rfl, rfl, rfl⟩
  have h1 : (op.exec s₁).2.Live 1 := ⟨_, rfl, rfl, rfl⟩
  exact absurd (hone 0 1 h0 h1) (by decide)

end HiddifyCore.V2
