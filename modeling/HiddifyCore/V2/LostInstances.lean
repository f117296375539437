import HiddifyCore.GoLib.Simulate
import HiddifyCore.V2.Instances

/-!
# Instances without a handle

A live instance that `Box` does not point to is out of the reach of the operations: they do the
same whether it runs or not, and none of them closes it (`unseen_exec`). So an operation is judged
by the other instances, for which `Box` and the status are enough, and the instances that a run
leaves without a handle are those that its calls of `StartService` have replaced
(`trace_lost_iff`).
-/

namespace HiddifyCore.V2

open GoLib Config

/-- Instance `i` is live, and `Box` does not point to it. -/
def Core.Lost (s : Core) (i : Nat) : Prop := s.Live i ∧ s.box ≠ some i

/-! ### Two states that differ in lost instances -/

@[simps]
def Core.setInstances (bs : List BoxInstance) (s : Core) : Core := { s with instances := bs }

/-- `bs` are the instances of `s`, but for those of `lost`, which are lost in `s` and not live in
`bs`. -/
structure DeadIn (lost : Nat → Prop) (bs : List BoxInstance) (s : Core) : Prop where
  length : bs.length = s.instances.length
  others : ∀ i, ¬ lost i → bs[i]? = s.instances[i]?
  dead : ∀ i, lost i → ¬ (s.setInstances bs).Live i
  kept : ∀ i, lost i → s.Lost i

def Buried (lost : Nat → Prop) (t s : Core) : Prop :=
  ∃ bs, t = s.setInstances bs ∧ DeadIn lost bs s

section Buried

variable {lost : Nat → Prop} {bs : List BoxInstance} {s : Core}

namespace DeadIn

lemma lt (h : DeadIn lost bs s) {i : Nat} (hi : lost i) : i < s.instances.length := by
  obtain ⟨⟨b, hb, -⟩, -⟩ := h.kept i hi
  exact (List.getElem?_eq_some_iff.mp hb).1

lemma not_lost_length (h : DeadIn lost bs s) : ¬ lost s.instances.length :=
  fun hi => absurd (h.lt hi) (lt_irrefl _)

lemma live_iff (h : DeadIn lost bs s) {i : Nat} :
    (s.setInstances bs).Live i ↔ s.Live i ∧ ¬ lost i := by
  by_cases hi : lost i
  · exact iff_of_false (h.dead i hi) fun h => h.2 hi
  · simp only [Core.Live, Core.setInstances_instances, h.others i hi, hi, not_false_iff, and_true]

lemma of_sameBox (h : DeadIn lost bs s) {t : Core} (hst : SameBox s t) : DeadIn lost bs t := by
  obtain ⟨hinst, hbox⟩ := hst
  refine ⟨by rw [hinst, h.length], fun i hi => by rw [hinst, h.others i hi], h.dead, ?_⟩
  intro i hi
  simpa only [Core.Lost, Core.Live, hinst, hbox] using h.kept i hi

lemma closeInstance (h : DeadIn lost bs s) {i : Nat} (hi : ¬ lost i) :
    DeadIn lost ((s.setInstances bs).closeInstance i).instances (s.closeInstance i) where
  length := by simp [h.length]
  others k hk := by simp [List.getElem?_modify, h.others k hk]
  dead k hk hlive := h.dead k hk (Core.live_closeInstance.mp hlive).1
  kept k hk := by
    have hki : k ≠ i := fun heq => hi (heq ▸ hk)
    exact ⟨Core.live_closeInstance.mpr ⟨(h.kept k hk).1, hki⟩, (h.kept k hk).2⟩

lemma startInstance (h : DeadIn lost bs s) {i : Nat} (hi : ¬ lost i) :
    DeadIn lost ((s.setInstances bs).startInstance i).instances (s.startInstance i) where
  length := by simp [h.length]
  others k hk := by simp [List.getElem?_modify, h.others k hk]
  dead k hk hlive := by
    rcases Core.live_startInstance (s := s.setInstances bs) hlive with hlive | rfl
    · exact h.dead k hk hlive
    · exact hi hk
  kept k hk := by
    have hik : i ≠ k := fun heq => hi (heq ▸ hk)
    refine ⟨?_, (h.kept k hk).2⟩
    simpa [Core.Live, List.getElem?_modify, hik] using (h.kept k hk).1

lemma addInstance (h : DeadIn lost bs s) (o : Singbox.Options) :
    DeadIn lost ((s.setInstances bs).addInstance o).instances (s.addInstance o) where
  length := by simp [h.length]
  others k hk := by simp [List.getElem?_append, h.length, h.others k hk]
  dead k hk hlive := h.dead k hk (Core.live_addInstance.mp hlive)
  kept k hk := ⟨Core.live_addInstance.mpr (h.kept k hk).1, (h.kept k hk).2⟩

lemma setBox (h : DeadIn lost bs s) {b : Option Nat} (hb : ∀ i ∈ b, ¬ lost i) :
    DeadIn lost bs (s.setBox b) :=
  ⟨h.length, h.others, h.dead, fun i hi => ⟨(h.kept i hi).1, fun heq => hb i heq hi⟩⟩

end DeadIn

end Buried

/-! ### The operations do not see lost instances -/

/-- An update that leaves the instances and `Box` alone. -/
structure Beside (f : Core → Core) : Prop where
  sameBox (s : Core) : SameBox s (f s)
  setInstances (bs : List BoxInstance) (s : Core) :
    f (s.setInstances bs) = (f s).setInstances bs

lemma beside_setState (c : CoreState) : Beside (Core.setState c) :=
  ⟨fun _ => ⟨rfl, rfl⟩, fun _ _ => rfl⟩

lemma beside_setPath (path : String) : Beside (Core.setPath path) :=
  ⟨fun _ => ⟨rfl, rfl⟩, fun _ _ => rfl⟩

lemma beside_setServer (j : Option Nat) : Beside (Core.setServer j) :=
  ⟨fun _ => ⟨rfl, rfl⟩, fun _ _ => rfl⟩

lemma beside_serveServer (j : Nat) (service : Option Nat) : Beside (Core.serveServer j service) :=
  ⟨fun _ => ⟨rfl, rfl⟩, fun _ _ => rfl⟩

lemma beside_closeServer (j : Nat) : Beside (Core.closeServer j) :=
  ⟨fun _ => ⟨rfl, rfl⟩, fun _ _ => rfl⟩

lemma beside_addServer : Beside Core.addServer := ⟨fun _ => ⟨rfl, rfl⟩, fun _ _ => rfl⟩

lemma beside_startServer (j : Nat) : Beside (Core.startServer j) :=
  ⟨fun _ => ⟨rfl, rfl⟩, fun _ _ => rfl⟩

section Unseen

variable {lost : Nat → Prop} {α β : Type}

/-- The computation does the same whether the lost instances run or not. -/
abbrev Unseen (lost : Nat → Prop) (m : Go Core α) : Prop :=
  Go.Simulates (Buried lost) (· = ·) m m

lemma unseen_pure (a : α) : Unseen lost (pure a : Go Core α) := .pure rfl

lemma unseen_modify {f : Core → Core} (hf : Beside f) :
    Unseen lost (Go.modify f : Go Core PUnit) := by
  apply Go.Simulates.modify
  rintro _ s ⟨bs, rfl, h⟩
  exact ⟨bs, hf.setInstances bs s, h.of_sameBox (hf.sameBox s)⟩

lemma unseen_get {f : Core → Go Core α}
    (h : ∀ bs s, DeadIn lost bs s →
      Go.Simulates (Buried lost) (· = ·) (f (s.setInstances bs)) (f s)) :
    Unseen lost (Go.get >>= f) := by
  apply Go.Simulates.get_bind
  rintro _ s ⟨bs, rfl, hs⟩
  exact h bs s hs

lemma unseen_setCoreStatus (state : CoreState) (msgType : MessageType) (message : String) :
    Unseen lost (setCoreStatus state msgType message) :=
  (unseen_modify (beside_setState _)).bind_eq fun _ => unseen_pure _

lemma unseen_deactivateTunnel (o : Outcome PUnit) : Unseen lost (deactivateTunnel o) := by
  rintro _ s ⟨bs, rfl, h⟩
  simp only [deactivateTunnel, Go.zoom, Core.setInstances_tunnel]
  rcases deactivateTunnelService o s.tunnel with ⟨r | e, t⟩
  · exact .ret rfl ⟨bs, rfl, h.of_sameBox ⟨rfl, rfl⟩⟩
  · exact .panic e ⟨bs, rfl, h.of_sameBox ⟨rfl, rfl⟩⟩

lemma unseen_clearService (o : Exit PUnit) : Unseen lost (clearService o) := by
  apply unseen_get
  intro bs s _
  rw [Core.setInstances_oldCommandServer]
  cases s.oldCommandServer with
  | none => exact unseen_pure _
  | some j =>
    exact (Go.Simulates.callVoid o).bind_eq fun _ =>
      unseen_modify (beside_serveServer j none)

lemma unseen_closeBox {i : Nat} (hi : ¬ lost i) (o : Outcome PUnit) :
    Unseen lost (closeBox i o) := by
  refine Go.Simulates.bind_eq (.modify ?_) fun _ => .call o
  rintro _ s ⟨bs, rfl, h⟩
  exact ⟨_, rfl, h.closeInstance hi⟩

lemma unseen_setBox {b : Option Nat} (hb : ∀ i ∈ b, ¬ lost i) :
    Unseen lost (Go.modify (Core.setBox b) : Go Core PUnit) := by
  apply Go.Simulates.modify
  rintro _ s ⟨bs, rfl, h⟩
  exact ⟨bs, rfl, h.setBox hb⟩

lemma unseen_dropBox (o : Outcome PUnit) : Unseen lost (dropBox o) := by
  apply unseen_get
  intro bs s h
  rw [Core.setInstances_box]
  cases hbox : s.box with
  | none => exact unseen_pure _
  | some i =>
    have hi : ¬ lost i := fun hi => (h.kept i hi).2 hbox
    exact (unseen_closeBox hi o).bind_eq fun _ => unseen_setBox (by simp)

lemma unseen_closeCommandServer (j : Nat) (o : Outcome PUnit) :
    Unseen lost (closeCommandServer j o) :=
  (unseen_modify (beside_closeServer j)).bind_eq fun _ => .call o

lemma unseen_stopAndAlert (msgType : MessageType) (message : String) (x : AlertCalls) :
    Unseen lost (stopAndAlert msgType message x) := by
  refine (unseen_setCoreStatus _ _ _).bind_eq fun _ => ?_
  refine (unseen_deactivateTunnel _).bind_eq fun _ => ?_
  refine (unseen_clearService _).bind_eq fun _ => (unseen_dropBox _).bind_eq fun _ => ?_
  apply unseen_get
  intro bs s _
  rw [Core.setInstances_oldCommandServer]
  cases s.oldCommandServer with
  | none => exact unseen_pure _
  | some j => exact (unseen_closeCommandServer j _).bind_eq fun _ => unseen_pure _

lemma unseen_deferPanicToError {name : String} {x : AlertCalls} {body : Go Core Reply}
    (h : Unseen lost body) : Unseen lost (deferPanicToError name x body) :=
  .deferRecover rfl h fun _ => unseen_stopAndAlert _ _ x

lemma unseen_stopServer (x : AlertCalls) : Unseen lost (stopServer x) := by
  refine (unseen_setBox (by simp)).bind_eq fun _ => ?_
  apply unseen_get
  intro bs s _
  rw [Core.setInstances_oldCommandServer]
  cases s.oldCommandServer with
  | none => exact (unseen_setCoreStatus _ _ _).bind_eq fun _ => unseen_pure _
  | some j =>
    refine (unseen_closeCommandServer j _).bind_eq fun r => ?_
    cases r with
    | error e => exact unseen_get fun bs s _ => unseen_pure _
    | ok _ =>
      refine (unseen_modify (beside_setServer none)).bind_eq fun _ => ?_
      exact (unseen_setCoreStatus _ _ _).bind_eq fun _ => unseen_pure _

lemma unseen_stopBox {i : Nat} (hi : ¬ lost i) (x : AlertCalls) : Unseen lost (stopBox i x) := by
  refine (unseen_setCoreStatus _ _ _).bind_eq fun _ => ?_
  refine (unseen_deactivateTunnel _).bind_eq fun _ => (unseen_clearService _).bind_eq fun _ => ?_
  refine (unseen_closeBox hi _).bind_eq fun r => ?_
  cases r with
  | error e => exact unseen_get fun bs s _ => unseen_pure _
  | ok _ => exact unseen_stopServer x

lemma unseen_stop (x : StopCalls) : Unseen lost (stop x) := by
  apply unseen_deferPanicToError
  apply unseen_get
  intro bs s h
  rw [Core.setInstances_coreState, Core.setInstances_box]
  split_ifs
  · exact unseen_pure _
  cases hbox : s.box with
  | none => exact unseen_pure _
  | some i => exact unseen_stopBox (fun hi => (h.kept i hi).2 hbox) _

/-! ### Starting -/

lemma unseen_failStart (msgType : MessageType) (err : String) (x : AlertCalls) :
    Unseen lost (failStart msgType err x) :=
  (unseen_setCoreStatus _ _ _).bind_eq fun _ =>
    (unseen_stopAndAlert _ _ x).bind_eq fun _ => unseen_pure _

lemma unseen_attempt {step : Go Core (Except String α)} {msgType : MessageType} {x : AlertCalls}
    {next : α → Go Core Reply} (hstep : Unseen lost step) (hnext : ∀ a, Unseen lost (next a)) :
    Unseen lost (attempt step msgType x next) := by
  refine hstep.bind_eq fun r => ?_
  cases r with
  | error e => exact unseen_failStart msgType e x
  | ok a => exact hnext a

lemma unseen_readContent (req : StartRequest) (x : StartServiceCalls) :
    Unseen lost (readContent req x) := by
  simp only [readContent]
  split_ifs
  · exact (unseen_modify (beside_setPath _)).bind_eq fun _ => .call _
  · exact unseen_pure _

lemma unseen_activateTunnel (opt : ConfigOptions) : Unseen lost (activateTunnel opt) := by
  simp only [activateTunnel]
  split_ifs
  · exact unseen_modify ⟨fun _ => ⟨rfl, rfl⟩, fun _ _ => rfl⟩
  · exact unseen_pure _

lemma unseen_buildContent (req : StartRequest) (parsed : Singbox.Options) (x : StartServiceCalls) :
    Unseen lost (buildContent req parsed x) := by
  simp only [buildContent]
  split_ifs
  · exact unseen_pure _
  apply unseen_get
  intro bs s _
  rw [Core.setInstances_configOptions]
  cases s.configOptions with
  | none => exact .panic _
  | some opt => exact (unseen_activateTunnel opt).bind_eq fun _ => .call _

lemma unseen_saveCurrentConfig (x : StartServiceCalls) : Unseen lost (saveCurrentConfig x) := by
  refine (Go.Simulates.callVoid _).bind_eq fun _ => unseen_modify ⟨?_, ?_⟩
  · intro s
    split_ifs
    · exact ⟨rfl, rfl⟩
    · exact ⟨rfl, rfl⟩
  · intro bs s
    simp only [Core.setInstances_activeConfigPath]
    split_ifs <;> rfl

lemma unseen_startCommandServer (o : Outcome PUnit) : Unseen lost (startCommandServer o) := by
  apply unseen_get
  intro bs s _
  rw [Core.setInstances_coreLogFactory]
  split_ifs
  · apply unseen_get
    intro bs s _
    rw [Core.setInstances_servers]
    refine (unseen_modify beside_addServer).bind_eq fun _ => ?_
    refine (Go.Simulates.call o).bind_eq fun r => ?_
    cases r with
    | error e => exact unseen_pure _
    | ok _ =>
      exact (unseen_modify (beside_startServer _)).bind_eq fun _ => unseen_pure _
  · exact .panic _

lemma unseen_commandServerStep (req : StartRequest) (x : StartServiceCalls) :
    Unseen lost (commandServerStep req x) := by
  simp only [commandServerStep]
  split_ifs
  · exact unseen_startCommandServer _
  · exact unseen_pure _

lemma unseen_serveBox (req : StartRequest) (i : Nat) (o : Exit PUnit) :
    Unseen lost (serveBox req i o) := by
  simp only [serveBox]
  split_ifs
  · apply unseen_get
    intro bs s _
    rw [Core.setInstances_oldCommandServer]
    cases s.oldCommandServer with
    | none => exact .panic _
    | some j =>
      exact (Go.Simulates.callVoid o).bind_eq fun _ =>
        unseen_modify (beside_serveServer j (some i))
  · exact unseen_pure _

lemma unseen_publish (req : StartRequest) {i : Nat} (hi : ¬ lost i) (o : Exit PUnit) :
    Unseen lost (publish req i o) :=
  (unseen_setBox (by simpa using hi)).bind_eq fun _ => (unseen_serveBox req i o).bind_eq fun _ =>
    (unseen_setCoreStatus _ _ _).bind_eq fun _ => unseen_pure _

/-- A new instance is none of the lost ones. -/
lemma unseen_newService (options : Singbox.Options) (o : Outcome PUnit) :
    Go.Simulates (Buried lost) (fun r r' => r = r' ∧ ∀ i, r = .ok i → ¬ lost i)
      (newService options o) (newService options o) := by
  refine (Go.Simulates.call o).bind_eq fun r => ?_
  cases r with
  | error e => exact .pure ⟨rfl, nofun⟩
  | ok _ =>
    apply Go.Simulates.get_bind
    rintro _ s ⟨bs, rfl, h⟩
    rw [Core.setInstances_instances, h.length]
    refine Go.Simulates.bind_eq (.modify ?_) fun _ => .pure ⟨rfl, ?_⟩
    · rintro _ t ⟨bs', rfl, h'⟩
      exact ⟨_, rfl, h'.addInstance options⟩
    · rintro i hi
      cases hi
      exact h.not_lost_length

lemma unseen_startBox {i : Nat} (hi : ¬ lost i) (o : Outcome PUnit) :
    Unseen lost (startBox i o) := by
  refine (Go.Simulates.call o).bind_eq fun r => ?_
  cases r with
  | error e => exact unseen_pure _
  | ok _ =>
    refine Go.Simulates.bind_eq (.modify ?_) fun _ => unseen_pure _
    rintro _ s ⟨bs, rfl, h⟩
    exact ⟨_, rfl, h.startInstance hi⟩

lemma unseen_startService (req : StartRequest) (x : StartServiceCalls) :
    Unseen lost (startService req x) := by
  apply unseen_attempt (unseen_readContent req x)
  intro content
  apply unseen_attempt (.call _)
  intro parsed
  apply unseen_attempt (unseen_buildContent req parsed x)
  intro built
  refine (unseen_saveCurrentConfig x).bind_eq fun _ => ?_
  apply unseen_attempt (unseen_commandServerStep req x)
  intro _
  refine (unseen_newService built x.newService).bind ?_
  rintro r _ ⟨rfl, hr⟩
  cases r with
  | error e => exact unseen_failStart _ e _
  | ok i =>
    exact unseen_attempt (unseen_startBox (hr i rfl) _) fun _ => unseen_publish req (hr i rfl) _

lemma unseen_enterStarting (req : StartRequest) (x : StartCalls) :
    Unseen lost (enterStarting req x) :=
  (unseen_setCoreStatus _ _ _).bind_eq fun _ => (Go.Simulates.callVoid _).bind_eq fun _ =>
    unseen_startService req x.service

lemma unseen_ensureStopped (x : StopCalls) : Unseen lost (ensureStopped x) := by
  apply unseen_get
  intro bs s _
  rw [Core.setInstances_coreState]
  split_ifs
  · exact (unseen_stop x).bind_eq fun _ => unseen_pure _
  · exact unseen_pure _

lemma unseen_start (req : StartRequest) (x : StartCalls) : Unseen lost (start req x) :=
  unseen_deferPanicToError <|
    (unseen_ensureStopped x.stop).bind_eq fun _ => unseen_enterStarting req x

lemma unseen_restart (req : StartRequest) (x : StartCalls) : Unseen lost (restart req x) := by
  apply unseen_deferPanicToError
  apply unseen_get
  intro bs s _
  rw [Core.setInstances_coreState, Core.setInstances_box]
  split_ifs
  · exact unseen_pure _
  cases s.box with
  | none => exact unseen_pure _
  | some i =>
    refine (unseen_stop x.stop).bind_eq fun reply => ?_
    split_ifs
    · exact unseen_pure _
    · exact unseen_enterStarting req x

lemma unseen_serviceReload (x : ReloadCalls) : Unseen lost (serviceReload x) := by
  refine (unseen_setCoreStatus _ _ _).bind_eq fun _ => (unseen_clearService _).bind_eq fun _ => ?_
  refine (unseen_modify (beside_setServer none)).bind_eq fun _ => ?_
  refine (unseen_dropBox _).bind_eq fun _ => ?_
  exact (unseen_startService reloadRequest x.service).bind_eq fun _ => unseen_pure _

/-- No operation looks at lost instances, and every one of them leaves them lost. -/
lemma unseen_exec (op : Op) : Unseen lost op.exec := by
  cases op with
  | start req x => exact (unseen_start req x).bind_eq fun _ => unseen_pure _
  | startService req x => exact (unseen_startService req x).bind_eq fun _ => unseen_pure _
  | stop x => exact (unseen_stop x).bind_eq fun _ => unseen_pure _
  | restart req x => exact (unseen_restart req x).bind_eq fun _ => unseen_pure _
  | stopAndAlert msgType message x => exact unseen_stopAndAlert msgType message x
  | serviceReload x => exact (unseen_serviceReload x).bind_eq fun _ => unseen_pure _

end Unseen

/-! ### What a run loses -/

section Runs

variable {lost : Nat → Prop} {s s' t : Core} {op : Op}

/-- The status shows a live instance that `Box` points to. -/
def Shows (s : Core) : Prop := ∀ i, s.Live i → s.box = some i → s.coreState = .started

open Classical in
/-- The lost instances can be taken for closed. -/
lemma exists_buried (s : Core) : ∃ t, Buried s.Lost t s := by
  let bury (i : Nat) (b : BoxInstance) : BoxInstance :=
    if s.Lost i then { b with closeCalls := b.closeCalls + 1 } else b
  refine ⟨_, s.instances.mapIdx bury, rfl, by simp, ?_, ?_, fun _ => id⟩
  · intro i hi
    have hbury : bury i = id := funext fun b => if_neg hi
    simp [hbury]
  · rintro i hi ⟨b, hb, -, hclose⟩
    simp only [Core.setInstances_instances, List.getElem?_mapIdx, Option.mem_def,
      Option.map_eq_some_iff] at hb
    obtain ⟨b', -, rfl⟩ := hb
    simp [bury, hi] at hclose

lemma Buried.tidy (h : Buried s.Lost t s) (hs : Shows s) : Tidy t := by
  obtain ⟨bs, rfl, h⟩ := h
  intro i hi
  obtain ⟨hlive, hno⟩ := h.live_iff.mp hi
  have hbox : s.box = some i := by
    by_contra hne
    exact hno ⟨hlive, hne⟩
  exact ⟨hbox, hs i hlive hbox⟩

lemma Buried.leaks (h : Buried lost t s) (ht : op.Leaks t) : op.Leaks s := by
  obtain ⟨bs, rfl, h⟩ := h
  cases op with
  | startService req x =>
    obtain ⟨⟨i, hbox, hlive⟩, hx⟩ := ht
    have hsetup : SameSetup (s.setInstances bs) s := ⟨rfl, rfl⟩
    exact ⟨⟨i, hbox, (h.live_iff.mp hlive).1⟩, hsetup.succeeds hx⟩
  | _ => exact ht

lemma Step.buried (h : Step s op s') (hb : Buried lost t s) :
    ∃ t', Step t op t' ∧ Buried lost t' s' := by
  have hsim := unseen_exec op t s hb
  rw [Step] at h
  rw [h] at hsim
  rcases hexec : op.exec t with ⟨_ | e, t'⟩
  · rw [hexec] at hsim
    cases hsim with
    | ret _ hb' => exact ⟨t', hexec, hb'⟩
  · rw [hexec] at hsim
    cases hsim

/-- Beside the lost instances a call keeps the invariant of a run that loses none. -/
lemma Step.lost_of_not_leaks (h : Step s op s') (hs : Shows s) (hop : ¬ op.Leaks s) :
    (∀ k, s'.Lost k ↔ s.Lost k) ∧ Shows s' := by
  obtain ⟨t, hb⟩ := exists_buried s
  obtain ⟨t', hstep, hb'⟩ := h.buried hb
  have htidy : Tidy t' := hstep.tidy (hb.tidy hs) fun hleak => hop (hb.leaks hleak)
  obtain ⟨bs, rfl, hdead⟩ := hb'
  have hheld {k : Nat} (hk : s'.Live k) (hno : ¬ s.Lost k) :
      s'.box = some k ∧ s'.coreState = .started := htidy k (hdead.live_iff.mpr ⟨hk, hno⟩)
  constructor
  · intro k
    refine ⟨fun hk => ?_, hdead.kept k⟩
    by_contra hno
    exact hk.2 (hheld hk.1 hno).1
  · intro k hk hbox
    exact (hheld hk fun hlost => (hdead.kept k hlost).2 hbox).2

lemma ServiceStarted.lost_iff {req : StartRequest} {o : Singbox.Options}
    (h : ServiceStarted req o s t) {k : Nat} : t.Lost k ↔ s.Live k := by
  simp only [Core.Lost, Core.Live, h.instances, h.box, Option.mem_def, ne_eq, Option.some.injEq]
  constructor
  · rintro ⟨⟨b, hb, hlive⟩, hne⟩
    have hlt := (List.getElem?_eq_some_iff.mp hb).1
    rw [List.length_append, List.length_singleton] at hlt
    rw [List.getElem?_append_left (by omega)] at hb
    exact ⟨b, hb, hlive⟩
  · rintro ⟨b, hb, hlive⟩
    have hlt := (List.getElem?_eq_some_iff.mp hb).1
    exact ⟨⟨b, by rw [List.getElem?_append_left hlt, hb], hlive⟩, by omega⟩

/-- A call that replaces a live `Box` loses the instance it points to. -/
lemma Step.lost_of_leaks (h : Step s op s') (hop : op.Leaks s) :
    (∀ k, s'.Lost k ↔ s.Lost k ∨ s.box = some k) ∧ Shows s' := by
  cases op with
  | startService req x =>
    obtain ⟨⟨i, hbox, hlive⟩, hx⟩ := hop
    obtain ⟨content, parsed, built, hcontent, hparsed, hbuilt⟩ := hx.loads
    obtain ⟨t, hrun, hstarted⟩ :=
      startService_started hx ⟨content, parsed, hcontent, hparsed, hbuilt⟩
    simp only [Step, Op.exec, discard, Go.bind_run, hrun, Go.pure_run, Prod.mk.injEq,
      true_and] at h
    subst h
    refine ⟨fun k => ?_, fun _ _ _ => hstarted.coreState⟩
    rw [hstarted.lost_iff]
    constructor
    · intro hk
      by_cases hne : s.box = some k
      · exact Or.inr hne
      · exact Or.inl ⟨hk, hne⟩
    · rintro (hk | hk)
      · exact hk.1
      · cases hbox.symm.trans hk
        exact hlive
  | _ => exact hop.elim

/-- One call, whatever it is. -/
lemma Step.lost_iff (h : Step s op s') (hs : Shows s) :
    (∀ k, s'.Lost k ↔ s.Lost k ∨ op.Leaks s ∧ s.box = some k) ∧ Shows s' := by
  by_cases hop : op.Leaks s
  · simpa only [hop, true_and] using h.lost_of_leaks hop
  · simpa only [hop, false_and, or_false] using h.lost_of_not_leaks hs hop

/-- What `Stop` leaves running is lost. -/
lemma Step.stop_live_iff {x : StopCalls} (h : Step s (.stop x) s') (hs : Shows s) :
    (∀ k, s'.Live k ↔ s.Lost k) ∧ (∀ k, s'.Lost k ↔ s.Lost k) ∧ Shows s' := by
  obtain ⟨hlost, hshows⟩ := h.lost_of_not_leaks hs id
  refine ⟨fun k => ⟨fun hk => ?_, fun hk => ((hlost k).mpr hk).1⟩, hlost, hshows⟩
  obtain ⟨t, hb⟩ := exists_buried s
  obtain ⟨t', hstep, bs, rfl, hdead⟩ := h.buried hb
  have hnone : NoLive (s'.setInstances bs) :=
    (Triple.discard (stop_live x)).ret (hb.tidy hs) hstep
  by_contra hno
  exact hnone k (hdead.live_iff.mpr ⟨hk, hno⟩)

/-- In a run from a new process the instances without a handle are those that a successful
`StartService` found in `Box`, and a live instance in `Box` shows in the status. -/
theorem trace_lost_iff {calls : List (Core × Op)} (hs : s.IsInitial)
    (h : Trace Step s calls t) :
    (∀ k, t.Lost k ↔ ∃ call ∈ calls, call.2.Leaks call.1 ∧ call.1.box = some k) ∧ Shows t := by
  induction h with
  | nil =>
    refine ⟨fun k => ?_, fun i hi => absurd hi (hs.noLive i)⟩
    exact iff_of_false (fun hk => hs.noLive k hk.1) (by simp)
  | @snoc done u v h op hstep ih =>
    obtain ⟨hlost, hshows⟩ := ih
    have hsplit (k : Nat) :
        (∃ call ∈ done ++ [(u, op)], call.2.Leaks call.1 ∧ call.1.box = some k) ↔
          u.Lost k ∨ op.Leaks u ∧ u.box = some k := by
      rw [hlost]
      simp only [List.mem_append, List.mem_singleton, or_and_right, exists_or, exists_eq_left]
    obtain ⟨hv, hshows'⟩ := hstep.lost_iff hshows
    refine ⟨fun k => ?_, hshows'⟩
    rw [hv, hsplit]

/-- A `StartService` behind a `Start` loses the instance of the latter. -/
theorem trace_lost_iff_start :
    (startService rawRequest {} (start rawRequest {} {}).2).2.Lost 0 := by
  have h : Trace Step {} [({}, Op.start rawRequest {}),
      ((start rawRequest {} {}).2, Op.startService rawRequest {})]
      (startService rawRequest {} (start rawRequest {} {}).2).2 :=
    (Trace.nil.snoc (Op.start rawRequest {}) rfl).snoc (Op.startService rawRequest {}) rfl
  have hsucceeds : StartServiceCalls.Succeeds {} rawRequest (start rawRequest {} {}).2 :=
    ⟨⟨"\x7b\x7d", {}, {}, rfl, rfl, rfl⟩, id, trivial, trivial, trivial, nofun⟩
  refine ((trace_lost_iff ⟨rfl, rfl, rfl, rfl, rfl⟩ h).1 0).mpr
    ⟨_, List.mem_cons_of_mem _ List.mem_cons_self, ⟨⟨0, rfl, _, rfl, rfl, rfl⟩, hsucceeds⟩, rfl⟩

end Runs

end HiddifyCore.V2
