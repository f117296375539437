import HiddifyCore.V2.Status
import HiddifyCore.V2.Frames

/-!
# What a reload runs

`ServiceReload` replaces the running instance. The process of the operations is extended by where
the configuration of each instance came from, which the code keeps track of in `activeConfigPath`
only. The request of the reload names no path, so the new instance is built from whatever the empty
path reads.
-/

namespace HiddifyCore.V2

open GoLib Config

/-! ### Where a configuration comes from -/

inductive ConfigOrigin where
  | file (path : String)
  | content (text : String)
  deriving DecidableEq

/-- The source of a configuration, and whether it is run as it is. -/
structure ConfigSource where
  origin : ConfigOrigin
  raw : Bool
  deriving DecidableEq

def StartRequest.source (req : StartRequest) : ConfigSource where
  origin := if req.configContent = "" then .file req.configPath else .content req.configContent
  raw := req.enableRawConfig

/-- The request that an operation hands to `StartService`. -/
def Op.request : Op → Option StartRequest
  | .start req _ | .startService req _ | .restart req _ => some req
  | .serviceReload _ => some reloadRequest
  | .stop _ | .stopAndAlert _ _ _ => none

/-- The process with the source of each instance. -/
structure Sourced where
  core : Core := {}
  sources : List (Option ConfigSource) := []

namespace Sourced

/-- The instances that an operation creates have the source of its request. -/
structure Step (s : Sourced) (op : Op) (t : Sourced) : Prop where
  core : V2.Step s.core op t.core
  sources : t.sources = s.sources ++
    List.replicate (t.core.instances.length - s.core.instances.length)
      (op.request.map StartRequest.source)

structure IsInitial (s : Sourced) : Prop where
  core : s.core.IsInitial
  sources : s.sources = []

/-- The source of the instance that `Box` points to. -/
def source (s : Sourced) : Option ConfigSource :=
  s.core.box.bind fun i => (s.sources[i]?).join

/-- `t` runs another instance than `s`, with the configuration from the same source. -/
structure Replaces (s t : Sourced) : Prop where
  coreState : t.core.coreState = .started
  box : t.core.box ≠ none ∧ t.core.box ≠ s.core.box
  source : t.source ≠ none ∧ t.source = s.source

end Sourced

/-! ### Instances are only added -/

def GrowsTo (s t : Core) : Prop := s.instances.length ≤ t.instances.length

lemma growsFrame : OpFrame GrowsTo where
  refl _ := Nat.le_refl _
  trans _ _ _ := Nat.le_trans
  setState _ _ := Nat.le_refl _
  setPath _ _ := Nat.le_refl _
  setTunnel _ _ := Nat.le_refl _
  serveServer _ _ _ := Nat.le_refl _
  deactivate _ _ := Nat.le_refl _
  unserve _ _ := Nat.le_refl _
  closeInstance _ s := by simp [GrowsTo]
  dropBox _ := Nat.le_refl _
  closeServer _ _ := Nat.le_refl _
  dropServer _ := Nat.le_refl _
  setBox _ _ := Nat.le_refl _
  addInstance _ s := by simp [GrowsTo]
  startInstance _ s := by simp [GrowsTo]
  addServer _ := Nat.le_refl _
  startServer _ _ := Nat.le_refl _

/-! ### A running core has an instance -/

def HasBox (s : Core) : Prop :=
  s.coreState = .started → ∃ i, s.box = some i ∧ i < s.instances.length

lemma HasBox.of_stopped {s : Core} (h : s.coreState = .stopped ∧ s.box = none) : HasBox s := by
  intro hs
  rw [h.1] at hs
  cases hs

lemma startService_hasBox (req : StartRequest) (x : StartServiceCalls) :
    Go.Triple (fun _ => True) (startService req x) (fun _ => HasBox) fun _ => True := by
  intro s _
  refine ((startService_triple req x s).conseq (fun _ => id) (fun reply t ht => ?_)
    fun _ _ => trivial) s rfl
  obtain ⟨-, -, hok, herr⟩ := ht
  by_cases hnil : reply.err = none
  · obtain ⟨-, ⟨i, hbox, b, hb, -⟩, -⟩ := hok hnil
    exact fun _ => ⟨i, hbox, (List.getElem?_eq_some_iff.mp hb).1⟩
  · exact .of_stopped (herr hnil)

lemma deferPanicToError_hasBox {name : String} {x : AlertCalls} {body : Go Core Reply}
    {P : Core → Prop} (hbody : Go.Triple P body (fun _ => HasBox) fun _ => True) :
    Go.Triple P (deferPanicToError name x body) (fun _ => HasBox) fun _ => True := by
  refine Go.Triple.deferRecover hbody fun e => ?_
  intro s _
  exact ((stopAndAlert_triple _ _ x s).conseq (fun _ => id) (fun _ _ ht => .of_stopped ht.2)
    fun _ _ => trivial) s rfl

lemma enterStarting_hasBox (req : StartRequest) (x : StartCalls) :
    Go.Triple (fun _ => True) (enterStarting req x) (fun _ => HasBox) fun _ => True :=
  .bind (triple_true _) fun _ => .bind (triple_true _) fun _ => startService_hasBox req x.service

lemma stop_hasBox (x : StopCalls) :
    Go.Triple HasBox (stop x) (fun _ => HasBox) fun _ => True := by
  intro s hs
  refine ((stop_started_triple x s).post (fun _ t ht hstarted => ?_)) s rfl
  obtain ⟨-, rfl⟩ := ht hstarted
  exact hs hstarted

lemma restart_hasBox (req : StartRequest) (x : StartCalls) :
    Go.Triple HasBox (restart req x) (fun _ => HasBox) fun _ => True := by
  apply deferPanicToError_hasBox
  refine Go.Triple.bind (M := fun _ => HasBox) (Go.Triple.get fun _ => id) fun a => ?_
  split_ifs
  · exact Go.Triple.pure fun _ => id
  cases a.box with
  | none => exact Go.Triple.pure fun _ => id
  | some i =>
    refine Go.Triple.bind (stop_hasBox x.stop) fun reply => ?_
    split_ifs
    · exact Go.Triple.pure fun _ => id
    · exact (enterStarting_hasBox req x).pre fun _ _ => trivial

lemma Op.exec_hasBox (op : Op) : Go.Triple HasBox op.exec (fun _ => HasBox) fun _ => True := by
  cases op with
  | start req x =>
    exact Triple.discard (deferPanicToError_hasBox
      (.bind (triple_true _) fun _ => enterStarting_hasBox req x) |>.pre fun _ _ => trivial)
  | startService req x => exact Triple.discard ((startService_hasBox req x).pre fun _ _ => trivial)
  | stop x => exact Triple.discard (stop_hasBox x)
  | restart req x => exact Triple.discard (restart_hasBox req x)
  | stopAndAlert msgType message x =>
    intro s _
    exact ((stopAndAlert_triple msgType message x s).conseq (fun _ => id)
      (fun _ _ ht => .of_stopped ht.2) fun _ _ => trivial) s rfl
  | serviceReload x =>
    refine Triple.discard (Go.Triple.pre (m := V2.serviceReload x) ?_ fun _ _ => trivial)
    refine .bind (triple_true _) fun _ => .bind (triple_true _) ?_
    intro _
    refine .bind (triple_true _) fun _ => .bind (triple_true _) ?_
    intro _
    exact .bind (startService_hasBox reloadRequest x.service) fun _ => Go.Triple.pure fun _ => id

namespace Sourced

/-- The sources are those of the instances, and a running core is one of them. -/
structure Tracked (s : Sourced) : Prop where
  hasBox : HasBox s.core
  sources : s.sources.length = s.core.instances.length

lemma IsInitial.tracked {s : Sourced} (h : s.IsInitial) : s.Tracked where
  hasBox hs := by
    rw [h.core.coreState] at hs
    cases hs
  sources := by simp [h.sources, h.core.instances]

lemma Step.tracked {s t : Sourced} {op : Op} (h : Step s op t) (hs : s.Tracked) : t.Tracked where
  hasBox := op.exec_hasBox.ret hs.hasBox h.core
  sources := by
    have hgrows : s.core.instances.length ≤ t.core.instances.length := h.core.within growsFrame
    rw [h.sources, List.length_append, List.length_replicate, hs.sources]
    omega

lemma run_tracked {s t : Sourced} (hs : s.IsInitial) (hrun : Run Step (fun _ _ => True) s t) :
    t.Tracked :=
  hrun.invariant hs.tracked fun _ _ _ hI _ hstep => hstep.tracked hI

end Sourced

/-! ### What a reload runs -/

/-- Every call of a reload but the reading of the file succeeds. -/
structure ReloadCalls.Succeeds (x : ReloadCalls) : Prop where
  clears : ¬ x.clearService.IsPanic
  closes : x.boxClose.IsOk
  parses (content : String) : (x.service.parse content).IsOk
  builds (opt : ConfigOptions) (parsed : Singbox.Options) : (x.service.build opt parsed).IsOk
  saves : ¬ x.service.saveConfig.IsPanic
  serves : x.service.serverStart.IsOk
  creates : x.service.newService.IsOk
  starts : x.service.boxStart.IsOk
  publishes : ¬ x.service.setService.IsPanic

lemma clearService_run {o : Exit PUnit} (s : Core) (h : ¬ o.IsPanic) :
    clearService o s = (.ret ⟨⟩, s.oldCommandServer.elim s fun j => s.serveServer j none) := by
  cases o with
  | panic e => exact absurd trivial h
  | ret a => cases hj : s.oldCommandServer <;> simp [clearService, Go.bind_run, Go.get, Go.modify,
      Go.callVoid, Go.pure_run, hj]

lemma dropBox_run {o : Outcome PUnit} (s : Core) (h : o.IsOk) :
    dropBox o s = (.ret ⟨⟩, s.box.elim s fun i => (s.closeInstance i).setBox none) := by
  obtain ⟨⟨⟩, rfl⟩ := h.exists_eq
  cases hi : s.box <;> simp [dropBox, closeBox, Go.bind_run, Go.get, Go.modify, Go.pure_run, hi]

/-- A reload comes to `StartService` with the instances it found. -/
lemma serviceReload_run {x : ReloadCalls} (hx : x.Succeeds) (s : Core) :
    ∃ u, SameSetup s u ∧ u.instances.length = s.instances.length ∧ serviceReload x s =
      (startService reloadRequest x.service >>= fun reply => pure reply.err) u := by
  let s₁ := s.setState .starting
  let s₂ := s₁.oldCommandServer.elim s₁ fun j => s₁.serveServer j none
  let s₃ := s₂.setServer none
  let s₄ := s₃.box.elim s₃ fun i => (s₃.closeInstance i).setBox none
  have h₁ : setCoreStatus .starting .empty "" s = (.ret ⟨.starting, .empty, ""⟩, s₁) := rfl
  have h₂ : SameSetup s s₂ ∧ s₂.instances.length = s.instances.length := by
    simp only [s₂]
    cases s₁.oldCommandServer <;> exact ⟨⟨rfl, rfl⟩, rfl⟩
  refine ⟨s₄, ?_, ?_, (bind_of_ret h₁).trans <|
    (bind_of_ret (clearService_run s₁ hx.clears)).trans <|
    (bind_of_ret (t := s₃) rfl).trans <| bind_of_ret (dropBox_run s₃ hx.closes)⟩
  · simp only [s₄]
    cases s₃.box <;> exact h₂.1
  · simp only [s₄]
    cases s₃.box with
    | none => exact h₂.2
    | some i =>
      rw [Option.elim_some, Core.setBox_instances, Core.closeInstance_instances,
        List.length_modify]
      exact h₂.2

/-- What is left for `StartService` to depend on. -/
lemma ReloadCalls.Succeeds.service_iff {x : ReloadCalls} (hx : x.Succeeds) (s : Core) :
    x.service.Succeeds reloadRequest s ↔
      (x.service.readFile "").IsOk ∧ s.configOptions.isSome ∧ s.coreLogFactory = true := by
  constructor
  · rintro ⟨⟨content, parsed, built, hcontent, -, hbuilt⟩, -, hserves, -, -, -⟩
    refine ⟨?_, ?_, ?_⟩
    · have hread : x.service.readFile "" = .ok content := hcontent
      rw [hread]
      trivial
    · cases hopt : s.configOptions with
      | none => simp [StartServiceCalls.built, reloadRequest, hopt] at hbuilt
      | some opt => rfl
    · by_contra hlog
      simp [StartServiceCalls.server, reloadRequest, hlog] at hserves
  · rintro ⟨hread, hopt, hlog⟩
    obtain ⟨content, hread⟩ := hread.exists_eq
    obtain ⟨opt, hopt⟩ := Option.isSome_iff_exists.mp hopt
    obtain ⟨parsed, hparse⟩ := (hx.parses content).exists_eq
    obtain ⟨built, hbuild⟩ := (hx.builds opt parsed).exists_eq
    exact { loads := ⟨content, parsed, built, hread, hparse, by
              simpa [StartServiceCalls.built, reloadRequest, hopt] using hbuild⟩
            saves := hx.saves
            serves := by simpa [StartServiceCalls.server, reloadRequest, hlog] using hx.serves
            creates := hx.creates
            starts := hx.starts
            publishes := fun h => hx.publishes h.2 }

lemma serviceReload_started {x : ReloadCalls} (hx : x.Succeeds) {s : Core}
    (hservice : x.service.Succeeds reloadRequest s) :
    ∃ t, Step s (.serviceReload x) t ∧ t.coreState = .started ∧
      t.box = some s.instances.length ∧ t.instances.length = s.instances.length + 1 := by
  obtain ⟨u, hsetup, hlength, hrun⟩ := serviceReload_run hx s
  have hservice' : x.service.Succeeds reloadRequest u := hsetup.succeeds hservice
  obtain ⟨content, parsed, built, hloads⟩ := hservice'.loads
  obtain ⟨t, hstart, ht⟩ := startService_started hservice' ⟨content, parsed, hloads⟩
  refine ⟨t, ?_, ht.coreState, by rw [ht.box, hlength], ?_⟩
  · exact bind_of_ret (hrun.trans (bind_of_ret hstart))
  · rw [ht.instances, List.length_append, hlength, List.length_singleton]

/-- A reload whose service fails ends with no core. -/
lemma serviceReload_stopped {x : ReloadCalls} (hx : x.Succeeds) {s t : Core}
    (hservice : ¬ x.service.Succeeds reloadRequest s) (hstep : Step s (.serviceReload x) t) :
    t.coreState = .stopped ∧ t.box = none := by
  obtain ⟨u, hsetup, -, hrun⟩ := serviceReload_run hx s
  have hservice' : ¬ x.service.Succeeds reloadRequest u := fun h =>
    hservice (hsetup.symm.succeeds h)
  have hend := startService_triple reloadRequest x.service u u rfl
  simp only [Step, Op.exec, discard, Go.bind_run, hrun] at hstep
  rcases hstart : startService reloadRequest x.service u with ⟨reply | e, v⟩ <;>
    rw [hstart] at hstep hend
  · obtain rfl : v = t := congrArg Prod.snd hstep
    exact hend.2.2.2 fun hnil => hservice' (hend.2.1 hnil)
  · cases hstep

namespace Sourced

/-- The new instance of a reload comes from the empty path. -/
lemma Tracked.source_reload {s : Sourced} (h : s.Tracked) {t : Sourced} {x : ReloadCalls}
    (hstep : Step s (.serviceReload x) t) (hbox : t.core.box = some s.core.instances.length)
    (hlength : t.core.instances.length = s.core.instances.length + 1) :
    t.source = some ⟨.file "", false⟩ := by
  have hsources : t.sources = s.sources ++ [some ⟨.file "", false⟩] := by
    rw [hstep.sources, hlength, Nat.add_sub_cancel_left]
    rfl
  rw [source, hbox, Option.bind_some, hsources, ← h.sources, List.getElem?_concat_length]
  rfl

/-- With every other call succeeding, a reload keeps the source of the running configuration
exactly when that is what the empty path reads, and it reads. -/
theorem reload_replaces_iff {s₀ s : Sourced} (h₀ : s₀.IsInitial)
    (hrun : Run Step (fun _ _ => True) s₀ s) (hs : s.core.coreState = .started) {x : ReloadCalls}
    (hx : x.Succeeds) :
    (∃ t, Step s (.serviceReload x) t ∧ Replaces s t) ↔
      s.source = some ⟨.file "", false⟩ ∧ (x.service.readFile "").IsOk ∧
        s.core.configOptions.isSome ∧ s.core.coreLogFactory = true := by
  have htracked := run_tracked h₀ hrun
  obtain ⟨i, hbox, hi⟩ := htracked.hasBox hs
  rw [← hx.service_iff s.core]
  constructor
  · rintro ⟨t, hstep, ht⟩
    by_cases hservice : x.service.Succeeds reloadRequest s.core
    · obtain ⟨u, hstep', -, hbox', hlength⟩ := serviceReload_started hx hservice
      obtain rfl : u = t.core := congrArg Prod.snd (hstep'.symm.trans hstep.core)
      refine ⟨?_, hservice⟩
      rw [← ht.source.2, htracked.source_reload hstep hbox' hlength]
    · have hstate := ht.coreState
      rw [(serviceReload_stopped hx hservice hstep.core).1] at hstate
      cases hstate
  · rintro ⟨hsource, hservice⟩
    obtain ⟨u, hstep, hstate, hbox', hlength⟩ := serviceReload_started hx hservice
    let t : Sourced := {
      core := u
      sources := s.sources ++ List.replicate (u.instances.length - s.core.instances.length)
        (some ⟨.file "", false⟩) }
    have hstep' : Step s (.serviceReload x) t := ⟨hstep, rfl⟩
    have hsource' : t.source = some ⟨.file "", false⟩ :=
      htracked.source_reload hstep' hbox' hlength
    refine ⟨t, hstep', hstate, ⟨?_, ?_⟩, ?_, ?_⟩
    · rw [hbox']
      exact Option.some_ne_none _
    · rw [hbox', hbox]
      intro h
      have := Option.some.inj h
      omega
    · rw [hsource']
      exact Option.some_ne_none _
    · rw [hsource', hsource]

/-- A process after `Setup` and `ChangeConfigOptions`. -/
def fresh : Sourced := { core := { configOptions := some {}, coreLogFactory := true } }

def fileRequest : StartRequest := { configPath := "/etc/hiddify.json" }

/-- The process once it runs the configuration of a file. -/
def fileStarted : Sourced where
  core := (start fileRequest {} fresh.core).2
  sources := [some ⟨.file "/etc/hiddify.json", false⟩]

lemma fresh_isInitial : fresh.IsInitial := ⟨⟨rfl, rfl, rfl, rfl, rfl⟩, rfl⟩

lemma run_fileStarted : Run Step (fun _ _ => True) fresh fileStarted :=
  .single (.start fileRequest {}) trivial ⟨rfl, rfl⟩

/-- `os.ReadFile` of the empty path fails. -/
def emptyPathFails : ReloadCalls where
  service := { readFile := fun path =>
    if path = "" then .fail "open : no such file or directory" else .ok "\x7b\x7d" }

theorem reload_replaces_iff_file :
    ¬ ∃ t, Step fileStarted (.serviceReload emptyPathFails) t ∧ Replaces fileStarted t := by
  have hx : emptyPathFails.Succeeds :=
    ⟨id, trivial, fun _ => trivial, fun _ _ => trivial, id, trivial, trivial, trivial, id⟩
  rw [reload_replaces_iff fresh_isInitial run_fileStarted rfl hx]
  rintro ⟨-, hread, -⟩
  exact hread

/-- Even where the empty path can be read, the reload of a core that runs a file's configuration
runs another one. -/
theorem not_reload_replaces :
    ¬ ∀ s₀ s : Sourced, s₀.IsInitial → Run Step (fun _ _ => True) s₀ s →
      s.core.coreState = .started → ∀ x : ReloadCalls, x.Succeeds →
      (∀ path, (x.service.readFile path).IsOk) →
        ∃ t, Step s (.serviceReload x) t ∧ Replaces s t := by
  intro h
  have hx : ({} : ReloadCalls).Succeeds :=
    ⟨id, trivial, fun _ => trivial, fun _ _ => trivial, id, trivial, trivial, trivial, id⟩
  obtain ⟨t, hstep, ht⟩ := h fresh fileStarted fresh_isInitial run_fileStarted rfl {} hx
    fun _ => trivial
  have hservice := (hx.service_iff fileStarted.core).mpr ⟨trivial, rfl, rfl⟩
  obtain ⟨u, hstep', -, hbox, hlength⟩ := serviceReload_started hx hservice
  obtain rfl : u = t.core := congrArg Prod.snd (hstep'.symm.trans hstep.core)
  have hsource := (run_tracked fresh_isInitial run_fileStarted).source_reload hstep hbox hlength
  have hsame : fileStarted.source = some ⟨.file "", false⟩ := ht.source.2.symm.trans hsource
  revert hsame
  decide

end Sourced

end HiddifyCore.V2
