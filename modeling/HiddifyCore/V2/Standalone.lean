import HiddifyCore.V2.StopExits

/-!
# Refreshing the standalone core

`updateConfigInterval` of `v2/standalone.go` reads the configuration again at each tick. When it
has changed, the tick launches `Stop` and `StartService` in two goroutines that nothing orders. A
replacement needs `Stop` to run first. In the other order `Stop` meets the core that
`StartService` has just put into `Box`, and closes that one.
-/

namespace HiddifyCore.V2

open GoLib Config

structure ConfigResult where
  config : String
  refreshInterval : Int
  hiddifyConfigOptions : ConfigOptions

lemma brackets_ne : "{}" ≠ "" := by decide

/-- The calls of `readAndBuildConfig`. -/
structure ReadCalls where
  /-- `readConfigContent`: the content and the refresh interval. -/
  content : Outcome (String × Int)
  /-- `readConfigOptionsAt`, unless no settings path was given. -/
  settings : Option (Outcome ConfigOptions) := none
  /-- `ParseConfigContent` and `readConfigBytes`. -/
  parse : ConfigOptions → String → Outcome Singbox.Options := fun _ _ => .ok {}
  /-- `BuildConfig` but for its activation of the tunnel service, and the edits after it. -/
  build : ConfigOptions → Singbox.Options → Outcome Singbox.Options := fun _ parsed => .ok parsed
  setup : Outcome PUnit := .ok ⟨⟩
  /-- A document has at least its brackets. -/
  toJson : Singbox.Options → Outcome {text : String // text ≠ ""} :=
    fun _ => .ok ⟨"{}", brackets_ne⟩

/-- The calls of the two goroutines of a refresh. -/
structure RefreshCalls where
  stop : StopCalls := {}
  service : StartServiceCalls := {}

inductive RefreshOrder where
  | stopFirst | startFirst
  deriving DecidableEq

/-- One tick of the loop: what the calls do, and which goroutine of a refresh runs first. -/
structure Tick extends RefreshCalls where
  read : ReadCalls
  order : RefreshOrder

/-- `Setup("./", "./", "./tmp", 0, false)`. -/
def setup (o : Outcome PUnit) : Go Core (Except String PUnit) := do
  Go.modify fun s =>
    { s with coreLogFactory := o.IsOk, currentBuildConfigPath := "current-config.json" }
  Go.call o

def bindError {α β : Type} (m : Go Core (Except String α))
    (next : α → Go Core (Except String β)) : Go Core (Except String β) := do
  match ← m with
  | .error e => pure (.error e)
  | .ok a => next a

def readAndBuildConfig (defaultConfig : ConfigOptions) (x : ReadCalls) :
    Go Core (Except String ConfigResult) :=
  bindError (Go.call x.content) fun content =>
  bindError (Go.call (x.settings.getD (.ok defaultConfig))) fun opt =>
  bindError (Go.call (x.parse opt content.1)) fun parsed => do
    activateTunnel opt
    bindError (Go.call (x.build opt parsed)) fun built =>
      bindError (setup x.setup) fun _ =>
      bindError (Go.call (x.toJson built)) fun config =>
        pure (.ok {
          config := config.val
          refreshInterval := content.2
          hiddifyConfigOptions := opt })

/-- The request that a refresh starts the new configuration with. -/
def refreshRequest (config : String) : StartRequest :=
  { configContent := config, enableRawConfig := true }

/-- `go Stop()` and `go StartService(...)`, each run in one step. -/
def replaceCore (order : RefreshOrder) (config : String) (x : RefreshCalls) : Go Core PUnit :=
  match order with
  | .stopFirst => do
    discard (stop x.stop)
    discard (startService (refreshRequest config) x.service)
  | .startFirst => do
    discard (startService (refreshRequest config) x.service)
    discard (stop x.stop)

/-- The body of the loop, which returns the next `current`. -/
def refresh (current : ConfigResult) (tick : Tick) : Go Core ConfigResult := do
  match ← readAndBuildConfig current.hiddifyConfigOptions tick.read with
  | .error _ => pure current
  | .ok new =>
    if new.config ≠ current.config then
      replaceCore tick.order new.config tick.toRefreshCalls
      pure new
    else
      pure new

def refreshLoop (current : ConfigResult) : List Tick → Go Core ConfigResult
  | [] => pure current
  | tick :: ticks => do
    let new ← refresh current tick
    refreshLoop new ticks

/-- The interval is read once, before the loop. -/
def updateConfigInterval (current : ConfigResult) (ticks : List Tick) : Go Core ConfigResult :=
  if current.refreshInterval ≤ 0 then pure current else refreshLoop current ticks

/-! ### Reading the configuration again -/

/-- The variables that say which core runs. -/
def SameCore (s t : Core) : Prop := t.coreState = s.coreState ∧ SameBox s t

lemma SameCore.refl (s : Core) : SameCore s s := ⟨rfl, .refl s⟩

lemma SameCore.trans (s t u : Core) (hst : SameCore s t) (htu : SameCore t u) : SameCore s u :=
  ⟨htu.1.trans hst.1, .trans s t u hst.2 htu.2⟩

lemma setup_within (o : Outcome PUnit) : Go.Within SameCore (setup o) :=
  .bind SameCore.trans (.modify fun _ => ⟨rfl, rfl, rfl⟩) fun _ => .call SameCore.refl o

lemma activateTunnel_sameCore (opt : ConfigOptions) :
    Go.Within SameCore (activateTunnel opt) := by
  simp only [activateTunnel]
  split_ifs
  · exact .modify fun _ => ⟨rfl, rfl, rfl⟩
  · exact .pure SameCore.refl _

lemma bindError_within {α β : Type} {m : Go Core (Except String α)}
    {next : α → Go Core (Except String β)} (hm : Go.Within SameCore m)
    (hnext : ∀ a, Go.Within SameCore (next a)) : Go.Within SameCore (bindError m next) := by
  apply Go.Within.bind SameCore.trans hm
  intro r
  cases r with
  | error e => exact .pure SameCore.refl _
  | ok a => exact hnext a

/-- A configuration is read and built beside the running core. -/
lemma readAndBuildConfig_within (defaultConfig : ConfigOptions) (x : ReadCalls) :
    Go.Within SameCore (readAndBuildConfig defaultConfig x) := by
  apply bindError_within (.call SameCore.refl _)
  intro content
  apply bindError_within (.call SameCore.refl _)
  intro opt
  apply bindError_within (.call SameCore.refl _)
  intro parsed
  apply Go.Within.bind SameCore.trans (activateTunnel_sameCore opt)
  intro _
  apply bindError_within (.call SameCore.refl _)
  intro built
  apply bindError_within (setup_within x.setup)
  intro _
  apply bindError_within (.call SameCore.refl _)
  intro config
  exact .pure SameCore.refl _

lemma bindError_eq_ok {α β : Type} {m : Go Core (Except String α)}
    {next : α → Go Core (Except String β)} {s t : Core} {b : β}
    (h : bindError m next s = (.ret (.ok b), t)) :
    ∃ a u, m s = (.ret (.ok a), u) ∧ next a u = (.ret (.ok b), t) := by
  simp only [bindError, Go.bind_run] at h
  rcases hm : m s with ⟨(e | a) | e, u⟩
  · rw [hm] at h
    cases h
  · rw [hm] at h
    exact ⟨a, u, rfl, h⟩
  · rw [hm] at h
    cases h

/-- What a call that returns a configuration has computed. -/
lemma readAndBuildConfig_eq_ok {defaultConfig : ConfigOptions} {x : ReadCalls} {s t : Core}
    {new : ConfigResult} (h : readAndBuildConfig defaultConfig x s = (.ret (.ok new), t)) :
    ∃ content opt parsed built config, x.content = .ok content ∧
      x.settings.getD (.ok defaultConfig) = .ok opt ∧ x.parse opt content.1 = .ok parsed ∧
      x.build opt parsed = .ok built ∧ x.toJson built = .ok config ∧
      new = {
        config := config.val
        refreshInterval := content.2
        hiddifyConfigOptions := opt } := by
  obtain ⟨content, s₁, hcontent, h⟩ := bindError_eq_ok h
  obtain ⟨opt, s₂, hopt, h⟩ := bindError_eq_ok h
  obtain ⟨parsed, s₃, hparsed, h⟩ := bindError_eq_ok h
  rw [Go.bind_run] at h
  rcases hact : activateTunnel opt s₃ with ⟨_ | e, s₄⟩
  · rw [hact] at h
    obtain ⟨built, s₅, hbuilt, h⟩ := bindError_eq_ok h
    obtain ⟨_, s₆, -, h⟩ := bindError_eq_ok h
    obtain ⟨config, s₇, hconfig, h⟩ := bindError_eq_ok h
    simp only [Go.pure_run, Prod.mk.injEq, Exit.ret.injEq, Except.ok.injEq] at h
    exact ⟨content, opt, parsed, built, config, Go.call_eq_ret_ok hcontent,
      Go.call_eq_ret_ok hopt, Go.call_eq_ret_ok hparsed, Go.call_eq_ret_ok hbuilt,
      Go.call_eq_ret_ok hconfig, h.1.symm⟩
  · rw [hact] at h
    cases h

/-- The calls that make a configuration do so from every state. -/
lemma readAndBuildConfig_of_ok {defaultConfig opt : ConfigOptions} {x : ReadCalls}
    {content : String × Int} {parsed built : Singbox.Options}
    {config : {text : String // text ≠ ""}}
    (hcontent : x.content = .ok content) (hopt : x.settings.getD (.ok defaultConfig) = .ok opt)
    (hparsed : x.parse opt content.1 = .ok parsed) (hbuilt : x.build opt parsed = .ok built)
    (hsetup : x.setup = .ok ⟨⟩) (hconfig : x.toJson built = .ok config) (s : Core) :
    ∃ t, readAndBuildConfig defaultConfig x s = (.ret (.ok {
      config := config.val
      refreshInterval := content.2
      hiddifyConfigOptions := opt }), t) := by
  obtain ⟨s', hact⟩ : ∃ s', activateTunnel opt s = (.ret ⟨⟩, s') := by
    simp only [activateTunnel]
    split_ifs <;> exact ⟨_, rfl⟩
  simp only [readAndBuildConfig, bindError, Go.bind_run, Go.call_ok, hcontent, hopt, hparsed,
    hbuilt, hconfig, hact, hsetup]
  exact ⟨_, rfl⟩

/-- What was read is the text of a document. -/
lemma readAndBuildConfig_config_ne {defaultConfig : ConfigOptions} {x : ReadCalls} {s t : Core}
    {new : ConfigResult} (h : readAndBuildConfig defaultConfig x s = (.ret (.ok new), t)) :
    new.config ≠ "" := by
  obtain ⟨_, _, _, _, config, -, -, -, -, -, rfl⟩ := readAndBuildConfig_eq_ok h
  exact config.property

/-! ### The two goroutines -/

/-- Instance `i` is the running core. -/
structure Core.Runs (s : Core) (i : Nat) : Prop where
  coreState : s.coreState = .started
  box : s.box = some i
  live : s.Live i

/-- The core `t` runs the configuration `o`, and the one that `s` ran is closed. -/
structure Replaced (s : Core) (o : Singbox.Options) (t : Core) : Prop where
  running : ∃ j, t.Runs j ∧ ∃ b ∈ t.instances[j]?, b.options = o
  closed : ∀ i, s.box = some i → ∃ b ∈ t.instances[i]?, 0 < b.closeCalls

/-- Every call of the two goroutines succeeds, and `o` is what the new text parses to. -/
structure RefreshCalls.Succeeds (x : RefreshCalls) (config : String) (o : Singbox.Options) :
    Prop where
  stop : x.stop.toAlertCalls.Succeeds
  parse : x.service.parse config = .ok o
  saveConfig : ¬ x.service.saveConfig.IsPanic
  newService : x.service.newService.IsOk
  boxStart : x.service.boxStart.IsOk

lemma refreshRequest_isRaw {config : String} (h : config ≠ "") : (refreshRequest config).IsRaw :=
  ⟨h, rfl, rfl⟩

lemma discard_run {α : Type} {m : Go Core α} {s t : Core} {a : α} (h : m s = (.ret a, t)) :
    discard m s = (.ret ⟨⟩, t) := by
  simp only [discard, Go.bind_run, h, Go.pure_run]

/-- In the intended order the core is replaced. -/
lemma replaceCore_stopFirst {config : String} {o : Singbox.Options} {x : RefreshCalls} {s : Core}
    {i : Nat} (hs : s.Runs i) (hconfig : config ≠ "") (hx : x.Succeeds config o) :
    ∃ t, replaceCore .stopFirst config x s = (.ret ⟨⟩, t) ∧ Replaced s o t := by
  obtain ⟨reply, t, hstop, -, -, -, hinst⟩ := stop_run hx.stop hs.coreState hs.box
  obtain ⟨reply', u, hstart, -, hstate, hbox, hinst', -⟩ := startService_run (s := t)
    (refreshRequest_isRaw hconfig) hx.parse hx.saveConfig hx.newService hx.boxStart
  refine ⟨u, ?_, ⟨t.instances.length, ⟨hstate, hbox, ?_⟩, ?_⟩, ?_⟩
  · simp only [replaceCore, Go.bind_run, discard_run hstop, discard_run hstart]
  · exact ⟨_, by rw [hinst', List.getElem?_concat_length]; rfl, rfl, rfl⟩
  · exact ⟨_, by rw [hinst', List.getElem?_concat_length]; rfl, rfl⟩
  · intro k hk
    obtain rfl : i = k := Option.some.inj (hs.box.symm.trans hk)
    obtain ⟨b, hb, -⟩ := hs.live
    have hlt : i < s.instances.length := (List.getElem?_eq_some_iff.mp hb).1
    refine ⟨{ b with closeCalls := b.closeCalls + 1 }, ?_, Nat.succ_pos _⟩
    rw [Option.mem_def] at hb ⊢
    rw [hinst', hinst, List.getElem?_append_left (by simpa using hlt)]
    simp [hb]

/-- In the other order `Stop` closes the core that `StartService` has just started, and the
previous one runs on with no handle to it. -/
lemma replaceCore_startFirst {config : String} {o : Singbox.Options} {x : RefreshCalls} {s : Core}
    {i : Nat} (hs : s.Runs i) (hconfig : config ≠ "") (hx : x.Succeeds config o) :
    ∃ t, replaceCore .startFirst config x s = (.ret ⟨⟩, t) ∧ t.coreState = .stopped ∧
      t.box = none ∧ t.Live i := by
  obtain ⟨reply, t, hstart, -, hstate, hbox, hinst, -⟩ := startService_run (s := s)
    (refreshRequest_isRaw hconfig) hx.parse hx.saveConfig hx.newService hx.boxStart
  have ht : t.Runs s.instances.length :=
    ⟨hstate, hbox, _, by rw [hinst, List.getElem?_concat_length]; rfl, rfl, rfl⟩
  obtain ⟨reply', u, hstop, -, hstate', hbox', hinst'⟩ :=
    stop_run hx.stop ht.coreState ht.box
  refine ⟨u, ?_, hstate', hbox', ?_⟩
  · simp only [replaceCore, Go.bind_run, discard_run hstop, discard_run hstart]
  · obtain ⟨b, hb, hlive⟩ := hs.live
    have hlt : i < s.instances.length := (List.getElem?_eq_some_iff.mp hb).1
    refine ⟨b, ?_, hlive⟩
    rw [Option.mem_def] at hb ⊢
    rw [hinst', Core.closeInstance_instances, hinst, modify_last, List.getElem?_append_left hlt, hb]

lemma replaceCore_replaces_iff (order : RefreshOrder) {config : String} {o : Singbox.Options}
    {x : RefreshCalls} {s : Core} {i : Nat} (hs : s.Runs i) (hconfig : config ≠ "")
    (hx : x.Succeeds config o) :
    ∃ t, replaceCore order config x s = (.ret ⟨⟩, t) ∧
      (Replaced s o t ↔ order = .stopFirst) := by
  cases order with
  | stopFirst =>
    obtain ⟨t, hrun, ht⟩ := replaceCore_stopFirst hs hconfig hx
    exact ⟨t, hrun, iff_of_true ht rfl⟩
  | startFirst =>
    obtain ⟨t, hrun, -, hbox, -⟩ := replaceCore_startFirst hs hconfig hx
    refine ⟨t, hrun, iff_of_false ?_ (by decide)⟩
    rintro ⟨⟨j, hj, -⟩, -⟩
    cases hbox.symm.trans hj.box

/-! ### Ticks -/

/-- The process in the standalone mode, with `current` of the loop. -/
structure Standalone where
  core : Core
  current : ConfigResult

namespace Standalone

/-- The tick takes the process from `s` to `t`. -/
def Step (s : Standalone) (tick : Tick) (t : Standalone) : Prop :=
  refresh s.current tick s.core = (.ret t.current, t.core)

/-- The tick reads `new`, which differs from the current configuration. -/
def Refreshes (s : Standalone) (tick : Tick) (new : ConfigResult) : Prop :=
  (∃ t, readAndBuildConfig s.current.hiddifyConfigOptions tick.read s.core = (.ret (.ok new), t)) ∧
    new.config ≠ s.current.config

/-- If the tick refreshes the core, `Stop` runs first and every call succeeds. -/
def StopsFirst (s : Standalone) (tick : Tick) : Prop :=
  ∀ new, s.Refreshes tick new → tick.order = .stopFirst ∧ ∃ o, tick.Succeeds new.config o

end Standalone

lemma Core.Runs.of_sameCore {s t : Core} {i : Nat} (hs : s.Runs i) (h : SameCore s t) :
    t.Runs i := by
  obtain ⟨hstate, hinst, hbox⟩ := h
  refine ⟨hstate.trans hs.coreState, hbox.trans hs.box, ?_⟩
  simpa only [Core.Live, hinst] using hs.live

lemma Replaced.of_sameCore {s s' t : Core} {o : Singbox.Options} (h : SameCore s s') :
    Replaced s' o t ↔ Replaced s o t := by
  constructor
  · intro ⟨hrun, hclosed⟩
    exact ⟨hrun, fun i hi => hclosed i (h.2.2.trans hi)⟩
  · intro ⟨hrun, hclosed⟩
    exact ⟨hrun, fun i hi => hclosed i (h.2.2.symm.trans hi)⟩

/-- What a tick that refreshes a running core does. -/
lemma Standalone.Refreshes.step {s : Standalone} {tick : Tick} {new : ConfigResult}
    {o : Singbox.Options} {i : Nat} (h : s.Refreshes tick new) (hs : s.core.Runs i)
    (hx : tick.Succeeds new.config o) :
    ∃ t, s.Step tick t ∧ (Replaced s.core o t.core ↔ tick.order = .stopFirst) := by
  obtain ⟨⟨s', hread⟩, hne⟩ := h
  have hsame : SameCore s.core s' := by
    have hwithin := readAndBuildConfig_within s.current.hiddifyConfigOptions tick.read s.core
    simpa only [hread] using hwithin
  obtain ⟨t, hrun, ht⟩ := replaceCore_replaces_iff tick.order
    (hs.of_sameCore hsame) (readAndBuildConfig_config_ne hread) hx
  refine ⟨⟨t, new⟩, ?_, (Replaced.of_sameCore hsame).symm.trans ht⟩
  simp only [Standalone.Step, refresh, Go.bind_run, hread, if_pos hne, hrun, Go.pure_run]

/-- A tick that refreshes nothing leaves the core alone. -/
lemma Standalone.Step.sameCore {s t : Standalone} {tick : Tick} (h : s.Step tick t)
    (hno : ∀ new, ¬ s.Refreshes tick new) : SameCore s.core t.core := by
  have hsame := readAndBuildConfig_within s.current.hiddifyConfigOptions tick.read s.core
  simp only [Standalone.Step, refresh, Go.bind_run] at h
  rcases hread : readAndBuildConfig s.current.hiddifyConfigOptions tick.read s.core
    with ⟨(e | new) | e, s'⟩
  · simp only [hread, Go.pure_run, Prod.mk.injEq] at h hsame
    exact h.2 ▸ hsame
  · have heq : ¬ new.config ≠ s.current.config := fun hne => hno new ⟨⟨s', hread⟩, hne⟩
    simp only [hread, if_neg heq, Go.pure_run, Prod.mk.injEq] at h hsame
    exact h.2 ▸ hsame
  · simp [hread] at h

/-- The loop takes one step for each tick. -/
theorem refreshLoop_run {ticks : List Tick} {s t : Core} {current last : ConfigResult}
    (h : refreshLoop current ticks s = (.ret last, t)) :
    Run Standalone.Step (fun _ _ => True) ⟨s, current⟩ ⟨t, last⟩ := by
  induction ticks generalizing s current with
  | nil =>
    simp only [refreshLoop, Go.pure_run, Prod.mk.injEq, Exit.ret.injEq] at h
    obtain ⟨rfl, rfl⟩ := h
    exact .refl
  | cons tick ticks ih =>
    simp only [refreshLoop, Go.bind_run] at h
    rcases hstep : refresh current tick s with ⟨new | e, u⟩
    · rw [hstep] at h
      exact (Run.single (t := ⟨u, new⟩) tick trivial hstep).trans (ih h)
    · rw [hstep] at h
      cases h

/-- While every refresh runs `Stop` first, a core stays running. -/
lemma Standalone.run_runs {s t : Standalone} {i : Nat} (hs : s.core.Runs i)
    (hrun : Run Step StopsFirst s t) : ∃ j, t.core.Runs j := by
  apply hrun.invariant (I := fun s => ∃ j, s.core.Runs j) ⟨i, hs⟩
  rintro s tick t ⟨i, hs⟩ hC hstep
  by_cases hno : ∀ new, ¬ s.Refreshes tick new
  · exact ⟨i, hs.of_sameCore (hstep.sameCore hno)⟩
  · obtain ⟨new, hnew⟩ := not_forall_not.mp hno
    obtain ⟨horder, o, hx⟩ := hC new hnew
    obtain ⟨u, hu, hrepl⟩ := hnew.step hs hx
    obtain ⟨⟨j, hj, -⟩, -⟩ := hrepl.mpr horder
    have hcore : u.core = t.core := congrArg Prod.snd (hu.symm.trans hstep)
    exact ⟨j, hcore ▸ hj⟩

/-- In every state that refreshes with `Stop` first lead to, a core runs, and the next refresh
replaces it exactly when `Stop` runs first again. -/
theorem refresh_replaces_iff {s t : Standalone} {i : Nat} (hs : s.core.Runs i)
    (hrun : Run Standalone.Step Standalone.StopsFirst s t) :
    ∃ j, t.core.Runs j ∧ ∀ tick new o, t.Refreshes tick new → tick.Succeeds new.config o →
      ∃ u, t.Step tick u ∧ (Replaced t.core o u.core ↔ tick.order = .stopFirst) := by
  obtain ⟨j, hj⟩ := Standalone.run_runs hs hrun
  exact ⟨j, hj, fun tick new o h hx => h.step hj hx⟩

/-- A core that runs the text `{}`. -/
def standaloneCore : Standalone where
  core := (startService (refreshRequest "{}") {} {}).2
  current := { config := "{}", refreshInterval := 1, hiddifyConfigOptions := {} }

/-- The next tick reads another text. -/
def changedTick (order : RefreshOrder) : Tick where
  read := {
    content := .ok ("", 1)
    toJson := fun _ => .ok ⟨"\x7b\"log\":null\x7d", by decide⟩ }
  order := order

lemma standaloneCore_runs : standaloneCore.core.Runs 0 :=
  ⟨rfl, rfl, { options := {}, started := true }, rfl, rfl, rfl⟩

def changedResult : ConfigResult where
  config := "\x7b\"log\":null\x7d"
  refreshInterval := 1
  hiddifyConfigOptions := {}

/-- A tick that reads the empty configuration again. -/
def restoredTick : Tick where
  read := { content := .ok ("", 1) }
  order := .stopFirst

/-- The core after a first refresh, which stopped the old one before. -/
def refreshedCore : Standalone where
  core := (refresh standaloneCore.current (changedTick .stopFirst) standaloneCore.core).2
  current := changedResult

lemma changedTick_refreshes (order : RefreshOrder) :
    standaloneCore.Refreshes (changedTick order) changedResult :=
  ⟨⟨_, rfl⟩, by decide⟩

lemma changedTick_succeeds (order : RefreshOrder) :
    (changedTick order).Succeeds "\x7b\"log\":null\x7d" {} where
  stop := ⟨trivial, id, trivial, trivial⟩
  parse := rfl
  saveConfig := id
  newService := trivial
  boxStart := trivial

lemma changedTick_stopsFirst : standaloneCore.StopsFirst (changedTick .stopFirst) := by
  rintro new ⟨⟨s', hread⟩, -⟩
  have hnew : changedResult = new := Except.ok.inj (Exit.ret.inj (congrArg Prod.fst hread))
  exact hnew ▸ ⟨rfl, {}, changedTick_succeeds _⟩

/-- The second of two refreshes. -/
theorem refresh_replaces_iff_changedTick :
    ∃ u, refreshedCore.Step restoredTick u ∧ Replaced refreshedCore.core {} u.core := by
  have hrun : Run Standalone.Step Standalone.StopsFirst standaloneCore refreshedCore :=
    .single (changedTick .stopFirst) changedTick_stopsFirst rfl
  obtain ⟨j, -, h⟩ := refresh_replaces_iff standaloneCore_runs hrun
  obtain ⟨u, hu, hiff⟩ := h restoredTick
    { config := "\x7b\x7d", refreshInterval := 1, hiddifyConfigOptions := {} } {}
    ⟨⟨_, rfl⟩, by decide⟩ ⟨⟨trivial, id, trivial, trivial⟩, rfl, id, trivial, trivial⟩
  exact ⟨u, hu, hiff.mpr rfl⟩

/-- `StartService` first: the new core is closed, and nothing points to the old one. -/
theorem not_refresh_replaces :
    ¬ ∀ (s : Standalone) (i : Nat), s.core.Runs i →
      ∀ (tick : Tick) (new : ConfigResult) (o : Singbox.Options), s.Refreshes tick new →
        tick.Succeeds new.config o → ∃ u, s.Step tick u ∧ Replaced s.core o u.core := by
  intro h
  obtain ⟨u, hu, ⟨j, hj, -⟩, -⟩ := h standaloneCore 0 standaloneCore_runs
    (changedTick .startFirst) _ {} (changedTick_refreshes _) (changedTick_succeeds _)
  have hcore : u.core = (refresh standaloneCore.current (changedTick .startFirst)
    standaloneCore.core).2 := congrArg Prod.snd hu.symm
  have hstate := hj.coreState
  rw [hcore] at hstate
  exact absurd hstate (by decide)

end HiddifyCore.V2
