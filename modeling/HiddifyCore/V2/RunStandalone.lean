import HiddifyCore.V2.LostInstances
import HiddifyCore.V2.Standalone

/-!
# A run of the standalone mode

`RunStandalone` of `v2/standalone.go` up to its return. Behind the signal it stops the core that
`Box` points to. What still runs then are the cores that refreshes lost: those that a
`StartService` met because it ran before the `Stop` of its refresh (`runStandalone_live_iff`).
-/

namespace HiddifyCore.V2

open GoLib Config

/-- The calls of `RunStandalone`, and the ticks of the loop before the signal. -/
structure SessionCalls where
  read : ReadCalls
  service : StartServiceCalls := {}
  ticks : List Tick := []
  stop : StopCalls := {}

/-- `go StartService(...)` is one step, which returns before the first tick and the signal. -/
def runStandalone (defaultConfig : ConfigOptions) (x : SessionCalls) :
    Go Core (Option String) := do
  match ← readAndBuildConfig defaultConfig x.read with
  | .error e => pure (some e)
  | .ok current =>
    discard (startService (refreshRequest current.config) x.service)
    discard (updateConfigInterval current x.ticks)
    let reply ← stop x.stop
    pure reply.err

variable {s t : Core} {k : Nat}

/-! ### One refresh -/

lemma SameCore.lost_iff (h : SameCore s t) : t.Lost k ↔ s.Lost k := by
  simp only [Core.Lost, Core.Live, h.2.1, h.2.2]

lemma Shows.of_sameCore (hs : Shows s) (h : SameCore s t) : Shows t := by
  intro i hi hbox
  rw [h.1]
  refine hs i ?_ (h.2.2.symm.trans hbox)
  simpa only [Core.Live, h.2.1] using hi

/-- What is read and set up beside a raw configuration does not matter. -/
lemma StartServiceCalls.Succeeds.of_isRaw {x : StartServiceCalls} {req : StartRequest}
    (hreq : req.IsRaw) (h : x.Succeeds req s) : x.Succeeds req t where
  loads := by
    obtain ⟨content, parsed, built, hcontent, hparsed, hbuilt⟩ := h.loads
    refine ⟨content, parsed, built, hcontent, hparsed, ?_⟩
    simpa only [StartServiceCalls.built, hreq.raw, if_true] using hbuilt
  saves := h.saves
  serves := by simp [StartServiceCalls.server, hreq.server]
  creates := h.creates
  starts := h.starts
  publishes := by simp [hreq.server]

/-- The `StartService` of a refresh with this text. -/
def refreshOp (config : String) (x : RefreshCalls) : Op :=
  .startService (refreshRequest config) x.service

lemma leaks_of_sameCore {config : String} {x : RefreshCalls} (hconfig : config ≠ "")
    (h : SameCore s t) : (refreshOp config x).Leaks t ↔ (refreshOp config x).Leaks s := by
  have hreq := refreshRequest_isRaw hconfig
  simp only [refreshOp, Op.Leaks, Core.Live, h.2.1, h.2.2]
  exact and_congr_right fun _ => ⟨.of_isRaw hreq, .of_isRaw hreq⟩

/-- Only a `StartService` that runs first can lose a core: behind a `Stop`, whatever came of it,
`Box` points to no live one. -/
lemma replaceCore_lost_iff {order : RefreshOrder} {config : String} {x : RefreshCalls}
    (hs : Shows s) (h : replaceCore order config x s = (.ret ⟨⟩, t)) :
    (∀ k, t.Lost k ↔
      s.Lost k ∨ order = .startFirst ∧ (refreshOp config x).Leaks s ∧ s.box = some k) ∧
    Shows t := by
  cases order with
  | stopFirst =>
    obtain ⟨⟨⟩, u, hstop, hstart⟩ := Go.bind_eq_ret h
    have hstep : Step u (refreshOp config x) t := hstart
    obtain ⟨hlive, hlost, hu⟩ := Step.stop_live_iff (x := x.stop) hstop hs
    have hno : ¬ (refreshOp config x).Leaks u := by
      rintro ⟨⟨i, hbox, hi⟩, -⟩
      exact ((hlost i).mpr ((hlive i).mp hi)).2 hbox
    obtain ⟨ht, hshows⟩ := hstep.lost_of_not_leaks hu hno
    refine ⟨fun k => ?_, hshows⟩
    rw [ht, hlost]
    simp
  | startFirst =>
    obtain ⟨⟨⟩, u, hstart, hstop⟩ := Go.bind_eq_ret h
    have hstep : Step s (refreshOp config x) u := hstart
    obtain ⟨hu, hshows⟩ := hstep.lost_iff hs
    obtain ⟨-, hlost, ht⟩ := Step.stop_live_iff (x := x.stop) hstop hshows
    refine ⟨fun k => ?_, ht⟩
    rw [hlost, hu]
    simp

/-! ### The ticks -/

namespace Standalone

variable {p q : Standalone} {tick : Tick}

/-- The tick loses core `k`: its `StartService` runs first, and succeeds while `Box` points to `k`,
which is live. -/
def Loses (p : Standalone) (tick : Tick) (k : Nat) : Prop :=
  ∃ new, p.Refreshes tick new ∧ tick.order = .startFirst ∧
    (refreshOp new.config tick.toRefreshCalls).Leaks p.core ∧ p.core.box = some k

lemma Refreshes.unique {new new' : ConfigResult} (h : p.Refreshes tick new)
    (h' : p.Refreshes tick new') : new = new' := by
  obtain ⟨⟨u, hread⟩, -⟩ := h
  obtain ⟨⟨u', hread'⟩, -⟩ := h'
  cases hread.symm.trans hread'
  rfl

/-- A tick leaves the core alone, or replaces it. -/
lemma Step.cases (h : p.Step tick q) :
    ((∀ new, ¬ p.Refreshes tick new) ∧ SameCore p.core q.core) ∨
    ∃ new u, p.Refreshes tick new ∧ SameCore p.core u ∧
      replaceCore tick.order new.config tick.toRefreshCalls u = (.ret ⟨⟩, q.core) := by
  by_cases hno : ∀ new, ¬ p.Refreshes tick new
  · exact Or.inl ⟨hno, h.sameCore hno⟩
  obtain ⟨new, ⟨u, hread⟩, hne⟩ := not_forall_not.mp hno
  have hwithin := readAndBuildConfig_within p.current.hiddifyConfigOptions tick.read p.core
  rw [hread] at hwithin
  simp only [Step, refresh, Go.bind_run, hread, if_pos hne] at h
  obtain ⟨⟨⟩, v, hreplace, hpure⟩ := Go.bind_eq_ret h
  rw [(Prod.mk.inj hpure).2] at hreplace
  exact Or.inr ⟨new, u, ⟨⟨u, hread⟩, hne⟩, hwithin, hreplace⟩

lemma Step.lost_iff (h : p.Step tick q) (hp : Shows p.core) :
    (∀ k, q.core.Lost k ↔ p.core.Lost k ∨ p.Loses tick k) ∧ Shows q.core := by
  rcases h.cases with ⟨hno, hsame⟩ | ⟨new, u, hnew, hsame, hreplace⟩
  · refine ⟨fun k => ?_, hp.of_sameCore hsame⟩
    rw [hsame.lost_iff, or_iff_left]
    rintro ⟨new, hnew, -⟩
    exact hno new hnew
  obtain ⟨⟨v, hread⟩, -⟩ := id hnew
  obtain ⟨hlost, hshows⟩ := replaceCore_lost_iff (hp.of_sameCore hsame) hreplace
  refine ⟨fun k => ?_, hshows⟩
  rw [hlost, hsame.lost_iff, leaks_of_sameCore (readAndBuildConfig_config_ne hread) hsame,
    hsame.2.2]
  refine or_congr_right ⟨fun h => ⟨new, hnew, h⟩, ?_⟩
  rintro ⟨new', hnew', h⟩
  cases hnew.unique hnew'
  exact h

/-- The ticks of a run lose what its refreshes met, and no two of them the same core. -/
lemma ticks_lost_iff {record : List (Standalone × Tick)} (hp : Shows p.core)
    (h : Trace Step p record q) :
    (∀ k, q.core.Lost k ↔ p.core.Lost k ∨ ∃ call ∈ record, call.1.Loses call.2 k) ∧
      record.Pairwise (fun call later => ∀ k, call.1.Loses call.2 k → ¬ later.1.Loses later.2 k) ∧
      Shows q.core := by
  induction h with
  | nil => simpa using hp
  | @snoc done u v h tick hstep ih =>
    obtain ⟨hlost, honce, hu⟩ := ih
    obtain ⟨hv, hshows⟩ := hstep.lost_iff hu
    refine ⟨fun k => ?_, ?_, hshows⟩
    · rw [hv, hlost, or_assoc]
      simp only [List.mem_append, List.mem_singleton, or_and_right, exists_or, exists_eq_left]
    · rw [List.pairwise_append]
      refine ⟨honce, List.pairwise_singleton _ _, ?_⟩
      rintro call hcall _ hlast k hk ⟨-, -, -, -, hbox⟩
      obtain rfl := List.mem_singleton.mp hlast
      exact ((hlost k).mpr (Or.inr ⟨call, hcall, hk⟩)).2 hbox

end Standalone

lemma refreshLoop_trace {ticks : List Tick} {s t : Core} {current last : ConfigResult}
    (h : refreshLoop current ticks s = (.ret last, t)) :
    ∃ record, record.map Prod.snd = ticks ∧
      Trace Standalone.Step ⟨s, current⟩ record ⟨t, last⟩ := by
  induction ticks generalizing s current with
  | nil =>
    cases h
    exact ⟨[], rfl, .nil⟩
  | cons tick ticks ih =>
    obtain ⟨new, u, hstep, hrest⟩ := Go.bind_eq_ret h
    obtain ⟨record, hticks, hrecord⟩ := ih hrest
    have hfirst : Standalone.Step ⟨s, current⟩ tick ⟨u, new⟩ := hstep
    exact ⟨_, by rw [List.map_cons, hticks], hrecord.cons hfirst⟩

/-! ### The whole run -/

/-- The process once its first `StartService` has returned. -/
def Launched (defaultConfig : ConfigOptions) (x : SessionCalls) (s : Core) (p : Standalone) :
    Prop :=
  ∃ u reply, readAndBuildConfig defaultConfig x.read s = (.ret (.ok p.current), u) ∧
    startService (refreshRequest p.current.config) x.service u = (.ret reply, p.core)

/-- The ticks of the loop: without an interval it returns at once. -/
def Standalone.due (p : Standalone) (ticks : List Tick) : List Tick :=
  if p.current.refreshInterval ≤ 0 then [] else ticks

lemma updateConfigInterval_trace {p : Standalone} {ticks : List Tick} {last : ConfigResult}
    (h : updateConfigInterval p.current ticks p.core = (.ret last, t)) :
    ∃ record, record.map Prod.snd = p.due ticks ∧
      Trace Standalone.Step p record ⟨t, last⟩ := by
  simp only [updateConfigInterval] at h
  simp only [Standalone.due]
  split_ifs at h ⊢
  · cases h
    exact ⟨[], rfl, .nil⟩
  · exact refreshLoop_trace h

/-- The first core is started in a process where nothing runs. -/
lemma Launched.shows {defaultConfig : ConfigOptions} {x : SessionCalls} {p : Standalone}
    (hs : s.IsInitial) (hp : Launched defaultConfig x s p) :
    (∀ k, ¬ p.core.Lost k) ∧ Shows p.core := by
  obtain ⟨u, reply, hread, hstart⟩ := hp
  have hsame := readAndBuildConfig_within defaultConfig x.read s
  rw [hread] at hsame
  have hnone : NoLive u := by
    intro k hk
    refine hs.noLive k ?_
    have hinst : u.instances = s.instances := hsame.2.1
    simpa only [Core.Live, hinst] using hk
  have htidy : Tidy p.core := (startService_tidy _ _).ret hnone hstart
  exact ⟨fun k hk => hk.2 (htidy k hk.1).1, fun k hk _ => (htidy k hk).2⟩

/-- When `RunStandalone` returns, the cores that still run are those its refreshes lost, one for
each refresh that ran `StartService` first and with success while a core was running. It returns no
error exactly when the signal found a core that could be stopped and no `Close` failed. -/
theorem runStandalone_live_iff {defaultConfig : ConfigOptions} {x : SessionCalls} {p : Standalone}
    {err : Option String} (hs : s.IsInitial) (hp : Launched defaultConfig x s p)
    (h : runStandalone defaultConfig x s = (.ret err, t)) :
    ∃ record q, Trace Standalone.Step p record q ∧ record.map Prod.snd = p.due x.ticks ∧
      (∀ k, t.Live k ↔ ∃ call ∈ record, call.1.Loses call.2 k) ∧
      record.Pairwise (fun call later => ∀ k, call.1.Loses call.2 k → ¬ later.1.Loses later.2 k) ∧
      (err = none ↔ q.core.Stoppable ∧ ¬ x.stop.toAlertCalls.CloseFails q.core) := by
  obtain ⟨hnone, hshows⟩ := hp.shows hs
  obtain ⟨u, reply, hread, hstart⟩ := hp
  simp only [runStandalone, Go.bind_run, hread, discard_run hstart] at h
  obtain ⟨⟨⟩, v, hloop, h⟩ := Go.bind_eq_ret h
  obtain ⟨last, _, hloop, hpure⟩ := Go.bind_eq_ret hloop
  cases hpure
  obtain ⟨r, _, hstop, hpure⟩ := Go.bind_eq_ret h
  cases hpure
  obtain ⟨record, hticks, hrecord⟩ := updateConfigInterval_trace hloop
  obtain ⟨hlost, honce, hv⟩ := Standalone.ticks_lost_iff hshows hrecord
  obtain ⟨hlive, -⟩ := Step.stop_live_iff (x := x.stop) (discard_run hstop) hv
  refine ⟨record, _, hrecord, hticks, fun k => ?_, honce, ?_⟩
  · rw [hlive, hlost, or_iff_right (hnone k)]
  obtain ⟨-, hrefused, hstopped⟩ := (stop_triple x.stop v).ret rfl hstop
  by_cases hv : v.Stoppable
  · simp only [hv, true_and]
    exact (not_iff_comm.mp (hstopped hv).1).symm
  · exact iff_of_false (hrefused hv).1 fun h => hv h.1

/-- A refresh whose `StartService` runs first, and then the signal. -/
def reversedSession : SessionCalls where
  read := { content := .ok ("", 1) }
  ticks := [changedTick .startFirst]

theorem runStandalone_live_iff_reversed :
    ∃ p err t, Launched {} reversedSession {} p ∧
      runStandalone {} reversedSession {} = (.ret err, t) ∧
      ∃ record q, Trace Standalone.Step p record q ∧
        record.map Prod.snd = p.due [changedTick .startFirst] ∧
        (∀ k, t.Live k ↔ ∃ call ∈ record, call.1.Loses call.2 k) ∧
        record.Pairwise (fun call later =>
          ∀ k, call.1.Loses call.2 k → ¬ later.1.Loses later.2 k) ∧
        (err = none ↔ q.core.Stoppable ∧ ¬ ({} : AlertCalls).CloseFails q.core) := by
  have hp : Launched {} reversedSession {} ⟨_, ⟨"{}", 1, {}⟩⟩ := ⟨_, _, rfl, rfl⟩
  exact ⟨_, _, _, hp, rfl, runStandalone_live_iff ⟨rfl, rfl, rfl, rfl, rfl⟩ hp rfl⟩

end HiddifyCore.V2
