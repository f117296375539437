import HiddifyCore.V2.TunnelProcess

/-!
# Commands of the main process

`ActivateTunnelService` launches its request, `DeactivateTunnelService` launches it or waits for it,
and each request is one or two messages to the tunnel service, whose handlers launch requests of
their own. Nothing orders the messages of different requests. The last command wins when every
activation finds the service stopped and no request on its way, and no deactivation overtakes an
activation; otherwise there is an order of the messages in which it does not.
-/

namespace HiddifyCore.V2

open GoLib Config

inductive Command where
  | activate | deactivate
  deriving DecidableEq

/-- A launched request, with the message it sends next. -/
inductive Pending where
  /-- `startTunnelRequest`: a `Stop`, whose reply is ignored, and then the `Start`. -/
  | start (req : TunnelStartRequest) (stopped : Bool)
  | stop (a : Attempt)
  deriving DecidableEq

def Pending.IsStart : Pending → Prop
  | .start _ _ => True
  | .stop _ => False

/-- Every call of `Start` succeeds. -/
structure StartCalls.Succeeds (req : StartRequest) (x : StartCalls) : Prop where
  stop : x.stop.toAlertCalls.Succeeds
  setMemoryLimit : ¬ x.setMemoryLimit.IsPanic
  parse : (x.service.parse req.configContent).IsOk
  saveConfig : ¬ x.service.saveConfig.IsPanic
  newService : x.service.newService.IsOk
  boxStart : x.service.boxStart.IsOk

/-- The main process, the requests it has in flight, and the process of the tunnel service. -/
structure Commanded where
  tunnel : Tunnel := {}
  /-- The `stopTunnelRequest` that the main process waits for. -/
  waiting : Option Attempt := none
  inFlight : List Pending := []
  service : TunnelProcess := {}
  last : Option Command := none

inductive CommandEvent where
  | activate (opt : ConfigOptions)
  | deactivate
  /-- The next message of the request at position `i`. -/
  | deliver (i : Nat)
  /-- The next message of the request that is waited for. -/
  | deliverWaited
  /-- The next message of the request at position `i` of those of the service to itself. -/
  | deliverSelf (i : Nat)

namespace Commanded

/-- Replace the request at position `i` by what is left of it. -/
def settle (s : Commanded) (i : Nat) (rest : Option Pending) : Commanded :=
  { s with
    inFlight := match rest with
      | some p => s.inFlight.set i p
      | none => s.inFlight.eraseIdx i }

/-- A handler has left the core of the service in the state `t`. -/
def answered (s : Commanded) (t : Core) : Commanded := { s with service := s.service.served t }

def activate (s : Commanded) (opt : ConfigOptions) : Commanded :=
  { s with
    tunnel := activateTunnelService opt s.tunnel
    inFlight := s.inFlight ++ [.start (tunnelStartRequest opt) false]
    last := some .activate }

/-- `DeactivateTunnelService`, up to the reply it may wait for. -/
def deactivate (s : Commanded) : Commanded :=
  if s.tunnel.running then
    { s with waiting := some .first, last := some .deactivate }
  else
    { s with
      tunnel := (deactivateTunnelService (.ok ⟨⟩) s.tunnel).2
      inFlight := s.inFlight ++ [.stop .first]
      last := some .deactivate }

/-- The `Stop` that is waited for was answered, with an error or without. `DeactivateTunnelService`
returns with the error of the first one. -/
def replied (s : Commanded) (a : Attempt) (failed : Bool) : Commanded :=
  match a.next failed with
  | some a' => { s with waiting := some a' }
  | none =>
    let result : Outcome PUnit := if a = .second then .fail "instance not started" else .ok ⟨⟩
    { s with tunnel := (deactivateTunnelService result s.tunnel).2, waiting := none }

/-- A command, or a message to the service, whose calls do not fail. The main process issues no
command while it waits. -/
inductive Step (s : Commanded) : CommandEvent → Commanded → Prop where
  | activate {opt : ConfigOptions} (hw : s.waiting = none) : Step s (.activate opt) (s.activate opt)
  | deactivate (hw : s.waiting = none) : Step s .deactivate s.deactivate
  | startStop {i : Nat} {req : TunnelStartRequest} {x : StopCalls} {resp : TunnelResponse}
      {t : Core}
      (hi : s.inFlight[i]? = some (.start req false)) (hx : x.toAlertCalls.Succeeds)
      (h : TunnelService.stop x s.service.core = (.ret resp, t)) :
      Step s (.deliver i) ((s.settle i (some (.start req true))).answered t)
  | start {i : Nat} {req : TunnelStartRequest} {x : StartCalls} {resp : TunnelResponse} {t : Core}
      (hi : s.inFlight[i]? = some (.start req true)) (hx : x.Succeeds (tunnelCoreRequest req))
      (h : TunnelService.start req x s.service.core = (.ret resp, t)) :
      Step s (.deliver i) ((s.settle i none).answered t)
  | stop {i : Nat} {a : Attempt} {x : StopCalls} {resp : TunnelResponse} {t : Core}
      (hi : s.inFlight[i]? = some (.stop a)) (hx : x.toAlertCalls.Succeeds)
      (h : TunnelService.stop x s.service.core = (.ret resp, t)) :
      Step s (.deliver i) ((s.settle i ((a.next resp.err.isSome).map .stop)).answered t)
  | waited {a : Attempt} {x : StopCalls} {resp : TunnelResponse} {t : Core}
      (ha : s.waiting = some a) (hx : x.toAlertCalls.Succeeds)
      (h : TunnelService.stop x s.service.core = (.ret resp, t)) :
      Step s .deliverWaited ((s.replied a resp.err.isSome).answered t)
  | self {i : Nat} {a : Attempt} {x : StopCalls} {resp : TunnelResponse} {t : Core}
      (hi : s.service.inFlight[i]? = some a) (hx : x.toAlertCalls.Succeeds)
      (h : TunnelService.stop x s.service.core = (.ret resp, t)) :
      Step s (.deliverSelf i)
        { s with service := (s.service.delivered i (a.next resp.err.isSome)).served t }

/-- The core of the service runs. -/
def Serves (s : Commanded) : Prop := s.service.core.coreState = .started

/-- No request is left. -/
def Quiescent (s : Commanded) : Prop :=
  s.inFlight = [] ∧ s.waiting = none ∧ s.service.inFlight = []

/-- The core runs exactly when the last command was an activation. -/
def LastWins (s : Commanded) : Prop := s.Serves ↔ s.last = some .activate

/-- An activation is issued when the core is stopped and nothing in flight, and a deactivation when
no activation is in flight. -/
def Calm (s : Commanded) : CommandEvent → Prop
  | .activate _ => s.inFlight = [] ∧ s.service.inFlight = [] ∧ ¬ s.Serves
  | .deactivate => ∀ p ∈ s.inFlight, ¬ p.IsStart
  | _ => True

def IsCommand : CommandEvent → Prop
  | .activate _ => True
  | .deactivate => True
  | _ => False

/-- Only messages are delivered. -/
def Delivers (_ : Commanded) (e : CommandEvent) : Prop := ¬ IsCommand e

/-- No command was issued yet. -/
structure IsInitial (s : Commanded) : Prop where
  waiting : s.waiting = none
  inFlight : s.inFlight = []
  service : s.service.IsInitial
  last : s.last = none

end Commanded

/-! ### The handlers of a service that does not fail -/

/-- Between two messages the core either is stopped or can be, and the flag of its process is
down. -/
structure Core.Steady (s : Core) : Prop where
  state : s.coreState = .stopped ∨ s.Stoppable
  notRunning : s.tunnel.running = false

lemma Core.Steady.stoppable {s : Core} (h : s.Steady) (hs : s.coreState = .started) :
    s.Stoppable := by
  rcases h.state with h | h
  · rw [h] at hs
    cases hs
  · exact h

lemma Core.Steady.stopped {s : Core} (h : s.Steady) (hs : s.coreState ≠ .started) :
    s.coreState = .stopped := h.state.resolve_right fun h => hs h.1

lemma AlertCalls.succeeds_default : (({} : StopCalls).toAlertCalls).Succeeds :=
  ⟨trivial, id, trivial, trivial⟩

lemma StartCalls.succeeds_default (req : StartRequest) : ({} : StartCalls).Succeeds req :=
  ⟨AlertCalls.succeeds_default, id, trivial, id, trivial, trivial⟩

/-- What a `Stop` does: nothing to a stopped core, which it reports, and a running one is left
stopped with a request of the process to itself. -/
structure StopAnswer (s : Core) (resp : TunnelResponse) (t : Core) : Prop where
  steady : t.Steady
  stopped : t.coreState ≠ .started
  idle : s.coreState ≠ .started → t = s ∧ resp.err.isSome
  running : s.coreState = .started → launched s t ≠ [] ∧ resp.err = none

lemma stop_notStarted {x : StopCalls} {s : Core} (hs : s.coreState ≠ .started) :
    stop x s = (.ret (notStarted s), s) := by
  simp only [stop, deferPanicToError, Go.deferRecover, Go.bind_run, Go.get, if_pos hs, Go.pure_run]

lemma TunnelService.stop_answer {x : StopCalls} {s : Core} (hx : x.toAlertCalls.Succeeds)
    (hs : s.Steady) : ∃ resp t, TunnelService.stop x s = (.ret resp, t) ∧ StopAnswer s resp t := by
  by_cases hstate : s.coreState = .started
  · have hstop := hs.stoppable hstate
    obtain ⟨i, hi⟩ := Option.isSome_iff_exists.mp hstop.2
    obtain ⟨reply, t, hrun, herr, hstopped, -⟩ := stop_run hx hstate hi
    have hself : SelfStopped s t := (stop_selfStopped x hstop hs.notRunning).ret rfl hrun
    have hext := tunnelFrame.stop_within x s
    rw [hrun] at hext
    refine ⟨tunnelResponse reply, t, ?_, ⟨Or.inl hstopped, hext.1 hs.notRunning⟩, ?_, ?_, ?_⟩
    · simp only [TunnelService.stop, Go.bind_run, hrun, Go.pure_run]
    · rw [hstopped]
      decide
    · exact fun h => absurd hstate h
    · exact fun _ => ⟨launched_ne_nil hself, by simp only [tunnelResponse, herr]⟩
  · refine ⟨tunnelResponse (notStarted s), s, ?_, hs, hstate, ?_, ?_⟩
    · simp only [TunnelService.stop, Go.bind_run, stop_notStarted hstate, Go.pure_run]
    · exact fun _ => ⟨rfl, rfl⟩
    · exact fun h => absurd h hstate

/-- What a `Start` does: the core runs, and a request of the process to itself is left when it ran
before. -/
structure StartAnswer (s t : Core) : Prop where
  steady : t.Steady
  started : t.coreState = .started
  idle : s.coreState ≠ .started → launched s t = []
  running : s.coreState = .started → launched s t ≠ []

lemma ensureStopped_steady {x : StopCalls} {s : Core} (hx : x.toAlertCalls.Succeeds)
    (hs : s.Steady) : ∃ t, ensureStopped x s = (.ret ⟨⟩, t) ∧ (s.coreState ≠ .started → t = s) := by
  by_cases hstate : s.coreState = .started
  · obtain ⟨i, hi⟩ := Option.isSome_iff_exists.mp (hs.stoppable hstate).2
    obtain ⟨reply, t, hrun, -⟩ := stop_run hx hstate hi
    refine ⟨t, ?_, fun h => absurd hstate h⟩
    simp [ensureStopped, Go.bind_run, Go.get, Go.pure_run, hstate, hrun]
  · refine ⟨s, ?_, fun _ => rfl⟩
    simp [ensureStopped, Go.bind_run, Go.get, Go.pure_run, hs.stopped hstate]

lemma TunnelService.start_answer {req : TunnelStartRequest} {x : StartCalls} {s : Core}
    (hx : x.Succeeds (tunnelCoreRequest req)) (hs : s.Steady) :
    ∃ resp t, TunnelService.start req x s = (.ret resp, t) ∧ StartAnswer s t := by
  obtain ⟨o, hparse⟩ := hx.parse.exists_eq
  obtain ⟨⟨⟩, hlimit⟩ : ∃ a, x.setMemoryLimit = .ret a := by
    rcases h : x.setMemoryLimit with a | e
    · exact ⟨a, rfl⟩
    · exact absurd (h ▸ trivial) hx.setMemoryLimit
  obtain ⟨u, hu, hidle⟩ := ensureStopped_steady hx.stop hs
  obtain ⟨reply, t, hrun, -, hstate, hbox, -, htunnel⟩ := startService_run
    (s := u.setState .starting) (tunnelCoreRequest_isRaw req) hparse hx.saveConfig hx.newService
    hx.boxStart
  have hstart : V2.start (tunnelCoreRequest req) x s = (.ret reply, t) := by
    simp only [V2.start, deferPanicToError, Go.deferRecover, enterStarting, setCoreStatus,
      Go.bind_run, Go.modify, Go.callVoid, Go.pure_run, hu, hlimit, hrun]
  have hext := start_extends (tunnelCoreRequest_isRaw req) x s
  rw [hstart] at hext
  refine ⟨tunnelResponse reply, t, ?_, ⟨Or.inr ⟨hstate, ?_⟩, hext.1 hs.notRunning⟩, hstate, ?_, ?_⟩
  · simp only [TunnelService.start, Go.bind_run, hstart, Go.pure_run]
  · rw [hbox]
    rfl
  · intro h
    rw [hidle h] at htunnel
    exact launched_eq_nil htunnel
  · intro h
    exact launched_ne_nil ((start_selfStopped (tunnelCoreRequest_isRaw req) x (hs.stoppable h)
      hs.notRunning).ret rfl hstart)

/-- The answer of a `Stop` is determined. -/
lemma StopAnswer.of_run {x : StopCalls} {s t : Core} {resp : TunnelResponse}
    (hx : x.toAlertCalls.Succeeds) (hs : s.Steady) (h : TunnelService.stop x s = (.ret resp, t)) :
    StopAnswer s resp t := by
  obtain ⟨resp', t', hrun, hanswer⟩ := TunnelService.stop_answer hx hs
  cases h.symm.trans hrun
  exact hanswer

lemma StartAnswer.of_run {req : TunnelStartRequest} {x : StartCalls} {s t : Core}
    {resp : TunnelResponse} (hx : x.Succeeds (tunnelCoreRequest req)) (hs : s.Steady)
    (h : TunnelService.start req x s = (.ret resp, t)) : StartAnswer s t := by
  obtain ⟨resp', t', hrun, hanswer⟩ := TunnelService.start_answer hx hs
  cases h.symm.trans hrun
  exact hanswer

namespace Commanded

/-! ### Calm commands -/

/-- The requests in flight are those of the last command, and once they are gone the service is in
the state that it asked for. -/
structure Ordered (s : Commanded) : Prop where
  steady : s.service.core.Steady
  activated : s.last = some .activate → s.waiting = none ∧ s.service.inFlight = [] ∧
    ((s.inFlight = [] ∧ s.Serves) ∨ ∃ req stopped, s.inFlight = [.start req stopped] ∧ ¬ s.Serves)
  deactivated : s.last ≠ some .activate → (∀ p ∈ s.inFlight, ¬ p.IsStart) ∧
    (s.inFlight = [] → s.waiting = none → ¬ s.Serves)

lemma IsInitial.ordered {s : Commanded} (h : s.IsInitial) : s.Ordered := by
  refine ⟨⟨Or.inl h.service.core.coreState, by rw [h.service.tunnel]⟩, fun hlast => ?_, fun _ => ?_⟩
  · rw [h.last] at hlast
    cases hlast
  · refine ⟨by simp [h.inFlight], fun _ _ => ?_⟩
    rw [Serves, h.service.core.coreState]
    decide

lemma Ordered.lastWins {s : Commanded} (h : s.Ordered) (hq : s.Quiescent) : s.LastWins := by
  by_cases hlast : s.last = some .activate
  · rcases (h.activated hlast).2.2 with ⟨-, hserves⟩ | ⟨req, stopped, hflight, -⟩
    · exact iff_of_true hserves hlast
    · rw [hq.1] at hflight
      cases hflight
  · exact iff_of_false ((h.deactivated hlast).2 hq.1 hq.2.1) hlast

/-- A start in flight is that of the last command, and alone. -/
lemma Ordered.eq_start {s : Commanded} (h : s.Ordered) {p : Pending} (hp : p ∈ s.inFlight)
    (hstart : p.IsStart) :
    s.last = some .activate ∧ s.waiting = none ∧ s.service.inFlight = [] ∧ s.inFlight = [p] ∧
      ¬ s.Serves := by
  have hlast : s.last = some .activate := by
    by_contra hlast
    exact (h.deactivated hlast).1 p hp hstart
  obtain ⟨hwaiting, hself, ⟨hnil, -⟩ | ⟨req, stopped, hflight, hserves⟩⟩ := h.activated hlast
  · rw [hnil] at hp
    cases hp
  · rw [hflight] at hp
    rw [List.mem_singleton.mp hp]
    exact ⟨hlast, hwaiting, hself, hflight, hserves⟩

/-- A stop is in flight after a deactivation only. -/
lemma Ordered.last_of_stop {s : Commanded} (h : s.Ordered) {a : Attempt}
    (hp : .stop a ∈ s.inFlight) : s.last ≠ some .activate := by
  intro hlast
  obtain ⟨-, -, ⟨hnil, -⟩ | ⟨req, stopped, hflight, -⟩⟩ := h.activated hlast
  · rw [hnil] at hp
    cases hp
  · rw [hflight] at hp
    cases List.mem_singleton.mp hp

/-- After a deactivation any answered `Stop` keeps the order. -/
lemma Ordered.of_stopped {s : Commanded} (hsteady : s.service.core.Steady)
    (hlast : s.last ≠ some .activate) (hstops : ∀ p ∈ s.inFlight, ¬ p.IsStart)
    (hserves : ¬ s.Serves) : s.Ordered :=
  ⟨hsteady, fun h => absurd h hlast, fun _ => ⟨hstops, fun _ _ => hserves⟩⟩

lemma eq_zero_of_singleton {p q : Pending} {i : Nat} (h : [p][i]? = some q) : i = 0 :=
  Nat.lt_one_iff.mp (List.getElem?_eq_some_iff.mp h).1

/-- A handler that leaves the core as it was launches nothing. -/
lemma served_core (p : TunnelProcess) : p.served p.core = p := by
  simp [TunnelProcess.served, launched]

lemma Ordered.activate {s : Commanded} (h : s.Ordered) {opt : ConfigOptions}
    (hw : s.waiting = none) (hC : s.Calm (.activate opt)) : (s.activate opt).Ordered := by
  obtain ⟨hflight, hself, hserves⟩ := hC
  refine ⟨h.steady, fun _ => ⟨hw, hself, Or.inr ⟨tunnelStartRequest opt, false, ?_, hserves⟩⟩,
    fun hlast => ?_⟩
  · simp [Commanded.activate, hflight]
  · exact absurd rfl hlast

lemma Ordered.deactivate {s : Commanded} (h : s.Ordered) (hC : s.Calm .deactivate) :
    s.deactivate.Ordered := by
  simp only [Commanded.deactivate]
  split_ifs
  · refine ⟨h.steady, fun hlast => ?_, fun _ => ⟨hC, fun _ hw => ?_⟩⟩
    · cases hlast
    · cases hw
  · refine ⟨h.steady, fun hlast => ?_, fun _ => ⟨?_, fun hnil => ?_⟩⟩
    · cases hlast
    · intro p hp
      rcases List.mem_append.mp hp with hp | hp
      · exact hC p hp
      · rw [List.mem_singleton.mp hp]
        exact id
    · exact absurd hnil (by simp)

lemma replied_fields (s : Commanded) (a : Attempt) (failed : Bool) :
    (s.replied a failed).last = s.last ∧ (s.replied a failed).inFlight = s.inFlight ∧
      (s.replied a failed).service = s.service := by
  simp only [replied]
  split <;> exact ⟨rfl, rfl, rfl⟩

/-- What is left of a stop is a stop. -/
lemma settle_stops {s : Commanded} (h : ∀ p ∈ s.inFlight, ¬ p.IsStart) (i : Nat) (a : Attempt)
    (failed : Bool) : ∀ p ∈ (s.settle i ((a.next failed).map .stop)).inFlight, ¬ p.IsStart := by
  intro p hp
  cases hnext : a.next failed with
  | none =>
    rw [hnext] at hp
    exact h p (List.mem_of_mem_eraseIdx hp)
  | some a' =>
    rw [hnext] at hp
    rcases List.mem_or_eq_of_mem_set hp with hp | rfl
    · exact h p hp
    · exact id

lemma Step.ordered {s t : Commanded} {e : CommandEvent} (hstep : Step s e t) (h : s.Ordered)
    (hC : s.Calm e) : t.Ordered := by
  cases hstep with
  | activate hw => exact h.activate hw hC
  | deactivate => exact h.deactivate hC
  | @startStop i req x resp t hi hx hrun =>
    obtain ⟨hlast, hwaiting, hself, hflight, hserves⟩ :=
      h.eq_start (List.mem_of_getElem? hi) trivial
    obtain ⟨rfl, -⟩ := (StopAnswer.of_run hx h.steady hrun).idle hserves
    obtain rfl : i = 0 := eq_zero_of_singleton (hflight ▸ hi)
    refine ⟨h.steady, fun _ => ⟨hwaiting, ?_, Or.inr ⟨req, true, ?_, hserves⟩⟩, fun hnot => ?_⟩
    · simp [answered, settle, served_core, hself]
    · simp [answered, settle, hflight]
    · exact absurd hlast hnot
  | @start i req x resp t hi hx hrun =>
    obtain ⟨hlast, hwaiting, hself, hflight, hserves⟩ :=
      h.eq_start (List.mem_of_getElem? hi) trivial
    have hanswer := StartAnswer.of_run hx h.steady hrun
    obtain rfl : i = 0 := eq_zero_of_singleton (hflight ▸ hi)
    refine ⟨hanswer.steady, fun _ => ⟨hwaiting, ?_, Or.inl ⟨?_, hanswer.started⟩⟩, fun hnot => ?_⟩
    · simp [answered, settle, TunnelProcess.served, hself, hanswer.idle hserves]
    · simp [answered, settle, hflight]
    · exact absurd hlast hnot
  | stop hi hx hrun =>
    have hlast := h.last_of_stop (List.mem_of_getElem? hi)
    have hanswer := StopAnswer.of_run hx h.steady hrun
    exact .of_stopped hanswer.steady hlast (settle_stops (h.deactivated hlast).1 _ _ _)
      hanswer.stopped
  | @waited a x resp t ha hx hrun =>
    have hlast : s.last ≠ some .activate := by
      intro hlast
      rw [(h.activated hlast).1] at ha
      cases ha
    have hanswer := StopAnswer.of_run hx h.steady hrun
    obtain ⟨hlast', hflight', -⟩ := replied_fields s a resp.err.isSome
    refine .of_stopped hanswer.steady (fun hact => hlast (hlast'.symm.trans hact)) ?_
      hanswer.stopped
    exact fun p hp => (h.deactivated hlast).1 p (hflight' ▸ hp)
  | self hi hx hrun =>
    have hlast : s.last ≠ some .activate := by
      intro hlast
      rw [(h.activated hlast).2.1] at hi
      cases hi
    have hanswer := StopAnswer.of_run hx h.steady hrun
    exact .of_stopped hanswer.steady hlast (h.deactivated hlast).1 hanswer.stopped

lemma run_ordered {s t : Commanded} (hs : s.Ordered) (hrun : Run Step Calm s t) : t.Ordered :=
  hrun.invariant hs fun _ _ _ hI hC hstep => hstep.ordered hI hC

/-! ### An order that delivers everything -/

/-- What a message leaves alone. -/
structure Followed (s t : Commanded) : Prop where
  last : t.last = s.last
  waiting : s.waiting = none → t.waiting = none
  steady : t.service.core.Steady

lemma Step.followed {s t : Commanded} {e : CommandEvent} (hstep : Step s e t)
    (hs : s.service.core.Steady) (he : s.Delivers e) : Followed s t := by
  cases hstep with
  | activate _ => exact absurd trivial he
  | deactivate _ => exact absurd trivial he
  | startStop _ hx h => exact ⟨rfl, id, (StopAnswer.of_run hx hs h).steady⟩
  | start _ hx h => exact ⟨rfl, id, (StartAnswer.of_run hx hs h).steady⟩
  | stop _ hx h => exact ⟨rfl, id, (StopAnswer.of_run hx hs h).steady⟩
  | @waited a x resp t ha hx h =>
    refine ⟨(replied_fields s a _).1, fun hw => ?_, (StopAnswer.of_run hx hs h).steady⟩
    rw [hw] at ha
    cases ha
  | self _ hx h => exact ⟨rfl, id, (StopAnswer.of_run hx hs h).steady⟩

lemma run_followed {s t : Commanded} (hs : s.service.core.Steady) (hrun : Run Step Delivers s t) :
    Followed s t := by
  apply hrun.invariant (I := Followed s) ⟨rfl, id, hs⟩
  intro t e u ht he hstep
  have hu := hstep.followed ht.steady he
  exact ⟨hu.last.trans ht.last, fun hw => hu.waiting (ht.waiting hw), hu.steady⟩

lemma eraseIdx_length {α : Type} (l : List α) (a : α) : (l ++ [a]).eraseIdx l.length = l := by
  rw [List.eraseIdx_append_of_length_le le_rfl]
  simp

section Finish

variable {s : Commanded} (hs : s.service.core.Steady)
include hs

/-- The `Stop` of a start can be delivered. -/
lemma exists_startStop {i : Nat} {req : TunnelStartRequest}
    (hi : s.inFlight[i]? = some (.start req false)) :
    ∃ t, Run Step Delivers s t ∧ t.inFlight = s.inFlight.set i (.start req true) ∧
      (s.service.inFlight ≠ [] ∨ s.Serves → t.service.inFlight ≠ []) ∧
      (¬ s.Serves → t.service = s.service) := by
  obtain ⟨resp, t, hrun, hanswer⟩ := TunnelService.stop_answer AlertCalls.succeeds_default hs
  refine ⟨_, .single (.deliver i) id (.startStop hi AlertCalls.succeeds_default hrun), rfl, ?_, ?_⟩
  · rintro (hself | hserves)
    · simp [answered, settle, TunnelProcess.served, hself]
    · simp [answered, settle, TunnelProcess.served, (hanswer.running hserves).1]
  · intro hserves
    obtain ⟨rfl, -⟩ := hanswer.idle hserves
    exact served_core s.service

/-- The `Start` of a start can be delivered. -/
lemma exists_start {i : Nat} {req : TunnelStartRequest}
    (hi : s.inFlight[i]? = some (.start req true)) :
    ∃ t, Run Step Delivers s t ∧ t.inFlight = s.inFlight.eraseIdx i ∧ t.Serves ∧
      (s.service.inFlight ≠ [] ∨ s.Serves → t.service.inFlight ≠ []) ∧
      (¬ s.Serves → t.service.inFlight = s.service.inFlight) := by
  obtain ⟨resp, t, hrun, hanswer⟩ := TunnelService.start_answer
    (StartCalls.succeeds_default (tunnelCoreRequest req)) hs
  refine ⟨_, .single (.deliver i) id (.start hi (StartCalls.succeeds_default _) hrun), rfl,
    hanswer.started, ?_, ?_⟩
  · rintro (hself | hserves)
    · simp [answered, settle, TunnelProcess.served, hself]
    · simp [answered, settle, TunnelProcess.served, hanswer.running hserves]
  · intro hserves
    simp [answered, settle, TunnelProcess.served, hanswer.idle hserves]

/-- A start can be delivered up to its last message. It stops a running core, whose process then
sends itself a request. -/
lemma finish_start {i : Nat} {req : TunnelStartRequest} {stopped : Bool}
    (hi : s.inFlight[i]? = some (.start req stopped)) :
    ∃ t, Run Step Delivers s t ∧ t.inFlight = s.inFlight.eraseIdx i ∧ t.Serves ∧
      (s.service.inFlight ≠ [] ∨ s.Serves → t.service.inFlight ≠ []) ∧
      (¬ s.Serves → t.service.inFlight = s.service.inFlight) := by
  cases stopped with
  | true => exact exists_start hs hi
  | false =>
    have hlt : i < s.inFlight.length := (List.getElem?_eq_some_iff.mp hi).1
    obtain ⟨t, hrun, hflight, hself, hidle⟩ := exists_startStop hs hi
    have hi' : t.inFlight[i]? = some (.start req true) := by
      rw [hflight, List.getElem?_set_self hlt]
    obtain ⟨u, hrun', hflight', hserves, hself', hidle'⟩ :=
      exists_start (run_followed hs hrun).steady hi'
    refine ⟨u, hrun.trans hrun', ?_, hserves, fun h => hself' (Or.inl (hself h)), fun h => ?_⟩
    · rw [hflight', hflight, List.eraseIdx_set_eq]
    · have hservice := hidle h
      rw [hidle' (by rwa [Serves, hservice]), hservice]

/-- A stop can be delivered up to its last message. -/
lemma finish_stop {i : Nat} {a : Attempt} (hi : s.inFlight[i]? = some (.stop a)) :
    ∃ t, Run Step Delivers s t ∧ t.inFlight = s.inFlight.eraseIdx i ∧ ¬ t.Serves := by
  have hlt : i < s.inFlight.length := (List.getElem?_eq_some_iff.mp hi).1
  obtain ⟨resp, t, hrun, hanswer⟩ := TunnelService.stop_answer AlertCalls.succeeds_default hs
  have hstep : Step s (.deliver i) _ := .stop hi AlertCalls.succeeds_default hrun
  rcases hnext : a.next resp.err.isSome with _ | a'
  · rw [hnext] at hstep
    exact ⟨_, .single (.deliver i) id hstep, rfl, hanswer.stopped⟩
  · rw [hnext] at hstep
    obtain rfl : a' = .second := Attempt.eq_second_of_next hnext
    obtain ⟨resp', t', hrun', hanswer'⟩ :=
      TunnelService.stop_answer AlertCalls.succeeds_default hanswer.steady
    have hi' : ((s.settle i (some (.stop .second))).answered t).inFlight[i]?
        = some (.stop .second) := List.getElem?_set_self hlt
    have hstep' : Step _ (.deliver i) _ := .stop hi' AlertCalls.succeeds_default hrun'
    exact ⟨_, .tail (.single (.deliver i) id hstep) (.deliver i) id hstep', List.eraseIdx_set_eq,
      hanswer'.stopped⟩

omit hs in
lemma stop_idle (h : ¬ s.Serves) :
    TunnelService.stop {} s.service.core
      = (.ret (tunnelResponse (notStarted s.service.core)), s.service.core) := by
  simp only [TunnelService.stop, Go.bind_run, stop_notStarted h, Go.pure_run]

omit hs in
lemma answered_core {p : TunnelProcess} (h : s.service = p) : s.answered p.core = s := by
  rw [answered, ← h, served_core]

omit hs in
/-- A `Stop` of a stopped core only moves its own request on. -/
lemma Step.stop_idle {i : Nat} {a : Attempt} (hi : s.inFlight[i]? = some (.stop a))
    (h : ¬ s.Serves) : Step s (.deliver i) (s.settle i ((a.next true).map .stop)) := by
  have hstep := Step.stop hi AlertCalls.succeeds_default (Commanded.stop_idle h)
  have hcore := answered_core (s := s.settle i ((a.next true).map .stop)) (p := s.service) rfl
  exact hcore ▸ hstep

omit hs in
lemma Step.waited_idle {a : Attempt} (ha : s.waiting = some a) (h : ¬ s.Serves) :
    Step s .deliverWaited (s.replied a true) := by
  have hstep := Step.waited ha AlertCalls.succeeds_default (Commanded.stop_idle h)
  have hcore := answered_core (replied_fields s a true).2.2
  exact hcore ▸ hstep

omit hs in
lemma Step.self_idle {i : Nat} {a : Attempt} (hi : s.service.inFlight[i]? = some a)
    (h : ¬ s.Serves) :
    Step s (.deliverSelf i) { s with service := s.service.delivered i (a.next true) } := by
  have hstep := Step.self hi AlertCalls.succeeds_default (Commanded.stop_idle h)
  have hcore := served_core (s.service.delivered i (a.next true))
  exact hcore ▸ hstep

omit hs in
/-- The request of a deactivation can be delivered first, and leaves a stopped core as it is. -/
lemma finish_deactivate (hw : s.waiting = none) (h : ¬ s.Serves) :
    ∃ t, Run Step Delivers s.deactivate t ∧ t.inFlight = s.inFlight ∧ t.waiting = none ∧
      t.service = s.service := by
  simp only [deactivate]
  split_ifs
  · have h₁ := Step.waited_idle (s := { s with waiting := some .first, last := some .deactivate })
      rfl h
    have h₂ := Step.waited_idle (s := { s with waiting := some .second, last := some .deactivate })
      rfl h
    exact ⟨_, .tail (.single .deliverWaited id h₁) .deliverWaited id h₂, rfl, rfl, rfl⟩
  · have h₁ := Step.stop_idle (i := s.inFlight.length) (a := .first) (s := { s with
      tunnel := (deactivateTunnelService (.ok ⟨⟩) s.tunnel).2
      inFlight := s.inFlight ++ [.stop .first]
      last := some .deactivate }) (by simp) h
    have h₂ := Step.stop_idle (i := s.inFlight.length) (a := .second) (s := { s with
      tunnel := (deactivateTunnelService (.ok ⟨⟩) s.tunnel).2
      inFlight := (s.inFlight ++ [Pending.stop .first]).set s.inFlight.length (.stop .second)
      last := some .deactivate }) (by simp) h
    refine ⟨_, .tail (.single (.deliver _) id h₁) (.deliver _) id h₂, ?_, hw, rfl⟩
    simp [settle, eraseIdx_length]

omit hs in
/-- In front of a stopped core the requests of the service to itself can be delivered one after
another. -/
lemma flush_idle (h : ¬ s.Serves) : ∃ t, Run Step Delivers s t ∧ t.inFlight = s.inFlight ∧
    t.service.inFlight = [] ∧ ¬ t.Serves := by
  induction hself : s.service.inFlight generalizing s with
  | nil => exact ⟨s, .refl, rfl, hself, h⟩
  | cons a rest ih =>
    have h₁ : Step s (.deliverSelf 0) _ := .self_idle (a := a) (by rw [hself]; rfl) h
    cases a with
    | second =>
      obtain ⟨t, hrun, ht⟩ := ih (s := { s with service := s.service.delivered 0 none }) h
        (by simp [TunnelProcess.delivered, hself])
      exact ⟨t, (Run.single (.deliverSelf 0) id h₁).trans hrun, ht⟩
    | first =>
      -- its second `Stop` is now the last of the list
      have hflight : (s.service.delivered 0 (some .second)).inFlight = rest ++ [.second] := by
        simp [TunnelProcess.delivered, hself]
      have h₂ : Step { s with service := s.service.delivered 0 (some .second) }
          (.deliverSelf rest.length) _ := .self_idle (a := .second) (by simp [hflight]) h
      obtain ⟨t, hrun, ht⟩ := ih (s := { s with
          service := (s.service.delivered 0 (some .second)).delivered rest.length none }) h
        (by simp [TunnelProcess.delivered, hself, eraseIdx_length])
      exact ⟨t, (Run.tail (.single (.deliverSelf 0) id h₁) (.deliverSelf rest.length) id h₂).trans
        hrun, ht⟩

/-- The requests of the service to itself stop a running core when there are any. -/
lemma flush_self (h : s.Serves → s.service.inFlight ≠ []) :
    ∃ t, Run Step Delivers s t ∧ t.inFlight = s.inFlight ∧ t.service.inFlight = [] ∧
      ¬ t.Serves := by
  by_cases hserves : s.Serves
  · obtain ⟨a, rest, hself⟩ := List.exists_cons_of_ne_nil (h hserves)
    obtain ⟨resp, t, hrun, hanswer⟩ := TunnelService.stop_answer AlertCalls.succeeds_default hs
    have h₁ : Step s (.deliverSelf 0) _ :=
      .self (a := a) (by rw [hself]; rfl) AlertCalls.succeeds_default hrun
    obtain ⟨u, hrun', hflight, hu⟩ := flush_idle (s := { s with
      service := (s.service.delivered 0 (a.next resp.err.isSome)).served t }) hanswer.stopped
    exact ⟨u, (Run.single (.deliverSelf 0) id h₁).trans hrun', hflight, hu⟩
  · exact flush_idle hserves

end Finish

/-- Stops can be delivered one after another. -/
lemma flush_stops {s : Commanded} (hs : s.service.core.Steady)
    (hstops : ∀ p ∈ s.inFlight, ¬ p.IsStart) (h : s.Serves → s.service.inFlight ≠ []) :
    ∃ t, Run Step Delivers s t ∧ t.inFlight = [] ∧ t.service.inFlight = [] ∧ ¬ t.Serves := by
  induction hflight : s.inFlight generalizing s with
  | nil =>
    obtain ⟨t, hrun, hflight', ht⟩ := flush_self hs h
    exact ⟨t, hrun, hflight'.trans hflight, ht⟩
  | cons p rest ih =>
    rcases p with ⟨req, stopped⟩ | a
    · exact absurd trivial (hstops (.start req stopped) (by simp [hflight]))
    · have hp : s.inFlight[0]? = some (.stop a) := by
        rw [hflight]
        rfl
      obtain ⟨t, hrun, hflight', hserves⟩ := finish_stop hs hp
      rw [hflight, List.eraseIdx_cons_zero] at hflight'
      have hstops' : ∀ q ∈ t.inFlight, ¬ q.IsStart := by
        intro q hq
        rw [hflight'] at hq
        exact hstops q (hflight ▸ List.mem_cons_of_mem _ hq)
      obtain ⟨u, hrun', hu⟩ :=
        ih (run_followed hs hrun).steady hstops' (fun h => absurd h hserves) hflight'
      exact ⟨u, hrun.trans hrun', hu⟩

/-- The start that an activation launches can be delivered before everything else in flight. -/
lemma Ordered.exists_activate_loses {s : Commanded} (h : s.Ordered) (hw : s.waiting = none)
    {opt : ConfigOptions} (hC : ¬ s.Calm (.activate opt)) :
    ∃ u, Run Step Delivers (s.activate opt) u ∧ u.Quiescent ∧ ¬ u.LastWins := by
  have hi : (s.activate opt).inFlight[s.inFlight.length]?
      = some (.start (tunnelStartRequest opt) false) := by
    simp [Commanded.activate]
  obtain ⟨t, hrun, hflight, hserves, hself, -⟩ := finish_start (s := s.activate opt) h.steady hi
  have hflight' : t.inFlight = s.inFlight := hflight.trans (eraseIdx_length _ _)
  have hfollowed := run_followed (s := s.activate opt) h.steady hrun
  -- something in flight stops the core that the start left running
  obtain ⟨u, hrun', hnil, hnil', hserves'⟩ : ∃ u, Run Step Delivers t u ∧ u.inFlight = [] ∧
      u.service.inFlight = [] ∧ ¬ u.Serves := by
    rcases hs : s.inFlight with _ | ⟨p, rest⟩
    · have hself' : t.service.inFlight ≠ [] := by
        apply hself
        by_contra hnot
        rw [not_or, not_not] at hnot
        exact hC ⟨hs, hnot⟩
      rw [hs] at hflight'
      exact flush_stops hfollowed.steady (by simp [hflight']) fun _ => hself'
    have hp : p ∈ s.inFlight := hs ▸ List.mem_cons_self
    have hp' : t.inFlight[0]? = some p := by
      rw [hflight', hs]
      rfl
    have hrest : t.inFlight.eraseIdx 0 = rest := by
      rw [hflight', hs]
      rfl
    rcases p with ⟨req, stopped⟩ | a
    · obtain ⟨-, -, -, hsingle, -⟩ := h.eq_start hp trivial
      obtain rfl : rest = [] := by simpa [hs] using hsingle
      obtain ⟨v, hrun', hv, -, hself', -⟩ := finish_start hfollowed.steady hp'
      rw [hrest] at hv
      obtain ⟨u, hrun'', hu⟩ := flush_stops (run_followed hfollowed.steady hrun').steady
        (by simp [hv]) fun _ => hself' (Or.inr hserves)
      exact ⟨u, hrun'.trans hrun'', hu⟩
    · obtain ⟨v, hrun', hv, hserves'⟩ := finish_stop hfollowed.steady hp'
      rw [hrest] at hv
      have hstops : ∀ q ∈ v.inFlight, ¬ q.IsStart := by
        intro q hq
        rw [hv] at hq
        exact (h.deactivated (h.last_of_stop hp)).1 q (hs ▸ List.mem_cons_of_mem _ hq)
      obtain ⟨u, hrun'', hu⟩ := flush_stops (run_followed hfollowed.steady hrun').steady hstops
        fun h => absurd h hserves'
      exact ⟨u, hrun'.trans hrun'', hu⟩
  have hfollowed' := run_followed hfollowed.steady hrun'
  refine ⟨u, hrun.trans hrun', ⟨hnil, hfollowed'.waiting (hfollowed.waiting hw), hnil'⟩, ?_⟩
  intro hwins
  exact hserves' (hwins.mpr (hfollowed'.last.trans hfollowed.last))

/-- The stop that a deactivation sends can be delivered before the start in flight. -/
lemma Ordered.exists_deactivate_loses {s : Commanded} (h : s.Ordered) (hw : s.waiting = none)
    (hC : ¬ s.Calm .deactivate) :
    ∃ u, Run Step Delivers s.deactivate u ∧ u.Quiescent ∧ ¬ u.LastWins := by
  simp only [Calm, not_forall, not_not] at hC
  obtain ⟨p, hp, hstart⟩ := hC
  obtain ⟨-, -, hself, hsingle, hserves⟩ := h.eq_start hp hstart
  obtain ⟨t, hrun, hflight, hw', hservice⟩ := finish_deactivate hw hserves
  have hsteady : s.deactivate.service.core.Steady := by
    simp only [Commanded.deactivate]
    split_ifs <;> exact h.steady
  have hlast : s.deactivate.last = some .deactivate := by
    simp only [Commanded.deactivate]
    split_ifs <;> rfl
  have hfollowed := run_followed hsteady hrun
  rcases p with ⟨req, stopped⟩ | a
  · have hp' : t.inFlight[0]? = some (.start req stopped) := by
      rw [hflight, hsingle]
      rfl
    obtain ⟨u, hrun', hu, hserves', -, hidle⟩ := finish_start hfollowed.steady hp'
    have hfollowed' := run_followed hfollowed.steady hrun'
    refine ⟨u, hrun.trans hrun', ⟨?_, hfollowed'.waiting hw', ?_⟩, fun hwins => ?_⟩
    · rw [hu, hflight, hsingle]
      rfl
    · rw [hidle (by rwa [Serves, hservice]), hservice, hself]
    · have hbad := hwins.mp hserves'
      rw [hfollowed'.last, hfollowed.last, hlast] at hbad
      cases hbad
  · exact hstart.elim

lemma calm_of_delivers {s t : Commanded} (h : Run Step Delivers s t) : Run Step Calm s t := by
  apply h.mono
  intro s e he
  cases e with
  | activate opt => exact absurd trivial he
  | deactivate => exact absurd trivial he
  | deliver i => trivial
  | deliverWaited => trivial
  | deliverSelf i => trivial

/-- When every activation finds the service stopped with nothing in flight and every deactivation
no activation in flight, the last command wins; and the next command wins in every order of the
messages exactly when it is issued so too. -/
theorem lastWins_iff_calm {s₀ s : Commanded} (h₀ : s₀.IsInitial) (hrun : Run Step Calm s₀ s) :
    (s.Quiescent → s.LastWins) ∧
    ∀ e t, IsCommand e → Step s e t →
      ((∀ u, Run Step Delivers t u → u.Quiescent → u.LastWins) ↔ s.Calm e) := by
  have hs : s.Ordered := run_ordered h₀.ordered hrun
  refine ⟨hs.lastWins, ?_⟩
  intro e t hcommand hstep
  constructor
  · intro hwins
    by_contra hC
    cases hstep with
    | activate hw =>
      obtain ⟨u, hrun', hq, hloses⟩ := hs.exists_activate_loses hw hC
      exact hloses (hwins u hrun' hq)
    | deactivate hw =>
      obtain ⟨u, hrun', hq, hloses⟩ := hs.exists_deactivate_loses hw hC
      exact hloses (hwins u hrun' hq)
    | startStop _ _ _ => exact hcommand
    | start _ _ _ => exact hcommand
    | stop _ _ _ => exact hcommand
    | waited _ _ _ => exact hcommand
    | self _ _ _ => exact hcommand
  · intro hC u hrun' hq
    exact (run_ordered (hstep.ordered hs hC) (calm_of_delivers hrun')).lastWins hq

lemma initial : IsInitial {} := ⟨rfl, rfl, TunnelProcess.initial, rfl⟩

lemma calm_initial (opt : ConfigOptions) : Calm {} (.activate opt) :=
  ⟨rfl, rfl, fun h => by cases h⟩

/-- The only activation of a run wins. -/
theorem lastWins_iff_calm_first :
    ∃ t, Step {} (.activate {}) t ∧
      ∀ u, Run Step Delivers t u → u.Quiescent → u.LastWins := by
  have hstep : Step {} (.activate {}) _ := .activate rfl
  exact ⟨_, hstep,
    ((lastWins_iff_calm initial .refl).2 (.activate {}) _ trivial hstep).mpr (calm_initial {})⟩

/-- A build activates the service, fails, and `StopAndAlert` deactivates it before the start is
delivered: the core runs in the end. -/
theorem not_lastWins :
    ¬ ∀ s₀ s : Commanded, s₀.IsInitial → Run Step (fun _ _ => True) s₀ s → s.Quiescent →
      s.LastWins := by
  intro h
  have hactivate : Step {} (.activate {}) (Commanded.activate {} {}) := .activate rfl
  have hordered := hactivate.ordered initial.ordered (calm_initial {})
  obtain ⟨u, hrun, hq, hloses⟩ := hordered.exists_deactivate_loses rfl fun hC =>
    hC (.start (tunnelStartRequest {}) false) (by simp [Commanded.activate]) trivial
  have hcommands : Run Step (fun _ _ => True) {} (Commanded.activate {} {}).deactivate :=
    .tail (.single (.activate {}) trivial hactivate) .deactivate trivial (.deactivate rfl)
  exact hloses (h {} u initial (hcommands.trans (hrun.mono fun _ _ _ => trivial)) hq)

end Commanded

end HiddifyCore.V2
