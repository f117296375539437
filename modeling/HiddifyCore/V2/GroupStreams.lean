import Mathlib.Data.List.Induction
import Mathlib.Logic.Function.Basic
import HiddifyCore.GoLib.Panic
import HiddifyCore.GoLib.Run
import HiddifyCore.V2.Streams

/-!
# The two streams of outbound groups

`OutboundsInfo` and `MainOutboundsInfo` of `v2/commands.go` make one command client each, with
handlers of one type and without a logger. The handler does not know which of the clients it
serves: `WriteGroups` emits to the observers of both streams, and the other callbacks call a method
of the logger.
-/

namespace HiddifyCore.V2.GroupStreams

open GoLib

/-! ### The callbacks of the handler -/

/-- The fields of `libbox.StatusMessage` that are read. -/
structure StatusMessage where
  memory : Int64
  goroutines : Int32
  connectionsIn : Int32
  connectionsOut : Int32
  uplink : Int64
  downlink : Int64
  uplinkTotal : Int64
  downlinkTotal : Int64

/-- `pb.SystemInfo`. -/
structure SystemInfo where
  memory : Int64
  goroutines : Int32
  connectionsIn : Int32
  connectionsOut : Int32
  trafficAvailable : Bool := false
  uplink : Int64
  downlink : Int64
  uplinkTotal : Int64
  downlinkTotal : Int64

/-- The fields of `libbox.OutboundGroupItem` that are read. -/
structure GroupItem where
  tag : String
  type : String
  urlTestTime : Int64
  urlTestDelay : Int32

/-- The fields of `libbox.OutboundGroup` that are read. -/
structure Group where
  tag : String
  type : String
  selected : String
  items : List GroupItem

/-- `pb.OutboundGroupItem`. -/
structure OutboundGroupItem where
  tag : String
  type : String
  urlTestTime : Int64
  urlTestDelay : Int32
  deriving DecidableEq

/-- `pb.OutboundGroup`. -/
structure OutboundGroup where
  tag : String
  type : String
  selected : String
  items : List OutboundGroupItem
  deriving DecidableEq

/-- `pb.OutboundGroupList`. -/
structure OutboundGroupList where
  items : List OutboundGroup
  deriving DecidableEq

/-- What was emitted to each of the observers. -/
structure Observers where
  systemInfo : List SystemInfo := []
  outboundsInfo : List OutboundGroupList := []
  mainOutboundsInfo : List OutboundGroupList := []

structure CommandClientHandler where
  port : Int64 := 0
  /-- The name of the logger. -/
  logger : Option String := none

namespace CommandClientHandler

variable (cch : CommandClientHandler)

/-- A call of `cch.logger.Debug`. -/
def debug : Go Observers PUnit :=
  match cch.logger with
  | none => Go.panic "invalid memory address or nil pointer dereference"
  | some _ => pure ⟨⟩

def connected : Go Observers PUnit := cch.debug

def disconnected (_message : String) : Go Observers PUnit := cch.debug

def clearLog : Go Observers PUnit := cch.debug

def writeLog (_message : String) : Go Observers PUnit := cch.debug

def writeStatus (message : StatusMessage) : Go Observers PUnit := do
  let info : SystemInfo := {
    connectionsIn := message.connectionsIn
    connectionsOut := message.connectionsOut
    uplink := message.uplink
    downlink := message.downlink
    uplinkTotal := message.uplinkTotal
    downlinkTotal := message.downlinkTotal
    memory := message.memory
    goroutines := message.goroutines }
  Go.modify fun o => { o with systemInfo := o.systemInfo ++ [info] }
  cch.debug

def groupItem (item : GroupItem) : OutboundGroupItem where
  tag := item.tag
  type := item.type
  urlTestTime := item.urlTestTime
  urlTestDelay := item.urlTestDelay

def group (g : Group) : OutboundGroup where
  tag := g.tag
  type := g.type
  selected := g.selected
  items := g.items.map groupItem

/-- The loop over the iterator. -/
def groupList (message : List Group) : OutboundGroupList where
  items := message.map group

/-- The message may be nil. -/
def writeGroups (message : Option (List Group)) : Go Observers PUnit :=
  match message with
  | none => pure ⟨⟩
  | some message => do
    let groups := groupList message
    Go.modify fun o => { o with outboundsInfo := o.outboundsInfo ++ [groups] }
    Go.modify fun o => { o with mainOutboundsInfo := o.mainOutboundsInfo ++ [groups] }

def initializeClashMode (_modeList : List String) (_currentMode : String) : Go Observers PUnit :=
  cch.debug

def updateClashMode (_newMode : String) : Go Observers PUnit := cch.debug

end CommandClientHandler

/-- A call of libbox to the handler of a client. -/
inductive Callback where
  | connected
  | disconnected (message : String)
  | clearLog
  | writeLog (message : String)
  | writeStatus (message : StatusMessage)
  | writeGroups (message : Option (List Group))
  | initializeClashMode (modeList : List String) (currentMode : String)
  | updateClashMode (newMode : String)

def Callback.run (cch : CommandClientHandler) : Callback → Go Observers PUnit
  | .connected => cch.connected
  | .disconnected message => cch.disconnected message
  | .clearLog => cch.clearLog
  | .writeLog message => cch.writeLog message
  | .writeStatus message => cch.writeStatus message
  | .writeGroups message => CommandClientHandler.writeGroups message
  | .initializeClashMode modeList currentMode => cch.initializeClashMode modeList currentMode
  | .updateClashMode newMode => cch.updateClashMode newMode

/-! ### The streams -/

/-- `OutboundsInfo` with `groupClient`, or `MainOutboundsInfo` with `groupInfoOnlyClient`. -/
inductive Kind where
  | outboundsInfo | mainOutboundsInfo
  deriving DecidableEq

inductive Command where
  | group | groupInfoOnly

/-- `*libbox.CommandClient`. -/
structure CommandClient where
  handler : CommandClientHandler
  command : Command
  /-- In nanoseconds. -/
  statusInterval : Int64

/-- The client that the stream makes if there is none. -/
def Kind.newCommandClient : Kind → CommandClient
  | .outboundsInfo => { handler := {}, command := .group, statusInterval := 500000000 }
  | .mainOutboundsInfo => { handler := {}, command := .groupInfoOnly, statusInterval := 500000000 }

/-- What was emitted to the observer of the stream. -/
def Observers.of (o : Observers) : Kind → List OutboundGroupList
  | .outboundsInfo => o.outboundsInfo
  | .mainOutboundsInfo => o.mainOutboundsInfo

/-- An emission to the observer of the stream. -/
def Observers.emit (o : Observers) (groups : OutboundGroupList) : Kind → Observers
  | .outboundsInfo => { o with outboundsInfo := o.outboundsInfo ++ [groups] }
  | .mainOutboundsInfo => { o with mainOutboundsInfo := o.mainOutboundsInfo ++ [groups] }

structure State where
  client : Kind → Option CommandClient := fun _ => none
  observers : Observers := {}
  /-- For each subscription of a stream, the number of emissions before it. -/
  subscriptions : Kind → List Nat := fun _ => []
  /-- A callback has panicked, which ends the program. -/
  crashed : Bool := false

/-- A stream is opened in two steps, and callbacks come at any time. The loops of the streams do not
end, so no client is disconnected. -/
inductive Event where
  /-- `NewCommandClient` and `Connect`, if there is no client. -/
  | openStream (k : Kind)
  | subscribe (k : Kind)
  /-- From the client of the stream. -/
  | callback (k : Kind) (c : Callback)

def Event.kind : Event → Kind
  | .openStream k | .subscribe k | .callback k _ => k

def Event.subscribes (k : Kind) : Event → Bool
  | .subscribe k' => k' = k
  | .openStream _ | .callback _ _ => false

def State.next (s : State) (e : Event) : State :=
  if s.crashed then s
  else match e with
    | .openStream k =>
      match s.client k with
      | some _ => s
      | none => { s with client := Function.update s.client k (some k.newCommandClient) }
    | .subscribe k => { s with
        subscriptions := Function.update s.subscriptions k
          (s.subscriptions k ++ [(s.observers.of k).length]) }
    | .callback k c =>
      match s.client k with
      | none => s
      | some client => { s with
          observers := (c.run client.handler s.observers).2
          crashed := (c.run client.handler s.observers).1.IsPanic }

def after (events : List Event) : State := events.foldl State.next {}

/-- The client that the callback comes from was made, and the program runs. -/
def State.Delivers (s : State) (k : Kind) : Prop := s.crashed = false ∧ (s.client k).isSome

section Isolation

-- what an observer hands to a subscription of what is emitted behind it
variable (deliver : List OutboundGroupList → List OutboundGroupList)

/-- What the subscriptions of the stream have received. -/
def State.received (s : State) (k : Kind) : List (List OutboundGroupList) :=
  (s.subscriptions k).map fun before => deliver ((s.observers.of k).drop before)

/-- The events of one kind of stream. -/
def eventsOf (k : Kind) (events : List Event) : List Event := events.filter (·.kind = k)

structure Isolated (events : List Event) : Prop where
  /-- A message is emitted once to the observer of the stream, and to no other. -/
  once : ∀ pre e post, events = pre ++ e :: post → ∀ k message,
    e = .callback k (.writeGroups message) → (after pre).Delivers k →
      (after (pre ++ [e])).observers = message.elim (after pre).observers fun groups =>
        (after pre).observers.emit (CommandClientHandler.groupList groups) k
  /-- No callback dereferences a nil logger. -/
  safe : ∀ pre e post, events = pre ++ e :: post → ∀ k c,
    e = .callback k c → (after pre).Delivers k → (after (pre ++ [e])).crashed = false
  /-- The subscriptions of a stream receive what they would receive without the other stream. -/
  independent : ∀ k,
    (after events).received deliver k = (after (eventsOf k events)).received deliver k

/-- Nothing comes from the client of an opened stream but a nil for the groups. -/
def Quiet (events : List Event) : Prop :=
  ∀ pre e post, events = pre ++ e :: post → ∀ k c, e = .callback k c → .openStream k ∈ pre →
    c = .writeGroups none

variable {deliver} {events : List Event} {e : Event} {k : Kind} {c : Callback}

/-! ### Callbacks -/

/-- The clients of the streams have no logger. -/
lemma logger_newCommandClient (k : Kind) : k.newCommandClient.handler.logger = none := by
  cases k <;> rfl

lemma debug_of_logger {cch : CommandClientHandler} (h : cch.logger = none) (o : Observers) :
    (cch.debug o).1.IsPanic := by
  rw [CommandClientHandler.debug, h]
  exact trivial

/-- A callback writes groups, or it writes to the observer of the status at most and logs. -/
lemma run_cases (cch : CommandClientHandler) (c : Callback) :
    (∃ message, c = .writeGroups message) ∨
    (∀ message, c ≠ .writeGroups message) ∧ ∀ o : Observers, ∃ infos,
      c.run cch o = cch.debug { o with systemInfo := o.systemInfo ++ infos } := by
  have hnil (o : Observers) : { o with systemInfo := o.systemInfo ++ [] } = o := by
    rw [List.append_nil]
  cases c with
  | writeGroups message => exact .inl ⟨message, rfl⟩
  | writeStatus message => exact .inr ⟨by simp, fun o => ⟨[_], rfl⟩⟩
  | connected => exact .inr ⟨by simp, fun o => ⟨[], (hnil o).symm ▸ rfl⟩⟩
  | disconnected message => exact .inr ⟨by simp, fun o => ⟨[], (hnil o).symm ▸ rfl⟩⟩
  | clearLog => exact .inr ⟨by simp, fun o => ⟨[], (hnil o).symm ▸ rfl⟩⟩
  | writeLog message => exact .inr ⟨by simp, fun o => ⟨[], (hnil o).symm ▸ rfl⟩⟩
  | initializeClashMode modeList currentMode =>
    exact .inr ⟨by simp, fun o => ⟨[], (hnil o).symm ▸ rfl⟩⟩
  | updateClashMode newMode => exact .inr ⟨by simp, fun o => ⟨[], (hnil o).symm ▸ rfl⟩⟩

/-- A handler without a logger survives `WriteGroups` only. -/
lemma isPanic_run_iff {cch : CommandClientHandler} (h : cch.logger = none) (c : Callback)
    (o : Observers) : (c.run cch o).1.IsPanic ↔ ∀ message, c ≠ .writeGroups message := by
  rcases run_cases cch c with ⟨message, rfl⟩ | ⟨hne, hrun⟩
  · refine iff_of_false ?_ fun hne => hne message rfl
    cases message <;> exact id
  · obtain ⟨infos, hinfos⟩ := hrun o
    rw [hinfos]
    exact iff_of_true (debug_of_logger h _) hne

/-- A message is emitted to the observers of both streams. -/
lemma writeGroups_run (message : List Group) (o : Observers) :
    (CommandClientHandler.writeGroups (some message) o).2 =
      (o.emit (CommandClientHandler.groupList message) .outboundsInfo).emit
        (CommandClientHandler.groupList message) .mainOutboundsInfo := rfl

/-- Two emissions are not one. -/
lemma emit_emit_ne (o : Observers) (groups : OutboundGroupList) (k : Kind) :
    (o.emit groups .outboundsInfo).emit groups .mainOutboundsInfo ≠ o.emit groups k := by
  intro h
  cases k with
  | outboundsInfo =>
    have hmain := congrArg (·.mainOutboundsInfo.length) h
    simp [Observers.emit] at hmain
  | mainOutboundsInfo =>
    have hgroup := congrArg (·.outboundsInfo.length) h
    simp [Observers.emit] at hgroup

/-! ### Runs -/

lemma after_snoc (events : List Event) (e : Event) :
    after (events ++ [e]) = (after events).next e := by
  rw [after, List.foldl_append]
  rfl

/-- A callback writes to the observers of both streams or to none. -/
lemma mirrored_run (cch : CommandClientHandler) (c : Callback) {o : Observers}
    (h : o.outboundsInfo = o.mainOutboundsInfo) :
    (c.run cch o).2.outboundsInfo = (c.run cch o).2.mainOutboundsInfo := by
  have hdebug (o : Observers) : (cch.debug o).2 = o := by
    rw [CommandClientHandler.debug]
    cases cch.logger <;> rfl
  rcases run_cases cch c with ⟨_ | groups, rfl⟩ | ⟨-, hrun⟩
  · exact h
  · exact congrArg (· ++ [CommandClientHandler.groupList groups]) h
  · obtain ⟨infos, hinfos⟩ := hrun o
    rw [hinfos, hdebug]
    exact h

lemma quiet_snoc : Quiet (events ++ [e]) ↔ Quiet events ∧
    ∀ k c, e = .callback k c → .openStream k ∈ events → c = .writeGroups none :=
  forall_split_snoc

/-- What a quiet run leaves. -/
structure Silent (events : List Event) (s : State) : Prop where
  running : s.crashed = false
  observers : s.observers = {}
  made : ∀ k, .openStream k ∈ events → s.client k = some k.newCommandClient
  missing : ∀ k, .openStream k ∉ events → s.client k = none
  subscriptions : ∀ k, s.subscriptions k = List.replicate (events.countP (·.subscribes k)) 0

lemma Silent.delivers_iff {s : State} (h : Silent events s) (k : Kind) :
    s.Delivers k ↔ .openStream k ∈ events := by
  by_cases hopen : .openStream k ∈ events
  · exact iff_of_true ⟨h.running, by rw [h.made k hopen]; rfl⟩ hopen
  · refine iff_of_false (fun hdelivers => ?_) hopen
    have hclient := hdelivers.2
    rw [h.missing k hopen] at hclient
    cases hclient

/-- A stream keeps the client that there is, which is the one that it would make. -/
lemma Silent.next_openStream {s : State} (h : Silent events s) (k : Kind) :
    s.next (.openStream k) =
      { s with client := Function.update s.client k (some k.newCommandClient) } := by
  rw [State.next, if_neg (by simp [h.running])]
  by_cases hopen : .openStream k ∈ events
  · have hclient := h.made k hopen
    simp only [hclient]
    rw [Function.update_eq_self_iff.mpr hclient.symm]
  · simp only [h.missing k hopen]

lemma next_subscribe {s : State} (hs : s.crashed = false) (k : Kind) :
    s.next (.subscribe k) = { s with
      subscriptions := Function.update s.subscriptions k
        (s.subscriptions k ++ [(s.observers.of k).length]) } := by
  rw [State.next, if_neg (by simp [hs])]

/-- A callback that is not delivered changes nothing. -/
lemma next_callback_of_none {s : State} (h : s.client k = none) (c : Callback) :
    s.next (.callback k c) = s := by
  rw [State.next]
  split_ifs
  · rfl
  · simp only [h]

lemma next_callback_of_some {s : State} (hs : s.crashed = false) {client : CommandClient}
    (h : s.client k = some client) (c : Callback) :
    s.next (.callback k c) = { s with
      observers := (c.run client.handler s.observers).2
      crashed := (c.run client.handler s.observers).1.IsPanic } := by
  rw [State.next, if_neg (by simp [hs])]
  simp only [h]

/-- Whichever client a message comes from, the observers of the two streams have the same. -/
theorem mirrored_after (events : List Event) :
    (after events).observers.outboundsInfo = (after events).observers.mainOutboundsInfo := by
  induction events using List.reverseRecOn with
  | nil => rfl
  | append_singleton events e ih =>
    rw [after_snoc]
    cases hcrashed : (after events).crashed with
    | true =>
      rw [State.next.eq_def, if_pos hcrashed]
      exact ih
    | false =>
      cases e with
      | openStream k =>
        rw [State.next, if_neg (by simp [hcrashed])]
        split <;> exact ih
      | subscribe k =>
        rw [next_subscribe hcrashed]
        exact ih
      | callback k c =>
        cases hclient : (after events).client k with
        | none =>
          rw [next_callback_of_none hclient]
          exact ih
        | some client =>
          rw [next_callback_of_some hcrashed hclient]
          exact mirrored_run client.handler c ih

lemma Silent.next {s : State} (h : Silent events s)
    (hquiet : ∀ k c, e = .callback k c → .openStream k ∈ events → c = .writeGroups none) :
    Silent (events ++ [e]) (s.next e) := by
  cases e with
  | openStream k =>
    rw [h.next_openStream]
    refine ⟨h.running, h.observers, fun k' hk' => ?_, fun k' hk' => ?_, fun k' => ?_⟩
    · by_cases hne : k' = k
      · subst hne
        exact Function.update_self ..
      · have hmem : .openStream k' ∈ events := by simpa [hne] using hk'
        exact (Function.update_of_ne hne ..).trans (h.made k' hmem)
    · have hmem : .openStream k' ∉ events ∧ k' ≠ k := by simpa using hk'
      exact (Function.update_of_ne hmem.2 ..).trans (h.missing k' hmem.1)
    · rw [h.subscriptions, List.countP_append]
      rfl
  | subscribe k =>
    rw [next_subscribe h.running]
    refine ⟨h.running, h.observers, fun k' hk' => h.made k' (by simpa using hk'),
      fun k' hk' => h.missing k' (by simpa using hk'), fun k' => ?_⟩
    have hlength : (s.observers.of k).length = 0 := by
      rw [h.observers]
      cases k <;> rfl
    rw [List.countP_append, List.countP_singleton]
    by_cases hne : k' = k
    · subst hne
      simp [hlength, h.subscriptions, Event.subscribes, List.replicate_succ']
    · simp [Function.update_of_ne hne, h.subscriptions, Event.subscribes, Ne.symm hne]
  | callback k c =>
    have hnext : s.next (.callback k c) = s := by
      by_cases hopen : .openStream k ∈ events
      · obtain rfl := hquiet k c rfl hopen
        rw [next_callback_of_some h.running (h.made k hopen)]
        obtain ⟨client, observers, subscriptions, crashed⟩ := s
        obtain rfl : crashed = false := h.running
        rfl
      · exact next_callback_of_none (h.missing k hopen) c
    rw [hnext]
    refine ⟨h.running, h.observers, fun k' hk' => h.made k' (by simpa using hk'),
      fun k' hk' => h.missing k' (by simpa using hk'), fun k' => ?_⟩
    rw [h.subscriptions, List.countP_append]
    rfl

lemma silent_after (h : Quiet events) : Silent events (after events) := by
  induction events using List.reverseRecOn with
  | nil => exact ⟨rfl, rfl, by simp, fun _ _ => rfl, fun _ => rfl⟩
  | append_singleton events e ih =>
    obtain ⟨hevents, he⟩ := quiet_snoc.mp h
    rw [after_snoc]
    exact (ih hevents).next he

/-! ### The law -/

lemma quiet_eventsOf (k : Kind) (h : Quiet events) : Quiet (eventsOf k events) := by
  induction events using List.reverseRecOn with
  | nil => exact h
  | append_singleton events e ih =>
    obtain ⟨hevents, he⟩ := quiet_snoc.mp h
    rw [eventsOf, List.filter_append, List.filter_singleton, ← eventsOf]
    cases decide (e.kind = k) with
    | true =>
      refine quiet_snoc.mpr ⟨ih hevents, fun k' c hc hopen => he k' c hc ?_⟩
      exact (List.mem_filter.mp hopen).1
    | false =>
      rw [cond_false, List.append_nil]
      exact ih hevents

lemma countP_eventsOf (k : Kind) (events : List Event) :
    (eventsOf k events).countP (·.subscribes k) = events.countP (·.subscribes k) := by
  rw [eventsOf, List.countP_filter]
  refine List.countP_congr fun e _ => ?_
  cases e <;> simp [Event.subscribes, Event.kind, eq_comm]

/-- What the subscriptions of a quiet run receive depends on their number. -/
lemma Silent.received_eq {s : State} (h : Silent events s) (k : Kind) :
    s.received deliver k = List.replicate (events.countP (·.subscribes k)) (deliver []) := by
  have hempty : s.observers.of k = [] := by
    rw [h.observers]
    cases k <;> rfl
  rw [State.received, h.subscriptions, hempty, List.map_replicate]
  rfl

lemma isolated_of_quiet (h : Quiet events) : Isolated deliver events := by
  have hsilent (pre : List Event) (e : Event) (post : List Event)
      (heq : events = pre ++ e :: post) :
      Silent pre (after pre) ∧ Silent (pre ++ [e]) (after (pre ++ [e])) := by
    have hpre : Quiet (pre ++ [e]) := fun pre' e' post' heq' =>
      h pre' e' (post' ++ post) (by rw [heq, List.append_cons, heq', List.append_assoc]; rfl)
    exact ⟨silent_after (quiet_snoc.mp hpre).1, silent_after hpre⟩
  refine ⟨fun pre e post heq k message he hdelivers => ?_,
    fun pre e post heq k c he hdelivers => (hsilent pre e post heq).2.running, fun k => ?_⟩
  · obtain ⟨hpre, hnext⟩ := hsilent pre e post heq
    have hnone := h pre e post heq k _ he ((hpre.delivers_iff k).mp hdelivers)
    cases hnone
    rw [hnext.observers, hpre.observers]
    rfl
  · rw [(silent_after h).received_eq, (silent_after (quiet_eventsOf k h)).received_eq,
      countP_eventsOf]

/-- A callback that is delivered and carries something breaks the law. -/
lemma Silent.quiet_of_isolated {s : State} (h : Silent events s) (hopen : .openStream k ∈ events)
    (honce : ∀ message, c = .writeGroups message → (s.next (.callback k c)).observers =
      message.elim s.observers fun groups =>
        s.observers.emit (CommandClientHandler.groupList groups) k)
    (hsafe : (s.next (.callback k c)).crashed = false) : c = .writeGroups none := by
  rw [next_callback_of_some h.running (h.made k hopen)] at honce hsafe
  have hwrites : ∃ message, c = .writeGroups message := by
    by_contra hnot
    have hpanic := (isPanic_run_iff (logger_newCommandClient k) c s.observers).mpr
      (not_exists.mp hnot)
    exact absurd hpanic (of_decide_eq_false hsafe)
  obtain ⟨message, rfl⟩ := hwrites
  cases message with
  | none => rfl
  | some groups =>
    exact absurd ((writeGroups_run groups _).symm.trans (honce _ rfl)) (emit_emit_ne _ _ k)

/-- The streams are isolated while no callback of theirs carries anything. -/
theorem isolated_iff (deliver : List OutboundGroupList → List OutboundGroupList)
    (events : List Event) : Isolated deliver events ↔ Quiet events := by
  refine ⟨fun h => ?_, isolated_of_quiet⟩
  obtain ⟨honce, hsafe, -⟩ := h
  induction events using List.reverseRecOn with
  | nil => exact fun pre e post heq => by simp at heq
  | append_singleton events e ih =>
    obtain ⟨honce, hlastOnce⟩ := forall_split_snoc.mp honce
    obtain ⟨hsafe, hlastSafe⟩ := forall_split_snoc.mp hsafe
    have hevents := ih honce hsafe
    have hsilent := silent_after hevents
    refine quiet_snoc.mpr ⟨hevents, fun k c he hopen => ?_⟩
    subst he
    have hdelivers := (hsilent.delivers_iff k).mpr hopen
    rw [after_snoc] at hlastOnce hlastSafe
    exact hsilent.quiet_of_isolated hopen
      (fun message hmessage => hlastOnce k message (by rw [hmessage]) hdelivers)
      (hlastSafe k c rfl hdelivers)

end Isolation

/-- The groups of the stream `OutboundsInfo` reach the observer of `MainOutboundsInfo`. -/
theorem not_isolated : ¬ ∀ (deliver : List OutboundGroupList → List OutboundGroupList)
    (events : List Event), Isolated deliver events := by
  intro h
  let groups : List Group := [⟨"select", "Selector", "auto", []⟩]
  have honce := (h id [.openStream .outboundsInfo, .subscribe .outboundsInfo,
    .callback .outboundsInfo (.writeGroups (some groups))]).once
    [.openStream .outboundsInfo, .subscribe .outboundsInfo] _ [] rfl .outboundsInfo _ rfl ⟨rfl, rfl⟩
  have hmain := congrArg (·.mainOutboundsInfo.length) honce
  exact absurd hmain (by decide)

end HiddifyCore.V2.GroupStreams
