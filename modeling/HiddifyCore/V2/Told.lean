import Mathlib.Data.List.Chain
import HiddifyCore.V2.Announce
import HiddifyCore.V2.Frames

/-!
# What the listeners learn

However the operations are called, the state that was announced last is `CoreState`, and the
announced states follow each other in few ways (`Next`). The messages at the port of the Flutter
bridge arrive whole and say the same (`run_wellTold`).
-/

namespace HiddifyCore.V2

open GoLib Config JsonDecode

/-! ### Announced states -/

/-- The ways one announced state follows another. STARTED follows STARTING unless `StartService`
is called by itself. -/
inductive Next (direct : Prop) : CoreState → CoreState → Prop where
  | stopped (c : CoreState) : Next direct c .stopped
  | starting {c : CoreState} (h : c ≠ .starting) : Next direct c .starting
  | started {c : CoreState} (h : c = .starting ∨ direct) : Next direct c .started
  | stopping : Next direct .started .stopping

/-- The states of the core as its listeners know them. -/
def Announcer.states (a : Announcer) : List CoreState := .stopped :: a.infos.map (·.coreState)

/-- What the receiver at the port makes of a text. -/
def readStatus (text : String) : Option StatusMessage :=
  match unmarshal statusMessageCodec.decode text { status := "" } with
  | (m, none) => some m
  | _ => none

lemma readStatus_marshalStatus (m : StatusMessage) :
    readStatus (cString (marshalStatus m)) = some m := by
  rw [readStatus, unmarshal_marshalStatus]

/-- The messages that the receiver reads. -/
def Announcer.messages (a : Announcer) : List StatusMessage := a.texts.filterMap readStatus

/-- The message repeats the type and the text of an announcement of STOPPED. -/
def StatusMessage.AlertsOf (m : StatusMessage) (infos : List CoreInfoResponse) : Prop :=
  m.status = "Stopped" ∧ ∃ info ∈ infos, info.coreState = .stopped ∧
    m.alert = some info.messageType.string ∧ m.message = some info.message

/-- The announcements so far agree with the core and among each other. -/
structure WellTold (useFlutterBridge : Bool) (direct : Prop) (a : Announcer) : Prop where
  last : a.states.getLast? = some a.core.coreState
  chain : a.states.IsChain (Next direct)
  readable : a.messages.length = a.texts.length
  statuses : (a.messages.filter (·.alert = none)).map (·.status) =
    if useFlutterBridge then a.infos.map (convert2OldState ·.coreState) else []
  alerts : ∀ m ∈ a.messages, m.alert = none ∧ m.message = none ∨ m.AlertsOf a.infos

/-! ### Steps that announce nothing -/

def SameState (s t : Core) : Prop := t.coreState = s.coreState

lemma SameState.refl (s : Core) : SameState s s := rfl

lemma SameState.trans (s t u : Core) (hst : SameState s t) (htu : SameState t u) :
    SameState s u := Eq.trans htu hst

lemma sameState_callVoid_modify (o : Exit PUnit) {f : Core → Core} (h : ∀ s, SameState s (f s)) :
    Go.Within SameState (do Go.callVoid o; Go.modify f) :=
  .bind SameState.trans (.callVoid SameState.refl o) fun _ => .modify h

lemma sameState_modify_call {α : Type} (f : Core → Core) (h : ∀ s, SameState s (f s))
    (o : Outcome α) : Go.Within SameState (do Go.modify f; Go.call o) :=
  .bind SameState.trans (.modify h) fun _ => .call SameState.refl o

lemma sameState_deactivateTunnel (o : Outcome PUnit) :
    Go.Within SameState (deactivateTunnel o) := fun _ => rfl

lemma sameState_clearService (o : Exit PUnit) : Go.Within SameState (clearService o) :=
  clearService_of_serveServer SameState.refl SameState.trans (fun _ _ => rfl) o

lemma sameState_dropBox (o : Outcome PUnit) : Go.Within SameState (dropBox o) := by
  apply Go.Within.get_bind
  intro s
  cases s.box with
  | none => exact SameState.refl s
  | some i =>
    exact Go.Within.bind SameState.trans
      (sameState_modify_call (Core.closeInstance i) (fun _ => rfl) o)
      (fun _ => Go.Within.modify (f := Core.setBox none) fun _ => rfl) s

lemma sameState_closeLast (o : Outcome PUnit) : Go.Within SameState (do
    match (← Go.get).oldCommandServer with
    | none => pure ⟨⟩
    | some j =>
      let _ ← closeCommandServer j o
      pure ⟨⟩ : Go Core PUnit) := by
  apply Go.Within.get_bind
  intro s
  cases s.oldCommandServer with
  | none => exact SameState.refl s
  | some j =>
    exact Go.Within.bind SameState.trans
      (sameState_modify_call (Core.closeServer j) (fun _ => rfl) o)
      (fun _ => .pure SameState.refl _) s

lemma sameState_readContent (req : StartRequest) (x : StartServiceCalls) :
    Go.Within SameState (readContent req x) := by
  simp only [readContent]
  split_ifs
  · exact sameState_modify_call (Core.setPath req.configPath) (fun _ => rfl) _
  · exact .pure SameState.refl _

lemma sameState_buildContent (req : StartRequest) (parsed : Singbox.Options)
    (x : StartServiceCalls) : Go.Within SameState (buildContent req parsed x) := by
  simp only [buildContent]
  split_ifs
  · exact .pure SameState.refl _
  apply Go.Within.get_bind
  intro s
  cases s.configOptions with
  | none => exact SameState.refl s
  | some opt =>
    have hactivate : Go.Within SameState (activateTunnel opt) := by
      simp only [activateTunnel]
      split_ifs
      · exact .modify fun _ => rfl
      · exact .pure SameState.refl _
    exact Go.Within.bind SameState.trans hactivate (fun _ => .call SameState.refl _) s

lemma sameState_saveCurrentConfig (x : StartServiceCalls) :
    Go.Within SameState (saveCurrentConfig x) := by
  refine sameState_callVoid_modify _ fun s => ?_
  split_ifs <;> rfl

lemma sameState_startStep {α : Type} (f : Core → Core) (h : ∀ s, SameState s (f s))
    (o : Outcome PUnit) (a : α) : Go.Within SameState (do
      match ← Go.call o with
      | .error e => pure (.error e)
      | .ok _ =>
        Go.modify f
        pure (.ok a) : Go Core (Except String α)) := by
  refine .bind SameState.trans (.call SameState.refl o) fun r => ?_
  cases r with
  | error e => exact .pure SameState.refl _
  | ok u => exact .bind SameState.trans (.modify h) fun _ => .pure SameState.refl _

lemma sameState_commandServerStep (req : StartRequest) (x : StartServiceCalls) :
    Go.Within SameState (commandServerStep req x) := by
  simp only [commandServerStep]
  split_ifs
  · apply Go.Within.get_bind
    intro s
    split_ifs
    · refine Go.Within.bind SameState.trans (.get SameState.refl) (fun t => ?_) s
      exact .bind SameState.trans (.modify fun _ => rfl) fun _ =>
        sameState_startStep (Core.startServer _) (fun _ => rfl) _ _
    · exact SameState.refl s
  · exact .pure SameState.refl _

lemma sameState_newService (options : Singbox.Options) (o : Outcome PUnit) :
    Go.Within SameState (newService options o) := by
  refine .bind SameState.trans (.call SameState.refl o) fun r => ?_
  cases r with
  | error e => exact .pure SameState.refl _
  | ok u => exact Go.Within.get_bind fun _ => rfl

lemma sameState_serveBox (req : StartRequest) (i : Nat) (o : Exit PUnit) :
    Go.Within SameState (serveBox req i o) := by
  simp only [serveBox]
  split_ifs
  · apply Go.Within.get_bind
    intro s
    cases s.oldCommandServer with
    | none => exact SameState.refl s
    | some j =>
      exact sameState_callVoid_modify (f := Core.serveServer j (some i)) o (fun _ => rfl) s
  · exact .pure SameState.refl _

/-- The status and the announcements stay as they are. -/
def SameTold (a b : Announcer) : Prop :=
  b.core.coreState = a.core.coreState ∧ b.infos = a.infos ∧ b.texts = a.texts

lemma quiet_within {α : Type} {m : Go Core α} (h : Go.Within SameState m) :
    Go.Within SameTold (quiet m) := fun a => ⟨h a.core, rfl, rfl⟩

/-! ### One announcement -/

section Told

variable {useFlutterBridge : Bool} {direct : Prop}

lemma WellTold.of_same {a b : Announcer} (h : WellTold useFlutterBridge direct a)
    (hab : SameTold a b) : WellTold useFlutterBridge direct b := by
  obtain ⟨hstate, hinfos, htexts⟩ := hab
  have hstates : b.states = a.states := by rw [Announcer.states, Announcer.states, hinfos]
  have hmessages : b.messages = a.messages := by
    rw [Announcer.messages, Announcer.messages, htexts]
  constructor
  · rw [hstates, hstate, h.last]
  · rw [hstates]
    exact h.chain
  · rw [hmessages, htexts, h.readable]
  · rw [hmessages, hinfos, h.statuses]
  · rw [hmessages, hinfos]
    exact h.alerts

/-- The core is in the given state, and that was told. -/
def ToldAt (useFlutterBridge : Bool) (direct : Prop) (P : CoreState → Prop) (a : Announcer) :
    Prop := WellTold useFlutterBridge direct a ∧ P a.core.coreState

lemma quiet_told {α : Type} {m : Go Core α} (h : Go.Within SameState m) (P : CoreState → Prop) :
    Go.Triple (ToldAt useFlutterBridge direct P) (quiet m)
      (fun _ => ToldAt useFlutterBridge direct P) (WellTold useFlutterBridge direct) := by
  refine (Go.Triple.of_within (quiet_within h) fun a b ha hab => ?_).onPanic fun _ => And.left
  refine ⟨ha.1.of_same hab, ?_⟩
  rw [hab.1]
  exact ha.2

/-- The record behind `SetCoreStatus`. -/
def Announcer.announce (useFlutterBridge : Bool) (info : CoreInfoResponse) (a : Announcer) :
    Announcer :=
  let told := (a.setCore (a.core.setState info.coreState)).emit info
  if useFlutterBridge then
    told.post (cString (marshalStatus { status := convert2OldState info.coreState }))
  else told

lemma setCoreStatus_eq (state : CoreState) (msgType : MessageType) (message : String)
    (a : Announcer) : Announced.setCoreStatus useFlutterBridge state msgType message a =
      (.ret ⟨state, msgType, message⟩,
        a.announce useFlutterBridge ⟨state, msgType, message⟩) := rfl

lemma messages_post (m : StatusMessage) (a : Announcer) :
    (a.post (cString (marshalStatus m))).messages = a.messages ++ [m] := by
  simp [Announcer.messages, readStatus_marshalStatus]

@[simp] lemma announce_core (info : CoreInfoResponse) (a : Announcer) :
    (a.announce useFlutterBridge info).core = a.core.setState info.coreState := by
  simp only [Announcer.announce]
  split <;> rfl

@[simp] lemma announce_infos (info : CoreInfoResponse) (a : Announcer) :
    (a.announce useFlutterBridge info).infos = a.infos ++ [info] := by
  simp only [Announcer.announce]
  split <;> rfl

lemma announce_states (info : CoreInfoResponse) (a : Announcer) :
    (a.announce useFlutterBridge info).states = a.states ++ [info.coreState] := by
  simp [Announcer.states]

lemma announce_messages (info : CoreInfoResponse) (a : Announcer) :
    (a.announce useFlutterBridge info).messages =
      if useFlutterBridge then a.messages ++ [{ status := convert2OldState info.coreState }]
      else a.messages := by
  simp only [Announcer.announce]
  split_ifs
  · exact messages_post _ _
  · rfl

lemma announce_length_texts (info : CoreInfoResponse) (a : Announcer) :
    (a.announce useFlutterBridge info).texts.length =
      a.texts.length + if useFlutterBridge then 1 else 0 := by
  simp only [Announcer.announce]
  split_ifs <;> simp

lemma StatusMessage.AlertsOf.mono {m : StatusMessage} {infos later : List CoreInfoResponse}
    (h : m.AlertsOf infos) : m.AlertsOf (infos ++ later) := by
  obtain ⟨hstatus, info, hinfo, hrest⟩ := h
  exact ⟨hstatus, info, List.mem_append_left _ hinfo, hrest⟩

lemma WellTold.announce {a : Announcer} (h : WellTold useFlutterBridge direct a)
    {info : CoreInfoResponse} (hnext : Next direct a.core.coreState info.coreState) :
    WellTold useFlutterBridge direct (a.announce useFlutterBridge info) := by
  constructor
  · rw [announce_states, announce_core, List.getLast?_concat]
    rfl
  · rw [announce_states, List.isChain_append]
    refine ⟨h.chain, List.isChain_singleton _, ?_⟩
    intro c hc d hd
    rw [h.last, Option.mem_some_iff] at hc
    cases hc
    cases hd
    exact hnext
  · rw [announce_messages, announce_length_texts]
    split_ifs <;> simp [h.readable]
  · rw [announce_messages, announce_infos]
    have hstatuses := h.statuses
    split_ifs at hstatuses ⊢ <;> simp [hstatuses]
  · rw [announce_messages, announce_infos]
    intro m hm
    have hold : m ∈ a.messages →
        m.alert = none ∧ m.message = none ∨ m.AlertsOf (a.infos ++ [info]) :=
      fun hm => (h.alerts m hm).imp_right StatusMessage.AlertsOf.mono
    split_ifs at hm
    · rcases List.mem_append.mp hm with hm | hm
      · exact hold hm
      · rw [List.mem_singleton] at hm
        exact Or.inl (hm ▸ ⟨rfl, rfl⟩)
    · exact hold hm

/-- The alert of `StopAndAlert` repeats an announcement of STOPPED. -/
lemma WellTold.alert {a : Announcer} (h : WellTold useFlutterBridge direct a)
    {info : CoreInfoResponse} (hinfo : info ∈ a.infos) (hinfoState : info.coreState = .stopped)
    (hstate : a.core.coreState = .stopped) : WellTold useFlutterBridge direct
      (if useFlutterBridge then
        a.post (cString (marshalStatus { status := convert2OldState a.core.coreState,
                                         alert := some info.messageType.string,
                                         message := some info.message }))
      else a) := by
  split_ifs with hbridge
  · have hmessages := messages_post
      { status := convert2OldState a.core.coreState, alert := some info.messageType.string,
        message := some info.message } a
    refine ⟨h.last, h.chain, ?_, ?_, ?_⟩
    · rw [hmessages]
      simp [h.readable]
    · have hstatuses := h.statuses
      rw [hmessages]
      simp only [hbridge, if_true] at hstatuses ⊢
      simp [hstatuses]
    · rw [hmessages]
      intro m hm
      rcases List.mem_append.mp hm with hm | hm
      · exact h.alerts m hm
      · rw [List.mem_singleton] at hm
        subst hm
        refine Or.inr ⟨?_, info, hinfo, hinfoState, rfl, rfl⟩
        rw [hstate]
        rfl
  · exact h

/-! ### The operations -/

/-- What an operation leaves: the core is not in the middle of a start. -/
abbrev ToldEnd (useFlutterBridge : Bool) (direct : Prop) : Announcer → Prop :=
  ToldAt useFlutterBridge direct (· ≠ .starting)

lemma setCoreStatus_told {P : CoreState → Prop} {state : CoreState} (msgType : MessageType)
    (message : String) (hnext : ∀ c, P c → Next direct c state) :
    Go.Triple (ToldAt useFlutterBridge direct P)
      (Announced.setCoreStatus useFlutterBridge state msgType message)
      (fun _ => ToldAt useFlutterBridge direct (· = state))
      (WellTold useFlutterBridge direct) := by
  rintro a ⟨ha, hP⟩
  rw [setCoreStatus_eq]
  refine ⟨ha.announce (hnext _ hP), ?_⟩
  rw [announce_core]
  rfl

/-- What is true of the announcements at every time of `StopAndAlert` behind its `SetCoreStatus`. -/
def Alerting (useFlutterBridge : Bool) (direct : Prop) (info : CoreInfoResponse) (a : Announcer) :
    Prop := WellTold useFlutterBridge direct a ∧ info ∈ a.infos ∧ a.core.coreState = .stopped

lemma quiet_alerting {α : Type} {m : Go Core α} (h : Go.Within SameState m)
    (info : CoreInfoResponse) :
    Go.Triple (Alerting useFlutterBridge direct info) (quiet m)
      (fun _ => Alerting useFlutterBridge direct info) (WellTold useFlutterBridge direct) := by
  refine (Go.Triple.of_within (quiet_within h) fun a b ha hab => ?_).onPanic fun _ => And.left
  obtain ⟨htold, hinfo, hstate⟩ := ha
  exact ⟨htold.of_same hab, by rwa [hab.2.1], by rwa [hab.1]⟩

lemma sendStatus_alerting (info : CoreInfoResponse) (hinfo : info.coreState = .stopped) :
    Go.Triple (Alerting useFlutterBridge direct info)
      (Announced.sendStatus useFlutterBridge (some info.messageType.string) (some info.message))
      (fun _ => ToldAt useFlutterBridge direct (· = .stopped))
      (WellTold useFlutterBridge direct) := by
  rintro a ⟨ha, hmem, hstate⟩
  refine ⟨ha.alert hmem hinfo hstate, ?_⟩
  rw [Announced.sendStatus_core]
  exact hstate

lemma stopAndAlert_told (msgType : MessageType) (message : String) (x : AlertCalls) :
    Go.Triple (WellTold useFlutterBridge direct)
      (Announced.stopAndAlert useFlutterBridge msgType message x)
      (fun _ => ToldAt useFlutterBridge direct (· = .stopped))
      (WellTold useFlutterBridge direct) := by
  have hfirst : Go.Triple (WellTold useFlutterBridge direct)
      (Announced.setCoreStatus useFlutterBridge .stopped msgType message)
      (fun _ => Alerting useFlutterBridge direct ⟨.stopped, msgType, message⟩)
      (WellTold useFlutterBridge direct) := by
    intro a ha
    rw [setCoreStatus_eq]
    exact ⟨ha.announce (.stopped _), by simp, by simp⟩
  refine hfirst.bind fun _ => ?_
  refine (quiet_alerting (sameState_deactivateTunnel _) _).bind fun _ => ?_
  refine (quiet_alerting (sameState_clearService _) _).bind fun _ => ?_
  refine (quiet_alerting (sameState_dropBox _) _).bind fun _ => ?_
  refine (quiet_alerting (sameState_closeLast _) _).bind fun _ => ?_
  exact sendStatus_alerting ⟨.stopped, msgType, message⟩ rfl

lemma deferPanicToError_told {P : Announcer → Prop} {name : String} {x : AlertCalls}
    {body : Go Announcer Reply}
    (h : Go.Triple P body (fun _ => ToldEnd useFlutterBridge direct)
      (WellTold useFlutterBridge direct)) :
    Go.Triple P (Announced.deferPanicToError useFlutterBridge name x body)
      (fun _ => ToldEnd useFlutterBridge direct) (WellTold useFlutterBridge direct) := by
  refine .deferRecover h fun _ => (stopAndAlert_told _ _ x).post ?_
  rintro _ a ⟨ha, hstate⟩
  exact ⟨ha, by simp [hstate]⟩

lemma failStart_told (msgType : MessageType) (err : String) (x : AlertCalls) :
    Go.Triple (WellTold useFlutterBridge direct)
      (Announced.failStart useFlutterBridge msgType err x)
      (fun _ => ToldEnd useFlutterBridge direct) (WellTold useFlutterBridge direct) := by
  refine ((setCoreStatus_told (P := fun _ => True) msgType err fun c _ => .stopped c).pre
    fun a ha => ⟨ha, trivial⟩).bind fun _ => ?_
  refine ((stopAndAlert_told _ _ x).pre fun _ => And.left).bind fun _ => .pure ?_
  rintro a ⟨ha, hstate⟩
  exact ⟨ha, by simp [hstate]⟩

section StartService

variable {P : CoreState → Prop}

lemma attempt_told {α : Type} {step : Go Core (Except String α)} (hstep : Go.Within SameState step)
    {msgType : MessageType} {x : AlertCalls} {next : α → Go Announcer Reply}
    (hnext : ∀ a, Go.Triple (ToldAt useFlutterBridge direct P) (next a)
      (fun _ => ToldEnd useFlutterBridge direct) (WellTold useFlutterBridge direct)) :
    Go.Triple (ToldAt useFlutterBridge direct P)
      (Announced.attempt useFlutterBridge step msgType x next)
      (fun _ => ToldEnd useFlutterBridge direct) (WellTold useFlutterBridge direct) := by
  refine (quiet_told hstep P).bind fun r => ?_
  cases r with
  | error e => exact (failStart_told msgType e x).pre fun _ => And.left
  | ok a => exact hnext a

lemma publish_told (hP : ∀ c, P c → c = .starting ∨ direct) (req : StartRequest) (i : Nat)
    (o : Exit PUnit) :
    Go.Triple (ToldAt useFlutterBridge direct P) (Announced.publish useFlutterBridge req i o)
      (fun _ => ToldEnd useFlutterBridge direct) (WellTold useFlutterBridge direct) := by
  refine (quiet_told (.modify (f := Core.setBox (some i)) fun _ => rfl) P).bind fun _ => ?_
  refine (quiet_told (sameState_serveBox req i o) P).bind fun _ => ?_
  refine (setCoreStatus_told _ _ fun c hc => .started (hP c hc)).bind fun _ => .pure ?_
  rintro a ⟨ha, hstate⟩
  exact ⟨ha, by simp [hstate]⟩

lemma startService_told (hP : ∀ c, P c → c = .starting ∨ direct) (req : StartRequest)
    (x : StartServiceCalls) :
    Go.Triple (ToldAt useFlutterBridge direct P) (Announced.startService useFlutterBridge req x)
      (fun _ => ToldEnd useFlutterBridge direct) (WellTold useFlutterBridge direct) := by
  apply attempt_told (sameState_readContent req x)
  intro content
  apply attempt_told (.call SameState.refl _)
  intro parsed
  apply attempt_told (sameState_buildContent req parsed x)
  intro built
  refine (quiet_told (sameState_saveCurrentConfig x) P).bind fun _ => ?_
  apply attempt_told (sameState_commandServerStep req x)
  intro _
  apply attempt_told (sameState_newService built _)
  intro i
  apply attempt_told (sameState_startStep (Core.startInstance i) (fun _ => rfl) _ _)
  intro _
  exact publish_told hP req i _

end StartService

lemma enterStarting_told (req : StartRequest) (x : StartCalls) :
    Go.Triple (ToldEnd useFlutterBridge direct) (Announced.enterStarting useFlutterBridge req x)
      (fun _ => ToldEnd useFlutterBridge direct) (WellTold useFlutterBridge direct) := by
  refine (setCoreStatus_told _ _ fun _ hc => .starting hc).bind fun _ => ?_
  refine (quiet_told (.callVoid SameState.refl _) _).bind fun _ => ?_
  exact startService_told (fun _ => Or.inl) req x.service

lemma stopServer_told (x : AlertCalls) :
    Go.Triple (ToldEnd useFlutterBridge direct) (Announced.stopServer useFlutterBridge x)
      (fun _ => ToldEnd useFlutterBridge direct) (WellTold useFlutterBridge direct) := by
  have hstopped : Go.Triple (ToldEnd useFlutterBridge direct) (do
      let resp ← Announced.setCoreStatus useFlutterBridge .stopped .empty ""
      pure { resp := some resp } : Go Announcer Reply)
      (fun _ => ToldEnd useFlutterBridge direct) (WellTold useFlutterBridge direct) := by
    refine (setCoreStatus_told _ _ fun c _ => .stopped c).bind fun _ => .pure ?_
    rintro a ⟨ha, hstate⟩
    exact ⟨ha, by simp [hstate]⟩
  refine (quiet_told (.modify (f := Core.setBox none) fun _ => rfl) _).bind fun _ => ?_
  apply Go.Triple.get_bind
  intro a ha
  cases a.core.oldCommandServer with
  | none => exact hstopped.pre fun _ => (· ▸ ha)
  | some j =>
    refine Go.Triple.bind ((quiet_told (sameState_modify_call (Core.closeServer j) (fun _ => rfl)
      x.serverClose) _).pre fun _ => (· ▸ ha)) fun r => ?_
    cases r with
    | error e => exact .get_bind fun b hb => .pure fun _ => (· ▸ hb)
    | ok u =>
      exact (quiet_told (.modify (f := Core.setServer none) fun _ => rfl) _).bind fun _ => hstopped

lemma stopBox_told (i : Nat) (x : AlertCalls) :
    Go.Triple (ToldAt useFlutterBridge direct (· = .started))
      (Announced.stopBox useFlutterBridge i x)
      (fun _ => ToldEnd useFlutterBridge direct) (WellTold useFlutterBridge direct) := by
  have hfirst : Go.Triple (ToldAt useFlutterBridge direct (· = .started))
      (Announced.setCoreStatus useFlutterBridge .stopping .empty "")
      (fun _ => ToldEnd useFlutterBridge direct) (WellTold useFlutterBridge direct) := by
    refine (setCoreStatus_told _ _ ?_).post ?_
    · rintro _ rfl
      exact .stopping
    · rintro _ a ⟨ha, hstate⟩
      exact ⟨ha, by simp [hstate]⟩
  refine hfirst.bind fun _ => ?_
  refine (quiet_told (sameState_deactivateTunnel _) _).bind fun _ => ?_
  refine (quiet_told (sameState_clearService _) _).bind fun _ => ?_
  refine (quiet_told (sameState_modify_call (Core.closeInstance i) (fun _ => rfl) _) _).bind
    fun r => ?_
  cases r with
  | error e => exact .get_bind fun b hb => .pure fun _ => (· ▸ hb)
  | ok u => exact stopServer_told x

lemma stop_told (x : StopCalls) :
    Go.Triple (ToldEnd useFlutterBridge direct) (Announced.stop useFlutterBridge x)
      (fun _ => ToldEnd useFlutterBridge direct) (WellTold useFlutterBridge direct) := by
  apply deferPanicToError_told
  apply Go.Triple.get_bind
  intro a ha
  split_ifs with hstate
  · exact .pure fun _ => (· ▸ ha)
  cases a.core.box with
  | none => exact .pure fun _ => (· ▸ ha)
  | some i => exact (stopBox_told i _).pre fun b hb => hb ▸ ⟨ha.1, not_not.mp hstate⟩

lemma start_told (req : StartRequest) (x : StartCalls) :
    Go.Triple (ToldEnd useFlutterBridge direct) (Announced.start useFlutterBridge req x)
      (fun _ => ToldEnd useFlutterBridge direct) (WellTold useFlutterBridge direct) := by
  apply deferPanicToError_told
  refine Go.Triple.bind ?_ fun _ => enterStarting_told req x
  apply Go.Triple.get_bind
  intro a ha
  split_ifs
  · exact ((stop_told x.stop).pre fun _ => (· ▸ ha)).bind fun _ => .pure fun _ => id
  · exact .pure fun _ => (· ▸ ha)

lemma restart_told (req : StartRequest) (x : StartCalls) :
    Go.Triple (ToldEnd useFlutterBridge direct) (Announced.restart useFlutterBridge req x)
      (fun _ => ToldEnd useFlutterBridge direct) (WellTold useFlutterBridge direct) := by
  apply deferPanicToError_told
  apply Go.Triple.get_bind
  intro a ha
  split_ifs
  · exact .pure fun _ => (· ▸ ha)
  cases a.core.box with
  | none => exact .pure fun _ => (· ▸ ha)
  | some i =>
    refine Go.Triple.bind ((stop_told x.stop).pre fun _ => (· ▸ ha)) fun reply => ?_
    split_ifs
    · exact .pure fun _ => id
    · exact enterStarting_told req x

lemma serviceReload_told (x : ReloadCalls) :
    Go.Triple (ToldEnd useFlutterBridge direct) (Announced.serviceReload useFlutterBridge x)
      (fun _ => ToldEnd useFlutterBridge direct) (WellTold useFlutterBridge direct) := by
  refine (setCoreStatus_told _ _ fun _ hc => .starting hc).bind fun _ => ?_
  refine (quiet_told (sameState_clearService _) _).bind fun _ => ?_
  refine (quiet_told (.modify (f := Core.setServer none) fun _ => rfl) _).bind fun _ => ?_
  refine (quiet_told (sameState_dropBox _) _).bind fun _ => ?_
  exact (startService_told (fun _ => Or.inl) reloadRequest x.service).bind fun _ =>
    .pure fun _ => id

/-! ### Runs -/

/-- The call is one of `StartService` by itself. -/
def Op.IsStartService : Op → Prop
  | .startService .. => True
  | _ => False

lemma exec_told {op : Op} (hop : op.IsStartService → direct) :
    Go.Triple (ToldEnd useFlutterBridge direct) (Announced.exec useFlutterBridge op)
      (fun _ => ToldEnd useFlutterBridge direct) (WellTold useFlutterBridge direct) := by
  have hdiscard {α : Type} {m : Go Announcer α} (h : Go.Triple (ToldEnd useFlutterBridge direct) m
      (fun _ => ToldEnd useFlutterBridge direct) (WellTold useFlutterBridge direct)) :
      Go.Triple (ToldEnd useFlutterBridge direct) (do let _ ← m; pure ⟨⟩ : Go Announcer PUnit)
        (fun _ => ToldEnd useFlutterBridge direct) (WellTold useFlutterBridge direct) :=
    h.bind fun _ => .pure fun _ => id
  cases op with
  | start req x => exact hdiscard (start_told req x)
  | startService req x =>
    exact hdiscard (startService_told (fun _ _ => Or.inr (hop trivial)) req x)
  | stop x => exact hdiscard (stop_told x)
  | restart req x => exact hdiscard (restart_told req x)
  | stopAndAlert msgType message x =>
    refine ((stopAndAlert_told msgType message x).pre fun _ => And.left).post ?_
    rintro _ a ⟨ha, hstate⟩
    exact ⟨ha, by simp [hstate]⟩
  | serviceReload x => exact hdiscard (serviceReload_told x)

/-- A new process, in which nothing was announced. -/
structure Announcer.IsInitial (a : Announcer) : Prop where
  core : a.core.IsInitial
  infos : a.infos = []
  texts : a.texts = []

lemma Announcer.IsInitial.toldEnd {a : Announcer} (h : a.IsInitial) :
    ToldEnd useFlutterBridge direct a := by
  have hmessages : a.messages = [] := by rw [messages, h.texts, List.filterMap_nil]
  have hstates : a.states = [.stopped] := by rw [states, h.infos, List.map_nil]
  refine ⟨⟨?_, ?_, ?_, ?_, ?_⟩, ?_⟩
  · rw [hstates, h.core.coreState, List.getLast?_singleton]
  · rw [hstates]
    exact List.isChain_singleton _
  · rw [hmessages, h.texts]
    rfl
  · rw [hmessages, h.infos]
    simp
  · simp [hmessages]
  · simp [h.core.coreState]

/-- In every run, which is one of the core, the announced states end with the state of the core,
follow each other as `Next` says, and are what the receiver at the port reads. -/
theorem run_wellTold {a b : Announcer} (ha : a.IsInitial)
    (hrun : Run (Announced.Step useFlutterBridge) (fun _ op => op.IsStartService → direct) a b) :
    Run V2.Step (fun _ op => op.IsStartService → direct) a.core b.core ∧
      WellTold useFlutterBridge direct b := by
  refine ⟨Announced.run_iff.mpr ⟨b, hrun, rfl⟩, ?_⟩
  exact (hrun.invariant (I := ToldEnd useFlutterBridge direct) ha.toldEnd
    fun _ _ _ hI hC hstep => (exec_told hC).ret hI hstep).1

end Told

theorem run_wellTold_start_stop :
    Run V2.Step (fun _ op => op.IsStartService → False) {} (Announced.exec true (.stop {})
        (Announced.exec true (.start rawRequest {}) {}).2).2.core ∧
      WellTold true False (Announced.exec true (.stop {})
        (Announced.exec true (.start rawRequest {}) {}).2).2 := by
  apply run_wellTold (a := {}) ⟨⟨rfl, rfl, rfl, rfl, rfl⟩, rfl, rfl⟩
  exact .tail (.single (.start rawRequest {}) id rfl) (.stop {}) id rfl

/-! ### The reply of Start -/

section Replies

variable {useFlutterBridge : Bool}

/-- What `StopAndAlert` announces for an error. -/
def alertInfo (err : String) : CoreInfoResponse := ⟨.stopped, .unexpectedError, err⟩

/-- The type of a failed step of `StartService`. -/
def MessageType.IsStepError (t : MessageType) : Prop :=
  t ∈ [.errorReadingConfig, .errorParsingConfig, .errorBuildingConfig, .startCommandServer,
    .createService, .startService]

/-- What `StartService` has announced when it returns a reply. The type of the failed step is
announced, and at once overwritten. -/
inductive ServiceReply : Reply → List CoreInfoResponse → Prop where
  | started : ServiceReply { resp := some ⟨.started, .empty, ""⟩ } [⟨.started, .empty, ""⟩]
  | failed {t : MessageType} (ht : t.IsStepError) (err : String) :
    ServiceReply { resp := some ⟨.stopped, t, err⟩, err := some err }
      [⟨.stopped, t, err⟩, alertInfo err]

/-- Every UNEXPECTED_ERROR is that of a panic in `Stop`, or has the text of a failed step. -/
def NoStartPanic (told : List CoreInfoResponse) : Prop :=
  ∀ info ∈ told, info.messageType = .unexpectedError →
    (∃ panic, info.message = "stop panic: " ++ panic) ∨
      ∃ t : MessageType, t.IsStepError ∧ ⟨.stopped, t, info.message⟩ ∈ told

/-- What `Start` has announced when it returns a reply. A recovered panic is returned as no reply
and no error, and its announcement is the only sign of it. -/
inductive StartReply : Reply → List CoreInfoResponse → Prop where
  | service {reply : Reply} {told : List CoreInfoResponse} (before : List CoreInfoResponse)
    (h : ServiceReply reply told) : StartReply reply (before ++ ⟨.starting, .empty, ""⟩ :: told)
  | recovered {before : List CoreInfoResponse} (h : NoStartPanic before) (panic : String) :
    StartReply {} (before ++ [alertInfo ("start panic: " ++ panic)])

lemma MessageType.IsStepError.ne {t : MessageType} (h : t.IsStepError) : t ≠ .unexpectedError := by
  rintro rfl
  simp [MessageType.IsStepError] at h

namespace NoStartPanic

variable {told later : List CoreInfoResponse}

lemma append (h : NoStartPanic told) (hlater : NoStartPanic later) :
    NoStartPanic (told ++ later) := by
  intro info hinfo htype
  rcases List.mem_append.mp hinfo with hinfo | hinfo
  · refine (h info hinfo htype).imp_right ?_
    rintro ⟨t, ht, hmem⟩
    exact ⟨t, ht, List.mem_append_left later hmem⟩
  · refine (hlater info hinfo htype).imp_right ?_
    rintro ⟨t, ht, hmem⟩
    exact ⟨t, ht, List.mem_append_right told hmem⟩

lemma nil : NoStartPanic [] := fun _ h => absurd h List.not_mem_nil

lemma singleton {info : CoreInfoResponse} (h : info.messageType ≠ .unexpectedError) :
    NoStartPanic [info] := by
  intro info' hinfo htype
  rw [List.mem_singleton.mp hinfo] at htype
  exact absurd htype h

lemma stopPanic (panic : String) : NoStartPanic [alertInfo ("stop panic: " ++ panic)] := by
  intro info hinfo _
  rw [List.mem_singleton.mp hinfo]
  exact .inl ⟨panic, rfl⟩

end NoStartPanic

/-- The announcements of a failed step. -/
lemma MessageType.IsStepError.noStartPanic {t : MessageType} (h : t.IsStepError) (err : String) :
    NoStartPanic [⟨.stopped, t, err⟩, alertInfo err] := by
  intro info hinfo htype
  rcases List.mem_cons.mp hinfo with rfl | hinfo
  · exact absurd htype h.ne
  · rw [List.mem_singleton.mp hinfo]
    exact .inr ⟨t, h, List.mem_cons_self⟩

/-- The announcements behind the given ones. -/
def ToldSince (before : List CoreInfoResponse) (told : List CoreInfoResponse → Prop)
    (a : Announcer) : Prop := ∃ later, a.infos = before ++ later ∧ told later

abbrev Since (before : List CoreInfoResponse) : Announcer → Prop :=
  ToldSince before NoStartPanic

variable {before : List CoreInfoResponse}

lemma ToldSince.mono {P Q : List CoreInfoResponse → Prop} (h : ∀ told, P told → Q told)
    (a : Announcer) (ha : ToldSince before P a) : ToldSince before Q a := by
  obtain ⟨told, htold, hP⟩ := ha
  exact ⟨told, htold, h told hP⟩

lemma quiet_since {α : Type} (m : Go Core α) (P : List CoreInfoResponse → Prop) :
    Go.Triple (ToldSince before P) (quiet m) (fun _ => ToldSince before P) (ToldSince before P) :=
  .of_within (S := fun a b => b.infos = a.infos) (fun _ => rfl)
    fun _ _ ha hab => by rwa [ToldSince, hab]

lemma setCoreStatus_since {P Q : List CoreInfoResponse → Prop} {R : Announcer → Prop}
    (state : CoreState) (msgType : MessageType) (message : String)
    (h : ∀ told, P told → Q (told ++ [⟨state, msgType, message⟩])) :
    Go.Triple (ToldSince before P)
      (Announced.setCoreStatus useFlutterBridge state msgType message)
      (fun info a => info = ⟨state, msgType, message⟩ ∧ ToldSince before Q a) R := by
  rintro a ⟨told, htold, hP⟩
  rw [setCoreStatus_eq]
  refine ⟨rfl, told ++ [⟨state, msgType, message⟩], ?_, h told hP⟩
  rw [announce_infos, htold, List.append_assoc]

lemma sendStatus_infos (alert message : Option String) (a : Announcer) :
    (Announced.sendStatus useFlutterBridge alert message a).2.infos = a.infos := by
  simp only [Announced.sendStatus, Go.modify]
  split <;> rfl

lemma stopAndAlert_since {P Q : List CoreInfoResponse → Prop} (msgType : MessageType)
    (message : String) (x : AlertCalls)
    (h : ∀ told, P told → Q (told ++ [⟨.stopped, msgType, message⟩])) :
    Go.Triple (ToldSince before P) (Announced.stopAndAlert useFlutterBridge msgType message x)
      (fun _ => ToldSince before Q) (ToldSince before Q) := by
  refine (setCoreStatus_since .stopped msgType message h).bind fun _ => ?_
  refine ((quiet_since _ Q).pre fun _ => And.right).bind fun _ => ?_
  refine (quiet_since _ Q).bind fun _ => (quiet_since _ Q).bind fun _ => ?_
  refine (quiet_since _ Q).bind fun _ => ?_
  intro a ha
  change ToldSince before Q
    (Announced.sendStatus useFlutterBridge (some msgType.string) (some message) a).2
  rwa [ToldSince, sendStatus_infos]

/-- The announcements of a computation that ends in some reply. -/
abbrev Replies (told : Reply → List CoreInfoResponse → Prop) (P : List CoreInfoResponse → Prop)
    (before : List CoreInfoResponse) (m : Go Announcer Reply) : Prop :=
  Go.Triple (ToldSince before P) m (fun reply => ToldSince before (told reply)) (Since before)

/-! ### The reply of StartService -/

lemma failStart_replies {t : MessageType} (ht : t.IsStepError) (err : String) (x : AlertCalls) :
    Replies ServiceReply (· = []) before (Announced.failStart useFlutterBridge t err x) := by
  refine (setCoreStatus_since (Q := (· = [⟨.stopped, t, err⟩])) .stopped t err ?_).bind
    fun info => ?_
  · rintro _ rfl
    rfl
  refine Go.Triple.assume ?_
  rintro rfl
  have halert : Go.Triple (ToldSince before (· = [⟨.stopped, t, err⟩]))
      (Announced.stopAndAlert useFlutterBridge .unexpectedError err x)
      (fun _ => ToldSince before (· = [⟨.stopped, t, err⟩, alertInfo err])) (Since before) := by
    refine (stopAndAlert_since .unexpectedError err x ?_).onPanic (ToldSince.mono ?_)
    · rintro _ rfl
      rfl
    · rintro _ rfl
      exact ht.noStartPanic err
  refine halert.bind fun _ => .pure ?_
  rintro a ⟨_, ha, rfl⟩
  exact ⟨_, ha, .failed ht err⟩

lemma quiet_starts {α : Type} (m : Go Core α) :
    Go.Triple (ToldSince before (· = [])) (quiet m) (fun _ => ToldSince before (· = []))
      (Since before) := by
  refine (quiet_since m _).onPanic (ToldSince.mono ?_)
  rintro _ rfl
  exact .nil

lemma attempt_replies {α : Type} {step : Go Core (Except String α)} {t : MessageType}
    (ht : t.IsStepError) {x : AlertCalls} {next : α → Go Announcer Reply}
    (hnext : ∀ a, Replies ServiceReply (· = []) before (next a)) :
    Replies ServiceReply (· = []) before
      (Announced.attempt useFlutterBridge step t x next) := by
  refine (quiet_starts step).bind fun r => ?_
  cases r with
  | error e => exact failStart_replies ht e x
  | ok a => exact hnext a

lemma publish_replies (req : StartRequest) (i : Nat) (o : Exit PUnit) :
    Replies ServiceReply (· = []) before (Announced.publish useFlutterBridge req i o) := by
  refine (quiet_starts _).bind fun _ => (quiet_starts _).bind fun _ => ?_
  refine (setCoreStatus_since (Q := (· = [⟨.started, .empty, ""⟩])) .started .empty "" ?_).bind
    fun info => .pure ?_
  · rintro _ rfl
    rfl
  · rintro a ⟨rfl, _, ha, rfl⟩
    exact ⟨_, ha, .started⟩

lemma startService_replies (req : StartRequest) (x : StartServiceCalls) :
    Replies ServiceReply (· = []) before (Announced.startService useFlutterBridge req x) := by
  apply attempt_replies (by simp [MessageType.IsStepError])
  intro content
  apply attempt_replies (by simp [MessageType.IsStepError])
  intro parsed
  apply attempt_replies (by simp [MessageType.IsStepError])
  intro built
  refine (quiet_starts _).bind fun _ => ?_
  apply attempt_replies (by simp [MessageType.IsStepError])
  intro _
  apply attempt_replies (by simp [MessageType.IsStepError])
  intro i
  apply attempt_replies (by simp [MessageType.IsStepError])
  intro _
  exact publish_replies req i _

/-! ### The reply of Start -/

/-- However it ends, more was announced. -/
abbrev Extends (before : List CoreInfoResponse) {α : Type} (m : Go Announcer α) : Prop :=
  Go.Triple (Since before) m (fun _ => Since before) (Since before)

lemma setCoreStatus_extends (state : CoreState) :
    Extends before (Announced.setCoreStatus useFlutterBridge state .empty "") :=
  (setCoreStatus_since state .empty "" fun _ htold => htold.append (.singleton nofun)).post
    fun _ _ => And.right

lemma stopServer_extends (x : AlertCalls) :
    Extends before (Announced.stopServer useFlutterBridge x) := by
  refine (quiet_since _ _).bind fun _ => ?_
  apply Go.Triple.get_bind
  intro a ha
  cases a.core.oldCommandServer with
  | none =>
    exact ((setCoreStatus_extends _).pre fun _ => (· ▸ ha)).bind fun _ => .pure fun _ => id
  | some j =>
    refine Go.Triple.bind ((quiet_since _ _).pre fun _ => (· ▸ ha)) fun r => ?_
    cases r with
    | error e => exact .get_bind fun b hb => .pure fun _ => (· ▸ hb)
    | ok u =>
      exact (quiet_since _ _).bind fun _ =>
        (setCoreStatus_extends _).bind fun _ => .pure fun _ => id

lemma stopBox_extends (i : Nat) (x : AlertCalls) :
    Extends before (Announced.stopBox useFlutterBridge i x) := by
  refine (setCoreStatus_extends _).bind fun _ => (quiet_since _ _).bind fun _ => ?_
  refine (quiet_since _ _).bind fun _ => (quiet_since _ _).bind fun r => ?_
  cases r with
  | error e => exact .get_bind fun b hb => .pure fun _ => (· ▸ hb)
  | ok u => exact stopServer_extends x

lemma stop_extends (x : StopCalls) : Extends before (Announced.stop useFlutterBridge x) := by
  refine .deferRecover (M := Since before) ?_ fun panic =>
    stopAndAlert_since _ _ _ fun _ htold => htold.append (.stopPanic panic)
  apply Go.Triple.get_bind
  intro a ha
  split_ifs
  · exact .pure fun _ => (· ▸ ha)
  cases a.core.box with
  | none => exact .pure fun _ => (· ▸ ha)
  | some i => exact (stopBox_extends i _).pre fun _ => (· ▸ ha)

lemma enterStarting_replies (req : StartRequest) (x : StartCalls) :
    Replies StartReply NoStartPanic before
      (Announced.enterStarting useFlutterBridge req x) := by
  rintro a ⟨old, hold, hold'⟩
  -- what `StartService` announces comes behind STARTING
  let starting : CoreInfoResponse := ⟨.starting, .empty, ""⟩
  have hrest : Replies ServiceReply (· = []) (before ++ old ++ [starting]) (do
      quiet (Go.callVoid x.setMemoryLimit)
      Announced.startService useFlutterBridge req x.service) :=
    (quiet_starts _).bind fun _ => startService_replies req x.service
  have hfirst : Go.Triple (· = a)
      (Announced.setCoreStatus useFlutterBridge .starting .empty "")
      (fun _ => ToldSince (before ++ old ++ [starting]) (· = []))
      (Since (before ++ old ++ [starting])) := by
    rintro _ rfl
    rw [setCoreStatus_eq]
    exact ⟨[], by rw [announce_infos, hold, List.append_nil], rfl⟩
  have hpanic : ∀ b, Since (before ++ old ++ [starting]) b → Since before b := by
    rintro b ⟨told, hb, htold⟩
    have hstarting : NoStartPanic (old ++ [starting]) := hold'.append (.singleton nofun)
    exact ⟨old ++ [starting] ++ told, by rw [hb]; simp, hstarting.append htold⟩
  refine ((hfirst.bind fun _ => hrest).conseq (fun _ => id) ?_ hpanic) a rfl
  rintro reply b ⟨told, hb, hreply⟩
  exact ⟨old ++ starting :: told, by rw [hb]; simp, .service old hreply⟩

/-- What a call of `Start` announced is decided by its reply. -/
theorem start_replies (req : StartRequest) (x : StartCalls) {a b : Announcer} {reply : Reply}
    (h : Announced.start useFlutterBridge req x a = (.ret reply, b)) :
    ∃ told, b.infos = a.infos ++ told ∧ StartReply reply told := by
  have hstop : Extends a.infos (Announced.ensureStopped useFlutterBridge x.stop) := by
    apply Go.Triple.get_bind
    intro c hc
    split_ifs
    · exact ((stop_extends x.stop).pre fun _ => (· ▸ hc)).bind fun _ => .pure fun _ => id
    · exact .pure fun _ => (· ▸ hc)
  have hrecover (panic : String) : Go.Triple (Since a.infos)
      (Announced.stopAndAlert useFlutterBridge .unexpectedError ("start" ++ " panic: " ++ panic)
        x.recovery) (fun _ => ToldSince a.infos (StartReply {})) (fun _ => True) := by
    refine (stopAndAlert_since _ _ _ fun told htold => ?_).onPanic fun _ _ => trivial
    exact .recovered htold panic
  have hstart : Go.Triple (Since a.infos) (Announced.start useFlutterBridge req x)
      (fun reply => ToldSince a.infos (StartReply reply)) (fun _ => True) :=
    .deferRecover (hstop.bind fun _ => enterStarting_replies req x) hrecover
  exact hstart.ret ⟨[], (List.append_nil _).symm, .nil⟩ h

theorem start_replies_raw : ∃ told, (Announced.start true rawRequest {} {}).2.infos = [] ++ told ∧
    StartReply { resp := some ⟨.started, .empty, ""⟩ } told :=
  @start_replies true rawRequest {} {} _ _ rfl

end Replies

end HiddifyCore.V2
