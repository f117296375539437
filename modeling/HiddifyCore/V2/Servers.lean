import HiddifyCore.V2.Success
import HiddifyCore.V2.Frames

/-!
# The command servers

A command server is created by `startCommandServer`, closed by `Stop` or by `StopAndAlert`, and
forgotten when `oldCommandServer` is assigned. `StopAndAlert` closes the server and keeps it,
`ServiceReload` forgets it without closing it, and `startCommandServer` assigns the variable
whatever it holds.
-/

namespace HiddifyCore.V2

open GoLib Config

/-- Every command server but the current one was closed once, and the current one runs. -/
structure Disciplined (s : Core) : Prop where
  dropped : ∀ k v, s.servers[k]? = some v → s.oldCommandServer ≠ some k → v.closeCalls = 1
  current : ∀ j, s.oldCommandServer = some j →
    ∃ v, s.servers[j]? = some v ∧ v.started = true ∧ v.closeCalls = 0

/-- What `oldCommandServer` holds: nothing, a running server, or one that was closed once. -/
inductive Held where
  | nothing | running | closed
  deriving DecidableEq

/-- The server `v` is what `h` says. -/
def Held.Is : Held → CommandServer → Prop
  | .nothing, _ => False
  | .running, v => v.started = true ∧ v.closeCalls = 0
  | .closed, v => v.closeCalls = 1

lemma Held.Is.congr {h : Held} {v w : CommandServer} (his : h.Is v)
    (hstarted : w.started = v.started) (hclose : w.closeCalls = v.closeCalls) : h.Is w := by
  cases h with
  | nothing => exact his
  | running => exact ⟨hstarted.trans his.1, hclose.trans his.2⟩
  | closed => exact hclose.trans his

/-- `oldCommandServer` holds `h`, and every other server was closed once. -/
structure Core.Holds (h : Held) (s : Core) : Prop where
  dropped : ∀ k v, s.servers[k]? = some v → s.oldCommandServer ≠ some k → v.closeCalls = 1
  isSome : s.oldCommandServer.isSome ↔ h ≠ .nothing
  current : ∀ j, s.oldCommandServer = some j → ∃ v, s.servers[j]? = some v ∧ h.Is v

/-- What a disciplined `oldCommandServer` holds. -/
def Core.held (s : Core) : Held := if s.oldCommandServer.isSome then .running else .nothing

lemma Disciplined.holds {s : Core} (h : Disciplined s) : s.Holds s.held where
  dropped := h.dropped
  isSome := by
    simp only [Core.held]
    split_ifs with hsome <;> simp [hsome]
  current j hj := by
    obtain ⟨v, hv, hrunning⟩ := h.current j hj
    refine ⟨v, hv, ?_⟩
    rw [Core.held, hj]
    exact hrunning

lemma Core.Holds.disciplined {h : Held} {s : Core} (hs : s.Holds h) (hh : h ≠ .closed) :
    Disciplined s where
  dropped := hs.dropped
  current j hj := by
    obtain ⟨v, hv, his⟩ := hs.current j hj
    cases h with
    | nothing => exact his.elim
    | running => exact ⟨v, hv, his⟩
    | closed => exact absurd rfl hh

lemma Core.IsInitial.disciplined {s : Core} (h : s.IsInitial) : Disciplined s where
  dropped k v hv := by simp [h.servers] at hv
  current j hj := by simp [h.oldCommandServer] at hj

/-! ### Writes that change no server's use -/

/-- Whether each server was started and how often it was closed, and which one is current. -/
def SameServers (s t : Core) : Prop :=
  t.oldCommandServer = s.oldCommandServer ∧
    ∀ k : Nat, (t.servers[k]?.map fun v => (v.started, v.closeCalls)) =
      s.servers[k]?.map fun v => (v.started, v.closeCalls)

lemma SameServers.refl (s : Core) : SameServers s s := ⟨rfl, fun _ => rfl⟩

lemma SameServers.trans (s t u : Core) (hst : SameServers s t) (htu : SameServers t u) :
    SameServers s u :=
  ⟨htu.1.trans hst.1, fun k => (htu.2 k).trans (hst.2 k)⟩

lemma SameServers.of_eq {s t : Core} (hold : t.oldCommandServer = s.oldCommandServer)
    (hservers : t.servers = s.servers) : SameServers s t := ⟨hold, fun k => by rw [hservers]⟩

lemma SameServers.serveServer (j : Nat) (service : Option Nat) (s : Core) :
    SameServers s (s.serveServer j service) := by
  refine ⟨rfl, fun k => ?_⟩
  simp only [Core.serveServer_servers, List.getElem?_modify]
  cases s.servers[k]? with
  | none => rfl
  | some v => by_cases hjk : j = k <;> simp [hjk]

lemma SameServers.exists_server {s t : Core} (h : SameServers s t) {k : Nat} {v : CommandServer}
    (hv : t.servers[k]? = some v) :
    ∃ w, s.servers[k]? = some w ∧ v.started = w.started ∧ v.closeCalls = w.closeCalls := by
  have hk := h.2 k
  rw [hv] at hk
  obtain ⟨w, hw, hvw⟩ := Option.map_eq_some_iff.mp hk.symm
  simp only [Prod.mk.injEq] at hvw
  exact ⟨w, hw, hvw.1.symm, hvw.2.symm⟩

lemma SameServers.symm {s t : Core} (h : SameServers s t) : SameServers t s :=
  ⟨h.1.symm, fun k => (h.2 k).symm⟩

lemma Core.Holds.of_same {h : Held} (s t : Core) (hs : s.Holds h) (hst : SameServers s t) :
    t.Holds h where
  dropped k v hv hk := by
    obtain ⟨w, hw, -, hclose⟩ := hst.exists_server hv
    rw [hclose]
    exact hs.dropped k w hw (hst.1 ▸ hk)
  isSome := by rw [hst.1, hs.isSome]
  current j hj := by
    obtain ⟨w, hw, his⟩ := hs.current j (hst.1 ▸ hj)
    obtain ⟨v, hv, hstarted, hclose⟩ := hst.symm.exists_server hw
    exact ⟨v, hv, his.congr hstarted.symm hclose.symm⟩

lemma sameServersFrame : StepFrame SameServers where
  refl := SameServers.refl
  trans := SameServers.trans
  setState _ _ := .of_eq rfl rfl
  setPath _ _ := .of_eq rfl rfl
  setTunnel _ _ := .of_eq rfl rfl
  serveServer := SameServers.serveServer

lemma closeBox_servers (i : Nat) (o : Outcome PUnit) : Go.Within SameServers (closeBox i o) :=
  .bind SameServers.trans (.modify fun _ => .of_eq rfl rfl) fun _ => .call SameServers.refl o

lemma dropBox_servers (o : Outcome PUnit) : Go.Within SameServers (dropBox o) := by
  apply Go.Within.get_bind
  intro s
  cases s.box with
  | none => exact SameServers.refl s
  | some i =>
    exact Go.Within.bind SameServers.trans (closeBox_servers i o)
      (fun _ => Go.Within.modify (f := Core.setBox none) fun _ => .of_eq rfl rfl) s

lemma newService_servers (options : Singbox.Options) (o : Outcome PUnit) :
    Go.Within SameServers (newService options o) := by
  refine .bind SameServers.trans (.call SameServers.refl o) ?_
  intro r
  cases r with
  | error e => exact .pure SameServers.refl _
  | ok a => exact Go.Within.get_bind fun s => SameServers.of_eq rfl rfl

lemma startBox_servers (i : Nat) (o : Outcome PUnit) : Go.Within SameServers (startBox i o) := by
  refine .bind SameServers.trans (.call SameServers.refl o) ?_
  intro r
  cases r with
  | error e => exact .pure SameServers.refl _
  | ok a =>
    exact .bind SameServers.trans (.modify fun _ => .of_eq rfl rfl)
      fun _ => .pure SameServers.refl _

lemma publish_servers (req : StartRequest) (i : Nat) (o : Exit PUnit) :
    Go.Within SameServers (publish req i o) := by
  refine .bind SameServers.trans (.modify fun _ => .of_eq rfl rfl) fun _ => ?_
  refine .bind SameServers.trans (sameServersFrame.serveBox_within req i o) fun _ => ?_
  exact .bind SameServers.trans (sameServersFrame.setCoreStatus_within _ _ _)
    fun _ => .pure SameServers.refl _

lemma holds_triple {α : Type} {m : Go Core α} (hm : Go.Within SameServers m) (h : Held) :
    Go.Triple (Core.Holds h) m (fun _ => Core.Holds h) (Core.Holds h) :=
  .of_within hm Core.Holds.of_same

lemma setCoreStatus_holds {c : CoreState} {msgType : MessageType} {message : String} {h : Held}
    {R : Core → Prop} :
    Go.Triple (Core.Holds h) (setCoreStatus c msgType message) (fun _ => Core.Holds h) R :=
  .bind (M := fun _ => Core.Holds h)
    (Go.Triple.modify fun s hs => hs.of_same s _ (.of_eq rfl rfl))
    fun _ => Go.Triple.pure fun _ => id

/-! ### Closing and dropping the current server -/

lemma Core.Holds.oldCommandServer_eq_none {s : Core} (h : s.Holds .nothing) :
    s.oldCommandServer = none := by
  rw [← Option.not_isSome_iff_eq_none, h.isSome]
  simp

lemma Core.Holds.closeServer {s : Core} {j : Nat} (h : s.Holds .running)
    (hj : s.oldCommandServer = some j) : (s.closeServer j).Holds .closed where
  dropped k v hv hk := by
    have hjk : j ≠ k := fun hjk => hk (by rw [← hjk]; exact hj)
    have hv' : s.servers[k]? = some v := by simpa [List.getElem?_modify, hjk] using hv
    exact h.dropped k v hv' hk
  isSome := by simp [hj]
  current k hk := by
    obtain rfl : k = j := Option.some.inj (hk.symm.trans hj)
    obtain ⟨v, hv, -, hclose⟩ := h.current k hj
    refine ⟨{ v with closeCalls := v.closeCalls + 1 }, ?_, ?_⟩
    · simp [hv]
    · simp [Held.Is, hclose]

lemma Core.Holds.dropServer {s : Core} (h : s.Holds .closed) :
    (s.setServer none).Holds .nothing where
  dropped k v hv _ := by
    by_cases hk : s.oldCommandServer = some k
    · obtain ⟨w, hw, his⟩ := h.current k hk
      cases hw.symm.trans hv
      exact his
    · exact h.dropped k v hv hk
  isSome := by simp
  current j hj := by simp at hj

/-- `StopAndAlert` closes the server that `oldCommandServer` holds, and keeps it there. -/
lemma stopAndAlert_running (msgType : MessageType) (message : String) (x : AlertCalls) :
    Go.Triple (Core.Holds .running) (stopAndAlert msgType message x)
      (fun _ => Core.Holds .closed) fun _ => True := by
  have hpiece : ∀ {α : Type} {m : Go Core α}, Go.Within SameServers m →
      Go.Triple (Core.Holds .running) m (fun _ => Core.Holds .running) fun _ => True :=
    fun hm => (holds_triple hm .running).onPanic fun _ _ => trivial
  refine .bind setCoreStatus_holds fun _ => ?_
  refine .bind (hpiece (sameServersFrame.deactivateTunnel_within _)) fun _ => ?_
  refine .bind (hpiece (sameServersFrame.clearService_within _)) fun _ => ?_
  refine .bind (hpiece (dropBox_servers _)) fun _ => ?_
  apply Go.Triple.get_bind
  intro s hs
  cases hj : s.oldCommandServer with
  | none => simpa [hj] using hs.isSome
  | some j =>
    refine .bind (M := fun _ => Core.Holds .closed) ?_ fun _ => Go.Triple.pure fun _ => id
    refine .bind (M := fun _ => Core.Holds .closed) (Go.Triple.modify ?_) fun _ => ?_
    · rintro _ rfl
      exact hs.closeServer hj
    · exact Go.Triple.call (fun _ _ _ => id) (fun _ _ _ => id) fun _ _ _ => trivial

/-- Without a command server `StopAndAlert` leaves none. -/
lemma stopAndAlert_nothing (msgType : MessageType) (message : String) (x : AlertCalls) :
    Go.Triple (Core.Holds .nothing) (stopAndAlert msgType message x)
      (fun _ => Core.Holds .nothing) (Core.Holds .nothing) := by
  refine .bind setCoreStatus_holds fun _ => ?_
  refine .bind (holds_triple (sameServersFrame.deactivateTunnel_within _) _) fun _ => ?_
  refine .bind (holds_triple (sameServersFrame.clearService_within _) _) fun _ => ?_
  refine .bind (holds_triple (dropBox_servers _) _) fun _ => ?_
  apply Go.Triple.get_bind
  rintro _ hs s rfl
  rw [hs.oldCommandServer_eq_none]
  exact hs

/-! ### StartService -/

namespace StartServiceCalls

/-- `startCommandServer` creates a server. -/
structure Creates (x : StartServiceCalls) (req : StartRequest) (s : Core) : Prop where
  enabled : req.enableOldCommandServer = true
  loads : ∃ built, x.Loads req s built
  saves : ¬ x.saveConfig.IsPanic
  logs : s.coreLogFactory = true

/-- Started with `h` in `oldCommandServer`, the service leaves the variable disciplined. -/
def Keeps (x : StartServiceCalls) (req : StartRequest) (s : Core) : Held → Prop
  | .nothing => x.Creates req s → x.Succeeds req s
  | .running => req.enableOldCommandServer = false ∧ x.Succeeds req s
  | .closed => req.enableOldCommandServer = true ∧ x.Succeeds req s

end StartServiceCalls

lemma ServiceStarted.disciplined {req : StartRequest} {built : Singbox.Options} {h : Held}
    {s t : Core} (ht : ServiceStarted req built s t) (hs : s.Holds h)
    (hold : if req.enableOldCommandServer then h ≠ .running else h ≠ .closed) : Disciplined t := by
  have hserver := ht.oldCommandServer
  have hservers := ht.servers
  split_ifs at hold hserver hservers
  · refine ⟨fun k v hv hk => ?_, fun j hj => ?_⟩
    · -- the new server is the current one, and the one before it was closed
      rw [hserver] at hk
      rw [hservers, List.getElem?_append] at hv
      split_ifs at hv with hlt
      · by_cases hcur : s.oldCommandServer = some k
        · obtain ⟨w, hw, his⟩ := hs.current k hcur
          cases hw.symm.trans hv
          cases h with
          | nothing => exact his.elim
          | running => exact absurd rfl hold
          | closed => exact his
        · exact hs.dropped k v hv hcur
      · exfalso
        have hlen := (List.getElem?_eq_some_iff.mp hv).1
        simp only [List.length_singleton] at hlen
        exact hk (congrArg some (by omega))
    · obtain rfl : s.servers.length = j := Option.some.inj (hserver.symm.trans hj)
      refine ⟨_, by rw [hservers, List.getElem?_concat_length], rfl, rfl⟩
  · exact (hs.of_same s t (.of_eq hserver hservers)).disciplined hold

lemma failStart_nothing (msgType : MessageType) (err : String) (x : AlertCalls) :
    Go.Triple (Core.Holds .nothing) (failStart msgType err x) (fun _ => Core.Holds .nothing)
      (Core.Holds .nothing) :=
  .bind setCoreStatus_holds fun _ =>
    .bind (stopAndAlert_nothing _ _ x) fun _ => Go.Triple.pure fun _ => id

/-- A step of `StartService` with the outcome `o` that leaves `oldCommandServer` empty. -/
lemma attempt_nothing {α β : Type} {step : Go Core (Except String α)} {msgType : MessageType}
    {x : AlertCalls} {next : α → Go Core Reply} {o : Outcome β} {value : α → β}
    {B R : Core → Prop} {C : α → Core → Prop} {E : String → Core → Prop}
    (hstep : Go.Triple B step (Go.results (fun a t => o = .ok (value a) ∧ C a t) E) R)
    (hm : Go.Within SameServers step)
    (hnext : ∀ a, o = .ok (value a) → Go.Triple (fun t => C a t ∧ t.Holds .nothing) (next a)
      (fun _ => Core.Holds .nothing) (Core.Holds .nothing)) :
    Go.Triple (fun t => B t ∧ t.Holds .nothing) (attempt step msgType x next)
      (fun _ => Core.Holds .nothing) (Core.Holds .nothing) := by
  refine .bind ((hstep.and (holds_triple hm .nothing)).onPanic fun _ => And.right) ?_
  intro r
  cases r with
  | ok a =>
    rintro t ⟨⟨ho, hC⟩, ht⟩
    exact hnext a ho t ⟨hC, ht⟩
  | error e => exact (failStart_nothing msgType e x).pre fun _ => And.right

/-- A step of which only its end matters. -/
lemma attempt_nothing_of {α : Type} {step : Go Core (Except String α)} {msgType : MessageType}
    {x : AlertCalls} {next : α → Go Core Reply} {P : Core → Prop}
    (hstep : Go.Triple P step (fun _ => Core.Holds .nothing) (Core.Holds .nothing))
    (hnext : ∀ a, Go.Triple (Core.Holds .nothing) (next a) (fun _ => Core.Holds .nothing)
      (Core.Holds .nothing)) :
    Go.Triple P (attempt step msgType x next) (fun _ => Core.Holds .nothing)
      (Core.Holds .nothing) := by
  apply Go.Triple.bind hstep
  intro r
  cases r with
  | ok a => exact hnext a
  | error e => exact failStart_nothing msgType e x

/-- The command server step of a service that creates no server. -/
lemma commandServerStep_nothing {req : StartRequest} {x : StartServiceCalls} {s : Core}
    (hlog : req.enableOldCommandServer = true → s.coreLogFactory = false) :
    Go.Triple (fun t => Between s t ∧ t.Holds .nothing) (commandServerStep req x)
      (fun _ => Core.Holds .nothing) (Core.Holds .nothing) := by
  rintro t ⟨hbetween, ht⟩
  cases hreq : req.enableOldCommandServer with
  | false =>
    simp only [commandServerStep, hreq, Bool.false_eq_true, if_false]
    exact ht
  | true =>
    have hfactory : t.coreLogFactory = false := hbetween.2.2.trans (hlog hreq)
    simpa [commandServerStep, hreq, startCommandServer, Go.bind_run, Go.get, Go.panic,
      hfactory] using ht

/-- A service that does not come to `startCommandServer` leaves `oldCommandServer` empty. -/
lemma startService_nothing {req : StartRequest} {x : StartServiceCalls} {s : Core}
    (hcreates : ¬ x.Creates req s) :
    Go.Triple (fun t => t = s ∧ t.Holds .nothing) (startService req x)
      (fun _ => Core.Holds .nothing) (Core.Holds .nothing) := by
  apply attempt_nothing (readContent_step req x s) (sameServersFrame.readContent_within req x)
  intro content hcontent
  apply attempt_nothing (call_step fun _ h => h.1) (.call SameServers.refl _)
  intro parsed hparsed
  apply attempt_nothing (buildContent_step req parsed x s)
    (sameServersFrame.buildContent_within req parsed x)
  intro built hbuilt
  refine .bind (((saveCurrentConfig_triple x _).and
    (holds_triple (sameServersFrame.saveCurrentConfig_within x) .nothing)).onPanic
      fun _ => And.right) fun _ => ?_
  rintro t ⟨⟨hsave, hbetween⟩, ht⟩
  have hlog : req.enableOldCommandServer = true → (s.built req).coreLogFactory = false := by
    intro hreq
    by_contra hlog
    rw [Bool.not_eq_false, Core.built_coreLogFactory] at hlog
    exact hcreates ⟨hreq, ⟨built, content, parsed, hcontent, hparsed, hbuilt⟩, hsave, hlog⟩
  refine attempt_nothing_of (commandServerStep_nothing hlog) (fun _ => ?_) t ⟨hbetween, ht⟩
  apply attempt_nothing_of (holds_triple (newService_servers built _) .nothing)
  intro i
  apply attempt_nothing_of (holds_triple (startBox_servers i _) .nothing)
  intro _
  exact holds_triple (publish_servers req i _) .nothing

/-- What `StartService` leaves, entered with `h` in `oldCommandServer`. -/
lemma startService_keeps {req : StartRequest} {x : StartServiceCalls} {s : Core} {h : Held}
    (hkeeps : x.Keeps req s h) :
    Go.Triple (fun t => t = s ∧ t.Holds h) (startService req x) (fun _ => Disciplined)
      (Core.Holds .nothing) := by
  by_cases hx : x.Succeeds req s
  · obtain ⟨content, parsed, built, hloads⟩ := hx.loads
    obtain ⟨t, hrun, hstarted⟩ := startService_started hx ⟨content, parsed, hloads⟩
    rintro _ ⟨rfl, hs⟩
    rw [hrun]
    refine hstarted.disciplined hs ?_
    cases h with
    | nothing => split_ifs <;> simp
    | running => simp [hkeeps.1]
    | closed => simp [hkeeps.1]
  · cases h with
    | nothing =>
      have hcreates : ¬ x.Creates req s := fun hc => hx (hkeeps hc)
      exact (startService_nothing hcreates).post (fun _ _ ht => ht.disciplined (by simp))
    | running => exact absurd hkeeps.2 hx
    | closed => exact absurd hkeeps.2 hx

/-! ### Stop -/

/-- `Stop` of a core with a command server panics before it comes to `Close` of the server. -/
def AlertCalls.Interrupts (x : AlertCalls) (s : Core) : Prop :=
  (s.tunnel.running = true ∧ x.stopTunnel.IsPanic) ∨ x.clearService.IsPanic ∨ x.boxClose.IsPanic

/-- `Stop`, called with a running command server, leaves `h` in `oldCommandServer`. -/
def StopCalls.Leaves (x : StopCalls) (s : Core) : Held → Prop
  | .running => ¬ s.Stoppable ∨ ¬ x.Interrupts s ∧ x.boxClose.IsFail
  | .nothing => s.Stoppable ∧ ¬ x.Interrupts s ∧ x.boxClose.IsOk ∧ x.serverClose.IsOk
  | .closed => s.Stoppable ∧ (x.Interrupts s ∧ ¬ x.Panics s ∨
      ¬ x.Interrupts s ∧ x.boxClose.IsOk ∧ x.serverClose.IsFail)

lemma stop_nothing (x : StopCalls) :
    Go.Triple (Core.Holds .nothing) (stop x) (fun _ => Core.Holds .nothing)
      (Core.Holds .nothing) := by
  refine Go.Triple.deferRecover (M := Core.Holds .nothing) ?_ fun _ => stopAndAlert_nothing _ _ _
  refine Go.Triple.bind (M := fun _ => Core.Holds .nothing)
    (Go.Triple.get fun _ => id) fun a => ?_
  split_ifs
  · exact Go.Triple.pure fun _ => id
  cases a.box with
  | none => exact Go.Triple.pure fun _ => id
  | some i =>
    refine .bind setCoreStatus_holds fun _ => ?_
    refine .bind (holds_triple (sameServersFrame.deactivateTunnel_within _) _) fun _ => ?_
    refine .bind (holds_triple (sameServersFrame.clearService_within _) _) fun _ => ?_
    refine .bind (holds_triple (closeBox_servers i _) _) ?_
    intro r
    cases r with
    | error e =>
      exact .bind (Go.Triple.get fun _ => id) fun _ => Go.Triple.pure fun _ => id
    | ok _ =>
      refine .bind (M := fun _ => Core.Holds .nothing) (Go.Triple.modify fun s hs =>
        hs.of_same s _ (.of_eq rfl rfl)) fun _ => ?_
      apply Go.Triple.get_bind
      rintro _ hs s rfl
      rw [hs.oldCommandServer_eq_none]
      exact hs.of_same s _ (.of_eq rfl rfl)

/-- `Stop` from its `Close` of the command server on. -/
lemma stopServer_running (x : AlertCalls) :
    Go.Triple (Core.Holds .running) (stopServer x)
      (fun _ t => (x.serverClose.IsOk ∧ t.Holds .nothing) ∨
        (x.serverClose.IsFail ∧ t.Holds .closed))
      (fun _ => x.serverClose.IsPanic) := by
  refine .bind (M := fun _ => Core.Holds .running) (Go.Triple.modify fun s hs =>
    hs.of_same s _ (.of_eq rfl rfl)) fun _ => ?_
  apply Go.Triple.get_bind
  intro s hs
  cases hj : s.oldCommandServer with
  | none => simpa [hj] using hs.isSome
  | some j =>
    refine .bind (M := fun r t => t.Holds .closed ∧ if r.isOk then x.serverClose.IsOk
      else x.serverClose.IsFail) ?_ fun r => ?_
    · refine .bind (M := fun _ => Core.Holds .closed) (Go.Triple.modify ?_) fun _ => ?_
      · rintro _ rfl
        exact hs.closeServer hj
      · refine Go.Triple.call (fun a ha t ht => ⟨ht, ?_⟩) (fun e he t ht => ⟨ht, ?_⟩)
          fun h _ _ => h
        · rw [ha]
          trivial
        · rw [he]
          trivial
    · cases r with
      | error e =>
        refine .bind (Go.Triple.get (Q := fun _ t => t.Holds .closed ∧ x.serverClose.IsFail)
          fun t ht => ht) fun _ => Go.Triple.pure fun t ht => ?_
        exact Or.inr ⟨ht.2, ht.1⟩
      | ok _ =>
        refine .bind (M := fun _ t => x.serverClose.IsOk ∧ t.Holds .nothing)
          (Go.Triple.modify fun t ht => ⟨ht.2, ht.1.dropServer⟩) fun _ => ?_
        apply Go.Triple.assume
        intro hok
        exact .bind setCoreStatus_holds fun _ => Go.Triple.pure fun t ht => Or.inl ⟨hok, ht⟩

lemma clearService_running (o : Exit PUnit) :
    Go.Triple (Core.Holds .running) (clearService o) (fun _ t => ¬ o.IsPanic ∧ t.Holds .running)
      (fun t => o.IsPanic ∧ t.Holds .running) := by
  intro t ht
  have hsome : t.oldCommandServer.isSome := ht.isSome.mpr (by simp)
  refine (((clearService_triple o t).and
    (holds_triple (sameServersFrame.clearService_within o) .running)).conseq (fun _ => id)
    (fun _ u hu => ?_) fun u hu => ?_) t ⟨rfl, ht⟩
  · exact ⟨fun hp => hu.1.1 ⟨hsome, hp⟩, hu.2⟩
  · exact ⟨hu.1.2, hu.2⟩

/-- `Stop` past its guards, called with a running command server. -/
lemma stopBox_running (i : Nat) (x : AlertCalls) (s : Core) :
    Go.Triple (fun t => t = s ∧ t.Holds .running) (stopBox i x)
      (fun _ t => ¬ x.Interrupts s ∧ ((x.boxClose.IsFail ∧ t.Holds .running) ∨
        x.boxClose.IsOk ∧ ((x.serverClose.IsOk ∧ t.Holds .nothing) ∨
          (x.serverClose.IsFail ∧ t.Holds .closed))))
      (fun t => (x.Interrupts s ∧ t.Holds .running) ∨
        (¬ x.Interrupts s ∧ x.boxClose.IsOk ∧ x.serverClose.IsPanic)) := by
  refine .bind (M := fun _ t => t = s.setState .stopping ∧ t.Holds .running) ?_ fun _ => ?_
  · rintro t ⟨rfl, ht⟩
    exact ⟨rfl, ht.of_same t _ (.of_eq rfl rfl)⟩
  refine .bind (M := fun _ t => ¬ (s.tunnel.running = true ∧ x.stopTunnel.IsPanic) ∧
    t.Holds .running) (((deactivateTunnel_state .stopping x.stopTunnel s).and
      (holds_triple (sameServersFrame.deactivateTunnel_within _) .running)).conseq (fun _ => id)
      (fun _ t ht => ⟨ht.1.1, ht.2⟩)
      fun t ht => Or.inl ⟨Or.inl ⟨ht.1.1, ht.1.2.1⟩, ht.2⟩) fun _ => ?_
  apply Go.Triple.assume
  intro htun
  refine .bind ((clearService_running x.clearService).onPanic
    fun t ht => Or.inl ⟨Or.inr (Or.inl ht.1), ht.2⟩) fun _ => ?_
  apply Go.Triple.assume
  intro hclear
  refine .bind (M := fun r t => ¬ x.boxClose.IsPanic ∧ t.Holds .running ∧
    if r.isOk then x.boxClose.IsOk else x.boxClose.IsFail) ?_ fun r => ?_
  · refine .bind (M := fun _ => Core.Holds .running) (Go.Triple.modify fun t ht =>
      ht.of_same t _ (.of_eq rfl rfl)) fun _ => ?_
    refine Go.Triple.call (fun a ha t ht => ?_) (fun e he t ht => ?_)
      fun hp t ht => Or.inl ⟨Or.inr (Or.inr hp), ht⟩
    · rw [ha]
      exact ⟨id, ht, trivial⟩
    · rw [he]
      exact ⟨id, ht, trivial⟩
  apply Go.Triple.assume
  intro hbox
  have hnot : ¬ x.Interrupts s := fun h => h.elim htun fun h => h.elim hclear hbox
  cases r with
  | error e =>
    refine .bind (Go.Triple.get (Q := fun _ t => t.Holds .running ∧ x.boxClose.IsFail)
      fun t ht => ht) fun _ => Go.Triple.pure fun t ht => ?_
    exact ⟨hnot, Or.inl ⟨ht.2, ht.1⟩⟩
  | ok _ =>
    rintro t ⟨ht, hok⟩
    exact ((stopServer_running x).conseq (fun _ => id) (fun _ u hu => ⟨hnot, Or.inr ⟨hok, hu⟩⟩)
      fun u hu => Or.inr ⟨hnot, hok, hu⟩) t ht

lemma StopCalls.Leaves.of_interrupts {x : StopCalls} {s : Core} {h : Held} (hleaves : x.Leaves s h)
    (hstop : s.Stoppable) (hint : x.Interrupts s) : h = .closed ∧ ¬ x.Panics s := by
  cases h with
  | nothing => exact absurd hint hleaves.2.1
  | running => exact (hleaves.elim (absurd hstop) fun h => absurd hint h.1)
  | closed => exact (hleaves.2.elim (fun h => ⟨rfl, h.2⟩) fun h => absurd hint h.1)

/-- What is left once the `Close` of the instance has answered. -/
lemma StopCalls.Leaves.of_not_interrupts {x : StopCalls} {s t : Core} {h : Held}
    (hleaves : x.Leaves s h) (hstop : s.Stoppable) (hint : ¬ x.Interrupts s)
    (ht : (x.boxClose.IsFail ∧ t.Holds .running) ∨
      x.boxClose.IsOk ∧ ((x.serverClose.IsOk ∧ t.Holds .nothing) ∨
        (x.serverClose.IsFail ∧ t.Holds .closed))) : t.Holds h := by
  cases h with
  | running =>
    obtain ⟨-, hfail⟩ := hleaves.resolve_left (not_not.mpr hstop)
    rcases ht with ⟨-, ht⟩ | ⟨hok, -⟩
    · exact ht
    · exact absurd hfail hok.not_isFail
  | nothing =>
    obtain ⟨-, -, hok, hserver⟩ := hleaves
    rcases ht with ⟨hfail, -⟩ | ⟨-, ⟨-, ht⟩ | ⟨hfail, -⟩⟩
    · exact absurd hfail hok.not_isFail
    · exact ht
    · exact absurd hfail hserver.not_isFail
  | closed =>
    obtain ⟨-, hok, hserver⟩ := hleaves.2.resolve_left fun h => hint h.1
    rcases ht with ⟨hfail, -⟩ | ⟨-, ⟨hserver', -⟩ | ⟨-, ht⟩⟩
    · exact absurd hfail hok.not_isFail
    · exact absurd hserver hserver'.not_isFail
    · exact ht

lemma StopCalls.Leaves.not_panics {x : StopCalls} {s : Core} {h : Held} (hleaves : x.Leaves s h)
    (hstop : s.Stoppable) (hint : ¬ x.Interrupts s) (hok : x.boxClose.IsOk) :
    ¬ x.serverClose.IsPanic := by
  cases h with
  | running => exact absurd (hleaves.resolve_left (not_not.mpr hstop)).2 hok.not_isFail
  | nothing => exact hleaves.2.2.2.not_isPanic
  | closed => exact (hleaves.2.resolve_left fun h => hint h.1).2.2.not_isPanic

/-- `Stop` with a running command server leaves what `Leaves` says. -/
lemma stop_running {x : StopCalls} {s : Core} {h : Held} (hleaves : x.Leaves s h) :
    Go.Triple (fun t => t = s ∧ t.Holds .running) (stop x) (fun _ => Core.Holds h)
      (fun _ => False) := by
  have hends : Go.Triple (fun t => t = s ∧ t.Holds .running) (stop x) (fun _ => Core.Holds h)
      (fun _ => s.Stoppable ∧ x.Interrupts s) := by
    refine Go.Triple.deferRecover
      (M := fun t => (s.Stoppable ∧ x.Interrupts s) ∧ t.Holds .running) ?_ fun _ => ?_
    · apply Go.Triple.get_bind
      rintro _ ⟨rfl, ht⟩ t rfl
      have hkept : ¬ t.Stoppable → h = .running := by
        intro hnot
        cases h with
        | running => rfl
        | nothing => exact absurd hleaves.1 hnot
        | closed => exact absurd hleaves.1 hnot
      split_ifs with hstate
      · rw [hkept fun hstop => hstate hstop.1]
        exact ht
      cases hbox : t.box with
      | none =>
        rw [hkept fun hstop => by simpa [hbox] using hstop.2]
        exact ht
      | some i =>
        have hstop : t.Stoppable := ⟨not_not.mp hstate, by simp [hbox]⟩
        refine ((stopBox_running i x.toAlertCalls t).conseq (fun _ => id) (fun _ u hu => ?_)
          fun u hu => ?_) t ⟨rfl, ht⟩
        · exact hleaves.of_not_interrupts hstop hu.1 hu.2
        · rcases hu with ⟨hint, hu⟩ | ⟨hint, hok, hp⟩
          · exact ⟨⟨hstop, hint⟩, hu⟩
          · exact absurd hp (hleaves.not_panics hstop hint hok)
    · -- the recovered panic closes the server
      refine Go.Triple.assume fun hint => ?_
      rw [(hleaves.of_interrupts hint.1 hint.2).1]
      exact (stopAndAlert_running _ _ _).onPanic fun _ _ => hint
  refine (hends.and (stop_triple x s)).conseq (fun t ht => ⟨ht, ht.1⟩) (fun _ _ => And.left) ?_
  rintro t ⟨hint, hpanics⟩
  exact (hleaves.of_interrupts hint.1 hint.2).2 hpanics

/-! ### Start and Restart -/

lemma SameSetup.creates {s t : Core} (h : SameSetup s t) {x : StartServiceCalls}
    {req : StartRequest} (hx : x.Creates req s) : x.Creates req t where
  enabled := hx.enabled
  loads := by
    simp only [StartServiceCalls.Loads, h.1]
    exact hx.loads
  saves := hx.saves
  logs := h.2.trans hx.logs

lemma SameSetup.keeps {s t : Core} (hst : SameSetup s t) {x : StartServiceCalls}
    {req : StartRequest} {h : Held} (hkeeps : x.Keeps req s h) : x.Keeps req t h := by
  cases h with
  | nothing => exact fun hcreates => hst.succeeds (hkeeps (hst.symm.creates hcreates))
  | running => exact ⟨hkeeps.1, hst.succeeds hkeeps.2⟩
  | closed => exact ⟨hkeeps.1, hst.succeeds hkeeps.2⟩

namespace StartCalls

/-- The common end of `Start` and `Restart`, entered with `h` in `oldCommandServer`, leaves the
variable disciplined. -/
def EnterKeeps (x : StartCalls) (req : StartRequest) (s : Core) (h : Held) : Prop :=
  (x.setMemoryLimit.IsPanic → h = .nothing) ∧
    (¬ x.setMemoryLimit.IsPanic → x.service.Keeps req s h)

def StartKeeps (x : StartCalls) (req : StartRequest) (s : Core) : Prop :=
  if s.coreState = .stopped then x.EnterKeeps req s s.held
  else if s.oldCommandServer.isSome then ∃ h, x.stop.Leaves s h ∧ x.EnterKeeps req s h
  else x.stop.Panics s ∨ x.EnterKeeps req s .nothing

/-- `Restart` goes on after a `Stop` without an error only. -/
def RestartKeeps (x : StartCalls) (req : StartRequest) (s : Core) : Prop :=
  if s.oldCommandServer.isSome then
    ∃ h, x.stop.Leaves s h ∧ (x.stop.toAlertCalls.CloseFails s → h ≠ .closed) ∧
      (¬ x.stop.toAlertCalls.CloseFails s → x.EnterKeeps req s h)
  else
    x.stop.Panics s ∨ (¬ x.stop.toAlertCalls.CloseFails s → x.EnterKeeps req s .nothing)

end StartCalls

lemma enterStarting_keeps {req : StartRequest} {x : StartCalls} {s : Core} {h : Held}
    (hkeeps : x.EnterKeeps req s h) :
    Go.Triple (fun t => SameSetup s t ∧ t.Holds h) (enterStarting req x) (fun _ => Disciplined)
      (Core.Holds .nothing) := by
  refine .bind (M := fun _ t => SameSetup s t ∧ t.Holds h) ?_ fun _ => ?_
  · refine .bind (M := fun _ t => SameSetup s t ∧ t.Holds h) (Go.Triple.modify ?_)
      fun _ => Go.Triple.pure fun _ => id
    exact fun t ht => ⟨ht.1, ht.2.of_same t _ (.of_eq rfl rfl)⟩
  refine .bind (M := fun _ t => ¬ x.setMemoryLimit.IsPanic ∧ SameSetup s t ∧ t.Holds h)
    (Go.Triple.callVoid (fun hlimit t ht => ⟨hlimit, ht⟩) fun hp t ht => ?_) fun _ => ?_
  · rw [← hkeeps.1 hp]
    exact ht.2
  rintro t ⟨hlimit, hst, ht⟩
  exact startService_keeps (hst.keeps (hkeeps.2 hlimit)) t ⟨rfl, ht⟩

/-- A recovered panic that finds no command server leaves none. -/
lemma deferPanicToError_keeps {name : String} {x : AlertCalls} {body : Go Core Reply}
    {P : Core → Prop} (hbody : Go.Triple P body (fun _ => Disciplined) (Core.Holds .nothing)) :
    Go.Triple P (deferPanicToError name x body) (fun _ => Disciplined) (Core.Holds .nothing) :=
  Go.Triple.deferRecover hbody fun _ =>
    (stopAndAlert_nothing _ _ x).post fun _ _ ht => ht.disciplined (by simp)

/-- `Stop` before a start, with and without a command server. -/
lemma stop_leaves {x : StopCalls} {s : Core} (hs : Disciplined s) {h : Held}
    (hleaves : if s.oldCommandServer.isSome then x.Leaves s h else h = .nothing) :
    Go.Triple (· = s) (stop x)
      (fun reply t => (¬ x.Panics s ∧ (s.Stoppable → (reply.err ≠ none ↔
        x.toAlertCalls.CloseFails s))) ∧ SameSetup s t ∧ t.Holds h)
      (Core.Holds .nothing) := by
  have hsetup : Go.Triple (SameSetup s) (stop x) (fun _ => SameSetup s) (SameSetup s) :=
    .of_within (setupFrame.stop_within x) fun t u => setupFrame.trans s t u
  have hheld : Go.Triple (· = s) (stop x) (fun _ => Core.Holds h) (Core.Holds .nothing) := by
    split_ifs at hleaves with hsome
    · refine (stop_running hleaves).conseq (fun t ht => ⟨ht, ?_⟩) (fun _ _ => id)
        fun _ => False.elim
      rw [ht]
      simpa [Core.held, hsome] using hs.holds
    · subst hleaves
      refine (stop_nothing x).pre fun t ht => ?_
      rw [ht]
      simpa [Core.held, hsome] using hs.holds
  refine ((stop_run_triple x s).and (hsetup.and hheld)).conseq (fun t ht => ⟨ht, ?_, ht⟩)
    (fun reply t ht => ⟨ht.1.2, ht.2⟩) fun _ ht => ht.2.2
  rw [ht]
  exact setupFrame.refl s

lemma ensureStopped_leaves {x : StopCalls} {s : Core} (hs : Disciplined s) {h : Held}
    (hstate : s.coreState ≠ .stopped)
    (hleaves : if s.oldCommandServer.isSome then x.Leaves s h else h = .nothing) :
    Go.Triple (· = s) (ensureStopped x)
      (fun _ t => ¬ x.Panics s ∧ SameSetup s t ∧ t.Holds h) (Core.Holds .nothing) := by
  apply Go.Triple.get_bind
  rintro _ rfl a rfl
  rw [if_pos hstate]
  exact Go.Triple.bind (stop_leaves hs hleaves)
    (fun _ => Go.Triple.pure fun u hu => ⟨hu.1.1, hu.2⟩) a rfl

lemma start_keeps {req : StartRequest} {x : StartCalls} {s : Core} (hs : Disciplined s)
    (hkeeps : x.StartKeeps req s) :
    Go.Triple (· = s) (start req x) (fun _ => Disciplined) (Core.Holds .nothing) := by
  apply deferPanicToError_keeps
  simp only [StartCalls.StartKeeps] at hkeeps
  split_ifs at hkeeps with hstate hsome
  · refine .bind (M := fun _ t => SameSetup s t ∧ t.Holds s.held) ?_
      fun _ => enterStarting_keeps hkeeps
    rintro t rfl
    simpa [ensureStopped, Go.bind_run, Go.get, Go.pure_run, hstate] using
      ⟨setupFrame.refl t, hs.holds⟩
  · obtain ⟨h, hleaves, henter⟩ := hkeeps
    refine .bind (ensureStopped_leaves hs hstate (by rwa [if_pos hsome])) fun _ => ?_
    exact (enterStarting_keeps henter).pre fun _ => And.right
  · refine .bind (ensureStopped_leaves hs hstate (by rw [if_neg hsome])) fun _ => ?_
    apply Go.Triple.assume
    intro hpanics
    exact enterStarting_keeps (hkeeps.resolve_left hpanics)

lemma restart_keeps {req : StartRequest} {x : StartCalls} {s : Core} (hs : Disciplined s)
    (hkeeps : s.Stoppable → x.RestartKeeps req s) :
    Go.Triple (· = s) (restart req x) (fun _ => Disciplined) (Core.Holds .nothing) := by
  apply deferPanicToError_keeps
  apply Go.Triple.get_bind
  rintro _ rfl a rfl
  split_ifs with hstate
  · exact hs
  cases hbox : a.box with
  | none => exact hs
  | some i =>
    have hstop : a.Stoppable := ⟨not_not.mp hstate, by simp [hbox]⟩
    obtain ⟨h, hleaves, hfails, henter⟩ : ∃ h,
        (if a.oldCommandServer.isSome then x.stop.Leaves a h else h = .nothing) ∧
        (x.stop.toAlertCalls.CloseFails a → h ≠ .closed) ∧
        (¬ x.stop.Panics a → ¬ x.stop.toAlertCalls.CloseFails a → x.EnterKeeps req a h) := by
      have hkeeps := hkeeps hstop
      simp only [StartCalls.RestartKeeps] at hkeeps
      split_ifs at hkeeps ⊢ with hsome
      · obtain ⟨h, hleaves, hfails, henter⟩ := hkeeps
        exact ⟨h, hleaves, hfails, fun _ => henter⟩
      · exact ⟨.nothing, rfl, fun _ => by simp, fun hpanics => hkeeps.resolve_left hpanics⟩
    refine Go.Triple.bind (stop_leaves hs hleaves) (fun reply => ?_) a rfl
    rintro u ⟨⟨hpanics, herr⟩, hst, hu⟩
    have herr := herr hstop
    split_ifs with hreply
    · exact hu.disciplined (hfails (herr.mp (Option.ne_none_iff_isSome.mpr hreply)))
    · have hnot : ¬ x.stop.toAlertCalls.CloseFails a := fun h =>
        hreply (Option.ne_none_iff_isSome.mp (herr.mpr h))
      exact enterStarting_keeps (henter hpanics hnot) u ⟨hst, hu⟩

/-! ### Runs -/

/-- Called in `s`, the operation leaves `oldCommandServer` disciplined. `StopAndAlert` does not
once there is a server, `ServiceReload` neither; `Stop` has to close it, or to fail before; and a
service has to end well once it has created a server. -/
def Op.KeepsServers (s : Core) : Op → Prop
  | .start req x => x.StartKeeps req s
  | .startService req x => x.Keeps req s s.held
  | .stop x => s.oldCommandServer.isSome → x.Leaves s .running ∨ x.Leaves s .nothing
  | .restart req x => s.Stoppable → x.RestartKeeps req s
  | .stopAndAlert _ _ _ => s.oldCommandServer = none
  | .serviceReload x => s.oldCommandServer = none ∧ x.service.Keeps reloadRequest s .nothing

lemma Disciplined.holds_nothing {s : Core} (hs : Disciplined s) (h : s.oldCommandServer = none) :
    s.Holds .nothing := by
  simpa [Core.held, h] using hs.holds

lemma serviceReload_keeps {x : ReloadCalls} {s : Core} (hs : s.Holds .nothing)
    (hkeeps : x.service.Keeps reloadRequest s .nothing) :
    Go.Triple (· = s) (serviceReload x) (fun _ => Disciplined) fun _ => True := by
  have hpiece : ∀ {α : Type} {m : Go Core α}, Go.Within SameServers m → Go.Within SameSetup m →
      Go.Triple (fun t => SameSetup s t ∧ t.Holds .nothing) m
        (fun _ t => SameSetup s t ∧ t.Holds .nothing) fun _ => True :=
    fun hm hm' => ((Go.Triple.of_within hm' fun t u => setupFrame.trans s t u).and
      (holds_triple hm .nothing)).onPanic fun _ _ => trivial
  refine Go.Triple.pre (m := serviceReload x) (.bind (hpiece
    (sameServersFrame.setCoreStatus_within _ _ _) (setupFrame.setCoreStatus_within _ _ _))
    fun _ => ?_) fun t ht => ⟨ht ▸ setupFrame.refl s, ht ▸ hs⟩
  refine .bind (hpiece (sameServersFrame.clearService_within _) (setupFrame.clearService_within _))
    fun _ => ?_
  refine .bind (M := fun _ t => SameSetup s t ∧ t.Holds .nothing)
    (Go.Triple.modify fun t ht => ?_) fun _ => ?_
  · have hnone := ht.2.oldCommandServer_eq_none
    exact ⟨ht.1, ht.2.of_same t _ (.of_eq hnone.symm rfl)⟩
  refine .bind (hpiece (dropBox_servers _) (setupFrame.dropBox_within _)) fun _ => ?_
  refine .bind (M := fun _ => Disciplined) ?_ fun _ => Go.Triple.pure fun _ => id
  rintro t ⟨hst, ht⟩
  exact ((startService_keeps (hst.keeps hkeeps)).onPanic fun _ _ => trivial) t ⟨rfl, ht⟩

lemma Op.exec_keeps {s : Core} (op : Op) (hs : Disciplined s) (hop : op.KeepsServers s) :
    Go.Triple (· = s) op.exec (fun _ => Disciplined) fun _ => True := by
  have hreturn : ∀ {α : Type} {m : Go Core α} {R : Core → Prop},
      Go.Triple (· = s) m (fun _ => Disciplined) R →
      Go.Triple (· = s) m (fun _ => Disciplined) fun _ => True :=
    fun h => h.onPanic fun _ _ => trivial
  cases op with
  | start req x => exact Triple.discard (hreturn (start_keeps hs hop))
  | startService req x =>
    refine Triple.discard (hreturn ((startService_keeps hop).pre fun t ht => ⟨ht, ?_⟩))
    rw [ht]
    exact hs.holds
  | stop x =>
    obtain ⟨h, hleaves, hh⟩ : ∃ h,
        (if s.oldCommandServer.isSome then x.Leaves s h else h = .nothing) ∧ h ≠ .closed := by
      split_ifs with hsome
      · rcases hop hsome with h | h
        · exact ⟨.running, h, by simp⟩
        · exact ⟨.nothing, h, by simp⟩
      · exact ⟨.nothing, rfl, by simp⟩
    exact Triple.discard (hreturn ((stop_leaves hs hleaves).post
      fun _ _ ht => ht.2.2.disciplined hh))
  | restart req x => exact Triple.discard (hreturn (restart_keeps hs hop))
  | stopAndAlert msgType message x =>
    refine hreturn ((stopAndAlert_nothing msgType message x).conseq (fun t ht => ?_)
      (fun _ _ ht => ht.disciplined (by simp)) fun _ => id)
    rw [ht]
    exact hs.holds_nothing hop
  | serviceReload x =>
    exact Triple.discard (serviceReload_keeps (hs.holds_nothing hop.1) hop.2)

lemma Step.disciplined {s t : Core} {op : Op} (h : Step s op t) (hs : Disciplined s)
    (hop : op.KeepsServers s) : Disciplined t := (op.exec_keeps hs hop).ret rfl h

/-- In a run of operations that keep the servers, every server was closed once when it was dropped,
and the current one runs. -/
theorem run_disciplined {s t : Core} (hs : s.IsInitial)
    (hrun : Run Step (fun s op => op.KeepsServers s) s t) : Disciplined t :=
  hrun.invariant hs.disciplined fun _ _ _ hI hC hstep => hstep.disciplined hI hC

/-- The raw configuration with a command server. -/
def servedRequest : StartRequest := { rawRequest with enableOldCommandServer := true }

theorem run_disciplined_start_stop :
    Disciplined (stop {} (start servedRequest {} { coreLogFactory := true }).2).2 := by
  apply run_disciplined (s := { coreLogFactory := true }) ⟨rfl, rfl, rfl, rfl, rfl⟩
  refine .tail (.single (.start servedRequest {}) ?_ rfl) (.stop {}) (fun _ => Or.inr ?_) rfl
  · refine ⟨fun _ => rfl, fun _ _ => ?_⟩
    exact ⟨⟨"{}", {}, {}, rfl, rfl, rfl⟩, id, trivial, trivial, trivial, And.right⟩
  · refine ⟨⟨rfl, rfl⟩, ?_, trivial, trivial⟩
    rintro (⟨hrun, -⟩ | h | h)
    · cases hrun
    · exact h
    · exact h

/-- A start that fails after `startCommandServer` closes the new server and keeps it. -/
theorem not_run_disciplined :
    ¬ ∀ s t : Core, s.IsInitial → Run Step (fun _ _ => True) s t → Disciplined t := by
  intro h
  let s : Core := { coreLogFactory := true }
  let x : StartCalls := { service := { newService := .fail "decode config" } }
  have hrun : Run Step (fun _ _ => True) s (start servedRequest x s).2 :=
    .single (.start servedRequest x) trivial rfl
  obtain ⟨v, hv, -, hclose⟩ := (h s _ ⟨rfl, rfl, rfl, rfl, rfl⟩ hrun).current 0 rfl
  obtain rfl : { started := true, closeCalls := 1 } = v := Option.some.inj hv
  cases hclose

end HiddifyCore.V2
