import Mathlib.Data.List.Induction
import HiddifyCore.GoLib.Run

/-!
# The service of the mobile library

`Start`, `StartCommandClient` and `Stop` of `mobile/mobile.go` keep a command server, a command
client and a flag. `Start` drops the errors of the helpers that it calls, and raises the flag. A
helper makes a new server or client only if there is none, so one that failed stays, and the server
keeps the box service that it was made with.
-/

namespace HiddifyCore.Mobile

/-- `*libbox.CommandServer`. -/
structure CommandServer (Box : Type) where
  /-- The argument of `SetService`. -/
  service : Option Box
  /-- `Start` returned no error. -/
  started : Bool
  /-- `Close` was called and returned no error. -/
  closed : Bool := false

/-- `*libbox.CommandClient`. -/
structure CommandClient where
  /-- `Connect` returned no error. -/
  connected : Bool

/-- The package variables, and the command servers in the order in which they were made. -/
structure State (Box : Type) where
  service : Option Box := none
  servers : List (CommandServer Box) := []
  /-- The position of the server. -/
  commandServer : Option Nat := none
  commandClient : Option CommandClient := none
  serviceStarted : Bool := false

/-- What the methods of the server and the client return if they are called. -/
structure LibboxCalls where
  start : Except String PUnit := .ok ⟨⟩
  close : Except String PUnit := .ok ⟨⟩
  connect : Except String PUnit := .ok ⟨⟩

section Functions

variable {Box : Type} (x : LibboxCalls)

def startCommandServer (boxService : Option Box) (s : State Box) :
    Except String PUnit × State Box :=
  -- the condition of the source, under which it stores a nil
  let s := if boxService.isNone then { s with service := boxService } else s
  match s.commandServer with
  | some _ => (.ok ⟨⟩, s)
  | none =>
    (x.start, { s with
      servers := s.servers ++ [{ service := boxService, started := x.start.isOk }]
      commandServer := some s.servers.length })

def startCommandClient (s : State Box) : Except String PUnit × State Box :=
  match s.commandClient with
  | some _ => (.ok ⟨⟩, s)
  | none => (x.connect, { s with commandClient := some { connected := x.connect.isOk } })

def closeCommandServer (s : State Box) : State Box :=
  match s.commandServer with
  | some i => { s with
      servers := s.servers.modify i fun c => { c with closed := x.close.isOk }
      commandServer := none }
  | none => s

/-- The error of `Disconnect` is dropped with the client. -/
def closeCommandClient (s : State Box) : State Box := { s with commandClient := none }

def start (boxService : Option Box) (connectCommandClient : Bool) (s : State Box) : State Box :=
  let s := (startCommandServer x boxService s).2
  let s := if connectCommandClient then (startCommandClient x s).2 else s
  { s with serviceStarted := true }

def stop (s : State Box) : State Box :=
  { closeCommandClient (closeCommandServer x s) with serviceStarted := false }

end Functions

/-- A call from the app. -/
inductive Call (Box : Type) where
  | start (boxService : Option Box) (connectCommandClient : Bool)
  | startCommandClient
  | stop

section Runs

variable {Box : Type}

def Call.next (s : State Box) : Call Box × LibboxCalls → State Box
  | (.start boxService connectCommandClient, x) =>
    Mobile.start x boxService connectCommandClient s
  | (.startCommandClient, x) => (Mobile.startCommandClient x s).2
  | (.stop, x) => Mobile.stop x s

/-- Calls, each with what libbox answers. -/
abbrev Calls (Box : Type) := List (Call Box × LibboxCalls)

/-- The state after some calls. -/
def stateAfter (calls : Calls Box) : State Box := calls.foldl Call.next {}

/-- The box service of a `Start`. -/
def Call.box? : Call Box → Option (Option Box)
  | .start boxService _ => some boxService
  | .startCommandClient | .stop => none

def Call.isStop : Call Box → Bool
  | .stop => true
  | .start _ _ | .startCommandClient => false

/-- The call connects a command client if there is none. -/
def Call.connects : Call Box → Bool
  | .start _ connectCommandClient => connectCommandClient
  | .startCommandClient => true
  | .stop => false

/-- The box service of the last `Start`. -/
def lastBox (calls : Calls Box) : Option (Option Box) :=
  (calls.filterMap (·.1.box?)).getLast?

/-- A command server that was started and not closed serves the box service. -/
def IsServing (s : State Box) (box : Option Box) : Prop :=
  ∃ c ∈ s.servers, c.started = true ∧ c.closed = false ∧ c.service = box

/-- The flag says whether the box service of the last `Start` is served, and no handle is dead, so
that the next call tries again. -/
structure Agrees (calls : Calls Box) (s : State Box) : Prop where
  flag : s.serviceStarted = true ↔ ∃ box, lastBox calls = some box ∧ IsServing s box
  server : ∀ i c, s.commandServer = some i → s.servers[i]? = some c → c.started = true
  client : ∀ c, s.commandClient = some c → c.connected = true

/-- The state agrees after every call. -/
def AlwaysAgrees (calls : Calls Box) : Prop :=
  ∀ done, done <+: calls → Agrees done (stateAfter done)

/-! ### What a call must meet -/

/-- The calls behind the last `Stop`. -/
def sinceStop (calls : Calls Box) : Calls Box :=
  calls.foldl (fun since call => if call.1.isStop then [] else since ++ [call]) []

/-- The box service of the last `Start`, unless a `Stop` came after it. -/
def running (calls : Calls Box) : Option (Option Box) := lastBox (sinceStop calls)

/-- A command client was asked for behind the last `Stop`. -/
def hasConnected (calls : Calls Box) : Bool := (sinceStop calls).any (·.1.connects)

/-- The first `Start` starts its server, a later one has the same box service, and a `Stop` behind
one closes the server. -/
def ServerFits (calls : Calls Box) : Call Box × LibboxCalls → Prop
  | (.start boxService _, x) => match running calls with
    | none => x.start.isOk = true
    | some box => boxService = box
  | (.startCommandClient, _) => True
  | (.stop, x) => (running calls).isSome = true → x.close.isOk = true

/-- A command client that is made connects. -/
def ClientFits (calls : Calls Box) (call : Call Box × LibboxCalls) : Prop :=
  call.1.connects = true → hasConnected calls = false → call.2.connect.isOk = true

/-- No call of libbox fails, but for `Disconnect`, and no `Start` changes the box service of a
server. -/
def AllFit (calls : Calls Box) : Prop :=
  ∀ pre call post, calls = pre ++ call :: post → ServerFits pre call ∧ ClientFits pre call

/-! ### One call more -/

lemma stateAfter_snoc (calls : Calls Box) (call : Call Box × LibboxCalls) :
    stateAfter (calls ++ [call]) = Call.next (stateAfter calls) call := by
  rw [stateAfter, List.foldl_append]
  rfl

lemma sinceStop_snoc (calls : Calls Box) (call : Call Box × LibboxCalls) :
    sinceStop (calls ++ [call]) = if call.1.isStop then [] else sinceStop calls ++ [call] := by
  rw [sinceStop, List.foldl_append]
  rfl

lemma lastBox_snoc (calls : Calls Box) (call : Call Box × LibboxCalls) :
    lastBox (calls ++ [call]) = call.1.box?.or (lastBox calls) := by
  rw [lastBox, List.filterMap_append]
  cases h : call.1.box? with
  | none => simp [h, lastBox]
  | some box => simp [h]

lemma running_snoc (calls : Calls Box) (call : Call Box × LibboxCalls) :
    running (calls ++ [call]) =
      if call.1.isStop then none else call.1.box?.or (running calls) := by
  rw [running, sinceStop_snoc]
  split_ifs
  · rfl
  · exact lastBox_snoc _ _

lemma hasConnected_snoc (calls : Calls Box) (call : Call Box × LibboxCalls) :
    hasConnected (calls ++ [call]) =
      if call.1.isStop then false else hasConnected calls || call.1.connects := by
  rw [hasConnected, sinceStop_snoc]
  split_ifs
  · rfl
  · rw [List.any_append, List.any_cons, List.any_nil, Bool.or_false, hasConnected]

/-- A box service that runs is the one of the last `Start`. -/
lemma lastBox_of_running {calls : Calls Box} {box : Option Box} (h : running calls = some box) :
    lastBox calls = some box := by
  induction calls using List.reverseRecOn with
  | nil => exact h
  | append_singleton calls call ih =>
    rw [running_snoc] at h
    rw [lastBox_snoc]
    split_ifs at h
    cases hbox : call.1.box? with
    | none =>
      rw [hbox, Option.none_or] at h
      exact ih h
    | some box' => rwa [hbox] at h

/-! ### The state while all calls fit -/

/-- The server that serves a box service. -/
def serving (box : Option Box) : CommandServer Box := { service := box, started := true }

/-- What runs is served by the server that was made last, and all others are closed. -/
structure ServerGood (calls : Calls Box) (s : State Box) : Prop where
  flag : s.serviceStarted = (running calls).isSome
  servers : ∃ olds, (∀ c ∈ olds, c.started = true → c.closed = true) ∧
    s.servers = olds ++ ((running calls).map serving).toList ∧
    s.commandServer = (running calls).map fun _ => olds.length

/-- The client that was asked for is connected. -/
def ClientGood (calls : Calls Box) (s : State Box) : Prop :=
  s.commandClient = if hasConnected calls then some { connected := true } else none

lemma isServing_append {olds : List (CommandServer Box)} {c : CommandServer Box} {s : State Box}
    (hclosed : ∀ c ∈ olds, c.started = true → c.closed = true) (hs : s.servers = olds ++ [c])
    (box : Option Box) :
    IsServing s box ↔ c.started = true ∧ c.closed = false ∧ c.service = box := by
  rw [IsServing, hs]
  constructor
  · rintro ⟨d, hd, hstarted, hopen, hbox⟩
    rcases List.mem_append.mp hd with hd | hd
    · rw [hclosed d hd hstarted] at hopen
      cases hopen
    · rw [List.mem_singleton.mp hd] at hstarted hopen hbox
      exact ⟨hstarted, hopen, hbox⟩
  · exact fun h => ⟨c, by simp, h⟩

lemma not_isServing {olds : List (CommandServer Box)} {s : State Box}
    (hclosed : ∀ c ∈ olds, c.started = true → c.closed = true) (hs : s.servers = olds)
    (box : Option Box) : ¬ IsServing s box := by
  rintro ⟨c, hc, hstarted, hopen, -⟩
  rw [hclosed c (hs ▸ hc) hstarted] at hopen
  cases hopen

/-! ### The client -/

lemma startCommandServer_commandClient (x : LibboxCalls) (boxService : Option Box)
    (s : State Box) : (startCommandServer x boxService s).2.commandClient = s.commandClient := by
  obtain ⟨service, servers, _ | i, client, flag⟩ := s <;> cases boxService <;> rfl

lemma startCommandClient_commandClient (x : LibboxCalls) (s : State Box) :
    (startCommandClient x s).2.commandClient =
      s.commandClient.or (some { connected := x.connect.isOk }) := by
  rw [startCommandClient]
  cases h : s.commandClient with
  | none => rfl
  | some c => exact h

lemma next_commandClient (s : State Box) (call : Call Box × LibboxCalls) :
    (Call.next s call).commandClient =
      if call.1.isStop then none
      else if call.1.connects then s.commandClient.or (some { connected := call.2.connect.isOk })
      else s.commandClient := by
  obtain ⟨call, x⟩ := call
  cases call with
  | start boxService connectCommandClient =>
    have hserver := startCommandServer_commandClient x boxService s
    cases connectCommandClient with
    | false => exact hserver
    | true =>
      rw [← hserver]
      exact startCommandClient_commandClient x _
  | startCommandClient => exact startCommandClient_commandClient x s
  | stop => rfl

lemma clientGood_next {calls : Calls Box} {s : State Box} (h : ClientGood calls s)
    {call : Call Box × LibboxCalls} (hfits : ClientFits calls call) :
    ClientGood (calls ++ [call]) (Call.next s call) := by
  rw [ClientGood] at h ⊢
  rw [next_commandClient, hasConnected_snoc, h]
  cases hstop : call.1.isStop with
  | true => rfl
  | false =>
    cases hconnects : call.1.connects with
    | false => simp
    | true =>
      cases hold : hasConnected calls with
      | true => rfl
      | false =>
        rw [hfits hconnects hold]
        rfl

lemma client_next_iff {calls : Calls Box} {s : State Box} (h : ClientGood calls s)
    (call : Call Box × LibboxCalls) :
    (∀ c, (Call.next s call).commandClient = some c → c.connected = true) ↔
      ClientFits calls call := by
  constructor
  · intro hall hconnects hold
    have hstop : call.1.isStop = false := by
      obtain ⟨_ | _ | _, _⟩ := call
      · rfl
      · rfl
      · cases hconnects
    have hclient := next_commandClient s call
    rw [hstop, hconnects, h, hold] at hclient
    exact hall _ hclient
  · intro hfits c hc
    have hgood := clientGood_next h hfits
    rw [ClientGood, hc] at hgood
    split_ifs at hgood
    rw [Option.some.inj hgood]

/-! ### The server -/

lemma startCommandClient_frame (x : LibboxCalls) (s : State Box) :
    (startCommandClient x s).2 =
      { s with commandClient := (startCommandClient x s).2.commandClient } := by
  obtain ⟨service, servers, server, _ | c, flag⟩ := s <;> rfl

/-- A server that there is stays. -/
lemma startCommandServer_of_some (x : LibboxCalls) (boxService : Option Box) {s : State Box}
    {i : Nat} (h : s.commandServer = some i) :
    (startCommandServer x boxService s).2.servers = s.servers ∧
      (startCommandServer x boxService s).2.commandServer = some i := by
  obtain ⟨service, servers, server, client, flag⟩ := s
  obtain rfl : server = some i := h
  cases boxService <;> exact ⟨rfl, rfl⟩

lemma startCommandServer_of_none (x : LibboxCalls) (boxService : Option Box) {s : State Box}
    (h : s.commandServer = none) :
    (startCommandServer x boxService s).2.servers =
        s.servers ++ [{ service := boxService, started := x.start.isOk }] ∧
      (startCommandServer x boxService s).2.commandServer = some s.servers.length := by
  obtain ⟨service, servers, server, client, flag⟩ := s
  obtain rfl : server = none := h
  cases boxService <;> exact ⟨rfl, rfl⟩

/-- `Start` has the servers of `startCommandServer`. -/
lemma start_frame (x : LibboxCalls) (boxService : Option Box) (connectCommandClient : Bool)
    (s : State Box) :
    (start x boxService connectCommandClient s).servers =
        (startCommandServer x boxService s).2.servers ∧
      (start x boxService connectCommandClient s).commandServer =
        (startCommandServer x boxService s).2.commandServer ∧
      (start x boxService connectCommandClient s).serviceStarted = true := by
  cases connectCommandClient with
  | false => exact ⟨rfl, rfl, rfl⟩
  | true =>
    simp only [start, if_true]
    rw [startCommandClient_frame]
    exact ⟨rfl, rfl, trivial⟩

/-- What the flag and the server must be. -/
structure ServerAgrees (calls : Calls Box) (s : State Box) : Prop where
  flag : s.serviceStarted = true ↔ ∃ box, lastBox calls = some box ∧ IsServing s box
  server : ∀ i c, s.commandServer = some i → s.servers[i]? = some c → c.started = true

/-- With one server behind closed ones, all is decided by that server. -/
lemma serverAgrees_iff {calls : Calls Box} {s : State Box} {olds : List (CommandServer Box)}
    {c : CommandServer Box} {box : Option Box}
    (hclosed : ∀ c ∈ olds, c.started = true → c.closed = true)
    (hservers : s.servers = olds ++ [c]) (hserver : s.commandServer = some olds.length)
    (hflag : s.serviceStarted = true) (hopen : c.closed = false)
    (hlast : lastBox calls = some box) :
    ServerAgrees calls s ↔ c.started = true ∧ c.service = box := by
  have hserving := isServing_append hclosed hservers box
  constructor
  · intro h
    obtain ⟨box', hbox', hs⟩ := h.flag.mp hflag
    obtain rfl : box = box' := Option.some.inj (hlast.symm.trans hbox')
    exact ⟨(hserving.mp hs).1, (hserving.mp hs).2.2⟩
  · rintro ⟨hstarted, hbox⟩
    refine ⟨iff_of_true hflag ⟨box, hlast, hserving.mpr ⟨hstarted, hopen, hbox⟩⟩, ?_⟩
    intro i d hi hd
    obtain rfl : olds.length = i := Option.some.inj (hserver.symm.trans hi)
    rw [hservers, List.getElem?_concat_length] at hd
    rwa [← Option.some.inj hd]

/-- Without a server in the variable, all is decided by the flag. -/
lemma serverAgrees_of_none {calls : Calls Box} {s : State Box}
    (hclosed : ∀ c ∈ s.servers, c.started = true → c.closed = true)
    (hserver : s.commandServer = none) (hflag : s.serviceStarted = false) :
    ServerAgrees calls s := by
  refine ⟨iff_of_false (by simp [hflag]) ?_, fun i c hi => ?_⟩
  · rintro ⟨box, -, hs⟩
    exact not_isServing hclosed rfl box hs
  · rw [hserver] at hi
    cases hi

/-! ### The server over one call -/

/-- The two shapes of a good state: nothing runs, or the last server serves what runs. -/
lemma ServerGood.cases {calls : Calls Box} {s : State Box} (h : ServerGood calls s) :
    (running calls = none ∧ s.serviceStarted = false ∧ s.commandServer = none ∧
      ∀ c ∈ s.servers, c.started = true → c.closed = true) ∨
    ∃ box olds, running calls = some box ∧ s.serviceStarted = true ∧
      (∀ c ∈ olds, c.started = true → c.closed = true) ∧
      s.servers = olds ++ [serving box] ∧ s.commandServer = some olds.length := by
  obtain ⟨hflag, olds, hclosed, hservers, hserver⟩ := h
  cases hrun : running calls with
  | none =>
    rw [hrun] at hflag hservers hserver
    refine .inl ⟨rfl, hflag, hserver, ?_⟩
    rw [hservers]
    simpa using hclosed
  | some box =>
    rw [hrun] at hflag hservers hserver
    exact .inr ⟨box, olds, rfl, hflag, hclosed, hservers, hserver⟩

lemma serverGood_of_none {calls : Calls Box} {s : State Box} (hrun : running calls = none)
    (hflag : s.serviceStarted = false) (hserver : s.commandServer = none)
    (hclosed : ∀ c ∈ s.servers, c.started = true → c.closed = true) : ServerGood calls s := by
  refine ⟨by rw [hflag, hrun]; rfl, s.servers, hclosed, ?_, ?_⟩
  · rw [hrun]
    exact (List.append_nil _).symm
  · rw [hserver, hrun]
    rfl

lemma serverGood_of_some {calls : Calls Box} {s : State Box} {box : Option Box}
    {olds : List (CommandServer Box)} (hrun : running calls = some box)
    (hflag : s.serviceStarted = true) (hclosed : ∀ c ∈ olds, c.started = true → c.closed = true)
    (hservers : s.servers = olds ++ [serving box]) (hserver : s.commandServer = some olds.length) :
    ServerGood calls s := by
  refine ⟨by rw [hflag, hrun]; rfl, olds, hclosed, ?_, ?_⟩
  · rw [hservers, hrun]
    rfl
  · rw [hserver, hrun]
    rfl

lemma ServerGood.agrees {calls : Calls Box} {s : State Box} (h : ServerGood calls s) :
    ServerAgrees calls s := by
  rcases h.cases with ⟨-, hflag, hserver, hclosed⟩ |
    ⟨box, olds, hrun, hflag, hclosed, hservers, hserver⟩
  · exact serverAgrees_of_none hclosed hserver hflag
  · exact (serverAgrees_iff hclosed hservers hserver hflag rfl (lastBox_of_running hrun)).mpr
      ⟨rfl, rfl⟩

/-- A `Start`. -/
lemma server_next_start {calls : Calls Box} {s : State Box} (h : ServerGood calls s)
    (boxService : Option Box) (connectCommandClient : Bool) (x : LibboxCalls) :
    (ServerAgrees (calls ++ [(.start boxService connectCommandClient, x)])
        (Mobile.start x boxService connectCommandClient s) ↔
      ServerFits calls (.start boxService connectCommandClient, x)) ∧
    (ServerFits calls (.start boxService connectCommandClient, x) →
      ServerGood (calls ++ [(.start boxService connectCommandClient, x)])
        (Mobile.start x boxService connectCommandClient s)) := by
  obtain ⟨hservers', hserver', hflag'⟩ := start_frame x boxService connectCommandClient s
  have hlast : lastBox (calls ++ [(.start boxService connectCommandClient, x)]) = some boxService :=
    lastBox_snoc _ _
  have hrun' : running (calls ++ [(.start boxService connectCommandClient, x)]) = some boxService :=
    running_snoc _ _
  rcases h.cases with ⟨hrun, -, hserver, hclosed⟩ | ⟨box, olds, hrun, -, hclosed, hservers, hserver⟩
  · -- a server is made
    obtain ⟨hmade, hheld⟩ := startCommandServer_of_none x boxService hserver
    rw [hmade] at hservers'
    rw [hheld] at hserver'
    simp only [ServerFits, hrun]
    refine ⟨?_, fun hok => ?_⟩
    · rw [serverAgrees_iff hclosed hservers' hserver' hflag' rfl hlast, and_iff_left rfl]
    · rw [hok] at hservers'
      exact serverGood_of_some hrun' hflag' hclosed hservers' hserver'
  · -- the server stays as it is
    obtain ⟨hsame, hheld⟩ := startCommandServer_of_some x boxService hserver
    rw [hsame, hservers] at hservers'
    rw [hheld] at hserver'
    simp only [ServerFits, hrun]
    refine ⟨?_, fun hbox => ?_⟩
    · rw [serverAgrees_iff hclosed hservers' hserver' hflag' rfl hlast]
      exact ⟨fun hs => hs.2.symm, fun hbox => ⟨rfl, hbox.symm⟩⟩
    · rw [← hbox] at hservers'
      exact serverGood_of_some hrun' hflag' hclosed hservers' hserver'

lemma modify_concat_length {α : Type} (xs : List α) (a : α) (f : α → α) :
    (xs ++ [a]).modify xs.length f = xs ++ [f a] := by
  induction xs with
  | nil => rfl
  | cons x xs ih =>
    rw [List.cons_append, List.length_cons, List.modify_succ_cons, ih]
    rfl

/-- A `Stop`. -/
lemma server_next_stop {calls : Calls Box} {s : State Box} (h : ServerGood calls s)
    (x : LibboxCalls) :
    (ServerAgrees (calls ++ [(.stop, x)]) (Mobile.stop x s) ↔ ServerFits calls (.stop, x)) ∧
      (ServerFits calls (.stop, x) → ServerGood (calls ++ [(.stop, x)]) (Mobile.stop x s)) := by
  have hrun' : running (calls ++ [(.stop, x)]) = none := running_snoc _ _
  rcases h.cases with ⟨hrun, -, hserver, hclosed⟩ | ⟨box, olds, hrun, -, hclosed, hservers, hserver⟩
  · have hstop : Mobile.stop x s = { closeCommandClient s with serviceStarted := false } := by
      rw [Mobile.stop, closeCommandServer, hserver]
    simp only [ServerFits, hrun, Option.isSome_none, Bool.false_eq_true, false_imp_iff, iff_true,
      forall_const, hstop]
    exact ⟨serverAgrees_of_none hclosed hserver rfl, serverGood_of_none hrun' rfl hserver hclosed⟩
  · have hstop : (Mobile.stop x s).servers =
        olds ++ [{ serving box with closed := x.close.isOk }] := by
      rw [Mobile.stop, closeCommandServer, hserver]
      exact hservers ▸ modify_concat_length olds (serving box) _
    have hnone : (Mobile.stop x s).commandServer = none := by
      rw [Mobile.stop, closeCommandServer, hserver]
      rfl
    have hlast : lastBox (calls ++ [(.stop, x)]) = some box :=
      (lastBox_snoc _ _).trans (lastBox_of_running hrun)
    simp only [ServerFits, hrun, Option.isSome_some, true_imp_iff]
    have hall (hok : x.close.isOk = true) :
        ∀ c ∈ (Mobile.stop x s).servers, c.started = true → c.closed = true := by
      rw [hstop]
      intro c hc hstarted
      rcases List.mem_append.mp hc with hc | hc
      · exact hclosed c hc hstarted
      · rw [List.mem_singleton.mp hc]
        exact hok
    refine ⟨⟨fun hagrees => ?_, fun hok => serverAgrees_of_none (hall hok) hnone rfl⟩,
      fun hok => serverGood_of_none hrun' rfl hnone (hall hok)⟩
    -- a server that is left open serves the box service although the flag is down
    by_contra hopen
    rw [Bool.not_eq_true] at hopen
    have hserving := (isServing_append hclosed hstop box).mpr ⟨rfl, hopen, rfl⟩
    exact Bool.false_ne_true (hagrees.flag.mpr ⟨box, hlast, hserving⟩)

lemma server_next {calls : Calls Box} {s : State Box} (h : ServerGood calls s)
    (call : Call Box × LibboxCalls) :
    (ServerAgrees (calls ++ [call]) (Call.next s call) ↔ ServerFits calls call) ∧
      (ServerFits calls call → ServerGood (calls ++ [call]) (Call.next s call)) := by
  obtain ⟨call, x⟩ := call
  cases call with
  | start boxService connectCommandClient =>
    exact server_next_start h boxService connectCommandClient x
  | startCommandClient =>
    have hgood : ServerGood (calls ++ [(.startCommandClient, x)])
        (Mobile.startCommandClient x s).2 := by
      have hrun : running (calls ++ [(.startCommandClient, x)]) = running calls := running_snoc _ _
      rw [startCommandClient_frame]
      exact ⟨hrun ▸ h.flag, hrun ▸ h.servers⟩
    exact ⟨iff_of_true hgood.agrees trivial, fun _ => hgood⟩
  | stop => exact server_next_stop h x

/-! ### Runs -/

lemma agrees_iff {calls : Calls Box} {s : State Box} : Agrees calls s ↔
    ServerAgrees calls s ∧ ∀ c, s.commandClient = some c → c.connected = true :=
  ⟨fun h => ⟨⟨h.flag, h.server⟩, h.client⟩, fun h => ⟨h.1.flag, h.1.server, h.2⟩⟩

lemma good_of_allFit {calls : Calls Box} (h : AllFit calls) :
    ServerGood calls (stateAfter calls) ∧ ClientGood calls (stateAfter calls) := by
  induction calls using List.reverseRecOn with
  | nil => exact ⟨⟨rfl, [], by simp, rfl, rfl⟩, rfl⟩
  | append_singleton calls call ih =>
    obtain ⟨hcalls, hserver, hclient⟩ := GoLib.forall_split_snoc.mp h
    obtain ⟨hserverGood, hclientGood⟩ := ih hcalls
    rw [stateAfter_snoc]
    exact ⟨(server_next hserverGood call).2 hserver, clientGood_next hclientGood hclient⟩

/-- The state agrees after every call while all calls fit, and not after the first that does not. -/
theorem alwaysAgrees_iff (calls : Calls Box) : AlwaysAgrees calls ↔ AllFit calls := by
  induction calls using List.reverseRecOn with
  | nil =>
    refine iff_of_true (fun done hdone => ?_) fun pre call post h => ?_
    · rw [List.prefix_nil.mp hdone]
      refine ⟨iff_of_false Bool.false_ne_true ?_, ?_, ?_⟩
      · rintro ⟨box, hbox, -⟩
        cases hbox
      · rintro i c ⟨⟩
      · rintro c ⟨⟩
    · simp at h
  | append_singleton calls call ih =>
    have hsnoc : AllFit (calls ++ [call]) ↔
        AllFit calls ∧ ServerFits calls call ∧ ClientFits calls call := GoLib.forall_split_snoc
    rw [AlwaysAgrees, GoLib.forall_prefix_snoc, ← AlwaysAgrees, ih, hsnoc, stateAfter_snoc,
      agrees_iff]
    refine and_congr_right fun hcalls => ?_
    obtain ⟨hserver, hclient⟩ := good_of_allFit hcalls
    rw [(server_next hserver call).1, client_next_iff hclient]

end Runs

/-- A `Start` whose server does not start: the flag is raised. -/
theorem not_alwaysAgrees : ¬ ∀ {Box : Type} (calls : Calls Box), AlwaysAgrees calls := by
  intro h
  have hagrees := @h Unit
    [(.start (some ()) false, { start := .error "listen unix: address already in use" })] _
    (List.prefix_refl _)
  obtain ⟨box, -, c, hc, hstarted, -⟩ := hagrees.flag.mp rfl
  rw [List.mem_singleton.mp hc] at hstarted
  cases hstarted

end HiddifyCore.Mobile
