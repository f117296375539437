import HiddifyCore.GoLib.Text
import HiddifyCore.Config.Tunnel

/-!
# Reaching the tunnel service

`startTunnelRequest` and what it falls back on: when nothing listens on the port of the service, or
its `Start` fails, `runTunnelService` has a shell command install the service, or else run it, and
asks once more. The machine is what these functions find around them: the port, the service that
answers behind it, and the commands. A session is a machine with the record of the messages that
were answered and of the commands that were tried, each with its error.

The shell commands are those of the build for systems other than Windows.
-/

namespace HiddifyCore.Config

open GoLib GoLib.Strings

/-- A method of the client of the tunnel service. -/
inductive Rpc where
  | start (req : TunnelStartRequest)
  | stop
  | exit
  deriving DecidableEq

/-- A call of a method, with the error it returned. -/
structure Answered where
  rpc : Rpc
  err : Option String
  deriving DecidableEq

/-- A command that `ExecuteCmd` ran, with its error. -/
structure Tried where
  background : Bool
  words : List String
  err : Option String
  deriving DecidableEq

structure Machine (σ : Type) where
  /-- Listening on the port fails. -/
  portInUse : σ → Bool
  /-- The error of `grpc.Dial`, which does not wait for the service. -/
  dial : Option String := none
  answer : Rpc → σ → Option String × σ
  /-- The words of a command; `cmd.Start` if it is a background command, `cmd.Run` if not. -/
  command : Bool → List String → σ → Option String × σ
  /-- A second passes. -/
  wait : σ → σ
  /-- The environment variable `APPIMAGE`. -/
  appImage : String := ""
  /-- `getTunnelServicePath()`. -/
  tunnelServicePath : String

structure Session (σ : Type) where
  world : σ
  answered : List Answered := []
  tried : List Tried := []

/-- The two results of a request. -/
abbrev Requested : Type := Bool × Option String

variable {σ : Type} (m : Machine σ)

namespace Session

def call (rpc : Rpc) : Go (Session σ) (Option String) := fun s =>
  let (err, world) := m.answer rpc s.world
  (.ret err, { s with world := world, answered := s.answered ++ [⟨rpc, err⟩] })

def command (background : Bool) (words : List String) : Go (Session σ) (Option String) := fun s =>
  let (err, world) := m.command background words s.world
  (.ret err, { s with world := world, tried := s.tried ++ [⟨background, words, err⟩] })

def wait : Go (Session σ) PUnit := Go.modify fun s => { s with world := m.wait s.world }

end Session

def isPortInUse : Go (Session σ) Bool := do
  pure (m.portInUse (← Go.get).world)

/-- `ExitTunnelService`. The client returns a response exactly when it returns no error, and the
function takes a response for a failure. -/
def exitTunnelService : Go (Session σ) Requested := do
  match m.dial with
  | some err => pure (false, some err)
  | none =>
    let err ← Session.call m .exit
    if err.isNone then pure (false, err) else pure (true, none)

/-- The commands that run the executable as root. -/
def rootCommands (executablePath : String) (args : List String) : List (List String) := [
  ["cocoasudo", "--prompt=Hiddify needs root for tunneling.", executablePath],
  ["gksu", executablePath],
  ["pkexec", executablePath],
  ["xterm", "-e", "sudo", executablePath, join args ' '],
  ["sudo", executablePath]]

/-- The loop of `ExecuteCmd`, which ends with the first command that succeeds. -/
def tryCommands (background : Bool) : List (List String) → Go (Session σ) (String × Option String)
  | [] => pure ("", some "Error executing run as root shell command")
  | words :: rest => do
    match ← Session.command m background words with
    | none => pure ("Ok", none)
    | some _ => tryCommands background rest

def executeCmd (executablePath : String) (background : Bool) (args : List String) :
    Go (Session σ) (String × Option String) :=
  if m.appImage ≠ "" then
    if background then
      tryCommands m background (rootCommands m.appImage args)
    else
      pure ("Fail", some "Appimage cannot have service")
  else
    tryCommands m background (rootCommands executablePath args)

/-- `startTunnelRequest`, with `install` for `runTunnelService` if the service is to be
installed. -/
def startTunnelRequestOr (opt : ConfigOptions) (install : Option (Go (Session σ) Requested)) :
    Go (Session σ) Requested := do
  if !(← isPortInUse m) then
    match install with
    | some runTunnelService => runTunnelService
    | none => pure (false, some "service is not running")
  else if m.dial.isSome then
    Go.panic "invalid memory address or nil pointer dereference"
  else
    let _ ← Session.call m .stop
    match ← Session.call m (.start (tunnelStartRequest opt)) with
    | some err =>
      match install with
      | some runTunnelService => do
        let _ ← exitTunnelService m
        runTunnelService
      | none => pure (false, some err)
    | none => pure (true, none)

def runTunnelService (opt : ConfigOptions) : Go (Session σ) Requested := do
  let executablePath := m.tunnelServicePath
  let mut err := (← executeCmd m executablePath false ["tunnel", "install"]).2
  if err.isSome then
    err := (← executeCmd m executablePath true ["tunnel", "run"]).2
  if err.isNone then
    Session.wait m
  startTunnelRequestOr m opt none

def startTunnelRequest (opt : ConfigOptions) (installService : Bool) : Go (Session σ) Requested :=
  startTunnelRequestOr m opt (if installService then some (runTunnelService m opt) else none)

/-! ### A machine -/

/-- The command ends with two arguments that have the executable install or run the service. Without
a subcommand the executable shows how it is used. -/
def passesArguments (words : List String) : Bool :=
  match words.reverse with
  | arg :: word :: _ => word = "tunnel" ∧ (arg = "install" ∨ arg = "run")
  | _ => false

/-- A command opens the port when it passes the arguments, and every program is there. -/
def sampleMachine : Machine Bool where
  portInUse listens := listens
  answer _ listens := (if listens then none else some "connection refused", listens)
  command _ words listens := (none, listens || passesArguments words)
  wait listens := listens
  tunnelServicePath := "/opt/hiddify/HiddifyCli"

/-! ### The conversation with the service -/

/-- One request to a service that listens: it is stopped, whatever it says to that, and started. -/
def attempt (opt : ConfigOptions) (stopErr startErr : Option String) : List Answered :=
  [⟨.stop, stopErr⟩, ⟨.start (tunnelStartRequest opt), startErr⟩]

/-- What a request that must not install the service sends, with its results. -/
inductive Asks (opt : ConfigOptions) : List Answered → Requested → Prop where
  | unserved : Asks opt [] (false, some "service is not running")
  | refused (stopErr : Option String) (err : String) :
      Asks opt (attempt opt stopErr (some err)) (false, some err)
  | started (stopErr : Option String) : Asks opt (attempt opt stopErr none) (true, none)

/-- What a request that may install it sends: a service that refused is told to exit first. -/
inductive AsksTwice (opt : ConfigOptions) : List Answered → Requested → Prop where
  | once {msgs : List Answered} {r : Requested} (h : Asks opt msgs r) : AsksTwice opt msgs r
  | replaced (stopErr : Option String) (err : String) (exitErr : Option String)
      {msgs : List Answered} {r : Requested} (h : Asks opt msgs r) :
      AsksTwice opt (attempt opt stopErr (some err) ++ ⟨.exit, exitErr⟩ :: msgs) r

/-- The last message is a `Start` that was answered without an error. -/
def EndsStarted (opt : ConfigOptions) (msgs : List Answered) : Prop :=
  ⟨.start (tunnelStartRequest opt), none⟩ ∈ msgs.getLast?

/-- Success is reported with a nil error, and exactly when the service said so last. -/
def Reports (opt : ConfigOptions) (msgs : List Answered) (r : Requested) : Prop :=
  (r.1 = true ↔ r.2 = none) ∧ (r.1 = true ↔ EndsStarted opt msgs)

lemma Asks.reports {opt : ConfigOptions} {msgs : List Answered} {r : Requested}
    (h : Asks opt msgs r) : Reports opt msgs r := by
  cases h <;> simp [Reports, EndsStarted, attempt]

/-- A retry that finds nobody comes after an `Exit`. -/
lemma AsksTwice.reports {opt : ConfigOptions} {msgs : List Answered} {r : Requested}
    (h : AsksTwice opt msgs r) : Reports opt msgs r := by
  cases h with
  | once h => exact h.reports
  | replaced stopErr err exitErr h =>
    cases h <;> simp [Reports, EndsStarted, attempt]

/-! ### The commands -/

/-- The executable that a command runs. -/
def executable : String := if m.appImage ≠ "" then m.appImage else m.tunnelServicePath

/-- The commands that `ExecuteCmd` has for these arguments. -/
def commandsFor (background : Bool) (args : List String) : List (List String) :=
  if m.appImage ≠ "" ∧ ¬ background then [] else rootCommands (executable m) args

/-- What `ExecuteCmd` has tried of these commands: those that failed, and behind them the first that
succeeded, or none when all of them failed. -/
inductive TriesOf (background : Bool) : List (List String) → List Tried → Bool → Prop where
  | exhausted : TriesOf background [] [] false
  | succeeded (words : List String) (rest : List (List String)) :
      TriesOf background (words :: rest) [⟨background, words, none⟩] true
  | failed (words : List String) (err : String) {rest : List (List String)} {tried : List Tried}
      {ok : Bool} (h : TriesOf background rest tried ok) :
      TriesOf background (words :: rest) (⟨background, words, some err⟩ :: tried) ok

/-- Without a success every command was tried, and failed. -/
lemma TriesOf.failed_all {background : Bool} {cmds : List (List String)} {tried : List Tried}
    {ok : Bool} (h : TriesOf background cmds tried ok) (hok : ok = false) :
    tried.map (·.words) = cmds ∧ ∀ t ∈ tried, t.err.isSome := by
  induction h with
  | exhausted => exact ⟨rfl, nofun⟩
  | succeeded words rest => cases hok
  | failed words err h ih =>
    obtain ⟨hwords, herr⟩ := ih hok
    exact ⟨congrArg (words :: ·) hwords, List.forall_mem_cons.mpr ⟨rfl, herr⟩⟩

/-- What a request tries, if anything: the commands that install the service up to the first that
succeeds, and when all of them failed, those that run it. -/
inductive Tries : List Tried → Prop where
  | nothing : Tries []
  | install {tried : List Tried}
      (h : TriesOf false (commandsFor m false ["tunnel", "install"]) tried true) : Tries tried
  | run {failed tried : List Tried} {ok : Bool}
      (hinstall : failed.map (·.words) = commandsFor m false ["tunnel", "install"])
      (hfailed : ∀ t ∈ failed, t.err.isSome)
      (h : TriesOf true (commandsFor m true ["tunnel", "run"]) tried ok) :
      Tries (failed ++ tried)

/-- Four of the commands pass no arguments, and `xterm` passes them as one. -/
lemma passesArguments_rootCommands (executablePath : String) {arg : String} {words : List String}
    (h : words ∈ rootCommands executablePath ["tunnel", arg])
    (harg : arg = "install" ∨ arg = "run") :
    passesArguments words = false := by
  simp only [rootCommands, List.mem_cons, List.not_mem_nil, or_false] at h
  obtain rfl | rfl | rfl | rfl | rfl := h
  · simp [passesArguments]
  · simp [passesArguments]
  · simp [passesArguments]
  · obtain rfl | rfl := harg <;> simp [passesArguments, join]
  · simp [passesArguments]

lemma passesArguments_commandsFor {background : Bool} {arg : String} {words : List String}
    (h : words ∈ commandsFor m background ["tunnel", arg]) (harg : arg = "install" ∨ arg = "run") :
    passesArguments words = false := by
  unfold commandsFor at h
  split_ifs at h
  · simp at h
  · exact passesArguments_rootCommands _ h harg

/-! ### What the functions do to a session -/

section Session

variable {m}

lemma call_run (rpc : Rpc) (s : Session σ) :
    Session.call m rpc s = (.ret (m.answer rpc s.world).1,
      { s with world := (m.answer rpc s.world).2
               answered := s.answered ++ [⟨rpc, (m.answer rpc s.world).1⟩] }) := rfl

/-- A session with these messages and commands, in a world with `I`. -/
def At (I : σ → Prop) (msgs : List Answered) (tried : List Tried) (s : Session σ) : Prop :=
  I s.world ∧ s.answered = msgs ∧ s.tried = tried

variable {I : σ → Prop} {msgs : List Answered} {tried : List Tried}

/-- Commands are tried in order until one succeeds, and nothing is sent meanwhile. -/
lemma tryCommands_spec (background : Bool) {cs : List (List String)}
    (hI : ∀ words ∈ cs, ∀ w, I w → I (m.command background words w).2) :
    Go.Triple (At I msgs tried) (tryCommands m background cs)
      (fun r s => ∃ new, TriesOf background cs new r.2.isNone ∧ At I msgs (tried ++ new) s)
      fun _ => False := by
  induction cs generalizing tried with
  | nil => exact Go.Triple.pure fun s hs => ⟨[], .exhausted, by rwa [List.append_nil]⟩
  | cons words cs ih =>
    refine Go.Triple.bind (M := fun err => At I msgs (tried ++ [⟨background, words, err⟩])) ?_
      fun err => ?_
    · rintro s ⟨hw, hmsgs, htried⟩
      exact ⟨hI words List.mem_cons_self _ hw, hmsgs, congrArg (· ++ [_]) htried⟩
    · rcases err with - | err
      · exact Go.Triple.pure fun s hs => ⟨[⟨background, words, none⟩], .succeeded words cs, hs⟩
      · refine (ih fun words' hmem => hI words' (List.mem_cons_of_mem _ hmem)).post ?_
        rintro r s ⟨new, hnew, hs⟩
        refine ⟨⟨background, words, some err⟩ :: new, .failed words err hnew, ?_⟩
        rwa [List.append_assoc] at hs

lemma executeCmd_spec (background : Bool) (args : List String)
    (hI : ∀ words ∈ commandsFor m background args, ∀ w, I w →
      I (m.command background words w).2) :
    Go.Triple (At I msgs tried) (executeCmd m m.tunnelServicePath background args)
      (fun r s => ∃ new, TriesOf background (commandsFor m background args) new r.2.isNone ∧
        At I msgs (tried ++ new) s)
      fun _ => False := by
  unfold executeCmd
  split_ifs with happ hback
  · have hcmds : commandsFor m background args = rootCommands m.appImage args := by
      simp [commandsFor, executable, happ, hback]
    rw [hcmds] at hI ⊢
    exact tryCommands_spec background hI
  · have hcmds : commandsFor m background args = [] := by simp [commandsFor, happ, hback]
    rw [hcmds]
    exact Go.Triple.pure fun s hs => ⟨[], .exhausted, by rwa [List.append_nil]⟩
  · have hcmds : commandsFor m background args = rootCommands m.tunnelServicePath args := by
      simp [commandsFor, executable, happ]
    rw [hcmds] at hI ⊢
    exact tryCommands_spec background hI

/-- Neither the commands for the service nor a second of waiting ends `I`. -/
structure Keeps (m : Machine σ) (I : σ → Prop) : Prop where
  command (background : Bool) {arg : String} (harg : arg = "install" ∨ arg = "run")
    {words : List String} (h : words ∈ commandsFor m background ["tunnel", arg]) {w : σ}
    (hw : I w) : I (m.command background words w).2
  wait {w : σ} (hw : I w) : I (m.wait w)

lemma Keeps.trivial (m : Machine σ) : Keeps m fun _ => True :=
  ⟨fun _ _ _ _ _ _ _ => .intro, fun _ => .intro⟩

/-- `runTunnelService` is what it tries, and then the request that it ends with. -/
lemma runTunnelService_spec (hI : Keeps m I) (opt : ConfigOptions)
    {Q : Requested → Session σ → Prop} {R : Session σ → Prop}
    (hretry : ∀ cmds, Tries m cmds →
      Go.Triple (At I msgs (tried ++ cmds)) (startTunnelRequestOr m opt none) Q R) :
    Go.Triple (At I msgs tried) (runTunnelService m opt) Q R := by
  have hwaited (cmds : List Tried) (h : Tries m cmds) :
      Go.Triple (At I msgs (tried ++ cmds))
        (do Session.wait m; startTunnelRequestOr m opt none) Q R :=
    Go.Triple.bind (Go.Triple.modify fun s hs => ⟨hI.wait hs.1, hs.2⟩) fun _ => hretry cmds h
  unfold runTunnelService
  dsimp only
  refine Go.Triple.bind ((executeCmd_spec false ["tunnel", "install"]
    fun words hmem w hw => hI.command false (.inl rfl) hmem hw).onPanic fun _ => False.elim)
    fun r => ?_
  rcases r with ⟨out, - | err⟩
  · rintro s ⟨new, hnew, hs⟩
    exact hwaited _ (.install hnew) s hs
  · -- every command that installs has failed
    rintro s ⟨failed, hnew, hs⟩
    obtain ⟨hinstall, hfailed⟩ := hnew.failed_all rfl
    refine Go.Triple.bind ((executeCmd_spec true ["tunnel", "run"]
      fun words hmem w hw => hI.command true (.inr rfl) hmem hw).onPanic fun _ => False.elim)
      (fun r' => ?_) s hs
    rintro s' ⟨ran, hran, hs'⟩
    rw [List.append_assoc] at hs'
    have htries := Tries.run hinstall hfailed hran
    split_ifs
    · exact hwaited _ htries s' hs'
    · exact hretry _ htries s' hs'

end Session

section Request

variable {m} {opt : ConfigOptions} {install : Option (Go (Session σ) Requested)} {s : Session σ}

/-- Nothing listens on the port. -/
lemma startTunnelRequestOr_of_free (h : m.portInUse s.world = false) :
    startTunnelRequestOr m opt install s =
      install.elim (.ret (false, some "service is not running"), s) (· s) := by
  simp only [startTunnelRequestOr, isPortInUse, Go.bind_run, Go.get, Go.pure_run, h]
  cases install <;> rfl

/-- Somebody does, and answers the two messages of the request. -/
lemma startTunnelRequestOr_of_inUse (hdial : m.dial = none) (opt : ConfigOptions)
    (install : Option (Go (Session σ) Requested)) (h : m.portInUse s.world = true) :
    ∃ stopErr startErr w w', m.answer (.start (tunnelStartRequest opt)) w = (startErr, w') ∧
      startTunnelRequestOr m opt install s =
        (match startErr, install with
          | some _, some runTunnelService => do
            let _ ← exitTunnelService m
            runTunnelService
          | some err, none => pure (false, some err)
          | none, _ => pure (true, none) : Go (Session σ) Requested)
          { s with world := w', answered := s.answered ++ attempt opt stopErr startErr } := by
  rcases hstop : m.answer .stop s.world with ⟨stopErr, w⟩
  rcases hstart : m.answer (.start (tunnelStartRequest opt)) w with ⟨startErr, w'⟩
  refine ⟨stopErr, startErr, w, w', hstart, ?_⟩
  simp only [startTunnelRequestOr, isPortInUse, Go.bind_run, Go.get, Go.pure_run, h, hdial,
    Bool.not_true, Bool.false_eq_true, if_false, Option.isSome_none, call_run, hstop, hstart,
    List.append_assoc]
  cases startErr <;> cases install <;> rfl

lemma exitTunnelService_run (hdial : m.dial = none) (s : Session σ) :
    ∃ r err w, exitTunnelService m s =
      (.ret r, { s with world := w, answered := s.answered ++ [⟨.exit, err⟩] }) := by
  rcases hexit : m.answer .exit s.world with ⟨err, w⟩
  simp only [exitTunnelService, hdial, Go.bind_run, call_run, hexit]
  cases err with
  | none => exact ⟨_, none, w, rfl⟩
  | some err => exact ⟨_, some err, w, rfl⟩

end Request

/-! ### Requests -/

section Request

variable {m} {opt : ConfigOptions}

/-- The world that a request leaves, by its results. -/
inductive EndsIn (m : Machine σ) (opt : ConfigOptions) : Requested → σ → Prop where
  | started {w w' : σ} (h : m.answer (.start (tunnelStartRequest opt)) w = (none, w')) :
      EndsIn m opt (true, none) w'
  | refused {w w' : σ} {err : String}
      (h : m.answer (.start (tunnelStartRequest opt)) w = (some err, w')) :
      EndsIn m opt (false, some err) w'
  | unserved {w : σ} (h : m.portInUse w = false) :
      EndsIn m opt (false, some "service is not running") w

/-- A request without an installation asks once at most and tries no command. -/
lemma startTunnelRequestOr_none_asks (hdial : m.dial = none) (opt : ConfigOptions)
    (msgs : List Answered) (tried : List Tried) :
    Go.Triple (At (fun _ => True) msgs tried) (startTunnelRequestOr m opt none)
      (fun r s => ∃ new, Asks opt new r ∧ EndsIn m opt r s.world ∧
        At (fun _ => True) (msgs ++ new) tried s)
      fun _ => False := by
  rintro s ⟨-, hmsgs, htried⟩
  cases hport : m.portInUse s.world with
  | false =>
    rw [startTunnelRequestOr_of_free hport]
    exact ⟨[], .unserved, .unserved hport, trivial, by rw [hmsgs, List.append_nil], htried⟩
  | true =>
    obtain ⟨stopErr, startErr, w, w', hstart, hrun⟩ :=
      startTunnelRequestOr_of_inUse hdial opt none hport
    rw [hrun]
    cases startErr with
    | none =>
      exact ⟨_, .started stopErr, .started hstart, trivial, congrArg (· ++ _) hmsgs, htried⟩
    | some err =>
      exact ⟨_, .refused stopErr err, .refused hstart, trivial, congrArg (· ++ _) hmsgs, htried⟩

/-- What a request sends and tries, with its results. -/
inductive Requests (m : Machine σ) (opt : ConfigOptions) :
    Bool → List Answered → List Tried → Requested → Prop where
  | asking {msgs : List Answered} {r : Requested} (h : Asks opt msgs r) :
      Requests m opt false msgs [] r
  | installing {msgs : List Answered} {cmds : List Tried} {r : Requested}
      (h : AsksTwice opt msgs r) (hcmds : Tries m cmds) : Requests m opt true msgs cmds r

lemma Requests.reports {installService : Bool} {msgs : List Answered} {cmds : List Tried}
    {r : Requested} (h : Requests m opt installService msgs cmds r) : Reports opt msgs r := by
  cases h with
  | asking h => exact h.reports
  | installing h => exact h.reports

/-- `runTunnelService` asks once, after its commands. -/
lemma runTunnelService_asks (hdial : m.dial = none) (opt : ConfigOptions) (msgs : List Answered)
    (tried : List Tried) :
    Go.Triple (At (fun _ => True) msgs tried) (runTunnelService m opt)
      (fun r s => ∃ new cmds, Asks opt new r ∧ Tries m cmds ∧
        EndsIn m opt r s.world ∧ At (fun _ => True) (msgs ++ new) (tried ++ cmds) s)
      fun _ => False := by
  refine runTunnelService_spec (.trivial m) opt fun cmds hcmds => ?_
  refine (startTunnelRequestOr_none_asks hdial opt msgs (tried ++ cmds)).post ?_
  rintro r s ⟨new, hnew, hends, hs⟩
  exact ⟨new, cmds, hnew, hcmds, hends, hs⟩

lemma startTunnelRequest_requests (hdial : m.dial = none) (opt : ConfigOptions)
    (installService : Bool) (msgs : List Answered) (tried : List Tried) :
    Go.Triple (At (fun _ => True) msgs tried) (startTunnelRequest m opt installService)
      (fun r s => ∃ new cmds, Requests m opt installService new cmds r ∧
        EndsIn m opt r s.world ∧ At (fun _ => True) (msgs ++ new) (tried ++ cmds) s)
      fun _ => False := by
  cases installService with
  | false =>
    refine (startTunnelRequestOr_none_asks hdial opt msgs tried).post ?_
    rintro r s ⟨new, hnew, hends, hs⟩
    exact ⟨new, [], .asking hnew, hends, by rwa [List.append_nil]⟩
  | true =>
    rintro s ⟨-, hmsgs, htried⟩
    simp only [startTunnelRequest, if_true]
    cases hport : m.portInUse s.world with
    | false =>
      rw [startTunnelRequestOr_of_free hport]
      refine (runTunnelService_asks hdial opt msgs tried).post ?_ s ⟨trivial, hmsgs, htried⟩
      rintro r t ⟨new, cmds, hnew, hcmds, ht⟩
      exact ⟨new, cmds, .installing (.once hnew) hcmds, ht⟩
    | true =>
      obtain ⟨stopErr, startErr, w, w', hstart, hrun⟩ :=
        startTunnelRequestOr_of_inUse hdial opt (some (runTunnelService m opt)) hport
      rw [hrun]
      cases startErr with
      | none =>
        refine ⟨_, [], .installing (.once (.started stopErr)) .nothing, .started hstart,
          trivial, congrArg (· ++ _) hmsgs, ?_⟩
        rw [List.append_nil]
        exact htried
      | some err =>
        -- the service refused to start: it is told to exit, and is installed again
        obtain ⟨_, exitErr, w'', hexit⟩ := exitTunnelService_run hdial
          { s with world := w', answered := s.answered ++ attempt opt stopErr (some err) }
        simp only [Go.bind_run, hexit]
        refine (runTunnelService_asks hdial opt
          (msgs ++ attempt opt stopErr (some err) ++ [⟨.exit, exitErr⟩]) tried).post ?_ _
          ⟨trivial, by dsimp only; rw [hmsgs], htried⟩
        rintro r t ⟨new, cmds, hnew, hcmds, hends, ht⟩
        refine ⟨_, cmds, .installing (.replaced stopErr err exitErr hnew) hcmds, hends, ?_⟩
        rwa [List.append_assoc, List.append_assoc, List.singleton_append] at ht

/-- Whatever the machine does, a request ends, unless `grpc.Dial` fails. It has sent a `Stop` and a
`Start` with the values of the options, and may have told a service that refused them to exit and
asked a second time; it has tried the commands that install the service up to the first that
succeeded, and those that run it only when every one of the former was tried and failed; and it
reports success exactly when the last thing it heard was a `Start` answered without an error. -/
theorem startTunnelRequest_reports (hdial : m.dial = none) (opt : ConfigOptions)
    (installService : Bool) (s : Session σ) :
    ∃ r t msgs cmds, startTunnelRequest m opt installService s = (.ret r, t) ∧
      t.answered = s.answered ++ msgs ∧ t.tried = s.tried ++ cmds ∧
      Requests m opt installService msgs cmds r ∧ Reports opt msgs r := by
  have h := startTunnelRequest_requests hdial opt installService s.answered s.tried s
    ⟨trivial, rfl, rfl⟩
  rcases hrun : startTunnelRequest m opt installService s with ⟨r | e, t⟩
  · rw [hrun] at h
    obtain ⟨msgs, cmds, hreq, -, -, hmsgs, hcmds⟩ := h
    exact ⟨r, t, msgs, cmds, rfl, hmsgs, hcmds, hreq, hreq.reports⟩
  · rw [hrun] at h
    exact h.elim

/-- A service that answers. -/
theorem startTunnelRequest_reports_answered :
    ∃ r t msgs cmds, startTunnelRequest sampleMachine {} true { world := true } = (.ret r, t) ∧
      t.answered = [] ++ msgs ∧ t.tried = [] ++ cmds ∧
      Requests sampleMachine {} true msgs cmds r ∧ Reports {} msgs r :=
  startTunnelRequest_reports (m := sampleMachine) rfl {} true { world := true }

end Request

/-! ### A service that is not there -/

/-- In a world with `I` no tunnel service listens, and none comes up unless a command passes the
arguments for it. -/
structure Unserved (m : Machine σ) (I : σ → Prop) : Prop where
  port {w : σ} (hw : I w) : m.portInUse w = false
  command (background : Bool) {words : List String} (h : passesArguments words = false) {w : σ}
    (hw : I w) : I (m.command background words w).2
  wait {w : σ} (hw : I w) : I (m.wait w)

variable {m} {I : σ → Prop}

/-- No command for the service passes its arguments. -/
lemma Unserved.keeps (h : Unserved m I) : Keeps m I where
  command background _ harg _ hmem _ hw :=
    h.command background (passesArguments_commandsFor m hmem harg) hw
  wait hw := h.wait hw

/-- When no service is there, none is installed on demand: the request comes back without having
sent anything, and there is still none. -/
theorem startTunnelRequest_unserved (hI : Unserved m I) (opt : ConfigOptions)
    (installService : Bool) {s : Session σ} (hs : I s.world) :
    ∃ t, startTunnelRequest m opt installService s =
        (.ret (false, some "service is not running"), t) ∧
      t.answered = s.answered ∧ I t.world := by
  have hasked {s : Session σ} (hw : I s.world) : startTunnelRequestOr m opt none s =
      (.ret (false, some "service is not running"), s) := startTunnelRequestOr_of_free (hI.port hw)
  cases installService with
  | false => exact ⟨s, hasked hs, rfl, hs⟩
  | true =>
    have hretry (cmds : List Tried) : Go.Triple (At I s.answered (s.tried ++ cmds))
        (startTunnelRequestOr m opt none)
        (fun r t => r = (false, some "service is not running") ∧ t.answered = s.answered ∧
          I t.world) fun _ => False := by
      rintro t ⟨hw, hmsgs, -⟩
      rw [hasked hw]
      exact ⟨rfl, hmsgs, hw⟩
    have h := runTunnelService_spec hI.keeps opt (fun cmds _ => hretry cmds) s ⟨hs, rfl, rfl⟩
    rw [startTunnelRequest, if_pos rfl, startTunnelRequestOr_of_free (hI.port hs)]
    simp only [Option.elim_some]
    rcases hrun : runTunnelService m opt s with ⟨r | e, t⟩
    · rw [hrun] at h
      obtain ⟨rfl, hmsgs, hw⟩ := h
      exact ⟨t, rfl, hmsgs, hw⟩
    · rw [hrun] at h
      exact h.elim

/-- The first command succeeds, but shows how the executable is used. -/
theorem startTunnelRequest_unserved_sample :
    ∃ t, startTunnelRequest sampleMachine {} true { world := false } =
        (.ret (false, some "service is not running"), t) ∧ t.answered = [] ∧ t.world = false :=
  startTunnelRequest_unserved (m := sampleMachine) (I := (· = false))
    { port := fun hw => hw
      command := fun _ _ h _ hw => by simp [sampleMachine, h, hw]
      wait := fun hw => hw } {} true rfl

end HiddifyCore.Config
