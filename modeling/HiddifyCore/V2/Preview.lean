import HiddifyCore.Config.Parser
import HiddifyCore.Config.BuildSpec
import HiddifyCore.V2.TunnelProcess

/-!
# Parse and GenerateConfig

The two calls of `v2/custom.go` that only show a configuration. They run the parser and the builder
beside a running core. Their deferred handler stops that core when one of the two panics, and the
builder activates the tunnel service on its way.
-/

namespace HiddifyCore.V2

open GoLib Config

/-! ### The two calls -/

/-- The variables that the two calls reach: those of `v2`, and `OutboundMainProxyTag`. -/
structure PreviewState where
  core : Core := {}
  mainProxyTag : String := outboundSelectTag

namespace PreviewState

@[simps]
def setCore (c : Core) (p : PreviewState) : PreviewState := { p with core := c }

/-- The variables of the package `config`. -/
def globals (p : PreviewState) : Globals where
  outboundMainProxyTag := p.mainProxyTag
  tunnel := p.core.tunnel

@[simps]
def setGlobals (g : Globals) (p : PreviewState) : PreviewState where
  core := p.core.setTunnel g.tunnel
  mainProxyTag := g.outboundMainProxyTag

end PreviewState

structure ParseRequest where
  content : String := ""
  configPath : String := ""
  tempPath : String := ""

inductive ResponseCode where
  | ok | failed
  deriving DecidableEq

structure ParseResponse where
  responseCode : ResponseCode
  content : String := ""
  message : String

structure ParseReply where
  resp : Option ParseResponse := none
  err : Option String := none

structure GenerateConfigRequest where
  path : String

structure GenerateConfigReply where
  configContent : Option String := none
  err : Option String := none

/-- The calls of `Parse` and `GenerateConfig`. -/
structure PreviewCalls where
  readFile : String → Outcome String
  writeFile : String → String → Outcome PUnit := fun _ _ => .ok ⟨⟩
  parse : ParseEnv := {}
  /-- `UnmarshalJSON` of `option.Options`. -/
  unmarshalJSON : String → Outcome Singbox.Options := fun _ => .ok {}
  build : BuildEnv := {}
  /-- `Encode` of the built options. -/
  encode : Singbox.Options → Outcome String := fun _ => .ok "{}"
  alert : AlertCalls := {}

section Calls

variable (D : Deps) (P : ParserDeps)

/-- `defer DeferPanicToError(name, ...)` in a preview call. -/
def deferStopAndAlert {α : Type} (zero : α) (name : String) (x : AlertCalls)
    (body : Go PreviewState α) : Go PreviewState α :=
  Go.deferRecover zero (fun r => Go.zoom PreviewState.core PreviewState.setCore
    (stopAndAlert .unexpectedError (name ++ " panic: " ++ r) x)) body

def parseFailed (err : String) : ParseReply where
  resp := some { responseCode := .failed, message := err }
  err := some err

/-- The content to parse: a file's when the request names one. -/
def ParseRequest.source (req : ParseRequest) (x : PreviewCalls) : Outcome String :=
  if req.tempPath ≠ "" then x.readFile req.tempPath else .ok req.content

def ParseRequest.write (req : ParseRequest) (x : PreviewCalls) (config : String) : Outcome PUnit :=
  if req.configPath ≠ "" then x.writeFile req.configPath config else .ok ⟨⟩

def parseBody (req : ParseRequest) (x : PreviewCalls) : Go PreviewState ParseReply := do
  match ← Go.call (req.source x) with
  | .error e => pure { err := some e }
  | .ok content =>
    match ← Go.call (parseConfigContent D P x.parse content none false) with
    | .error e => pure (parseFailed e)
    | .ok config =>
      match ← Go.call (req.write x config) with
      | .error e => pure (parseFailed e)
      | .ok _ => pure { resp := some { responseCode := .ok, content := config, message := "" } }

def parse (req : ParseRequest) (x : PreviewCalls) : Go PreviewState ParseReply :=
  deferStopAndAlert {} "parse" x.alert (parseBody D P req x)

def buildConfigJson (x : PreviewCalls) (opt : ConfigOptions) (input : Singbox.Options) :
    Go PreviewState (Except String String) := do
  match ← Go.zoom PreviewState.globals PreviewState.setGlobals
      (buildConfig D x.build opt input) with
  | .error e => pure (.error e)
  | .ok options => Go.call (x.encode options)

def parseConfig (x : PreviewCalls) (configContent : String) : Outcome Singbox.Options :=
  (x.unmarshalJSON configContent).mapErr ("decode config: " ++ ·)

def generateConfigFromFile (x : PreviewCalls) (path : String) (configOpt : ConfigOptions) :
    Go PreviewState (Except String String) := do
  match ← Go.call (x.readFile path) with
  | .error e => pure (.error e)
  | .ok content =>
    match ← Go.call (parseConfig x content) with
    | .error e => pure (.error e)
    | .ok options => buildConfigJson D x configOpt options

/-- The options of a preview: the defaults while there are none. -/
def previewOptions (s : Core) : ConfigOptions := s.configOptions.getD defaultConfigOptions

/-- `if configOptions == nil { configOptions = config.DefaultConfigOptions() }`. -/
def withDefaults (p : PreviewState) : PreviewState :=
  p.setCore { p.core with configOptions := some (previewOptions p.core) }

def generateBody (req : GenerateConfigRequest) (x : PreviewCalls) :
    Go PreviewState GenerateConfigReply := do
  Go.modify withDefaults
  match ← generateConfigFromFile D x req.path (previewOptions (← Go.get).core) with
  | .error e => pure { err := some e }
  | .ok config => pure { configContent := some config }

def generateConfig (req : GenerateConfigRequest) (x : PreviewCalls) :
    Go PreviewState GenerateConfigReply :=
  deferStopAndAlert {} "generateConfig" x.alert (generateBody D req x)

end Calls

/-! ### Panics in the batch of the parser -/

section Batch

variable (D : Deps) (P : ParserDeps)

/-- A task of the batch panics on the content. It runs in a goroutine of its own, where no deferred
function recovers: the process ends. -/
def BatchPanics (env : ParseEnv) (content : String) : Prop :=
  ∃ t options, patchedText P content none false = .ok t ∧ P.unmarshalOptions t.1 = .ok options ∧
    ∃ i base, options.outbounds[i]? = some base ∧ (patchTask D env none i base).IsPanic

end Batch

/-! ### What a preview leaves -/

/-- The core is as it was, and no request was sent to the tunnel service. -/
structure Undisturbed (s t : Core) : Prop where
  coreState : t.coreState = s.coreState
  box : t.box = s.box
  oldCommandServer : t.oldCommandServer = s.oldCommandServer
  tunnel : t.tunnel = s.tunnel

lemma Undisturbed.refl (s : Core) : Undisturbed s s := ⟨rfl, rfl, rfl, rfl⟩

/-- After a `StopAndAlert` the requests tell that something happened. -/
lemma not_undisturbed_stopAndAlert (msgType : MessageType) (message : String) (x : AlertCalls)
    {s t : Core} (h : s.tunnel.requests <+: t.tunnel.requests) :
    ¬ Undisturbed s (stopAndAlert msgType message x t).2 := by
  intro hsame
  have hsent := (stopAndAlert_sends msgType message x t).length_le
  rw [hsame.tunnel, List.length_append, List.length_singleton] at hsent
  have := h.length_le
  omega

/-- A preview that does not panic leaves what its body leaves. One that does is undisturbed only if
it never returns. -/
lemma deferStopAndAlert_undisturbed {α : Type} (zero : α) (name : String) (x : AlertCalls)
    {body : Go PreviewState α} {p : PreviewState}
    (hext : p.core.tunnel.requests <+: (body p).2.core.tunnel.requests) :
    (∀ reply q, deferStopAndAlert zero name x body p = (.ret reply, q) →
        Undisturbed p.core q.core) ↔
      ((body p).1.IsPanic → x.Panics (body p).2.core) ∧
        (¬ (body p).1.IsPanic → Undisturbed p.core (body p).2.core) := by
  simp only [deferStopAndAlert, Go.deferRecover]
  rcases hbody : body p with ⟨a | e, q⟩ <;> rw [hbody] at hext
  · simp only [Exit.isPanic_ret, false_implies, not_false_eq_true, true_implies, true_and]
    constructor
    · exact fun h => h a q rfl
    · rintro h _ _ ⟨⟩
      exact h
  simp only [Exit.isPanic_panic, true_implies, not_true_eq_false, false_implies, and_true]
  have hend := stopAndAlert_triple .unexpectedError (name ++ " panic: " ++ e) x q.core q.core rfl
  have hsent := not_undisturbed_stopAndAlert .unexpectedError (name ++ " panic: " ++ e) x hext
  simp only [Go.bind_run, Go.zoom]
  rcases hrun : stopAndAlert .unexpectedError (name ++ " panic: " ++ e) x q.core with ⟨a | e', t⟩
  · -- the handler returned, and so does the call
    rw [hrun] at hend hsent
    refine iff_of_false (fun h => hsent ?_) hend.1
    exact h zero (q.setCore t) rfl
  · rw [hrun] at hend
    exact iff_of_true (fun _ _ h => by cases h) hend

section Preview

variable (D : Deps) (P : ParserDeps)

/-- A call of `Parse` panics where its deferred function can recover it. -/
def ParsePanics (req : ParseRequest) (x : PreviewCalls) : Prop :=
  (req.source x).PanicsThen False fun content =>
  (parseConfigContent D P x.parse content none false).PanicsThen False fun config =>
  (req.write x config).IsPanic

/-- The process ends while it parses. -/
def ParseDies (req : ParseRequest) (x : PreviewCalls) : Prop :=
  ∃ content, req.source x = .ok content ∧ BatchPanics D P x.parse content

def ParseReturns (req : ParseRequest) (x : PreviewCalls) (p : PreviewState) (reply : ParseReply)
    (q : PreviewState) : Prop :=
  ¬ ParseDies D P req x ∧ parse D P req x p = (.ret reply, q)

/-- The document that `GenerateConfig` builds from. -/
def previewInput (req : GenerateConfigRequest) (x : PreviewCalls) : Outcome Singbox.Options := do
  let content ← x.readFile req.path
  parseConfig x content

/-- `BuildConfigJson` once the options are built. -/
def encodeBuilt (x : PreviewCalls) : Exit (Except String Singbox.Options) → Outcome String
  | .ret (.ok options) => x.encode options
  | .ret (.error e) => .fail e
  | .panic e => .panic e

/-- The text of a preview. -/
def previewed (req : GenerateConfigRequest) (x : PreviewCalls) (p : PreviewState) :
    Outcome String := do
  let input ← previewInput req x
  encodeBuilt x (buildConfig D x.build (previewOptions p.core) input p.globals).1

/-- `GenerateConfig` reaches the builder with the tunnel service enabled. -/
def Activates (req : GenerateConfigRequest) (x : PreviewCalls) (s : Core) : Prop :=
  (previewInput req x).IsOk ∧ (previewOptions s).enableTunService = true

/-- `s` as `GenerateConfig` leaves it, unless a panic stops it. -/
def Core.previewed (req : GenerateConfigRequest) (x : PreviewCalls) (s : Core) : Core :=
  let opt := previewOptions s
  match previewInput req x with
  | .ok _ =>
    if opt.enableTunService then s.setTunnel (activateTunnelService opt s.tunnel) else s
  | _ => s

lemma Core.previewed_of_activates {req : GenerateConfigRequest} {x : PreviewCalls} {s : Core}
    (h : Activates req x s) :
    s.previewed req x = s.setTunnel (activateTunnelService (previewOptions s) s.tunnel) := by
  obtain ⟨hinput, htun⟩ := h
  obtain ⟨input, hinput⟩ := hinput.exists_eq
  simp only [Core.previewed, hinput, htun, if_true]

lemma Core.previewed_of_not_activates {req : GenerateConfigRequest} {x : PreviewCalls} {s : Core}
    (h : ¬ Activates req x s) : s.previewed req x = s := by
  simp only [Core.previewed]
  cases hinput : previewInput req x with
  | ok input =>
    rw [if_neg fun htun => h ⟨hinput ▸ trivial, htun⟩]
  | fail e => rfl
  | panic e => rfl

lemma parseBody_triple (req : ParseRequest) (x : PreviewCalls) (p : PreviewState) :
    Go.Triple (· = p) (parseBody D P req x) (fun _ q => ¬ ParsePanics D P req x ∧ q = p)
      (fun q => ParsePanics D P req x ∧ q = p) := by
  rintro p rfl
  cases hsource : req.source x with
  | panic e => simp [parseBody, ParsePanics, Go.bind_run, hsource]
  | fail e => simp [parseBody, ParsePanics, Go.bind_run, Go.pure_run, hsource]
  | ok content =>
    cases hparse : parseConfigContent D P x.parse content none false with
    | panic e => simp [parseBody, ParsePanics, Go.bind_run, hsource, hparse]
    | fail e => simp [parseBody, ParsePanics, Go.bind_run, Go.pure_run, hsource, hparse]
    | ok config =>
      cases hwrite : req.write x config <;>
        simp [parseBody, ParsePanics, Go.bind_run, Go.pure_run, hsource, hparse, hwrite]

lemma parse_undisturbed (req : ParseRequest) (x : PreviewCalls) (p : PreviewState) :
    (∀ reply q, ParseReturns D P req x p reply q → Undisturbed p.core q.core) ↔
      (ParsePanics D P req x → ParseDies D P req x ∨ x.alert.Panics p.core) := by
  have hbody : (parseBody D P req x p).2 = p ∧
      ((parseBody D P req x p).1.IsPanic ↔ ParsePanics D P req x) := by
    have h := parseBody_triple D P req x p p rfl
    rcases hrun : parseBody D P req x p with ⟨a | e, q⟩ <;> rw [hrun] at h <;> simp [h.1, h.2]
  have hext : p.core.tunnel.requests <+: (parseBody D P req x p).2.core.tunnel.requests := by
    rw [hbody.1]
  have hdefer := deferStopAndAlert_undisturbed {} "parse" x.alert hext
  by_cases hdies : ParseDies D P req x
  · simp [ParseReturns, hdies]
  · simp only [ParseReturns, hdies, not_false_eq_true, true_and, false_or, parse, hdefer]
    simp only [hbody, Undisturbed.refl, implies_true, and_true]

lemma withSecret_commandTunnel (env : BuildEnv) (opt : ConfigOptions) (g : Globals) :
    commandTunnel (withSecret env opt) g = commandTunnel opt g :=
  withSecret_congr (commandTunnel · g) (fun _ _ => rfl) env opt

/-- Only the tunnel service notices the building of a preview. -/
lemma buildConfigJson_core (x : PreviewCalls) (opt : ConfigOptions) (input : Singbox.Options)
    (p : PreviewState) :
    (buildConfigJson D x opt input p).2.core =
        p.core.setTunnel (commandTunnel opt p.globals).tunnel ∧
      ((buildConfigJson D x opt input p).1.IsPanic ↔
        (encodeBuilt x (buildConfig D x.build opt input p.globals).1).IsPanic) := by
  have htunnel : (buildConfig D x.build opt input p.globals).2.tunnel =
      (commandTunnel opt p.globals).tunnel := by
    rw [buildConfig_tunnel, withSecret_commandTunnel]
  simp only [buildConfigJson]
  rcases hrun : buildConfig D x.build opt input p.globals with ⟨(e | options) | e, g⟩ <;>
    rw [hrun] at htunnel
  · simp [Go.bind_run, Go.zoom, Go.pure_run, encodeBuilt, hrun, ← htunnel]
  · cases hencode : x.encode options <;>
      simp [Go.bind_run, Go.zoom, encodeBuilt, hrun, hencode, ← htunnel]
  · simp [Go.bind_run, Go.zoom, encodeBuilt, hrun, ← htunnel]

lemma generateConfigFromFile_eq (req : GenerateConfigRequest) (x : PreviewCalls)
    (opt : ConfigOptions) :
    generateConfigFromFile D x req.path opt =
      match previewInput req x with
      | .ok input => buildConfigJson D x opt input
      | .fail e => pure (.error e)
      | .panic e => Go.panic e := by
  funext p
  simp only [generateConfigFromFile, previewInput, Go.bind_run]
  cases x.readFile req.path with
  | panic e => rfl
  | fail e => rfl
  | ok content =>
    simp only [Go.call_ok, Go.bind_run, Outcome.bind_ok]
    cases parseConfig x content <;> rfl

/-- What the body of `GenerateConfig` leaves in the core, up to the default options. -/
lemma generateBody_core (req : GenerateConfigRequest) (x : PreviewCalls) (p : PreviewState) :
    Undisturbed (p.core.previewed req x) (generateBody D req x p).2.core ∧
      ((generateBody D req x p).1.IsPanic ↔ (previewed D req x p).IsPanic) := by
  simp only [generateBody, generateConfigFromFile_eq, previewed, Core.previewed]
  simp only [Go.bind_run, Go.modify, Go.get]
  cases previewInput req x with
  | panic e => exact ⟨⟨rfl, rfl, rfl, rfl⟩, Iff.rfl⟩
  | fail e => exact ⟨⟨rfl, rfl, rfl, rfl⟩, Iff.rfl⟩
  | ok input =>
    have hbuild := buildConfigJson_core D x (previewOptions p.core) input (withDefaults p)
    have hcore : Undisturbed (if (previewOptions p.core).enableTunService = true then
          p.core.setTunnel (activateTunnelService (previewOptions p.core) p.core.tunnel)
        else p.core)
        (buildConfigJson D x (previewOptions p.core) input (withDefaults p)).2.core := by
      rw [hbuild.1]
      simp only [commandTunnel]
      split_ifs <;> exact ⟨rfl, rfl, rfl, rfl⟩
    have hpanic : (buildConfigJson D x (previewOptions p.core) input (withDefaults p)).1.IsPanic ↔
        (encodeBuilt x (buildConfig D x.build (previewOptions p.core) input p.globals).1).IsPanic :=
      hbuild.2
    have hopt : previewOptions (withDefaults p).core = previewOptions p.core := rfl
    simp only [Outcome.bind_ok, ← hpanic, hopt]
    rcases hrun : buildConfigJson D x (previewOptions p.core) input (withDefaults p)
      with ⟨(e | config) | e, q⟩ <;> rw [hrun] at hcore
    · exact ⟨hcore, Iff.rfl⟩
    · exact ⟨hcore, Iff.rfl⟩
    · exact ⟨hcore, Iff.rfl⟩

/-- The call of `StopAndAlert` in `GenerateConfig` meets the tunnel service as the builder left
it. -/
lemma generateConfig_undisturbed (req : GenerateConfigRequest) (x : PreviewCalls)
    (p : PreviewState) :
    (∀ reply q, generateConfig D req x p = (.ret reply, q) → Undisturbed p.core q.core) ↔
      (Activates req x p.core ∨ (previewed D req x p).IsPanic →
        (previewed D req x p).IsPanic ∧ x.alert.Panics (p.core.previewed req x)) := by
  obtain ⟨hcore, hpanic⟩ := generateBody_core D req x p
  have halert : x.alert.Panics (generateBody D req x p).2.core ↔
      x.alert.Panics (p.core.previewed req x) :=
    x.alert.panics_congr ⟨by rw [hcore.oldCommandServer], by rw [hcore.box], by rw [hcore.tunnel]⟩
  have hkept : (Undisturbed p.core (generateBody D req x p).2.core ↔ ¬ Activates req x p.core) ∧
      p.core.tunnel.requests <+: (generateBody D req x p).2.core.tunnel.requests := by
    by_cases hact : Activates req x p.core
    · rw [Core.previewed_of_activates hact] at hcore
      have hrequests : (generateBody D req x p).2.core.tunnel.requests =
          p.core.tunnel.requests ++ [.start (tunnelStartRequest (previewOptions p.core))] := by
        rw [hcore.tunnel]
        rfl
      refine ⟨iff_of_false (fun h => ?_) (not_not.mpr hact), ?_⟩
      · rw [h.tunnel] at hrequests
        simp at hrequests
      · rw [hrequests]
        exact List.prefix_append _ _
    · rw [Core.previewed_of_not_activates hact] at hcore
      refine ⟨iff_of_true hcore hact, ?_⟩
      rw [hcore.tunnel]
  rw [generateConfig, deferStopAndAlert_undisturbed {} "generateConfig" x.alert hkept.2, hpanic,
    halert, hkept.1]
  by_cases hp : (previewed D req x p).IsPanic <;> simp [hp]

/-- `Parse` leaves the core alone exactly when it recovers no panic, and `GenerateConfig` when it
does not build for the tunnel service either. A preview that ends the process leaves nothing. -/
theorem preview_undisturbed_iff (preq : ParseRequest) (greq : GenerateConfigRequest)
    (x : PreviewCalls) (p : PreviewState) :
    ((∀ reply q, ParseReturns D P preq x p reply q → Undisturbed p.core q.core) ↔
      (ParsePanics D P preq x → ParseDies D P preq x ∨ x.alert.Panics p.core)) ∧
    ((∀ reply q, generateConfig D greq x p = (.ret reply, q) → Undisturbed p.core q.core) ↔
      (Activates greq x p.core ∨ (previewed D greq x p).IsPanic →
        (previewed D greq x p).IsPanic ∧ x.alert.Panics (p.core.previewed greq x))) :=
  ⟨parse_undisturbed D P preq x p, generateConfig_undisturbed D greq x p⟩

end Preview

/-- A preview for the tunnel service starts that service. -/
theorem not_preview_undisturbed :
    ¬ ∀ (D : Deps) (P : ParserDeps), D.Documented → P.Documented → ∀ s₀ s : Core, s₀.IsInitial →
      Run Step (fun _ _ => True) s₀ s → ∀ (tag : String) (preq : ParseRequest)
      (greq : GenerateConfigRequest) (x : PreviewCalls),
        (∀ reply q, ParseReturns D P preq x ⟨s, tag⟩ reply q → Undisturbed s q.core) ∧
        (∀ reply q, generateConfig D greq x ⟨s, tag⟩ = (.ret reply, q) →
          Undisturbed s q.core) := by
  intro h
  let s : Core := {
    configOptions := some { defaultConfigOptions with enableTunService := true } }
  let x : PreviewCalls := { readFile := fun _ => .ok "\x7b\x7d" }
  have hkept := (h Reference.deps ParserReference.deps Reference.deps_documented
    ParserReference.deps_documented s s ⟨rfl, rfl, rfl, rfl, rfl⟩ .refl outboundSelectTag {}
    ⟨"config.json"⟩ x).2
  have hpanic := ((generateConfig_undisturbed Reference.deps ⟨"config.json"⟩ x
    ⟨s, outboundSelectTag⟩).mp hkept (Or.inl ⟨trivial, rfl⟩)).1
  revert hpanic
  decide

end HiddifyCore.V2
