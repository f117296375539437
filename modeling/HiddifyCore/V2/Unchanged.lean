import HiddifyCore.Config.Rebuild
import HiddifyCore.Config.Settled
import HiddifyCore.Routing.ForceDirect
import HiddifyCore.V2.Standalone

/-!
# Reading an unchanged subscription

`updateConfigInterval` replaces the core when the text of `readAndBuildConfig` differs from the
last one. The text is the result of the whole pipeline: the content is parsed by a batch of tasks,
and a configuration is built and encoded. So a subscription that does not change is left alone only
if nothing that one call draws gets into the text: `Subscription.IsSettled` says when that is, and
what a call leaves in `OutboundMainProxyTag` belongs to it.
-/

namespace HiddifyCore.V2

open GoLib Config Routing Singbox

/-! ### The builder on settled options -/

section Builder

variable (D : Deps) (lookupHost : String → Option (List String))

/-- The domain that `patchOutbound` finds in a settled outbound. -/
def serverName (out : Outbound) : Outcome String := do
  let obj ← D.marshalOutbound (finishWarp D (lookups lookupHost) out true).1
  .ok (serverDomain D obj)

/-- A key of the map of `addForceDirect`. -/
def IsDirectKey (opt : ConfigOptions) (input : Singbox.Options) (k : String) : Prop :=
  (k ≠ "" ∧ ∃ out ∈ input.outbounds, serverName D lookupHost out = .ok k) ∨ k ∈ remoteKey D opt

/-- `BuildConfig` draws nothing that shows, and leaves the tag that it has met. -/
structure IsSettledInput (opt : ConfigOptions) (mainProxyTag : String) (input : Singbox.Options) :
    Prop where
  secret : opt.enableClashApi = true → opt.clashApiSecret ≠ ""
  outbounds : ∀ out ∈ input.outbounds, IsSettled lookupHost out
  warpPort : generatesWarp (scanWarp input.outbounds opt) = true → opt.warp.cleanPort ≠ 0
  keys : ∀ k k', IsDirectKey D lookupHost opt input k → IsDirectKey D lookupHost opt input k' →
    forceDirectRule D [k, k'] = forceDirectRule D [k', k]
  tag : mainProxyTag = tagAfter D (scanWarp input.outbounds opt)

/-- The name lookups of a call of the builder. -/
structure BuildResolves (env : BuildEnv) : Prop where
  builder : env.lookupHost = lookupHost
  warp : env.warp.lookupHost = lookupHost
  outbound (i : Nat) : (env.outbound i).lookupHost = lookupHost

/-- A call of the builder that only looks names up. -/
def quietBuild : BuildEnv where
  lookupHost := lookupHost
  warp := lookups lookupHost
  outbound _ := lookups lookupHost

variable {D lookupHost}

lemma quietBuild_resolves : BuildResolves lookupHost (quietBuild lookupHost) :=
  ⟨rfl, rfl, fun _ => rfl⟩

lemma withSecret_eq_self {opt : ConfigOptions}
    (h : opt.enableClashApi = true → opt.clashApiSecret ≠ "") (env : BuildEnv) :
    withSecret env opt = opt := by
  rw [withSecret, if_neg fun hdraw => h hdraw.1 hdraw.2]

/-- The name of a patched outbound does not depend on the options. -/
lemma serverName_of_patch {out : Outbound} (hout : IsSettled lookupHost out) {draws : Draws}
    {opt : ConfigOptions} {p : Patched} (hdraws : draws.lookupHost = lookupHost)
    (h : patchOutbound D draws out opt = .ok p) :
    serverName D lookupHost out = .ok p.serverDomain := by
  obtain ⟨base, obj, obj', hwarp, hobj, hdomain, -, -⟩ := patchOutbound_steps h
  rw [patchWarp_of_not_custom hout.custom, hout.finishWarp_eq hdraws, Outcome.ok.injEq] at hwarp
  rw [serverName, hwarp, hobj, hdomain]
  rfl

/-- The collected keys are names of settled outbounds. -/
lemma isDirectKey_of_collect {o opt : ConfigOptions} {input : Singbox.Options} {draws : Nat → Draws}
    (houts : ∀ out ∈ input.outbounds, IsSettled lookupHost out)
    (hdraws : ∀ i, (draws i).lookupHost = lookupHost) {acc acc' : Collected} {i : Nat}
    (hacc : acc.directDNSDomains = [])
    (h : collect D o draws input.outbounds i acc = .ok acc') {k : String}
    (hk : k ∈ forceDirectDomains D opt acc'.directDNSDomains) :
    IsDirectKey D lookupHost opt input k := by
  rcases mem_forceDirectDomains_iff.mp hk with hk | hk
  · obtain ⟨ps, hps, rfl⟩ := collect_eq_ok.mp h
    rcases of_mem_collected hk with hk | ⟨p, hp, hne, rfl⟩
    · rw [hacc] at hk
      cases hk
    · obtain ⟨out, hout, j, hpatch⟩ := hps.exists_source p hp
      exact .inl ⟨hne, out, hout, serverName_of_patch (houts out hout) (hdraws j) hpatch⟩
  · exact .inr hk

/-- The passes before `setOutbounds` draw the secret only. -/
lemma prepared_settled {opt : ConfigOptions} {input : Singbox.Options} {tag : String}
    (hsecret : opt.enableClashApi = true → opt.clashApiSecret ≠ "") {env : BuildEnv}
    (h : env.lookupHost = lookupHost) :
    prepared D env opt input tag = prepared D (quietBuild lookupHost) opt input tag := by
  have hdns (options : Singbox.Options) :
      setDns env opt options = setDns (quietBuild lookupHost) opt options := by
    simp only [setDns, h]
    rfl
  simp only [prepared, withSecret_eq_self hsecret, hdns]

/-- The order of the iteration does not show in the rule. -/
lemma assembleOutbounds_settled {order order' : MapOrder} {opt : ConfigOptions}
    {warp : List Outbound} {acc : Collected} {options : Singbox.Options}
    (h : ∀ k ∈ forceDirectDomains D opt acc.directDNSDomains,
      ∀ k' ∈ forceDirectDomains D opt acc.directDNSDomains,
        forceDirectRule D [k, k'] = forceDirectRule D [k', k]) :
    assembleOutbounds D order opt warp acc options =
      assembleOutbounds D order' opt warp acc options := by
  have hrule (order : MapOrder) :
      forceDirectRule D (order.toFun (forceDirectDomains D opt acc.directDNSDomains)) =
        forceDirectRule D (forceDirectDomains D opt acc.directDNSDomains) :=
    (forceDirectRule_perm (order.perm _).symm h).symm
  simp only [assembleOutbounds, addForceDirect, hrule]

/-- On settled options every call of the builder returns what a quiet one does. -/
lemma IsSettledInput.buildConfig_eq {opt : ConfigOptions} {tag : String}
    {input : Singbox.Options} (hs : IsSettledInput D lookupHost opt tag input) {env : BuildEnv}
    (h : BuildResolves lookupHost env) (g : Globals) (hg : g.outboundMainProxyTag = tag) :
    (buildConfig D env opt input g).1 = (buildConfig D (quietBuild lookupHost) opt input g).1 := by
  have hdomains (acc : Collected) : forceDirectDomains D (scanWarp input.outbounds opt)
      acc.directDNSDomains = forceDirectDomains D opt acc.directDNSDomains := by
    simp only [scanWarp]
    split_ifs <;> rfl
  have hport : generatesWarp (scanWarp input.outbounds opt) = true →
      (scanWarp input.outbounds opt).warp.cleanPort ≠ 0 := by
    rw [scanWarp_cleanPort]
    exact hs.warpPort
  rw [buildConfig_run, buildConfig_run, hg, prepared_settled hs.secret h.builder,
    withSecret_eq_self hs.secret, withSecret_eq_self hs.secret]
  simp only [setOutbounds, addWarp_settled h.warp hport,
    addWarp_settled quietBuild_resolves.warp hport, collect_settled h.outbound hs.outbounds,
    collect_settled quietBuild_resolves.outbound hs.outbounds]
  simp only [Go.bind_run, Go.modify]
  rcases addWarp D (lookups lookupHost) (scanWarp input.outbounds opt)
      ((commandTunnel opt g).setMainProxyTag outboundSelectTag) with ⟨(e | warp) | e, g'⟩
  · rfl
  · cases hcollect : collect D (scanWarp input.outbounds opt) (fun _ => lookups lookupHost)
        input.outbounds 0
        { staticIPs := staticIPsOf (prepared D (quietBuild lookupHost) opt input tag) } with
    | fail e => rfl
    | panic e => rfl
    | ok acc =>
      have hkeys (k : String)
          (hk : k ∈ forceDirectDomains D (scanWarp input.outbounds opt) acc.directDNSDomains) :
          IsDirectKey D lookupHost opt input k := by
        rw [hdomains] at hk
        exact isDirectKey_of_collect hs.outbounds quietBuild_resolves.outbound rfl hcollect hk
      have hassemble : assembleOutbounds D env.keyOrder (scanWarp input.outbounds opt) warp acc
          (prepared D (quietBuild lookupHost) opt input tag) = assembleOutbounds D
            (quietBuild lookupHost).keyOrder (scanWarp input.outbounds opt) warp acc _ :=
        assembleOutbounds_settled fun k hk k' hk' => hs.keys k k' (hkeys k hk) (hkeys k' hk')
      simp only [Go.bind_run, Go.call_ok, hassemble]
  · rfl

end Builder

/-! ### The pipeline -/

/-- What a call of `readAndBuildConfig` meets that can differ from one call to the next. -/
structure ReadEnv where
  refreshInterval : Int := 0
  parse : ParseEnv := {}
  build : BuildEnv := {}
  setup : Outcome PUnit := .ok ⟨⟩

/-- What every call sees of a subscription that does not change. The settings are those of the
settings file, unless no path was given. -/
structure Subscription where
  content : String
  settings : Option ConfigOptions := none
  defaultConfig : ConfigOptions
  lookupHost : String → Option (List String) := fun _ => some []

/-- `config.ToJson`. A document has at least its brackets. -/
abbrev Encoder : Type := Singbox.Options → Outcome {text : String // text ≠ ""}

namespace Subscription

def opt (sub : Subscription) : ConfigOptions := sub.settings.getD sub.defaultConfig

end Subscription

/-- All the name lookups of a call are answered by the subscription. -/
structure ReadEnv.Resolves (env : ReadEnv) (lookupHost : String → Option (List String)) : Prop where
  parse (i : Nat) : (env.parse.draws i).lookupHost = lookupHost
  build : BuildResolves lookupHost env.build

section Pipeline

variable (D : Deps) (P : ParserDeps) (toJson : Encoder) (sub : Subscription) (env : ReadEnv)
  (mainProxyTag : String)

/-- `ParseConfigContent` and `readConfigBytes`. -/
def parseInput (opt : ConfigOptions) (content : String) : Outcome Singbox.Options := do
  let parsedContent ← (parseConfigContent D P env.parse content (some opt) false).mapErr
    ("failed to parse config content: " ++ ·)
  P.unmarshalOptions parsedContent

/-- What a call of the builder returns. -/
def builtOf : Exit (Except String Singbox.Options) → Outcome Singbox.Options
  | .ret (.ok options) => .ok options
  | .ret (.error e) => .fail e
  | .panic e => .panic e

def externalController (opt : ConfigOptions) : String :=
  if opt.allowConnectionFromLAN then "0.0.0.0:6756" else "127.0.0.1:6756"

/-- The edits of `buildConfig` in `v2/standalone.go`, which dereference the log options and those of
the Clash API. -/
def editConfig (opt : ConfigOptions) (finalconfig : Singbox.Options) : Outcome Singbox.Options :=
  match finalconfig.log, finalconfig.experimental with
  | some log, some experimental =>
    match experimental.clashAPI with
    | some clashAPI =>
      .ok { finalconfig with
        log := some { log with output := "" }
        experimental := some { experimental with
          clashAPI := some { clashAPI with
            externalUI := "webui"
            externalController := externalController opt } } }
    | none => .panic "invalid memory address or nil pointer dereference"
  | _, _ => .panic "invalid memory address or nil pointer dereference"

/-- `BuildConfig` and the edits after it. -/
def buildFinal (opt : ConfigOptions) (input : Singbox.Options) : Outcome Singbox.Options := do
  let finalconfig ← (builtOf (buildConfig D env.build opt input
    { outboundMainProxyTag := mainProxyTag }).1).mapErr ("failed to build config: " ++ ·)
  editConfig opt finalconfig

/-- What the call makes of the subscription. -/
def Subscription.text : Outcome {text : String // text ≠ ""} := do
  let input ← parseInput D P env sub.opt sub.content
  let final ← buildFinal D env mainProxyTag sub.opt input
  toJson final

/-- The calls of `readAndBuildConfig` for the subscription. -/
def Subscription.read : ReadCalls where
  content := .ok (sub.content, env.refreshInterval)
  settings := sub.settings.map .ok
  parse opt content := parseInput D P env opt content
  build opt input := buildFinal D env mainProxyTag opt input
  setup := env.setup
  toJson := toJson

/-- What the call leaves in `OutboundMainProxyTag`. -/
def Subscription.tagLeft : String :=
  match parseInput D P env sub.opt sub.content with
  | .ok input => (buildConfig D env.build sub.opt input
      { outboundMainProxyTag := mainProxyTag }).2.outboundMainProxyTag
  | _ => mainProxyTag

end Pipeline

/-! ### Settled subscriptions -/

section Settled

variable (D : Deps) (P : ParserDeps) (sub : Subscription)

/-- The options that the content is decoded to. -/
def Subscription.Decodes (options : Singbox.Options) : Prop :=
  ∃ t, patchedText P sub.content (some sub.opt) false = .ok t ∧ P.unmarshalOptions t.1 = .ok options

/-- The options that the content is decoded to, written and read again. -/
def Subscription.Rewrites (input : Singbox.Options) : Prop :=
  ∃ options text, sub.Decodes P options ∧ contentOf (P.marshalOptions options) = .ok text ∧
    P.unmarshalOptions text = .ok input

/-- Nothing that is drawn while the subscription is read gets into the text. -/
structure Subscription.IsSettled (mainProxyTag : String) : Prop where
  batch : ∀ options, sub.Decodes P options → IsSettledBatch options.outbounds
  input : ∀ input, sub.Rewrites P input →
    IsSettledInput D sub.lookupHost sub.opt mainProxyTag input

variable {D P sub} {toJson : Encoder} {tag : String}

/-- The parser writes the options of a settled subscription as it has read them. -/
lemma Subscription.parseConfigContent_settled
    (h : ∀ options, sub.Decodes P options → IsSettledBatch options.outbounds) (env : ParseEnv) :
    parseConfigContent D P env sub.content (some sub.opt) false = (do
      let t ← patchedText P sub.content (some sub.opt) false
      let options ← (P.unmarshalOptions t.1).mapErr ("[SingboxParser] unmarshal error: " ++ ·)
      let text ← contentOf (P.marshalOptions options)
      validateResult P text t.2) := by
  rw [parseConfigContent_eq]
  cases ht : patchedText P sub.content (some sub.opt) false with
  | fail e => rfl
  | panic e => rfl
  | ok t => exact patchConfig_settled fun options hoptions => h options ⟨t, ht, hoptions⟩

lemma Subscription.parseInput_settled
    (h : ∀ options, sub.Decodes P options → IsSettledBatch options.outbounds) (env env' : ReadEnv) :
    parseInput D P env sub.opt sub.content = parseInput D P env' sub.opt sub.content := by
  simp only [parseInput, sub.parseConfigContent_settled h]

lemma Subscription.rewrites_of_parseInput
    (h : ∀ options, sub.Decodes P options → IsSettledBatch options.outbounds) {env : ReadEnv}
    {input : Singbox.Options} (hinput : parseInput D P env sub.opt sub.content = .ok input) :
    sub.Rewrites P input := by
  obtain ⟨content, hcontent, hread⟩ := Outcome.bind_eq_ok.mp hinput
  rw [Outcome.mapErr_eq_ok, sub.parseConfigContent_settled h] at hcontent
  obtain ⟨t, ht, hcontent⟩ := Outcome.bind_eq_ok.mp hcontent
  obtain ⟨options, hoptions, hcontent⟩ := Outcome.bind_eq_ok.mp hcontent
  obtain ⟨text, htext, hcontent⟩ := Outcome.bind_eq_ok.mp hcontent
  obtain ⟨_, -, hcontent⟩ := Outcome.bind_eq_ok.mp hcontent
  cases hcontent
  rw [Outcome.mapErr_eq_ok] at hoptions
  exact ⟨options, _, ⟨t, ht, hoptions⟩, htext, hread⟩

/-- Every call that meets the tag returns the same text. -/
lemma Subscription.IsSettled.text_eq (hs : sub.IsSettled D P tag) {env env' : ReadEnv}
    (henv : env.Resolves sub.lookupHost) (henv' : env'.Resolves sub.lookupHost) :
    sub.text D P toJson env tag = sub.text D P toJson env' tag := by
  simp only [Subscription.text, sub.parseInput_settled hs.batch env env']
  cases hparse : parseInput D P env' sub.opt sub.content with
  | fail e => rfl
  | panic e => rfl
  | ok input =>
    have hinput := hs.input input (sub.rewrites_of_parseInput hs.batch hparse)
    simp only [Outcome.bind_ok, buildFinal,
      hinput.buildConfig_eq henv.build { outboundMainProxyTag := tag } rfl,
      hinput.buildConfig_eq henv'.build { outboundMainProxyTag := tag } rfl]

/-- A call leaves the tag of a settled subscription as it is. -/
lemma Subscription.IsSettled.tagLeft_eq (hs : sub.IsSettled D P tag) (env : ReadEnv) :
    sub.tagLeft D P env tag = tag := by
  simp only [Subscription.tagLeft]
  cases hinput : parseInput D P env sub.opt sub.content with
  | fail e => rfl
  | panic e => rfl
  | ok input =>
    have hsettled := hs.input input (sub.rewrites_of_parseInput hs.batch hinput)
    simp only [buildConfig_mainProxyTag, scannedOptions, withSecret_eq_self hsettled.secret]
    exact hsettled.tag.symm

/-! ### One call -/

lemma Subscription.read_eq_ok {defaultConfig : ConfigOptions}
    (hopt : sub.settings.getD defaultConfig = sub.opt) {env : ReadEnv} {s t : Core}
    {result : ConfigResult}
    (h : readAndBuildConfig defaultConfig (sub.read D P toJson env tag) s =
      (.ret (.ok result), t)) :
    result.hiddifyConfigOptions = sub.opt ∧
      ∃ text, sub.text D P toJson env tag = .ok text ∧ result.config = text.val := by
  obtain ⟨content, opt, input, final, text, hcontent, hsettings, hinput, hfinal, htext, rfl⟩ :=
    readAndBuildConfig_eq_ok h
  obtain rfl : opt = sub.opt := by
    rw [← hopt]
    simp only [Subscription.read] at hsettings
    cases hset : sub.settings <;> simp_all
  cases hcontent
  refine ⟨rfl, text, ?_, rfl⟩
  exact Outcome.bind_eq_ok.mpr ⟨input, hinput, Outcome.bind_eq_ok.mpr ⟨final, hfinal, htext⟩⟩

/-- Two calls for a settled subscription that meet the tag return the same text. -/
lemma Subscription.IsSettled.config_eq (hs : sub.IsSettled D P tag) {env env' : ReadEnv}
    (henv : env.Resolves sub.lookupHost) (henv' : env'.Resolves sub.lookupHost)
    {default default' : ConfigOptions} (hopt : sub.settings.getD default = sub.opt)
    (hopt' : sub.settings.getD default' = sub.opt) {s t s' t' : Core}
    {result result' : ConfigResult}
    (h : readAndBuildConfig default (sub.read D P toJson env tag) s = (.ret (.ok result), t))
    (h' : readAndBuildConfig default' (sub.read D P toJson env' tag) s' =
      (.ret (.ok result'), t')) : result'.config = result.config := by
  obtain ⟨-, text, htext, hconfig⟩ := sub.read_eq_ok hopt h
  obtain ⟨-, text', htext', hconfig'⟩ := sub.read_eq_ok hopt' h'
  rw [hs.text_eq henv henv', htext', Outcome.ok.injEq] at htext
  rw [hconfig, hconfig', htext]

end Settled

/-! ### The loop -/

/-- What one tick of the loop meets. -/
structure Update extends RefreshCalls where
  env : ReadEnv := {}
  order : RefreshOrder := .stopFirst

/-- The process in the loop, with the package variable that the builder reads. -/
structure Updating where
  process : Standalone
  mainProxyTag : String

section Loop

variable (D : Deps) (P : ParserDeps) (toJson : Encoder) (sub : Subscription)

def Update.tick (u : Update) (mainProxyTag : String) : Tick where
  toRefreshCalls := u.toRefreshCalls
  read := sub.read D P toJson u.env mainProxyTag
  order := u.order

/-- The tick reads the subscription again. -/
structure Updating.Step (s : Updating) (u : Update) (t : Updating) : Prop where
  process : s.process.Step (u.tick D P toJson sub s.mainProxyTag) t.process
  mainProxyTag : t.mainProxyTag = sub.tagLeft D P u.env s.mainProxyTag

/-- Once a call has returned a configuration, no tick of the loop replaces the core, whatever the
calls draw. The loop starts beside `StartService`, so in any state of the core. -/
def Subscription.NeverRestarts (mainProxyTag : String) : Prop :=
  ∀ env : ReadEnv, env.Resolves sub.lookupHost → ∀ (s s' s₀ : Core) (current : ConfigResult),
    readAndBuildConfig sub.defaultConfig (sub.read D P toJson env mainProxyTag) s =
      (.ret (.ok current), s') →
    ∀ t, Run (Updating.Step D P toJson sub) (fun _ u => u.env.Resolves sub.lookupHost)
        ⟨⟨s₀, current⟩, sub.tagLeft D P env mainProxyTag⟩ t →
      ∀ u : Update, u.env.Resolves sub.lookupHost →
        ∀ new, ¬ t.process.Refreshes (u.tick D P toJson sub t.mainProxyTag) new

variable {D P toJson sub} {tag : String}

lemma Subscription.getD_opt : sub.settings.getD sub.opt = sub.opt := by
  simp only [Subscription.opt]
  cases sub.settings <;> rfl

/-- What the loop keeps: the tag, the text and the settings. -/
structure Updating.Keeps (sub : Subscription) (tag config : String) (s : Updating) : Prop where
  mainProxyTag : s.mainProxyTag = tag
  config : s.process.current.config = config
  opt : sub.settings.getD s.process.current.hiddifyConfigOptions = sub.opt

/-- What a tick reads for a settled subscription is what the loop has. -/
lemma Subscription.IsSettled.reads (hs : sub.IsSettled D P tag) {env : ReadEnv}
    (henv : env.Resolves sub.lookupHost) {s s' : Core} {first : ConfigResult}
    (hfirst : readAndBuildConfig sub.defaultConfig (sub.read D P toJson env tag) s =
      (.ret (.ok first), s')) {t : Updating} (ht : t.Keeps sub tag first.config) {u : Update}
    (hu : u.env.Resolves sub.lookupHost) {new : ConfigResult} {c : Core}
    (hnew : readAndBuildConfig t.process.current.hiddifyConfigOptions
      (sub.read D P toJson u.env t.mainProxyTag) t.process.core = (.ret (.ok new), c)) :
    new.config = first.config ∧ new.hiddifyConfigOptions = sub.opt := by
  rw [ht.mainProxyTag] at hnew
  exact ⟨hs.config_eq henv hu rfl ht.opt hfirst hnew, (sub.read_eq_ok ht.opt hnew).1⟩

lemma Subscription.IsSettled.keeps_step (hs : sub.IsSettled D P tag) {env : ReadEnv}
    (henv : env.Resolves sub.lookupHost) {s s' : Core} {first : ConfigResult}
    (hfirst : readAndBuildConfig sub.defaultConfig (sub.read D P toJson env tag) s =
      (.ret (.ok first), s')) {t t' : Updating} (ht : t.Keeps sub tag first.config) {u : Update}
    (hu : u.env.Resolves sub.lookupHost) (hstep : t.Step D P toJson sub u t') :
    t'.Keeps sub tag first.config := by
  have htag : t'.mainProxyTag = tag := by
    rw [hstep.mainProxyTag, ht.mainProxyTag]
    exact hs.tagLeft_eq u.env
  have hprocess := hstep.process
  simp only [Standalone.Step, refresh, Update.tick, Go.bind_run] at hprocess
  rcases hread : readAndBuildConfig t.process.current.hiddifyConfigOptions
      (sub.read D P toJson u.env t.mainProxyTag) t.process.core with ⟨(e | new) | e, c⟩
  · -- a call that fails keeps the current configuration
    simp only [hread, Go.pure_run, Prod.mk.injEq, Exit.ret.injEq] at hprocess
    exact ⟨htag, hprocess.1 ▸ ht.config, hprocess.1 ▸ ht.opt⟩
  · obtain ⟨hconfig, hopt⟩ := hs.reads henv hfirst ht hu hread
    have hsame : ¬ new.config ≠ t.process.current.config := by
      rw [hconfig, ht.config]
      exact not_not.mpr rfl
    simp only [hread, if_neg hsame, Go.pure_run, Prod.mk.injEq, Exit.ret.injEq] at hprocess
    refine ⟨htag, hprocess.1 ▸ hconfig, ?_⟩
    rw [← hprocess.1, hopt]
    exact sub.getD_opt
  · simp [hread] at hprocess

/-- A settled subscription never restarts the core. -/
theorem Subscription.IsSettled.neverRestarts (hs : sub.IsSettled D P tag) :
    sub.NeverRestarts D P toJson tag := by
  intro env henv s s' s₀ current hfirst t hrun u hu new hnew
  have hinit : Updating.Keeps sub tag current.config
      ⟨⟨s₀, current⟩, sub.tagLeft D P env tag⟩ := by
    refine ⟨hs.tagLeft_eq env, rfl, ?_⟩
    show sub.settings.getD current.hiddifyConfigOptions = sub.opt
    rw [(sub.read_eq_ok rfl hfirst).1]
    exact sub.getD_opt
  have ht := hrun.invariant hinit fun t u t' ht hu hstep =>
    hs.keeps_step henv hfirst ht hu hstep
  obtain ⟨⟨c, hread⟩, hne⟩ := hnew
  exact hne ((hs.reads henv hfirst ht hu hread).1.trans ht.config.symm)

end Loop

end HiddifyCore.V2
