import HiddifyCore.Config.Drawn
import HiddifyCore.V2.Loaders
import HiddifyCore.V2.Preview
import HiddifyCore.V2.RefreshWaits
import HiddifyCore.V2.Unchanged

/-!
# The standalone build

`buildConfig` of `v2/standalone.go` edits the log and the Clash API of the document that
`BuildConfig` has built, without asking whether they are there. The log always is, and the Clash API
only when the options enable it.
-/

namespace HiddifyCore.V2

open GoLib GoLib.JsonDecode Config
open Singbox (DomainStrategy)

/-- The calls of `readAndBuildConfig`. -/
structure StandaloneCalls extends FetchCalls where
  parse : ParseEnv := {}
  build : BuildEnv := {}
  /-- `Setup("./", "./", "./tmp", 0, false)`. -/
  setup : Except String PUnit := .ok ⟨⟩
  toJson : Singbox.Options → Except String String := fun _ => .ok "{}"

namespace Standalone

section Calls

variable (D : Deps) (P : ParserDeps) (domainStrategy : JsonText.Value → Option DomainStrategy)

def buildConfig (x : StandaloneCalls) (configContent : String) (options : ConfigOptions) :
    Go PreviewState (Except String String) := do
  match ← Go.call (parseConfigContent D P x.parse configContent (some options) false) with
  | .error e => pure (.error ("failed to parse config content: " ++ e))
  | .ok parsedContent =>
    match ← Go.call (P.unmarshalOptions parsedContent) with
    | .error e => pure (.error e)
    | .ok singconfigs =>
      match ← Go.zoom PreviewState.globals PreviewState.setGlobals
          (Config.buildConfig D x.build options singconfigs) with
      | .error e => pure (.error ("failed to build config: " ++ e))
      | .ok finalconfig =>
        match ← Go.call (editConfig options finalconfig) with
        | .error e => pure (.error e)
        | .ok finalconfig =>
          match ← Go.zoom PreviewState.core PreviewState.setCore (setup (.ofExcept x.setup)) with
          | .error e => pure (.error ("failed to set up global configuration: " ++ e))
          | .ok _ =>
            pure ((x.toJson finalconfig).mapError ("failed to convert config to JSON: " ++ ·))

/-- The options of a refresh: those of the settings file if there is one. -/
def settings (hiddifySettingPath : String) (x : StandaloneCalls) (defaultConfig : ConfigOptions) :
    Except LoadError ConfigOptions :=
  if hiddifySettingPath ≠ "" then
    readConfigOptionsAt domainStrategy x.readFile hiddifySettingPath
  else
    .ok defaultConfig

def readAndBuildConfig (hiddifySettingPath configPath : String) (defaultConfig : ConfigOptions)
    (x : StandaloneCalls) : Go PreviewState (Except LoadError ConfigResult) := do
  match readConfigContent x.toFetchCalls configPath with
  | .error e => pure (.error (.other e))
  | .ok (content, refreshInterval) =>
    match settings domainStrategy hiddifySettingPath x defaultConfig with
    | .error e => pure (.error e)
    | .ok hiddifyconfig =>
      match ← buildConfig D P x content hiddifyconfig with
      | .error e => pure (.error (.other e))
      | .ok config => pure (.ok {
          config := config
          refreshInterval := refreshInterval
          hiddifyConfigOptions := hiddifyconfig })

/-- The loop but for `Stop` and `StartService`, which run in goroutines of their own. -/
def refreshes (hiddifySettingPath configPath : String) (current : ConfigResult) :
    List StandaloneCalls → Go PreviewState ConfigResult
  | [] => pure current
  | x :: xs => do
    match ← readAndBuildConfig D P domainStrategy hiddifySettingPath configPath
        current.hiddifyConfigOptions x with
    | .error _ => refreshes hiddifySettingPath configPath current xs
    | .ok new => refreshes hiddifySettingPath configPath new xs

def updateConfigInterval (hiddifySettingPath configPath : String) (current : ConfigResult)
    (xs : List StandaloneCalls) : Go PreviewState ConfigResult :=
  if current.refreshInterval ≤ 0 then pure current
  else refreshes D P domainStrategy hiddifySettingPath configPath current xs

end Calls

/-! ### The edits of a built document -/

variable {D : Deps} {P : ParserDeps}

/-- A built document has its log, and the Clash API if the options enable it. -/
lemma editConfig_isOk {env : BuildEnv} {opt : ConfigOptions} {input out : Singbox.Options}
    {tag : String} (b : Built D env opt input tag out) :
    (editConfig opt out).IsOk ↔ opt.enableClashApi = true := by
  have hlog := congrArg Prod.fst b.logAndExperimental_eq
  have hexp := congrArg Prod.snd b.logAndExperimental_eq
  have hon : (withSecret env opt).enableClashApi = opt.enableClashApi :=
    withSecret_congr (·.enableClashApi) (fun _ _ => rfl) env opt
  simp only [logAndExperimental, setLog] at hlog hexp
  rw [editConfig, hlog]
  cases henable : opt.enableClashApi with
  | true =>
    rw [setClashAPI, hon, henable, if_pos rfl] at hexp
    rw [hexp]
    exact iff_of_true trivial rfl
  | false =>
    rw [setClashAPI, hon, henable, if_neg Bool.false_ne_true] at hexp
    rw [hexp]
    exact iff_of_false id Bool.false_ne_true

lemma editConfig_not_isFail (opt : ConfigOptions) (finalconfig : Singbox.Options) :
    ¬ (editConfig opt finalconfig).IsFail := by
  unfold editConfig
  split
  · split
    · exact id
    · exact id
  · exact id

/-! ### One build -/

/-- The parser, the reader of its text and `BuildConfig` accept the content. -/
def Accepts (D : Deps) (P : ParserDeps) (x : StandaloneCalls) (content : String)
    (opt : ConfigOptions) : Prop :=
  ∃ parsed input g out,
    parseConfigContent D P x.parse content (some opt) false = .ok parsed ∧
    P.unmarshalOptions parsed = .ok input ∧
    (Config.buildConfig D x.build opt input g).1 = .ret (.ok out)

/-- The build returns when the options enable the Clash API, and else it panics. -/
lemma buildConfig_cases {x : StandaloneCalls} {content : String} {opt : ConfigOptions}
    (h : Accepts D P x content opt) (p : PreviewState) :
    opt.enableClashApi = false ∧ (buildConfig D P x content opt p).1.IsPanic ∨
      opt.enableClashApi = true ∧ ∃ final q, buildConfig D P x content opt p = (.ret (do
        let _ ← x.setup.mapError ("failed to set up global configuration: " ++ ·)
        (x.toJson final).mapError ("failed to convert config to JSON: " ++ ·)), q) := by
  obtain ⟨parsed, input, g, out, hparse, hread, hbuild⟩ := h
  obtain ⟨out, hbuild⟩ := (buildConfig_isOk ⟨x.build, opt, input⟩ p.globals).mpr
    ((buildConfig_isOk ⟨x.build, opt, input⟩ g).mp ⟨out, hbuild⟩)
  rcases hrun : Config.buildConfig D x.build opt input p.globals with ⟨r, g'⟩
  rw [hrun] at hbuild
  cases hbuild
  obtain ⟨b⟩ := buildConfig_ok hrun
  have hedit := editConfig_isOk b
  simp only [buildConfig, hparse, Go.bind_run, Go.call_ok, hread, Go.zoom, hrun]
  cases hout : editConfig opt out with
  | ok final =>
    rw [hout] at hedit
    refine .inr ⟨hedit.mp trivial, final, ?_⟩
    simp only [Go.call_ok, Go.bind_run]
    cases x.setup <;> exact ⟨_, rfl⟩
  | fail e => exact absurd (hout ▸ trivial) (editConfig_not_isFail opt out)
  | panic e =>
    rw [hout] at hedit
    refine .inl ⟨?_, trivial⟩
    rw [← Bool.not_eq_true, ← hedit]
    exact id

lemma buildConfig_isPanic {x : StandaloneCalls} {content : String} {opt : ConfigOptions}
    (h : Accepts D P x content opt) (p : PreviewState) :
    (buildConfig D P x content opt p).1.IsPanic ↔ opt.enableClashApi = false := by
  rcases buildConfig_cases h p with ⟨hoff, hpanic⟩ | ⟨hon, final, q, hrun⟩
  · exact iff_of_true hpanic hoff
  · rw [hrun, hon]
    exact iff_of_false id Bool.false_ne_true.symm

/-! ### The refreshes -/

variable {domainStrategy : JsonText.Value → Option DomainStrategy}
  {hiddifySettingPath configPath : String}

/-- The options of later refreshes are looked for as those of the first one are. -/
lemma settings_congr {x : StandaloneCalls} {d o : ConfigOptions}
    (h : settings domainStrategy hiddifySettingPath x d = .ok o) (x' : StandaloneCalls) :
    settings domainStrategy hiddifySettingPath x' o =
      settings domainStrategy hiddifySettingPath x' d := by
  unfold settings at h ⊢
  split_ifs at h ⊢ with hpath
  · rfl
  · exact congrArg _ (Except.ok.inj h).symm

lemma readAndBuildConfig_options {x : StandaloneCalls} {d : ConfigOptions} {new : ConfigResult}
    {p q : PreviewState}
    (h : readAndBuildConfig D P domainStrategy hiddifySettingPath configPath d x p =
      (.ret (.ok new), q)) :
    settings domainStrategy hiddifySettingPath x d = .ok new.hiddifyConfigOptions := by
  rw [readAndBuildConfig] at h
  rcases hcontent : readConfigContent x.toFetchCalls configPath with e | ⟨content, interval⟩
  · rw [hcontent] at h
    cases h
  rw [hcontent] at h
  simp only at h
  rcases hset : settings domainStrategy hiddifySettingPath x d with e | opt
  · rw [hset] at h
    cases h
  rw [hset] at h
  simp only [Go.bind_run] at h
  rcases hbuild : buildConfig D P x content opt p with ⟨(e | config) | e, q'⟩
  · rw [hbuild] at h
    cases h
  · rw [hbuild] at h
    cases h
    rfl
  · rw [hbuild] at h
    cases h

variable (D P domainStrategy hiddifySettingPath configPath)

/-- A refresh reads settings and a content that are accepted. -/
def Accepted (d : ConfigOptions) (x : StandaloneCalls) : Prop :=
  ∃ content interval opt,
    readConfigContent x.toFetchCalls configPath = .ok (content, interval) ∧
    settings domainStrategy hiddifySettingPath x d = .ok opt ∧ Accepts D P x content opt

/-- The options of the refresh leave the Clash API off. -/
def LeavesClashOff (d : ConfigOptions) (x : StandaloneCalls) : Prop :=
  ∃ opt, settings domainStrategy hiddifySettingPath x d = .ok opt ∧ opt.enableClashApi = false

variable {D P domainStrategy hiddifySettingPath configPath}

lemma readAndBuildConfig_isPanic {d : ConfigOptions} {x : StandaloneCalls}
    (h : Accepted D P domainStrategy hiddifySettingPath configPath d x) (p : PreviewState) :
    (readAndBuildConfig D P domainStrategy hiddifySettingPath configPath d x p).1.IsPanic ↔
      LeavesClashOff domainStrategy hiddifySettingPath d x := by
  obtain ⟨content, interval, opt, hcontent, hset, haccepts⟩ := h
  have hoff :
      LeavesClashOff domainStrategy hiddifySettingPath d x ↔ opt.enableClashApi = false := by
    constructor
    · rintro ⟨opt', hset', hoff⟩
      cases hset.symm.trans hset'
      exact hoff
    · exact fun hoff => ⟨opt, hset, hoff⟩
  rw [hoff, ← buildConfig_isPanic haccepts p, readAndBuildConfig, hcontent]
  simp only [hset, Go.bind_run]
  rcases buildConfig D P x content opt p with ⟨(e | config) | e, q⟩
  · exact Iff.rfl
  · exact Iff.rfl
  · exact Iff.rfl

/-- One step of the loop panics or goes on, and the options of the rest are unchanged. -/
lemma refreshes_isPanic {d : ConfigOptions} {xs : List StandaloneCalls}
    (hacc : ∀ x ∈ xs, Accepted D P domainStrategy hiddifySettingPath configPath d x)
    {current : ConfigResult}
    (hcurrent : ∀ x, settings domainStrategy hiddifySettingPath x current.hiddifyConfigOptions =
      settings domainStrategy hiddifySettingPath x d) (p : PreviewState) :
    (refreshes D P domainStrategy hiddifySettingPath configPath current xs p).1.IsPanic ↔
      ∃ x ∈ xs, LeavesClashOff domainStrategy hiddifySettingPath d x := by
  induction xs generalizing current p with
  | nil => simp [refreshes, Go.pure_run]
  | cons x xs ih =>
    have hx : Accepted D P domainStrategy hiddifySettingPath configPath
        current.hiddifyConfigOptions x := by
      obtain ⟨content, interval, opt, hcontent, hset, haccepts⟩ := hacc x List.mem_cons_self
      exact ⟨content, interval, opt, hcontent, (hcurrent x).trans hset, haccepts⟩
    have hoff : LeavesClashOff domainStrategy hiddifySettingPath current.hiddifyConfigOptions x ↔
        LeavesClashOff domainStrategy hiddifySettingPath d x := by
      rw [LeavesClashOff, LeavesClashOff, hcurrent x]
    have hpanic := (readAndBuildConfig_isPanic hx p).trans hoff
    have hxs : ∀ y ∈ xs, Accepted D P domainStrategy hiddifySettingPath configPath d y :=
      fun y hy => hacc y (List.mem_cons_of_mem x hy)
    rw [List.exists_mem_cons_iff, refreshes, Go.bind_run]
    rcases hrun : readAndBuildConfig D P domainStrategy hiddifySettingPath configPath
        current.hiddifyConfigOptions x p with ⟨(e | new) | e, q⟩
    · rw [hrun] at hpanic
      exact (ih hxs hcurrent q).trans (or_iff_right hpanic.mpr).symm
    · rw [hrun] at hpanic
      have hnew := fun y => (settings_congr (readAndBuildConfig_options hrun) y).trans (hcurrent y)
      exact (ih hxs hnew q).trans (or_iff_right hpanic.mpr).symm
    · rw [hrun] at hpanic
      exact iff_of_true trivial (.inl (hpanic.mp trivial))

variable (D P domainStrategy hiddifySettingPath configPath)

/-- Every build and the whole loop return. -/
structure NeverDereferencesNil (start : ConfigResult) (xs : List StandaloneCalls) : Prop where
  builds : ∀ x ∈ xs, ∀ content interval opt,
    readConfigContent x.toFetchCalls configPath = .ok (content, interval) →
    settings domainStrategy hiddifySettingPath x start.hiddifyConfigOptions = .ok opt →
    ∀ p, ∃ result q, buildConfig D P x content opt p = (.ret result, q)
  loop : ∀ p, ∃ current q,
    updateConfigInterval D P domainStrategy hiddifySettingPath configPath start xs p =
      (.ret current, q)

variable {D P domainStrategy hiddifySettingPath configPath}

/-- Where every refresh is accepted, the builds and the loop return exactly when the options of
every refresh enable the Clash API. -/
theorem neverDereferencesNil_iff (start : ConfigResult) (xs : List StandaloneCalls)
    (hacc : ∀ x ∈ xs, Accepted D P domainStrategy hiddifySettingPath configPath
      start.hiddifyConfigOptions x) :
    NeverDereferencesNil D P domainStrategy hiddifySettingPath configPath start xs ↔
      ∀ x ∈ xs, ∀ opt,
        settings domainStrategy hiddifySettingPath x start.hiddifyConfigOptions = .ok opt →
        opt.enableClashApi = true := by
  have hreturns {α : Type} {m : Go PreviewState α} {p : PreviewState} :
      (∃ a q, m p = (.ret a, q)) ↔ ¬ (m p).1.IsPanic := by
    rcases m p with ⟨a | e, q⟩
    · exact iff_of_true ⟨a, q, rfl⟩ id
    · refine iff_of_false ?_ (not_not.mpr trivial)
      rintro ⟨a, q, h⟩
      cases h
  constructor
  · intro h x hx opt hopt
    obtain ⟨content, interval, opt', hcontent, hset, haccepts⟩ := hacc x hx
    cases hopt.symm.trans hset
    by_contra hoff
    have hpanic := (buildConfig_isPanic haccepts {}).mpr (Bool.not_eq_true _ ▸ hoff)
    exact hreturns.mp (h.builds x hx content interval opt hcontent hset {}) hpanic
  · intro hon
    refine ⟨fun x hx content interval opt hcontent hset p => hreturns.mpr fun hpanic => ?_,
      fun p => hreturns.mpr fun hpanic => ?_⟩
    · obtain ⟨content', interval', opt', hcontent', hset', haccepts⟩ := hacc x hx
      cases hcontent.symm.trans hcontent'
      cases hset.symm.trans hset'
      exact absurd ((buildConfig_isPanic haccepts p).mp hpanic) (by simp [hon x hx opt hset])
    · rw [updateConfigInterval] at hpanic
      split_ifs at hpanic
      · exact hpanic
      · obtain ⟨x, hx, opt, hset, hoff⟩ :=
          (refreshes_isPanic hacc (fun _ => rfl) p).mp hpanic
        rw [hon x hx opt hset] at hoff
        cases hoff

/-! ### The refreshes of the loop -/

section Reads

variable (D P domainStrategy hiddifySettingPath configPath)

/-- What the calls of a refresh return, as the loop that restarts the core takes them. -/
def reads (d : ConfigOptions) (x : StandaloneCalls) (p : PreviewState) : ReadCalls where
  content := .ofExcept (readConfigContent x.toFetchCalls configPath)
  settings :=
    some (.ofExcept ((settings domainStrategy hiddifySettingPath x d).mapError fun _ => ""))
  parse opt content := do
    let parsedContent ← parseConfigContent D P x.parse content (some opt) false
    P.unmarshalOptions parsedContent
  build opt input := do
    let finalconfig ← builtOf (Config.buildConfig D x.build opt input p.globals).1
    editConfig opt finalconfig
  setup := .ofExcept x.setup
  toJson out := do
    let text ← .ofExcept (x.toJson out)
    if h : text ≠ "" then .ok ⟨text, h⟩ else .fail ""

end Reads

/-- What a build that returns a text has computed. -/
lemma buildConfig_eq_ok {x : StandaloneCalls} {content config : String} {opt : ConfigOptions}
    {p q : PreviewState} (h : buildConfig D P x content opt p = (.ret (.ok config), q)) :
    ∃ parsed input built final,
      parseConfigContent D P x.parse content (some opt) false = .ok parsed ∧
      P.unmarshalOptions parsed = .ok input ∧
      (Config.buildConfig D x.build opt input p.globals).1 = .ret (.ok built) ∧
      editConfig opt built = .ok final ∧ x.setup = .ok ⟨⟩ ∧ x.toJson final = .ok config := by
  rw [buildConfig, Go.bind_run] at h
  cases hparse : parseConfigContent D P x.parse content (some opt) false with
  | fail e => simp [hparse, Go.pure_run] at h
  | panic e => simp [hparse] at h
  | ok parsed =>
    simp only [hparse, Go.call_ok, Go.bind_run] at h
    cases hread : P.unmarshalOptions parsed with
    | fail e => simp [hread, Go.pure_run] at h
    | panic e => simp [hread] at h
    | ok input =>
      simp only [hread, Go.call_ok, Go.bind_run, Go.zoom] at h
      rcases hbuild : (Config.buildConfig D x.build opt input p.globals).1 with (e | built) | e
      · simp [hbuild, Go.pure_run] at h
      · simp only [hbuild, Go.bind_run] at h
        cases hedit : editConfig opt built with
        | fail e => simp [hedit, Go.pure_run] at h
        | panic e => simp [hedit] at h
        | ok final =>
          simp only [hedit, Go.call_ok, Go.bind_run] at h
          cases hsetup : x.setup with
          | error e =>
            rw [hsetup] at h
            cases h
          | ok u =>
            rw [hsetup] at h
            cases hjson : x.toJson final with
            | error e =>
              rw [hjson] at h
              cases h
            | ok text =>
              rw [hjson] at h
              cases h
              exact ⟨parsed, input, built, final, rfl, hread, hbuild, hedit, rfl, hjson⟩
      · simp [hbuild] at h

/-- A refresh that succeeds is one of the loop that restarts the core. -/
theorem readAndBuildConfig_reads {d : ConfigOptions} {x : StandaloneCalls} {new : ConfigResult}
    {p q : PreviewState}
    (h : readAndBuildConfig D P domainStrategy hiddifySettingPath configPath d x p =
      (.ret (.ok new), q)) (hne : new.config ≠ "") :
    ∃ t, V2.readAndBuildConfig d
      (reads D P domainStrategy hiddifySettingPath configPath d x p) p.core =
        (.ret (.ok new), t) := by
  rw [readAndBuildConfig] at h
  rcases hcontent : readConfigContent x.toFetchCalls configPath with e | ⟨content, interval⟩
  · rw [hcontent] at h
    cases h
  rw [hcontent] at h
  simp only at h
  rcases hset : settings domainStrategy hiddifySettingPath x d with e | opt
  · rw [hset] at h
    cases h
  rw [hset] at h
  simp only [Go.bind_run] at h
  rcases hbuild : buildConfig D P x content opt p with ⟨(e | config) | e, q'⟩
  · rw [hbuild] at h
    cases h
  · rw [hbuild] at h
    cases h
    obtain ⟨parsed, input, built, final, hparse, hread, hbuilt, hedit, hsetup, hjson⟩ :=
      buildConfig_eq_ok hbuild
    let r := reads D P domainStrategy hiddifySettingPath configPath d x p
    have hrcontent : r.content = .ok (content, interval) := congrArg Outcome.ofExcept hcontent
    have hrsettings : r.settings.getD (.ok d) = .ok opt := by
      show Outcome.ofExcept ((settings domainStrategy hiddifySettingPath x d).mapError _) = _
      rw [hset]
      rfl
    have hrparse : r.parse opt content = .ok input :=
      Outcome.bind_eq_ok.mpr ⟨parsed, hparse, hread⟩
    have hrbuild : r.build opt input = .ok final :=
      Outcome.bind_eq_ok.mpr ⟨built, congrArg builtOf hbuilt, hedit⟩
    have hrsetup : r.setup = .ok ⟨⟩ := congrArg Outcome.ofExcept hsetup
    have hrjson : r.toJson final = .ok ⟨config, hne⟩ :=
      Outcome.bind_eq_ok.mpr ⟨config, congrArg Outcome.ofExcept hjson, dif_pos hne⟩
    exact readAndBuildConfig_of_ok hrcontent hrsettings hrparse hrbuild hrsetup hrjson p.core
  · rw [hbuild] at h
    cases h

/-- An accepted refresh succeeds when the options enable the Clash API and nothing fails behind the
build. -/
lemma Accepted.readAndBuildConfig_eq {d : ConfigOptions} {x : StandaloneCalls}
    (h : Accepted D P domainStrategy hiddifySettingPath configPath d x)
    (hon : ¬ LeavesClashOff domainStrategy hiddifySettingPath d x) (hsetup : x.setup = .ok ⟨⟩)
    {text : String} (hjson : ∀ final, x.toJson final = .ok text) (p : PreviewState) :
    ∃ new q, readAndBuildConfig D P domainStrategy hiddifySettingPath configPath d x p =
      (.ret (.ok new), q) ∧ new.config = text := by
  obtain ⟨content, interval, opt, hcontent, hset, haccepts⟩ := h
  rcases buildConfig_cases haccepts p with ⟨hoff, -⟩ | ⟨-, final, q, hrun⟩
  · exact absurd ⟨opt, hset, hoff⟩ hon
  · have hrun' : buildConfig D P x content opt p = (.ret (.ok text), q) := by
      rw [hrun, hsetup, hjson]
      rfl
    let new : ConfigResult :=
      { config := text, refreshInterval := interval, hiddifyConfigOptions := opt }
    refine ⟨new, q, ?_, rfl⟩
    simp only [readAndBuildConfig, hcontent, hset, Go.bind_run, hrun', Go.pure_run, new]

/-! ### Settings with and without the Clash API -/

/-- The calls with the empty document beside a settings file. -/
def withSettings (x : StandaloneCalls) (text : String) : StandaloneCalls :=
  { x with
    readFile := fun path => .ok (if path = "settings.json" then text
      else ParserReference.deps.indent ParserReference.emptyDocument) }

/-- A refresh with those settings is accepted. -/
lemma accepted_withSettings {domainStrategy : JsonText.Value → Option DomainStrategy}
    {text : String} {opt : ConfigOptions}
    (hset : settings domainStrategy "settings.json" (withSettings {} text) {} = .ok opt)
    (hbuild : isDocument (Config.buildConfig Reference.deps {} opt {} {}).1 = true) :
    Accepted Reference.deps ParserReference.deps domainStrategy "settings.json" "config.json" {}
      (withSettings {} text) := by
  have hcontent : readConfigContent (withSettings {} text).toFetchCalls "config.json" =
      .ok (ParserReference.deps.indent ParserReference.emptyDocument, 0) := rfl
  exact ⟨_, _, opt, hcontent, hset, _, {}, {}, _,
    ParserReference.parseConfigContent_emptyDocument Reference.deps (some opt) false,
    ParserReference.unmarshalOptions_marshal_empty, eq_documentOf hbuild⟩

/-- Settings that turn the Clash API on. -/
def clashOn : String := "\x7b\"enable-clash-api\": true\x7d"

/-- The loop returns, and its refresh succeeds for the loop that restarts the core too. -/
theorem neverDereferencesNil_clashOn :
    NeverDereferencesNil Reference.deps ParserReference.deps (fun _ => none) "settings.json"
      "config.json" ⟨"", 1, {}⟩ [withSettings {} clashOn] ∧
    ∃ new t, V2.readAndBuildConfig {} (reads Reference.deps ParserReference.deps (fun _ => none)
      "settings.json" "config.json" {} (withSettings {} clashOn) {}) {} = (.ret (.ok new), t) := by
  have hset : settings (fun _ => none) "settings.json" (withSettings {} clashOn) {} =
      .ok { enableClashApi := true } := by
    decide +kernel
  have hacc : Accepted Reference.deps ParserReference.deps (fun _ => none) "settings.json"
      "config.json" {} (withSettings {} clashOn) := accepted_withSettings hset (by decide)
  have hon : ∀ opt, settings (fun _ => none) "settings.json" (withSettings {} clashOn) {} =
      .ok opt → opt.enableClashApi = true := by
    intro opt hopt
    rw [hset] at hopt
    rw [← Except.ok.inj hopt]
  refine ⟨(neverDereferencesNil_iff ⟨"", 1, {}⟩ [withSettings {} clashOn] fun x hx => ?_).mpr
    fun x hx => ?_, ?_⟩
  · rw [List.mem_singleton.mp hx]
    exact hacc
  · rw [List.mem_singleton.mp hx]
    exact hon
  · have hclash : ¬ LeavesClashOff (fun _ => none) "settings.json" {}
        (withSettings {} clashOn) := by
      rintro ⟨opt, hopt, hoff⟩
      rw [hon opt hopt] at hoff
      cases hoff
    obtain ⟨new, q, hnew, hconfig⟩ := hacc.readAndBuildConfig_eq hclash rfl (fun _ => rfl) {}
    have hne : new.config ≠ "" := by
      rw [hconfig]
      decide
    obtain ⟨t, ht⟩ := readAndBuildConfig_reads hnew hne
    exact ⟨new, t, ht⟩

/-- Settings that say nothing leave the Clash API off. -/
theorem not_neverDereferencesNil :
    ¬ ∀ (D : Deps) (P : ParserDeps) (domainStrategy : JsonText.Value → Option DomainStrategy)
      (hiddifySettingPath configPath : String) (start : ConfigResult) (xs : List StandaloneCalls),
        (∀ x ∈ xs, Accepted D P domainStrategy hiddifySettingPath configPath
          start.hiddifyConfigOptions x) →
        NeverDereferencesNil D P domainStrategy hiddifySettingPath configPath start xs := by
  intro h
  have hset : settings (fun _ => none) "settings.json" (withSettings {} "\x7b\x7d") {} =
      .ok {} := by
    decide +kernel
  have hacc := accepted_withSettings hset (by decide)
  have hnever := h _ _ _ _ _ ⟨"", 1, {}⟩ [withSettings {} "\x7b\x7d"] fun x hx =>
    List.mem_singleton.mp hx ▸ hacc
  obtain ⟨current, q, hrun⟩ := hnever.loop {}
  rw [updateConfigInterval, if_neg (by decide)] at hrun
  have hpanic : (refreshes _ _ _ _ _ ⟨"", 1, {}⟩ [withSettings {} "\x7b\x7d"] {}).1.IsPanic :=
    (refreshes_isPanic (fun x hx => List.mem_singleton.mp hx ▸ hacc) (fun _ => rfl) {}).mpr
      ⟨_, List.mem_singleton_self _, {}, hset, rfl⟩
  rw [hrun] at hpanic
  exact hpanic

end Standalone

end HiddifyCore.V2
