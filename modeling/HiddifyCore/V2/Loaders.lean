import HiddifyCore.Config.OptionsJson
import HiddifyCore.V2.Custom

/-!
# Loading the options

`ChangeConfigOptions` and the three other functions that decode an options document: first the
document, then the WireGuard configurations that its `warp` and `warp2` hold as texts.
`ChangeConfigOptions` decodes into the global itself.
-/

namespace HiddifyCore

open GoLib GoLib.JsonDecode Config
open Singbox (DomainStrategy)

/-- `readConfigOptionsAt` fails with the error of the file system or of `encoding/json`. -/
inductive LoadError where
  | other (err : String)
  | decode (err : DecodeError)
  deriving DecidableEq, Repr

/-! ### The stages -/

namespace Config

variable (domainStrategy : JsonText.Value → Option DomainStrategy)

/-- `if WireguardConfigStr != "" { json.Unmarshal(WireguardConfigStr, &WireguardConfig) }`. -/
def decodeWireguardConfig (w : WarpOptions) : WarpOptions × Option DecodeError :=
  if w.wireguardConfigStr ≠ "" then
    (unmarshalWireguardConfig w.wireguardConfigStr w.wireguardConfig).map
      (fun config => { w with wireguardConfig := config }) id
  else (w, none)

def decodeWarp (o : ConfigOptions) : ConfigOptions × Option DecodeError :=
  (decodeWireguardConfig o.warp).map (fun w => { o with warp := w }) id

def decodeWarp2 (o : ConfigOptions) : ConfigOptions × Option DecodeError :=
  (decodeWireguardConfig o.warp2).map (fun w => { o with warp2 := w }) id

/-- The common text of the two `readConfigOptionsAt`. -/
def loadOptions (readFile : String → Except String String) (path : String) :
    Except LoadError ConfigOptions := do
  let content ← (readFile path).mapError .other
  let decoded ← checked (unmarshalConfigOptions domainStrategy content {})
  let withWarp ← checked (decodeWarp decoded)
  checked (decodeWarp2 withWarp)
where
  /-- `if err != nil { return nil, err }`. -/
  checked : ConfigOptions × Option DecodeError → Except LoadError ConfigOptions
    | (o, none) => .ok o
    | (_, some e) => .error (.decode e)

end Config

/-! ### The loaders -/

section Loaders

variable (domainStrategy : JsonText.Value → Option DomainStrategy)

namespace V2

def readConfigOptionsAt (readFile : String → Except String String) (path : String) :
    Except LoadError ConfigOptions :=
  loadOptions domainStrategy readFile path

/-- A decoding into `*configOptions`. -/
def decodeInto (decode : ConfigOptions → ConfigOptions × Option DecodeError) :
    Go Core (Option DecodeError) := do
  match (← Go.get).configOptions with
  | none => Go.panic "invalid memory address or nil pointer dereference"
  | some o =>
    Go.modify (Core.setConfigOptions (decode o).1)
    pure (decode o).2

/-- The response is empty. -/
def changeConfigOptions (configOptionsJson : String) :
    Go Core (Except DecodeError CoreInfoResponse) := do
  Go.modify (Core.setConfigOptions {})
  match ← decodeInto (unmarshalConfigOptions domainStrategy configOptionsJson) with
  | some err => pure (.error err)
  | none =>
    match ← decodeInto decodeWarp with
    | some err => pure (.error err)
    | none =>
      match ← decodeInto decodeWarp2 with
      | some err => pure (.error err)
      | none => pure (.ok { coreState := .stopped, messageType := .empty, message := "" })

end V2

namespace Cmd

def readConfigOptionsAt (readFile : String → Except String String) (path : String) :
    Except LoadError ConfigOptions :=
  loadOptions domainStrategy readFile path

end Cmd

namespace Utils

/-- `options.UnmarshalJSON` and `config.BuildConfigJson`. -/
structure BuildCalls where
  unmarshalJSON : String → Except String Singbox.Options
  buildConfigJson : ConfigOptions → Singbox.Options → Exit (Except String String)

def buildConfig (x : BuildCalls) (optionJson configJson : String) :
    Exit (Except LoadError String) :=
  match x.unmarshalJSON configJson with
  | .error err => .ret (.error (.other err))
  | .ok options =>
    match unmarshalConfigOptions domainStrategy optionJson {} with
    -- `return "", nil`
    | (_, some _) => .ret (.ok "")
    | (decoded, none) =>
      match decodeWarp decoded with
      | (_, some err) => .ret (.error (.decode err))
      | (withWarp, none) =>
        match decodeWarp2 withWarp with
        | (_, some err) => .ret (.error (.decode err))
        | (configOptions, none) => built (x.buildConfigJson configOptions options)
where
  built : Exit (Except String String) → Exit (Except LoadError String)
    | .ret r => .ret (r.mapError .other)
    | .panic msg => .panic msg

end Utils

end Loaders

/-! ### What the stages leave -/

section Stages

variable (domainStrategy : JsonText.Value → Option DomainStrategy)

/-- The options after the stages up to the first that fails, with its error. -/
def decodeStages (json : String) : ConfigOptions × Option DecodeError :=
  match unmarshalConfigOptions domainStrategy json {} with
  | (o, some err) => (o, some err)
  | (decoded, none) =>
    match decodeWarp decoded with
    | (o, some err) => (o, some err)
    | (withWarp, none) => decodeWarp2 withWarp

/-- `config` is the WireGuard configuration of decoded options, its text decoded if it has one. -/
def NestedDecoded (w : WarpOptions) (config : WarpWireguardConfig) : Prop :=
  if w.wireguardConfigStr = "" then config = w.wireguardConfig
  else unmarshalWireguardConfig w.wireguardConfigStr w.wireguardConfig = (config, none)

/-- `o` is the fully decoded document. -/
def FullyDecoded (json : String) (o : ConfigOptions) : Prop :=
  ∃ decoded config config2,
    unmarshalConfigOptions domainStrategy json {} = (decoded, none) ∧
    NestedDecoded decoded.warp config ∧ NestedDecoded decoded.warp2 config2 ∧
    o = { decoded with
      warp := { decoded.warp with wireguardConfig := config }
      warp2 := { decoded.warp2 with wireguardConfig := config2 } }

/-- `o` is what was decoded until a stage failed. -/
inductive PartlyDecoded (json : String) : ConfigOptions → Prop
  | document {o : ConfigOptions} {err : DecodeError} :
      unmarshalConfigOptions domainStrategy json {} = (o, some err) → PartlyDecoded json o
  | warp {decoded o : ConfigOptions} {err : DecodeError} :
      unmarshalConfigOptions domainStrategy json {} = (decoded, none) →
      decodeWarp decoded = (o, some err) → PartlyDecoded json o
  | warp2 {decoded withWarp o : ConfigOptions} {err : DecodeError} :
      unmarshalConfigOptions domainStrategy json {} = (decoded, none) →
      decodeWarp decoded = (withWarp, none) →
      decodeWarp2 withWarp = (o, some err) → PartlyDecoded json o

variable {domainStrategy} {json : String}

lemma decodeWireguardConfig_eq_none {w w' : WarpOptions} :
    decodeWireguardConfig w = (w', none) ↔
      ∃ config, NestedDecoded w config ∧ w' = { w with wireguardConfig := config } := by
  rw [decodeWireguardConfig]
  by_cases hstr : w.wireguardConfigStr = ""
  · rw [if_neg (not_not.mpr hstr)]
    simp only [NestedDecoded, if_pos hstr]
    constructor
    · intro h
      cases h
      exact ⟨_, rfl, rfl⟩
    · rintro ⟨config, rfl, rfl⟩
      rfl
  · rw [if_pos hstr, map_eq_none]
    simp only [NestedDecoded, if_neg hstr]

lemma decodeWarp_eq_none {o o' : ConfigOptions} :
    decodeWarp o = (o', none) ↔ ∃ config, NestedDecoded o.warp config ∧
      o' = { o with warp := { o.warp with wireguardConfig := config } } := by
  rw [decodeWarp, map_eq_none]
  simp only [decodeWireguardConfig_eq_none]
  constructor
  · rintro ⟨w, ⟨config, hconfig, rfl⟩, rfl⟩
    exact ⟨config, hconfig, rfl⟩
  · rintro ⟨config, hconfig, rfl⟩
    exact ⟨_, ⟨config, hconfig, rfl⟩, rfl⟩

lemma decodeWarp2_eq_none {o o' : ConfigOptions} :
    decodeWarp2 o = (o', none) ↔ ∃ config, NestedDecoded o.warp2 config ∧
      o' = { o with warp2 := { o.warp2 with wireguardConfig := config } } := by
  rw [decodeWarp2, map_eq_none]
  simp only [decodeWireguardConfig_eq_none]
  constructor
  · rintro ⟨w, ⟨config, hconfig, rfl⟩, rfl⟩
    exact ⟨config, hconfig, rfl⟩
  · rintro ⟨config, hconfig, rfl⟩
    exact ⟨_, ⟨config, hconfig, rfl⟩, rfl⟩

lemma decodeStages_eq_none {o : ConfigOptions} :
    decodeStages domainStrategy json = (o, none) ↔ FullyDecoded domainStrategy json o := by
  rw [decodeStages, FullyDecoded]
  rcases unmarshalConfigOptions domainStrategy json {} with ⟨decoded, _ | err⟩
  · rcases hwarp : decodeWarp decoded with ⟨withWarp, _ | err⟩
    · obtain ⟨config, hconfig, rfl⟩ := decodeWarp_eq_none.mp hwarp
      simp only [hwarp]
      rw [decodeWarp2_eq_none]
      constructor
      · rintro ⟨config2, hconfig2, rfl⟩
        exact ⟨decoded, config, config2, rfl, hconfig, hconfig2, rfl⟩
      · rintro ⟨_, config', config2, heq, hconfig', hconfig2, rfl⟩
        cases heq
        cases hwarp.symm.trans (decodeWarp_eq_none.mpr ⟨config', hconfig', rfl⟩)
        exact ⟨config2, hconfig2, rfl⟩
    · simp only [hwarp]
      refine iff_of_false (fun h => by cases h) ?_
      rintro ⟨_, config, _, heq, hconfig, _, _⟩
      cases heq
      cases hwarp.symm.trans (decodeWarp_eq_none.mpr ⟨config, hconfig, rfl⟩)
  · refine iff_of_false (fun h => by cases h) ?_
    rintro ⟨_, _, _, heq, _⟩
    cases heq

lemma decodeStages_eq_some {o : ConfigOptions} :
    (∃ err, decodeStages domainStrategy json = (o, some err)) ↔
      PartlyDecoded domainStrategy json o := by
  rw [decodeStages]
  constructor
  · rintro ⟨err, h⟩
    rcases hjson : unmarshalConfigOptions domainStrategy json {} with ⟨decoded, _ | err⟩
    · rcases hwarp : decodeWarp decoded with ⟨withWarp, _ | err⟩
      · simp only [hjson, hwarp] at h
        exact .warp2 hjson hwarp h
      · simp only [hjson, hwarp] at h
        cases h
        exact .warp hjson hwarp
    · simp only [hjson] at h
      cases h
      exact .document hjson
  · intro h
    cases h with
    | document hjson => simp only [hjson, Prod.mk.injEq, true_and, Option.some.injEq, exists_eq']
    | warp hjson hwarp =>
      simp only [hjson, hwarp, Prod.mk.injEq, true_and, Option.some.injEq, exists_eq']
    | warp2 hjson hwarp hwarp2 =>
      simp only [hjson, hwarp, hwarp2, Prod.mk.injEq, true_and, Option.some.injEq, exists_eq']

end Stages

/-! ### Changing the options -/

namespace V2

variable {domainStrategy : JsonText.Value → Option DomainStrategy}

/-- An error leaves the options alone, and without one they are the fully decoded document. -/
structure ChangesAtomically (domainStrategy : JsonText.Value → Option DomainStrategy)
    (json : String) (s : Core) : Prop where
  failed : ∀ err t, changeConfigOptions domainStrategy json s = (.ret (.error err), t) →
    t.configOptions = s.configOptions
  changed : ∀ resp t, changeConfigOptions domainStrategy json s = (.ret (.ok resp), t) →
    ∃ o, FullyDecoded domainStrategy json o ∧ t.configOptions = some o

lemma decodeInto_run (decode : ConfigOptions → ConfigOptions × Option DecodeError)
    (o : ConfigOptions) (s : Core) :
    decodeInto decode (s.setConfigOptions o) =
      (.ret (decode o).2, s.setConfigOptions (decode o).1) := rfl

/-- The call returns, and the stages up to the first that fails have written the options. -/
lemma changeConfigOptions_run (domainStrategy : JsonText.Value → Option DomainStrategy)
    (json : String) (s : Core) :
    changeConfigOptions domainStrategy json s =
      (.ret (match (decodeStages domainStrategy json).2 with
        | some err => .error err
        | none => .ok { coreState := .stopped, messageType := .empty, message := "" }),
      s.setConfigOptions (decodeStages domainStrategy json).1) := by
  rw [changeConfigOptions, decodeStages]
  simp only [Go.bind_run, Go.modify, decodeInto_run]
  rcases unmarshalConfigOptions domainStrategy json {} with ⟨decoded, _ | err⟩
  · simp only [Go.bind_run, decodeInto_run]
    rcases decodeWarp decoded with ⟨withWarp, _ | err⟩
    · simp only [Go.bind_run, decodeInto_run]
      rcases decodeWarp2 withWarp with ⟨o, _ | err⟩
      · rfl
      · rfl
    · rfl
  · rfl

/-- The options change atomically unless a stage fails after it has written something else than
what they were. -/
theorem changesAtomically_iff (json : String) (s : Core) :
    ChangesAtomically domainStrategy json s ↔
      (∃ o, FullyDecoded domainStrategy json o) ∨
      ∃ o, PartlyDecoded domainStrategy json o ∧ s.configOptions = some o := by
  rcases hstages : decodeStages domainStrategy json with ⟨o, _ | err⟩
  · have hfull := decodeStages_eq_none.mp hstages
    refine iff_of_true ⟨fun err t h => ?_, fun resp t h => ?_⟩ (.inl ⟨o, hfull⟩)
    · rw [changeConfigOptions_run, hstages] at h
      cases h
    · rw [changeConfigOptions_run, hstages] at h
      cases h
      exact ⟨o, hfull, rfl⟩
  · have hpart := decodeStages_eq_some.mp ⟨err, hstages⟩
    have hrun := changeConfigOptions_run domainStrategy json s
    rw [hstages] at hrun
    constructor
    · intro h
      exact .inr ⟨o, hpart, (h.failed err _ hrun).symm⟩
    · rintro (⟨o', hfull⟩ | ⟨o', hpart', hs⟩)
      · cases hstages.symm.trans (decodeStages_eq_none.mpr hfull)
      · obtain ⟨err', hstages'⟩ := decodeStages_eq_some.mpr hpart'
        cases hstages.symm.trans hstages'
        refine ⟨fun err t h => ?_, fun resp t h => ?_⟩
        · cases hrun.symm.trans h
          exact hs.symm
        · cases hrun.symm.trans h

/-- The nested text is no JSON, and the log level is changed all the same. -/
theorem not_changesAtomically :
    ¬ ∀ (domainStrategy : JsonText.Value → Option DomainStrategy) (json : String) (s : Core),
      ChangesAtomically domainStrategy json s := by
  intro h
  let json := "\x7b\"log-level\":\"trace\",\"warp\":\x7b\"wireguard-config\":\"x\"\x7d\x7d"
  let s : Core := { configOptions := some { logLevel := "warn" } }
  have herr : (decodeStages (fun _ => none) json).2 = some .invalid := by decide +kernel
  have hlevel : (decodeStages (fun _ => none) json).1.logLevel = "trace" := by decide +kernel
  have hrun := changeConfigOptions_run (fun _ => none) json s
  rw [herr] at hrun
  have hkept := Option.some.inj ((h _ json s).failed _ _ hrun)
  rw [hkept] at hlevel
  exact absurd hlevel (by decide)

end V2

/-! ### The loaders agree -/

section Agree

variable (domainStrategy : JsonText.Value → Option DomainStrategy)

/-- Every loader returns an error. -/
structure AllFail (json : String) : Prop where
  changed : ∀ s, ∃ err t,
    V2.changeConfigOptions domainStrategy json s = (.ret (.error err), t)
  standalone : ∀ readFile path, readFile path = .ok json →
    ∃ err, V2.readConfigOptionsAt domainStrategy readFile path = .error err
  command : ∀ readFile path, readFile path = .ok json →
    ∃ err, Cmd.readConfigOptionsAt domainStrategy readFile path = .error err
  built : ∀ (x : Utils.BuildCalls) configJson options, x.unmarshalJSON configJson = .ok options →
    ∃ err, Utils.buildConfig domainStrategy x json configJson = .ret (.error err)

/-- Every loader obtains the options `o`, which `BuildConfig` goes on to build from. -/
structure AllObtain (json : String) (o : ConfigOptions) : Prop where
  changed : ∀ s, ∃ resp t,
    V2.changeConfigOptions domainStrategy json s = (.ret (.ok resp), t) ∧ t.configOptions = some o
  standalone : ∀ readFile path, readFile path = .ok json →
    V2.readConfigOptionsAt domainStrategy readFile path = .ok o
  command : ∀ readFile path, readFile path = .ok json →
    Cmd.readConfigOptionsAt domainStrategy readFile path = .ok o
  built : ∀ (x : Utils.BuildCalls) configJson options, x.unmarshalJSON configJson = .ok options →
    Utils.buildConfig domainStrategy x json configJson =
      Utils.buildConfig.built (x.buildConfigJson o options)

def LoadersAgree (json : String) : Prop :=
  AllFail domainStrategy json ∨ ∃ o, AllObtain domainStrategy json o

variable {domainStrategy} {json : String}

lemma loadOptions_eq {readFile : String → Except String String} {path : String}
    (hread : readFile path = .ok json) :
    loadOptions domainStrategy readFile path =
      loadOptions.checked (decodeStages domainStrategy json) := by
  rw [loadOptions, decodeStages, hread]
  simp only [Except.mapError, Except.bind, bind]
  rcases unmarshalConfigOptions domainStrategy json {} with ⟨decoded, _ | err⟩
  · simp only [loadOptions.checked]
    rcases decodeWarp decoded with ⟨withWarp, _ | err⟩
    · rfl
    · rfl
  · rfl

/-- Behind the first stage `BuildConfig` returns the errors, as the others do. -/
lemma buildConfig_eq {x : Utils.BuildCalls} {configJson : String} {options : Singbox.Options}
    (hconfig : x.unmarshalJSON configJson = .ok options)
    (hjson : (unmarshalConfigOptions domainStrategy json {}).2 = none) :
    Utils.buildConfig domainStrategy x json configJson =
      match decodeStages domainStrategy json with
      | (_, some err) => .ret (.error (.decode err))
      | (o, none) => Utils.buildConfig.built (x.buildConfigJson o options) := by
  rw [Utils.buildConfig, decodeStages, hconfig]
  revert hjson
  rcases unmarshalConfigOptions domainStrategy json {} with ⟨decoded, _ | err⟩
  · intro _
    simp only
    rcases decodeWarp decoded with ⟨withWarp, _ | err⟩
    · rfl
    · rfl
  · intro hjson
    cases hjson

lemma buildConfig_of_rejected {x : Utils.BuildCalls} {configJson : String}
    {options : Singbox.Options} (hconfig : x.unmarshalJSON configJson = .ok options)
    (hjson : (unmarshalConfigOptions domainStrategy json {}).2 ≠ none) :
    Utils.buildConfig domainStrategy x json configJson = .ret (.ok "") := by
  rw [Utils.buildConfig, hconfig]
  revert hjson
  rcases unmarshalConfigOptions domainStrategy json {} with ⟨decoded, _ | err⟩
  · intro hjson
    exact absurd rfl hjson
  · intro _
    rfl

lemma AllFail.of_stages {o : ConfigOptions} {err : DecodeError}
    (hjson : (unmarshalConfigOptions domainStrategy json {}).2 = none)
    (hstages : decodeStages domainStrategy json = (o, some err)) : AllFail domainStrategy json where
  changed s := by
    have hrun := V2.changeConfigOptions_run domainStrategy json s
    rw [hstages] at hrun
    exact ⟨err, _, hrun⟩
  standalone readFile path hread := by
    rw [V2.readConfigOptionsAt, loadOptions_eq hread, hstages]
    exact ⟨_, rfl⟩
  command readFile path hread := by
    rw [Cmd.readConfigOptionsAt, loadOptions_eq hread, hstages]
    exact ⟨_, rfl⟩
  built x configJson options hconfig := by
    rw [buildConfig_eq hconfig hjson, hstages]
    exact ⟨_, rfl⟩

lemma AllObtain.of_stages {o : ConfigOptions}
    (hjson : (unmarshalConfigOptions domainStrategy json {}).2 = none)
    (hstages : decodeStages domainStrategy json = (o, none)) : AllObtain domainStrategy json o where
  changed s := by
    have hrun := V2.changeConfigOptions_run domainStrategy json s
    rw [hstages] at hrun
    exact ⟨_, _, hrun, rfl⟩
  standalone readFile path hread := by
    rw [V2.readConfigOptionsAt, loadOptions_eq hread, hstages]
    rfl
  command readFile path hread := by
    rw [Cmd.readConfigOptionsAt, loadOptions_eq hread, hstages]
    rfl
  built x configJson options hconfig := by
    rw [buildConfig_eq hconfig hjson, hstages]

/-- A document that is rejected: `ChangeConfigOptions` returns the error and `BuildConfig` drops
it, so they neither fail together nor obtain the same. -/
lemma not_loadersAgree_of_rejected
    (hjson : (unmarshalConfigOptions domainStrategy json {}).2 ≠ none) :
    ¬ LoadersAgree domainStrategy json := by
  rintro (hfail | ⟨o, hobtain⟩)
  · let x : Utils.BuildCalls :=
      { unmarshalJSON := fun _ => .ok {}, buildConfigJson := fun _ _ => .ret (.ok "") }
    obtain ⟨err, h⟩ := hfail.built x "" {} rfl
    cases (buildConfig_of_rejected rfl hjson).symm.trans h
  · obtain ⟨resp, t, h, -⟩ := hobtain.changed {}
    rw [V2.changeConfigOptions_run, decodeStages] at h
    rcases hu : unmarshalConfigOptions domainStrategy json {} with ⟨decoded, _ | err⟩
    · exact hjson (by rw [hu])
    · rw [hu] at h
      cases h

/-- The loaders agree exactly on the documents that decode into the options, whatever becomes of
their nested texts. -/
theorem loadersAgree_iff (json : String) :
    LoadersAgree domainStrategy json ↔
      (unmarshalConfigOptions domainStrategy json {}).2 = none := by
  constructor
  · intro h
    by_contra hjson
    exact not_loadersAgree_of_rejected hjson h
  · intro hjson
    rcases hstages : decodeStages domainStrategy json with ⟨o, _ | err⟩
    · exact .inr ⟨o, .of_stages hjson hstages⟩
    · exact .inl (.of_stages hjson hstages)

/-- A text that is no JSON. -/
theorem not_loadersAgree :
    ¬ ∀ (domainStrategy : JsonText.Value → Option DomainStrategy) (json : String),
      LoadersAgree domainStrategy json := by
  intro h
  have herr : (unmarshalConfigOptions (fun _ => none) "log-level" {}).2 ≠ none := by decide +kernel
  exact not_loadersAgree_of_rejected herr (h _ _)

end Agree

end HiddifyCore
