import HiddifyCore.Config.BuildSpec
import HiddifyCore.Config.OptionsJson
import HiddifyCore.Config.Reference

/-!
# The durations of the URL test

`DurationInSeconds` takes any 64-bit integer for a number of seconds. `setOutbounds` writes it in
nanoseconds as the interval of its URL test, and three times that as the idle timeout. The core
compares the two, and the second wraps for a third of the seconds that the first can hold.
-/

namespace HiddifyCore.Config

open GoLib GoLib.Strings Singbox

variable {D : Deps}

/-- The integer that a document has for a duration. -/
def writtenSeconds : JsonText.Value → Int
  | .num literal => (atoi literal).getD 0
  | _ => 0

/-- The group that `setOutbounds` makes for the URL test. -/
def urlTestOf (out : Options) : Option Outbound := out.outbounds.find? (·.type = .urltest)

/-- The durations of a group, in nanoseconds, are those seconds and three times as many. -/
structure TestsEvery (seconds : Int) (o : Outbound) : Prop where
  interval : o.urlTestOptions.interval.toInt = seconds * 1000000000
  idleTimeout : o.urlTestOptions.idleTimeout.toInt = 3 * seconds * 1000000000
  ordered : o.urlTestOptions.interval ≤ o.urlTestOptions.idleTimeout

/-! ### From the document to the group -/

/-- Decoding loses nothing. -/
lemma toInt_durationInSeconds {v : JsonText.Value} {d : Int64} (h : durationInSeconds v = some d) :
    d.toInt = writtenSeconds v := by
  cases v with
  | null =>
    cases h
    rfl
  | num literal =>
    obtain ⟨i, hi, rfl⟩ := Option.map_eq_some_iff.mp h
    have hrange := atoi_range hi
    rw [writtenSeconds, hi, Option.getD_some]
    exact Int64.toInt_ofInt_of_le (by omega) (by omega)
  | bool _ => cases h
  | str _ => cases h
  | arr _ => cases h
  | obj _ => cases h

lemma scanWarp_urlTestInterval (input : List Outbound) (opt : ConfigOptions) :
    (scanWarp input opt).urlTestInterval = opt.urlTestInterval := by
  rw [scanWarp]
  split_ifs <;> rfl

/-- The document has the group with the interval of the options. -/
lemma setOutbounds_urlTest {env : BuildEnv} {input : List Outbound} {opt : ConfigOptions}
    {options out : Options} {g g' : Globals}
    (h : setOutbounds D env input opt options g = (.ret (.ok out), g')) :
    ∃ o, urlTestOf out = some o ∧ o.tag = outboundURLTestTag ∧
      o.urlTestOptions.interval = nanoseconds opt.urlTestInterval ∧
      o.urlTestOptions.idleTimeout = nanoseconds opt.urlTestInterval * 3 := by
  obtain ⟨warp, acc, -, -, rfl⟩ := setOutbounds_ok h
  refine ⟨urlTestOutbound (scanWarp input opt) acc.tags, ?_, rfl, ?_, ?_⟩
  · rw [urlTestOf, assembleOutbounds_outbounds]
    rfl
  · rw [← scanWarp_urlTestInterval input opt]
    rfl
  · rw [← scanWarp_urlTestInterval input opt]
    rfl

/-! ### The range -/

lemma toInt_nanoseconds (d : Int64) :
    (nanoseconds d).toInt = (d.toInt * 1000000000).bmod (2 ^ 64) :=
  Int64.toInt_mul d 1000000000

lemma toInt_idleTimeout (d : Int64) :
    (nanoseconds d * 3).toInt = (d.toInt * 1000000000 * 3).bmod (2 ^ 64) := by
  rw [Int64.toInt_mul, toInt_nanoseconds]
  exact Int.bmod_mul_bmod

/-- The idle timeout is the longer of the two, so it wraps first. -/
lemma durations_exact_iff {d : Int64} (hnonneg : 0 ≤ d.toInt) :
    ((nanoseconds d).toInt = d.toInt * 1000000000 ∧
      (nanoseconds d * 3).toInt = 3 * d.toInt * 1000000000 ∧ nanoseconds d ≤ nanoseconds d * 3) ↔
      d.toInt ≤ 3074457345 := by
  constructor
  · rintro ⟨-, hidle, -⟩
    have hlt := Int64.toInt_lt (nanoseconds d * 3)
    omega
  · intro hle
    have hinterval : (nanoseconds d).toInt = d.toInt * 1000000000 := by
      rw [toInt_nanoseconds]
      exact Int.bmod_eq_of_le (by omega) (by omega)
    have hidle : (nanoseconds d * 3).toInt = 3 * d.toInt * 1000000000 := by
      rw [toInt_idleTimeout, Int.bmod_eq_of_le (by omega) (by omega)]
      omega
    refine ⟨hinterval, hidle, ?_⟩
    rw [Int64.le_iff_toInt_le, hinterval, hidle]
    omega

/-- The group tests every so many seconds as long as three times the nanoseconds fit 64 bits. -/
theorem urlTest_testsEvery_iff {v : JsonText.Value} {env : BuildEnv} {input : List Outbound}
    {opt : ConfigOptions} {options out : Options} {g g' : Globals}
    (hv : durationInSeconds v = some opt.urlTestInterval) (hnonneg : 0 ≤ writtenSeconds v)
    (h : setOutbounds D env input opt options g = (.ret (.ok out), g')) :
    ∃ o, urlTestOf out = some o ∧ o.tag = outboundURLTestTag ∧
      (TestsEvery (writtenSeconds v) o ↔ writtenSeconds v ≤ 3074457345) := by
  obtain ⟨o, ho, htag, hinterval, hidle⟩ := setOutbounds_urlTest h
  rw [← toInt_durationInSeconds hv] at hnonneg ⊢
  refine ⟨o, ho, htag, ?_⟩
  rw [← durations_exact_iff hnonneg, ← hidle, ← hinterval]
  exact ⟨fun t => ⟨t.interval, t.idleTimeout, t.ordered⟩, fun t => ⟨t.1, t.2.1, t.2.2⟩⟩

/-- The default options test every ten minutes. -/
theorem urlTest_testsEvery_tenMinutes :
    ∃ o, urlTestOf (documentOf (setOutbounds Reference.deps {} [] defaultConfigOptions {} {}).1) =
      some o ∧ TestsEvery 600 o := by
  have hmade : isDocument (setOutbounds Reference.deps {} [] defaultConfigOptions {} {}).1 = true :=
    by decide
  have hv : durationInSeconds (.num "600") = some defaultConfigOptions.urlTestInterval := rfl
  obtain ⟨o, ho, -, htests⟩ := urlTest_testsEvery_iff hv (by decide)
    (Prod.ext (eq_documentOf hmade) rfl)
  exact ⟨o, ho, htests.mpr (by decide)⟩

/-- Seconds whose idle timeout wraps to less than the interval. -/
theorem not_urlTest_testsEvery :
    ¬ ∀ (D : Deps) (v : JsonText.Value) (env : BuildEnv) (input : List Outbound)
      (opt : ConfigOptions) (options out : Options) (g g' : Globals),
      durationInSeconds v = some opt.urlTestInterval → 0 ≤ writtenSeconds v →
      setOutbounds D env input opt options g = (.ret (.ok out), g') →
        ∃ o, urlTestOf out = some o ∧ TestsEvery (writtenSeconds v) o := by
  intro h
  have hmade : isDocument
      (setOutbounds Reference.deps {} [] { urlTestInterval := 3074457346 } {} {}).1 = true := by
    decide
  obtain ⟨o, ho, htests⟩ := h Reference.deps (.num "3074457346") {} [] _ {} _ {} _ rfl (by decide)
    (Prod.ext (eq_documentOf hmade) rfl)
  have hidle : (urlTestOf (documentOf
      (setOutbounds Reference.deps {} [] { urlTestInterval := 3074457346 } {} {}).1)).map
        (·.urlTestOptions.idleTimeout.toInt) = some (-9223372035709551616) := by
    decide
  rw [ho] at hidle
  exact absurd (htests.idleTimeout.symm.trans (Option.some.inj hidle)) (by decide)

end HiddifyCore.Config
