import HiddifyCore.Config.Parser
import HiddifyCore.GoLib.JsonRead

/-!
# The dispatch on the format

`ParseConfigContent` tries JSON, the share links and Clash in this order. The JSON branch decodes
the first value of the stream and returns from inside, so that it takes every content that begins
with a JSON value, whatever follows it (`goesOn_iff`).
-/

namespace HiddifyCore.Config

open GoLib Singbox

/-- The stream that the parser decodes: the comments of the content are filtered out, and the first
value is turned into an `any`, which a number that no `float64` holds is not. -/
structure ParserDeps.ReadsStream (P : ParserDeps) (commentFilter : String → String)
    (toAny : JsonText.Value → Option Json) : Prop where
  decode_eq (content : String) :
    P.decode content = (JsonStream.read (commentFilter content)).bind toAny

/-- The parser with other share-link and Clash parsers. -/
def ParserDeps.withFormats (P : ParserDeps) (ray2Singbox : String → Outcome String)
    (unmarshalClash : String → Outcome Clash) : ParserDeps :=
  { P with ray2Singbox := ray2Singbox, unmarshalClash := unmarshalClash }

section Formats

variable (D : Deps) (P : ParserDeps) (env : ParseEnv)

/-- What the share-link parser makes of a content and, if that fails, the Clash parser. -/
def parseOtherFormats (content : String) (configOpt : Option ConfigOptions) : Outcome String :=
  match P.ray2Singbox content with
  | .ok v2rayStr => patchConfig D P env v2rayStr "V2rayParser" configOpt
  | .fail _ => parseClash D P env content configOpt
  | .panic e => .panic e

/-- Whatever the two other parsers answer, it is they that decide on the content. -/
def GoesOn (content : String) (configOpt : Option ConfigOptions) (fullConfig : Bool) : Prop :=
  ∀ ray2Singbox unmarshalClash,
    parseConfigContent D (P.withFormats ray2Singbox unmarshalClash) env content configOpt
        fullConfig =
      parseOtherFormats D (P.withFormats ray2Singbox unmarshalClash) env content configOpt

end Formats

/-- The content is one complete JSON document, apart from comments and blanks. -/
def IsCompleteDocument (commentFilter : String → String) (content : String) : Prop :=
  (JsonText.decode (commentFilter content)).isSome

instance (commentFilter : String → String) (content : String) :
    Decidable (IsCompleteDocument commentFilter content) :=
  inferInstanceAs (Decidable ((JsonText.decode (commentFilter content)).isSome = true))

/-- Apart from comments the content begins with a JSON value that a decoder can hold and that is
not continued by what comes next. -/
def BeginsWithValue (commentFilter : String → String) (toAny : JsonText.Value → Option Json)
    (content : String) : Prop :=
  ∃ v, JsonStream.BeginsWith (commentFilter content) v ∧
    JsonText.depth v ≤ JsonStream.maxNestingDepth ∧ (toAny v).isSome

variable {D : Deps} {P : ParserDeps} {env : ParseEnv} {commentFilter : String → String}
  {toAny : JsonText.Value → Option Json}

lemma parseConfigContent_other {content : String} (h : P.decode content = none)
    (configOpt : Option ConfigOptions) (fullConfig : Bool) :
    parseConfigContent D P env content configOpt fullConfig =
      parseOtherFormats D P env content configOpt := by
  cases hray : P.ray2Singbox content <;>
    simp only [parseConfigContent, h, parseOtherFormats, hray]

lemma waitAndGetResult_withFormats (ray2Singbox : String → Outcome String)
    (unmarshalClash : String → Outcome Clash) (tasks : List (String × Outcome Outbound)) :
    waitAndGetResult (P.withFormats ray2Singbox unmarshalClash) tasks =
      waitAndGetResult P tasks := by
  induction tasks with
  | nil => rfl
  | cons task tasks ih =>
    obtain ⟨key, result⟩ := task
    simp only [waitAndGetResult, ih]
    rfl

/-- A document is patched without a share-link or a Clash parser. -/
lemma patchConfig_withFormats (ray2Singbox : String → Outcome String)
    (unmarshalClash : String → Outcome Clash) (content name : String)
    (configOpt : Option ConfigOptions) :
    patchConfig D (P.withFormats ray2Singbox unmarshalClash) env content name configOpt =
      patchConfig D P env content name configOpt := by
  simp only [patchConfig, waitAndGetResult_withFormats]
  rfl

/-- The two other parsers decide exactly on what the decoder does not read. -/
lemma goesOn_iff_decode {content : String} {configOpt : Option ConfigOptions}
    {fullConfig : Bool} :
    GoesOn D P env content configOpt fullConfig ↔ P.decode content = none := by
  constructor
  · intro hgoes
    by_contra hne
    obtain ⟨tmp, htmp⟩ := Option.ne_none_iff_exists'.mp hne
    -- the JSON branch has one result, and a share-link parser can panic with any text
    have hresult (e : String) :
        parseConfigContent D (P.withFormats (fun _ => .panic e) P.unmarshalClash) env content
          configOpt fullConfig = .panic e :=
      hgoes (fun _ => .panic e) P.unmarshalClash
    have hsame (e : String) :
        parseConfigContent D (P.withFormats (fun _ => .panic e) P.unmarshalClash) env content
            configOpt fullConfig =
          (newContent P (keepsFull configOpt fullConfig) tmp >>= fun text =>
            patchConfig D P env text "SingboxParser" configOpt) := by
      rw [parseConfigContent_json (P := P.withFormats (fun _ => .panic e) P.unmarshalClash) htmp]
      simp only [patchConfig_withFormats]
      rfl
    have heq := (hresult "a").symm.trans ((hsame "a").trans ((hsame "b").symm.trans (hresult "b")))
    exact absurd (Outcome.panic.inj heq) (by decide)
  · intro h ray2Singbox unmarshalClash
    exact parseConfigContent_other (P := P.withFormats ray2Singbox unmarshalClash) h configOpt
      fullConfig

lemma ParserDeps.ReadsStream.decode_eq_none (h : P.ReadsStream commentFilter toAny)
    {content : String} :
    P.decode content = none ↔ ¬ BeginsWithValue commentFilter toAny content := by
  rw [h.decode_eq, Option.eq_none_iff_forall_ne_some]
  constructor
  · rintro hnone ⟨v, hbegins, hdepth, hany⟩
    obtain ⟨tmp, htmp⟩ := Option.isSome_iff_exists.mp hany
    have hread := JsonStream.read_eq_some.mpr ⟨hbegins, hdepth⟩
    exact hnone tmp (by rw [hread, Option.bind_some, htmp])
  · rintro hnot tmp htmp
    obtain ⟨v, hread, hany⟩ := Option.bind_eq_some_iff.mp htmp
    obtain ⟨hbegins, hdepth⟩ := JsonStream.read_eq_some.mp hread
    exact hnot ⟨v, hbegins, hdepth, Option.isSome_iff_exists.mpr ⟨tmp, hany⟩⟩

/-- The parser goes on to the other formats exactly for the contents that do not begin with a JSON
value. -/
theorem goesOn_iff (h : P.ReadsStream commentFilter toAny) (content : String)
    (configOpt : Option ConfigOptions) (fullConfig : Bool) :
    GoesOn D P env content configOpt fullConfig ↔
      ¬ BeginsWithValue commentFilter toAny content := by
  rw [goesOn_iff_decode, h.decode_eq_none]

/-! ### A subscription in base64 -/

namespace ParserReference

/-- A scalar as an `any`. -/
def scalarToAny : JsonText.Value → Option Json
  | .null => some .null
  | .bool b => some (.bool b)
  | .num literal => (Strings.atoi literal).map (.num · 0)
  | .str s => some (.str s)
  | .arr _ | .obj _ => none

/-- The parser on contents without comments whose first value is a scalar. -/
def streamDeps : ParserDeps :=
  { deps with decode := fun content => (JsonStream.read content).bind scalarToAny }

lemma streamDeps_readsStream : streamDeps.ReadsStream id scalarToAny := ⟨fun _ => rfl⟩

/-- A share link in base64. -/
def encodedLink : String := "c3M6Ly9h"

/-- The same with a byte order mark in front, as an editor may save it. -/
def encodedMark : String := "77u/c3M6Ly9h"

end ParserReference

open ParserReference in
theorem goesOn_encodedLink : ¬ BeginsWithValue id scalarToAny encodedLink ∧
    GoesOn Reference.deps streamDeps {} encodedLink none false := by
  have hnot : ¬ BeginsWithValue id scalarToAny encodedLink :=
    streamDeps_readsStream.decode_eq_none.mp (by decide)
  exact ⟨hnot, (goesOn_iff streamDeps_readsStream encodedLink none false).mpr hnot⟩

open ParserReference in
/-- The digits in front of the second text are taken as a number. -/
theorem not_goesOn :
    ¬ ∀ (D : Deps) (P : ParserDeps) (env : ParseEnv) (commentFilter : String → String)
      (toAny : JsonText.Value → Option Json), P.ReadsStream commentFilter toAny →
      ∀ (content : String) (configOpt : Option ConfigOptions) (fullConfig : Bool),
        ¬ IsCompleteDocument commentFilter content →
          GoesOn D P env content configOpt fullConfig := by
  intro h
  have hnot : ¬ IsCompleteDocument id encodedMark := by decide
  have hgoes := h Reference.deps streamDeps {} id scalarToAny streamDeps_readsStream encodedMark
    none false hnot
  have hdecode : (streamDeps.decode encodedMark).isSome := by decide
  rw [goesOn_iff_decode.mp hgoes] at hdecode
  cases hdecode

end HiddifyCore.Config
