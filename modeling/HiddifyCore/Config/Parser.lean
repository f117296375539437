import HiddifyCore.Config.DocumentJson
import HiddifyCore.Config.Reference
import HiddifyCore.Config.Warp

/-!
# Parsing a configuration

`ParseConfigContent` and `patchConfig` of `config/parser.go`. A JSON document is decoded into an
`any`, a map with its outbounds is built, marshalled and decoded again into sing-box's options, and
the custom WARP outbounds of these are resolved by a batch of tasks. For a document without an
`outbounds` key the map is put into itself, which `json.MarshalIndent` refuses; its error is
dropped, and no text is decoded. So a single outbound is never accepted, and neither is an array.
-/

namespace HiddifyCore.Config

open GoLib Singbox

/-- A decoded Clash configuration, a nil slice of proxies being `none`. -/
structure Clash where
  proxies : Option (List Json)

/-- The code outside the repository that the parser calls. -/
structure ParserDeps where
  /-- `Decode` of a `json.Decoder` over `NewCommentFilter`, into an `any`. -/
  decode : String → Option Json
  /-- `json.MarshalIndent` of a decoded value. -/
  indent : Json → String
  /-- `json.Unmarshal` into `option.Options`. -/
  unmarshalOptions : String → Outcome Options
  /-- `json.MarshalIndent` of `option.Options`. -/
  marshalOptions : Options → Outcome String
  ray2Singbox : String → Outcome String
  /-- `yaml.Unmarshal` into `clash.Clash`. -/
  unmarshalClash : String → Outcome Clash
  clash2sing : Clash → Outcome (List Outbound)
  /-- `convert.Patch` of the embedded template. -/
  patchTemplate : List Outbound → Outcome String
  /-- `libbox.CheckConfig`. -/
  checkConfig : String → Outcome PUnit
  /-- `Error` of a batch error with its key. -/
  batchErr : String → String → String

/-- What `encoding/json` and sing-box document: a JSON text is not empty, an empty text is no JSON,
and the outbounds of an options document are an array or null. -/
structure ParserDeps.Documented (P : ParserDeps) : Prop where
  indent_ne (v : Json) : P.indent v ≠ ""
  unmarshal_empty : (P.unmarshalOptions "").IsFail
  unmarshal_outbounds {m : JObj} {v : Json} (h : m.get? "outbounds" = some v)
    (harr : ∀ xs, v ≠ .arr xs) (hnull : v ≠ .null) : (P.unmarshalOptions (P.indent (.obj m))).IsFail

/-- The answers that one call of the parser gets. -/
structure ParseEnv where
  /-- Those of the task for the outbound at each position. -/
  draws : Nat → Draws := fun _ => {}
  /-- The order in which that many tasks complete. -/
  completion : Nat → List Nat := List.range
  perm (n : Nat) : (completion n).Perm (List.range n) := by exact fun n => .refl _

section Parser

variable (D : Deps) (P : ParserDeps) (env : ParseEnv)

/-! ### Patching the decoded options -/

/-- The results of the tasks of a batch, which are given in the order of their completion. The
first error is the one that is returned, and a key has the last of its results. A panic is not
recovered. -/
def waitAndGetResult : List (String × Outcome Outbound) → Outcome (List (String × Outbound))
  | [] => .ok []
  | (key, result) :: rest =>
    match result, waitAndGetResult rest with
    | .panic e, _ => .panic e
    | _, .panic e => .panic e
    | .fail e, _ => .fail (P.batchErr key e)
    | .ok _, .fail e => .fail e
    | .ok out, .ok res => .ok (res ++ [(key, out)])

/-- The task of the outbound at position `i`. -/
def patchTask (configOpt : Option ConfigOptions) (i : Nat) (base : Outbound) : Outcome Outbound :=
  (Prod.fst <$> patchWarp D (env.draws i) base configOpt false).mapErr
    ("[Warp] patch warp error: " ++ ·)

/-- The tasks of all outbounds in the order of their completion. -/
def completedTasks (configOpt : Option ConfigOptions) (outbounds : List Outbound) :
    List (String × Outcome Outbound) :=
  (env.completion outbounds.length).filterMap fun i =>
    outbounds[i]?.map fun base => (base.tag, patchTask D env configOpt i base)

/-- `*res[base.Tag].Value` for every outbound. -/
def takeResults (res : List (String × Outbound)) : List Outbound → Outcome (List Outbound)
  | [] => .ok []
  | base :: rest =>
    match res.lookup base.tag with
    | none => .panic "invalid memory address or nil pointer dereference"
    | some out => do
      let outs ← takeResults res rest
      .ok (out :: outs)

def validateResult (content name : String) : Outcome String := do
  let _ ← (P.checkConfig content).mapErr fun e => "[" ++ name ++ "] invalid sing-box config: " ++ e
  .ok content

/-- The text that is left when the error of the marshaller is dropped. -/
def contentOf : Outcome String → Outcome String
  | .fail _ => .ok ""
  | o => o

def patchConfig (content name : String) (configOpt : Option ConfigOptions) : Outcome String := do
  let options ← (P.unmarshalOptions content).mapErr ("[SingboxParser] unmarshal error: " ++ ·)
  let res ← waitAndGetResult P (completedTasks D env configOpt options.outbounds)
  let outbounds ← takeResults res options.outbounds
  let content ← contentOf (P.marshalOptions { options with outbounds := outbounds })
  validateResult P content name

/-! ### The JSON branch -/

/-- A map in a slice that is put into `jsonObj`. -/
inductive MapRef where
  | decoded (m : JObj)
  /-- The map `jsonObj` itself. -/
  | jsonObj

/-- A value of the map `jsonObj`. -/
inductive GoValue where
  | decoded (v : Json)
  | slice (xs : List MapRef)

/-- The value to marshal, if it is not found to be inside itself. -/
def MapRef.toJson : MapRef → Option Json
  | .decoded m => some (.obj m)
  | .jsonObj => none

def GoValue.toJson : GoValue → Option Json
  | .decoded v => some v
  | .slice xs => .arr <$> xs.mapM MapRef.toJson

def marshalIndent (m : List (String × GoValue)) : Outcome String :=
  match m.mapM fun kv => (kv.1, ·) <$> kv.2.toJson with
  | some kvs => .ok (P.indent (.obj kvs))
  | none => .fail "json: unsupported value: encountered a cycle via map[string]interface {}"

/-- `v.([]map[string]interface{})`, which fails on every decoded value: an array is decoded into a
`[]interface{}`. -/
def asObjectSlice? : Json → Option (List JObj) := fun _ => none

/-- `m["outbounds"]`, unless it is nil. -/
def outboundsValue (m : JObj) : Option Json :=
  match m.get? "outbounds" with
  | none | some .null => none
  | some v => some v

/-- The map that is built from the decoded value. -/
def jsonObjOf (full : Bool) (tmp : Json) : Outcome (List (String × GoValue)) :=
  match tmp.asObject? with
  | some tmpJsonObj =>
    match outboundsValue tmpJsonObj with
    | none => .ok [("outbounds", .slice [.jsonObj])]
    | some outbounds =>
      if full then
        .ok (tmpJsonObj.map fun kv => (kv.1, .decoded kv.2))
      else
        .ok [("outbounds", .decoded outbounds)]
  | none =>
    match asObjectSlice? tmp with
    | some jsonArray => .ok [("outbounds", .slice (jsonArray.map .decoded))]
    | none => .fail "[SingboxParser] Incorrect Json Format"

/-- The text that the JSON branch hands to `patchConfig`. -/
def newContent (full : Bool) (tmp : Json) : Outcome String := do
  let jsonObj ← jsonObjOf full tmp
  contentOf (marshalIndent P jsonObj)

/-- Whether the keys besides the outbounds are kept. -/
def keepsFull (configOpt : Option ConfigOptions) (fullConfig : Bool) : Bool :=
  fullConfig || configOpt.any (·.enableFullConfig)

/-! ### The formats -/

def parseClash (content : String) (configOpt : Option ConfigOptions) : Outcome String :=
  match P.unmarshalClash content with
  | .ok { proxies := some [] } => .fail "[ClashParser] no outbounds found"
  | .ok { proxies := some (proxy :: proxies) } => do
    let converted ← (P.clash2sing { proxies := some (proxy :: proxies) }).mapErr
      ("[ClashParser] converting clash to sing-box error: " ++ ·)
    let output ← (P.patchTemplate converted).mapErr
      ("[ClashParser] patching clash config error: " ++ ·)
    patchConfig D P env output "ClashParser" configOpt
  | .ok { proxies := none } | .fail _ => .fail "unable to determine config format"
  | .panic e => .panic e

def parseConfigContent (content : String) (configOpt : Option ConfigOptions) (fullConfig : Bool) :
    Outcome String :=
  match P.decode content with
  | some tmp => do
    let newContent ← newContent P (keepsFull configOpt fullConfig) tmp
    patchConfig D P env newContent "SingboxParser" configOpt
  | none =>
    match P.ray2Singbox content with
    | .ok v2rayStr => patchConfig D P env v2rayStr "V2rayParser" configOpt
    | .fail _ => parseClash D P env content configOpt
    | .panic e => .panic e

/-! ### The text that is patched -/

/-- The text that `ParseConfigContent` calls `patchConfig` with, and the name of its parser. -/
def patchedText (content : String) (configOpt : Option ConfigOptions) (fullConfig : Bool) :
    Outcome (String × String) :=
  match P.decode content with
  | some tmp => do
    let text ← newContent P (keepsFull configOpt fullConfig) tmp
    .ok (text, "SingboxParser")
  | none =>
    match P.ray2Singbox content with
    | .ok v2rayStr => .ok (v2rayStr, "V2rayParser")
    | .fail _ =>
      match P.unmarshalClash content with
      | .ok { proxies := some [] } => .fail "[ClashParser] no outbounds found"
      | .ok { proxies := some (proxy :: proxies) } => do
        let converted ← (P.clash2sing { proxies := some (proxy :: proxies) }).mapErr
          ("[ClashParser] converting clash to sing-box error: " ++ ·)
        let output ← (P.patchTemplate converted).mapErr
          ("[ClashParser] patching clash config error: " ++ ·)
        .ok (output, "ClashParser")
      | .ok { proxies := none } | .fail _ => .fail "unable to determine config format"
      | .panic e => .panic e
    | .panic e => .panic e

lemma parseConfigContent_eq (content : String) (configOpt : Option ConfigOptions)
    (fullConfig : Bool) :
    parseConfigContent D P env content configOpt fullConfig = (do
      let t ← patchedText P content configOpt fullConfig
      patchConfig D P env t.1 t.2 configOpt) := by
  simp only [parseConfigContent, patchedText]
  cases P.decode content with
  | some tmp => cases hnew : newContent P (keepsFull configOpt fullConfig) tmp <;> simp [hnew]
  | none =>
    cases P.ray2Singbox content with
    | ok v2rayStr => rfl
    | panic e => rfl
    | fail e =>
      simp only [parseClash]
      rcases P.unmarshalClash content with ⟨⟨_ | (_ | ⟨proxy, proxies⟩)⟩⟩ | e | e
      · rfl
      · rfl
      · cases hclash : P.clash2sing { proxies := some (proxy :: proxies) } with
        | ok converted =>
          cases hpatch : P.patchTemplate converted <;> simp [Outcome.mapErr, hclash, hpatch]
        | fail e => simp [Outcome.mapErr, hclash]
        | panic e => simp [Outcome.mapErr, hclash]
      · rfl
      · rfl

end Parser

/-! ### The accepted shapes -/

variable {D : Deps} {P : ParserDeps} {env : ParseEnv}

section Shapes

variable (D P env)

end Shapes

lemma parseConfigContent_json {content : String} {configOpt : Option ConfigOptions}
    {fullConfig : Bool} {tmp : Json} (hdecode : P.decode content = some tmp) :
    parseConfigContent D P env content configOpt fullConfig = (do
      let newContent ← newContent P (keepsFull configOpt fullConfig) tmp
      patchConfig D P env newContent "SingboxParser" configOpt) := by
  simp only [parseConfigContent, hdecode]

/-- A document that has its outbounds only is handed over as it is. -/
lemma patchedText_outbounds {content : String} (configOpt : Option ConfigOptions)
    (fullConfig : Bool) {xs : List Json}
    (hdecode : P.decode content = some (.obj [("outbounds", .arr xs)])) :
    patchedText P content configOpt fullConfig =
      .ok (P.indent (.obj [("outbounds", .arr xs)]), "SingboxParser") := by
  have hnew : newContent P (keepsFull configOpt fullConfig) (.obj [("outbounds", .arr xs)]) =
      .ok (P.indent (.obj [("outbounds", .arr xs)])) := by
    cases keepsFull configOpt fullConfig <;> rfl
  simp only [patchedText, hdecode, hnew, Outcome.bind_ok]

/-- A document without outbounds is written again. -/
lemma parseConfigContent_empty {content text : String} (configOpt : Option ConfigOptions)
    (fullConfig : Bool) (hdecode : P.decode content = some (.obj [("outbounds", .arr [])]))
    (hread : P.unmarshalOptions (P.indent (.obj [("outbounds", .arr [])])) = .ok {})
    (hwrite : P.marshalOptions {} = .ok text) (hcheck : P.checkConfig text = .ok ⟨⟩) :
    parseConfigContent D P {} content configOpt fullConfig = .ok text := by
  have hres : waitAndGetResult P (completedTasks D {} configOpt []) = .ok [] := rfl
  rw [parseConfigContent_eq, patchedText_outbounds configOpt fullConfig hdecode, Outcome.bind_ok,
    patchConfig, hread]
  simp only [Outcome.mapErr, Outcome.bind_ok, hres, takeResults, hwrite, contentOf, validateResult,
    hcheck]

/-! ### A document and a single outbound -/

namespace ParserReference

/-- A parser of JSON documents. -/
def deps : ParserDeps where
  decode := DocumentJson.decode
  indent := DocumentJson.indent
  unmarshalOptions := DocumentJson.unmarshalOptions
  marshalOptions := DocumentJson.marshalOptions
  ray2Singbox _ := .fail "no outbounds found"
  unmarshalClash _ := .ok { proxies := none }
  clash2sing _ := .ok []
  patchTemplate _ := .ok ""
  checkConfig _ := .ok ⟨⟩
  batchErr key e := key ++ ": " ++ e

lemma deps_documented : deps.Documented where
  indent_ne := DocumentJson.indent_ne
  unmarshal_empty := DocumentJson.unmarshalOptions_empty
  unmarshal_outbounds := DocumentJson.unmarshalOptions_outbounds

lemma decode_indent {v : Json} (h : DocumentJson.ofValue (DocumentJson.value v) = some v) :
    deps.decode (deps.indent v) = some v := DocumentJson.decode_of_ofValue h

lemma unmarshalOptions_indent {es : List DocumentJson.OutboundEntry} {v : Json}
    (h : DocumentJson.IsOutbounds es v) :
    deps.unmarshalOptions (deps.indent v) =
      .ok { outbounds := es.map DocumentJson.OutboundEntry.outbound } :=
  DocumentJson.unmarshalOptions_indent h

/-- A document without outbounds is kept. -/
def emptyDocument : Json := .obj [("outbounds", .arr [])]

lemma marshalOptions_empty :
    deps.marshalOptions {} = .ok (DocumentJson.entriesCodec.marshal {}) :=
  DocumentJson.marshalOptions_of_known fun _ hout => absurd hout List.not_mem_nil

lemma parseConfigContent_emptyDocument (D : Deps) (configOpt : Option ConfigOptions)
    (fullConfig : Bool) :
    parseConfigContent D deps {} (deps.indent emptyDocument) configOpt fullConfig =
      .ok (DocumentJson.entriesCodec.marshal {}) := by
  have hempty : DocumentJson.IsOutbounds [] emptyDocument := rfl
  have hdecode : deps.decode (deps.indent emptyDocument) = some emptyDocument :=
    decode_indent (v := emptyDocument) rfl
  have hcheck (text : String) : deps.checkConfig text = .ok ⟨⟩ := rfl
  exact parseConfigContent_empty configOpt fullConfig hdecode (unmarshalOptions_indent hempty)
    marshalOptions_empty (hcheck _)

lemma unmarshalOptions_marshal_empty :
    deps.unmarshalOptions (DocumentJson.entriesCodec.marshal {}) = .ok {} :=
  DocumentJson.unmarshal_marshal marshalOptions_empty

end ParserReference

end HiddifyCore.Config
