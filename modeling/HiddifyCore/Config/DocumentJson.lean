import HiddifyCore.GoLib.JsonEncode
import HiddifyCore.GoLib.Panic
import HiddifyCore.Config.Json
import HiddifyCore.Config.Singbox

/-!
# Documents as texts

A small part of sing-box's JSON that can be run: of a document the secret of the Clash API, the DNS
rules, the final outbound and the outbounds, and of an outbound its type, its tag and the address
and the key of WireGuard. What is written of them is read back (`unmarshal_marshal`), and so is any
value that was decoded into an `any`.
-/

namespace HiddifyCore.Config.DocumentJson

open GoLib GoLib.JsonDecode Singbox
open GoLib.JsonText (Value)

/-! ### Decoded values -/

/-- A whole number is written with its digits only. -/
def literal (m : Int) (e : Nat) : String :=
  if e = 0 then Strings.intDigits m else Strings.intDigits m ++ "e-" ++ Strings.natDigits e

mutual

def value : Json → Value
  | .null => .null
  | .bool b => .bool b
  | .num m e => .num (literal m e)
  | .str s => .str s
  | .arr xs => .arr (values xs)
  | .obj kvs => .obj (memberValues kvs)

def values : List Json → List Value
  | [] => []
  | v :: vs => value v :: values vs

def memberValues : JObj → List (String × Value)
  | [] => []
  | (k, v) :: kvs => (k, value v) :: memberValues kvs

end

mutual

/-- A value of which every number is a whole one. -/
def ofValue : Value → Option Json
  | .null => some .null
  | .bool b => some (.bool b)
  | .num literal => (Strings.atoi literal).map (.num · 0)
  | .str s => some (.str s)
  | .arr vs => .arr <$> ofValues vs
  | .obj ms => .obj <$> ofMembers ms

def ofValues : List Value → Option (List Json)
  | [] => some []
  | v :: vs => do
    let x ← ofValue v
    let xs ← ofValues vs
    some (x :: xs)

def ofMembers : List (String × Value) → Option JObj
  | [] => some []
  | (k, v) :: ms => do
    let x ← ofValue v
    let kvs ← ofMembers ms
    some ((k, x) :: kvs)

end

/-- `json.MarshalIndent` of a decoded value. -/
def indent (v : Json) : String := JsonText.encode (.indented 2) (value v)

/-- `Decode` of a `json.Decoder` into an `any`. -/
def decode (content : String) : Option Json := (JsonText.decode content).bind ofValue

lemma numeric_literal (m : Int) (e : Nat) :
    JsonText.isNumber (literal m e).toList = true := by
  unfold literal
  split_ifs
  · exact JsonText.isNumber_intDigits m
  · exact JsonText.isNumber_exponent m e

mutual

lemma numeric_value (v : Json) : JsonText.numeric (value v) = true := by
  match v with
  | .num m e => exact numeric_literal m e
  | .arr xs => exact numerics_values xs
  | .obj kvs => exact memberNumerics_memberValues kvs
  | .null | .bool _ | .str _ => rfl

lemma numerics_values (vs : List Json) : JsonText.numerics (values vs) = true := by
  match vs with
  | [] => rfl
  | v :: vs => simp [values, JsonText.numerics, numeric_value v, numerics_values vs]

lemma memberNumerics_memberValues (kvs : JObj) :
    JsonText.memberNumerics (memberValues kvs) = true := by
  match kvs with
  | [] => rfl
  | (k, v) :: kvs =>
    simp [memberValues, JsonText.memberNumerics, numeric_value v, memberNumerics_memberValues kvs]

end

lemma decode_indent (v : Json) : JsonText.decode (indent v) = some (value v) :=
  JsonText.decode_encode (numeric_value v)

/-- A value with whole numbers only is decoded as it was written. -/
lemma decode_of_ofValue {v : Json} (h : ofValue (value v) = some v) :
    decode (indent v) = some v := by
  rw [decode, decode_indent, Option.bind_some, h]

lemma indent_ne (v : Json) : indent v ≠ "" := JsonText.encode_ne (numeric_value v)

lemma mem_memberValues {kvs : JObj} {k : String} {v : Json} (h : kvs.get? k = some v) :
    (k, value v) ∈ memberValues kvs := by
  induction kvs with
  | nil => cases h
  | cons kv kvs ih =>
    obtain ⟨q, w⟩ := kv
    simp only [JObj.get?, List.lookup_cons] at h ih
    cases hq : k == q with
    | true =>
      rw [hq] at h
      cases h
      rw [beq_iff_eq.mp hq]
      exact List.mem_cons_self
    | false =>
      rw [hq] at h
      exact List.mem_cons_of_mem _ (ih h)

/-! ### Documents -/

/-- The part of an outbound that is written. -/
structure OutboundEntry where
  type : String := ""
  tag : String := ""
  server : String := ""
  serverPort : UInt16 := 0
  privateKey : String := ""

/-- The part of a document that is written. -/
structure Entries where
  secret : Option String := none
  dnsRules : Option (List DefaultDNSRule) := none
  final : Option String := none
  outbounds : List OutboundEntry := []

/-- An object with one member. -/
def wrapped {τ : Type} (name : String) (c : Codec τ) : Codec τ :=
  .struct [.of name id (fun v _ => v) c] (by simp) fun _ _ => rfl

def uint16Codec : Codec UInt16 :=
  .uint (2 ^ 16) UInt16.toNat UInt16.ofNat (fun _ => UInt16.ofNat_toNat) UInt16.toNat_lt

def uint32Codec : Codec UInt32 :=
  .uint (2 ^ 32) UInt32.toNat UInt32.ofNat (fun _ => UInt32.ofNat_toNat) UInt32.toNat_lt

def strings : Codec (List String) := .slice "" .string

def dnsRuleMembers : List (Member DefaultDNSRule) := [
  .of "inbound" (·.inbound) (fun v r => { r with inbound := v }) strings,
  .of "domain" (·.domain) (fun v r => { r with domain := v }) strings,
  .of "domain_suffix" (·.domainSuffix) (fun v r => { r with domainSuffix := v }) strings,
  .of "domain_keyword" (·.domainKeyword) (fun v r => { r with domainKeyword := v }) strings,
  .of "domain_regex" (·.domainRegex) (fun v r => { r with domainRegex := v }) strings,
  .of "geosite" (·.geosite) (fun v r => { r with geosite := v }) strings,
  .of "rule_set" (·.ruleSet) (fun v r => { r with ruleSet := v }) strings,
  .of "server" (·.server) (fun v r => { r with server := v }) .string,
  .of "disable_cache" (·.disableCache) (fun v r => { r with disableCache := v }) .bool,
  .of "rewrite_ttl" (·.rewriteTTL) (fun v r => { r with rewriteTTL := v })
    (.pointer 0 uint32Codec nofun)]

def dnsRuleCodec : Codec DefaultDNSRule :=
  .struct dnsRuleMembers (by decide) fun r s => by
    cases r
    cases s
    rfl

def outboundMembers : List (Member OutboundEntry) := [
  .of "type" (·.type) (fun v e => { e with type := v }) .string,
  .of "tag" (·.tag) (fun v e => { e with tag := v }) .string,
  .of "server" (·.server) (fun v e => { e with server := v }) .string,
  .of "server_port" (·.serverPort) (fun v e => { e with serverPort := v }) uint16Codec,
  .of "private_key" (·.privateKey) (fun v e => { e with privateKey := v }) .string]

def outboundCodec : Codec OutboundEntry := .struct outboundMembers (by decide) fun _ _ => rfl

def outboundsMember : Member Entries :=
  .of "outbounds" (·.outbounds) (fun v d => { d with outbounds := v }) (.slice {} outboundCodec)

def entriesMembers : List (Member Entries) := [
  .of "experimental" (·.secret) (fun v d => { d with secret := v })
    (.pointer "" (wrapped "clash_api" (wrapped "secret" .string)) nofun),
  .of "dns" (·.dnsRules) (fun v d => { d with dnsRules := v })
    (.pointer [] (wrapped "rules" (.slice {} dnsRuleCodec)) nofun),
  .of "route" (·.final) (fun v d => { d with final := v })
    (.pointer "" (wrapped "final" .string) nofun),
  outboundsMember]

def entriesCodec : Codec Entries := .struct entriesMembers (by decide) fun _ _ => rfl

/-! ### Outbounds -/

/-- The types that sing-box knows. -/
def outboundTypes : List OutboundType := [
  .direct, .block, .dns, .socks, .http, .shadowsocks, .vmess, .trojan, .wireguard, .hysteria, .tor,
  .ssh, .shadowtls, .shadowsocksr, .vless, .tuic, .hysteria2, .selector, .urltest, .custom, .xray]

def typeNamed (name : String) : OutboundType :=
  (outboundTypes.find? (·.name = name)).getD (.other name)

lemma typeNamed_name : ∀ t ∈ outboundTypes, typeNamed t.name = t := by decide

def entryOf (out : Outbound) : OutboundEntry where
  type := out.type.name
  tag := out.tag
  server := out.wireGuardOptions.server
  serverPort := out.wireGuardOptions.serverPort
  privateKey := out.wireGuardOptions.privateKey

def OutboundEntry.outbound (e : OutboundEntry) : Outbound where
  type := typeNamed e.type
  tag := e.tag
  wireGuardOptions := { server := e.server, serverPort := e.serverPort, privateKey := e.privateKey }

def entriesOf (options : Options) : Entries where
  secret := (options.experimental.bind (·.clashAPI)).map (·.secret)
  dnsRules := options.dns.map (·.rules)
  final := options.route.map (·.final)
  outbounds := options.outbounds.map entryOf

def Entries.options (d : Entries) : Options where
  experimental := d.secret.map fun secret => { clashAPI := some { secret := secret } }
  dns := d.dnsRules.map fun rules => { rules := rules }
  route := d.final.map fun final => { final := final }
  outbounds := d.outbounds.map OutboundEntry.outbound

/-! ### The codec of the options -/

/-- `json.Marshal` of the options, which refuses an outbound of an unknown type. -/
def marshalOptions (options : Options) : Outcome String :=
  if options.outbounds.all (·.type ∈ outboundTypes) then
    .ok (entriesCodec.marshal (entriesOf options))
  else
    .fail "unknown outbound type"

def unmarshalOptions (content : String) : Outcome Options :=
  match unmarshal entriesCodec.decode content {} with
  | (d, none) => .ok d.options
  | (_, some _) => .fail "decode config"

/-- What is written is read back. -/
lemma unmarshal_marshal {options : Options} {text : String}
    (h : marshalOptions options = .ok text) :
    unmarshalOptions text = .ok (entriesOf options).options := by
  unfold marshalOptions at h
  split_ifs at h
  cases h
  rw [unmarshalOptions, Codec.marshal, entriesCodec.unmarshal_encode .compact (by decide)]

/-- A document with these outbounds and nothing else. -/
def IsOutbounds (es : List OutboundEntry) (v : Json) : Prop :=
  value v = .obj [("outbounds", .arr (es.map outboundCodec.encode))]

/-- It is read as its outbounds. -/
lemma unmarshalOptions_indent {es : List OutboundEntry} {v : Json} (h : IsOutbounds es v) :
    unmarshalOptions (indent v) = .ok { outbounds := es.map OutboundEntry.outbound } := by
  have hwritten : value v =
      .obj ([outboundsMember].map fun m => (m.name, m.encode { outbounds := es })) := h
  have hdepth : JsonText.depth (value v) ≤ JsonStream.maxNestingDepth := by
    have hslice : JsonText.depth (.arr (es.map outboundCodec.encode)) ≤ outboundCodec.height + 1 :=
      (Codec.slice {} outboundCodec).depth_encode es
    have hheight : outboundCodec.height = 1 := rfl
    rw [IsOutbounds] at h
    simp only [h, JsonText.depth, JsonText.memberDepths, JsonStream.maxNestingDepth] at hslice ⊢
    omega
  have hdecode : entriesCodec.decode (value v) {} = ({ outbounds := es }, none) := by
    rw [hwritten]
    exact Codec.decode_struct (by decide) (by simp [entriesMembers]) _ _
  have hdoc : document (indent v) = some (value v) := by
    rw [document, decode_indent, Option.filter_some, if_pos (by simpa using hdepth)]
  rw [unmarshalOptions, unmarshal, hdoc]
  simp only [hdecode]
  rfl

lemma marshalOptions_of_known {options : Options}
    (h : ∀ out ∈ options.outbounds, out.type ∈ outboundTypes) :
    marshalOptions options = .ok (entriesCodec.marshal (entriesOf options)) :=
  if_pos (by simpa using h)

/-- The types of the outbounds are read back. -/
lemma type_of_marshal {options : Options} {text : String} (h : marshalOptions options = .ok text)
    {out : Outbound} (hout : out ∈ options.outbounds) : (entryOf out).outbound.type = out.type := by
  unfold marshalOptions at h
  split_ifs at h with hknown
  exact typeNamed_name out.type (by simpa using List.all_eq_true.mp hknown out hout)

lemma unmarshalOptions_empty : (unmarshalOptions "").IsFail := by decide

/-- Outbounds that are decoded without an error are an array or null. -/
lemma outbounds_of_decode {ms : List (String × Value)} {d : Entries}
    (h : (entriesCodec.decode (.obj ms) d).2 = none) {v : Value} (hv : ("outbounds", v) ∈ ms) :
    v = .null ∨ ∃ vs, v = .arr vs := by
  have hmembers : (members (entriesMembers.map (·.toStructField)) ms d).2 = none := h
  obtain ⟨u, hu⟩ := members_snd_eq_none hmembers hv rfl
  cases v with
  | null => exact .inl rfl
  | arr vs => exact .inr ⟨vs, rfl⟩
  | bool | num | str | obj => cases hu

lemma unmarshalOptions_outbounds {m : JObj} {v : Json} (h : m.get? "outbounds" = some v)
    (harr : ∀ xs, v ≠ .arr xs) (hnull : v ≠ .null) :
    (unmarshalOptions (indent (.obj m))).IsFail := by
  have hdoc : document (indent (.obj m)) = some (value (.obj m)) ∨
      document (indent (.obj m)) = none := by
    simp only [document, decode_indent, Option.filter_some]
    split_ifs
    · exact .inl rfl
    · exact .inr rfl
  have herr : (unmarshal entriesCodec.decode (indent (.obj m)) {}).2 ≠ none := by
    rcases hdoc with hdoc | hdoc <;> simp only [unmarshal, hdoc]
    · intro hnone
      rcases outbounds_of_decode hnone (mem_memberValues h) with hv | ⟨vs, hv⟩
      · cases v <;> first | exact hnull rfl | cases hv
      · cases v <;> first | exact harr _ rfl | cases hv
    · exact Option.some_ne_none _
  unfold unmarshalOptions
  rcases hdecoded : unmarshal entriesCodec.decode (indent (.obj m)) {} with ⟨d, _ | e⟩
  · rw [hdecoded] at herr
    exact absurd rfl herr
  · trivial

attribute [simp] value values memberValues ofValue ofValues ofMembers

-- a text is long: proofs go through what was decoded or written
attribute [irreducible] indent decode marshalOptions unmarshalOptions

end HiddifyCore.Config.DocumentJson
