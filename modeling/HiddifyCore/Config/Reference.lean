import HiddifyCore.GoLib.Text
import HiddifyCore.Config.Deps

/-!
# Reference dependencies

An executable instance of `Deps` for a small part of what sing-box and the standard library
accept: socks, direct, block, dns and selector outbounds, the two WARP prefixes, and URLs without
user information or port. It meets the documented laws, so results that assume them can be run.
-/

namespace HiddifyCore.Config

open GoLib GoLib.Strings Singbox

namespace Reference

def encodeDetour (detour : String) : JObj :=
  if detour = "" then [] else [("detour", .str detour)]

def header (out : Outbound) : JObj := [("type", .str out.type.name), ("tag", .str out.tag)]

def marshalJSON (out : Outbound) : Outcome JObj :=
  match out.type with
  | .socks =>
    .ok (header out ++ [("server", .str out.socksOptions.server),
      ("server_port", .num out.socksOptions.serverPort.toNat 0)] ++
      encodeDetour out.socksOptions.detour)
  | .direct => .ok (header out ++ encodeDetour out.directOptions.detour)
  | .block | .dns => .ok (header out)
  | .selector => .ok (header out ++ [("outbounds", .arr (out.selectorOptions.outbounds.map .str))])
  | t => .fail ("unknown outbound type: " ++ t.name)

def decodePort (m : JObj) : UInt16 :=
  match m.get? "server_port" with
  | some (.num port 0) => UInt16.ofInt port
  | _ => 0

def decodeMembers (m : JObj) : List String :=
  match m.get? "outbounds" with
  | some (.arr members) => members.map Json.asString
  | _ => []

def unmarshalOutbound (m : JObj) : Outcome Outbound :=
  let tag := m.getString "tag"
  match m.getString "type" with
  | "socks" =>
    .ok {
      type := .socks
      tag := tag
      socksOptions := {
        server := m.getString "server"
        serverPort := decodePort m
        detour := m.getString "detour" } }
  | "direct" =>
    .ok { type := .direct, tag := tag, directOptions := { detour := m.getString "detour" } }
  | "block" => .ok { type := .block, tag := tag }
  | "dns" => .ok { type := .dns, tag := tag }
  | "selector" =>
    .ok { type := .selector, tag := tag, selectorOptions := { outbounds := decodeMembers m } }
  | t => .fail ("unknown outbound type: " ++ t)

/-- The host of a URL with a scheme. -/
def urlHost (url : String) : Option String :=
  match splitAfter url "://" with
  | [_, rest] => some (String.ofList (rest.toList.takeWhile (· ≠ '/')))
  | _ => some ""

/-- Dotted digits. -/
def isIP (s : String) : Bool := s ≠ "" && s.toList.all fun c => (digitValue c).isSome || c = '.'

def parsePrefix (s : String) : Outcome Prefix :=
  match s with
  | "172.16.0.2/24" => .ok { addr := .v4 0xAC100002, bits := 24 }
  | "2606:4700:110:8a36::1/128" =>
    .ok { addr := .v6 0x2606470001108a360000000000000001, bits := 128 }
  | _ => .fail ("netip.ParsePrefix(" ++ s ++ "): no address")

def deps : Deps where
  marshalJSON := marshalJSON
  unmarshalOutbound := unmarshalOutbound
  encodeMultiplex o := .obj [("enabled", .bool o.enabled), ("protocol", .str o.protocol),
    ("max_streams", .num o.maxStreams 0), ("padding", .bool o.padding)]
  encodeTLSFragment o := .obj [("enabled", .bool o.enabled), ("size", .str o.size),
    ("sleep", .str o.sleep)]
  encodeTLSTricks o := .obj [("mixedcase_sni", .bool o.mixedCaseSNI),
    ("padding_mode", .str o.paddingMode), ("padding_size", .str o.paddingSize)]
  ruleIsValid r := decide r.HasCondition
  dnsRuleIsValid r := decide r.HasCondition
  urlHost := urlHost
  isIP := isIP
  parsePrefix := parsePrefix
  decodeBase64 _ := []
  toLower s := String.ofList (s.toList.map Char.toLower)

/-- The types that are coded. -/
def IsCoded (t : OutboundType) : Prop :=
  t = .socks ∨ t = .direct ∨ t = .block ∨ t = .dns ∨ t = .selector

lemma marshalJSON_ok {o : Outbound} {m : JObj} (h : marshalJSON o = .ok m) :
    IsCoded o.type ∧ m.get? "type" = some (.str o.type.name) ∧
      m.get? "tag" = some (.str o.tag) ∧ m.getString "detour" = o.detour := by
  simp only [marshalJSON] at h
  cases htype : o.type <;> simp only [htype] at h <;> cases h
  all_goals
    refine ⟨by simp [IsCoded], by simp [header, htype, JObj.get?], rfl, ?_⟩
    simp only [Outbound.detour, htype, header, encodeDetour, JObj.getString, JObj.get?]
    try split_ifs
    all_goals simp_all [List.lookup_cons, Json.asString]

lemma marshalOutbound_ok {o : Outbound} {m : JObj} (h : deps.marshalOutbound o = .ok m) :
    IsCoded o.type ∧ m.get? "type" = some (.str o.type.name) ∧
      m.get? "tag" = some (.str o.tag) ∧ m.getString "detour" = o.detour := by
  obtain ⟨text, htext, h⟩ := Outcome.bind_eq_ok.mp h
  cases h
  obtain ⟨hcoded, htype, htag, hdetour⟩ := marshalJSON_ok htext
  refine ⟨hcoded, JObj.get?_unmarshalMap_str htype, JObj.get?_unmarshalMap_str htag, ?_⟩
  rw [JObj.getString_unmarshalMap, hdetour]

lemma unmarshalOutbound_ok {o : Outbound} {m : JObj} (h : unmarshalOutbound m = .ok o) :
    o.type.name = m.getString "type" ∧ o.tag = m.getString "tag" ∧
      (o.type = .socks ∨ o.type = .direct → o.detour = m.getString "detour") ∧
      IsCoded o.type := by
  unfold unmarshalOutbound at h
  dsimp only at h
  split at h <;> cases h <;> rename_i htype <;>
    simp [OutboundType.name, htype, Outbound.detour, IsCoded]

lemma getString_of_get? {m : JObj} {k s : String} (h : m.get? k = some (.str s)) :
    m.getString k = s := by
  simp [JObj.getString, h, Json.asString]

lemma getString_congr {m m' : JObj} {k : String} (h : m'.get? k = m.get? k) :
    m'.getString k = m.getString k := by
  simp only [JObj.getString, h]

/-- The names of the coded types are told apart. -/
lemma type_eq_of_name {t t' : OutboundType} (ht : IsCoded t) (ht' : IsCoded t')
    (h : t'.name = t.name) : t' = t := by
  rcases ht with rfl | rfl | rfl | rfl | rfl <;> rcases ht' with rfl | rfl | rfl | rfl | rfl <;>
    first | rfl | exact absurd h (by decide)

theorem deps_documented : deps.Documented where
  ruleIsValid _ := decide_eq_true_iff
  dnsRuleIsValid _ := decide_eq_true_iff
  type_of_key {o o' m m'} h h' hkey := by
    obtain ⟨ht, hname, -, -⟩ := marshalOutbound_ok h
    obtain ⟨hname', -, -, ht'⟩ := unmarshalOutbound_ok h'
    apply type_eq_of_name ht ht'
    rw [hname', getString_congr hkey, getString_of_get? hname]
  tag_of_key {o o' m m'} h h' hkey := by
    obtain ⟨-, -, htag, -⟩ := marshalOutbound_ok h
    obtain ⟨-, htag', -, -⟩ := unmarshalOutbound_ok h'
    rw [htag', getString_congr hkey, getString_of_get? htag]
  detour_of_key {o o' m m'} h h' htype hkey := by
    obtain ⟨ht, hname, -, hdetour⟩ := marshalOutbound_ok h
    obtain ⟨hname', -, hdetour', ht'⟩ := unmarshalOutbound_ok h'
    have htypes : o'.type = o.type := by
      apply type_eq_of_name ht ht'
      rw [hname', getString_congr htype, getString_of_get? hname]
    by_cases hdial : o'.type = .socks ∨ o'.type = .direct
    · rw [hdetour' hdial, getString_congr hkey, hdetour]
    · -- the other outbounds have no dialer
      rcases ht' with h | h | h | h | h
      · exact absurd (Or.inl h) hdial
      · exact absurd (Or.inr h) hdial
      all_goals
        have ho : o.type = _ := htypes.symm.trans h
        simp only [Outbound.detour, h, ho]

end Reference

end HiddifyCore.Config
