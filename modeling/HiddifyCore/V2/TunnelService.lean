import HiddifyCore.GoLib.JsonValue
import HiddifyCore.V2.Custom

/-!
# The tunnel service

`v2/tunnel_service.go`: the configuration that `makeTunnelConfig` writes for a request, with the
stack of the request pasted between two quotes, and the handlers that run the core on it. The text
reads back as the document of the request exactly when the stack needs no escaping.
-/

namespace HiddifyCore.V2

open GoLib GoLib.JsonText Config

/-! ### The configuration -/

/-- The text made of some pieces. -/
def textOf (pieces : List String) : String := String.ofList (pieces.flatMap String.toList)

def tunnelConfigHead : String := textOf [
  "\x7b\n",
  "\t\t\"log\":\x7b\n",
  "\t\t\t\"level\": \"warn\"\n",
  "\t\t\x7d,\n",
  "\t\t\"inbounds\": [\n",
  "\t\t  \x7b\n",
  "\t\t\t\"type\": \"tun\",\n",
  "\t\t\t\"tag\": \"tun-in\",\n",
  "\t\t\t\"interface_name\":", " \"HiddifyTunnel\",\n",
  "\t\t\t\"inet4_address\":", " \"172.19.0.1/30\",\n",
  "\t\t\t"]

def tunnelConfigIPv6 (ipv6 : Bool) : String :=
  if ipv6 then textOf ["      \"inet6_address\":", " \"fdfe:dcba:9876::1/126\","] else ""

/-- `%t`. -/
def boolText (b : Bool) : String := if b then "true" else "false"

def tunnelConfigFlags (strictRoute endpointIndependentNat : Bool) : String := textOf [
  "\n",
  "\t\t\t\"auto_route\": true,\n",
  "\t\t\t\"strict_route\": ", boolText strictRoute, ",\n",
  "\t\t\t\"endpoint", "_independent", "_nat\": ", boolText endpointIndependentNat, ",\n",
  "\t\t\t\"stack\": \""]

/-- From the quote behind the stack to the port. -/
def tunnelConfigOutbounds : String := textOf [
  "\"\n",
  "\t\t  \x7d\n",
  "\t\t],\n",
  "\t\t\"outbounds\": [\n",
  "\t\t  \x7b\n",
  "\t\t\t\"type\": \"socks\",\n",
  "\t\t\t\"tag\": \"socks-out\",\n",
  "\t\t\t\"server\": \"127.0.0.1\",\n",
  "\t\t\t\"server_port\": "]

def tunnelConfigEnd : String := textOf [
  ",\n",
  "\t\t\t\"version\": \"5\"\n",
  "\t\t  \x7d,\n",
  "\t\t  \x7b\n",
  "\t\t\t\"type\": \"direct\",\n",
  "\t\t\t\"tag\": \"direct-out\"\n",
  "\t\t  \x7d\n",
  "\t\t],\n",
  "\t\t\"route\": \x7b\n",
  "\t\t  \"rules\": [\n",
  "\t\t\t\x7b\n",
  "\t\t\t\t\"process_name\":[\n",
  "\t\t\t\t\t\"Hiddify.exe\",\n",
  "\t\t\t\t\t\"Hiddify\",\n",
  "\t\t\t\t\t\"HiddifyCli\",\n",
  "\t\t\t\t\t\"HiddifyCli.exe\"\n",
  "\t\t\t\t\t],\n",
  "\t\t\t\t\"outbound\": ", "\"direct-out\"\n",
  "\t\t\t\x7d\n",
  "\t\t  ]\n",
  "\t\t\x7d\n",
  "\t  \x7d"]

def makeTunnelConfig (ipv6 : Bool) (serverPort : Int32) (strictRoute : Bool)
    (endpointIndependentNat : Bool) (stack : String) : String :=
  tunnelConfigHead ++ tunnelConfigIPv6 ipv6 ++
  tunnelConfigFlags strictRoute endpointIndependentNat ++ stack ++ tunnelConfigOutbounds ++
  Strings.intDigits serverPort.toInt ++ tunnelConfigEnd

/-- The text for the fields of a request. -/
def tunnelConfig (req : TunnelStartRequest) : String :=
  makeTunnelConfig req.ipv6 req.serverPort req.strictRoute req.endpointIndependentNat req.stack

/-! ### The handlers -/

structure TunnelResponse where
  message : String
  err : Option String := none

def tunnelResponse (reply : Reply) : TunnelResponse :=
  match reply.err with
  | some e => { message := e, err := some e }
  | none => { message := "OK" }

/-- `Start` stores the default port in the request. -/
def withDefaultPort (req : TunnelStartRequest) : TunnelStartRequest :=
  if req.serverPort = 0 then { req with serverPort := 12334 } else req

def tunnelCoreRequest (req : TunnelStartRequest) : StartRequest where
  configContent := tunnelConfig (withDefaultPort req)
  disableMemoryLimit := true
  enableRawConfig := true

namespace TunnelService

def start (req : TunnelStartRequest) (x : StartCalls) : Go Core TunnelResponse := do
  let reply ← V2.start (tunnelCoreRequest req) x
  pure (tunnelResponse reply)

def stop (x : StopCalls) : Go Core TunnelResponse := do
  let reply ← V2.stop x
  pure (tunnelResponse reply)

end TunnelService

/-! ### The document of a request -/

/-- The document that the text is meant to be. -/
def tunnelDocument (req : TunnelStartRequest) : Value := .obj [
  ("log", .obj [("level", .str "warn")]),
  ("inbounds", .arr [.obj (
    [("type", .str "tun"),
     ("tag", .str "tun-in"),
     ("interface_name", .str "HiddifyTunnel"),
     ("inet4_address", .str "172.19.0.1/30")] ++
    (if req.ipv6 then [("inet6_address", .str "fdfe:dcba:9876::1/126")] else []) ++
    [("auto_route", .bool true),
     ("strict_route", .bool req.strictRoute),
     ("endpoint_independent_nat", .bool req.endpointIndependentNat),
     ("stack", .str req.stack)])]),
  ("outbounds", .arr [
    .obj [("type", .str "socks"),
      ("tag", .str "socks-out"),
      ("server", .str "127.0.0.1"),
      ("server_port", .num (Strings.intDigits req.serverPort.toInt)),
      ("version", .str "5")],
    .obj [("type", .str "direct"), ("tag", .str "direct-out")]]),
  ("route", .obj [
    ("rules", .arr [.obj [
      ("process_name", .arr [.str "Hiddify.exe", .str "Hiddify", .str "HiddifyCli",
        .str "HiddifyCli.exe"]),
      ("outbound", .str "direct-out")]])])]

def tunInboundOf (doc : Value) : Option Value := (doc.get? "inbounds").bind (Value.elem? 0)

def socksOutboundOf (doc : Value) : Option Value := (doc.get? "outbounds").bind (Value.elem? 0)

/-- A document without what a request decides. -/
def withoutRequest (doc : Value) : Value :=
  (doc.modifyMember "inbounds" (Value.modifyElem 0 (Value.erase
    ["inet6_address", "strict_route", "endpoint_independent_nat", "stack"]))).modifyMember
    "outbounds" (Value.modifyElem 0 (Value.erase ["server_port"]))

/-- The document says what the request says, and nothing else in it depends on the request. -/
structure Describes (doc : Value) (req : TunnelStartRequest) : Prop where
  stack : (tunInboundOf doc).bind (Value.get? "stack") = some (.str req.stack)
  strictRoute : (tunInboundOf doc).bind (Value.get? "strict_route") = some (.bool req.strictRoute)
  endpointIndependentNat : (tunInboundOf doc).bind (Value.get? "endpoint_independent_nat")
    = some (.bool req.endpointIndependentNat)
  inet6Address : ((tunInboundOf doc).bind (Value.get? "inet6_address")).isSome = req.ipv6
  serverPort : ∃ literal,
    (socksOutboundOf doc).bind (Value.get? "server_port") = some (.num literal) ∧
      Strings.atoi literal = some req.serverPort.toInt
  rest : withoutRequest doc = withoutRequest (tunnelDocument ⟨false, 0, false, false, ""⟩)

lemma atoi_serverPort (port : Int32) :
    Strings.atoi (Strings.intDigits port.toInt) = some port.toInt := by
  have hle := Int32.le_toInt port
  have hlt := Int32.toInt_lt port
  exact Strings.atoi_intDigits (by omega) (by omega)

lemma tunnelDocument_describes (req : TunnelStartRequest) :
    Describes (tunnelDocument req) req := by
  rcases req with ⟨_ | _, port, strictRoute, nat, stack⟩ <;>
    exact ⟨rfl, rfl, rfl, rfl, ⟨_, rfl, atoi_serverPort port⟩, rfl⟩

/-! ### The tokens of the text -/

def headTokens : List Token := [
  .lbrace, .str "log", .colon, .lbrace, .str "level", .colon, .str "warn", .rbrace, .comma,
  .str "inbounds", .colon, .lbracket, .lbrace, .str "type", .colon, .str "tun", .comma,
  .str "tag", .colon, .str "tun-in", .comma,
  .str "interface_name", .colon, .str "HiddifyTunnel", .comma,
  .str "inet4_address", .colon, .str "172.19.0.1/30", .comma]

def ipv6Tokens (ipv6 : Bool) : List Token :=
  if ipv6 then [.str "inet6_address", .colon, .str "fdfe:dcba:9876::1/126", .comma] else []

def flagsTokens (strictRoute endpointIndependentNat : Bool) : List Token := [
  .str "auto_route", .colon, .bool true, .comma,
  .str "strict_route", .colon, .bool strictRoute, .comma,
  .str "endpoint_independent_nat", .colon, .bool endpointIndependentNat, .comma,
  .str "stack", .colon]

def outboundsTokens : List Token := [
  .rbrace, .rbracket, .comma, .str "outbounds", .colon, .lbracket,
  .lbrace, .str "type", .colon, .str "socks", .comma, .str "tag", .colon, .str "socks-out", .comma,
  .str "server", .colon, .str "127.0.0.1", .comma, .str "server_port", .colon]

def endTokens : List Token := [
  .comma, .str "version", .colon, .str "5", .rbrace, .comma,
  .lbrace, .str "type", .colon, .str "direct", .comma, .str "tag", .colon, .str "direct-out",
  .rbrace, .rbracket, .comma,
  .str "route", .colon, .lbrace, .str "rules", .colon, .lbracket, .lbrace,
  .str "process_name", .colon, .lbracket, .str "Hiddify.exe", .comma, .str "Hiddify", .comma,
  .str "HiddifyCli", .comma, .str "HiddifyCli.exe", .rbracket, .comma,
  .str "outbound", .colon, .str "direct-out", .rbrace, .rbracket, .rbrace, .rbrace]

/-- The tokens in front of the stack. -/
def tokensBefore (req : TunnelStartRequest) : List Token :=
  headTokens ++ ipv6Tokens req.ipv6 ++ flagsTokens req.strictRoute req.endpointIndependentNat

/-- The tokens behind the stack. -/
def tokensAfter (req : TunnelStartRequest) : List Token :=
  outboundsTokens ++ [.num (Strings.intDigits req.serverPort.toInt)] ++ endTokens

lemma tokens_tunnelDocument (req : TunnelStartRequest) :
    tokens (tunnelDocument req) = tokensBefore req ++ [.str req.stack] ++ tokensAfter req := by
  rcases req with ⟨_ | _, port, strictRoute, nat, stack⟩ <;> rfl

set_option maxRecDepth 20000 in
lemma scan_head : scan .between tunnelConfigHead.toList = some (.between, headTokens) := by
  rw [tunnelConfigHead, textOf, String.toList_ofList]
  rfl

set_option maxRecDepth 20000 in
lemma scan_ipv6 (ipv6 : Bool) :
    scan .between (tunnelConfigIPv6 ipv6).toList = some (.between, ipv6Tokens ipv6) := by
  cases ipv6
  · rfl
  · rw [tunnelConfigIPv6, if_pos rfl, textOf, String.toList_ofList]
    rfl

set_option maxRecDepth 20000 in
lemma scan_flags (strictRoute nat : Bool) :
    scan .between (tunnelConfigFlags strictRoute nat).toList
      = some (.string [] .none, flagsTokens strictRoute nat) := by
  rw [tunnelConfigFlags, textOf, String.toList_ofList]
  cases strictRoute <;> cases nat <;> rfl

set_option maxRecDepth 20000 in
/-- The quote behind the stack and the line break after it end the pasted string. -/
lemma scan_outbounds :
    ∃ rest, tunnelConfigOutbounds.toList = ['"', '\n'] ++ rest ∧
      scan .between rest = some (.between, outboundsTokens) := by
  rw [tunnelConfigOutbounds, textOf, String.toList_ofList, List.flatMap_cons]
  refine ⟨_, rfl, ?_⟩
  rfl

set_option maxRecDepth 20000 in
lemma scan_end {literal : List Char} (h : isNumber literal = true) :
    scan (.number literal) tunnelConfigEnd.toList
      = some (.between, .num (String.ofList literal) :: endTokens) := by
  obtain ⟨rest, hsplit, hrest⟩ : ∃ rest, tunnelConfigEnd.toList = ',' :: rest ∧
      scan .between rest = some (.between, endTokens.tail) := by
    rw [tunnelConfigEnd, textOf, String.toList_ofList, List.flatMap_cons]
    refine ⟨_, rfl, ?_⟩
    rfl
  have hstep : step (.number literal) ','
      = some (.between, [.num (String.ofList literal), .comma]) := by
    simp [step, leave, State.token, h, JsonText.start, isNumberChar, isBlank]
  rw [hsplit, scan_cons, hstep, Option.bind_some, hrest]
  rfl

/-- Only the tokens that come from the stack depend on how it is scanned. -/
lemma lex_tunnelConfig (req : TunnelStartRequest) :
    lex (tunnelConfig req).toList
      = (scan (.string [] .none) (req.stack.toList ++ ['"', '\n'])).map fun p =>
          tokensBefore req ++ p.2 ++ tokensAfter req := by
  obtain ⟨rest, houtbounds, hrest⟩ := scan_outbounds
  have htext : (tunnelConfig req).toList = tunnelConfigHead.toList ++
      ((tunnelConfigIPv6 req.ipv6).toList ++
      ((tunnelConfigFlags req.strictRoute req.endpointIndependentNat).toList ++
      ((req.stack.toList ++ ['"', '\n']) ++ (rest ++
      ((Strings.intDigits req.serverPort.toInt).toList ++ tunnelConfigEnd.toList))))) := by
    rw [tunnelConfig, makeTunnelConfig]
    simp only [String.toList_append, houtbounds, List.append_assoc]
  have hnumber := isNumber_intDigits req.serverPort.toInt
  rw [lex, htext, scan_append_of scan_head, scan_append_of (scan_ipv6 _),
    scan_append_of (scan_flags _ _)]
  rcases hpasted : scan (.string [] .none) (req.stack.toList ++ ['"', '\n']) with _ | ⟨st, toks⟩
  · rw [scan_append, hpasted]
    rfl
  · obtain ⟨rfl, -⟩ := scan_pasted hpasted
    rw [scan_append_of hpasted, scan_append_of hrest, scan_append_of (scan_intDigits _),
      scan_end hnumber]
    simp [State.token, tokensBefore, tokensAfter]

lemma tunnelConfig_ne (req : TunnelStartRequest) : tunnelConfig req ≠ "" := by
  intro h
  have hlist := congrArg String.toList h
  rw [tunnelConfig, makeTunnelConfig] at hlist
  simp only [String.toList_append, String.toList_empty, List.append_eq_nil_iff] at hlist
  have hhead : tunnelConfigHead.toList ≠ [] := by
    rw [tunnelConfigHead, textOf, String.toList_ofList]
    exact List.cons_ne_nil _ _
  exact hhead hlist.1.1.1.1.1.1

/-! ### Round trip -/

lemma lex_of_plain {req : TunnelStartRequest} (h : IsPlain req.stack.toList) :
    lex (tunnelConfig req).toList = some (tokens (tunnelDocument req)) := by
  have hclose : scan (.string (req.stack.toList.map Char.toNat) .none) ['"', '\n']
      = some (.between, [.str req.stack]) := by
    rw [scan_cons]
    simp [step, stringStep, scan, JsonText.start, isBlank, unitsText_toNat]
  rw [lex_tunnelConfig, scan_append_of (scan_plain h []), List.nil_append, hclose,
    tokens_tunnelDocument]
  rfl

/-- The strings of the text that do not come from the stack are plain. -/
lemma isPlain_of_mem (req : TunnelStartRequest) {t : Token}
    (h : t ∈ tokensBefore req ∨ t ∈ tokensAfter req) : t.isPlain = true := by
  have hhead : ∀ t ∈ headTokens, t.isPlain = true := by decide
  have hipv6 : ∀ ipv6, ∀ t ∈ ipv6Tokens ipv6, t.isPlain = true := by decide
  have hflags : ∀ strictRoute nat, ∀ t ∈ flagsTokens strictRoute nat, t.isPlain = true := by decide
  have houtbounds : ∀ t ∈ outboundsTokens, t.isPlain = true := by decide
  have hend : ∀ t ∈ endTokens, t.isPlain = true := by decide
  simp only [tokensBefore, tokensAfter, List.mem_append, List.mem_singleton] at h
  rcases h with ((h | h) | h) | ((h | rfl) | h)
  · exact hhead t h
  · exact hipv6 _ t h
  · exact hflags _ _ t h
  · exact houtbounds t h
  · rfl
  · exact hend t h

/-- A stack that needs escaping is in no string of the text. -/
lemma str_not_mem_of_not_plain {req : TunnelStartRequest} {toks : List Token}
    (h : ¬ IsPlain req.stack.toList) (hlex : lex (tunnelConfig req).toList = some toks) :
    .str req.stack ∉ toks := by
  rw [lex_tunnelConfig] at hlex
  obtain ⟨⟨st, pasted⟩, hpasted, rfl⟩ := Option.map_eq_some_iff.mp hlex
  intro hmem
  rcases List.mem_append.mp hmem with hmem | hmem
  · rcases List.mem_append.mp hmem with hmem | hmem
    · exact h (of_decide_eq_true (isPlain_of_mem req (Or.inl hmem)))
    · have hlt := scan_pasted_lt h hpasted req.stack hmem
      rw [List.length_nil, Nat.zero_add, String.length_toList] at hlt
      exact lt_irrefl _ hlt
  · exact h (of_decide_eq_true (isPlain_of_mem req (Or.inr hmem)))

/-- The stack of a document is one of the strings of its text. -/
lemma mem_of_stack {doc : Value} {s : String}
    (h : (tunInboundOf doc).bind (Value.get? "stack") = some (.str s)) : .str s ∈ tokens doc := by
  obtain ⟨tun, htun, hstack⟩ := Option.bind_eq_some_iff.mp h
  obtain ⟨inbounds, hinbounds, htun⟩ := Option.bind_eq_some_iff.mp htun
  apply Value.tokens_get? hinbounds
  apply Value.tokens_elem? htun
  apply Value.tokens_get? hstack
  exact List.mem_singleton_self _

lemma decode_stack_ne {req : TunnelStartRequest} {doc : Value} (h : ¬ IsPlain req.stack.toList)
    (hdoc : decode (tunnelConfig req) = some doc) :
    (tunInboundOf doc).bind (Value.get? "stack") ≠ some (.str req.stack) := fun hstack =>
  str_not_mem_of_not_plain h (decode_eq_some.mp hdoc) (mem_of_stack hstack)

/-- The text of a request is a document that describes the request exactly when the stack holds no
quote, no backslash and no control character. -/
theorem tunnelConfig_describes_iff (req : TunnelStartRequest) :
    (∃ doc, decode (tunnelConfig req) = some doc ∧ Describes doc req) ↔
      IsPlain req.stack.toList := by
  constructor
  · rintro ⟨doc, hdoc, hdescribes⟩
    by_contra hplain
    exact decode_stack_ne hplain hdoc hdescribes.stack
  · intro hplain
    exact ⟨_, decode_eq_some.mpr (lex_of_plain hplain), tunnelDocument_describes req⟩

/-- A stack that closes its string adds a member to the inbound. -/
theorem not_tunnelConfig_describes :
    ¬ ∀ req : TunnelStartRequest,
      ∃ doc, decode (tunnelConfig req) = some doc ∧ Describes doc req := by
  intro h
  obtain ⟨doc, hdoc, hdescribes⟩ := h ⟨false, 2334, true, true, "mixed\",\"mtu\":\"9000"⟩
  have hplain : ¬ IsPlain "mixed\",\"mtu\":\"9000".toList := by decide
  exact decode_stack_ne hplain hdoc hdescribes.stack

end HiddifyCore.V2
