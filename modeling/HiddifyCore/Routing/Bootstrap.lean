import HiddifyCore.Config.Codec
import HiddifyCore.Config.OverWarp
import HiddifyCore.Routing.DNS

/-!
# Names of proxy servers

The loop of `setOutbounds` collects the server name of every input outbound, and the DNS rule that
`addForceDirect` prepends resolves the collected names directly. The generated WARP outbound does
not pass the loop, so a server name that it takes from the options is resolved like any other name.
-/

namespace HiddifyCore.Routing

open GoLib GoLib.Strings Singbox Config

variable {D : Deps}

/-- What sing-box documents about servers: they are marshalled under the key `server`, and an
outbound read from an object has its server from there. -/
structure ServerKeyed (D : Deps) : Prop where
  marshal_server {o : Outbound} {m : JObj} (h : D.marshalOutbound o = .ok m) (hne : o.server ≠ "") :
    m.get? "server" = some (.str o.server)
  server_of_key {o o' : Outbound} {m m' : JObj} (h : D.marshalOutbound o = .ok m)
    (h' : D.unmarshalOutbound m' = .ok o') (htype : m'.get? "type" = m.get? "type")
    (hkey : m'.get? "server" = m.get? "server") : o'.server = o.server

/-- A domain name that fits into a list. -/
def IsServerName (D : Deps) (d : String) : Prop := d ≠ "" ∧ D.isIP d = false ∧ ',' ∉ d.toList

instance (d : String) : Decidable (IsServerName D d) := inferInstanceAs (Decidable (_ ∧ _ ∧ _))

/-- The query asks for the name. -/
def AsksFor (D : Deps) (q : Query) (d : String) : Prop := q.name.domain (D.toLower d) = true

instance (q : Query) (d : String) : Decidable (AsksFor D q d) :=
  inferInstanceAs (Decidable (_ = true))

/-- A query for the server of an outbound that is no group and no built-in is answered directly. -/
def ResolvesServers (D : Deps) (out : Options) (q : Query) : Prop :=
  ∀ o ∈ out.outbounds, isDropped o.type = false → IsServerName D o.server →
    AsksFor D q o.server → out.dns.map (dnsDecision · q) = some dnsDirectTag

/-- The server of the generated WARP outbound. -/
def warpServer (draws : Draws) (opt : ConfigOptions) : String :=
  let host := if opt.warp.cleanIP = "" then "auto4" else opt.warp.cleanIP
  if isPlaceholder draws host then "162.159.192.1" else host

/-- The rules of the user answer the query directly. -/
def UserDirect (D : Deps) (opt : ConfigOptions) (q : Query) : Prop :=
  (∃ r, opt.rules.find? (answers D opt q) = some r ∧ r.outbound = "bypass") ∨
    (opt.rules.find? (answers D opt q) = none ∧ isTestHost D opt q.name = false ∧
      isRegionalName opt q = true)

/-- The query is answered directly whether it asks for a server or not. -/
def AnsweredDirectly (D : Deps) (env : BuildEnv) (opt : ConfigOptions) (input : Options)
    (q : Query) : Prop :=
  isForceDirect D env opt input q.name = true ∨ forcesEverything D env opt input = true ∨
    (opt.enableDNSRouting = true ∧ UserDirect D opt q)

/-! ### The rule for the collected names -/

lemma domainItem_full (d : String) :
    domainItem D ("full:" ++ d) = some (.full (D.toLower d)) := by
  have hgeosite : hasPrefix ("full:" ++ d) "geosite:" = false := by
    simp only [hasPrefix, String.toList_append]
    rfl
  have hfull : hasPrefix ("full:" ++ d) "full:" = true := by simp [hasPrefix]
  have htrim : trimPrefix ("full:" ++ d) "full:" = d := by
    rw [trimPrefix, if_pos hfull]
    simp
  rw [domainItem, hgeosite, if_neg Bool.false_ne_true, hfull, if_pos rfl, htrim]

/-- A collected name is one that the rule has. -/
lemma isForceDirect_of_mem {env : BuildEnv} {opt : ConfigOptions} {input : Options} {q : Query}
    {d : String} (hmem : "full:" ++ d ∈ forceDirectKeys D env opt input) (hcomma : ',' ∉ d.toList)
    (hq : AsksFor D q d) : isForceDirect D env opt input q.name = true := by
  have hsep : ',' ∉ ("full:" ++ d).toList := by simp [hcomma]
  have hkey := (env.keyOrder.perm (forceDirectKeys D env opt input)).mem_iff.mpr hmem
  have hpiece : "full:" ++ d ∈ split (forceDirectList D env opt input) ',' := by
    rw [forceDirectList, split_join ',' (List.ne_nil_of_mem hkey)]
    refine List.mem_flatMap.mpr ⟨_, hkey, ?_⟩
    rw [split_eq_singleton hsep]
    exact List.mem_singleton_self _
  exact List.any_eq_true.mpr
    ⟨.full (D.toLower d), List.mem_filterMap.mpr ⟨_, hpiece, domainItem_full d⟩, hq⟩

/-- The prepended rule answers for the names that it has. -/
lemma firstMatch_forceDirectRules_of_isForceDirect {env : BuildEnv} {opt : ConfigOptions}
    {input : Options} {q : Query} (hq : isForceDirect D env opt input q.name = true) (d : String) :
    firstMatch (dnsRuleMatches q) DefaultDNSRule.server
      (forceDirectRules D env.keyOrder (forceDirectKeys D env opt input)) d = dnsDirectTag := by
  have hkeys : forceDirectKeys D env opt input ≠ [] := by
    intro hnil
    have hempty : forceDirectList D env opt input = "" := by
      have hperm := env.keyOrder.perm (forceDirectKeys D env opt input)
      rw [hnil] at hperm
      rw [forceDirectList, hnil, List.perm_nil.mp hperm]
      rfl
    rw [isForceDirect, hempty, domainItems_empty] at hq
    cases hq
  have hrule : forceDirectRule D (env.keyOrder.toFun (forceDirectKeys D env opt input)) =
      { ({ domains := forceDirectList D env opt input } : Rule).makeDNSRule D with
        inbound := [], server := dnsDirectTag, disableCache := false } := by
    rw [makeDNSRule_eq, forceDirectRule, makeDNSRule_eq]
    rfl
  have hname : nameMatches D q.name { domains := forceDirectList D env opt input } = true := hq
  have hmatch : dnsRuleMatches q
      (forceDirectRule D (env.keyOrder.toFun (forceDirectKeys D env opt input))) = true := by
    rw [hrule, dnsRuleMatches_makeDNSRule, hname, Bool.or_true]
    rfl
  rw [forceDirectRules, if_pos hkeys, firstMatch_cons, if_pos hmatch]
  rfl

/-! ### The rules of the user -/

/-- The server that answers for a user rule: the empty one for an outbound that is none of the
three. -/
def userServer (opt : ConfigOptions) (q : Query) (r : Rule) : String :=
  if isKnown r then dnsTarget opt q r else ""

lemma firstMatch_userDNSRules_any (hD : D.Documented) (opt : ConfigOptions) (q : Query) (r : Rule)
    (d : String) :
    firstMatch (dnsRuleMatches q) DefaultDNSRule.server
        ((userDNSRules D opt r).filter D.dnsRuleIsValid) d =
      if answers D opt q r then userServer opt q r else d := by
  by_cases hr : isKnown r = true
  · rw [firstMatch_userDNSRules hD opt q hr, userServer, if_pos hr, answers]
  · have hother : r.outbound ≠ "bypass" ∧ r.outbound ≠ "block" ∧ r.outbound ≠ "proxy" := by
      simpa [isKnown, and_assoc] using hr
    obtain ⟨hbypass, hblock, hproxy⟩ := hother
    have hplain := plainRule_answers hD q r "" false
    rw [show ({ r.makeDNSRule D with server := "", disableCache := false } : DefaultDNSRule) =
      r.makeDNSRule D by rw [makeDNSRule_eq]] at hplain
    have hserver : (r.makeDNSRule D).server = "" := by rw [makeDNSRule_eq]
    have hanswers : answers D opt q r = nameMatches D q.name r := by
      simp [answers, captures, hproxy]
    rw [firstMatch_filter, userDNSRules, if_neg hbypass, if_neg hblock, if_neg hproxy,
      firstMatch_cons, firstMatch_nil, hplain, hserver, userServer, if_neg hr, hanswers]

lemma firstMatch_dnsRules_any (hD : D.Documented) (opt : ConfigOptions) (q : Query) :
    firstMatch (dnsRuleMatches q) DefaultDNSRule.server
        ((dnsRules D opt).filter D.dnsRuleIsValid ++
          if opt.enableFakeDNS then [fakeDnsRule] else []) dnsRemoteTag =
      firstMatch (answers D opt q) (userServer opt q) opt.rules (defaultServer D opt q) := by
  rw [dnsRules, List.filter_append, List.filter_append, filter_testDNSRules hD,
    filter_regionDNSRules hD, firstMatch_append, firstMatch_append, firstMatch_append,
    firstMatch_testDNSRules, firstMatch_regionDNSRules, firstMatch_fakeDnsRule, List.filter_flatMap]
  exact firstMatch_flatMap _ _ fun r _ d => firstMatch_userDNSRules_any hD opt q r d

lemma userServer_eq_direct_iff {opt : ConfigOptions} {q : Query} {r : Rule} :
    userServer opt q r = dnsDirectTag ↔ r.outbound = "bypass" := by
  rw [userServer]
  split_ifs with hr
  · exact dnsTarget_eq_direct_iff
  · refine iff_of_false (by decide) fun hbypass => hr ?_
    simp [isKnown, hbypass]

lemma userRules_eq_direct_iff {opt : ConfigOptions} {q : Query} :
    firstMatch (answers D opt q) (userServer opt q) opt.rules (defaultServer D opt q) =
      dnsDirectTag ↔ UserDirect D opt q := by
  simp only [UserDirect]
  cases hfind : opt.rules.find? (answers D opt q) with
  | none => simp [firstMatch_of_none hfind, defaultServer_eq_direct_iff]
  | some r => simp [firstMatch_of_find hfind, userServer_eq_direct_iff]

/-- When a document answers a query directly. -/
lemma dnsDecision_eq_direct_iff (hD : D.Documented) {env : BuildEnv} {opt : ConfigOptions}
    {input out : Options} {tag : String} (b : Built D env opt input tag out) (q : Query) :
    out.dns.map (dnsDecision · q) = some dnsDirectTag ↔ AnsweredDirectly D env opt input q := by
  obtain ⟨dns, hdns, hfinal, hrules⟩ := b.answersBy
  rw [hdns, Option.map_some, Option.some.injEq, dnsDecision, hfinal, hrules, firstMatch_append]
  simp only [AnsweredDirectly]
  cases hforce : isForceDirect D env opt input q.name with
  | true => simp [firstMatch_forceDirectRules_of_isForceDirect hforce]
  | false =>
    rw [firstMatch_forceDirectRules hforce]
    cases hall : forcesEverything D env opt input with
    | true => simp
    | false =>
      by_cases hrouting : opt.enableDNSRouting = true
      · simp only [hrouting, if_true, firstMatch_dnsRules_any hD, Bool.false_eq_true, if_false,
          true_and, false_or]
        exact userRules_eq_direct_iff
      · have hfake := firstMatch_fakeDnsRule opt q dnsRemoteTag
        simp only [hrouting, Bool.false_eq_true, if_false, List.nil_append, hfake, false_and,
          or_false, iff_false]
        split_ifs <;> decide

/-! ### The collected names -/

lemma mem_addDomain {domains : List String} {d e : String} :
    d ∈ addDomain domains e ↔ d ∈ domains ∨ d = e := by
  simp only [addDomain]
  split_ifs with he
  · exact ⟨Or.inl, fun h => h.elim id fun h => h ▸ he⟩
  · simp

lemma add_directDNSDomains (opt : ConfigOptions) (acc : Collected) (p : Patched) :
    (acc.add opt p).directDNSDomains =
      if p.serverDomain ≠ "" then addDomain acc.directDNSDomains p.serverDomain
      else acc.directDNSDomains := by
  unfold Collected.add
  dsimp only
  split_ifs <;> rfl

/-- The loop forgets no name, and collects that of every outbound it passes. -/
lemma mem_collected {opt : ConfigOptions} {ps : List Patched} {acc : Collected} {d : String}
    (hd : d ≠ "") (h : d ∈ acc.directDNSDomains ∨ ∃ p ∈ ps, p.serverDomain = d) :
    d ∈ (ps.foldl (Collected.add opt) acc).directDNSDomains := by
  induction ps generalizing acc with
  | nil => simpa using h
  | cons p ps ih =>
    apply ih
    rw [add_directDNSDomains]
    rcases h with h | ⟨p', hp', rfl⟩
    · left
      split_ifs
      · exact mem_addDomain.mpr (Or.inl h)
      · exact h
    · rcases List.mem_cons.mp hp' with rfl | hp'
      · left
        rw [if_pos hd]
        exact mem_addDomain.mpr (Or.inr rfl)
      · exact Or.inr ⟨p', hp', rfl⟩

lemma mem_forceDirectDomains {opt : ConfigOptions} {domains : List String} {d : String}
    (h : d ∈ domains) : d ∈ forceDirectDomains D opt domains := by
  simp only [forceDirectDomains]
  split
  · split_ifs
    · exact h
    · exact mem_addDomain.mpr (Or.inl h)
  · exact h

lemma mem_forceDirectKeys {env : BuildEnv} {opt : ConfigOptions} {input out : Options}
    {tag : String} (b : Built D env opt input tag out) {p : Patched} (hp : p ∈ b.patched)
    (hne : p.serverDomain ≠ "") : p.serverDomain ∈ forceDirectKeys D env opt input := by
  rw [forceDirectKeys, collect_eq_ok.mpr ⟨b.patched, b.patches, rfl⟩]
  exact mem_forceDirectDomains (mem_collected hne (Or.inr ⟨p, hp, rfl⟩))

/-! ### Servers -/

/-- A patched outbound with a server name has the name collected. -/
lemma patchOutbound_server (hD : ServerKeyed D) {draws : Draws} {base : Outbound}
    {opt : ConfigOptions} {p : Patched} (h : patchOutbound D draws base opt = .ok p)
    (hname : IsServerName D p.outbound.server) : p.serverDomain = "full:" ++ p.outbound.server := by
  obtain ⟨base', obj, obj', -, hobj, hdomain, hsame, hout⟩ := patchOutbound_steps h
  have hserver : p.outbound.server = base'.server :=
    hD.server_of_key hobj hout (hsame "type" (by decide)) (hsame "server" (by decide))
  obtain ⟨hne, hip, -⟩ : IsServerName D base'.server := hserver ▸ hname
  have hkey := hD.marshal_server hobj hne
  rw [hdomain, hserver]
  simp [serverDomain, hkey, Json.asString?, hne, hip]

lemma detourThroughWarp_server (o : Outbound) : (detourThroughWarp o).server = o.server := by
  cases h : o.type <;> simp [detourThroughWarp, Outbound.server, h]

lemma patchHiddifyWarp_server (opt : ConfigOptions) (o : Outbound) :
    (patchHiddifyWarpFromConfig opt o).server = o.server := by
  simp only [patchHiddifyWarpFromConfig]
  split_ifs
  · exact detourThroughWarp_server o
  · rfl

lemma patches_server (hD : ServerKeyed D) {opt : ConfigOptions} {draws : Nat → Draws} {i : Nat}
    {outs : List Outbound} {ps : List Patched} (h : Patches D opt draws i outs ps) :
    ∀ p ∈ ps, IsServerName D p.outbound.server → p.serverDomain = "full:" ++ p.outbound.server := by
  induction h with
  | nil => simp
  | cons hp _ ih =>
    intro p hmem hname
    rcases List.mem_cons.mp hmem with rfl | hmem
    · exact patchOutbound_server hD hp hname
    · exact ih p hmem hname

lemma warpOutbound_server {opt : ConfigOptions} {raw : Outbound}
    (h : warpOutbound D opt = .ok raw) :
    raw.wireGuardOptions.server =
      if opt.warp.cleanIP = "" then "auto4" else opt.warp.cleanIP := by
  obtain ⟨reserved, prefixes, rfl⟩ := warpOutbound_record h
  rfl

/-- The WARP outbound has a detour, so that its patch replaces a placeholder by an address. -/
lemma patchWarpOutbound_server {draws : Draws} {opt : ConfigOptions} {raw out : Outbound}
    (hraw : warpOutbound D opt = .ok raw) (hout : patchWarpOutbound D draws opt raw = .ok out) :
    out.server = warpServer draws opt := by
  obtain ⟨htype, -, hdetour⟩ := warpOutbound_ok hraw
  have hne : raw.wireGuardOptions.detour ≠ "" := by
    rw [hdetour]
    split_ifs <;> decide
  have hserver : (finishWireGuard D draws raw.wireGuardOptions).1.server =
      if isPlaceholder draws raw.wireGuardOptions.server then "162.159.192.1"
      else raw.wireGuardOptions.server := by
    simp only [finishWireGuard, placeholderServer, if_pos hne]
    split_ifs <;> rfl
  rw [patchWarpOutbound_eq hraw hout, finishWarp, if_pos ⟨rfl, htype⟩]
  simp only [Outbound.server, htype]
  rw [hserver, warpOutbound_server hraw]
  rfl

lemma warpPart_server {draws : Draws} {opt : ConfigOptions} {outs : List Outbound}
    (h : WarpPart D draws opt outs) :
    ∀ o ∈ outs, generatesWarp opt = true ∧ o.server = warpServer draws opt := by
  cases h with
  | off _ => simp
  | on hon hraw hout => simpa [hon] using patchWarpOutbound_server hraw hout

/-- The queries for server names are answered directly exactly when those for the server of a
generated WARP outbound, if it is a name, are answered directly anyway. -/
theorem resolvesServers_iff (hD : D.Documented) (hserver : ServerKeyed D) {env : BuildEnv}
    {opt : ConfigOptions} {input out : Options} {g g' : Globals}
    (h : buildConfig D env opt input g = (.ret (.ok out), g')) (q : Query) :
    ResolvesServers D out q ↔
      (generatesWarp (scannedOptions env opt input) = true →
        IsServerName D (warpServer env.warp (scannedOptions env opt input)) →
        AsksFor D q (warpServer env.warp (scannedOptions env opt input)) →
          AnsweredDirectly D env opt input q) := by
  obtain ⟨b⟩ := buildConfig_ok h
  constructor
  · intro hresolves hgen hname hq
    obtain ⟨warp, hwarp, -, htype⟩ := b.warpPart.exists_warp hgen
    have hmem : warp ∈ b.warp := hwarp ▸ List.mem_singleton_self warp
    have heq := (warpPart_server b.warpPart warp hmem).2
    rw [← heq] at hname hq
    refine (dnsDecision_eq_direct_iff hD b q).mp (hresolves warp (b.warp_subset hmem) ?_ hname hq)
    rw [htype]
    rfl
  · intro hwarp o ho hdrop hname hq
    rw [dnsDecision_eq_direct_iff hD b]
    rcases b.warp_or_kept ho hdrop with ho | ⟨k, hk, rfl⟩
    · obtain ⟨hgen, heq⟩ := warpPart_server b.warpPart o ho
      rw [heq] at hname hq
      exact hwarp hgen hname hq
    · -- a kept outbound has passed the loop
      rw [patchHiddifyWarp_server] at hname hq
      obtain ⟨⟨p, hp, rfl⟩, -⟩ := mem_keptOf.mp hk
      have hdomain := patches_server hserver b.patches p hp hname
      have hmem := mem_forceDirectKeys b hp (by rw [hdomain]; simp)
      rw [hdomain] at hmem
      exact Or.inl (isForceDirect_of_mem hmem hname.2.2 hq)

lemma codec_serverKeyed : ServerKeyed Codec.deps where
  marshal_server h hne := Codec.marshalOutbound_server h (Codec.hasServer_of_ne hne)
  server_of_key h h' htype hkey := Codec.server_of_key h h' htype hkey

/-- A proxy whose server is a name. -/
def namedInput : Options where
  outbounds := [{ type := .socks, tag := "a", socksOptions := { server := "Proxy.Example" } }]

/-- A query for that name. -/
def proxyQuery : Query where
  inbound := inboundTUNTag
  name := { domain := (· == "proxy.example") }

theorem resolvesServers_namedInput :
    ResolvesServers Codec.deps
      (documentOf (buildConfig Codec.deps {} defaultConfigOptions namedInput {}).1) proxyQuery := by
  have hbuilt : isDocument (buildConfig Codec.deps {} defaultConfigOptions namedInput {}).1
      = true := by decide
  exact (resolvesServers_iff Codec.deps_documented codec_serverKeyed
    (Prod.ext (eq_documentOf hbuilt) rfl) proxyQuery).mpr fun hgen => absurd hgen (by decide)

/-- WARP with a server name from the options. -/
def namedWarp : ConfigOptions :=
  { proxyOverWarp with warp := { proxyOverWarp.warp with cleanIP := "warp.example" } }

/-- Nothing resolves the server of the WARP outbound directly. -/
theorem not_resolvesServers :
    ¬ ∀ D : Deps, D.Documented → ServerKeyed D → ∀ (env : BuildEnv) (opt : ConfigOptions)
      (input out : Options) (g g' : Globals),
        buildConfig D env opt input g = (.ret (.ok out), g') →
          ∀ q : Query, ResolvesServers D out q := by
  intro h
  have hbuilt : isDocument (buildConfig Codec.deps {} namedWarp {} {}).1 = true := by decide
  have hresolves := h Codec.deps Codec.deps_documented codec_serverKeyed _ _ _ _ _ _
    (Prod.ext (eq_documentOf hbuilt) rfl) { name := { domain := (· == "warp.example") } }
  have hmem : (OutboundType.wireguard, "warp.example") ∈ (documentOf (buildConfig Codec.deps {}
      namedWarp {} {}).1).outbounds.map fun o => (o.type, o.server) := by decide
  obtain ⟨o, ho, heq⟩ := List.mem_map.mp hmem
  obtain ⟨htype, hserver⟩ := Prod.ext_iff.mp heq
  dsimp only at htype hserver
  have hdirect := hresolves o ho (by rw [htype]; rfl) (by rw [hserver]; decide)
    (by rw [hserver]; decide)
  exact absurd hdirect (by decide)

end HiddifyCore.Routing
