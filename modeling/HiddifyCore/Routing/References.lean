import Mathlib.Data.List.Nodup
import HiddifyCore.Routing.Fields
import HiddifyCore.Routing.DNS

/-!
# References to DNS servers and rule sets

The DNS servers, the rules and the rule sets of a document are put together by several passes. A
DNS rule for a user rule with an outbound that is none of the three has no server, and a region can
have the name of one of the rule sets against advertisements.
-/

namespace HiddifyCore.Routing

open GoLib GoLib.Strings Singbox Config

variable {D : Deps}

/-- Every reference is to exactly one DNS server or rule set. -/
structure RefersOnce (dns : Singbox.DNSOptions) (route : Singbox.RouteOptions) : Prop where
  server : ∀ r ∈ dns.rules, (dns.servers.map (·.tag)).count r.server = 1
  final : (dns.servers.map (·.tag)).count dns.final = 1
  resolver : ∀ s ∈ dns.servers, s.addressResolver ≠ "" →
    (dns.servers.map (·.tag)).count s.addressResolver = 1
  routeRuleSet : ∀ r ∈ route.rules, ∀ t ∈ r.ruleSet, (route.ruleSet.map (·.tag)).count t = 1
  dnsRuleSet : ∀ r ∈ dns.rules, ∀ t ∈ r.ruleSet, (route.ruleSet.map (·.tag)).count t = 1
  nodup : (route.ruleSet.map (·.tag)).Nodup

/-- The references of a document. -/
def DocumentRefersOnce (out : Options) : Prop :=
  ∃ dns route, out.dns = some dns ∧ out.route = some route ∧ RefersOnce dns route

/-- Every user rule that becomes a DNS rule names one of the three outbounds. -/
def NamesServers (opt : ConfigOptions) : Prop :=
  opt.enableDNSRouting = true → ∀ r ∈ opt.rules, isKnown r = true ∨ ¬ NamesDomain r

/-- The region is not called like a rule set that is already there. -/
def RegionIsFree (opt : ConfigOptions) : Prop :=
  opt.blockAds = true → opt.region ∉ ["ads", "malware", "phishing", "cryptominers"]

/-! ### The servers -/

def fakeServers (opt : ConfigOptions) : List DNSServerOptions :=
  if opt.enableFakeDNS then [{ tag := dnsFakeTag, address := "fakeip", strategy := .useIPv4 }]
  else []

/-- Only `setDns` and `setFakeDns` add servers. -/
lemma prepared_servers (env : BuildEnv) (opt : ConfigOptions) (input : Options) (tag : String) :
    (prepared D env opt input tag).dns.map (·.servers) =
      some (dnsServers opt ++ fakeServers opt) := by
  have hfake (options : Options) : (setFakeDns (withSecret env opt) options).dns.map (·.servers) =
      options.dns.map (·.servers ++ fakeServers opt) := by
    simp only [setFakeDns, fakeServers, withSecret_congr (·.enableFakeDNS) fun _ _ => rfl]
    split_ifs
    · simp [modifyDNS, Function.comp_def]
    · simp
  have hrouting (options : Options) :
      (setRoutingOptions D tag (withSecret env opt) options).dns.map
        (·.servers ++ fakeServers opt) = options.dns.map (·.servers ++ fakeServers opt) := by
    simp only [setRoutingOptions]
    split_ifs
    · simp [modifyDNS, Function.comp_def]
    · rfl
  rw [prepared, hfake, hrouting]
  simp only [setDns, Option.map_some, withSecret_congr dnsServers fun _ _ => rfl]

lemma servers_eq {env : BuildEnv} {opt : ConfigOptions} {input out : Options} {tag : String}
    (b : Built D env opt input tag out) :
    out.dns.map (·.servers) = some (dnsServers opt ++ fakeServers opt) := by
  rw [← prepared_servers (D := D) env opt input tag, b.out_eq]
  simp only [assembleOutbounds, addForceDirect]
  split_ifs <;> simp [modifyDNS, Function.comp_def]

/-- The tags of the servers. -/
def serverTags (opt : ConfigOptions) : List String :=
  [dnsRemoteTag, dnsTricksDirectTag, dnsDirectTag, dnsLocalTag, dnsBlockTag] ++
    if opt.enableFakeDNS then [dnsFakeTag] else []

lemma map_tag_servers (opt : ConfigOptions) :
    (dnsServers opt ++ fakeServers opt).map (·.tag) = serverTags opt := by
  simp only [fakeServers, serverTags]
  split_ifs <;> rfl

lemma serverTags_nodup (opt : ConfigOptions) : (serverTags opt).Nodup := by
  simp only [serverTags]
  split_ifs <;> decide

lemma not_mem_serverTags_empty (opt : ConfigOptions) : "" ∉ serverTags opt := by
  simp only [serverTags]
  split_ifs <;> decide

lemma dnsRemote_mem (opt : ConfigOptions) : dnsRemoteTag ∈ serverTags opt := by simp [serverTags]

lemma dnsDirect_mem (opt : ConfigOptions) : dnsDirectTag ∈ serverTags opt := by simp [serverTags]

lemma dnsLocal_mem (opt : ConfigOptions) : dnsLocalTag ∈ serverTags opt := by simp [serverTags]

lemma dnsBlock_mem (opt : ConfigOptions) : dnsBlockTag ∈ serverTags opt := by simp [serverTags]

lemma dnsFake_mem {opt : ConfigOptions} (h : opt.enableFakeDNS = true) :
    dnsFakeTag ∈ serverTags opt := by
  simp [serverTags, h]

/-! ### The DNS rules -/

/-- The rules of a user rule ask for a server, unless its outbound is none of the three. -/
lemma userDNSRules_server {opt : ConfigOptions} {r : Rule} {rule : DefaultDNSRule}
    (h : rule ∈ userDNSRules D opt r) :
    rule.ruleSet = [] ∧
      (rule.server ∈ serverTags opt ∨ isKnown r = false ∧ rule = r.makeDNSRule D) := by
  have hset : (r.makeDNSRule D).ruleSet = [] := by rw [makeDNSRule_eq]
  simp only [userDNSRules] at h
  split_ifs at h with hbypass hblock hproxy hfake
  · rw [List.mem_singleton.mp h]
    exact ⟨hset, .inl (dnsDirect_mem opt)⟩
  · rw [List.mem_singleton.mp h]
    exact ⟨hset, .inl (dnsBlock_mem opt)⟩
  · rcases List.mem_pair.mp h with rfl | rfl
    · exact ⟨hset, .inl (dnsFake_mem hfake)⟩
    · exact ⟨hset, .inl (dnsRemote_mem opt)⟩
  · rw [List.nil_append, List.mem_singleton] at h
    rw [h]
    exact ⟨hset, .inl (dnsRemote_mem opt)⟩
  · rw [List.mem_singleton.mp h]
    refine ⟨hset, .inr ⟨?_, rfl⟩⟩
    simp [isKnown, hbypass, hblock, hproxy]

lemma testDNSRules_server {opt : ConfigOptions} {rule : DefaultDNSRule}
    (h : rule ∈ testDNSRules D opt) : rule.ruleSet = [] ∧ rule.server = dnsRemoteTag := by
  simp only [testDNSRules] at h
  split at h
  · rw [List.mem_singleton.mp h]
    exact ⟨rfl, rfl⟩
  · cases h

lemma regionDNSRules_server {opt : ConfigOptions} {rule : DefaultDNSRule}
    (h : rule ∈ regionDNSRules opt) : rule.server = dnsDirectTag ∧
      ∀ t ∈ rule.ruleSet, opt.region ≠ "other" ∧ t ∈ regionRuleSets opt := by
  simp only [regionDNSRules] at h
  split_ifs at h with hregion
  · rcases List.mem_pair.mp h with rfl | rfl
    · exact ⟨rfl, fun t ht => absurd ht (List.not_mem_nil)⟩
    · exact ⟨rfl, fun t ht => ⟨hregion, ht⟩⟩
  · cases h

section Document

variable {env : BuildEnv} {opt : ConfigOptions} {input out : Options} {tag : String}

/-- The rules of a document are the one that `addForceDirect` prepends, those of the user rules,
those for the test host and the region, and the one for fake addresses. -/
lemma mem_dnsRules (b : Built D env opt input tag out) {dns : Singbox.DNSOptions}
    (hdns : out.dns = some dns) {rule : DefaultDNSRule} :
    rule ∈ dns.rules ↔
      rule ∈ forceDirectRules D env.keyOrder (forceDirectKeys D env opt input) ∨
        (opt.enableDNSRouting = true ∧ D.dnsRuleIsValid rule = true ∧ rule ∈ dnsRules D opt) ∨
          (opt.enableFakeDNS = true ∧ rule = fakeDnsRule) := by
  obtain ⟨dns', hdns', -, hrules⟩ := b.answersBy
  obtain rfl : dns' = dns := Option.some.inj (hdns'.symm.trans hdns)
  rw [hrules]
  cases opt.enableDNSRouting <;> cases opt.enableFakeDNS <;> simp [and_comm]

lemma mem_dnsRules_opt {rule : DefaultDNSRule} :
    rule ∈ dnsRules D opt ↔ (∃ r ∈ opt.rules, rule ∈ userDNSRules D opt r) ∨
      rule ∈ testDNSRules D opt ∨ rule ∈ regionDNSRules opt := by
  simp [dnsRules]

/-- The rule of a user rule with an unknown outbound is emitted when it has a domain item. -/
lemma makeDNSRule_mem (hD : D.Documented) (b : Built D env opt input tag out)
    {dns : Singbox.DNSOptions} (hdns : out.dns = some dns) (hrouting : opt.enableDNSRouting = true)
    {r : Rule} (hr : r ∈ opt.rules) (hknown : isKnown r = false) (hname : NamesDomain r) :
    r.makeDNSRule D ∈ dns.rules := by
  have hplain : r.makeDNSRule D =
      { r.makeDNSRule D with server := "", disableCache := false } := by rw [makeDNSRule_eq]
  have hvalid : D.dnsRuleIsValid (r.makeDNSRule D) = true := by
    rw [hplain, dnsRuleIsValid_makeDNSRule hD]
    simpa using (domainItems_ne_nil r).mpr hname
  rw [mem_dnsRules b hdns]
  refine .inr (.inl ⟨hrouting, hvalid, mem_dnsRules_opt.mpr (.inl ⟨r, hr, ?_⟩)⟩)
  simp only [isKnown, Bool.or_eq_false_iff, decide_eq_false_iff_not] at hknown
  obtain ⟨⟨hbypass, hblock⟩, hproxy⟩ := hknown
  simp [userDNSRules, hbypass, hblock, hproxy]

/-- The rules of a document ask for one of its servers when the user rules do. -/
lemma dnsRules_server_iff (hD : D.Documented) (b : Built D env opt input tag out)
    {dns : Singbox.DNSOptions} (hdns : out.dns = some dns) :
    (∀ r ∈ dns.rules, r.server ∈ serverTags opt) ↔ NamesServers opt := by
  constructor
  · intro h hrouting r hr
    by_contra! hno
    have hserver := h _ (makeDNSRule_mem hD b hdns hrouting hr (Bool.eq_false_iff.mpr hno.1) hno.2)
    rw [makeDNSRule_eq] at hserver
    exact not_mem_serverTags_empty opt hserver
  · intro hnames rule hrule
    rcases (mem_dnsRules b hdns).mp hrule with hforce | ⟨hrouting, hvalid, hrule⟩ | ⟨hfake, rfl⟩
    · simp only [forceDirectRules] at hforce
      split_ifs at hforce
      · rw [List.mem_singleton.mp hforce]
        exact dnsDirect_mem opt
      · cases hforce
    · rcases mem_dnsRules_opt.mp hrule with ⟨r, hr, hrule⟩ | htest | hregion
      · rcases (userDNSRules_server hrule).2 with hserver | ⟨hunknown, rfl⟩
        · exact hserver
        · -- an unknown outbound leaves a rule without a name, which is not valid
          have hnot := (hnames hrouting r hr).resolve_left (Bool.eq_false_iff.mp hunknown)
          have hplain : r.makeDNSRule D =
              { r.makeDNSRule D with server := "", disableCache := false } := by
            rw [makeDNSRule_eq]
          rw [hplain, dnsRuleIsValid_makeDNSRule hD] at hvalid
          exact absurd ((domainItems_ne_nil r).mp (by simpa using hvalid)) hnot
      · rw [(testDNSRules_server htest).2]
        exact dnsRemote_mem opt
      · rw [(regionDNSRules_server hregion).1]
        exact dnsDirect_mem opt
    · exact dnsFake_mem hfake

end Document

/-! ### The rule sets -/

/-- The tags of the rule sets against advertisements. -/
def blockTags : List String := ["geosite-ads", "geosite-malware", "geosite-phishing",
  "geosite-cryptominers", "geoip-phishing", "geoip-malware"]

lemma map_tag_ruleSets (opt : ConfigOptions) :
    (ruleSets opt).map (·.tag) = (if opt.blockAds then blockTags else []) ++
      if opt.region ≠ "other" then regionRuleSets opt else [] := by
  simp only [ruleSets, regionRuleSets]
  split_ifs <;> rfl

lemma geoip_ne_geosite (s t : String) : "geoip-" ++ s ≠ "geosite-" ++ t := by
  intro h
  have hchars := congrArg String.toList h
  simp [String.toList_append] at hchars

/-- The tags of a region are among those against advertisements for four regions. -/
lemma region_tags (opt : ConfigOptions) :
    (∃ t ∈ regionRuleSets opt, t ∈ blockTags) ↔
      opt.region ∈ ["ads", "malware", "phishing", "cryptominers"] := by
  have htags : blockTags = ["geosite-" ++ "ads", "geosite-" ++ "malware", "geosite-" ++ "phishing",
    "geosite-" ++ "cryptominers", "geoip-" ++ "phishing", "geoip-" ++ "malware"] := by decide
  have hne (s t : String) : "geosite-" ++ s ≠ "geoip-" ++ t := (geoip_ne_geosite t s).symm
  simp only [htags, regionRuleSets, List.mem_cons, List.not_mem_nil, or_false, exists_eq_or_imp,
    exists_eq_left, String.append_right_inj, geoip_ne_geosite, hne, false_or]
  constructor
  · rintro ((h | h) | h)
    · exact .inr (.inr (.inl h))
    · exact .inr (.inl h)
    · exact h
  · exact .inr

/-- The tags of the rule sets are distinct unless the region takes one of them. -/
lemma ruleSets_nodup_iff (opt : ConfigOptions) :
    ((ruleSets opt).map (·.tag)).Nodup ↔ RegionIsFree opt := by
  have hregion : (regionRuleSets opt).Nodup := by simp [regionRuleSets]
  have hblock : blockTags.Nodup := by decide
  rw [map_tag_ruleSets, RegionIsFree, ← region_tags]
  by_cases hads : opt.blockAds = true
  · rw [if_pos hads]
    split_ifs with hother
    · simp only [hads, List.nodup_append, hblock, hregion, true_and, forall_const, not_exists,
        not_and]
      exact ⟨fun h t ht ht' => h t ht' t ht rfl, fun h t ht t' ht' heq => h t' ht' (heq ▸ ht)⟩
    · have hnone : ¬ ∃ t ∈ regionRuleSets opt, t ∈ blockTags := by
        rw [region_tags, not_not.mp hother]
        decide
      rw [List.append_nil]
      exact iff_of_true hblock fun _ => hnone
  · rw [if_neg hads, List.nil_append]
    refine iff_of_true ?_ fun h => absurd h hads
    split_ifs
    · exact hregion
    · exact List.nodup_nil

/-- The rule sets that the rules use are defined. -/
lemma routeRules_ruleSet {opt : ConfigOptions} {r : DefaultRule} (hr : r ∈ routeRules D opt)
    {t : String} (ht : t ∈ r.ruleSet) : t ∈ (ruleSets opt).map (·.tag) := by
  rw [map_tag_ruleSets]
  simp only [routeRules, List.mem_append] at hr
  rcases hr with ((hr | hr) | hr) | hr
  · have hnone : ∀ q ∈ builtinRules opt, q.ruleSet = [] := by
      intro q hq
      simp only [builtinRules] at hq
      split_ifs at hq <;> simp at hq <;> aesop
    rw [hnone r hr] at ht
    cases ht
  · obtain ⟨u, -, rfl⟩ := List.mem_map.mp (List.mem_of_mem_filter hr)
    rw [userRule, makeRule_eq] at ht
    cases ht
  · simp only [adsRules] at hr
    split_ifs at hr with hblock
    · rw [List.mem_singleton.mp hr] at ht
      have hsub : adsRuleSets ⊆ blockTags := by decide
      exact List.mem_append_left _ (by rw [if_pos hblock]; exact hsub ht)
    · cases hr
  · simp only [regionRules] at hr
    split_ifs at hr with hregion
    · rcases List.mem_pair.mp hr with rfl | rfl
      · cases ht
      · exact List.mem_append_right _ (by rw [if_pos hregion]; exact ht)
    · cases hr

lemma dnsRules_ruleSet {env : BuildEnv} {opt : ConfigOptions} {input out : Options} {tag : String}
    (b : Built D env opt input tag out) {dns : Singbox.DNSOptions} (hdns : out.dns = some dns)
    {r : DefaultDNSRule} (hr : r ∈ dns.rules) {t : String} (ht : t ∈ r.ruleSet) :
    t ∈ (ruleSets opt).map (·.tag) := by
  rcases (mem_dnsRules b hdns).mp hr with hforce | ⟨-, -, hrule⟩ | ⟨-, rfl⟩
  · simp only [forceDirectRules] at hforce
    split_ifs at hforce
    · rw [List.mem_singleton.mp hforce, forceDirectRule, makeDNSRule_eq] at ht
      cases ht
    · cases hforce
  · rcases mem_dnsRules_opt.mp hrule with ⟨u, -, hrule⟩ | htest | hregion
    · rw [(userDNSRules_server hrule).1] at ht
      cases ht
    · rw [(testDNSRules_server htest).1] at ht
      cases ht
    · obtain ⟨hother, hmem⟩ := (regionDNSRules_server hregion).2 t ht
      rw [map_tag_ruleSets, if_pos hother]
      exact List.mem_append_right _ hmem
  · cases ht

/-! ### The references of a document -/

lemma dns_servers {env : BuildEnv} {opt : ConfigOptions} {input out : Options} {tag : String}
    (b : Built D env opt input tag out) {dns : Singbox.DNSOptions} (hdns : out.dns = some dns) :
    dns.servers = dnsServers opt ++ fakeServers opt := by
  have heq := servers_eq b
  rw [hdns] at heq
  exact Option.some.inj heq

/-- The tags of the servers of a document are those of `serverTags`, each of one server. -/
lemma count_servers {env : BuildEnv} {opt : ConfigOptions} {input out : Options} {tag : String}
    (b : Built D env opt input tag out) {dns : Singbox.DNSOptions} (hdns : out.dns = some dns)
    {t : String} : (dns.servers.map (·.tag)).count t = 1 ↔ t ∈ serverTags opt := by
  rw [dns_servers b hdns, map_tag_servers]
  constructor
  · intro hone
    exact List.count_pos_iff.mp (by omega)
  · exact List.count_eq_one_of_mem (serverTags_nodup opt)

/-- Every reference of a document is to exactly one DNS server or rule set exactly when the user
rules that become DNS rules have a known outbound and the region is free. -/
theorem documentRefersOnce_iff (hD : D.Documented) {env : BuildEnv} {opt : ConfigOptions}
    {input out : Options} {g g' : Globals}
    (h : buildConfig D env opt input g = (.ret (.ok out), g')) :
    DocumentRefersOnce out ↔ NamesServers opt ∧ RegionIsFree opt := by
  obtain ⟨b⟩ := buildConfig_ok h
  obtain ⟨dns, hdns, hfinal, -⟩ := b.answersBy
  have hroute := b.route_eq
  rw [← dnsRules_server_iff hD b hdns, ← ruleSets_nodup_iff]
  constructor
  · rintro ⟨dns', route, hdns', hroute', hrefers⟩
    obtain rfl : dns = dns' := Option.some.inj (hdns.symm.trans hdns')
    obtain rfl := Option.some.inj (hroute.symm.trans hroute')
    exact ⟨fun r hr => (count_servers b hdns).mp (hrefers.server r hr), hrefers.nodup⟩
  · rintro ⟨hserver, hnodup⟩
    refine ⟨dns, _, hdns, hroute, fun r hr => (count_servers b hdns).mpr (hserver r hr), ?_,
      fun s hs hne => ?_, fun r hr t ht => ?_, fun r hr t ht => ?_, hnodup⟩
    · rw [hfinal]
      exact (count_servers b hdns).mpr (dnsRemote_mem opt)
    · apply (count_servers b hdns).mpr
      rw [dns_servers b hdns] at hs
      simp only [dnsServers, fakeServers, List.mem_append, List.mem_cons, List.not_mem_nil,
        or_false] at hs
      rcases hs with (rfl | rfl | rfl | rfl | rfl) | hs
      · exact dnsDirect_mem opt
      · exact absurd rfl hne
      · exact dnsLocal_mem opt
      · exact absurd rfl hne
      · exact absurd rfl hne
      · split_ifs at hs
        · rw [List.mem_singleton.mp hs] at hne
          exact absurd rfl hne
        · cases hs
    · exact List.count_eq_one_of_mem hnodup (routeRules_ruleSet hr ht)
    · exact List.count_eq_one_of_mem hnodup (dnsRules_ruleSet b hdns hr ht)

/-- Options with rule sets for a region, and a rule that sends its domains to this outbound. -/
def regionalOptions (outbound : String) : ConfigOptions :=
  { defaultConfigOptions with
    enableDNSRouting := true
    enableFakeDNS := true
    blockAds := true
    region := "ir"
    rules := [{ domains := "domain:ir", outbound := outbound }] }

theorem documentRefersOnce_bypass :
    DocumentRefersOnce
      (documentOf (buildConfig Reference.deps {} (regionalOptions "bypass") {} {}).1) := by
  have hbuilt : isDocument (buildConfig Reference.deps {} (regionalOptions "bypass") {} {}).1
      = true := by decide
  exact (documentRefersOnce_iff Reference.deps_documented
    (Prod.ext (eq_documentOf hbuilt) rfl)).mpr ⟨fun _ => by decide, fun _ => by decide⟩

/-- The DNS rule for an outbound that is none of the three has no server. -/
theorem not_documentRefersOnce :
    ¬ ∀ D : Deps, D.Documented → ∀ (env : BuildEnv) (opt : ConfigOptions) (input out : Options)
      (g g' : Globals), buildConfig D env opt input g = (.ret (.ok out), g') →
        DocumentRefersOnce out := by
  intro h
  have hbuilt : isDocument (buildConfig Reference.deps {} (regionalOptions "direct") {} {}).1
      = true := by decide
  have hout := Prod.ext (eq_documentOf hbuilt) rfl
  obtain ⟨dns, route, hdns, -, hrefers⟩ := h _ Reference.deps_documented _ _ _ _ _ _ hout
  obtain ⟨b⟩ := buildConfig_ok hout
  have hnames := (dnsRules_server_iff Reference.deps_documented b hdns).mp fun r hr =>
    (count_servers b hdns).mp (hrefers.server r hr)
  exact absurd (hnames rfl _ List.mem_cons_self) (by decide)

end HiddifyCore.Routing
