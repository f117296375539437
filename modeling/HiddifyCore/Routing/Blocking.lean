import HiddifyCore.Routing.DNS
import HiddifyCore.Routing.Route

/-!
# Blocked names

A user rule is compiled into a DNS rule that keeps its domains and into a route rule that keeps
all its conditions. A name that the DNS rules block comes from a block rule, and the route rules
block the connections to the name that meet the other conditions of that rule, unless an earlier
rule takes them.
-/

namespace HiddifyCore.Routing

open GoLib Singbox Config

variable {D : Deps}

lemma dnsTarget_eq_block_iff {opt : ConfigOptions} {q : Query} {r : Rule} :
    dnsTarget opt q r = dnsBlockTag ↔ r.outbound = "block" := by
  simp only [dnsTarget]
  split_ifs with hbypass hblock
  · exact iff_of_false (by decide) (by rw [hbypass]; decide)
  · exact iff_of_true rfl hblock
  all_goals exact iff_of_false (by decide) hblock

lemma defaultServer_ne_block (opt : ConfigOptions) (q : Query) :
    defaultServer D opt q ≠ dnsBlockTag := by
  simp only [defaultServer]
  split_ifs <;> decide

/-- The rule for the directly resolved domains blocks nothing. -/
lemma firstMatch_forceDirectRules_eq_block {q : Query} {order : MapOrder} {keys : List String}
    {d : String} (h : firstMatch (dnsRuleMatches q) DefaultDNSRule.server
      (forceDirectRules D order keys) d = dnsBlockTag) : d = dnsBlockTag := by
  by_contra hd
  refine firstMatch_mem (P := (· ≠ dnsBlockTag)) (fun r hr _ => ?_) hd h
  simp only [forceDirectRules] at hr
  split_ifs at hr
  · rw [List.mem_singleton.mp hr]
    exact (by decide : dnsDirectTag ≠ dnsBlockTag)
  · cases hr

/-- A blocked name is a name of a block rule, and no rule before it has the name. -/
lemma exists_block_rule (hD : D.Documented) {env : BuildEnv} {opt : ConfigOptions}
    {input out : Options} {g g' : Globals}
    (h : buildConfig D env opt input g = (.ret (.ok out), g'))
    (hrouting : opt.enableDNSRouting = true) (hrules : ∀ r ∈ opt.rules, isKnown r = true)
    {q : Query} (hq : out.dns.map (dnsDecision · q) = some dnsBlockTag) :
    ∃ before r after, opt.rules = before ++ r :: after ∧ r.outbound = "block" ∧
      nameMatches D q.name r = true ∧ ∀ r' ∈ before, nameMatches D q.name r' = false := by
  rw [dnsDecision_eq hD h hrouting hrules q, Option.some.injEq] at hq
  have hblock := firstMatch_forceDirectRules_eq_block hq
  obtain ⟨r, hfind, hr⟩ := exists_of_firstMatch_ne
    (hblock.trans_ne (defaultServer_ne_block (D := D) opt q).symm)
  have hout : r.outbound = "block" := dnsTarget_eq_block_iff.mp (hr.symm.trans hblock)
  obtain ⟨hanswers, before, after, hsplit, hbefore⟩ := List.find?_eq_some_iff_append.mp hfind
  refine ⟨before, r, after, hsplit, hout, ?_, fun r' hr' => ?_⟩
  · -- a block rule captures nothing
    simpa [answers, captures, hout] using hanswers
  · have hno := hbefore r' hr'
    simp only [answers, Bool.not_eq_true', Bool.or_eq_false_iff] at hno
    exact hno.1

/-- The connections to a name of a block rule that the rule takes are blocked. -/
lemma emittedDecision_eq_block {opt : ConfigOptions} {before after : List Rule} {r : Rule}
    (hsplit : opt.rules = before ++ r :: after) (hout : r.outbound = "block") {c : Connection}
    (hname : nameMatches D c.name r = true) (hrest : meetsRest c r = true)
    (hbefore : ∀ r' ∈ before, userMatches D c r' = true → r'.outbound = "block")
    (hdns : isDNSTraffic c = false) (hbypass : bypasses opt c = false) (mainProxyTag : String) :
    emittedDecision D mainProxyTag opt c = outboundBlockTag := by
  have hitems : domainItems D r.domains ≠ [] := by
    intro hnil
    simp [nameMatches, hnil] at hname
  have hmatch : userMatches D c r = true := by
    rw [nameMatches] at hname
    simp [userMatches, hasCondition, meetsItems, hname, hrest, hitems]
  have hblock : ∀ r' : Rule, r'.outbound = "block" → routeOutbound r' = outboundBlockTag := by
    intro r' hr'
    rw [routeOutbound, hr']
    rfl
  rw [emittedDecision, hdns, hbypass, if_neg Bool.false_ne_true, if_neg Bool.false_ne_true, hsplit,
    firstMatch_append, firstMatch_cons, if_pos hmatch, hblock r hout]
  exact firstMatch_mem (P := (· = outboundBlockTag))
    (fun r' hr' hm => hblock r' (hbefore r' hr' hm)) rfl

/-- If a document answers a name from the blocking server, the first user rule with the name is a
block rule. The document blocks every connection to the name that is neither DNS traffic nor
bypasses the proxy anyway, that meets the port, network and protocol of that rule, and that no
earlier user rule with another outbound matches. -/
theorem block_of_dns_block (hD : D.Documented) {env : BuildEnv} {opt : ConfigOptions}
    {input out : Options} {g g' : Globals}
    (h : buildConfig D env opt input g = (.ret (.ok out), g'))
    (hrouting : opt.enableDNSRouting = true) (hrules : ∀ r ∈ opt.rules, isKnown r = true)
    {q : Query} (hq : out.dns.map (dnsDecision · q) = some dnsBlockTag) :
    ∃ before r after, opt.rules = before ++ r :: after ∧ r.outbound = "block" ∧
      nameMatches D q.name r = true ∧ (∀ r' ∈ before, nameMatches D q.name r' = false) ∧
      ∀ c : Connection, c.name = q.name → isDNSTraffic c = false → bypasses opt c = false →
        meetsRest c r = true →
        (∀ r' ∈ before, userMatches D c r' = true → r'.outbound = "block") →
          out.route.map (routeDecision · c) = some outboundBlockTag := by
  obtain ⟨before, r, after, hsplit, hout, hname, hbefore⟩ :=
    exists_block_rule hD h hrouting hrules hq
  refine ⟨before, r, after, hsplit, hout, hname, hbefore, ?_⟩
  intro c hc hdns hbypass hrest hearlier
  rw [routeDecision_eq hD h, Option.some.injEq]
  exact emittedDecision_eq_block hsplit hout (by rwa [hc]) hrest hearlier hdns hbypass _

/-- Port 443 bypasses the proxy, and one name is blocked. -/
def blockOptions : ConfigOptions :=
  { defaultConfigOptions with
    enableDNSRouting := true
    rules := [{ port := "443", outbound := "bypass" },
      { domains := "full:ads.example", outbound := "block" }] }

lemma buildConfig_blockOptions :
    isDocument (buildConfig Reference.deps {} blockOptions {} {}).1 = true := by decide

lemma isKnown_blockOptions : ∀ r ∈ blockOptions.rules, isKnown r = true := by decide

/-- A query for the name. -/
def adsQuery : Query where
  name := { domain := (· == "ads.example") }

/-- The name is blocked by the second rule, and so are the connections that it takes. -/
theorem block_of_dns_block_adsQuery :
    ∃ before r after, blockOptions.rules = before ++ r :: after ∧ r.outbound = "block" ∧
      nameMatches Reference.deps adsQuery.name r = true ∧
      (∀ r' ∈ before, nameMatches Reference.deps adsQuery.name r' = false) ∧
      ∀ c : Connection, c.name = adsQuery.name → isDNSTraffic c = false →
        bypasses blockOptions c = false → meetsRest c r = true →
        (∀ r' ∈ before, userMatches Reference.deps c r' = true → r'.outbound = "block") →
          (documentOf (buildConfig Reference.deps {} blockOptions {} {}).1).route.map
            (routeDecision · c) = some outboundBlockTag :=
  block_of_dns_block Reference.deps_documented
    (Prod.ext (eq_documentOf buildConfig_blockOptions) rfl) rfl isKnown_blockOptions (by decide)

/-- A connection to the name on port 443 is sent past the proxy. -/
theorem not_block_of_dns_block :
    ¬ ∀ D : Deps, D.Documented → ∀ (env : BuildEnv) (opt : ConfigOptions) (input out : Options)
      (g g' : Globals), buildConfig D env opt input g = (.ret (.ok out), g') →
        opt.enableDNSRouting = true → (∀ r ∈ opt.rules, isKnown r = true) →
          ∀ q : Query, out.dns.map (dnsDecision · q) = some dnsBlockTag →
            ∀ c : Connection, c.name = q.name → isDNSTraffic c = false → bypasses opt c = false →
              out.route.map (routeDecision · c) = some outboundBlockTag := by
  intro h
  have hblock := h Reference.deps Reference.deps_documented {} blockOptions {} _ {} _
    (Prod.ext (eq_documentOf buildConfig_blockOptions) rfl) rfl isKnown_blockOptions
    adsQuery (by decide) { name := adsQuery.name, port := 443 } rfl (by decide) (by decide)
  exact absurd hblock (by decide)

end HiddifyCore.Routing
