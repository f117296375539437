import HiddifyCore.Config.BuildSpec
import HiddifyCore.Config.Reference
import HiddifyCore.Routing.UserRules

/-!
# The DNS policy

A query is meant to be answered for the first user rule that has its name, then for the host of
the connection test, the region and the fake addresses of the TUN inbound. The emitted rules do
so except in two cases. The fake copy of a proxy rule without a name answers every query of its
inbounds, and the rule for the directly resolved domains answers every query if none of its
domains became a condition.
-/

namespace HiddifyCore.Routing

open GoLib GoLib.Strings Singbox Config

/-- The two inbounds that get fake addresses. -/
def isClient (q : Query) : Bool := q.inbound = inboundTUNTag || q.inbound = inboundMixedTag

/-- The server that a user rule with one of the three outbounds asks for. -/
def dnsTarget (opt : ConfigOptions) (q : Query) (r : Rule) : String :=
  if r.outbound = "bypass" then dnsDirectTag
  else if r.outbound = "block" then dnsBlockTag
  else if opt.enableFakeDNS && isClient q then dnsFakeTag
  else dnsRemoteTag

def isRegionalName (opt : ConfigOptions) (q : Query) : Bool :=
  opt.region ≠ "other" &&
    (q.name.domainSuffix ("." ++ opt.region) || (regionRuleSets opt).any q.ruleSet)

section Policy

variable (D : Deps)

/-- The name is the host of the connection test. -/
def isTestHost (opt : ConfigOptions) (n : Name) : Bool :=
  match D.urlHost opt.connectionTestUrl with
  | some host => n.domain host
  | none => false

/-- The server for a name that no user rule has. -/
def defaultServer (opt : ConfigOptions) (q : Query) : String :=
  if isTestHost D opt q.name then dnsRemoteTag
  else if isRegionalName opt q then dnsDirectTag
  else if opt.enableFakeDNS && q.inbound = inboundTUNTag then dnsFakeTag
  else dnsRemoteTag

def dnsPolicy (opt : ConfigOptions) (q : Query) : String :=
  firstMatch (nameMatches D q.name) (dnsTarget opt q) opt.rules (defaultServer D opt q)

/-- The fake copy of a proxy rule without a name, which its inbounds alone make a rule. -/
def captures (opt : ConfigOptions) (q : Query) (r : Rule) : Bool :=
  r.outbound = "proxy" && opt.enableFakeDNS && isClient q && (domainItems D r.domains).isEmpty

end Policy

variable {D : Deps}

lemma firstMatch_testDNSRules (opt : ConfigOptions) (q : Query) (d : String) :
    firstMatch (dnsRuleMatches q) DefaultDNSRule.server (testDNSRules D opt) d =
      if isTestHost D opt q.name then dnsRemoteTag else d := by
  unfold testDNSRules isTestHost
  cases D.urlHost opt.connectionTestUrl with
  | none => rfl
  | some host =>
    have hhost : dnsRuleMatches q {
        domain := [host], server := dnsRemoteTag, rewriteTTL := some 3000 } =
          q.name.domain host := by
      simp [dnsRuleMatches, meets, dnsHasName, dnsMeetsName]
    simp only [firstMatch_cons, firstMatch_nil, hhost]

lemma firstMatch_regionDNSRules (opt : ConfigOptions) (q : Query) (d : String) :
    firstMatch (dnsRuleMatches q) DefaultDNSRule.server (regionDNSRules opt) d =
      if isRegionalName opt q then dnsDirectTag else d := by
  have hsuffix : dnsRuleMatches q
      { domainSuffix := ["." ++ opt.region], server := dnsDirectTag } =
        q.name.domainSuffix ("." ++ opt.region) := by
    simp [dnsRuleMatches, meets, dnsHasName, dnsMeetsName]
  have hset : dnsRuleMatches q { ruleSet := regionRuleSets opt, server := dnsDirectTag } =
      (regionRuleSets opt).any q.ruleSet := by
    simp [dnsRuleMatches, meets, dnsHasName, regionRuleSets]
  simp only [regionDNSRules, isRegionalName]
  by_cases hregion : opt.region = "other"
  · simp [hregion]
  · simp only [ne_eq, hregion, not_false_eq_true, if_true, firstMatch_cons, firstMatch_nil, hsuffix,
      hset, decide_true, Bool.true_and, Bool.or_eq_true, ite_or]

lemma firstMatch_fakeDnsRule (opt : ConfigOptions) (q : Query) (d : String) :
    firstMatch (dnsRuleMatches q) DefaultDNSRule.server
        (if opt.enableFakeDNS then [fakeDnsRule] else []) d =
      if opt.enableFakeDNS && q.inbound = inboundTUNTag then dnsFakeTag else d := by
  have hfake : dnsRuleMatches q fakeDnsRule = decide (q.inbound = inboundTUNTag) := by
    simp [dnsRuleMatches, meets, dnsHasName, fakeDnsRule, beq_eq_decide, eq_comm]
  cases opt.enableFakeDNS with
  | false => rfl
  | true =>
    simp only [if_true, firstMatch_cons, firstMatch_nil, hfake, Bool.true_and]
    rfl

/-! ### The rules of the user -/

/-- A plain rule answers for the names of the user rule. -/
lemma plainRule_answers (hD : D.Documented) (q : Query) (r : Rule) (server : String)
    (disableCache : Bool) :
    (D.dnsRuleIsValid { r.makeDNSRule D with server := server, disableCache := disableCache } &&
      dnsRuleMatches q { r.makeDNSRule D with server := server, disableCache := disableCache }) =
        nameMatches D q.name r := by
  have hplain : ({ r.makeDNSRule D with server := server, disableCache := disableCache } :
      DefaultDNSRule) = { r.makeDNSRule D with
        inbound := [], server := server, disableCache := disableCache } := by
    rw [makeDNSRule_eq]
  rw [dnsRuleIsValid_makeDNSRule hD, hplain, dnsRuleMatches_makeDNSRule]
  simp only [nameMatches]
  cases domainItems D r.domains with
  | nil => rfl
  | cons item items => rfl

/-- The fake copy of a rule answers its inbounds also when the user rule has no name. -/
lemma fakeRule_answers (hD : D.Documented) (q : Query) (r : Rule) :
    (D.dnsRuleIsValid { r.makeDNSRule D with
        server := dnsFakeTag, inbound := [inboundTUNTag, inboundMixedTag] } &&
      dnsRuleMatches q { r.makeDNSRule D with
        server := dnsFakeTag, inbound := [inboundTUNTag, inboundMixedTag] }) =
      (isClient q && ((domainItems D r.domains).isEmpty || nameMatches D q.name r)) := by
  have hcache : ({ r.makeDNSRule D with
      server := dnsFakeTag, inbound := [inboundTUNTag, inboundMixedTag] } : DefaultDNSRule) =
        { r.makeDNSRule D with
          inbound := [inboundTUNTag, inboundMixedTag], server := dnsFakeTag,
          disableCache := false } := by
    rw [makeDNSRule_eq]
  have hclient : meets [inboundTUNTag, inboundMixedTag] (· == q.inbound) = isClient q := by
    simp [meets, isClient, beq_eq_decide, eq_comm]
  rw [dnsRuleIsValid_inbound hD _ (by simp), Bool.true_and, hcache, dnsRuleMatches_makeDNSRule,
    hclient]

/-- The rules of one user rule answer like one rule. -/
lemma firstMatch_userDNSRules (hD : D.Documented) (opt : ConfigOptions) (q : Query) {r : Rule}
    (hr : isKnown r = true) (d : String) :
    firstMatch (dnsRuleMatches q) DefaultDNSRule.server
        ((userDNSRules D opt r).filter D.dnsRuleIsValid) d =
      if nameMatches D q.name r || captures D opt q r then dnsTarget opt q r else d := by
  have hplain (server : String) :=
    plainRule_answers hD q r server (r.makeDNSRule D).disableCache
  have hblock := plainRule_answers hD q r dnsBlockTag true
  have hfake := fakeRule_answers hD q r
  dsimp only at hplain hblock hfake
  rw [firstMatch_filter]
  unfold userDNSRules dnsTarget captures
  dsimp only
  by_cases hbypass : r.outbound = "bypass"
  · rw [if_pos hbypass, if_pos hbypass]
    simp only [firstMatch_cons, firstMatch_nil, hplain]
    simp [hbypass]
  · by_cases hblocks : r.outbound = "block"
    · rw [if_neg hbypass, if_pos hblocks, if_neg hbypass, if_pos hblocks]
      simp only [firstMatch_cons, firstMatch_nil, hblock]
      simp [hblocks]
    · have hproxy : r.outbound = "proxy" := by
        simpa [isKnown, hbypass, hblocks] using hr
      rw [if_neg hbypass, if_neg hblocks, if_pos hproxy, if_neg hbypass, if_neg hblocks]
      cases hfakes : opt.enableFakeDNS with
      | false =>
        simp only [Bool.false_eq_true, if_false, List.nil_append, firstMatch_cons, firstMatch_nil,
          hplain]
        simp
      | true =>
        simp only [if_true, List.cons_append, List.nil_append, firstMatch_cons, firstMatch_nil,
          hplain, hfake]
        cases isClient q <;> cases (domainItems D r.domains).isEmpty <;>
          cases nameMatches D q.name r <;> simp [hproxy]

lemma filter_testDNSRules (hD : D.Documented) (opt : ConfigOptions) :
    (testDNSRules D opt).filter D.dnsRuleIsValid = testDNSRules D opt := by
  refine List.filter_eq_self.mpr fun r hr => (hD.dnsRuleIsValid r).mpr ?_
  intro hempty
  simp only [testDNSRules] at hr
  cases hhost : D.urlHost opt.connectionTestUrl with
  | none => simp [hhost] at hr
  | some host =>
    simp only [hhost, List.mem_singleton] at hr
    rw [hr] at hempty
    cases congrArg DefaultDNSRule.domain hempty

lemma filter_regionDNSRules (hD : D.Documented) (opt : ConfigOptions) :
    (regionDNSRules opt).filter D.dnsRuleIsValid = regionDNSRules opt := by
  refine List.filter_eq_self.mpr fun r hr => (hD.dnsRuleIsValid r).mpr ?_
  intro hempty
  simp only [regionDNSRules] at hr
  split_ifs at hr
  · rcases List.mem_pair.mp hr with rfl | rfl
    · cases congrArg DefaultDNSRule.domainSuffix hempty
    · cases congrArg DefaultDNSRule.ruleSet hempty
  · cases hr

/-- A rule answers a query for its name, or by capturing it. -/
def answers (D : Deps) (opt : ConfigOptions) (q : Query) (r : Rule) : Bool :=
  nameMatches D q.name r || captures D opt q r

/-- The decision of the emitted rules, but for the one that `addForceDirect` prepends. -/
lemma firstMatch_dnsRules (hD : D.Documented) (opt : ConfigOptions) (q : Query)
    (hrules : ∀ r ∈ opt.rules, isKnown r = true) :
    firstMatch (dnsRuleMatches q) DefaultDNSRule.server
        ((dnsRules D opt).filter D.dnsRuleIsValid ++
          if opt.enableFakeDNS then [fakeDnsRule] else []) dnsRemoteTag =
      firstMatch (answers D opt q) (dnsTarget opt q) opt.rules (defaultServer D opt q) := by
  rw [dnsRules, List.filter_append, List.filter_append, filter_testDNSRules hD,
    filter_regionDNSRules hD, firstMatch_append, firstMatch_append, firstMatch_append,
    firstMatch_testDNSRules, firstMatch_regionDNSRules, firstMatch_fakeDnsRule, List.filter_flatMap]
  exact firstMatch_flatMap _ _ fun r hr d => firstMatch_userDNSRules hD opt q (hrules r hr) d

/-! ### The rule for the directly resolved domains -/

section ForceDirect

variable (D : Deps) (env : BuildEnv) (opt : ConfigOptions) (input : Options)

/-- The list that `addForceDirect` makes a rule of. -/
def forceDirectList : String := join (env.keyOrder.toFun (forceDirectKeys D env opt input)) ','

/-- A name that the list has. -/
def isForceDirect (n : Name) : Bool :=
  (domainItems D (forceDirectList D env opt input)).any (·.matches? n)

/-- The list is not empty, but none of its items has one of the five prefixes. Those of the servers
have one, the host of the remote DNS server has none. -/
def forcesEverything : Bool :=
  forceDirectKeys D env opt input ≠ [] &&
    (domainItems D (forceDirectList D env opt input)).isEmpty

end ForceDirect

lemma firstMatch_forceDirectRules {env : BuildEnv} {opt : ConfigOptions} {input : Options}
    {q : Query} (hq : isForceDirect D env opt input q.name = false) (d : String) :
    firstMatch (dnsRuleMatches q) DefaultDNSRule.server
        (forceDirectRules D env.keyOrder (forceDirectKeys D env opt input)) d =
      if forcesEverything D env opt input then dnsDirectTag else d := by
  simp only [forceDirectRules, forcesEverything]
  by_cases hkeys : forceDirectKeys D env opt input = []
  · simp [hkeys]
  · have hrule : forceDirectRule D (env.keyOrder.toFun (forceDirectKeys D env opt input)) =
        { ({ domains := forceDirectList D env opt input } : Rule).makeDNSRule D with
          inbound := [], server := dnsDirectTag, disableCache := false } := by
      rw [makeDNSRule_eq, forceDirectRule, makeDNSRule_eq]
      rfl
    have hmatch : dnsRuleMatches q
        (forceDirectRule D (env.keyOrder.toFun (forceDirectKeys D env opt input))) =
          (domainItems D (forceDirectList D env opt input)).isEmpty := by
      rw [hrule, dnsRuleMatches_makeDNSRule]
      simp only [nameMatches]
      rw [show ((domainItems D (forceDirectList D env opt input)).any (·.matches? q.name)) = false
        from hq]
      simp [meets]
    simp only [ne_eq, hkeys, not_false_eq_true, if_true, firstMatch_cons, firstMatch_nil, hmatch,
      decide_true, Bool.true_and]
    rw [hrule]

/-! ### The policy and the emitted rules -/

/-- The policy answers with a fake address. -/
def PolicyIsFake (D : Deps) (opt : ConfigOptions) (q : Query) : Prop :=
  (∃ r, opt.rules.find? (nameMatches D q.name) = some r ∧ r.outbound = "proxy") ∨
    (opt.rules.find? (nameMatches D q.name) = none ∧ isTestHost D opt q.name = false ∧
      isRegionalName opt q = false ∧ q.inbound = inboundTUNTag)

/-- The policy answers from the direct server. -/
def PolicyIsDirect (D : Deps) (opt : ConfigOptions) (q : Query) : Prop :=
  (∃ r, opt.rules.find? (nameMatches D q.name) = some r ∧ r.outbound = "bypass") ∨
    (opt.rules.find? (nameMatches D q.name) = none ∧ isTestHost D opt q.name = false ∧
      isRegionalName opt q = true)

/-- A proxy rule without a name comes before every rule that has the name. -/
def IsCaptured (D : Deps) (opt : ConfigOptions) (q : Query) : Prop :=
  ∃ r, opt.rules.find? (answers D opt q) = some r ∧ captures D opt q r = true

lemma dnsTarget_eq_fake_iff {opt : ConfigOptions} {q : Query} {r : Rule}
    (hfake : opt.enableFakeDNS = true) (hclient : isClient q = true) (hr : isKnown r = true) :
    dnsTarget opt q r = dnsFakeTag ↔ r.outbound = "proxy" := by
  simp only [dnsTarget]
  rw [hfake, hclient]
  simp only [isKnown, Bool.or_eq_true, decide_eq_true_eq] at hr
  rcases hr with (hr | hr) | hr <;> rw [hr] <;> decide

lemma dnsTarget_eq_direct_iff {opt : ConfigOptions} {q : Query} {r : Rule} :
    dnsTarget opt q r = dnsDirectTag ↔ r.outbound = "bypass" := by
  simp only [dnsTarget]
  split_ifs with hbypass
  · exact iff_of_true rfl hbypass
  all_goals exact iff_of_false (by decide) hbypass

lemma defaultServer_eq_fake_iff {opt : ConfigOptions} {q : Query}
    (hfake : opt.enableFakeDNS = true) :
    defaultServer D opt q = dnsFakeTag ↔ isTestHost D opt q.name = false ∧
      isRegionalName opt q = false ∧ q.inbound = inboundTUNTag := by
  simp only [defaultServer]
  rw [hfake]
  cases isTestHost D opt q.name <;> cases isRegionalName opt q <;>
    by_cases htun : q.inbound = inboundTUNTag <;> simp [htun] <;> decide

lemma defaultServer_eq_direct_iff {opt : ConfigOptions} {q : Query} :
    defaultServer D opt q = dnsDirectTag ↔
      isTestHost D opt q.name = false ∧ isRegionalName opt q = true := by
  simp only [defaultServer]
  split_ifs with htest hregion <;> simp [*] <;> decide

/-- `PolicyIsFake` says what it is called, for the queries that can be captured. -/
lemma dnsPolicy_eq_fake_iff {opt : ConfigOptions} {q : Query}
    (hrules : ∀ r ∈ opt.rules, isKnown r = true) (hfake : opt.enableFakeDNS = true)
    (hclient : isClient q = true) : dnsPolicy D opt q = dnsFakeTag ↔ PolicyIsFake D opt q := by
  simp only [dnsPolicy, PolicyIsFake]
  cases hfind : opt.rules.find? (nameMatches D q.name) with
  | none => simp [firstMatch_of_none hfind, defaultServer_eq_fake_iff hfake]
  | some r =>
    have hr := hrules r (List.mem_of_find?_eq_some hfind)
    simp [firstMatch_of_find hfind, dnsTarget_eq_fake_iff hfake hclient hr]

lemma dnsPolicy_eq_direct_iff {opt : ConfigOptions} {q : Query} :
    dnsPolicy D opt q = dnsDirectTag ↔ PolicyIsDirect D opt q := by
  simp only [dnsPolicy, PolicyIsDirect]
  cases hfind : opt.rules.find? (nameMatches D q.name) with
  | none => simp [firstMatch_of_none hfind, defaultServer_eq_direct_iff]
  | some r => simp [firstMatch_of_find hfind, dnsTarget_eq_direct_iff]

lemma dnsTarget_of_captures {opt : ConfigOptions} {q : Query} {r : Rule}
    (h : captures D opt q r = true) : dnsTarget opt q r = dnsFakeTag := by
  simp only [captures, Bool.and_eq_true, decide_eq_true_eq] at h
  obtain ⟨⟨⟨hproxy, hfake⟩, hclient⟩, -⟩ := h
  simp [dnsTarget, hproxy, hfake, hclient]

/-- The rules of the user answer a captured query with a fake address. -/
lemma firstMatch_answers_of_captured {opt : ConfigOptions} {q : Query} (h : IsCaptured D opt q)
    (d : String) : firstMatch (answers D opt q) (dnsTarget opt q) opt.rules d = dnsFakeTag := by
  obtain ⟨r, hfind, hcaptures⟩ := h
  rw [firstMatch_of_find hfind, dnsTarget_of_captures hcaptures]

/-- They follow the policy on every other query. -/
lemma firstMatch_answers_of_not_captured {opt : ConfigOptions} {q : Query}
    (h : ¬ IsCaptured D opt q) :
    firstMatch (answers D opt q) (dnsTarget opt q) opt.rules (defaultServer D opt q) =
      dnsPolicy D opt q := by
  have himp : ∀ r, nameMatches D q.name r = true → answers D opt q r = true := by
    intro r hr
    rw [answers, hr, Bool.true_or]
  simp only [dnsPolicy]
  cases hfind : opt.rules.find? (answers D opt q) with
  | none => rw [firstMatch_of_none hfind, firstMatch_of_none (find_none_of_imp himp hfind)]
  | some r =>
    have hname : nameMatches D q.name r = true := by
      have hr := List.find?_some hfind
      rw [answers, Bool.or_eq_true] at hr
      exact hr.resolve_right fun hcaptures => h ⟨r, hfind, hcaptures⟩
    rw [firstMatch_of_find hfind, firstMatch_of_find (find_of_imp himp hfind hname)]

/-- A document answers a query from the server of the policy. -/
def AnswersAsIntended (D : Deps) (opt : ConfigOptions) (out : Options) (q : Query) : Prop :=
  out.dns.map (dnsDecision · q) = some (dnsPolicy D opt q)

/-- Where a document answers a query from. -/
theorem dnsDecision_eq (hD : D.Documented) {env : BuildEnv} {opt : ConfigOptions}
    {input out : Options} {g g' : Globals}
    (h : buildConfig D env opt input g = (.ret (.ok out), g'))
    (hrouting : opt.enableDNSRouting = true) (hrules : ∀ r ∈ opt.rules, isKnown r = true)
    (q : Query) :
    out.dns.map (dnsDecision · q) = some (firstMatch (dnsRuleMatches q) DefaultDNSRule.server
      (forceDirectRules D env.keyOrder (forceDirectKeys D env opt input))
      (firstMatch (answers D opt q) (dnsTarget opt q) opt.rules (defaultServer D opt q))) := by
  obtain ⟨b⟩ := buildConfig_ok h
  obtain ⟨dns, hdns, hfinal, hdnsRules⟩ := b.answersBy
  rw [hdns, Option.map_some, dnsDecision, hfinal, hdnsRules, hrouting, if_pos rfl,
    firstMatch_append, firstMatch_dnsRules hD opt q hrules]

/-- A document answers a query from the server of the policy exactly when the policy is to answer
directly, if the rule for the directly resolved domains has no condition, and with a fake address,
if not and a proxy rule without a name captures the query. -/
theorem answersAsIntended_iff (hD : D.Documented) {env : BuildEnv} {opt : ConfigOptions}
    {input out : Options} {g g' : Globals}
    (h : buildConfig D env opt input g = (.ret (.ok out), g'))
    (hrouting : opt.enableDNSRouting = true) (hrules : ∀ r ∈ opt.rules, isKnown r = true)
    (q : Query) (hq : isForceDirect D env opt input q.name = false) :
    AnswersAsIntended D opt out q ↔
      (forcesEverything D env opt input = true → PolicyIsDirect D opt q) ∧
        (forcesEverything D env opt input = false → IsCaptured D opt q →
          PolicyIsFake D opt q) := by
  simp only [AnswersAsIntended]
  rw [dnsDecision_eq hD h hrouting hrules q, firstMatch_forceDirectRules hq, Option.some.injEq]
  cases forcesEverything D env opt input with
  | true => simp [← dnsPolicy_eq_direct_iff, eq_comm]
  | false =>
    by_cases hcaptured : IsCaptured D opt q
    · obtain ⟨r, -, hcaptures⟩ := id hcaptured
      simp only [captures, Bool.and_eq_true, decide_eq_true_eq] at hcaptures
      obtain ⟨⟨⟨-, hfake⟩, hclient⟩, -⟩ := hcaptures
      simp [firstMatch_answers_of_captured hcaptured, hcaptured, eq_comm,
        ← dnsPolicy_eq_fake_iff hrules hfake hclient]
    · simp [firstMatch_answers_of_not_captured hcaptured, hcaptured]

/-- A proxy rule for addresses, and a rule that resolves the domains under `ir` directly. -/
def fakeOptions : ConfigOptions :=
  { defaultConfigOptions with
    enableDNSRouting := true
    enableFakeDNS := true
    rules := [{ ip := "8.8.8.8/32", outbound := "proxy" },
      { domains := "domain:ir", outbound := "bypass" }] }

lemma buildConfig_fakeOptions :
    isDocument (buildConfig Reference.deps {} fakeOptions {} {}).1 = true := by decide

lemma isKnown_fakeOptions : ∀ r ∈ fakeOptions.rules, isKnown r = true := by decide

/-- A query for a name under `ir`. -/
def irQuery (inbound : String) : Query where
  inbound := inbound
  name := { domainSuffix := (· == "ir") }

/-- One that comes from neither of the two inbounds is answered directly. -/
theorem answersAsIntended_irQuery :
    AnswersAsIntended Reference.deps fakeOptions
      (documentOf (buildConfig Reference.deps {} fakeOptions {} {}).1) (irQuery "dns-in") := by
  refine (answersAsIntended_iff Reference.deps_documented
    (Prod.ext (eq_documentOf buildConfig_fakeOptions) rfl) rfl isKnown_fakeOptions
    (irQuery "dns-in") (by decide)).mpr ⟨fun h => absurd h (by decide), ?_⟩
  rintro - ⟨r, -, hcaptures⟩
  simp only [captures, Bool.and_eq_true] at hcaptures
  exact absurd hcaptures.1.2 (by decide)

/-- One from the TUN inbound is captured by the rule for addresses. -/
theorem not_answersAsIntended :
    ¬ ∀ D : Deps, D.Documented → ∀ (env : BuildEnv) (opt : ConfigOptions) (input out : Options)
      (g g' : Globals), buildConfig D env opt input g = (.ret (.ok out), g') →
        opt.enableDNSRouting = true → (∀ r ∈ opt.rules, isKnown r = true) →
          ∀ q : Query, isForceDirect D env opt input q.name = false →
            AnswersAsIntended D opt out q := by
  intro h
  have hanswer := h Reference.deps Reference.deps_documented {} fakeOptions {} _ {} _
    (Prod.ext (eq_documentOf buildConfig_fakeOptions) rfl) rfl isKnown_fakeOptions
    (irQuery inboundTUNTag) (by decide)
  exact absurd hanswer (by unfold AnswersAsIntended; decide)

end HiddifyCore.Routing
