import HiddifyCore.Config.MainProxy
import HiddifyCore.Routing.UserRules

/-!
# The routing policy

The route rules are meant to be a priority list. What the emitted list decides is computed source
by source; it is the policy up to the user rules with outbound `proxy`, which are sent to the DNS
outbound, and those with an unknown outbound, which are emitted without one where the policy has
them emit nothing.
-/

namespace HiddifyCore.Routing

open GoLib Singbox Config

/-- The names of the program's own processes. -/
def ownProcesses : List String := ["Hiddify", "Hiddify.exe", "HiddifyCli", "HiddifyCli.exe"]

/-- DNS traffic. -/
def isDNSTraffic (c : Connection) : Bool := c.inbound = inboundDNSTag || c.port = 53

/-- Traffic that bypasses the proxy whatever the user rules say. -/
def bypasses (opt : ConfigOptions) (c : Connection) : Bool :=
  (opt.enableTun && ownProcesses.any (· == c.processName)) || (opt.bypassLAN && c.ipIsPrivate)

def isAd (opt : ConfigOptions) (c : Connection) : Bool :=
  opt.blockAds && adsRuleSets.any c.ruleSet

def isRegional (opt : ConfigOptions) (c : Connection) : Bool :=
  opt.region ≠ "other" &&
    (c.name.domainSuffix ("." ++ opt.region) || (regionRuleSets opt).any c.ruleSet)

/-- Where a user rule sends what it matches. -/
def userTarget (mainProxyTag : String) (r : Rule) : String :=
  if r.outbound = "bypass" then outboundBypassTag
  else if r.outbound = "block" then outboundBlockTag
  else mainProxyTag

/-- Where traffic goes that no user rule matches. -/
def defaultTarget (mainProxyTag : String) (opt : ConfigOptions) (c : Connection) : String :=
  if isAd opt c then outboundBlockTag
  else if isRegional opt c then outboundDirectTag
  else mainProxyTag

section Policy

variable (D : Deps)

/-- The first user rule with a known outbound that matches decides. -/
def userPolicy (mainProxyTag : String) (opt : ConfigOptions) (c : Connection) : String :=
  match (opt.rules.filter isKnown).find? (userMatches D c) with
  | some r => userTarget mainProxyTag r
  | none => defaultTarget mainProxyTag opt c

/-- The policy: a priority list. -/
def routePolicy (mainProxyTag : String) (opt : ConfigOptions) (c : Connection) : String :=
  if isDNSTraffic c then outboundDNSTag
  else if bypasses opt c then outboundBypassTag
  else userPolicy D mainProxyTag opt c

/-- What the emitted rules decide. -/
def emittedDecision (mainProxyTag : String) (opt : ConfigOptions) (c : Connection) : String :=
  if isDNSTraffic c then outboundDNSTag
  else if bypasses opt c then outboundBypassTag
  else firstMatch (userMatches D c) routeOutbound opt.rules (defaultTarget mainProxyTag opt c)

end Policy

variable {D : Deps}

/-! ### The emitted rules -/

lemma firstMatch_builtinRules (opt : ConfigOptions) (c : Connection) (d : String) :
    firstMatch (ruleMatches c) DefaultRule.outbound (builtinRules opt) d =
      if isDNSTraffic c then outboundDNSTag
      else if bypasses opt c then outboundBypassTag
      else d := by
  have hdns : ruleMatches c { inbound := [inboundDNSTag], outbound := outboundDNSTag } =
      decide (c.inbound = inboundDNSTag) := by
    simp [ruleMatches, meets, hasDestination, hasPort, beq_eq_decide, eq_comm]
  have hport : ruleMatches c { port := [53], outbound := outboundDNSTag } =
      decide (c.port = 53) := by
    simp [ruleMatches, meets, hasDestination, hasPort, meetsPort, beq_eq_decide, eq_comm]
  have hprocess : ruleMatches c { processName := ownProcesses, outbound := outboundBypassTag } =
      ownProcesses.any (· == c.processName) := by
    simp [ruleMatches, meets, hasDestination, hasPort, ownProcesses]
  have hprivate : ruleMatches c { ipIsPrivate := true, outbound := outboundBypassTag } =
      c.ipIsPrivate := by
    simp [ruleMatches, meets, hasDestination, hasPort, meetsDestination]
  rw [ownProcesses] at hprocess
  cases htun : opt.enableTun <;> cases hlan : opt.bypassLAN <;>
    simp only [builtinRules, bypasses, isDNSTraffic, ownProcesses, htun, hlan, if_true, if_false,
      Bool.false_eq_true, List.cons_append, List.nil_append, List.append_nil, firstMatch_cons,
      firstMatch_nil, hdns, hport, hprocess, hprivate, Bool.true_and, Bool.false_and,
      Bool.or_false, Bool.false_or, Bool.or_eq_true, ite_or]

lemma firstMatch_adsRules (opt : ConfigOptions) (c : Connection) (d : String) :
    firstMatch (ruleMatches c) DefaultRule.outbound (adsRules opt) d =
      if isAd opt c then outboundBlockTag else d := by
  have hads : ruleMatches c { ruleSet := adsRuleSets, outbound := outboundBlockTag } =
      adsRuleSets.any c.ruleSet := by
    simp [ruleMatches, meets, hasDestination, hasPort, adsRuleSets]
  unfold adsRules isAd
  cases opt.blockAds with
  | false => rfl
  | true => simp only [if_true, firstMatch_cons, firstMatch_nil, hads, Bool.true_and]

lemma firstMatch_regionRules (opt : ConfigOptions) (c : Connection) (d : String) :
    firstMatch (ruleMatches c) DefaultRule.outbound (regionRules opt) d =
      if isRegional opt c then outboundDirectTag else d := by
  have hsuffix : ruleMatches c
      { domainSuffix := ["." ++ opt.region], outbound := outboundDirectTag } =
        c.name.domainSuffix ("." ++ opt.region) := by
    simp [ruleMatches, meets, hasDestination, hasPort, meetsDestination]
  have hset : ruleMatches c { ruleSet := regionRuleSets opt, outbound := outboundDirectTag } =
      (regionRuleSets opt).any c.ruleSet := by
    simp [ruleMatches, meets, hasDestination, hasPort, regionRuleSets]
  simp only [regionRules, isRegional]
  by_cases hregion : opt.region = "other"
  · simp [hregion]
  · simp only [ne_eq, hregion, not_false_eq_true, if_true, firstMatch_cons, firstMatch_nil, hsuffix,
      hset, decide_true, Bool.true_and, Bool.or_eq_true, ite_or]

/-- The rules of the user, behind the check of their conditions. -/
lemma firstMatch_userRules (hD : D.Documented) (rules : List Rule) (c : Connection) (d : String) :
    firstMatch (ruleMatches c) DefaultRule.outbound
        ((rules.map (userRule D)).filter D.ruleIsValid) d =
      firstMatch (userMatches D c) routeOutbound rules d := by
  rw [firstMatch_filter, firstMatch_map]
  refine firstMatch_congr (fun r _ => ?_) fun r _ _ => rfl
  rw [Function.comp_apply, ruleIsValid_userRule hD, ruleMatches_userRule, ← Bool.and_assoc]
  rfl

lemma firstMatch_routeRules (hD : D.Documented) (opt : ConfigOptions) (c : Connection)
    (mainProxyTag : String) :
    firstMatch (ruleMatches c) DefaultRule.outbound (routeRules D opt) mainProxyTag =
      emittedDecision D mainProxyTag opt c := by
  rw [routeRules, firstMatch_append, firstMatch_append, firstMatch_append,
    firstMatch_builtinRules, firstMatch_userRules hD, firstMatch_adsRules, firstMatch_regionRules]
  rfl

/-- Where a document sends a connection. -/
theorem routeDecision_eq (hD : D.Documented) {env : BuildEnv} {opt : ConfigOptions}
    {input out : Options} {g g' : Globals}
    (h : buildConfig D env opt input g = (.ret (.ok out), g')) (c : Connection) :
    out.route.map (routeDecision · c) =
      some (emittedDecision D g.outboundMainProxyTag opt c) := by
  obtain ⟨b⟩ := buildConfig_ok h
  rw [b.route_eq, Option.map_some, routeDecision, firstMatch_routeRules hD]

/-! ### The policy and the emitted rules -/

/-- The first user rule that matches, if there is one, bypasses or blocks. -/
def FirstRuleIsServed (D : Deps) (opt : ConfigOptions) (c : Connection) : Prop :=
  ∀ r, opt.rules.find? (userMatches D c) = some r → r.outbound = "bypass" ∨ r.outbound = "block"

lemma defaultTarget_ne_empty {mainProxyTag : String} (h : mainProxyTag ≠ "") (opt : ConfigOptions)
    (c : Connection) : defaultTarget mainProxyTag opt c ≠ "" := by
  simp only [defaultTarget]
  split_ifs
  · decide
  · decide
  · exact h

lemma userTarget_ne_empty {mainProxyTag : String} (h : mainProxyTag ≠ "") (r : Rule) :
    userTarget mainProxyTag r ≠ "" := by
  simp only [userTarget]
  split_ifs
  · decide
  · decide
  · exact h

/-- A known rule that matches first among all rules matches first among the known ones. -/
lemma find_isKnown {rules : List Rule} {p : Rule → Bool} {r : Rule} (h : rules.find? p = some r)
    (hr : isKnown r = true) : (rules.filter isKnown).find? p = some r := by
  rw [List.find?_filter]
  refine find_of_imp (fun q hq => ?_) h ?_
  · simp only [Bool.decide_and, Bool.decide_eq_true, Bool.and_eq_true] at hq
    exact hq.2
  · simp [hr, List.find?_some h]

/-- A known rule goes where the policy sends it unless its outbound is `proxy`. -/
lemma routeOutbound_eq_userTarget_iff {mainProxyTag : String}
    (hdns : mainProxyTag ≠ outboundDNSTag) {r : Rule} (hr : isKnown r = true) :
    routeOutbound r = userTarget mainProxyTag r ↔ r.outbound = "bypass" ∨ r.outbound = "block" := by
  simp only [routeOutbound, userTarget]
  split_ifs with hbypass hblock hproxy
  · exact iff_of_true rfl (Or.inl hbypass)
  · exact iff_of_true rfl (Or.inr hblock)
  · exact iff_of_false hdns.symm (not_or.mpr ⟨hbypass, hblock⟩)
  · simp [isKnown, hbypass, hblock, hproxy] at hr

/-- An unknown rule is emitted without an outbound. -/
lemma routeOutbound_of_unknown {r : Rule} (hr : isKnown r = false) : routeOutbound r = "" := by
  simp only [isKnown, Bool.or_eq_false_iff, decide_eq_false_iff_not] at hr
  obtain ⟨⟨hbypass, hblock⟩, hproxy⟩ := hr
  rw [routeOutbound, if_neg hbypass, if_neg hblock, if_neg hproxy]

/-- Behind the built-in rules the emitted rules follow the policy when the first user rule that
matches bypasses or blocks, and at no other rule. -/
lemma firstMatch_eq_policy_iff {mainProxyTag : String} (hne : mainProxyTag ≠ "")
    (hdns : mainProxyTag ≠ outboundDNSTag) (opt : ConfigOptions) (c : Connection) :
    firstMatch (userMatches D c) routeOutbound opt.rules (defaultTarget mainProxyTag opt c) =
        userPolicy D mainProxyTag opt c ↔
      FirstRuleIsServed D opt c := by
  simp only [FirstRuleIsServed, userPolicy]
  cases hfind : opt.rules.find? (userMatches D c) with
  | none =>
    have hknown : (opt.rules.filter isKnown).find? (userMatches D c) = none := by
      rw [List.find?_filter]
      refine find_none_of_imp (fun r hr => ?_) hfind
      simp only [Bool.decide_and, Bool.decide_eq_true, Bool.and_eq_true] at hr
      exact hr.2
    rw [firstMatch_of_none hfind, hknown]
    exact iff_of_true rfl fun r hr => by cases hr
  | some r =>
    simp only [firstMatch_of_find hfind, Option.some.injEq, forall_eq']
    cases hr : isKnown r with
    | true =>
      rw [find_isKnown hfind hr]
      exact routeOutbound_eq_userTarget_iff hdns hr
    | false =>
      rw [routeOutbound_of_unknown hr]
      refine iff_of_false ?_ ?_
      · split
        · exact (userTarget_ne_empty hne _).symm
        · exact (defaultTarget_ne_empty hne opt c).symm
      · rintro (hbypass | hblock)
        · simp [isKnown, hbypass] at hr
        · simp [isKnown, hblock] at hr

/-! ### User rules with an unknown outbound -/

/-- No rule of the document comes from a user rule with an unknown outbound. -/
def EmitsKnownRules (D : Deps) (opt : ConfigOptions) (out : Options) : Prop :=
  ∀ r ∈ opt.rules, isKnown r = false →
    ∀ route, out.route = some route → userRule D r ∉ route.rules

lemma outbound_of_mem_builtinRules {opt : ConfigOptions} {r : DefaultRule}
    (h : r ∈ builtinRules opt) : r.outbound = outboundDNSTag ∨ r.outbound = outboundBypassTag := by
  simp only [builtinRules, List.mem_append, List.mem_cons, List.not_mem_nil, or_false] at h
  rcases h with ((rfl | rfl) | h) | h
  · exact .inl rfl
  · exact .inl rfl
  · split at h
    · exact .inr (congrArg DefaultRule.outbound (List.mem_singleton.mp h))
    · cases h
  · split at h
    · exact .inr (congrArg DefaultRule.outbound (List.mem_singleton.mp h))
    · cases h

lemma outbound_of_mem_adsRules {opt : ConfigOptions} {r : DefaultRule} (h : r ∈ adsRules opt) :
    r.outbound = outboundBlockTag := by
  unfold adsRules at h
  split at h
  · exact congrArg DefaultRule.outbound (List.mem_singleton.mp h)
  · cases h

lemma outbound_of_mem_regionRules {opt : ConfigOptions} {r : DefaultRule}
    (h : r ∈ regionRules opt) : r.outbound = outboundDirectTag := by
  unfold regionRules at h
  split at h
  · simp only [List.mem_cons, List.not_mem_nil, or_false] at h
    rcases h with rfl | rfl <;> rfl
  · cases h

/-- Of the emitted rules those of the user alone can lack an outbound. -/
lemma userRule_mem_routeRules_iff (hD : D.Documented) (opt : ConfigOptions) {r : Rule}
    (hr : r ∈ opt.rules) (hunknown : isKnown r = false) :
    userRule D r ∈ routeRules D opt ↔ hasCondition D r = true := by
  have hempty : (userRule D r).outbound = "" := routeOutbound_of_unknown hunknown
  rw [← ruleIsValid_userRule hD]
  constructor
  · intro h
    simp only [routeRules, List.mem_append] at h
    rcases h with ((h | h) | h) | h
    · rcases outbound_of_mem_builtinRules h with htag | htag <;>
        exact absurd (hempty.symm.trans htag) (by decide)
    · exact (List.mem_filter.mp h).2
    · exact absurd (hempty.symm.trans (outbound_of_mem_adsRules h)) (by decide)
    · exact absurd (hempty.symm.trans (outbound_of_mem_regionRules h)) (by decide)
  · intro hvalid
    simp only [routeRules, List.mem_append]
    exact .inl (.inl (.inr (List.mem_filter.mpr ⟨List.mem_map_of_mem hr, hvalid⟩)))

/-- A document has a rule for each user rule with an unknown outbound that has a condition. -/
lemma emitsKnownRules_iff (hD : D.Documented) {env : BuildEnv} {opt : ConfigOptions}
    {input out : Options} {g g' : Globals}
    (h : buildConfig D env opt input g = (.ret (.ok out), g')) :
    EmitsKnownRules D opt out ↔ ∀ r ∈ opt.rules, hasCondition D r = true → isKnown r = true := by
  obtain ⟨b⟩ := buildConfig_ok h
  simp only [EmitsKnownRules, b.route_eq, Option.some.injEq, forall_eq']
  refine forall₂_congr fun r hr => ?_
  cases hr' : isKnown r with
  | true => simp
  | false => simp [userRule_mem_routeRules_iff hD opt hr hr']

/-! ### The routing of a document -/

/-- A document sends a connection where the policy sends it, and the user rules that the policy
ignores emit no rule. -/
structure RoutesAsIntended (D : Deps) (mainProxyTag : String) (opt : ConfigOptions) (out : Options)
    (c : Connection) : Prop where
  decides : out.route.map (routeDecision · c) = some (routePolicy D mainProxyTag opt c)
  emits : EmitsKnownRules D opt out

/-- A call of any run sends a connection where the policy sends it exactly when the connection is
DNS traffic or bypasses the proxy anyway, or no user rule with outbound `proxy` or with an unknown
outbound is the first to match it. -/
theorem routeDecision_eq_policy_iff (hD : D.Documented) (calls : List Call) {env : BuildEnv}
    {opt : ConfigOptions} {input out : Options} {g' : Globals}
    (h : buildConfig D env opt input (runCalls D calls {}) = (.ret (.ok out), g'))
    (c : Connection) :
    out.route.map (routeDecision · c) =
        some (routePolicy D (runCalls D calls {}).outboundMainProxyTag opt c) ↔
      isDNSTraffic c = true ∨ bypasses opt c = true ∨ FirstRuleIsServed D opt c := by
  -- in a run from a new process the main proxy is a real outbound other than `dns-out`
  have hmain : (runCalls D calls {}).outboundMainProxyTag ≠ "" ∧
      (runCalls D calls {}).outboundMainProxyTag ≠ outboundDNSTag := by
    rcases runCalls_mainProxyTag (D := D) calls with htag | htag <;> rw [htag] <;> decide
  rw [routeDecision_eq hD h, Option.some.injEq, emittedDecision, routePolicy]
  by_cases hdns : isDNSTraffic c = true
  · simp only [hdns, if_true, true_or]
  · by_cases hbypass : bypasses opt c = true
    · simp only [hdns, hbypass, if_true, true_or, or_true, Bool.false_eq_true, if_false]
    · simp only [hdns, hbypass, Bool.false_eq_true, if_false, false_or]
      exact firstMatch_eq_policy_iff hmain.1 hmain.2 opt c

/-- A call of any run routes a connection as intended exactly when every user rule with a condition
has one of the three outbounds, and the connection is DNS traffic or bypasses the proxy anyway, or
the first user rule that matches it does not have outbound `proxy`. -/
theorem routesAsIntended_iff (hD : D.Documented) (calls : List Call) {env : BuildEnv}
    {opt : ConfigOptions} {input out : Options} {g' : Globals}
    (h : buildConfig D env opt input (runCalls D calls {}) = (.ret (.ok out), g'))
    (c : Connection) :
    RoutesAsIntended D (runCalls D calls {}).outboundMainProxyTag opt out c ↔
      (isDNSTraffic c = true ∨ bypasses opt c = true ∨ FirstRuleIsServed D opt c) ∧
        ∀ r ∈ opt.rules, hasCondition D r = true → isKnown r = true := by
  rw [← routeDecision_eq_policy_iff hD calls h, ← emitsKnownRules_iff hD h]
  exact ⟨fun hroutes => ⟨hroutes.decides, hroutes.emits⟩, fun ⟨hdecides, hemits⟩ =>
    ⟨hdecides, hemits⟩⟩

/-- Options with one user rule. -/
def withRule (r : Rule) : ConfigOptions := { defaultConfigOptions with rules := [r] }

lemma buildConfig_withRule (r : Rule) :
    isDocument (buildConfig Reference.deps {} (withRule r) {} {}).1 = true := rfl

/-- Block the domains under `ir`. -/
def blockRule : Rule := { domains := "domain:ir", outbound := "block" }

/-- The rule is served. -/
theorem routesAsIntended_blockRule :
    RoutesAsIntended Reference.deps outboundSelectTag (withRule blockRule)
      (documentOf (buildConfig Reference.deps {} (withRule blockRule) {} {}).1)
      { name := { domainSuffix := (· == "ir") }, port := 443 } := by
  refine (routesAsIntended_iff Reference.deps_documented []
    (Prod.ext (eq_documentOf (buildConfig_withRule blockRule)) rfl) _).mpr
      ⟨Or.inr (Or.inr fun r hr => Or.inr ?_), fun r hr _ => ?_⟩
  · rw [List.mem_singleton.mp (List.mem_of_find?_eq_some hr)]
    rfl
  · rw [List.mem_singleton.mp hr]
    rfl

/-- A rule that sends port 443 to the proxy sends it to the DNS outbound. -/
theorem not_routesAsIntended :
    ¬ ∀ D : Deps, D.Documented → ∀ (calls : List Call) (env : BuildEnv) (opt : ConfigOptions)
      (input out : Options) (g' : Globals),
      buildConfig D env opt input (runCalls D calls {}) = (.ret (.ok out), g') →
        ∀ c : Connection,
          RoutesAsIntended D (runCalls D calls {}).outboundMainProxyTag opt out c := by
  intro h
  have hroutes := h Reference.deps Reference.deps_documented [] {}
    (withRule { port := "443", outbound := "proxy" }) {} _ _
    (Prod.ext (eq_documentOf (buildConfig_withRule _)) rfl) { port := 443 }
  exact absurd hroutes.decides (by decide)

end HiddifyCore.Routing
