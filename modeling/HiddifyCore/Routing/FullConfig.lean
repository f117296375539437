import HiddifyCore.Routing.References

/-!
# The full configuration

With `EnableFullConfig` a call starts from the inbounds, the DNS and the route of the input.
`setInbound` appends to the first; `setDns` and `setRoutingOptions` then assign the other two, so
that they are those of the options whatever the input had.
-/

namespace HiddifyCore.Routing

open GoLib Singbox Config

variable {D : Deps}

def dnsServersOf (options : Options) : List DNSServerOptions := (options.dns.getD {}).servers

def dnsRulesOf (options : Options) : List DefaultDNSRule := (options.dns.getD {}).rules

def routeRulesOf (options : Options) : List DefaultRule := (options.route.getD {}).rules

def ruleSetsOf (options : Options) : List RuleSet := (options.route.getD {}).ruleSet

/-- The sections of the input occur in the output, in the same order. -/
structure KeepsFullConfig (input out : Options) : Prop where
  inbounds : input.inbounds.Sublist out.inbounds
  dnsServers : (dnsServersOf input).Sublist (dnsServersOf out)
  dnsRules : (dnsRulesOf input).Sublist (dnsRulesOf out)
  routeRules : (routeRulesOf input).Sublist (routeRulesOf out)
  ruleSets : (ruleSetsOf input).Sublist (ruleSetsOf out)

/-- The DNS rules that the options prescribe, behind the one for the servers of the outbounds. -/
def optionDNSRules (D : Deps) (opt : ConfigOptions) : List DefaultDNSRule :=
  (if opt.enableDNSRouting then (Config.dnsRules D opt).filter D.dnsRuleIsValid else []) ++
    if opt.enableFakeDNS then [fakeDnsRule] else []

/-- Nothing in the DNS and the route of the input is its own: the options prescribe all of it. -/
structure NothingOwn (D : Deps) (env : BuildEnv) (opt : ConfigOptions) (input : Options) :
    Prop where
  dnsServers : (dnsServersOf input).Sublist (Config.dnsServers opt ++ fakeServers opt)
  dnsRules : (dnsRulesOf input).Sublist
    (forceDirectRules D env.keyOrder (forceDirectKeys D env opt input) ++ optionDNSRules D opt)
  routeRules : (routeRulesOf input).Sublist (Config.routeRules D opt)
  ruleSets : (ruleSetsOf input).Sublist (Config.ruleSets opt)

/-! ### The sections of a document -/

lemma addForceDirect_inbounds (order : MapOrder) (opt : ConfigOptions) (domains : List String)
    (options : Options) :
    (addForceDirect D order opt domains options).inbounds = options.inbounds := by
  unfold addForceDirect
  dsimp only
  split_ifs <;> rfl

lemma setFakeDns_inbounds (opt : ConfigOptions) (options : Options) :
    (setFakeDns opt options).inbounds = options.inbounds := by
  simp only [setFakeDns]
  split_ifs <;> rfl

lemma setRoutingOptions_inbounds (tag : String) (opt : ConfigOptions) (options : Options) :
    (setRoutingOptions D tag opt options).inbounds = options.inbounds := by
  unfold setRoutingOptions
  dsimp only
  split_ifs <;> rfl

lemma setClashAPI_inbounds (opt : ConfigOptions) (options : Options) :
    (setClashAPI opt options).inbounds = options.inbounds := by
  simp only [setClashAPI]
  split_ifs <;> rfl

variable {env : BuildEnv} {opt : ConfigOptions} {input out : Options} {tag : String}

/-- The inbounds of the input come first. -/
lemma inbounds_prefix (b : Built D env opt input tag out) (hfull : opt.enableFullConfig = true) :
    ∃ added, out.inbounds = input.inbounds ++ added := by
  rw [b.out_eq, assembleOutbounds, addForceDirect_inbounds]
  simp only [modifyDNS, prepared]
  rw [setFakeDns_inbounds, setRoutingOptions_inbounds]
  simp only [setDns, setInbound, setLog, setClashAPI_inbounds, hfull, if_true, List.append_assoc]
  exact ⟨_, rfl⟩

/-- What the input had of the other sections is gone. -/
lemma sections_eq (b : Built D env opt input tag out) :
    dnsServersOf out = Config.dnsServers opt ++ fakeServers opt ∧
      dnsRulesOf out = forceDirectRules D env.keyOrder (forceDirectKeys D env opt input) ++
        optionDNSRules D opt ∧
      routeRulesOf out = Config.routeRules D opt ∧ ruleSetsOf out = Config.ruleSets opt := by
  obtain ⟨dns, hdns, -, hrules⟩ := b.answersBy
  refine ⟨?_, ?_, ?_, ?_⟩
  · rw [dnsServersOf, hdns, Option.getD_some, dns_servers b hdns]
  · rw [dnsRulesOf, hdns, Option.getD_some, hrules]
    rfl
  · rw [routeRulesOf, b.route_eq, Option.getD_some]
  · rw [ruleSetsOf, b.route_eq, Option.getD_some]

lemma NothingOwn.keeps (h : NothingOwn D env opt input) (b : Built D env opt input tag out)
    (hfull : opt.enableFullConfig = true) : KeepsFullConfig input out := by
  obtain ⟨hservers, hdns, hroute, hsets⟩ := sections_eq b
  obtain ⟨added, hinbounds⟩ := inbounds_prefix b hfull
  exact {
    inbounds := hinbounds ▸ List.sublist_append_left _ _
    dnsServers := hservers ▸ h.dnsServers
    dnsRules := hdns ▸ h.dnsRules
    routeRules := hroute ▸ h.routeRules
    ruleSets := hsets ▸ h.ruleSets }

/-- The full configuration is kept exactly when its DNS and its route have nothing of their own. -/
theorem keepsFullConfig_iff {g g' : Globals}
    (h : buildConfig D env opt input g = (.ret (.ok out), g'))
    (hfull : opt.enableFullConfig = true) :
    KeepsFullConfig input out ↔ NothingOwn D env opt input := by
  obtain ⟨b⟩ := buildConfig_ok h
  obtain ⟨hservers, hdns, hroute, hsets⟩ := sections_eq b
  constructor
  · intro hkeeps
    exact {
      dnsServers := hservers ▸ hkeeps.dnsServers
      dnsRules := hdns ▸ hkeeps.dnsRules
      routeRules := hroute ▸ hkeeps.routeRules
      ruleSets := hsets ▸ hkeeps.ruleSets }
  · intro hnothing
    exact hnothing.keeps b hfull

/-- So it is kept whatever the options are when it has no DNS and no route. -/
theorem keepsFullConfig_of_inbounds {g g' : Globals}
    (h : buildConfig D env opt input g = (.ret (.ok out), g'))
    (hfull : opt.enableFullConfig = true) (hdns : input.dns = none) (hroute : input.route = none) :
    KeepsFullConfig input out := by
  obtain ⟨b⟩ := buildConfig_ok h
  refine NothingOwn.keeps ⟨?_, ?_, ?_, ?_⟩ b hfull
  · simp [dnsServersOf, hdns]
  · simp [dnsRulesOf, hdns]
  · simp [routeRulesOf, hroute]
  · simp [ruleSetsOf, hroute]

def fullOptions : ConfigOptions := { enableFullConfig := true }

/-- An input with an inbound and these route rules. -/
def fullInput (rules : List DefaultRule) : Options where
  inbounds := [{ type := .mixed, tag := "own-in" }]
  route := some { rules := rules }

/-- Its DNS server and its rule are among those that the options prescribe. -/
def prescribedInput : Options :=
  { fullInput [{ port := [53], outbound := "dns-out" }] with
    dns := some { servers := [{ tag := "dns-block", address := "rcode://success" }] } }

theorem keepsFullConfig_inbound :
    KeepsFullConfig prescribedInput
      (documentOf (buildConfig Reference.deps {} fullOptions prescribedInput {}).1) := by
  have hbuilt : isDocument
      (buildConfig Reference.deps {} fullOptions prescribedInput {}).1 = true := by decide
  refine (keepsFullConfig_iff (Prod.ext (eq_documentOf hbuilt) rfl) rfl).mpr ?_
  exact ⟨by decide, List.nil_sublist _, by decide, List.nil_sublist _⟩

/-- A route rule of the user's own is lost. -/
theorem not_keepsFullConfig :
    ¬ ∀ (D : Deps) (env : BuildEnv) (opt : ConfigOptions) (input out : Options) (g g' : Globals),
      opt.enableFullConfig = true → buildConfig D env opt input g = (.ret (.ok out), g') →
        KeepsFullConfig input out := by
  intro h
  have hbuilt : isDocument (buildConfig Reference.deps {} fullOptions
      (fullInput [{ domain := ["own.example"], outbound := "direct" }]) {}).1 = true := by decide
  have hkeeps := h _ _ _ _ _ _ _ rfl (Prod.ext (eq_documentOf hbuilt) rfl)
  exact absurd hkeeps.routeRules (by decide)

end HiddifyCore.Routing
