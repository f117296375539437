import HiddifyCore.GoLib.Simulate
import HiddifyCore.Routing.ForceDirect

/-!
# The order of the keys

`addForceDirect` joins the keys of a map in the order in which `range` meets them, which Go leaves
open and changes from one loop to the next. Two calls of `BuildConfig` that differ in nothing else
therefore return different documents: the lists of the prepended DNS rule come in another order.
That is all there is to it. A rule matches the same queries in any order of its items, so the two
documents route every connection and answer every query alike.
-/

namespace HiddifyCore.Routing

open GoLib GoLib.Strings Singbox Config

/-! ### Rules in another order -/

/-- The same DNS rule, with the items of its lists in another order. -/
structure Reordered (r r' : DefaultDNSRule) : Prop where
  domain : r.domain.Perm r'.domain
  domainSuffix : r.domainSuffix.Perm r'.domainSuffix
  domainKeyword : r.domainKeyword.Perm r'.domainKeyword
  domainRegex : r.domainRegex.Perm r'.domainRegex
  geosite : r.geosite.Perm r'.geosite
  rest : r' = { r with
    domain := r'.domain, domainSuffix := r'.domainSuffix, domainKeyword := r'.domainKeyword,
    domainRegex := r'.domainRegex, geosite := r'.geosite }

namespace Reordered

variable {r r' : DefaultDNSRule}

lemma refl (r : DefaultDNSRule) : Reordered r r :=
  ⟨.refl _, .refl _, .refl _, .refl _, .refl _, rfl⟩

lemma server_eq (h : Reordered r r') : r.server = r'.server := by rw [h.rest]

lemma dnsHasName_eq (h : Reordered r r') : dnsHasName r = dnsHasName r' := by
  simp only [dnsHasName, h.domain.isEmpty_eq, h.domainSuffix.isEmpty_eq,
    h.domainKeyword.isEmpty_eq, h.domainRegex.isEmpty_eq, h.geosite.isEmpty_eq]

lemma dnsMeetsName_eq (h : Reordered r r') (n : Name) : dnsMeetsName n r = dnsMeetsName n r' := by
  simp only [dnsMeetsName, h.domain.any_eq, h.domainSuffix.any_eq, h.domainKeyword.any_eq,
    h.domainRegex.any_eq, h.geosite.any_eq]

lemma dnsRuleMatches_eq (h : Reordered r r') (q : Query) :
    dnsRuleMatches q r = dnsRuleMatches q r' := by
  have hinbound : r.inbound = r'.inbound := by rw [h.rest]
  have hruleSet : r.ruleSet = r'.ruleSet := by rw [h.rest]
  simp only [dnsRuleMatches, h.dnsHasName_eq, h.dnsMeetsName_eq, hinbound, hruleSet]

end Reordered

/-- Keys that are met in another order. -/
lemma reordered_forceDirectRule (D : Deps) {keys keys' : List String} (h : keys.Perm keys') :
    Reordered (forceDirectRule D keys) (forceDirectRule D keys') := by
  rcases keys.eq_nil_or_concat with rfl | ⟨init, last, rfl⟩
  · rw [List.nil_perm.mp h]
    exact .refl _
  · have hne : init.concat last ≠ [] := by simp
    have hne' : keys' ≠ [] := fun hnil => hne (List.perm_nil.mp (hnil ▸ h))
    rw [forceDirectRule_eq hne, forceDirectRule_eq hne']
    exact ⟨h.flatMap_right _, h.flatMap_right _, h.flatMap_right _, h.flatMap_right _,
      h.flatMap_right _, rfl⟩

/-! ### Documents in another order -/

/-- The same rules, but for the order of the items of the first. -/
inductive SameButFirst : List DefaultDNSRule → List DefaultDNSRule → Prop where
  | same (rules : List DefaultDNSRule) : SameButFirst rules rules
  | first {r r' : DefaultDNSRule} (h : Reordered r r') (rules : List DefaultDNSRule) :
    SameButFirst (r :: rules) (r' :: rules)

lemma SameButFirst.forall₂ {rules rules' : List DefaultDNSRule} (h : SameButFirst rules rules') :
    List.Forall₂ Reordered rules rules' := by
  have hrefl (rules : List DefaultDNSRule) : List.Forall₂ Reordered rules rules :=
    List.forall₂_same.mpr fun r _ => .refl r
  cases h with
  | same => exact hrefl _
  | first h rules => exact .cons h (hrefl rules)

/-- The same DNS options, with the items of the first rule in another order. -/
structure SameDNS (dns dns' : Singbox.DNSOptions) : Prop where
  rules : SameButFirst dns.rules dns'.rules
  rest : dns' = { dns with rules := dns'.rules }

/-- The same document but for that. -/
structure SameUpToOrder (out out' : Options) : Prop where
  dns : Option.Rel SameDNS out.dns out'.dns
  rest : out' = { out with dns := out'.dns }

/-- The two documents route every connection and answer every query alike. -/
def ActAlike (out out' : Options) : Prop :=
  (∀ c, out.route.map (routeDecision · c) = out'.route.map (routeDecision · c)) ∧
    ∀ q, out.dns.map (dnsDecision · q) = out'.dns.map (dnsDecision · q)

lemma SameDNS.refl (dns : Singbox.DNSOptions) : SameDNS dns dns := ⟨.same _, rfl⟩

lemma SameDNS.dnsDecision_eq {dns dns' : Singbox.DNSOptions} (h : SameDNS dns dns') (q : Query) :
    dnsDecision dns q = dnsDecision dns' q := by
  have hfinal : dns.final = dns'.final := by rw [h.rest]
  rw [dnsDecision, dnsDecision, hfinal]
  exact firstMatch_forall₂ h.rules.forall₂ (fun _ _ hr => hr.dnsRuleMatches_eq q)
    fun _ _ hr => hr.server_eq

lemma SameUpToOrder.refl (out : Options) : SameUpToOrder out out := by
  refine ⟨?_, rfl⟩
  rcases out.dns with - | dns
  · exact .none
  · exact .some (.refl dns)

lemma SameUpToOrder.actAlike {out out' : Options} (h : SameUpToOrder out out') :
    ActAlike out out' := by
  have hroute : out.route = out'.route := by rw [h.rest]
  refine ⟨fun c => by rw [hroute], fun q => ?_⟩
  have hdns := h.dns
  generalize out.dns = dns, out'.dns = dns' at hdns ⊢
  cases hdns with
  | none => rfl
  | some hdns => exact congrArg some (hdns.dnsDecision_eq q)

section Build

variable (D : Deps)

lemma sameUpToOrder_addForceDirect (order order' : MapOrder) (opt : ConfigOptions)
    (domains : List String) (options : Options) :
    SameUpToOrder (addForceDirect D order opt domains options)
      (addForceDirect D order' opt domains options) := by
  simp only [addForceDirect]
  split_ifs with hkeys
  · set keys := forceDirectDomains D opt domains
    have hperm : (order.toFun keys).Perm (order'.toFun keys) :=
      (order.perm keys).trans (order'.perm keys).symm
    refine ⟨?_, rfl⟩
    simp only [modifyDNS]
    rcases options.dns with - | dns
    · exact .none
    · exact .some ⟨.first (reordered_forceDirectRule D hperm) _, rfl⟩
  · exact .refl _

/-- The results of two calls: the same error, or documents that differ in order. -/
def SameResult : Except String Options → Except String Options → Prop
  | .ok out, .ok out' => SameUpToOrder out out' ∧ ActAlike out out'
  | .error e, .error e' => e = e'
  | _, _ => False

lemma setOutbounds_simulates (env : BuildEnv) (order : MapOrder) (input : List Outbound)
    (opt : ConfigOptions) (options : Options) :
    Go.Simulates (· = ·) SameResult (setOutbounds D env input opt options)
      (setOutbounds D { env with keyOrder := order } input opt options) := by
  refine .bind_eq (.refl _) fun _ => .bind_eq (.refl _) fun warp => ?_
  rcases warp with e | warp
  · exact .pure rfl
  · refine .bind_eq (.refl _) fun acc => ?_
    rcases acc with e | acc
    · exact .pure rfl
    · have hsame := sameUpToOrder_addForceDirect D env.keyOrder order (scanWarp input opt)
        acc.directDNSDomains
      exact .pure ⟨hsame _, (hsame _).actAlike⟩

/-- Whatever the order in which the keys are met, a call ends in the same way and leaves the same
package variables, and a document it returns acts like the one of any other order. -/
theorem buildConfig_anyKeyOrder (env : BuildEnv) (order : MapOrder) (opt : ConfigOptions)
    (input : Options) :
    Go.Simulates (· = ·) SameResult (buildConfig D env opt input)
      (buildConfig D { env with keyOrder := order } opt input) := by
  refine .bind_eq (.refl _) fun _ => .get_bind ?_
  rintro g _ rfl
  exact setOutbounds_simulates D env order _ _ _

end Build

end HiddifyCore.Routing
