import HiddifyCore.Routing.UserRules
import HiddifyCore.Config.Reference

/-!
# Fields of a user rule that vanish

The loops of `MakeRule` skip the items that they do not recognise. When all the items of one field
are skipped and another field survives, the emitted rule is broader than the user rule.
-/

namespace HiddifyCore.Routing

open GoLib GoLib.Strings Singbox Config

variable {D : Deps}

/-- The prefixes that `makeDomainRule` recognises. -/
def domainPrefixes : List String := ["geosite:", "full:", "domain:", "regexp:", "keyword:"]

/-- Some item of the domain list has one of the prefixes. -/
def NamesDomain (r : Rule) : Prop :=
  ∃ item ∈ split r.domains ',', ∃ p ∈ domainPrefixes, hasPrefix item p = true

/-- Some item of the port list is a range or a number. -/
def NamesPort (r : Rule) : Prop :=
  ∃ item ∈ split r.port ',', contains item ":" = true ∨ (atoi item).isSome = true

def SaysNothing (r : Rule) : Prop :=
  ¬ NamesDomain r ∧ r.ip = "" ∧ ¬ NamesPort r ∧ r.network = "" ∧ r.protocol = ""

/-- The rule says nothing, or something in each of the two fields whose items can be skipped. -/
def IsReadable (r : Rule) : Prop :=
  SaysNothing r ∨ (r.domains = "" ∨ NamesDomain r) ∧ (r.port = "" ∨ NamesPort r)

instance (r : Rule) : Decidable (NamesDomain r) :=
  inferInstanceAs (Decidable (∃ item ∈ split r.domains ',', ∃ p ∈ domainPrefixes,
    hasPrefix item p = true))

instance (r : Rule) : Decidable (NamesPort r) :=
  inferInstanceAs (Decidable (∃ item ∈ split r.port ',',
    contains item ":" = true ∨ (atoi item).isSome = true))

instance (r : Rule) : Decidable (SaysNothing r) :=
  inferInstanceAs (Decidable (¬ NamesDomain r ∧ r.ip = "" ∧ ¬ NamesPort r ∧ r.network = "" ∧
    r.protocol = ""))

instance (r : Rule) : Decidable (IsReadable r) :=
  inferInstanceAs (Decidable (SaysNothing r ∨
    (r.domains = "" ∨ NamesDomain r) ∧ (r.port = "" ∨ NamesPort r)))

/-- Each field that is not empty has a condition in its group. -/
structure KeepsFields (r : Rule) (rule : DefaultRule) : Prop where
  domains (h : r.domains ≠ "") : rule.geosite ≠ [] ∨ rule.domain ≠ [] ∨ rule.domainSuffix ≠ [] ∨
    rule.domainRegex ≠ [] ∨ rule.domainKeyword ≠ []
  ip (h : r.ip ≠ "") : rule.geoIP ≠ [] ∨ rule.ipCIDR ≠ []
  port (h : r.port ≠ "") : rule.port ≠ [] ∨ rule.portRange ≠ []
  network (h : r.network ≠ "") : rule.network ≠ []
  protocol (h : r.protocol ≠ "") : rule.protocol ≠ []

/-- The connection meets an item of each group that is not empty. sing-box asks for the name or
the address. -/
structure MeetsGroups (D : Deps) (c : Connection) (r : Rule) : Prop where
  destination (h : r.domains ≠ "" ∨ r.ip ≠ "") :
    (domainItems D r.domains).any (·.matches? c.name) = true ∨
      (ipItems r.ip).any (·.matches? c) = true
  port (h : r.port ≠ "") : (portItems r.port).any (·.matches? c) = true
  network (h : r.network ≠ "") : r.network = c.network
  protocol (h : r.protocol ≠ "") : c.protocol ∈ split r.protocol ','

/-- The connection meets an item of each field that is not empty: the name and the address. -/
structure MeetsFields (D : Deps) (c : Connection) (r : Rule) : Prop extends MeetsGroups D c r where
  domains (h : r.domains ≠ "") : (domainItems D r.domains).any (·.matches? c.name) = true
  ip (h : r.ip ≠ "") : (ipItems r.ip).any (·.matches? c) = true

/-! ### Which fields have items -/

lemma domainItem_isSome (item : String) :
    (domainItem D item).isSome = true ↔ ∃ p ∈ domainPrefixes, hasPrefix item p = true := by
  simp only [domainPrefixes, List.mem_cons, List.not_mem_nil, or_false, exists_eq_or_imp,
    exists_eq_left, domainItem]
  split_ifs <;> simp_all

lemma domainItems_ne_nil (r : Rule) : domainItems D r.domains ≠ [] ↔ NamesDomain r := by
  simp only [domainItems, NamesDomain, ne_eq, List.filterMap_eq_nil_iff, not_forall, exists_prop,
    ← domainItem_isSome (D := D), Option.isSome_iff_ne_none]

lemma ipItems_ne_nil (list : String) : ipItems list ≠ [] ↔ list ≠ "" := by
  simp only [ipItems]
  split_ifs with h
  · simp [h, split_ne_nil]
  · simp [h]

lemma protocolItems_ne_nil (list : String) : protocolItems list ≠ [] ↔ list ≠ "" := by
  simp only [protocolItems]
  split_ifs with h
  · simp [h, split_ne_nil]
  · simp [h]

lemma portItem_isSome (item : String) :
    (portItem item).isSome = true ↔ contains item ":" = true ∨ (atoi item).isSome = true := by
  simp only [portItem]
  split_ifs with h <;> simp [h]

/-- The empty string has no port items. -/
lemma ne_empty_of_namesPort {r : Rule} (h : NamesPort r) : r.port ≠ "" := by
  intro hempty
  rw [NamesPort, hempty] at h
  exact absurd h (by decide)

lemma portItems_ne_nil (r : Rule) : portItems r.port ≠ [] ↔ NamesPort r := by
  constructor
  · intro h
    simp only [portItems] at h
    split_ifs at h with hport
    · simpa only [NamesPort, ne_eq, List.filterMap_eq_nil_iff, not_forall, exists_prop,
        ← Option.isSome_iff_ne_none, portItem_isSome] using h
    · exact absurd rfl h
  · intro h
    rw [portItems, if_pos (ne_empty_of_namesPort h)]
    simpa only [NamesPort, ne_eq, List.filterMap_eq_nil_iff, not_forall, exists_prop,
      ← Option.isSome_iff_ne_none, portItem_isSome] using h

/-! ### The groups of the emitted rule -/

lemma ruleIsValid_makeRule (hD : D.Documented) (r : Rule) :
    D.ruleIsValid (r.makeRule D) = true ↔ ¬ SaysNothing r := by
  have houtbound : (r.makeRule D).outbound = "" := by rw [makeRule_eq]
  rw [hD.ruleIsValid, DefaultRule.HasCondition, houtbound]
  refine not_congr ((makeRule_eq_empty r).trans ?_)
  rw [SaysNothing, ← domainItems_ne_nil (D := D), ← portItems_ne_nil, not_not, not_not,
    not_iff_not.mp (ipItems_ne_nil r.ip), not_iff_not.mp (protocolItems_ne_nil r.protocol)]

/-- The domain list has a recognised item when one of its five fields has a condition. -/
lemma namesDomain_iff (r : Rule) :
    NamesDomain r ↔ (userRule D r).geosite ≠ [] ∨ (userRule D r).domain ≠ [] ∨
      (userRule D r).domainSuffix ≠ [] ∨ (userRule D r).domainRegex ≠ [] ∨
      (userRule D r).domainKeyword ≠ [] := by
  rw [← domainItems_ne_nil (D := D), ne_eq, ← DomainItem.fields_eq_nil, userRule, makeRule_eq]
  dsimp only
  simp only [not_and_or]
  constructor
  · rintro (h | h | h | h | h)
    exacts [.inr (.inl h), .inr (.inr (.inl h)), .inr (.inr (.inr (.inr h))),
      .inr (.inr (.inr (.inl h))), .inl h]
  · rintro (h | h | h | h | h)
    exacts [.inr (.inr (.inr (.inr h))), .inl h, .inr (.inl h), .inr (.inr (.inr (.inl h))),
      .inr (.inr (.inl h))]

lemma namesPort_iff (r : Rule) :
    NamesPort r ↔ (userRule D r).port ≠ [] ∨ (userRule D r).portRange ≠ [] := by
  rw [← portItems_ne_nil, ne_eq, ← PortItem.fields_eq_nil, userRule, makeRule_eq]
  exact not_and_or

/-- A field has a condition in its group when one of its items is recognised. -/
lemma keepsFields_userRule (r : Rule) :
    KeepsFields r (userRule D r) ↔
      (r.domains = "" ∨ NamesDomain r) ∧ (r.port = "" ∨ NamesPort r) := by
  rw [namesDomain_iff (D := D), namesPort_iff (D := D)]
  constructor
  · intro h
    exact ⟨or_iff_not_imp_left.mpr h.domains, or_iff_not_imp_left.mpr h.port⟩
  · rintro ⟨hdomains, hport⟩
    refine ⟨hdomains.resolve_left, fun hne => ?_, hport.resolve_left, fun hne => ?_, fun hne => ?_⟩
    · rw [← ipItems_ne_nil, ne_eq, ← IpItem.fields_eq_nil] at hne
      rw [userRule, makeRule_eq]
      exact not_and_or.mp hne
    · rw [userRule, makeRule_eq]
      simp [hne]
    · rw [userRule, makeRule_eq]
      exact (protocolItems_ne_nil r.protocol).mpr hne

/-! ### What the emitted rule matches -/

lemma meetsGroups_of_matches {c : Connection} {r : Rule}
    (hc : ruleMatches c (userRule D r) = true)
    (hdomains : r.domains = "" ∨ NamesDomain r) (hport : r.port = "" ∨ NamesPort r) :
    MeetsGroups D c r := by
  rw [ruleMatches_userRule] at hc
  simp only [meetsItems, meetsRest, meets, Bool.and_eq_true, Bool.or_eq_true, List.isEmpty_iff,
    decide_eq_true_eq] at hc
  obtain ⟨hitems, ⟨hportItems, hnetwork⟩, hprotocol⟩ := hc
  refine ⟨fun hne => ?_, fun hne => ?_, hnetwork.resolve_left, fun hne => ?_⟩
  · rcases hitems with (⟨hnoDomain, hnoIp⟩ | hitem) | hitem
    · have hempty : r.domains = "" :=
        hdomains.resolve_right fun h => (domainItems_ne_nil r).mpr h hnoDomain
      exact absurd hnoIp ((ipItems_ne_nil r.ip).mpr (hne.resolve_left fun h => h hempty))
    · exact Or.inl hitem
    · exact Or.inr hitem
  · exact hportItems.resolve_left ((portItems_ne_nil r).mpr (hport.resolve_left hne))
  · have hitem := hprotocol.resolve_left ((protocolItems_ne_nil r.protocol).mpr hne)
    simpa [protocolItems, hne] using hitem

/-- A connection that meets every item but those of the domain list, of which it meets those that
the name does. -/
def connectionOf (r : Rule) (n : Name) : Connection where
  network := r.network
  protocol := (split r.protocol ',').headD ""
  name := n
  geoIP := fun _ => true
  ipCIDR := fun _ => true
  port := (portItems r.port).head?.bind PortItem.port? |>.getD 0
  portRange := fun _ => true

/-- A name that meets every domain item. -/
def anyName : Name where
  domain := fun _ => true
  domainSuffix := fun _ => true
  domainKeyword := fun _ => true
  domainRegex := fun _ => true
  geosite := fun _ => true

lemma matches_connectionOf {r : Rule} {n : Name} (h : n = anyName ∨ r.ip ≠ "") :
    ruleMatches (connectionOf r n) (userRule D r) = true := by
  have hip (item : IpItem) : item.matches? (connectionOf r n) = true := by cases item <;> rfl
  have hdomain (item : DomainItem) : item.matches? anyName = true := by cases item <;> rfl
  have hitems : meetsItems D (connectionOf r n) r = true := by
    rcases hlist : ipItems r.ip with _ | ⟨item, items⟩
    · have hname : n = anyName := h.resolve_right fun hne => (ipItems_ne_nil r.ip).mpr hne hlist
      subst hname
      rcases hdomains : domainItems D r.domains with _ | ⟨item, items⟩
      · simp [meetsItems, hdomains, hlist]
      · simp [meetsItems, hdomains, connectionOf, hdomain]
    · simp [meetsItems, hlist, hip]
  have hport : meets (portItems r.port) (·.matches? (connectionOf r n)) = true := by
    rcases hlist : portItems r.port with _ | ⟨item, items⟩
    · rfl
    · rcases item with s | p <;>
        simp [meets, PortItem.matches?, connectionOf, hlist, PortItem.port?]
  have hprotocol : meets (protocolItems r.protocol) (· == (connectionOf r n).protocol) = true := by
    by_cases hempty : r.protocol = ""
    · simp [protocolItems, hempty, meets]
    · obtain ⟨item, items, hlist⟩ := List.exists_cons_of_ne_nil (split_ne_nil r.protocol ',')
      simp [protocolItems, hempty, meets, connectionOf, hlist]
  rw [ruleMatches_userRule, hitems, meetsRest, hport, hprotocol]
  simp [connectionOf]

/-- A connection that meets no domain item. -/
lemma not_any_matches_empty (items : List DomainItem) : items.any (·.matches? {}) = false := by
  rw [List.any_eq_false]
  intro item _
  cases item <;> simp [DomainItem.matches?]

/-! ### The emitted rules -/

/-- No field of a valid rule vanishes, and the emitted rule matches nothing that fails one of its
groups, exactly when the rule is readable. Nothing that fails one of the fields is matched exactly
when it does not also have both domains and addresses, which sing-box takes as alternatives. -/
theorem keepsFields_iff (hD : D.Documented) (r : Rule) :
    ((D.ruleIsValid (r.makeRule D) = true → KeepsFields r (userRule D r) ∧
        ∀ c, ruleMatches c (userRule D r) = true → MeetsGroups D c r) ↔ IsReadable r) ∧
      ((D.ruleIsValid (r.makeRule D) = true →
          ∀ c, ruleMatches c (userRule D r) = true → MeetsFields D c r) ↔
        IsReadable r ∧ (SaysNothing r ∨ r.domains = "" ∨ r.ip = "")) := by
  rw [ruleIsValid_makeRule hD, IsReadable, keepsFields_userRule]
  by_cases hnothing : SaysNothing r
  · simp only [hnothing, not_true_eq_false, false_imp_iff, true_or, and_self]
  simp only [hnothing, not_false_eq_true, forall_const, false_or]
  refine ⟨⟨And.left, fun h => ⟨h, fun c hc => meetsGroups_of_matches hc h.1 h.2⟩⟩, ?_, ?_⟩
  · intro h
    have hall := h _ (matches_connectionOf (Or.inl rfl))
    refine ⟨⟨or_iff_not_imp_left.mpr fun hne => ?_, or_iff_not_imp_left.mpr fun hne => ?_⟩, ?_⟩
    · apply (domainItems_ne_nil (D := D) r).mp
      intro hnil
      simpa [hnil] using hall.domains hne
    · apply (portItems_ne_nil r).mp
      intro hnil
      simpa [hnil] using hall.port hne
    · by_contra! hboth
      have hnone := (h _ (matches_connectionOf (n := {}) (Or.inr hboth.2))).domains hboth.1
      rw [connectionOf, not_any_matches_empty] at hnone
      cases hnone
  · rintro ⟨⟨hdomains, hport⟩, hone⟩ c hc
    have hgroups := meetsGroups_of_matches hc hdomains hport
    refine ⟨hgroups, fun hne => ?_, fun hne => ?_⟩
    · refine (hgroups.destination (Or.inl hne)).resolve_right ?_
      rw [hone.resolve_left hne]
      exact Bool.false_ne_true
    · refine (hgroups.destination (Or.inr hne)).resolve_left ?_
      rw [hone.resolve_right hne, domainItems_empty]
      exact Bool.false_ne_true

/-- A rule that blocks a name at a port. -/
def blockAt (domains : String) : Rule where
  domains := domains
  port := "443"
  outbound := "block"

theorem keepsFields_prefixed :
    KeepsFields (blockAt "full:google.com")
        (userRule Reference.deps (blockAt "full:google.com")) ∧
      ∀ c, ruleMatches c (userRule Reference.deps (blockAt "full:google.com")) = true →
        MeetsGroups Reference.deps c (blockAt "full:google.com") :=
  (keepsFields_iff Reference.deps_documented (blockAt "full:google.com")).1.mpr (by decide)
    ((ruleIsValid_makeRule Reference.deps_documented _).mpr (by decide))

/-- Without a prefix the name is skipped, and the emitted rule blocks the port. -/
theorem not_keepsFields :
    ¬ ∀ D : Deps, D.Documented → ∀ r : Rule, D.ruleIsValid (r.makeRule D) = true →
      KeepsFields r (userRule D r) ∧
        ∀ c, ruleMatches c (userRule D r) = true → MeetsGroups D c r := by
  intro h
  have hkept := (h _ Reference.deps_documented (blockAt "google.com")
    ((ruleIsValid_makeRule Reference.deps_documented _).mpr (by decide))).1
  exact absurd ((keepsFields_userRule _).mp hkept).1 (by decide)

end HiddifyCore.Routing
