import HiddifyCore.Config.Build
import HiddifyCore.Routing.Matching

/-!
# User rules as lists of items

What a user rule says, item by item, and that `MakeRule` and `MakeDNSRule` compile it: the emitted
rule has a condition when the user rule has an item, and matches when each group of items that is
not empty has an item that is met.
-/

namespace HiddifyCore.Routing

open GoLib GoLib.Strings Singbox Config

/-- An item of the domain list. -/
inductive DomainItem where
  | geosite (s : String)
  | full (s : String)
  | suffix (s : String)
  | regexp (s : String)
  | keyword (s : String)
  deriving DecidableEq

namespace DomainItem

def matches? (n : Name) : DomainItem → Bool
  | geosite s => n.geosite s
  | full s => n.domain s
  | suffix s => n.domainSuffix s
  | regexp s => n.domainRegex s
  | keyword s => n.domainKeyword s

def geosite? : DomainItem → Option String
  | geosite s => some s
  | _ => none

def full? : DomainItem → Option String
  | full s => some s
  | _ => none

def suffix? : DomainItem → Option String
  | suffix s => some s
  | _ => none

def regexp? : DomainItem → Option String
  | regexp s => some s
  | _ => none

def keyword? : DomainItem → Option String
  | keyword s => some s
  | _ => none

end DomainItem

/-- An item of the address list. -/
inductive IpItem where
  | geoip (s : String)
  | cidr (s : String)
  deriving DecidableEq

namespace IpItem

def matches? (c : Connection) : IpItem → Bool
  | geoip s => c.geoIP s
  | cidr s => c.ipCIDR s

def geoip? : IpItem → Option String
  | geoip s => some s
  | cidr _ => none

def cidr? : IpItem → Option String
  | cidr s => some s
  | geoip _ => none

end IpItem

/-- An item of the port list. -/
inductive PortItem where
  | range (s : String)
  | port (p : UInt16)
  deriving DecidableEq

namespace PortItem

def matches? (c : Connection) : PortItem → Bool
  | range s => c.portRange s
  | port p => p == c.port

def range? : PortItem → Option String
  | range s => some s
  | port _ => none

def port? : PortItem → Option UInt16
  | port p => some p
  | range _ => none

end PortItem

section Items

variable (D : Deps)

def domainItem (item : String) : Option DomainItem :=
  if hasPrefix item "geosite:" then some (.geosite (trimPrefix item "geosite:"))
  else if hasPrefix item "full:" then some (.full (D.toLower (trimPrefix item "full:")))
  else if hasPrefix item "domain:" then some (.suffix (D.toLower (trimPrefix item "domain:")))
  else if hasPrefix item "regexp:" then some (.regexp (D.toLower (trimPrefix item "regexp:")))
  else if hasPrefix item "keyword:" then some (.keyword (D.toLower (trimPrefix item "keyword:")))
  else none

def ipItem (item : String) : IpItem :=
  if hasPrefix item "geoip:" then .geoip (trimPrefix item "geoip:") else .cidr item

def portItem (item : String) : Option PortItem :=
  if contains item ":" then some (.range item)
  else (atoi item).map fun i => .port (UInt16.ofInt i)

/-- The domain items of a comma-separated list. An empty list has none. -/
def domainItems (list : String) : List DomainItem := (split list ',').filterMap (domainItem D)

def ipItems (list : String) : List IpItem :=
  if list ≠ "" then (split list ',').map ipItem else []

def portItems (list : String) : List PortItem :=
  if list ≠ "" then (split list ',').filterMap portItem else []

def protocolItems (list : String) : List String := if list ≠ "" then split list ',' else []

/-! ### The meaning of a user rule -/

/-- The three outbounds that a user rule may name. -/
def isKnown (r : Rule) : Bool :=
  r.outbound = "bypass" || r.outbound = "block" || r.outbound = "proxy"

/-- The rule says something about connections. -/
def hasCondition (r : Rule) : Bool :=
  !(domainItems D r.domains).isEmpty || !(ipItems r.ip).isEmpty || !(portItems r.port).isEmpty ||
    r.network ≠ "" || !(protocolItems r.protocol).isEmpty

/-- The name or the address of the connection is among those of the rule, if it has any. -/
def meetsItems (c : Connection) (r : Rule) : Bool :=
  ((domainItems D r.domains).isEmpty && (ipItems r.ip).isEmpty) ||
    (domainItems D r.domains).any (·.matches? c.name) || (ipItems r.ip).any (·.matches? c)

/-- The other conditions of a rule. -/
def meetsRest (c : Connection) (r : Rule) : Bool :=
  meets (portItems r.port) (·.matches? c) && (r.network = "" || r.network = c.network) &&
    meets (protocolItems r.protocol) (· == c.protocol)

def userMatches (c : Connection) (r : Rule) : Bool :=
  hasCondition D r && meetsItems D c r && meetsRest c r

/-- A name is among those of the rule. -/
def nameMatches (n : Name) (r : Rule) : Bool := (domainItems D r.domains).any (·.matches? n)

end Items

/-! ### Compilation -/

variable {D : Deps}

/-- One step of `makeDomainRule` files the item under its kind. -/
lemma addDomainItem_eq (o : DefaultRule) (item : String) :
    addDomainItem D o item = match domainItem D item with
      | some (.geosite s) => { o with geosite := o.geosite ++ [s] }
      | some (.full s) => { o with domain := o.domain ++ [s] }
      | some (.suffix s) => { o with domainSuffix := o.domainSuffix ++ [s] }
      | some (.regexp s) => { o with domainRegex := o.domainRegex ++ [s] }
      | some (.keyword s) => { o with domainKeyword := o.domainKeyword ++ [s] }
      | none => o := by
  simp only [addDomainItem, domainItem]
  split_ifs <;> rfl

lemma makeDomainRule_eq (o : DefaultRule) (list : List String) :
    makeDomainRule D o list = { o with
      geosite := o.geosite ++ (list.filterMap (domainItem D)).filterMap DomainItem.geosite?
      domain := o.domain ++ (list.filterMap (domainItem D)).filterMap DomainItem.full?
      domainSuffix := o.domainSuffix ++ (list.filterMap (domainItem D)).filterMap DomainItem.suffix?
      domainRegex := o.domainRegex ++ (list.filterMap (domainItem D)).filterMap DomainItem.regexp?
      domainKeyword :=
        o.domainKeyword ++ (list.filterMap (domainItem D)).filterMap DomainItem.keyword? } := by
  induction list generalizing o with
  | nil => simp [makeDomainRule]
  | cons item list ih =>
    rw [makeDomainRule, List.foldl_cons, ← makeDomainRule, ih, addDomainItem_eq,
      List.filterMap_cons]
    rcases domainItem D item with _ | (s | s | s | s | s) <;>
      simp [List.filterMap_cons, DomainItem.geosite?, DomainItem.full?, DomainItem.suffix?,
        DomainItem.regexp?, DomainItem.keyword?]

/-- One step of `MakeDNSRule` files the item in the same way. -/
lemma addDNSItem_eq (o : DefaultDNSRule) (item : String) :
    addDNSItem D o item = match domainItem D item with
      | some (.geosite s) => { o with geosite := o.geosite ++ [s] }
      | some (.full s) => { o with domain := o.domain ++ [s] }
      | some (.suffix s) => { o with domainSuffix := o.domainSuffix ++ [s] }
      | some (.regexp s) => { o with domainRegex := o.domainRegex ++ [s] }
      | some (.keyword s) => { o with domainKeyword := o.domainKeyword ++ [s] }
      | none => o := by
  simp only [addDNSItem, domainItem]
  split_ifs <;> rfl

lemma foldl_addDNSItem (o : DefaultDNSRule) (list : List String) :
    list.foldl (addDNSItem D) o = { o with
      geosite := o.geosite ++ (list.filterMap (domainItem D)).filterMap DomainItem.geosite?
      domain := o.domain ++ (list.filterMap (domainItem D)).filterMap DomainItem.full?
      domainSuffix := o.domainSuffix ++ (list.filterMap (domainItem D)).filterMap DomainItem.suffix?
      domainRegex := o.domainRegex ++ (list.filterMap (domainItem D)).filterMap DomainItem.regexp?
      domainKeyword :=
        o.domainKeyword ++ (list.filterMap (domainItem D)).filterMap DomainItem.keyword? } := by
  induction list generalizing o with
  | nil => simp
  | cons item list ih =>
    rw [List.foldl_cons, ih, addDNSItem_eq, List.filterMap_cons]
    rcases domainItem D item with _ | (s | s | s | s | s) <;>
      simp [List.filterMap_cons, DomainItem.geosite?, DomainItem.full?, DomainItem.suffix?,
        DomainItem.regexp?, DomainItem.keyword?]

lemma makeIpRule_eq (o : DefaultRule) (list : List String) :
    makeIpRule o list = { o with
      geoIP := o.geoIP ++ (list.map ipItem).filterMap IpItem.geoip?
      ipCIDR := o.ipCIDR ++ (list.map ipItem).filterMap IpItem.cidr? } := by
  induction list generalizing o with
  | nil => simp [makeIpRule]
  | cons item list ih =>
    rw [makeIpRule, List.foldl_cons, ← makeIpRule, ih, List.map_cons]
    simp only [addIpItem]
    by_cases h : hasPrefix item "geoip:" = true <;>
      simp [ipItem, h, List.filterMap_cons, IpItem.geoip?, IpItem.cidr?]

lemma makePortRule_eq (o : DefaultRule) (list : List String) :
    makePortRule o list = { o with
      portRange := o.portRange ++ (list.filterMap portItem).filterMap PortItem.range?
      port := o.port ++ (list.filterMap portItem).filterMap PortItem.port? } := by
  induction list generalizing o with
  | nil => simp [makePortRule]
  | cons item list ih =>
    rw [makePortRule, List.foldl_cons, ← makePortRule, ih, List.filterMap_cons]
    simp only [addPortItem, portItem]
    by_cases h : contains item ":" = true
    · simp [h, List.filterMap_cons, PortItem.range?, PortItem.port?]
    · cases hport : atoi item <;> simp [h, List.filterMap_cons, PortItem.range?, PortItem.port?]

/-- The items of the empty string, which the four guards of `MakeRule` skip. -/
lemma domainItems_empty : domainItems D "" = [] := by
  have hsplit : split "" ',' = [""] := by decide
  have hitem : domainItem D "" = none := by
    have hprefix : hasPrefix "" "geosite:" = false ∧ hasPrefix "" "full:" = false ∧
        hasPrefix "" "domain:" = false ∧ hasPrefix "" "regexp:" = false ∧
        hasPrefix "" "keyword:" = false := by decide
    obtain ⟨h₁, h₂, h₃, h₄, h₅⟩ := hprefix
    simp [domainItem, h₁, h₂, h₃, h₄, h₅]
  rw [domainItems, hsplit, List.filterMap_cons, hitem]
  rfl

/-- `MakeRule`, field by field. -/
lemma makeRule_eq (r : Rule) :
    r.makeRule D = {
      geosite := (domainItems D r.domains).filterMap DomainItem.geosite?
      domain := (domainItems D r.domains).filterMap DomainItem.full?
      domainSuffix := (domainItems D r.domains).filterMap DomainItem.suffix?
      domainRegex := (domainItems D r.domains).filterMap DomainItem.regexp?
      domainKeyword := (domainItems D r.domains).filterMap DomainItem.keyword?
      geoIP := (ipItems r.ip).filterMap IpItem.geoip?
      ipCIDR := (ipItems r.ip).filterMap IpItem.cidr?
      portRange := (portItems r.port).filterMap PortItem.range?
      port := (portItems r.port).filterMap PortItem.port?
      network := if r.network ≠ "" then [r.network] else []
      protocol := protocolItems r.protocol } := by
  have hdomains : (if r.domains ≠ "" then makeDomainRule D {} (split r.domains ',') else {}) =
      makeDomainRule D {} (split r.domains ',') := by
    split_ifs with h
    · rfl
    · rw [not_not.mp h, makeDomainRule_eq, ← domainItems, domainItems_empty]
      rfl
  unfold Rule.makeRule
  dsimp only
  rw [hdomains, makeDomainRule_eq, ← domainItems]
  simp only [makeIpRule_eq, makePortRule_eq, ipItems, portItems, protocolItems]
  by_cases hip : r.ip = "" <;> by_cases hport : r.port = "" <;>
    by_cases hnetwork : r.network = "" <;> by_cases hprotocol : r.protocol = "" <;>
      simp [hip, hport, hnetwork, hprotocol]

lemma makeDNSRule_eq (r : Rule) :
    r.makeDNSRule D = {
      geosite := (domainItems D r.domains).filterMap DomainItem.geosite?
      domain := (domainItems D r.domains).filterMap DomainItem.full?
      domainSuffix := (domainItems D r.domains).filterMap DomainItem.suffix?
      domainRegex := (domainItems D r.domains).filterMap DomainItem.regexp?
      domainKeyword := (domainItems D r.domains).filterMap DomainItem.keyword? } := by
  rw [Rule.makeDNSRule, foldl_addDNSItem]
  rfl

/-- The two rules have the same five lists of names. -/
structure SameNames (rule : DefaultRule) (dnsRule : DefaultDNSRule) : Prop where
  geosite : rule.geosite = dnsRule.geosite
  domain : rule.domain = dnsRule.domain
  domainSuffix : rule.domainSuffix = dnsRule.domainSuffix
  domainRegex : rule.domainRegex = dnsRule.domainRegex
  domainKeyword : rule.domainKeyword = dnsRule.domainKeyword

/-- `MakeRule` and `MakeDNSRule` classify the names alike. -/
theorem makeRule_sameNames (D : Deps) (r : Rule) :
    SameNames (r.makeRule D) (r.makeDNSRule D) := by
  rw [makeRule_eq, makeDNSRule_eq]
  exact ⟨rfl, rfl, rfl, rfl, rfl⟩

/-! ### Validity -/

namespace DomainItem

/-- Every item goes to one of the five fields. -/
lemma fields_eq_nil (items : List DomainItem) :
    (items.filterMap full? = [] ∧ items.filterMap suffix? = [] ∧ items.filterMap keyword? = [] ∧
      items.filterMap regexp? = [] ∧ items.filterMap geosite? = []) ↔ items = [] := by
  constructor
  · rintro ⟨hfull, hsuffix, hkeyword, hregexp, hgeosite⟩
    rcases items with _ | ⟨s | s | s | s | s, items⟩
    · rfl
    · cases hgeosite
    · cases hfull
    · cases hsuffix
    · cases hregexp
    · cases hkeyword
  · rintro rfl
    exact ⟨rfl, rfl, rfl, rfl, rfl⟩

lemma fields_isEmpty (items : List DomainItem) :
    ((items.filterMap full?).isEmpty && (items.filterMap suffix?).isEmpty &&
      (items.filterMap keyword?).isEmpty && (items.filterMap regexp?).isEmpty &&
      (items.filterMap geosite?).isEmpty) = items.isEmpty := by
  rw [Bool.eq_iff_iff]
  simp only [Bool.and_eq_true, List.isEmpty_iff, and_assoc]
  exact fields_eq_nil items

/-- The five fields are met when one of the items is. -/
lemma any_fields (n : Name) (items : List DomainItem) :
    ((items.filterMap full?).any n.domain || (items.filterMap suffix?).any n.domainSuffix ||
      (items.filterMap keyword?).any n.domainKeyword ||
      (items.filterMap regexp?).any n.domainRegex ||
      (items.filterMap geosite?).any n.geosite) = items.any (·.matches? n) := by
  induction items with
  | nil => rfl
  | cons item items ih =>
    rw [List.any_cons, ← ih]
    rcases item with s | s | s | s | s <;>
      simp [List.filterMap_cons, full?, suffix?, keyword?, regexp?, geosite?, matches?,
        Bool.or_assoc, Bool.or_left_comm]

end DomainItem

namespace IpItem

lemma fields_eq_nil (items : List IpItem) :
    (items.filterMap geoip? = [] ∧ items.filterMap cidr? = []) ↔ items = [] := by
  constructor
  · rintro ⟨hgeoip, hcidr⟩
    rcases items with _ | ⟨s | s, items⟩
    · rfl
    · cases hgeoip
    · cases hcidr
  · rintro rfl
    exact ⟨rfl, rfl⟩

lemma fields_isEmpty (items : List IpItem) :
    ((items.filterMap geoip?).isEmpty && (items.filterMap cidr?).isEmpty) = items.isEmpty := by
  rw [Bool.eq_iff_iff]
  simp only [Bool.and_eq_true, List.isEmpty_iff]
  exact fields_eq_nil items

lemma any_fields (c : Connection) (items : List IpItem) :
    ((items.filterMap geoip?).any c.geoIP || (items.filterMap cidr?).any c.ipCIDR) =
      items.any (·.matches? c) := by
  induction items with
  | nil => rfl
  | cons item items ih =>
    rw [List.any_cons, ← ih]
    rcases item with s | s <;>
      simp [List.filterMap_cons, geoip?, cidr?, matches?, Bool.or_assoc, Bool.or_left_comm]

end IpItem

namespace PortItem

lemma fields_eq_nil (items : List PortItem) :
    (items.filterMap port? = [] ∧ items.filterMap range? = []) ↔ items = [] := by
  constructor
  · rintro ⟨hport, hrange⟩
    rcases items with _ | ⟨s | p, items⟩
    · rfl
    · cases hrange
    · cases hport
  · rintro rfl
    exact ⟨rfl, rfl⟩

lemma fields_isEmpty (items : List PortItem) :
    ((items.filterMap port?).isEmpty && (items.filterMap range?).isEmpty) = items.isEmpty := by
  rw [Bool.eq_iff_iff]
  simp only [Bool.and_eq_true, List.isEmpty_iff]
  exact fields_eq_nil items

lemma any_fields (c : Connection) (items : List PortItem) :
    ((items.filterMap port?).any (· == c.port) || (items.filterMap range?).any c.portRange) =
      items.any (·.matches? c) := by
  induction items with
  | nil => rfl
  | cons item items ih =>
    rw [List.any_cons, ← ih]
    rcases item with s | p <;>
      simp [List.filterMap_cons, range?, port?, matches?, Bool.or_assoc, Bool.or_left_comm]

end PortItem

/-- `MakeRule` keeps every condition of the user rule. -/
lemma makeRule_eq_empty (r : Rule) :
    r.makeRule D = {} ↔ domainItems D r.domains = [] ∧ ipItems r.ip = [] ∧
      portItems r.port = [] ∧ r.network = "" ∧ protocolItems r.protocol = [] := by
  rw [makeRule_eq, DefaultRule.mk.injEq, ← DomainItem.fields_eq_nil, ← IpItem.fields_eq_nil,
    ← PortItem.fields_eq_nil]
  simp only [ite_eq_right_iff, List.cons_ne_nil, imp_false, not_not, true_and, and_true]
  tauto

/-- A rule is emitted for a user rule that has a condition. -/
theorem ruleIsValid_userRule (hD : D.Documented) (r : Rule) :
    D.ruleIsValid (userRule D r) = hasCondition D r := by
  have hempty : userRule D r = { outbound := routeOutbound r } ↔ r.makeRule D = {} := by
    constructor
    · intro h
      calc r.makeRule D = { r.makeRule D with outbound := "" } := by rw [makeRule_eq]
        _ = {} := congrArg (fun q : DefaultRule => { q with outbound := "" }) h
    · intro h
      rw [userRule, h]
  rw [Bool.eq_iff_iff, hD.ruleIsValid, ← not_iff_not]
  simp only [DefaultRule.HasCondition]
  rw [not_not]
  apply hempty.trans
  rw [makeRule_eq_empty]
  simp [hasCondition, and_assoc]

lemma makeDNSRule_eq_empty (r : Rule) : r.makeDNSRule D = {} ↔ domainItems D r.domains = [] := by
  rw [makeDNSRule_eq, DefaultDNSRule.mk.injEq, ← DomainItem.fields_eq_nil]
  simp only [true_and, and_true]

/-- Whatever server and cache options it is given, the DNS rule is valid when the user rule has a
domain item. -/
lemma dnsRuleIsValid_makeDNSRule (hD : D.Documented) (r : Rule) (server : String)
    (disableCache : Bool) :
    D.dnsRuleIsValid { r.makeDNSRule D with server := server, disableCache := disableCache } =
      !(domainItems D r.domains).isEmpty := by
  have hempty : { r.makeDNSRule D with server := server, disableCache := disableCache } =
      ({ server := server, disableCache := disableCache } : DefaultDNSRule) ↔
        r.makeDNSRule D = {} := by
    constructor
    · intro h
      calc r.makeDNSRule D = { r.makeDNSRule D with server := "", disableCache := false } := by
            rw [makeDNSRule_eq]
        _ = {} :=
          congrArg (fun q : DefaultDNSRule => { q with server := "", disableCache := false }) h
    · intro h
      rw [h]
  rw [Bool.eq_iff_iff, hD.dnsRuleIsValid, ← not_iff_not]
  simp only [DefaultDNSRule.HasCondition]
  rw [not_not]
  refine Iff.trans ?_ (hempty.trans ?_)
  · rw [makeDNSRule_eq]
  · rw [makeDNSRule_eq_empty]
    simp

/-- With an inbound condition, the DNS rule is valid even without a domain item. -/
lemma dnsRuleIsValid_inbound (hD : D.Documented) (r : DefaultDNSRule) (h : r.inbound ≠ []) :
    D.dnsRuleIsValid r = true := by
  rw [hD.dnsRuleIsValid]
  intro hr
  exact h (congrArg DefaultDNSRule.inbound hr)

/-! ### Matching -/

lemma hasDestination_userRule (r : Rule) :
    hasDestination (userRule D r) =
      !((domainItems D r.domains).isEmpty && (ipItems r.ip).isEmpty) := by
  rw [← DomainItem.fields_isEmpty, ← IpItem.fields_isEmpty]
  simp only [hasDestination, userRule, makeRule_eq, ← Bool.not_and, Bool.and_assoc, Bool.or_false]

lemma meetsDestination_userRule (c : Connection) (r : Rule) :
    meetsDestination c (userRule D r) =
      ((domainItems D r.domains).any (·.matches? c.name) ||
        (ipItems r.ip).any (·.matches? c)) := by
  rw [← DomainItem.any_fields, ← IpItem.any_fields]
  simp [meetsDestination, userRule, makeRule_eq, Bool.or_assoc]

lemma hasPort_userRule (r : Rule) :
    hasPort (userRule D r) = !(portItems r.port).isEmpty := by
  rw [← PortItem.fields_isEmpty]
  simp only [hasPort, userRule, makeRule_eq, ← Bool.not_and]

lemma meetsPort_userRule (c : Connection) (r : Rule) :
    meetsPort c (userRule D r) = (portItems r.port).any (·.matches? c) := by
  rw [← PortItem.any_fields]
  simp only [meetsPort, userRule, makeRule_eq]

/-- The rule emitted for a user rule matches when the user rule does. -/
theorem ruleMatches_userRule (c : Connection) (r : Rule) :
    ruleMatches c (userRule D r) = (meetsItems D c r && meetsRest c r) := by
  have hnetwork : meets (userRule D r).network (· == c.network) =
      (decide (r.network = "") || decide (r.network = c.network)) := by
    by_cases h : r.network = "" <;>
      simp [meets, userRule, makeRule_eq, h, beq_eq_decide]
  have hitems : (!hasDestination (userRule D r) || meetsDestination c (userRule D r)) =
      meetsItems D c r := by
    rw [hasDestination_userRule, meetsDestination_userRule, Bool.not_not, meetsItems,
      Bool.or_assoc]
  have hport : (!hasPort (userRule D r) || meetsPort c (userRule D r)) =
      meets (portItems r.port) (·.matches? c) := by
    rw [hasPort_userRule, meetsPort_userRule, Bool.not_not, meets]
  have hprotocol : (userRule D r).protocol = protocolItems r.protocol := by
    rw [userRule, makeRule_eq]
  have hother : (userRule D r).inbound = [] ∧ (userRule D r).processName = [] ∧
      (userRule D r).ruleSet = [] := by
    rw [userRule, makeRule_eq]
    exact ⟨rfl, rfl, rfl⟩
  obtain ⟨hinbound, hprocess, hset⟩ := hother
  simp only [ruleMatches, meetsRest]
  rw [hnetwork, hitems, hport, hprotocol, hinbound, hprocess, hset]
  simp only [meets, List.isEmpty_nil, Bool.true_or, Bool.true_and, Bool.and_true]
  ac_rfl

/-- A DNS rule made from a user rule asks for the name and for its inbounds. -/
theorem dnsRuleMatches_makeDNSRule (q : Query) (r : Rule) (inbound : List String)
    (server : String) (disableCache : Bool) :
    dnsRuleMatches q { r.makeDNSRule D with
      inbound := inbound, server := server, disableCache := disableCache } =
      (meets inbound (· == q.inbound) &&
        ((domainItems D r.domains).isEmpty || nameMatches D q.name r)) := by
  have hname (items : List DomainItem) :
      (!(!(items.filterMap DomainItem.full?).isEmpty ||
        !(items.filterMap DomainItem.suffix?).isEmpty ||
        !(items.filterMap DomainItem.keyword?).isEmpty ||
        !(items.filterMap DomainItem.regexp?).isEmpty ||
        !(items.filterMap DomainItem.geosite?).isEmpty)) = items.isEmpty := by
    rw [← DomainItem.fields_isEmpty]
    simp only [← Bool.not_and, Bool.not_not]
  simp only [dnsRuleMatches, dnsHasName, dnsMeetsName, nameMatches]
  rw [makeDNSRule_eq, hname, DomainItem.any_fields]
  simp only [meets, List.isEmpty_nil, Bool.true_or, Bool.and_true]

end HiddifyCore.Routing
