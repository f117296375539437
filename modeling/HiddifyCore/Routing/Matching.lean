import HiddifyCore.GoLib.FirstMatch
import HiddifyCore.Config.Singbox

/-!
# How sing-box matches rules

A rule matches when each of its condition groups that is not empty has a condition that is met.
What a single condition such as a domain suffix or a rule set means is left open: a connection or
a query comes with the table of the conditions that it meets. sing-box takes the first rule that
matches.
-/

namespace HiddifyCore.Routing

open GoLib Singbox

/-- Which domain conditions a name meets. -/
structure Name where
  domain : String → Bool := fun _ => false
  domainSuffix : String → Bool := fun _ => false
  domainKeyword : String → Bool := fun _ => false
  domainRegex : String → Bool := fun _ => false
  geosite : String → Bool := fun _ => false

/-- A connection to be routed. -/
structure Connection where
  inbound : String := ""
  network : String := ""
  protocol : String := ""
  processName : String := ""
  name : Name := {}
  geoIP : String → Bool := fun _ => false
  ipCIDR : String → Bool := fun _ => false
  ipIsPrivate : Bool := false
  port : UInt16 := 0
  portRange : String → Bool := fun _ => false
  ruleSet : String → Bool := fun _ => false

/-- A DNS query. -/
structure Query where
  inbound : String := ""
  name : Name := {}
  ruleSet : String → Bool := fun _ => false

/-- A group of conditions: an empty group constrains nothing. -/
def meets {α : Type} (conditions : List α) (p : α → Bool) : Bool :=
  conditions.isEmpty || conditions.any p

/-- The domain and address conditions of a rule form one group. -/
def hasDestination (r : DefaultRule) : Bool :=
  !r.domain.isEmpty || !r.domainSuffix.isEmpty || !r.domainKeyword.isEmpty ||
    !r.domainRegex.isEmpty || !r.geosite.isEmpty || !r.geoIP.isEmpty || !r.ipCIDR.isEmpty ||
    r.ipIsPrivate

def meetsDestination (c : Connection) (r : DefaultRule) : Bool :=
  r.domain.any c.name.domain || r.domainSuffix.any c.name.domainSuffix ||
    r.domainKeyword.any c.name.domainKeyword || r.domainRegex.any c.name.domainRegex ||
    r.geosite.any c.name.geosite || r.geoIP.any c.geoIP || r.ipCIDR.any c.ipCIDR ||
    (r.ipIsPrivate && c.ipIsPrivate)

/-- So do the ports and the port ranges. -/
def hasPort (r : DefaultRule) : Bool := !r.port.isEmpty || !r.portRange.isEmpty

def meetsPort (c : Connection) (r : DefaultRule) : Bool :=
  r.port.any (· == c.port) || r.portRange.any c.portRange

def ruleMatches (c : Connection) (r : DefaultRule) : Bool :=
  meets r.inbound (· == c.inbound) && meets r.network (· == c.network) &&
    meets r.protocol (· == c.protocol) && (!hasDestination r || meetsDestination c r) &&
    (!hasPort r || meetsPort c r) && meets r.processName (· == c.processName) &&
    meets r.ruleSet c.ruleSet

/-- The outbound that a connection is sent to. -/
def routeDecision (route : RouteOptions) (c : Connection) : String :=
  firstMatch (ruleMatches c) DefaultRule.outbound route.rules route.final

def dnsHasName (r : DefaultDNSRule) : Bool :=
  !r.domain.isEmpty || !r.domainSuffix.isEmpty || !r.domainKeyword.isEmpty ||
    !r.domainRegex.isEmpty || !r.geosite.isEmpty

def dnsMeetsName (n : Name) (r : DefaultDNSRule) : Bool :=
  r.domain.any n.domain || r.domainSuffix.any n.domainSuffix ||
    r.domainKeyword.any n.domainKeyword || r.domainRegex.any n.domainRegex ||
    r.geosite.any n.geosite

def dnsRuleMatches (q : Query) (r : DefaultDNSRule) : Bool :=
  meets r.inbound (· == q.inbound) && (!dnsHasName r || dnsMeetsName q.name r) &&
    meets r.ruleSet q.ruleSet

/-- The server that answers a query. -/
def dnsDecision (dns : DNSOptions) (q : Query) : String :=
  firstMatch (dnsRuleMatches q) DefaultDNSRule.server dns.rules dns.final

end HiddifyCore.Routing
