import HiddifyCore.GoLib.Text
import HiddifyCore.Config.Deps

/-!
# User rules

`MakeRule` and `MakeDNSRule` of `config/rules.go`. The two classify the domain items in the same
way, once into a route rule and once into a DNS rule.
-/

namespace HiddifyCore.Config

open GoLib GoLib.Strings Singbox

variable (D : Deps)

/-- One step of the loop of `makeDomainRule`. -/
def addDomainItem (options : DefaultRule) (item : String) : DefaultRule :=
  if hasPrefix item "geosite:" then
    { options with geosite := options.geosite ++ [trimPrefix item "geosite:"] }
  else if hasPrefix item "full:" then
    { options with domain := options.domain ++ [D.toLower (trimPrefix item "full:")] }
  else if hasPrefix item "domain:" then
    { options with domainSuffix := options.domainSuffix ++ [D.toLower (trimPrefix item "domain:")] }
  else if hasPrefix item "regexp:" then
    { options with domainRegex := options.domainRegex ++ [D.toLower (trimPrefix item "regexp:")] }
  else if hasPrefix item "keyword:" then
    { options with
      domainKeyword := options.domainKeyword ++ [D.toLower (trimPrefix item "keyword:")] }
  else
    options

def makeDomainRule (options : DefaultRule) (list : List String) : DefaultRule :=
  list.foldl (addDomainItem D) options

/-- One step of the loop of `makeIpRule`. -/
def addIpItem (options : DefaultRule) (item : String) : DefaultRule :=
  if hasPrefix item "geoip:" then
    { options with geoIP := options.geoIP ++ [trimPrefix item "geoip:"] }
  else
    { options with ipCIDR := options.ipCIDR ++ [item] }

def makeIpRule (options : DefaultRule) (list : List String) : DefaultRule :=
  list.foldl addIpItem options

/-- One step of the loop of `makePortRule`. The conversion to `uint16` wraps. -/
def addPortItem (options : DefaultRule) (item : String) : DefaultRule :=
  if contains item ":" then
    { options with portRange := options.portRange ++ [item] }
  else
    match atoi item with
    | some i => { options with port := options.port ++ [UInt16.ofInt i] }
    | none => options

def makePortRule (options : DefaultRule) (list : List String) : DefaultRule :=
  list.foldl addPortItem options

def Rule.makeRule (r : Rule) : DefaultRule :=
  let rule : DefaultRule := {}
  let rule := if r.domains ≠ "" then makeDomainRule D rule (split r.domains ',') else rule
  let rule := if r.ip ≠ "" then makeIpRule rule (split r.ip ',') else rule
  let rule := if r.port ≠ "" then makePortRule rule (split r.port ',') else rule
  let rule := if r.network ≠ "" then { rule with network := rule.network ++ [r.network] } else rule
  if r.protocol ≠ "" then { rule with protocol := rule.protocol ++ split r.protocol ',' } else rule

/-- One step of the loop of `MakeDNSRule`. -/
def addDNSItem (rule : DefaultDNSRule) (item : String) : DefaultDNSRule :=
  if hasPrefix item "geosite:" then
    { rule with geosite := rule.geosite ++ [trimPrefix item "geosite:"] }
  else if hasPrefix item "full:" then
    { rule with domain := rule.domain ++ [D.toLower (trimPrefix item "full:")] }
  else if hasPrefix item "domain:" then
    { rule with domainSuffix := rule.domainSuffix ++ [D.toLower (trimPrefix item "domain:")] }
  else if hasPrefix item "regexp:" then
    { rule with domainRegex := rule.domainRegex ++ [D.toLower (trimPrefix item "regexp:")] }
  else if hasPrefix item "keyword:" then
    { rule with domainKeyword := rule.domainKeyword ++ [D.toLower (trimPrefix item "keyword:")] }
  else
    rule

def Rule.makeDNSRule (r : Rule) : DefaultDNSRule := (split r.domains ',').foldl (addDNSItem D) {}

end HiddifyCore.Config
