import HiddifyCore.GoLib.Panic
import HiddifyCore.Config.JsonFloat
import HiddifyCore.Config.Option

/-!
# What the builder calls

`Deps` is the code outside the repository that the config package calls and that always answers
the same: sing-box's JSON codec and rule checks, and the parsers of the standard library whose
grammars play no part here. `Draws` and `BuildEnv` hold the answers that can differ from one call
to the next: name lookups, random numbers, the WARP registration and the order of a map iteration.
-/

namespace HiddifyCore.Config

open GoLib Singbox

structure Deps where
  /-- The text of `MarshalJSON` of an outbound, its numbers as they are spelled there. -/
  marshalJSON : Outbound → Outcome JObj
  /-- `json.Marshal` of a map, and the text read back by `UnmarshalJSON`. -/
  unmarshalOutbound : JObj → Outcome Outbound
  encodeMultiplex : MultiplexOptions → Json
  encodeTLSFragment : TLSFragmentOptions → Json
  encodeTLSTricks : TLSTricksOptions → Json
  /-- `DefaultRule.IsValid`. -/
  ruleIsValid : DefaultRule → Bool
  /-- `DefaultDNSRule.IsValid`. -/
  dnsRuleIsValid : DefaultDNSRule → Bool
  /-- The `Host` of `url.Parse`, unless it returns an error. -/
  urlHost : String → Option String
  /-- Whether `net.ParseIP` finds an address. -/
  isIP : String → Bool
  /-- `netip.ParsePrefix`. -/
  parsePrefix : String → Outcome Prefix
  /-- `base64.StdEncoding.DecodeString` without its error. -/
  decodeBase64 : String → List UInt8
  /-- `strings.ToLower`. -/
  toLower : String → String

/-- `MarshalJSON` of an outbound and `json.Unmarshal` of the text into a map, which makes every
number a `float64`. No number of Go is out of its range. -/
def Deps.marshalOutbound (D : Deps) (out : Outbound) : Outcome JObj := do
  let text ← D.marshalJSON out
  .ok text.unmarshalMap

/-- What sing-box documents: a rule is valid when it has a condition, and an outbound read from an
object has each of its fields from the key of that name. -/
structure Deps.Documented (D : Deps) : Prop where
  ruleIsValid (r : DefaultRule) : D.ruleIsValid r = true ↔ r.HasCondition
  dnsRuleIsValid (r : DefaultDNSRule) : D.dnsRuleIsValid r = true ↔ r.HasCondition
  type_of_key {o o' : Outbound} {m m' : JObj} (h : D.marshalOutbound o = .ok m)
    (h' : D.unmarshalOutbound m' = .ok o') (hkey : m'.get? "type" = m.get? "type") :
    o'.type = o.type
  tag_of_key {o o' : Outbound} {m m' : JObj} (h : D.marshalOutbound o = .ok m)
    (h' : D.unmarshalOutbound m' = .ok o') (hkey : m'.get? "tag" = m.get? "tag") :
    o'.tag = o.tag
  detour_of_key {o o' : Outbound} {m m' : JObj} (h : D.marshalOutbound o = .ok m)
    (h' : D.unmarshalOutbound m' = .ok o') (htype : m'.get? "type" = m.get? "type")
    (hkey : m'.get? "detour" = m.get? "detour") : o'.detour = o.detour

/-- The answers that one call of `patchWarp` gets. -/
structure Draws where
  /-- `net.LookupHost`, with `none` for an error. -/
  lookupHost : String → Option (List String) := fun _ => some []
  /-- The bytes of `rand.Read`, unless it returns an error. -/
  random : Option (Nat → UInt8) := some fun _ => 0
  /-- The address of `RandomWarpEndpoint(true, false)`. -/
  endpoint4 : String := "162.159.192.1"
  /-- The address of `RandomWarpEndpoint(false, true)`. -/
  endpoint6 : String := "2606:4700:d0::1"
  /-- `RandomWarpPort()`. -/
  port : UInt16 := 2408
  /-- `GenerateWarpInfo(license, "", "")`. -/
  generateWarpInfo : String → Outcome WarpWireguardConfig := fun _ => .fail "register"

/-- An order in which the keys of a map are met. -/
structure MapOrder where
  toFun : List String → List String
  perm (keys : List String) : (toFun keys).Perm keys

/-- The answers that one call of `BuildConfig` gets. -/
structure BuildEnv where
  lookupHost : String → Option (List String) := fun _ => some []
  /-- The bytes of the Clash API secret. -/
  secret : Option (Nat → UInt8) := some fun _ => 0
  /-- Those of the generated WARP outbound. -/
  warp : Draws := {}
  /-- Those of the input outbound at each position. -/
  outbound : Nat → Draws := fun _ => {}
  keyOrder : MapOrder := ⟨id, fun keys => .refl keys⟩

end HiddifyCore.Config
