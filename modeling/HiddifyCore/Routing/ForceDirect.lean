import Mathlib.Data.Set.List
import HiddifyCore.Routing.Bootstrap
import HiddifyCore.Routing.References

/-!
# The rule of addForceDirect

`addForceDirect` makes a comma-separated list of the names of the servers, each with the prefix
`full:`, and of the host of the remote DNS address, which has no prefix. `MakeDNSRule` skips an item
without a prefix, so the rule does not have the host, and has no condition when there is nothing
else in the list.
-/

namespace HiddifyCore.Routing

open GoLib GoLib.Strings Singbox Config

variable {D : Deps}

/-! ### The host of the remote DNS address -/

/-- `Hostname` of a parsed URL with this `Host`: the port and the brackets of an IPv6 address are
taken off. -/
def hostname (host : String) : String :=
  let cs := host.toList
  let cs := match cs.reverse.span (· ≠ ':') with
    | (port, _ :: name) => if port.all Char.isDigit then name.reverse else cs
    | (_, []) => cs
  String.ofList (if cs.head? = some '[' ∧ cs.getLast? = some ']' then cs.tail.dropLast else cs)

example : hostname "[2606:4700::1111]:53" = "2606:4700::1111" := by decide

section Remote

variable (D : Deps) (opt : ConfigOptions)

/-- The key that `addForceDirect` adds for the remote DNS address. -/
def remoteKey : Option String :=
  (D.urlHost ("https://" ++ afterScheme opt.remoteDnsAddress)).filter fun host => !D.isIP host

/-- The host of the remote DNS address, unless it is an IP literal. -/
def remoteName : Option String :=
  ((remoteKey D opt).map hostname).filter fun name => name ≠ "" && !D.isIP name

end Remote

/-! ### What the rule should match -/

/-- The names that are to be resolved directly. -/
def wantedNames (D : Deps) (opt : ConfigOptions) (servers : List String) : List String :=
  servers ++ (remoteName D opt).toList

/-- The map of the collected names. -/
def serverKeys (servers : List String) : List String := servers.map ("full:" ++ ·)

/-- `addForceDirect` prepends rules that are valid, and they match the queries for the names. -/
def ForcesDirect (D : Deps) (order : MapOrder) (opt : ConfigOptions) (servers : List String) :
    Prop :=
  ∀ (options : Options) (dns : Singbox.DNSOptions), options.dns = some dns →
    ∃ rules, (addForceDirect D order opt (serverKeys servers) options).dns =
        some { dns with rules := rules ++ dns.rules } ∧
      (∀ rule ∈ rules, D.dnsRuleIsValid rule = true) ∧
      ∀ q, rules.any (dnsRuleMatches q) = true ↔ ∃ d ∈ wantedNames D opt servers, AsksFor D q d

/-- The items of the wanted names. -/
def IsWanted (D : Deps) (opt : ConfigOptions) (servers : List String) (item : DomainItem) : Prop :=
  ∃ d ∈ wantedNames D opt servers, item = .full (D.toLower d)

/-- No name of a server has a comma. If the remote DNS address adds a key, then what the key says is
wanted, the list says something, and its host is among the names that the list has. -/
structure IsForceable (D : Deps) (opt : ConfigOptions) (servers : List String) : Prop where
  comma : ∀ s ∈ servers, ',' ∉ s.toList
  wanted : ∀ host ∈ remoteKey D opt, ∀ item ∈ domainItems D host, IsWanted D opt servers item
  nonempty : servers = [] → ∀ host ∈ remoteKey D opt, domainItems D host ≠ []
  named : ∀ name ∈ remoteName D opt, (∃ s ∈ servers, D.toLower s = D.toLower name) ∨
    ∃ host ∈ remoteKey D opt, .full (D.toLower name) ∈ domainItems D host

/-! ### The items of the list -/

lemma mem_forceDirectDomains_iff {opt : ConfigOptions} {domains : List String} {k : String} :
    k ∈ forceDirectDomains D opt domains ↔ k ∈ domains ∨ k ∈ remoteKey D opt := by
  simp only [forceDirectDomains, remoteKey]
  cases D.urlHost ("https://" ++ afterScheme opt.remoteDnsAddress) with
  | none => simp
  | some host =>
    cases hip : D.isIP host with
    | true => simp [hip, Option.filter_some]
    | false => simp [hip, mem_addDomain, Option.filter_some, eq_comm]

lemma domainItems_join {keys : List String} (h : keys ≠ []) {item : DomainItem} :
    item ∈ domainItems D (join keys ',') ↔ ∃ k ∈ keys, item ∈ domainItems D k := by
  simp only [domainItems, split_join ',' h, List.filterMap_flatMap, List.mem_flatMap]

lemma domainItems_serverKey {s : String} (h : ',' ∉ s.toList) :
    domainItems D ("full:" ++ s) = [.full (D.toLower s)] := by
  have hsep : ',' ∉ ("full:" ++ s).toList := by simp [h]
  rw [domainItems, split_eq_singleton hsep, List.filterMap_cons, domainItem_full]
  rfl

/-- The items of the names of the servers. -/
lemma mem_serverItems {servers : List String} (h : ∀ s ∈ servers, ',' ∉ s.toList)
    {item : DomainItem} : (∃ k ∈ serverKeys servers, item ∈ domainItems D k) ↔
      ∃ s ∈ servers, item = .full (D.toLower s) := by
  simp only [serverKeys, List.mem_map, exists_exists_and_eq_and]
  refine exists_congr fun s => and_congr_right fun hs => ?_
  rw [domainItems_serverKey (h s hs), List.mem_singleton]

/-- The key of a server always says something. -/
lemma domainItems_serverKey_ne_nil (s : String) : domainItems D ("full:" ++ s) ≠ [] := by
  obtain ⟨piece, pieces, hsplit⟩ := List.exists_cons_of_ne_nil (split_ne_nil s ',')
  rw [domainItems, split_append (by decide), hsplit, List.modifyHead_cons, List.filterMap_cons,
    domainItem_full]
  exact List.cons_ne_nil _ _

/-- The payload of an item with the prefix `full:` has no comma. -/
lemma comma_of_full_mem (hlower : ∀ s, ',' ∈ (D.toLower s).toList ↔ ',' ∈ s.toList)
    {list d : String} (h : .full d ∈ domainItems D list) : ',' ∉ d.toList := by
  obtain ⟨piece, hpiece, hitem⟩ := List.mem_filterMap.mp h
  have hcomma := not_mem_of_mem_split hpiece
  simp only [domainItem] at hitem
  split_ifs at hitem with hgeosite hfull <;>
    simp only [Option.some.injEq, DomainItem.full.injEq, reduceCtorEq] at hitem
  rw [← hitem, hlower, trimPrefix, if_pos hfull, String.toList_ofList]
  exact fun hmem => hcomma (List.mem_of_mem_drop hmem)

/-! ### Items as conditions -/

/-- A name that meets one item only. -/
def DomainItem.only : DomainItem → Name
  | .geosite s => { geosite := (· == s) }
  | .full s => { domain := (· == s) }
  | .suffix s => { domainSuffix := (· == s) }
  | .regexp s => { domainRegex := (· == s) }
  | .keyword s => { domainKeyword := (· == s) }

lemma DomainItem.matches_only (i j : DomainItem) : j.matches? i.only = true ↔ j = i := by
  cases i <;> cases j <;> simp [DomainItem.only, DomainItem.matches?]

/-- The conditions of two lists are met by the same names when the lists have the same items. -/
lemma any_matches_iff {items : List DomainItem} {wanted : DomainItem → Prop} :
    (∀ n, items.any (·.matches? n) = true ↔ ∃ i, wanted i ∧ i.matches? n = true) ↔
      ∀ i, i ∈ items ↔ wanted i := by
  constructor
  · intro h i
    have hi := h i.only
    simpa [List.any_eq_true, DomainItem.matches_only] using hi
  · intro h n
    simp [List.any_eq_true, h]

/-! ### The prepended rule -/

/-- What `addForceDirect` does to the DNS options. -/
lemma addForceDirect_dns (order : MapOrder) (opt : ConfigOptions) (domains : List String)
    {options : Options} {dns : Singbox.DNSOptions} (h : options.dns = some dns) :
    (addForceDirect D order opt domains options).dns = some { dns with
      rules := forceDirectRules D order (forceDirectDomains D opt domains) ++ dns.rules } := by
  simp only [addForceDirect, forceDirectRules]
  split_ifs <;> simp [modifyDNS, h]

lemma forceDirectRule_matches (keys : List String) (q : Query) :
    dnsRuleMatches q (forceDirectRule D keys) =
      ((domainItems D (join keys ',')).isEmpty ||
        (domainItems D (join keys ',')).any (·.matches? q.name)) := by
  have hrule : forceDirectRule D keys = { ({ domains := join keys ',' } : Rule).makeDNSRule D with
      inbound := [], server := dnsDirectTag, disableCache := false } := by
    rw [makeDNSRule_eq, forceDirectRule, makeDNSRule_eq]
  rw [hrule, dnsRuleMatches_makeDNSRule]
  rfl

lemma forceDirectRule_isValid (hD : D.Documented) (keys : List String) :
    D.dnsRuleIsValid (forceDirectRule D keys) = !(domainItems D (join keys ',')).isEmpty := by
  have hrule : forceDirectRule D keys = { ({ domains := join keys ',' } : Rule).makeDNSRule D with
      server := dnsDirectTag, disableCache := false } := by
    rw [makeDNSRule_eq, forceDirectRule, makeDNSRule_eq]
  rw [hrule, dnsRuleIsValid_makeDNSRule hD]

/-- The items of the prepended rule are those of the keys, in whatever order these are met. -/
lemma mem_forceDirectItems (order : MapOrder) {keys : List String} (h : keys ≠ [])
    {item : DomainItem} : item ∈ domainItems D (join (order.toFun keys) ',') ↔
      ∃ k ∈ keys, item ∈ domainItems D k := by
  have hne : order.toFun keys ≠ [] := fun hnil => h (by simpa [hnil] using order.perm keys)
  simp only [domainItems_join hne, (order.perm keys).mem_iff]

/-- The rules are valid when the keys say something. -/
lemma forceDirectRules_isValid_iff (hD : D.Documented) (order : MapOrder) (keys : List String) :
    (∀ rule ∈ forceDirectRules D order keys, D.dnsRuleIsValid rule = true) ↔
      (keys ≠ [] → ∃ k ∈ keys, domainItems D k ≠ []) := by
  simp only [forceDirectRules]
  split_ifs with hkeys
  · rw [List.forall_mem_singleton, forceDirectRule_isValid hD, Bool.not_eq_true',
      List.isEmpty_eq_false_iff_exists_mem]
    simp only [mem_forceDirectItems order hkeys, hkeys, not_false_eq_true, forall_const, ne_eq,
      List.eq_nil_iff_forall_not_mem, not_forall, not_not]
    tauto
  · simp [hkeys]

/-- If they are valid they match the names that meet one of the items. -/
lemma forceDirectRules_matches {order : MapOrder} {keys : List String}
    (h : keys ≠ [] → ∃ k ∈ keys, domainItems D k ≠ []) (q : Query) :
    (forceDirectRules D order keys).any (dnsRuleMatches q) =
      (keys.flatMap (domainItems D)).any (·.matches? q.name) := by
  have hitems (hkeys : keys ≠ []) (item : DomainItem) :
      item ∈ domainItems D (join (order.toFun keys) ',') ↔
        item ∈ keys.flatMap (domainItems D) := by
    rw [mem_forceDirectItems order hkeys, List.mem_flatMap]
  simp only [forceDirectRules]
  split_ifs with hkeys
  · obtain ⟨k, hk, hne⟩ := h hkeys
    obtain ⟨item, hitem⟩ := List.exists_mem_of_ne_nil _ hne
    have hmem := (hitems hkeys item).mpr (List.mem_flatMap.mpr ⟨k, hk, hitem⟩)
    have hsome : (domainItems D (join (order.toFun keys) ',')).isEmpty = false :=
      List.isEmpty_eq_false_iff_exists_mem.mpr ⟨item, hmem⟩
    rw [List.any_cons, List.any_nil, Bool.or_false, forceDirectRule_matches, hsome, Bool.false_or,
      Bool.eq_iff_iff, List.any_eq_true, List.any_eq_true]
    simp only [hitems hkeys]
  · rw [not_not.mp hkeys]
    rfl

/-- What `ForcesDirect` asks of the rules. -/
lemma forcesDirect_iff_rules (order : MapOrder) (opt : ConfigOptions) (servers : List String) :
    ForcesDirect D order opt servers ↔
      (∀ rule ∈ forceDirectRules D order (forceDirectDomains D opt (serverKeys servers)),
        D.dnsRuleIsValid rule = true) ∧
      ∀ q, (forceDirectRules D order (forceDirectDomains D opt (serverKeys servers))).any
        (dnsRuleMatches q) = true ↔ ∃ d ∈ wantedNames D opt servers, AsksFor D q d := by
  constructor
  · intro h
    obtain ⟨rules, hrules, hvalid, hmatch⟩ := h { dns := some {} } {} rfl
    rw [addForceDirect_dns order opt (serverKeys servers) rfl, Option.some.injEq,
      Singbox.DNSOptions.mk.injEq] at hrules
    have heq := List.append_cancel_right hrules.2.1
    rw [heq]
    exact ⟨hvalid, hmatch⟩
  · intro h options dns hdns
    exact ⟨_, addForceDirect_dns order opt (serverKeys servers) hdns, h⟩

/-- The keys say something, and exactly what is wanted. -/
lemma forcesDirect_iff_items (hD : D.Documented) (order : MapOrder) (opt : ConfigOptions)
    (servers : List String) : ForcesDirect D order opt servers ↔
      (forceDirectDomains D opt (serverKeys servers) ≠ [] →
        ∃ k ∈ forceDirectDomains D opt (serverKeys servers), domainItems D k ≠ []) ∧
      ∀ item, (∃ k ∈ forceDirectDomains D opt (serverKeys servers), item ∈ domainItems D k) ↔
        IsWanted D opt servers item := by
  have hwanted (q : Query) : (∃ d ∈ wantedNames D opt servers, AsksFor D q d) ↔
      ∃ item, IsWanted D opt servers item ∧ item.matches? q.name = true := by
    constructor
    · rintro ⟨d, hd, hq⟩
      exact ⟨_, ⟨d, hd, rfl⟩, hq⟩
    · rintro ⟨_, ⟨d, hd, rfl⟩, hq⟩
      exact ⟨d, hd, hq⟩
  rw [forcesDirect_iff_rules, forceDirectRules_isValid_iff hD]
  refine and_congr_right fun hsome => ?_
  simp only [forceDirectRules_matches hsome, hwanted, ← List.mem_flatMap]
  rw [← any_matches_iff]
  exact ⟨fun h n => h { name := n }, fun h q => h q.name⟩

/-- The rule is valid and matches the wanted names exactly when the list can say them. -/
lemma forcesDirect_iff_forceable (hD : D.Documented)
    (hlower : ∀ s, ',' ∈ (D.toLower s).toList ↔ ',' ∈ s.toList) (order : MapOrder)
    (opt : ConfigOptions) (servers : List String) :
    ForcesDirect D order opt servers ↔ IsForceable D opt servers := by
  rw [forcesDirect_iff_items hD]
  simp only [mem_forceDirectDomains_iff, or_and_right, exists_or]
  constructor
  · rintro ⟨hsome, hitems⟩
    have hcomma : ∀ s ∈ servers, ',' ∉ s.toList := by
      intro s hs
      have hitem : IsWanted D opt servers (.full (D.toLower s)) :=
        ⟨s, List.mem_append_left _ hs, rfl⟩
      rw [← hlower]
      rcases (hitems _).mpr hitem with ⟨k, -, hk⟩ | ⟨k, -, hk⟩ <;> exact comma_of_full_mem hlower hk
    refine ⟨hcomma, fun host hhost item hitem => (hitems item).mp (.inr ⟨host, hhost, hitem⟩),
      fun hnil host hhost => ?_, fun name hname => ?_⟩
    · have hkeys : forceDirectDomains D opt (serverKeys servers) ≠ [] :=
        List.ne_nil_of_mem (mem_forceDirectDomains_iff.mpr (.inr hhost))
      rcases hsome hkeys with ⟨k, hk, -⟩ | ⟨k, hk, hne⟩
      · rw [hnil] at hk
        cases hk
      · rw [Option.mem_unique hhost hk]
        exact hne
    · have hitem : IsWanted D opt servers (.full (D.toLower name)) :=
        ⟨name, List.mem_append_right _ (by simpa using hname), rfl⟩
      rcases (hitems _).mpr hitem with hserver | hremote
      · obtain ⟨s, hs, heq⟩ := (mem_serverItems hcomma).mp hserver
        exact .inl ⟨s, hs, (DomainItem.full.inj heq).symm⟩
      · exact .inr hremote
  · rintro ⟨hcomma, hwanted, hnonempty, hnamed⟩
    refine ⟨fun hkeys => ?_, fun item => ⟨?_, ?_⟩⟩
    · rcases servers with _ | ⟨s, servers⟩
      · obtain ⟨k, hk⟩ := List.exists_mem_of_ne_nil _ hkeys
        rcases mem_forceDirectDomains_iff.mp hk with hk | hk
        · cases hk
        · exact .inr ⟨k, hk, hnonempty rfl k hk⟩
      · exact .inl ⟨_, List.mem_cons_self, domainItems_serverKey_ne_nil s⟩
    · rintro (hserver | ⟨host, hhost, hitem⟩)
      · obtain ⟨s, hs, rfl⟩ := (mem_serverItems hcomma).mp hserver
        exact ⟨s, List.mem_append_left _ hs, rfl⟩
      · exact hwanted host hhost item hitem
    · rintro ⟨d, hd, rfl⟩
      rcases List.mem_append.mp hd with hd | hd
      · exact .inl ((mem_serverItems hcomma).mpr ⟨d, hd, rfl⟩)
      · rcases hnamed d (by simpa using hd) with ⟨s, hs, heq⟩ | hremote
        · exact .inl ((mem_serverItems hcomma).mpr ⟨s, hs, heq ▸ rfl⟩)
        · exact .inr hremote

/-! ### The order of the keys -/

/-- Blocks that commute can be appended in any order. -/
lemma flatMap_perm {α β : Type*} {f : α → List β} {xs ys : List α} (hperm : xs.Perm ys)
    (h : ∀ x ∈ xs, ∀ y ∈ xs, f x ++ f y = f y ++ f x) : xs.flatMap f = ys.flatMap f := by
  induction hperm with
  | nil => rfl
  | cons x _ ih =>
    rw [List.flatMap_cons, List.flatMap_cons,
      ih fun y hy z hz => h y (List.mem_cons_of_mem x hy) z (List.mem_cons_of_mem x hz)]
  | swap x y zs =>
    have hxy : f y ++ f x = f x ++ f y := h y (by simp) x (by simp)
    simp only [List.flatMap_cons, ← List.append_assoc, hxy]
  | trans hxs _ ihxs ihys =>
    rw [ihxs h]
    exact ihys fun y hy z hz => h y (hxs.mem_iff.mpr hy) z (hxs.mem_iff.mpr hz)

/-- The items of a list of keys, in its order. -/
lemma domainItems_join_eq {keys : List String} (h : keys ≠ []) :
    domainItems D (join keys ',') = keys.flatMap (domainItems D) := by
  rw [domainItems, split_join ',' h, List.filterMap_flatMap]
  rfl

lemma forceDirectRule_eq {keys : List String} (h : keys ≠ []) :
    forceDirectRule D keys = {
      geosite := keys.flatMap fun k => (domainItems D k).filterMap DomainItem.geosite?
      domain := keys.flatMap fun k => (domainItems D k).filterMap DomainItem.full?
      domainSuffix := keys.flatMap fun k => (domainItems D k).filterMap DomainItem.suffix?
      domainRegex := keys.flatMap fun k => (domainItems D k).filterMap DomainItem.regexp?
      domainKeyword := keys.flatMap fun k => (domainItems D k).filterMap DomainItem.keyword?
      server := dnsDirectTag } := by
  rw [forceDirectRule, makeDNSRule_eq]
  simp only [domainItems_join_eq h, List.filterMap_flatMap]

/-- When any two keys say the same in either order, the order of all keys does not matter. -/
lemma forceDirectRule_perm {keys keys' : List String} (hperm : keys.Perm keys')
    (h : ∀ k ∈ keys, ∀ k' ∈ keys, forceDirectRule D [k, k'] = forceDirectRule D [k', k]) :
    forceDirectRule D keys = forceDirectRule D keys' := by
  rcases keys with _ | ⟨k, keys⟩
  · rw [List.nil_perm.mp hperm]
  · have hne : keys' ≠ [] := by
      rintro rfl
      exact absurd hperm.length_eq (by simp)
    have hfield (get : DefaultDNSRule → List String) (field? : DomainItem → Option String)
        (hget : ∀ {l : List String}, l ≠ [] → get (forceDirectRule D l) =
          l.flatMap fun k => (domainItems D k).filterMap field?) :
        (k :: keys).flatMap (fun k => (domainItems D k).filterMap field?) =
          keys'.flatMap fun k => (domainItems D k).filterMap field? := by
      refine flatMap_perm hperm fun x hx y hy => ?_
      have hpair := congrArg get (h x hx y hy)
      rw [hget (List.cons_ne_nil _ _), hget (List.cons_ne_nil _ _)] at hpair
      simpa using hpair
    have hgeosite := hfield (·.geosite) _ fun hl => by rw [forceDirectRule_eq hl]
    have hdomain := hfield (·.domain) _ fun hl => by rw [forceDirectRule_eq hl]
    have hsuffix := hfield (·.domainSuffix) _ fun hl => by rw [forceDirectRule_eq hl]
    have hregex := hfield (·.domainRegex) _ fun hl => by rw [forceDirectRule_eq hl]
    have hkeyword := hfield (·.domainKeyword) _ fun hl => by rw [forceDirectRule_eq hl]
    rw [forceDirectRule_eq (List.cons_ne_nil k keys), forceDirectRule_eq hne, hgeosite, hdomain,
      hsuffix, hregex, hkeyword]

/-- Two keys that can be swapped before others can be swapped on their own. -/
lemma forceDirectRule_swap {k k' : String} {keys : List String}
    (h : forceDirectRule D (k :: k' :: keys) = forceDirectRule D (k' :: k :: keys)) :
    forceDirectRule D [k, k'] = forceDirectRule D [k', k] := by
  simp only [forceDirectRule_eq (List.cons_ne_nil _ _), DefaultDNSRule.mk.injEq,
    List.flatMap_cons, ← List.append_assoc, List.append_cancel_right_eq, List.flatMap_nil,
    List.append_nil] at h ⊢
  exact h

/-! ### The rules of a document -/

/-- The keys that the loop of `setOutbounds` collects. -/
def collectedKeys (D : Deps) (env : BuildEnv) (opt : ConfigOptions) (input : Options) :
    List String :=
  match collect D (scannedOptions env opt input) env.outbound input.outbounds 0 {} with
  | .ok acc => acc.directDNSDomains
  | _ => []

/-- All the DNS rules of the document are valid. -/
def DNSRulesValid (D : Deps) (out : Options) : Prop :=
  ∃ dns, out.dns = some dns ∧ ∀ rule ∈ dns.rules, D.dnsRuleIsValid rule = true

lemma serverDomain_eq {obj : JObj} (h : serverDomain D obj ≠ "") :
    ∃ s, serverDomain D obj = "full:" ++ s := by
  simp only [serverDomain] at h ⊢
  split at h
  · split_ifs at h ⊢
    · exact ⟨_, rfl⟩
    · exact absurd rfl h
  · exact absurd rfl h

lemma patches_serverDomain {opt : ConfigOptions} {draws : Nat → Draws} {i : Nat}
    {outs : List Outbound} {ps : List Patched} (h : Patches D opt draws i outs ps) :
    ∀ p ∈ ps, p.serverDomain ≠ "" → ∃ s, p.serverDomain = "full:" ++ s := by
  induction h with
  | nil => simp
  | cons hp _ ih =>
    intro p hmem hne
    rcases List.mem_cons.mp hmem with rfl | hmem
    · obtain ⟨_, obj, _, -, -, hdomain, -⟩ := patchOutbound_steps hp
      rw [hdomain] at hne ⊢
      exact serverDomain_eq hne
    · exact ih p hmem hne

/-- The loop collects nothing else. -/
lemma of_mem_collected {opt : ConfigOptions} {ps : List Patched} {acc : Collected} {d : String}
    (h : d ∈ (ps.foldl (Collected.add opt) acc).directDNSDomains) :
    d ∈ acc.directDNSDomains ∨ ∃ p ∈ ps, p.serverDomain ≠ "" ∧ p.serverDomain = d := by
  induction ps generalizing acc with
  | nil => exact .inl h
  | cons p ps ih =>
    rcases ih h with h | ⟨p', hp', hd⟩
    · rw [add_directDNSDomains] at h
      split_ifs at h with hne
      · rcases mem_addDomain.mp h with h | rfl
        · exact .inl h
        · exact .inr ⟨p, List.mem_cons_self, hne, rfl⟩
      · exact .inl h
    · exact .inr ⟨p', List.mem_cons_of_mem _ hp', hd⟩

/-- Every collected key is the name of a server behind the prefix. -/
lemma collectedKeys_eq (env : BuildEnv) (opt : ConfigOptions) (input : Options) :
    ∃ servers, collectedKeys D env opt input = serverKeys servers := by
  have hkeys : collectedKeys D env opt input ∈ Set.range (List.map ("full:" ++ ·)) := by
    rw [Set.range_list_map]
    intro k hk
    simp only [collectedKeys] at hk
    split at hk
    · rename_i acc hacc
      obtain ⟨ps, hps, rfl⟩ := collect_eq_ok.mp hacc
      rcases of_mem_collected hk with hk | ⟨p, hp, hne, rfl⟩
      · cases hk
      · obtain ⟨s, hs⟩ := patches_serverDomain hps p hp hne
        exact ⟨s, hs.symm⟩
    · cases hk
  obtain ⟨servers, hservers⟩ := hkeys
  exact ⟨servers, hservers.symm⟩

/-- The rule of `addForceDirect` is the only one that can be invalid. -/
lemma dnsRulesValid_iff (hD : D.Documented) {env : BuildEnv} {opt : ConfigOptions}
    {input out : Options} {tag : String} (b : Built D env opt input tag out) :
    DNSRulesValid D out ↔
      ∀ rule ∈ forceDirectRules D env.keyOrder (forceDirectKeys D env opt input),
        D.dnsRuleIsValid rule = true := by
  constructor
  · rintro ⟨dns, hdns, hvalid⟩ rule hrule
    exact hvalid rule ((mem_dnsRules b hdns).mpr (.inl hrule))
  · intro h
    obtain ⟨dns, hdns, -⟩ := b.answersBy
    refine ⟨dns, hdns, fun rule hrule => ?_⟩
    rcases (mem_dnsRules b hdns).mp hrule with hforce | ⟨-, hvalid, -⟩ | ⟨-, rfl⟩
    · exact h rule hforce
    · exact hvalid
    · exact dnsRuleIsValid_inbound hD _ (List.cons_ne_nil _ _)

/-- The rule has no condition when nothing was collected and the key of the remote DNS address, if
there is one, says nothing. -/
lemma forceDirectRules_isValid_servers (hD : D.Documented) (order : MapOrder) (opt : ConfigOptions)
    (servers : List String) :
    (∀ rule ∈ forceDirectRules D order (forceDirectDomains D opt (serverKeys servers)),
      D.dnsRuleIsValid rule = true) ↔
      (servers = [] → ∀ host ∈ remoteKey D opt, domainItems D host ≠ []) := by
  rw [forceDirectRules_isValid_iff hD]
  simp only [mem_forceDirectDomains_iff]
  rcases servers with _ | ⟨s, servers⟩
  · simp only [serverKeys, List.map_nil, List.not_mem_nil, false_or, forall_const]
    constructor
    · intro h host hhost
      have hkeys : forceDirectDomains D opt [] ≠ [] :=
        List.ne_nil_of_mem (mem_forceDirectDomains_iff.mpr (.inr hhost))
      obtain ⟨k, hk, hne⟩ := h hkeys
      rw [Option.mem_unique hhost hk]
      exact hne
    · intro h hkeys
      obtain ⟨k, hk⟩ := List.exists_mem_of_ne_nil _ hkeys
      have hremote := (mem_forceDirectDomains_iff.mp hk).resolve_left List.not_mem_nil
      exact ⟨k, hremote, h k hremote⟩
  · refine iff_of_true (fun _ => ?_) fun h => absurd h (List.cons_ne_nil _ _)
    exact ⟨_, .inl List.mem_cons_self, domainItems_serverKey_ne_nil s⟩

/-- `addForceDirect` does what it should exactly when the list can say the wanted names, and the
DNS rules of a document are valid exactly when a server name was collected or the key of the remote
DNS address, if there is one, says something. -/
theorem forcesDirect_iff (hD : D.Documented)
    (hlower : ∀ s, ',' ∈ (D.toLower s).toList ↔ ',' ∈ s.toList) :
    (∀ (order : MapOrder) (opt : ConfigOptions) (servers : List String),
      ForcesDirect D order opt servers ↔ IsForceable D opt servers) ∧
    ∀ (env : BuildEnv) (opt : ConfigOptions) (input out : Options) (g g' : Globals),
      buildConfig D env opt input g = (.ret (.ok out), g') →
        ∃ servers, collectedKeys D env opt input = serverKeys servers ∧
          (DNSRulesValid D out ↔
            (servers = [] → ∀ host ∈ remoteKey D opt, domainItems D host ≠ [])) := by
  refine ⟨forcesDirect_iff_forceable hD hlower, fun env opt input out g g' h => ?_⟩
  obtain ⟨b⟩ := buildConfig_ok h
  obtain ⟨servers, hservers⟩ := collectedKeys_eq (D := D) env opt input
  refine ⟨servers, hservers, ?_⟩
  have hkeys : forceDirectKeys D env opt input =
      forceDirectDomains D opt (collectedKeys D env opt input) := by
    rw [forceDirectKeys, collectedKeys, collect_eq_ok.mpr ⟨b.patched, b.patches, rfl⟩]
  rw [dnsRulesValid_iff hD b, hkeys, hservers]
  exact forceDirectRules_isValid_servers hD env.keyOrder opt servers

lemma toLower_eq_comma_iff (c : Char) : c.toLower = ',' ↔ c = ',' := by
  unfold Char.toLower
  split_ifs with h
  · have hge := UInt32.le_iff_toNat_le.mp h.1
    have hle := UInt32.le_iff_toNat_le.mp h.2
    constructor
    · intro heq
      have hval := congrArg (fun d : Char => d.val.toNat) heq
      simp only [UInt32.toNat_add, UInt32.reduceSub, Char.reduceVal, UInt32.reduceToNat]
        at hval hge hle
      omega
    · rintro rfl
      exact absurd hge (by decide)
  · rfl

lemma comma_toLower (s : String) :
    ',' ∈ (Reference.deps.toLower s).toList ↔ ',' ∈ s.toList := by
  simp [Reference.deps, toLower_eq_comma_iff]

/-- Options whose remote DNS server has a name and a port. -/
def namedRemote : ConfigOptions :=
  { defaultConfigOptions with remoteDnsAddress := "tls://dns.google:853" }

/-- The rule of a document is valid for the name of its proxy, though that of the remote DNS address
is skipped. -/
theorem forcesDirect_proxy :
    ForcesDirect Codec.deps ⟨id, fun keys => .refl keys⟩ defaultConfigOptions
        ["proxy.example"] ∧
      DNSRulesValid Codec.deps
        (documentOf (buildConfig Codec.deps {} namedRemote namedInput {}).1) := by
  have hbuilt : isDocument (buildConfig Codec.deps {} namedRemote namedInput {}).1 = true := by
    decide
  have hremote : remoteKey Codec.deps defaultConfigOptions = none := by decide
  have hname : remoteName Codec.deps defaultConfigOptions = none := by decide
  obtain ⟨hforces, hvalid⟩ := forcesDirect_iff Codec.deps_documented comma_toLower
  refine ⟨(hforces _ _ _).mpr ⟨by decide, ?_, ?_, ?_⟩, ?_⟩
  · simp [hremote]
  · simp [hremote]
  · simp [hname]
  · obtain ⟨servers, hservers, hiff⟩ := hvalid _ _ _ _ _ _ (Prod.ext (eq_documentOf hbuilt) rfl)
    refine hiff.mpr fun hnone => ?_
    have hcollected : collectedKeys Codec.deps {} namedRemote namedInput ≠ [] := by decide
    rw [hservers, hnone] at hcollected
    exact absurd rfl hcollected

/-- The name is skipped, and the rule that is prepended for it alone has no condition. -/
theorem not_forcesDirect :
    ¬ ∀ D : Deps, D.Documented → (∀ s, ',' ∈ (D.toLower s).toList ↔ ',' ∈ s.toList) →
      (∀ (order : MapOrder) (opt : ConfigOptions) (servers : List String),
        ForcesDirect D order opt servers) ∧
      ∀ (env : BuildEnv) (opt : ConfigOptions) (input out : Options) (g g' : Globals),
        buildConfig D env opt input g = (.ret (.ok out), g') → DNSRulesValid D out := by
  intro h
  obtain ⟨hforces, -⟩ := h _ Reference.deps_documented comma_toLower
  have hforceable := (forcesDirect_iff_forceable Reference.deps_documented comma_toLower
    ⟨id, fun keys => .refl keys⟩ namedRemote []).mp (hforces _ _ _)
  have hremote : remoteKey Reference.deps namedRemote = some "dns.google:853" := by decide
  exact absurd (hforceable.nonempty rfl _ hremote) (by decide)

end HiddifyCore.Routing
