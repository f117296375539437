import Mathlib.Data.Bool.AllAny
import HiddifyCore.Config.OwnServers
import HiddifyCore.Routing.ForceDirect
import HiddifyCore.Warp.Endpoint

/-!
# Names for placeholder servers

`patchWarp` draws a name for a WireGuard outbound whose server is a placeholder and writes the
addresses for it to `StaticIPs`. The outbound then goes through JSON, where `patchOutbound` reads
the name back for the map of the direct domains, and `addForceDirect` splits a list of the keys of
that map into the conditions of the first DNS rule. A drawn name passes all of this unchanged.
-/

namespace HiddifyCore.Routing

open GoLib GoLib.Strings Singbox Config Warp

variable {D : Deps}

/-- What the standard library documents about texts: `ToLower` maps ASCII characters one by one,
and `ParseIP` finds no address in a text without a separator. -/
structure DocumentedText (D : Deps) : Prop where
  toLower_ascii (s : String) (h : ∀ c ∈ s.toList, c.toNat < 128) :
    D.toLower s = String.ofList (s.toList.map Char.toLower)
  isIP_sep (s : String) (h : D.isIP s = true) : '.' ∈ s.toList ∨ ':' ∈ s.toList

/-- The two addresses that `patchWarp` gets are those of calls of `RandomWarpEndpoint`. -/
structure DrawsEndpoints (draws : Draws) : Prop where
  endpoint4 : ∃ d, endpointText (randomWarpEndpoint d true false) = some draws.endpoint4
  endpoint6 : ∃ d, endpointText (randomWarpEndpoint d false true) = some draws.endpoint6

/-- The names that are drawn for the outbounds from position `i` on. -/
def drawnNames (D : Deps) (draws : Nat → Draws) (opt : ConfigOptions) (outs : List Outbound)
    (i : Nat) : List String :=
  (outs.zipIdx i).flatMap fun out =>
    match patchWarp D (draws out.2) out.1 (some opt) true with
    | .ok (_, writes) => writes.map Prod.fst
    | _ => []

/-- One address of each family that the placeholder stands for, all of WARP. -/
def AnswersPlaceholder (host : String) (ips : List String) : Prop :=
  ∃ addrs : List Addr, ips = addrs.map Addr.string ∧ (∀ ip ∈ addrs, IsWarpAddr ip) ∧
    addrs.countP Addr.is4 = (if host = "auto6" then 0 else 1) ∧
    addrs.countP Addr.is6 = (if host = "auto4" then 0 else 1)

/-- The server that a placeholder became has its addresses, and the first DNS rule has it. -/
structure IsResolvable (host server : String) (dns : Singbox.DNSOptions) : Prop where
  answered : ∃ ips, dns.staticIPs.lookup server = some ips ∧ AnswersPlaceholder host ips
  direct : ∃ rule rules, dns.rules = rule :: rules ∧ server ∈ rule.domain

/-- Every input outbound that is resolved to a WireGuard outbound with a placeholder for its server
and no detour is found in the document with a server that is resolvable. -/
def PlaceholdersResolvable (D : Deps) (env : BuildEnv) (opt : ConfigOptions)
    (input out : Options) : Prop :=
  ∀ k i base writes, input.outbounds[k]? = some i →
    patchWarp D (env.outbound k) i (some opt) false = .ok (base, writes) →
    base.type = .wireguard → base.wireGuardOptions.detour = "" →
    IsPlaceholderName base.wireGuardOptions.server →
      ∃ o ∈ out.outbounds, EmittedFrom D env.outbound opt o (i, k) ∧ o.type = .wireguard ∧
        ∃ dns, out.dns = some dns ∧
          IsResolvable base.wireGuardOptions.server o.wireGuardOptions.server dns

/-! ### The name -/

/-- The name that a call of `patchWarp` draws. -/
def drawnName (D : Deps) (draws : Draws) : String :=
  D.toLower (generateRandomString draws.random 20)

lemma mem_generateRandomString {random : Option (Nat → UInt8)} {length : Nat} {c : Char}
    (h : c ∈ (generateRandomString random length).toList) : c ∈ '=' :: base64URLAlphabet := by
  cases random with
  | none =>
    have hname : ∀ c ∈ "hiddify".toList, c ∈ '=' :: base64URLAlphabet :=
      List.all_iff_forall_prop.mp (by decide)
    exact hname c h
  | some bytes =>
    rw [generateRandomString, String.toList_ofList] at h
    exact mem_base64URL (List.mem_of_mem_take h)

/-- What lower-casing makes of the characters of a drawn name. -/
lemma toLower_nameChar : ∀ c ∈ '=' :: base64URLAlphabet, c.toNat < 128 ∧ c.toLower.toNat < 128 ∧
    c.toLower.toLower = c.toLower ∧ c.toLower ∉ [',', '.', ':'] :=
  List.all_iff_forall_prop.mp (by decide)

lemma toList_drawnName (ht : DocumentedText D) (draws : Draws) : (drawnName D draws).toList =
    (generateRandomString draws.random 20).toList.map Char.toLower := by
  rw [drawnName, ht.toLower_ascii _ fun c hc =>
    (toLower_nameChar c (mem_generateRandomString hc)).1, String.toList_ofList]

lemma generateRandomString_ne_empty (random : Option (Nat → UInt8)) :
    generateRandomString random 20 ≠ "" := by
  cases random with
  | none => decide
  | some bytes =>
    intro h
    have hlist := congrArg String.toList h
    rw [generateRandomString, String.toList_ofList] at hlist
    cases hlist

lemma drawnName_char (ht : DocumentedText D) {draws : Draws} {c : Char}
    (h : c ∈ (drawnName D draws).toList) :
    c.toNat < 128 ∧ c.toLower = c ∧ c ∉ [',', '.', ':'] := by
  rw [toList_drawnName ht] at h
  obtain ⟨b, hb, rfl⟩ := List.mem_map.mp h
  exact (toLower_nameChar b (mem_generateRandomString hb)).2

/-- A drawn name is in lower case. -/
lemma toLower_drawnName (ht : DocumentedText D) (draws : Draws) :
    D.toLower (drawnName D draws) = drawnName D draws := by
  rw [ht.toLower_ascii _ fun c hc => (drawnName_char ht hc).1,
    List.map_congr_left fun c hc => (drawnName_char ht hc).2.1]
  simp

/-- It is a name, and a list cannot split it. -/
lemma isServerName_drawnName (ht : DocumentedText D) (draws : Draws) :
    IsServerName D (drawnName D draws) := by
  refine ⟨fun hempty => ?_, ?_, fun hcomma => (drawnName_char ht hcomma).2.2 (by decide)⟩
  · have hlist := toList_drawnName ht draws
    rw [hempty] at hlist
    have hnil : (generateRandomString draws.random 20).toList = [] :=
      List.map_eq_nil_iff.mp hlist.symm
    exact generateRandomString_ne_empty draws.random (String.toList_eq_nil_iff.mp hnil)
  · by_contra hip
    rw [Bool.not_eq_false] at hip
    rcases ht.isIP_sep _ hip with h | h <;> exact (drawnName_char ht h).2.2 (by decide)

/-! ### One outbound -/

/-- A final patch is the resolution of the custom options and then the end of `patchWarp`. -/
lemma patchWarp_final {draws : Draws} {i base : Outbound} {opt : ConfigOptions}
    {writes : List StaticIP} (h : patchWarp D draws i (some opt) false = .ok (base, writes)) :
    patchWarp D draws i (some opt) true = .ok (finishWarp D draws base true) := by
  rcases patchWarp_resolved h with ⟨hnone, rfl⟩ | ⟨warp, config, hwarp, hconfig, rfl⟩
  · rw [patchWarp, hnone]
  · rw [patchWarp, hwarp]
    simp only [hconfig, Outcome.bind_ok]
    rfl

lemma finishWireGuard_writes (draws : Draws) (wg : WireGuardOutboundOptions) :
    (finishWireGuard D draws wg).2 =
      if isPlaceholder draws wg.server then (placeholderServer D draws wg.server wg.detour).2
      else [] := by
  unfold finishWireGuard
  dsimp only
  split_ifs <;> rfl

/-- The addresses that `patchWarp` writes for a placeholder. -/
def placeholderIPs (draws : Draws) (host : String) : List String :=
  (if host ≠ "auto4" then [draws.endpoint6] else []) ++
    if host ≠ "auto6" then [draws.endpoint4] else []

lemma isPlaceholder_of_name {draws : Draws} {host : String} (h : IsPlaceholderName host) :
    isPlaceholder draws host = true := by
  simp only [IsPlaceholderName, List.mem_cons, List.not_mem_nil, or_false] at h
  rcases h with rfl | rfl | rfl | rfl | rfl <;> rfl

lemma finishWireGuard_placeholder {draws : Draws} {wg : WireGuardOutboundOptions}
    (hdetour : wg.detour = "") (hname : IsPlaceholderName wg.server) :
    (finishWireGuard D draws wg).1.server = drawnName D draws ∧
      (finishWireGuard D draws wg).2 =
        [(drawnName D draws, placeholderIPs draws wg.server)] := by
  rw [finishWireGuard_server, finishWireGuard_writes, if_pos (isPlaceholder_of_name hname),
    if_pos (isPlaceholder_of_name hname), placeholderServer, if_neg (not_not.mpr hdetour)]
  exact ⟨rfl, rfl⟩

/-- The addresses are those that the placeholder stands for. -/
lemma answersPlaceholder {draws : Draws} (hdraws : DrawsEndpoints draws) {host : String} :
    AnswersPlaceholder host (placeholderIPs draws host) := by
  obtain ⟨⟨d4, h4⟩, ⟨d6, h6⟩⟩ := hdraws
  obtain ⟨ip4, htext4, hwarp4, hasked4⟩ := endpointText_eq rfl h4
  obtain ⟨ip6, htext6, hwarp6, hasked6⟩ := endpointText_eq rfl h6
  rcases ip4 with a4 | a4 <;> simp only [isAsked, Addr.is4, Addr.is6, Bool.and_false,
    Bool.false_and, Bool.or_self, Bool.false_eq_true] at hasked4
  rcases ip6 with a6 | a6 <;> simp only [isAsked, Addr.is4, Addr.is6, Bool.and_false,
    Bool.false_and, Bool.or_self, Bool.false_eq_true] at hasked6
  by_cases hauto4 : host = "auto4"
  · subst hauto4
    exact ⟨[.v4 a4], by simp [placeholderIPs, htext4], by simp [hwarp4], rfl, rfl⟩
  by_cases hauto6 : host = "auto6"
  · subst hauto6
    exact ⟨[.v6 a6], by simp [placeholderIPs, htext6], by simp [hwarp6], rfl, rfl⟩
  refine ⟨[.v6 a6, .v4 a4], by simp [placeholderIPs, hauto4, hauto6, htext4, htext6],
    by simp [hwarp4, hwarp6], ?_, ?_⟩
  · rw [if_neg hauto6]
    rfl
  · rw [if_neg hauto4]
    rfl

/-- What a patched outbound with a placeholder carries. -/
lemma patchOutbound_placeholder (hD : D.Documented) (hserver : ServerKeyed D) {draws : Draws}
    {i base : Outbound} {opt : ConfigOptions} {writes : List StaticIP} {p : Patched}
    (h : patchWarp D draws i (some opt) false = .ok (base, writes)) (htype : base.type = .wireguard)
    (hdetour : base.wireGuardOptions.detour = "")
    (hname : IsPlaceholderName base.wireGuardOptions.server)
    (hp : patchOutbound D draws i opt = .ok p) :
    p.outbound.type = .wireguard ∧ p.outbound.wireGuardOptions.server = drawnName D draws ∧
      p.staticIPs = [(drawnName D draws, placeholderIPs draws base.wireGuardOptions.server)] := by
  obtain ⟨base', obj, obj', hwarp, hobj, -, hsame, hout⟩ := patchOutbound_steps hp
  obtain ⟨hnamed, hwrites⟩ := @finishWireGuard_placeholder D draws _ hdetour hname
  rw [patchWarp_final h, Outcome.ok.injEq, finishWarp, if_pos ⟨rfl, htype⟩, Prod.mk.injEq] at hwarp
  obtain ⟨rfl, hstatic⟩ := hwarp
  have hkey := hsame "type" (by decide)
  have hpatched : p.outbound.type = .wireguard := (hD.type_of_key hobj hout hkey).trans htype
  have haddress := hserver.server_of_key hobj hout hkey (hsame "server" (by decide))
  simp only [Outbound.server, hpatched, htype] at haddress
  exact ⟨hpatched, haddress.trans hnamed, hstatic.symm.trans hwrites⟩

/-! ### The static addresses -/

lemma lookup_setStaticIP (staticIPs : List StaticIP) (entry : StaticIP) (name : String) :
    (setStaticIP staticIPs entry).lookup name =
      if name = entry.1 then some entry.2 else staticIPs.lookup name := by
  obtain ⟨key, ips⟩ := entry
  rw [setStaticIP, List.lookup_cons]
  split_ifs with heq
  · rw [heq, beq_self_eq_true]
  · rw [beq_eq_false_iff_ne.mpr heq]
    induction staticIPs with
    | nil => rfl
    | cons other rest ih =>
      obtain ⟨other, ips'⟩ := other
      rw [List.filter_cons, List.lookup_cons]
      by_cases hother : other = key
      · have hne : (name == other) = false := beq_eq_false_iff_ne.mpr (hother ▸ heq)
        rw [hne]
        simpa [hother] using ih
      · simp only [ne_eq, hother, not_false_eq_true, decide_true, if_true, List.lookup_cons, ih]

/-- A name that is written once keeps its addresses. -/
lemma lookup_writes {entries : List StaticIP} (h : (entries.map Prod.fst).Nodup)
    {entry : StaticIP} (hmem : entry ∈ entries) (staticIPs : List StaticIP) :
    (entries.foldl setStaticIP staticIPs).lookup entry.1 = some entry.2 := by
  have hother (name : String) (es st : List StaticIP) (hname : name ∉ es.map Prod.fst) :
      (es.foldl setStaticIP st).lookup name = st.lookup name := by
    induction es generalizing st with
    | nil => rfl
    | cons e es ih =>
      rw [List.map_cons, List.mem_cons, not_or] at hname
      rw [List.foldl_cons, ih _ hname.2, lookup_setStaticIP, if_neg hname.1]
  induction entries generalizing staticIPs with
  | nil => cases hmem
  | cons e es ih =>
    rw [List.map_cons, List.nodup_cons] at h
    rw [List.foldl_cons]
    rcases List.mem_cons.mp hmem with rfl | hmem
    · rw [hother _ _ _ h.1, lookup_setStaticIP, if_pos rfl]
    · exact ih h.2 hmem _

lemma collected_staticIPs (opt : ConfigOptions) (ps : List Patched) (acc : Collected) :
    (ps.foldl (Collected.add opt) acc).staticIPs =
      (ps.flatMap Patched.staticIPs).foldl setStaticIP acc.staticIPs := by
  induction ps generalizing acc with
  | nil => rfl
  | cons p ps ih =>
    rw [List.foldl_cons, ih, List.flatMap_cons, List.foldl_append]
    congr 1
    unfold Collected.add
    dsimp only
    split_ifs <;> rfl

/-- The drawn names are those that the loop writes. -/
lemma patches_drawnNames {opt : ConfigOptions} {draws : Nat → Draws} {i : Nat}
    {outs : List Outbound} {ps : List Patched} (h : Patches D opt draws i outs ps) :
    drawnNames D draws opt outs i = (ps.flatMap Patched.staticIPs).map Prod.fst := by
  induction h with
  | nil => rfl
  | cons hp _ ih =>
    obtain ⟨base', _, _, hwarp, -⟩ := patchOutbound_steps hp
    rw [drawnNames, List.zipIdx_cons, List.flatMap_cons, hwarp, List.flatMap_cons, List.map_append,
      ← ih]
    rfl

/-- The outbound at a position is patched with the draws of that position. -/
lemma patches_getElem? {opt : ConfigOptions} {draws : Nat → Draws} {i : Nat}
    {outs : List Outbound} {ps : List Patched} (h : Patches D opt draws i outs ps) {k : Nat}
    {out : Outbound} (hk : outs[k]? = some out) :
    ∃ p ∈ ps, patchOutbound D (draws (i + k)) out opt = .ok p := by
  induction h generalizing k with
  | nil => simp at hk
  | @cons i out' p outs ps hp _ ih =>
    cases k with
    | zero =>
      rw [List.getElem?_cons_zero, Option.some.injEq] at hk
      exact ⟨p, List.mem_cons_self, hk ▸ hp⟩
    | succ k =>
      obtain ⟨p', hp', hpatch⟩ := ih (by simpa using hk)
      rw [Nat.add_assoc, Nat.add_comm 1 k] at hpatch
      exact ⟨p', List.mem_cons_of_mem _ hp', hpatch⟩

/-! ### The document -/

lemma assembleOutbounds_staticIPs (order : MapOrder) (opt : ConfigOptions) (warp : List Outbound)
    (acc : Collected) {options : Options} {dns : Singbox.DNSOptions} (h : options.dns = some dns) :
    ∃ dns', (assembleOutbounds D order opt warp acc options).dns = some dns' ∧
      dns'.staticIPs = acc.staticIPs := by
  have hstatic : (modifyDNS (fun dns => { dns with staticIPs := acc.staticIPs }) options).dns =
      some { dns with staticIPs := acc.staticIPs } := by
    rw [modifyDNS, h, Option.map_some]
  exact ⟨_, addForceDirect_dns order opt acc.directDNSDomains hstatic, rfl⟩

/-- The static addresses of a document are those of the prepared one and what the patches write. -/
lemma staticIPs_eq {env : BuildEnv} {opt : ConfigOptions} {input out : Options} {tag : String}
    (b : Built D env opt input tag out) {dns : Singbox.DNSOptions} (hdns : out.dns = some dns) :
    dns.staticIPs = (b.patched.flatMap Patched.staticIPs).foldl setStaticIP
      (staticIPsOf (prepared D env opt input tag)) := by
  obtain ⟨dns₀, hprepared, -⟩ :=
    ((setDns_answersBy env (withSecret env opt) _).setRoutingOptions D tag
      (withSecret env opt)).setFakeDns (withSecret env opt)
  obtain ⟨dns', hdns', hstatic⟩ := assembleOutbounds_staticIPs env.keyOrder
    (scannedOptions env opt input) b.warp (b.patched.foldl (Collected.add _)
      { staticIPs := staticIPsOf (prepared D env opt input tag) }) hprepared
  have hout : out.dns = some dns' := (congrArg Options.dns b.out_eq).trans hdns'
  rw [hdns, Option.some.injEq] at hout
  rw [hout, hstatic, collected_staticIPs]

/-- A collected name is a condition of the rule that is prepended. -/
lemma mem_forceDirectRule_domain (order : MapOrder) {keys : List String} {s : String}
    (h : "full:" ++ s ∈ keys) (hcomma : ',' ∉ s.toList) :
    D.toLower s ∈ (forceDirectRule D (order.toFun keys)).domain := by
  have hkey : "full:" ++ s ∈ order.toFun keys := (order.perm keys).mem_iff.mpr h
  rw [forceDirectRule_eq (List.ne_nil_of_mem hkey), List.mem_flatMap]
  refine ⟨_, hkey, ?_⟩
  rw [domainItems_serverKey hcomma]
  exact List.mem_singleton_self _

/-- A drawn name that a patched outbound carries is found in the document. -/
lemma isResolvable_of_patched (hserver : ServerKeyed D) (ht : DocumentedText D) {env : BuildEnv}
    {opt : ConfigOptions} {input out : Options} {tag : String} (b : Built D env opt input tag out)
    (hnames : ((b.patched.flatMap Patched.staticIPs).map Prod.fst).Nodup) {draws : Draws}
    (hdraws : DrawsEndpoints draws) {p : Patched} (hp : p ∈ b.patched) {host : String}
    (hname : p.outbound.server = drawnName D draws)
    (hwrites : p.staticIPs = [(drawnName D draws, placeholderIPs draws host)]) :
    ∃ dns, out.dns = some dns ∧ IsResolvable host (drawnName D draws) dns := by
  obtain ⟨dns, hdns, -, hrules⟩ := b.answersBy
  refine ⟨dns, hdns, ⟨placeholderIPs draws host, ?_, answersPlaceholder hdraws⟩, ?_⟩
  · have hentry : (drawnName D draws, placeholderIPs draws host) ∈
        b.patched.flatMap Patched.staticIPs :=
      List.mem_flatMap.mpr ⟨p, hp, hwrites ▸ List.mem_singleton_self _⟩
    rw [staticIPs_eq b hdns]
    exact lookup_writes hnames hentry _
  · have hisName := isServerName_drawnName ht draws
    have hdomain := patches_server hserver b.patches p hp (hname ▸ hisName)
    have hkey := mem_forceDirectKeys b hp (by rw [hdomain]; simp)
    rw [hdomain, hname] at hkey
    have hcondition := mem_forceDirectRule_domain (D := D) env.keyOrder hkey hisName.2.2
    rw [toLower_drawnName ht] at hcondition
    rw [forceDirectRules, if_pos (List.ne_nil_of_mem hkey)] at hrules
    exact ⟨_, _, hrules, hcondition⟩

/-- With names that are drawn pairwise distinct the servers that placeholders became are
resolvable. -/
theorem buildConfig_placeholdersResolvable (hD : D.Documented) (hserver : ServerKeyed D)
    (ht : DocumentedText D) {env : BuildEnv} (hdraws : ∀ k, DrawsEndpoints (env.outbound k))
    {opt : ConfigOptions} {input out : Options} {g g' : Globals}
    (hnames : (drawnNames D env.outbound (scannedOptions env opt input) input.outbounds 0).Nodup)
    (h : buildConfig D env opt input g = (.ret (.ok out), g')) :
    PlaceholdersResolvable D env (scannedOptions env opt input) input out := by
  intro k i base writes hi hbase htype hdetour hname
  obtain ⟨b⟩ := buildConfig_ok h
  rw [patches_drawnNames b.patches] at hnames
  obtain ⟨p, hmem, hp⟩ := patches_getElem? b.patches hi
  rw [Nat.zero_add] at hp
  obtain ⟨hwire, hnamed, hwrites⟩ :=
    patchOutbound_placeholder hD hserver hbase htype hdetour hname hp
  have hserverName : p.outbound.server = drawnName D (env.outbound k) := by
    simp only [Outbound.server, hwire, hnamed]
  refine ⟨patchHiddifyWarpFromConfig (scannedOptions env opt input) p.outbound, ?_,
    ⟨p, hp, ?_, rfl⟩, (patchHiddifyWarp_type _ _).trans hwire, ?_⟩
  · have hkept : p.outbound ∈ b.kept := mem_keptOf.mpr ⟨⟨p, hmem, rfl⟩, by rw [hwire]; rfl⟩
    rw [b.outbounds_eq]
    exact List.mem_append_left _ (List.mem_append_right _ (List.mem_map_of_mem hkept))
  · obtain ⟨hmade, htag, hvia⟩ := patchOutbound_ok hD hp
    exact ⟨hmade, htag, hvia⟩
  · have hsame := patchHiddifyWarp_server (scannedOptions env opt input) p.outbound
    rw [hserverName] at hsame
    simp only [Outbound.server, (patchHiddifyWarp_type _ _).trans hwire] at hsame
    rw [hsame]
    exact isResolvable_of_patched hserver ht b hnames (hdraws k) hmem hserverName hwrites

/-- The codec for all types, where an IP address has a dot. -/
def dottedDeps : Deps :=
  { Codec.deps with isIP := fun s => Reference.isIP s && s.toList.contains '.' }

lemma dottedDeps_documented : dottedDeps.Documented where
  ruleIsValid := Codec.deps_documented.ruleIsValid
  dnsRuleIsValid := Codec.deps_documented.dnsRuleIsValid
  type_of_key := Codec.deps_documented.type_of_key
  tag_of_key := Codec.deps_documented.tag_of_key
  detour_of_key := Codec.deps_documented.detour_of_key

lemma dottedDeps_serverKeyed : ServerKeyed dottedDeps where
  marshal_server := codec_serverKeyed.marshal_server
  server_of_key := codec_serverKeyed.server_of_key

lemma dottedDeps_text : DocumentedText dottedDeps where
  toLower_ascii _ _ := rfl
  isIP_sep s h := by
    simp only [dottedDeps, Bool.and_eq_true] at h
    exact Or.inl (by simpa using h.2)

/-- A call of `RandomWarpEndpoint` that picks one prefix, and its first address. -/
def firstAddress (pick : Fin warpPrefixes.length) : EndpointDraws where
  picks := [pick]
  host n := ⟨1 % 2 ^ n, Nat.mod_lt 1 (Nat.two_pow_pos n)⟩
  port := ⟨0, by decide⟩

/-- A build that draws another name at each position. -/
def namingBuild : BuildEnv where
  outbound k := { random := some fun _ => UInt8.ofNat k }

/-- Two WireGuard outbounds with placeholders for one family each. -/
def autoInput : Options where
  outbounds := [
    { type := .wireguard, tag := "four"
      wireGuardOptions := { server := "auto4", privateKey := "k" } },
    { type := .wireguard, tag := "six"
      wireGuardOptions := { server := "auto6", privateKey := "k" } }]

lemma namingBuild_draws (k : Nat) : DrawsEndpoints (namingBuild.outbound k) where
  endpoint4 := by
    have htext : endpointText (randomWarpEndpoint (firstAddress ⟨0, by decide⟩) true false) =
        some "162.159.192.1" := by decide
    exact ⟨_, htext⟩
  endpoint6 := by
    have htext : endpointText (randomWarpEndpoint (firstAddress ⟨7, by decide⟩) false true) =
        some "2606:4700:d0::1" := by decide
    exact ⟨_, htext⟩

theorem placeholdersResolvable_autoInput :
    PlaceholdersResolvable dottedDeps namingBuild (scannedOptions namingBuild {} autoInput)
      autoInput (documentOf (buildConfig dottedDeps namingBuild {} autoInput {}).1) := by
  have hbuilt : isDocument (buildConfig dottedDeps namingBuild {} autoInput {}).1 = true := by
    decide
  exact buildConfig_placeholdersResolvable dottedDeps_documented dottedDeps_serverKeyed
    dottedDeps_text namingBuild_draws (by decide) (Prod.ext (eq_documentOf hbuilt) rfl)

end HiddifyCore.Routing
