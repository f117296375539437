import HiddifyCore.Config.Patching
import HiddifyCore.Config.WarpRecord

/-!
# What BuildConfig returns

`BuildConfig` is the passes that prepare the document, which read `OutboundMainProxyTag` and never
fail, followed by `setOutbounds`, which writes it and does not read it. `Built` describes a
successful call: the WARP outbound, the patched input outbounds, and the document made from them.
-/

namespace HiddifyCore.Config

open GoLib Singbox

variable (D : Deps)

/-! ### The two halves of a call -/

/-- The options after the secret is drawn and the input is scanned for the WARP key. -/
def scannedOptions (env : BuildEnv) (opt : ConfigOptions) (input : Options) : ConfigOptions :=
  scanWarp input.outbounds (withSecret env opt)

/-- The document that `setOutbounds` is handed. -/
def prepared (env : BuildEnv) (opt : ConfigOptions) (input : Options) (mainProxyTag : String) :
    Options :=
  let options : Options :=
    if opt.enableFullConfig then
      { inbounds := input.inbounds, dns := input.dns, route := input.route }
    else {}
  let opt := withSecret env opt
  setFakeDns opt (setRoutingOptions D mainProxyTag opt
    (setDns env opt (setInbound opt (setLog opt (setClashAPI opt options)))))

@[simp]
lemma commandTunnel_mainProxyTag (opt : ConfigOptions) (g : Globals) :
    (commandTunnel opt g).outboundMainProxyTag = g.outboundMainProxyTag := by
  simp only [commandTunnel]
  split_ifs <;> rfl

lemma buildConfig_run (env : BuildEnv) (opt : ConfigOptions) (input : Options) (g : Globals) :
    buildConfig D env opt input g =
      setOutbounds D env input.outbounds (withSecret env opt)
        (prepared D env opt input g.outboundMainProxyTag)
        (commandTunnel (withSecret env opt) g) := by
  rw [← commandTunnel_mainProxyTag (withSecret env opt) g]
  rfl

/-- The tag that a call leaves in `OutboundMainProxyTag`, after the scan for the WARP key. -/
def tagAfter (opt : ConfigOptions) : String :=
  if generatesWarp opt ∧ opt.warp.mode = "warp_over_proxy" ∧ (warpOutbound D opt).IsOk then warpTag
  else outboundSelectTag

/-- The record of the options' own identity, with the tag and the detour of the mode. -/
lemma warpOutbound_record {D : Deps} {opt : ConfigOptions} {out : Outbound}
    (h : warpOutbound D opt = .ok out) :
    ∃ reserved prefixes,
      out =
        let raw := warpRecord opt.warp.wireguardConfig reserved prefixes
          (filledHost opt.warp.cleanIP) opt.warp.cleanPort
          ((warpFakeOf opt).filled (filledHost opt.warp.cleanIP))
        { raw with
          tag := warpTag
          wireGuardOptions := { raw.wireGuardOptions with
            detour := if opt.warp.mode = "warp_over_proxy" then outboundSelectTag
              else outboundDirectTag } } := by
  simp only [warpOutbound] at h
  obtain ⟨raw, hraw, hout⟩ := Outcome.bind_eq_ok.mp h
  rw [Outcome.mapErr_eq_ok] at hraw
  obtain ⟨reserved, p4, p6, -, -, -, rfl⟩ := generateWarpSingbox_eq_ok.mp hraw
  cases hout
  exact ⟨reserved, [p4, p6], rfl⟩

lemma warpOutbound_ok {D : Deps} {opt : ConfigOptions} {out : Outbound}
    (h : warpOutbound D opt = .ok out) :
    out.type = .wireguard ∧ out.tag = warpTag ∧ out.wireGuardOptions.detour =
      if opt.warp.mode = "warp_over_proxy" then outboundSelectTag else outboundDirectTag := by
  obtain ⟨reserved, prefixes, rfl⟩ := warpOutbound_record h
  exact ⟨rfl, rfl, rfl⟩

/-- The patch of the generated outbound has no custom options to resolve. -/
lemma patchWarpOutbound_eq {D : Deps} {draws : Draws} {opt : ConfigOptions} {raw out : Outbound}
    (hraw : warpOutbound D opt = .ok raw) (hout : patchWarpOutbound D draws opt raw = .ok out) :
    out = (finishWarp D draws raw true).1 := by
  have hwarp : warpObject raw = none := by simp [warpObject, (warpOutbound_ok hraw).1]
  simp only [patchWarpOutbound, patchWarp] at hout
  simp only [hwarp] at hout
  rcases hrun : finishWarp D draws raw true with ⟨o, _ | ⟨w, ws⟩⟩
  · rw [hrun] at hout
    cases hout
    rfl
  · rw [hrun] at hout
    cases hout

lemma patchWarpOutbound_ok {D : Deps} {draws : Draws} {opt : ConfigOptions} {raw out : Outbound}
    (hraw : warpOutbound D opt = .ok raw) (hout : patchWarpOutbound D draws opt raw = .ok out) :
    out.type = .wireguard ∧ out.tag = warpTag ∧ out.detour = raw.wireGuardOptions.detour := by
  obtain ⟨htype, htag, -⟩ := warpOutbound_ok hraw
  rw [patchWarpOutbound_eq hraw hout]
  refine ⟨(finishWarp_type draws raw true).trans htype,
    (finishWarp_tag draws raw true).trans htag, ?_⟩
  rw [finishWarp_detour]
  simp only [Outbound.detour, htype]

/-- `addWarp` in one equation: what it returns, and the tag it may set. -/
lemma addWarp_run (draws : Draws) (opt : ConfigOptions) (g : Globals)
    (hg : g.outboundMainProxyTag = outboundSelectTag) :
    (addWarp D draws opt g).2.outboundMainProxyTag = tagAfter D opt := by
  simp only [addWarp, tagAfter]
  cases hgen : generatesWarp opt with
  | false => simpa [Go.pure_run] using hg
  | true =>
    cases hwarp : warpOutbound D opt with
    | fail e => simpa [Go.bind_run, Go.call, Go.pure_run, hwarp] using hg
    | panic e => simpa [Go.bind_run, Go.call, hwarp] using hg
    | ok out =>
      have htag : out.tag = warpTag := (warpOutbound_ok hwarp).2.1
      by_cases hmode : opt.warp.mode = "warp_over_proxy"
      · cases hpatch : patchWarpOutbound D draws opt out <;>
          simp [Go.bind_run, Go.call, Go.modify, Go.pure_run, hpatch, hmode, htag]
      · cases hpatch : patchWarpOutbound D draws opt out <;>
          simpa [Go.bind_run, Go.call, Go.modify, Go.pure_run, hpatch, hmode] using hg

/-- The generated WARP outbound, without what its generation does to the package variables. -/
def warpPart (D : Deps) (draws : Draws) (opt : ConfigOptions) : Outcome (List Outbound) :=
  if generatesWarp opt then do
    let out ← warpOutbound D opt
    let out ← patchWarpOutbound D draws opt out
    .ok [out]
  else .ok []

lemma addWarp_eq_warpPart (draws : Draws) (opt : ConfigOptions) (g : Globals) :
    (addWarp D draws opt g).1 =
      match warpPart D draws opt with
      | .ok warp => .ret (.ok warp)
      | .fail e => .ret (.error e)
      | .panic e => .panic e := by
  simp only [addWarp, warpPart]
  cases generatesWarp opt with
  | false => rfl
  | true =>
    cases hraw : warpOutbound D opt with
    | fail e => simp [Go.bind_run, Go.pure_run]
    | panic e => simp [Go.bind_run]
    | ok raw =>
      cases hout : patchWarpOutbound D draws opt raw <;>
        simp [Go.bind_run, Go.modify, Go.pure_run, hout]

lemma addWarp_fst (draws : Draws) (opt : ConfigOptions) (g g' : Globals) :
    (addWarp D draws opt g).1 = (addWarp D draws opt g').1 := by
  rw [addWarp_eq_warpPart, addWarp_eq_warpPart]

/-- After the WARP outbound the loop touches no package variable. -/
lemma setOutbounds_globals (env : BuildEnv) (input : List Outbound) (opt : ConfigOptions)
    (options : Options) (g : Globals) :
    (setOutbounds D env input opt options g).2 =
      (addWarp D env.warp (scanWarp input opt) (g.setMainProxyTag outboundSelectTag)).2 := by
  simp only [setOutbounds]
  simp only [Go.bind_run, Go.modify]
  rcases addWarp D env.warp (scanWarp input opt) (g.setMainProxyTag outboundSelectTag)
    with ⟨(e | warp) | e, g'⟩
  · rfl
  · cases collect D (scanWarp input opt) env.outbound input 0
        { staticIPs := staticIPsOf options } <;> rfl
  · rfl

lemma setOutbounds_fst (env : BuildEnv) (input : List Outbound) (opt : ConfigOptions)
    (options : Options) (g g' : Globals) :
    (setOutbounds D env input opt options g).1 = (setOutbounds D env input opt options g').1 := by
  have hfst := addWarp_fst D env.warp (scanWarp input opt) (g.setMainProxyTag outboundSelectTag)
    (g'.setMainProxyTag outboundSelectTag)
  simp only [setOutbounds]
  simp only [Go.bind_run, Go.modify]
  rcases h : addWarp D env.warp (scanWarp input opt) (g.setMainProxyTag outboundSelectTag)
    with ⟨r, u⟩
  rcases h' : addWarp D env.warp (scanWarp input opt) (g'.setMainProxyTag outboundSelectTag)
    with ⟨r', u'⟩
  rw [h, h'] at hfst
  obtain rfl : r = r' := hfst
  rcases r with (e | warp) | e
  · rfl
  · cases collect D (scanWarp input opt) env.outbound input 0
        { staticIPs := staticIPsOf options } <;> rfl
  · rfl

/-- A call leaves the tag of its own WARP decision, whether it succeeds, fails or panics. -/
theorem buildConfig_mainProxyTag (env : BuildEnv) (opt : ConfigOptions) (input : Options)
    (g : Globals) :
    (buildConfig D env opt input g).2.outboundMainProxyTag =
      tagAfter D (scannedOptions env opt input) := by
  rw [buildConfig_run, setOutbounds_globals]
  exact addWarp_run D _ _ _ rfl

lemma addWarp_tunnel (draws : Draws) (opt : ConfigOptions) (g : Globals) :
    (addWarp D draws opt g).2.tunnel = g.tunnel := by
  simp only [addWarp]
  cases generatesWarp opt with
  | false => rfl
  | true =>
    cases hwarp : warpOutbound D opt with
    | fail e => simp [Go.bind_run, Go.call, Go.pure_run]
    | panic e => simp [Go.bind_run, Go.call]
    | ok out =>
      by_cases hmode : opt.warp.mode = "warp_over_proxy" <;>
        cases hpatch : patchWarpOutbound D draws opt out <;>
        simp [Go.bind_run, Go.call, Go.modify, Go.pure_run, hpatch, hmode]

/-- What a call does to the tunnel service, whether it succeeds, fails or panics. -/
theorem buildConfig_tunnel (env : BuildEnv) (opt : ConfigOptions) (input : Options) (g : Globals) :
    (buildConfig D env opt input g).2.tunnel = (commandTunnel (withSecret env opt) g).tunnel := by
  rw [buildConfig_run, setOutbounds_globals, addWarp_tunnel]
  rfl

/-- The result of a call depends on the package variables through the tag only. -/
theorem buildConfig_fst (env : BuildEnv) (opt : ConfigOptions) (input : Options)
    (g g' : Globals) (h : g.outboundMainProxyTag = g'.outboundMainProxyTag) :
    (buildConfig D env opt input g).1 = (buildConfig D env opt input g').1 := by
  rw [buildConfig_run, buildConfig_run, h]
  exact setOutbounds_fst D env _ _ _ _ _

/-! ### The loop over the input outbounds -/

/-- The outbounds from position `i` on are patched one by one. -/
inductive Patches (opt : ConfigOptions) (draws : Nat → Draws) :
    Nat → List Outbound → List Patched → Prop where
  | nil {i : Nat} : Patches opt draws i [] []
  | cons {i : Nat} {out : Outbound} {p : Patched} {outs : List Outbound} {ps : List Patched}
      (h : patchOutbound D (draws i) out opt = .ok p) (hs : Patches opt draws (i + 1) outs ps) :
      Patches opt draws i (out :: outs) (p :: ps)

variable {D}

section Loop

variable {opt : ConfigOptions} {draws : Nat → Draws}

/-- The loop succeeds when every outbound is patched, and folds its body over the results. -/
lemma collect_eq_ok {outs : List Outbound} {i : Nat} {acc acc' : Collected} :
    collect D opt draws outs i acc = .ok acc' ↔
      ∃ ps, Patches D opt draws i outs ps ∧ acc' = ps.foldl (Collected.add opt) acc := by
  induction outs generalizing i acc with
  | nil =>
    constructor
    · intro h
      cases h
      exact ⟨[], .nil, rfl⟩
    · rintro ⟨ps, hps, rfl⟩
      cases hps
      rfl
  | cons out outs ih =>
    constructor
    · intro h
      obtain ⟨p, hp, h⟩ := Outcome.bind_eq_ok.mp h
      obtain ⟨ps, hps, rfl⟩ := ih.mp h
      exact ⟨p :: ps, .cons hp hps, rfl⟩
    · rintro ⟨ps, hps, rfl⟩
      cases hps with
      | cons hp hps => exact Outcome.bind_eq_ok.mpr ⟨_, hp, ih.mpr ⟨_, hps, rfl⟩⟩

/-- The loop returns no error exactly when no patch does. -/
lemma collect_isOk {outs : List Outbound} {i : Nat} {acc : Collected} :
    (collect D opt draws outs i acc).IsOk ↔
      ∀ k out, outs[k]? = some out → (patchOutbound D (draws (i + k)) out opt).IsOk := by
  induction outs generalizing i acc with
  | nil => simp [collect]
  | cons out outs ih =>
    cases hp : patchOutbound D (draws i) out opt with
    | ok p =>
      simp only [collect, hp, Outcome.bind_ok, ih]
      constructor
      · rintro h (_ | k) out' hk
        · simp only [List.getElem?_cons_zero, Option.some.injEq] at hk
          subst hk
          simp [hp]
        · simp only [List.getElem?_cons_succ] at hk
          have := h k out' hk
          rwa [Nat.add_assoc, Nat.add_comm 1 k] at this
      · intro h k out' hk
        have := h (k + 1) out' (by simpa using hk)
        rwa [Nat.add_comm k 1, ← Nat.add_assoc] at this
    | fail e =>
      simp only [collect, hp, Outcome.bind_fail, Outcome.isOk_fail, false_iff]
      intro h
      have := h 0 out rfl
      simp [hp] at this
    | panic e =>
      simp only [collect, hp, Outcome.bind_panic, Outcome.isOk_panic, false_iff]
      intro h
      have := h 0 out rfl
      simp [hp] at this

end Loop

/-- The patched outbounds that the switch of the loop keeps. -/
def keptOf (ps : List Patched) : List Outbound :=
  (ps.map Patched.outbound).filter fun out => !isDropped out.type

/-- The tags that the groups get. -/
def visibleTags (outs : List Outbound) : List String := (outs.map Outbound.tag).filter (!isHidden ·)

lemma keptOf_cons (p : Patched) (ps : List Patched) :
    keptOf (p :: ps) = (if isDropped p.outbound.type then [] else [p.outbound]) ++ keptOf ps := by
  simp only [keptOf]
  cases h : isDropped p.outbound.type <;> simp [h]

lemma visibleTags_cons (out : Outbound) (outs : List Outbound) :
    visibleTags (out :: outs) =
      (if isHidden out.tag then [] else [out.tag]) ++ visibleTags outs := by
  simp only [visibleTags]
  cases h : isHidden out.tag <;> simp [h]

lemma collected_outbounds (opt : ConfigOptions) (ps : List Patched) (acc : Collected) :
    (ps.foldl (Collected.add opt) acc).outbounds =
      acc.outbounds ++ (keptOf ps).map (patchHiddifyWarpFromConfig opt) := by
  induction ps generalizing acc with
  | nil => simp [keptOf]
  | cons p ps ih =>
    rw [List.foldl_cons, ih, keptOf_cons]
    simp only [Collected.add]
    split_ifs with h <;> simp

lemma collected_tags (opt : ConfigOptions) (ps : List Patched) (acc : Collected) :
    (ps.foldl (Collected.add opt) acc).tags = acc.tags ++ visibleTags (keptOf ps) := by
  induction ps generalizing acc with
  | nil => simp [keptOf, visibleTags]
  | cons p ps ih =>
    rw [List.foldl_cons, ih, keptOf_cons]
    simp only [Collected.add]
    by_cases hdrop : isDropped p.outbound.type = true
    · simp [hdrop]
    · by_cases hhide : isHidden p.outbound.tag = true <;> simp [hdrop, hhide, visibleTags_cons]

/-! ### The document of a successful call -/

lemma addForceDirect_outbounds (D : Deps) (order : MapOrder) (opt : ConfigOptions)
    (domains : List String) (options : Options) :
    (addForceDirect D order opt domains options).outbounds = options.outbounds := by
  unfold addForceDirect
  dsimp only
  split_ifs <;> rfl

lemma addForceDirect_route (D : Deps) (order : MapOrder) (opt : ConfigOptions)
    (domains : List String) (options : Options) :
    (addForceDirect D order opt domains options).route = options.route := by
  unfold addForceDirect
  dsimp only
  split_ifs <;> rfl

lemma assembleOutbounds_outbounds (D : Deps) (order : MapOrder) (opt : ConfigOptions)
    (warp : List Outbound) (acc : Collected) (options : Options) :
    (assembleOutbounds D order opt warp acc options).outbounds =
      [selectorOutbound acc.tags, urlTestOutbound opt acc.tags] ++ warp ++ acc.outbounds ++
        builtinOutbounds opt :=
  addForceDirect_outbounds D order opt _ _

lemma assembleOutbounds_route (D : Deps) (order : MapOrder) (opt : ConfigOptions)
    (warp : List Outbound) (acc : Collected) (options : Options) :
    (assembleOutbounds D order opt warp acc options).route = options.route :=
  addForceDirect_route D order opt _ _

lemma setFakeDns_route (opt : ConfigOptions) (options : Options) :
    (setFakeDns opt options).route = options.route := by
  simp only [setFakeDns]
  split_ifs <;> rfl

lemma setRoutingOptions_route (D : Deps) (tag : String) (opt : ConfigOptions) (options : Options) :
    (setRoutingOptions D tag opt options).route = some {
      rules := routeRules D opt
      final := tag
      autoDetectInterface := true
      overrideAndroidVPN := true
      ruleSet := ruleSets opt } := by
  unfold setRoutingOptions
  dsimp only
  split_ifs <;> rfl

lemma prepared_route (D : Deps) (env : BuildEnv) (opt : ConfigOptions) (input : Options)
    (tag : String) :
    (prepared D env opt input tag).route = some {
      rules := routeRules D (withSecret env opt)
      final := tag
      autoDetectInterface := true
      overrideAndroidVPN := true
      ruleSet := ruleSets (withSecret env opt) } := by
  unfold prepared
  dsimp only
  rw [setFakeDns_route, setRoutingOptions_route]

/-! ### The log and the experimental options -/

/-- What no pass after `setLog` touches. -/
def logAndExperimental (options : Options) : Option LogOptions × Option ExperimentalOptions :=
  (options.log, options.experimental)

lemma addForceDirect_logAndExperimental (D : Deps) (order : MapOrder) (opt : ConfigOptions)
    (domains : List String) (options : Options) :
    logAndExperimental (addForceDirect D order opt domains options) =
      logAndExperimental options := by
  unfold addForceDirect
  dsimp only
  split_ifs <;> rfl

lemma setFakeDns_logAndExperimental (opt : ConfigOptions) (options : Options) :
    logAndExperimental (setFakeDns opt options) = logAndExperimental options := by
  simp only [setFakeDns]
  split_ifs <;> rfl

lemma setRoutingOptions_logAndExperimental (D : Deps) (tag : String) (opt : ConfigOptions)
    (options : Options) :
    logAndExperimental (setRoutingOptions D tag opt options) = logAndExperimental options := by
  unfold setRoutingOptions
  dsimp only
  split_ifs <;> rfl

lemma setLog_logAndExperimental (opt : ConfigOptions) (options : Options)
    (h : options.experimental = none) :
    logAndExperimental (setLog opt (setClashAPI opt options)) =
      logAndExperimental (setLog opt (setClashAPI opt {})) := by
  simp only [logAndExperimental, setLog, setClashAPI]
  split_ifs
  · rfl
  · simp only [h]

lemma prepared_logAndExperimental (env : BuildEnv) (opt : ConfigOptions) (input : Options)
    (tag : String) :
    logAndExperimental (prepared D env opt input tag) =
      logAndExperimental (setLog (withSecret env opt) (setClashAPI (withSecret env opt) {})) := by
  unfold prepared
  dsimp only
  rw [setFakeDns_logAndExperimental, setRoutingOptions_logAndExperimental]
  refine Eq.trans rfl (setLog_logAndExperimental _ _ ?_)
  split_ifs <;> rfl

/-! ### The DNS rules of a document -/

/-- The document answers queries by these rules, and from the remote server when none matches. -/
def AnswersBy (options : Options) (rules : List DefaultDNSRule) : Prop :=
  ∃ dns, options.dns = some dns ∧ dns.final = dnsRemoteTag ∧ dns.rules = rules

/-- The rule that `addForceDirect` prepends, if it does. -/
def forceDirectRules (D : Deps) (order : MapOrder) (domains : List String) : List DefaultDNSRule :=
  if domains ≠ [] then [forceDirectRule D (order.toFun domains)] else []

lemma setDns_answersBy (env : BuildEnv) (opt : ConfigOptions) (options : Options) :
    AnswersBy (setDns env opt options) [] := ⟨_, rfl, rfl, rfl⟩

lemma AnswersBy.modifyDNS {options : Options} {rules rules' : List DefaultDNSRule}
    (h : AnswersBy options rules) {f : Singbox.DNSOptions → Singbox.DNSOptions}
    (hfinal : ∀ dns, (f dns).final = dns.final)
    (hrules : ∀ dns, dns.rules = rules → (f dns).rules = rules') :
    AnswersBy (modifyDNS f options) rules' := by
  obtain ⟨dns, hdns, hremote, hold⟩ := h
  refine ⟨f dns, ?_, (hfinal dns).trans hremote, hrules dns hold⟩
  rw [Config.modifyDNS, hdns, Option.map_some]

lemma AnswersBy.setRoutingOptions {options : Options} {rules : List DefaultDNSRule}
    (h : AnswersBy options rules) (D : Deps) (tag : String) (opt : ConfigOptions) :
    AnswersBy (setRoutingOptions D tag opt options)
      (rules ++ if opt.enableDNSRouting then (dnsRules D opt).filter D.dnsRuleIsValid else []) := by
  unfold Config.setRoutingOptions
  dsimp only
  split_ifs
  · refine AnswersBy.modifyDNS (show AnswersBy _ rules from h) (fun _ => rfl) ?_
    intro dns hold
    rw [hold]
  · rw [List.append_nil]
    exact h

lemma AnswersBy.setFakeDns {options : Options} {rules : List DefaultDNSRule}
    (h : AnswersBy options rules) (opt : ConfigOptions) :
    AnswersBy (setFakeDns opt options)
      (rules ++ if opt.enableFakeDNS then [fakeDnsRule] else []) := by
  simp only [Config.setFakeDns]
  split_ifs
  · refine h.modifyDNS (fun _ => rfl) ?_
    intro dns hold
    rw [hold]
  · rw [List.append_nil]
    exact h

lemma AnswersBy.assembleOutbounds {options : Options} {rules : List DefaultDNSRule}
    (h : AnswersBy options rules) (D : Deps) (order : MapOrder) (opt : ConfigOptions)
    (warp : List Outbound) (acc : Collected) :
    AnswersBy (assembleOutbounds D order opt warp acc options)
      (forceDirectRules D order (forceDirectDomains D opt acc.directDNSDomains) ++ rules) := by
  have hstatic : AnswersBy (Config.modifyDNS
      (fun dns => { dns with staticIPs := acc.staticIPs }) options) rules :=
    h.modifyDNS (fun _ => rfl) fun _ hold => hold
  unfold Config.assembleOutbounds addForceDirect forceDirectRules
  dsimp only
  split_ifs
  · refine AnswersBy.modifyDNS (show AnswersBy _ rules from hstatic) (fun _ => rfl)
      fun dns hold => ?_
    rw [hold]
    rfl
  · exact hstatic

/-- The domains of the servers do not depend on the static addresses. -/
lemma collected_directDNSDomains (opt : ConfigOptions) (ps : List Patched)
    {acc acc' : Collected} (h : acc.directDNSDomains = acc'.directDNSDomains) :
    (ps.foldl (Collected.add opt) acc).directDNSDomains =
      (ps.foldl (Collected.add opt) acc').directDNSDomains := by
  induction ps generalizing acc acc' with
  | nil => exact h
  | cons p ps ih =>
    rw [List.foldl_cons, List.foldl_cons]
    apply ih
    unfold Collected.add
    dsimp only
    rw [h]
    split_ifs <;> rfl

/-- The WARP part of the output: one outbound when WARP is on in one of the two modes. -/
inductive WarpPart (D : Deps) (draws : Draws) (opt : ConfigOptions) : List Outbound → Prop where
  | off (h : generatesWarp opt = false) : WarpPart D draws opt []
  | on {raw out : Outbound} (h : generatesWarp opt = true) (hraw : warpOutbound D opt = .ok raw)
      (hout : patchWarpOutbound D draws opt raw = .ok out) : WarpPart D draws opt [out]

lemma addWarp_ok {draws : Draws} {opt : ConfigOptions} {g g' : Globals} {warp : List Outbound}
    (h : addWarp D draws opt g = (.ret (.ok warp), g')) : WarpPart D draws opt warp := by
  have hpart : warpPart D draws opt = .ok warp := by
    have hrun := addWarp_eq_warpPart D draws opt g
    rw [h] at hrun
    cases hpart : warpPart D draws opt <;> rw [hpart] at hrun <;> cases hrun
    rfl
  rw [warpPart] at hpart
  split_ifs at hpart with hgen
  · obtain ⟨raw, hraw, hpart⟩ := Outcome.bind_eq_ok.mp hpart
    obtain ⟨out, hout, hpart⟩ := Outcome.bind_eq_ok.mp hpart
    cases hpart
    exact .on hgen hraw hout
  · cases hpart
    exact .off (Bool.eq_false_iff.mpr hgen)

/-- A successful call of `BuildConfig` and what its output is made of. -/
structure Built (D : Deps) (env : BuildEnv) (opt : ConfigOptions) (input : Options)
    (mainProxyTag : String) (out : Options) where
  warp : List Outbound
  patched : List Patched
  warpPart : WarpPart D env.warp (scannedOptions env opt input) warp
  patches : Patches D (scannedOptions env opt input) env.outbound 0 input.outbounds patched
  out_eq : out = assembleOutbounds D env.keyOrder (scannedOptions env opt input) warp
    (patched.foldl (Collected.add (scannedOptions env opt input))
      { staticIPs := staticIPsOf (prepared D env opt input mainProxyTag) })
    (prepared D env opt input mainProxyTag)

/-- The returned document. -/
def documentOf : Exit (Except String Options) → Options
  | .ret (.ok out) => out
  | _ => {}

/-- Whether there is one. -/
def isDocument : Exit (Except String Options) → Bool
  | .ret (.ok _) => true
  | _ => false

lemma eq_documentOf {r : Exit (Except String Options)} (h : isDocument r = true) :
    r = .ret (.ok (documentOf r)) := by
  rcases r with (e | out) | e
  · cases h
  · rfl
  · cases h

/-- `setOutbounds` returns a document when the WARP outbound and every outbound of the input are
made. -/
lemma setOutbounds_ok {env : BuildEnv} {input : List Outbound} {opt : ConfigOptions}
    {options out : Options} {g g' : Globals}
    (h : setOutbounds D env input opt options g = (.ret (.ok out), g')) :
    ∃ warp acc,
      addWarp D env.warp (scanWarp input opt) (g.setMainProxyTag outboundSelectTag) =
        (.ret (.ok warp), g') ∧
      collect D (scanWarp input opt) env.outbound input 0 { staticIPs := staticIPsOf options } =
        .ok acc ∧
      out = assembleOutbounds D env.keyOrder (scanWarp input opt) warp acc options := by
  simp only [setOutbounds] at h
  simp only [Go.bind_run, Go.modify] at h
  rcases hwarp : addWarp D env.warp (scanWarp input opt) (g.setMainProxyTag outboundSelectTag)
    with ⟨(e | warp) | e, u⟩
  · simp [hwarp, Go.pure_run] at h
  · simp only [hwarp, Go.bind_run] at h
    cases hcollect : collect D (scanWarp input opt) env.outbound input 0
        { staticIPs := staticIPsOf options } with
    | fail e => simp [hcollect, Go.pure_run] at h
    | panic e => simp [hcollect] at h
    | ok acc =>
      simp only [hcollect, Go.call_ok, Go.pure_run, Prod.mk.injEq, Exit.ret.injEq,
        Except.ok.injEq] at h
      obtain ⟨rfl, rfl⟩ := h
      exact ⟨warp, acc, rfl, rfl, rfl⟩
  · simp [hwarp] at h

theorem buildConfig_ok {env : BuildEnv} {opt : ConfigOptions} {input : Options} {g g' : Globals}
    {out : Options} (h : buildConfig D env opt input g = (.ret (.ok out), g')) :
    Nonempty (Built D env opt input g.outboundMainProxyTag out) := by
  rw [buildConfig_run] at h
  obtain ⟨warp, acc, hwarp, hcollect, hout⟩ := setOutbounds_ok h
  obtain ⟨ps, hps, rfl⟩ := collect_eq_ok.mp hcollect
  exact ⟨{ warp := warp, patched := ps, warpPart := addWarp_ok hwarp, patches := hps,
           out_eq := hout }⟩

/-- What does not depend on the secret is the same after it is drawn. -/
lemma withSecret_congr {β : Type*} (f : ConfigOptions → β)
    (h : ∀ opt secret, f { opt with clashApiSecret := secret } = f opt) (env : BuildEnv)
    (opt : ConfigOptions) : f (withSecret env opt) = f opt := by
  simp only [withSecret]
  split_ifs
  · exact h opt _
  · rfl

/-- What does not depend on whether WARP is on either is the same after the scan. -/
lemma scannedOptions_congr {β : Type*} (f : ConfigOptions → β)
    (hsecret : ∀ opt secret, f { opt with clashApiSecret := secret } = f opt)
    (hwarp : ∀ opt on, f { opt with warp := { opt.warp with enableWarp := on } } = f opt)
    (env : BuildEnv) (opt : ConfigOptions) (input : Options) :
    f (scannedOptions env opt input) = f opt := by
  rw [← withSecret_congr f hsecret env opt]
  simp only [scannedOptions, scanWarp]
  split_ifs
  · exact hwarp _ _
  · rfl

/-- The keys of the map of `addForceDirect`: the domains of the servers and the host of the remote
DNS server. -/
def forceDirectKeys (D : Deps) (env : BuildEnv) (opt : ConfigOptions) (input : Options) :
    List String :=
  match collect D (scannedOptions env opt input) env.outbound input.outbounds 0 {} with
  | .ok acc => forceDirectDomains D opt acc.directDNSDomains
  | _ => []

/-- The same, for a call whose effect does not matter. -/
theorem buildConfig_fst_ok {env : BuildEnv} {opt : ConfigOptions} {input : Options} {g : Globals}
    {out : Options} (h : (buildConfig D env opt input g).1 = .ret (.ok out)) :
    Nonempty (Built D env opt input g.outboundMainProxyTag out) :=
  buildConfig_ok (Prod.ext h rfl)

namespace Built

variable {env : BuildEnv} {opt : ConfigOptions} {input out : Options} {tag : String}

/-- The kept outbounds before they are detoured through WARP. -/
def kept (b : Built D env opt input tag out) : List Outbound := keptOf b.patched

lemma outbounds_eq (b : Built D env opt input tag out) :
    out.outbounds = [selectorOutbound (visibleTags b.kept),
      urlTestOutbound (scannedOptions env opt input) (visibleTags b.kept)] ++ b.warp ++
        b.kept.map (patchHiddifyWarpFromConfig (scannedOptions env opt input)) ++
          builtinOutbounds (scannedOptions env opt input) := by
  have h := congrArg Options.outbounds b.out_eq
  rw [assembleOutbounds_outbounds, collected_tags, collected_outbounds] at h
  exact h

lemma route_eq (b : Built D env opt input tag out) :
    out.route = some {
      rules := routeRules D opt
      final := tag
      autoDetectInterface := true
      overrideAndroidVPN := true
      ruleSet := ruleSets opt } := by
  rw [b.out_eq, assembleOutbounds_route, prepared_route,
    withSecret_congr (routeRules D) fun _ _ => rfl, withSecret_congr ruleSets fun _ _ => rfl]

lemma logAndExperimental_eq (b : Built D env opt input tag out) :
    logAndExperimental out =
      logAndExperimental (setLog (withSecret env opt) (setClashAPI (withSecret env opt) {})) := by
  rw [b.out_eq, assembleOutbounds, addForceDirect_logAndExperimental]
  exact prepared_logAndExperimental env opt input tag

lemma answersBy (b : Built D env opt input tag out) :
    AnswersBy out (forceDirectRules D env.keyOrder (forceDirectKeys D env opt input) ++
      ((if opt.enableDNSRouting then (dnsRules D opt).filter D.dnsRuleIsValid else []) ++
        if opt.enableFakeDNS then [fakeDnsRule] else [])) := by
  have hprepared : AnswersBy (prepared D env opt input tag) _ :=
    ((setDns_answersBy env (withSecret env opt) _).setRoutingOptions D tag
      (withSecret env opt)).setFakeDns (withSecret env opt)
  have hout := hprepared.assembleOutbounds D env.keyOrder (scannedOptions env opt input) b.warp
    (b.patched.foldl (Collected.add (scannedOptions env opt input))
      { staticIPs := staticIPsOf (prepared D env opt input tag) })
  have hkeys : forceDirectKeys D env opt input = forceDirectDomains D opt
      (b.patched.foldl (Collected.add (scannedOptions env opt input))
        { staticIPs := staticIPsOf (prepared D env opt input tag) }).directDNSDomains := by
    rw [forceDirectKeys, collect_eq_ok.mpr ⟨b.patched, b.patches, rfl⟩]
    exact congrArg (forceDirectDomains D opt) (collected_directDNSDomains _ _ rfl)
  have hdomains : forceDirectDomains D (scannedOptions env opt input) = forceDirectDomains D opt :=
    scannedOptions_congr (forceDirectDomains D) (fun _ _ => rfl) (fun _ _ => rfl) env opt input
  rw [← b.out_eq, hdomains, ← hkeys, withSecret_congr (dnsRules D) fun _ _ => rfl,
    withSecret_congr (·.enableDNSRouting) fun _ _ => rfl,
    withSecret_congr (·.enableFakeDNS) fun _ _ => rfl, List.nil_append] at hout
  exact hout

end Built

end HiddifyCore.Config
