import HiddifyCore.Config.Drawn
import HiddifyCore.V2.Unchanged

/-!
# Subscriptions that restart the core

The converse of `V2.Unchanged`. If the loop never restarts the core, two calls that draw all they
can differently, or that meet the keys of the direct rule in different orders, return one text. The
codecs read back what they write, so the documents agree where the draws would show, and the
subscription is settled. With the default settings it is not: the secret of the Clash API is drawn
by every call of the builder, and the text changes at each tick.
-/

namespace HiddifyCore.V2

open GoLib Config Routing Singbox

/-! ### What the codecs keep -/

/-- Two documents say the same of what can be drawn. -/
structure WrittenAlike (o o' : Singbox.Options) : Prop where
  secret : clashSecret o = clashSecret o'
  dnsRules : o.dns.map (·.rules) = o'.dns.map (·.rules)
  final : o.route.map (·.final) = o'.route.map (·.final)
  servers : o.outbounds.map wireGuardServer = o'.outbounds.map wireGuardServer

namespace WrittenAlike

lemma symm {o o' : Singbox.Options} (h : WrittenAlike o o') : WrittenAlike o' o :=
  ⟨h.secret.symm, h.dnsRules.symm, h.final.symm, h.servers.symm⟩

lemma trans {o o' o'' : Singbox.Options} (h : WrittenAlike o o') (h' : WrittenAlike o' o'') :
    WrittenAlike o o'' :=
  ⟨h.secret.trans h'.secret, h.dnsRules.trans h'.dnsRules, h.final.trans h'.final,
    h.servers.trans h'.servers⟩

end WrittenAlike

/-- What sing-box and the standard library document: what is written is read back, a WireGuard
outbound has its address from the keys of that name, and a string in lower case is as long as
before. -/
structure CodecsTell (D : Deps) (P : ParserDeps) (toJson : Encoder) : Prop where
  documented : D.Documented
  parser : P.Documented
  addressed : WireGuardAddressed D
  toLower_length (s : String) : (D.toLower s).length = s.length
  marshal_reads {options options' : Singbox.Options} {text : String}
    (h : P.marshalOptions options = .ok text) (h' : P.unmarshalOptions text = .ok options') :
    options'.outbounds.map wireGuardServer = options.outbounds.map wireGuardServer
  toJson_reads {o : Singbox.Options} {text : {text : String // text ≠ ""}}
    (h : toJson o = .ok text) : ∃ o', P.unmarshalOptions text.val = .ok o' ∧ WrittenAlike o o'

/-- The WARP registrations of a call are answered by `generateWarpInfo`. -/
structure ReadEnv.Registers (env : ReadEnv)
    (generateWarpInfo : String → Outcome WarpWireguardConfig) : Prop where
  parse (i : Nat) : (env.parse.draws i).generateWarpInfo = generateWarpInfo
  outbound (i : Nat) : (env.build.outbound i).generateWarpInfo = generateWarpInfo

section Converse

variable {D : Deps} {P : ParserDeps} {toJson : Encoder} {sub : Subscription} {tag : String}
  {generateWarpInfo : String → Outcome WarpWireguardConfig}

variable (D P toJson sub tag generateWarpInfo) in
/-- Two calls in a row return a text, whatever they draw. -/
def Subscription.Returns : Prop :=
  ∀ env env' : ReadEnv, env.Resolves sub.lookupHost → env.Registers generateWarpInfo →
    env'.Resolves sub.lookupHost → env'.Registers generateWarpInfo →
      (sub.text D P toJson env tag).IsOk ∧
        (sub.text D P toJson env' (sub.tagLeft D P env tag)).IsOk

/-! ### Comparing two calls -/

lemma editConfig_alike {opt : ConfigOptions} {out final : Singbox.Options}
    (h : editConfig opt out = .ok final) : WrittenAlike out final := by
  simp only [editConfig] at h
  split at h
  · rename_i log experimental hlog hexperimental
    cases hclash : experimental.clashAPI with
    | none => simp [hclash] at h
    | some clashAPI =>
      simp only [hclash, Outcome.ok.injEq] at h
      subst h
      exact ⟨by simp [clashSecret, hexperimental, hclash], rfl, rfl, rfl⟩
  · cases h

/-- What a text is made from. -/
lemma Subscription.text_eq_ok {env : ReadEnv} {text : {text : String // text ≠ ""}}
    (h : sub.text D P toJson env tag = .ok text) :
    ∃ input out final, parseInput D P env sub.opt sub.content = .ok input ∧
      Nonempty (Built D env.build sub.opt input tag out) ∧ WrittenAlike out final ∧
      toJson final = .ok text := by
  obtain ⟨input, hinput, h⟩ := Outcome.bind_eq_ok.mp h
  obtain ⟨final, hfinal, h⟩ := Outcome.bind_eq_ok.mp h
  obtain ⟨out, hout, hedit⟩ := Outcome.bind_eq_ok.mp hfinal
  rw [Outcome.mapErr_eq_ok] at hout
  have hbuild : (buildConfig D env.build sub.opt input { outboundMainProxyTag := tag }).1 =
      .ret (.ok out) := by
    revert hout
    rcases (buildConfig D env.build sub.opt input { outboundMainProxyTag := tag }).1
      with (e | out') | e
    · intro hout
      cases hout
    · intro hout
      cases hout
      rfl
    · intro hout
      cases hout
  exact ⟨input, out, final, hinput, buildConfig_fst_ok hbuild, editConfig_alike hedit, h⟩

/-- A text is returned when the setup does not fail. -/
lemma Subscription.read_of_text {env : ReadEnv} (hsetup : env.setup = .ok ⟨⟩)
    {text : {text : String // text ≠ ""}} (h : sub.text D P toJson env tag = .ok text)
    (defaultConfig : ConfigOptions) (hopt : sub.settings.getD defaultConfig = sub.opt) (s : Core) :
    ∃ t, readAndBuildConfig defaultConfig (sub.read D P toJson env tag) s = (.ret (.ok {
      config := text.val
      refreshInterval := env.refreshInterval
      hiddifyConfigOptions := sub.opt }), t) := by
  obtain ⟨input, hinput, h⟩ := Outcome.bind_eq_ok.mp h
  obtain ⟨final, hfinal, h⟩ := Outcome.bind_eq_ok.mp h
  have hsettings : (sub.settings.map Outcome.ok).getD (.ok defaultConfig) = .ok sub.opt := by
    rw [← hopt]
    cases sub.settings <;> rfl
  exact readAndBuildConfig_of_ok (x := sub.read D P toJson env tag) rfl hsettings hinput hfinal
    hsetup h s

/-- The texts of two calls in a row, when the loop never restarts the core. -/
lemma Subscription.NeverRestarts.text_eq (h : sub.NeverRestarts D P toJson tag)
    {env env' : ReadEnv} (henv : env.Resolves sub.lookupHost) (henv' : env'.Resolves sub.lookupHost)
    (hsetup : env.setup = .ok ⟨⟩) (hsetup' : env'.setup = .ok ⟨⟩)
    {text text' : {text : String // text ≠ ""}} (htext : sub.text D P toJson env tag = .ok text)
    (htext' : sub.text D P toJson env' (sub.tagLeft D P env tag) = .ok text') : text' = text := by
  obtain ⟨s, hread⟩ := sub.read_of_text hsetup htext sub.defaultConfig rfl {}
  obtain ⟨s', hread'⟩ := sub.read_of_text hsetup' htext' sub.opt sub.getD_opt {}
  by_contra hne
  exact h env henv {} s {} _ hread _ .refl { env := env' } henv' _
    ⟨⟨s', hread'⟩, fun heq => hne (Subtype.ext heq)⟩

/-- So the documents that they are made from say the same of what is drawn. -/
lemma Subscription.NeverRestarts.alike (h : sub.NeverRestarts D P toJson tag)
    (hcodecs : CodecsTell D P toJson) (hreturns : sub.Returns D P toJson tag generateWarpInfo)
    {env env' : ReadEnv} (henv : env.Resolves sub.lookupHost) (henv' : env'.Resolves sub.lookupHost)
    (hreg : env.Registers generateWarpInfo) (hreg' : env'.Registers generateWarpInfo)
    (hsetup : env.setup = .ok ⟨⟩) (hsetup' : env'.setup = .ok ⟨⟩) :
    ∃ input input' out out', parseInput D P env sub.opt sub.content = .ok input ∧
      parseInput D P env' sub.opt sub.content = .ok input' ∧
      Nonempty (Built D env.build sub.opt input tag out) ∧
      Nonempty (Built D env'.build sub.opt input' (sub.tagLeft D P env tag) out') ∧
      WrittenAlike out out' := by
  obtain ⟨hok, hok'⟩ := hreturns env env' henv hreg henv' hreg'
  obtain ⟨text, htext⟩ := hok.exists_eq
  obtain ⟨text', htext'⟩ := hok'.exists_eq
  obtain rfl := h.text_eq henv henv' hsetup hsetup' htext htext'
  obtain ⟨input, out, final, hinput, hout, halike, hjson⟩ := sub.text_eq_ok htext
  obtain ⟨input', out', final', hinput', hout', halike', hjson'⟩ := sub.text_eq_ok htext'
  obtain ⟨o, ho, hread⟩ := hcodecs.toJson_reads hjson
  obtain ⟨o', ho', hread'⟩ := hcodecs.toJson_reads hjson'
  rw [ho, Outcome.ok.injEq] at ho'
  subst ho'
  exact ⟨input, input', out, out', hinput, hinput', hout, hout',
    (halike.trans hread).trans (halike'.trans hread').symm⟩

variable (sub generateWarpInfo) in
/-- A call that draws one port and one sequence of bytes. -/
def drawnEnv (port : UInt16) (random : Option (Nat → UInt8)) (order : MapOrder) : ReadEnv where
  parse := { draws := fun _ => {
    lookupHost := sub.lookupHost
    generateWarpInfo := generateWarpInfo } }
  build := drawnBuild sub.lookupHost generateWarpInfo port random order

lemma drawnEnv_resolves (port : UInt16) (random : Option (Nat → UInt8)) (order : MapOrder) :
    (drawnEnv sub generateWarpInfo port random order).Resolves sub.lookupHost :=
  ⟨fun _ => rfl, rfl, rfl, fun _ => rfl⟩

lemma drawnEnv_registers (port : UInt16) (random : Option (Nat → UInt8)) (order : MapOrder) :
    (drawnEnv sub generateWarpInfo port random order).Registers generateWarpInfo :=
  ⟨fun _ => rfl, fun _ => rfl⟩

lemma Subscription.NeverRestarts.compare (h : sub.NeverRestarts D P toJson tag)
    (hcodecs : CodecsTell D P toJson) (hreturns : sub.Returns D P toJson tag generateWarpInfo)
    (port port' : UInt16) (random random' : Option (Nat → UInt8)) (order order' : MapOrder) :
    ∃ input out out',
      parseInput D P (drawnEnv sub generateWarpInfo port random order) sub.opt sub.content =
        .ok input ∧
      Nonempty (Built D (drawnBuild sub.lookupHost generateWarpInfo port random order) sub.opt
        input tag out) ∧
      Nonempty (Built D (drawnBuild sub.lookupHost generateWarpInfo port' random' order') sub.opt
        input (tagAfter D (scannedOptions
          (drawnBuild sub.lookupHost generateWarpInfo port random order) sub.opt input)) out') ∧
      WrittenAlike out out' := by
  obtain ⟨input, input', out, out', hinput, hinput', hout, hout', halike⟩ := h.alike hcodecs
    hreturns (drawnEnv_resolves port random order) (drawnEnv_resolves port' random' order')
    (drawnEnv_registers port random order) (drawnEnv_registers port' random' order') rfl rfl
  obtain rfl : input = input' := Outcome.ok.inj (hinput.symm.trans hinput')
  have htag : sub.tagLeft D P (drawnEnv sub generateWarpInfo port random order) tag =
      tagAfter D (scannedOptions
        (drawnBuild sub.lookupHost generateWarpInfo port random order) sub.opt input) := by
    simp only [Subscription.tagLeft, hinput, buildConfig_mainProxyTag]
    rfl
  rw [htag] at hout'
  exact ⟨input, out, out', hinput, hout, hout', halike⟩

/-- Two calls that draw all they can differently. -/
lemma Subscription.NeverRestarts.settles (h : sub.NeverRestarts D P toJson tag)
    (hcodecs : CodecsTell D P toJson) (hreturns : sub.Returns D P toJson tag generateWarpInfo)
    (order : MapOrder) {input : Singbox.Options}
    (hinput : parseInput D P (drawnEnv sub generateWarpInfo 1 none order) sub.opt sub.content =
      .ok input) :
    (sub.opt.enableClashApi = true → sub.opt.clashApiSecret ≠ "") ∧
      (∀ out ∈ input.outbounds, Config.IsSettled sub.lookupHost out) ∧
      (generatesWarp (scanWarp input.outbounds sub.opt) = true → sub.opt.warp.cleanPort ≠ 0) ∧
      tag = tagAfter D (scanWarp input.outbounds sub.opt) := by
  obtain ⟨input', out, out', hinput', ⟨b⟩, ⟨b'⟩, halike⟩ :=
    h.compare hcodecs hreturns 1 2 none (some fun _ => 0) order order
  obtain rfl : input = input' := Outcome.ok.inj (hinput.symm.trans hinput')
  have hsecret := b.clashApiSecret_ne b' halike.secret
  have hscan (env : BuildEnv) : scannedOptions env sub.opt input =
      scanWarp input.outbounds sub.opt := by
    rw [scannedOptions, withSecret_eq_self hsecret]
  have hopt := (hscan (drawnBuild sub.lookupHost generateWarpInfo 1 none order)).trans
    (hscan (drawnBuild sub.lookupHost generateWarpInfo 2 (some fun _ => 0) order)).symm
  refine ⟨hsecret, fun base hbase => ?_, fun hgen => ?_, ?_⟩
  · exact b.isSettled hcodecs.documented hcodecs.addressed hcodecs.toLower_length b' hopt
      (by decide) halike.servers hbase
  · have hport := b.cleanPort_ne b' hopt (by decide) halike.servers (hscan _ ▸ hgen)
    rwa [hscan, scanWarp_cleanPort] at hport
  · have hfinal := halike.final
    rw [b.route_eq, b'.route_eq, Option.map_some, Option.map_some, Option.some.injEq, hscan]
      at hfinal
    exact hfinal

/-! ### The order of the keys -/

/-- An order that meets these keys as they are permuted. -/
def orderOf {keys keys' : List String} (h : keys'.Perm keys) : MapOrder where
  toFun l := if l = keys then keys' else l
  perm l := by
    split_ifs with hl
    · exact hl ▸ h
    · exact .refl l

lemma orderOf_self {keys keys' : List String} (h : keys'.Perm keys) :
    (orderOf h).toFun keys = keys' :=
  if_pos rfl

/-- Two keys can be met first. -/
lemma perm_erase_erase {keys : List String} {k k' : String} (hk : k ∈ keys) (hk' : k' ∈ keys)
    (hne : k ≠ k') : (k :: k' :: (keys.erase k).erase k').Perm keys := by
  have hrest : k' ∈ keys.erase k := (List.mem_erase_of_ne hne.symm).mpr hk'
  exact ((List.perm_cons_erase hrest).symm.cons k).trans (List.perm_cons_erase hk).symm

/-- Every direct key is in the map of `addForceDirect`. -/
lemma mem_forceDirectKeys_of_isDirectKey {env : BuildEnv} (henv : BuildResolves sub.lookupHost env)
    {opt : ConfigOptions} {input out : Singbox.Options} (b : Built D env opt input tag out)
    (houts : ∀ out ∈ input.outbounds, Config.IsSettled sub.lookupHost out) {k : String}
    (hk : IsDirectKey D sub.lookupHost opt input k) : k ∈ forceDirectKeys D env opt input := by
  rcases hk with ⟨hne, out, hout, hname⟩ | hremote
  · obtain ⟨j, p, hp, hpatch⟩ := b.patches.exists_patch out hout
    rw [serverName_of_patch (houts out hout) (henv.outbound j) hpatch, Outcome.ok.injEq] at hname
    subst hname
    exact mem_forceDirectKeys b hp hne
  · rw [forceDirectKeys, collect_eq_ok.mpr ⟨b.patched, b.patches, rfl⟩]
    exact mem_forceDirectDomains_iff.mpr (.inr hremote)

/-- Two documents with the same DNS rules begin with the same one. -/
lemma Built.forceDirectRule_eq {env env' : BuildEnv} {opt : ConfigOptions}
    {input out out' : Singbox.Options} {tag' : String} (b : Built D env opt input tag out)
    (b' : Built D env' opt input tag' out') {keys : List String}
    (hkeys : forceDirectKeys D env opt input = keys)
    (hkeys' : forceDirectKeys D env' opt input = keys) (hne : keys ≠ [])
    (h : out.dns.map (·.rules) = out'.dns.map (·.rules)) :
    forceDirectRule D (env.keyOrder.toFun keys) = forceDirectRule D (env'.keyOrder.toFun keys) := by
  obtain ⟨dns, hdns, -, hrules⟩ := b.answersBy
  obtain ⟨dns', hdns', -, hrules'⟩ := b'.answersBy
  rw [hdns, hdns', Option.map_some, Option.map_some, Option.some.injEq, hrules, hrules', hkeys,
    hkeys', forceDirectRules, forceDirectRules, if_pos hne, if_pos hne] at h
  exact List.singleton_inj.mp (List.append_cancel_right h)

lemma forceDirectKeys_drawnBuild {lookupHost : String → Option (List String)} {port : UInt16}
    {random : Option (Nat → UInt8)} (order order' : MapOrder) (opt : ConfigOptions)
    (input : Singbox.Options) :
    forceDirectKeys D (drawnBuild lookupHost generateWarpInfo port random order) opt input =
      forceDirectKeys D (drawnBuild lookupHost generateWarpInfo port random order') opt input := by
  simp only [forceDirectKeys, scannedOptions, withSecret, drawnBuild]

/-- Two calls that meet the keys in different orders. -/
lemma Subscription.NeverRestarts.keys (h : sub.NeverRestarts D P toJson tag)
    (hcodecs : CodecsTell D P toJson) (hreturns : sub.Returns D P toJson tag generateWarpInfo)
    {order : MapOrder} {input : Singbox.Options}
    (hinput : parseInput D P (drawnEnv sub generateWarpInfo 1 none order) sub.opt sub.content =
      .ok input)
    (houts : ∀ out ∈ input.outbounds, Config.IsSettled sub.lookupHost out) {k k' : String}
    (hk : IsDirectKey D sub.lookupHost sub.opt input k)
    (hk' : IsDirectKey D sub.lookupHost sub.opt input k') :
    forceDirectRule D [k, k'] = forceDirectRule D [k', k] := by
  by_cases hkk : k = k'
  · rw [hkk]
  · obtain ⟨_, out₀, _, hinput₀, ⟨b₀⟩, -, -⟩ := h.compare hcodecs hreturns 1 1 none none order order
    obtain rfl := Outcome.ok.inj (hinput.symm.trans hinput₀)
    have hresolves : BuildResolves sub.lookupHost
      (drawnBuild sub.lookupHost generateWarpInfo 1 none order) := ⟨rfl, rfl, fun _ => rfl⟩
    have hmem := mem_forceDirectKeys_of_isDirectKey hresolves b₀ houts hk
    have hmem' := mem_forceDirectKeys_of_isDirectKey hresolves b₀ houts hk'
    have hkeys (order' : MapOrder) :
        forceDirectKeys D (drawnBuild sub.lookupHost generateWarpInfo 1 none order') sub.opt input =
          forceDirectKeys D (drawnBuild sub.lookupHost generateWarpInfo 1 none order) sub.opt
            input :=
      forceDirectKeys_drawnBuild order' order sub.opt input
    generalize forceDirectKeys D (drawnBuild sub.lookupHost generateWarpInfo 1 none order) sub.opt
      input = keys at hmem hmem' hkeys
    have hperm := perm_erase_erase hmem hmem' hkk
    have hperm' := (List.Perm.swap k k' ((keys.erase k).erase k')).trans hperm
    obtain ⟨_, out, out', hinput₁, ⟨b⟩, ⟨b'⟩, halike⟩ :=
      h.compare hcodecs hreturns 1 1 none none (orderOf hperm) (orderOf hperm')
    obtain rfl := Outcome.ok.inj (hinput.symm.trans hinput₁)
    have hrule : forceDirectRule D ((orderOf hperm).toFun keys) =
        forceDirectRule D ((orderOf hperm').toFun keys) :=
      Built.forceDirectRule_eq b b' (hkeys _) (hkeys _) (List.ne_nil_of_mem hmem) halike.dnsRules
    rw [orderOf_self, orderOf_self] at hrule
    exact forceDirectRule_swap hrule

/-! ### The batch -/

lemma takeResults_lookup {res : List (String × Outbound)} {outs outs' : List Outbound}
    (h : takeResults res outs = .ok outs') :
    ∀ base ∈ outs, ∃ out ∈ outs', res.lookup base.tag = some out := by
  intro base hbase
  obtain ⟨i, hi, rfl⟩ := List.getElem_of_mem hbase
  have htaken := takeResults_eq_ok.mp h
  have hi' : i < outs'.length := htaken.length_eq ▸ hi
  exact ⟨outs'[i], List.getElem_mem hi', htaken.get hi hi'⟩

/-- What a call of the parser goes through. -/
lemma patchConfig_eq_ok {env : ParseEnv} {content name text : String}
    {configOpt : Option ConfigOptions}
    (h : patchConfig D P env content name configOpt = .ok text) :
    ∃ options res outs, P.unmarshalOptions content = .ok options ∧
      waitAndGetResult P (completedTasks D env configOpt options.outbounds) = .ok res ∧
      takeResults res options.outbounds = .ok outs ∧
      contentOf (P.marshalOptions { options with outbounds := outs }) = .ok text := by
  obtain ⟨options, hoptions, h⟩ := Outcome.bind_eq_ok.mp h
  obtain ⟨res, hres, h⟩ := Outcome.bind_eq_ok.mp h
  obtain ⟨outs, houts, h⟩ := Outcome.bind_eq_ok.mp h
  obtain ⟨content', hcontent, h⟩ := Outcome.bind_eq_ok.mp h
  obtain ⟨_, -, h⟩ := Outcome.bind_eq_ok.mp h
  cases h
  rw [Outcome.mapErr_eq_ok] at hoptions
  exact ⟨options, res, outs, hoptions, hres, houts, hcontent⟩

/-- The task of a custom WARP outbound makes a WireGuard outbound with port zero of it. -/
lemma patchTask_custom {env : ParseEnv} {opt : ConfigOptions} {i : Nat} {base out : Outbound}
    (h : patchTask D env (some opt) i base = .ok out) (hcustom : warpObject base ≠ none) :
    ∃ server, wireGuardServer out = some (server, 0) := by
  obtain ⟨writes, hpatch⟩ := patchTask_eq_ok.mp h
  rcases patchWarp_resolved hpatch with ⟨hnone, -⟩ | ⟨warp, config, -, hconfig, rfl⟩
  · exact absurd hnone hcustom
  · obtain ⟨_, _, _, hgen, -⟩ := customWarpConfig_generated hconfig
    have hport := generateWarpSingbox_port hgen
    refine ⟨config.wireGuardOptions.server, ?_⟩
    rw [← hport]
    rfl

/-- A batch that gets no registration wrong makes a WireGuard outbound with port zero of a custom
WARP outbound. -/
lemma takeResults_custom {env : ParseEnv} {opt : ConfigOptions} {base : Outbound}
    {outs outs' : List Outbound} {res : List (String × Outbound)}
    (hres : waitAndGetResult P (completedTasks D env (some opt) outs) = .ok res)
    (houts : takeResults res outs = .ok outs') (hbase : base ∈ outs)
    (htags : ∀ out ∈ outs, out.tag = base.tag → out = base) (hcustom : warpObject base ≠ none) :
    ∃ out ∈ outs', ∃ server, wireGuardServer out = some (server, 0) := by
  -- the result of the outbound's tag is that of a task for the same outbound
  obtain ⟨out, hout, hlookup⟩ := takeResults_lookup houts base hbase
  obtain ⟨l, l', hl, -⟩ := List.lookup_eq_some_iff.mp hlookup
  have htask := of_mem_waitAndGetResult hres (base.tag, out) (by rw [hl]; simp)
  obtain ⟨i, -, base', hbase', heq⟩ : ∃ i, i ∈ _ ∧ ∃ base', outs[i]? = some base' ∧
      (base'.tag, patchTask D env (some opt) i base') = (base.tag, .ok out) := by
    simpa only [completedTasks, List.mem_filterMap, Option.map_eq_some_iff] using htask
  obtain ⟨htag, hout'⟩ := Prod.mk.inj heq
  obtain rfl := htags base' (List.mem_of_getElem? hbase') htag
  exact ⟨out, hout, patchTask_custom hout' hcustom⟩

/-- Such an outbound is in the parsed options too, so a subscription without one has no custom WARP
outbound. -/
lemma Subscription.not_custom (hcodecs : CodecsTell D P toJson) {options : Singbox.Options}
    (hoptions : sub.Decodes P options)
    (htags : ∀ out ∈ options.outbounds, ∀ out' ∈ options.outbounds, out'.tag = out.tag →
      out' = out) {env : ReadEnv} {input : Singbox.Options}
    (hinput : parseInput D P env sub.opt sub.content = .ok input)
    (hports : ∀ out ∈ input.outbounds, out.type = .wireguard →
      out.wireGuardOptions.serverPort ≠ 0) :
    ∀ base ∈ options.outbounds, warpObject base = none := by
  intro base hbase
  by_contra hcustom
  obtain ⟨content, hcontent, hread⟩ := Outcome.bind_eq_ok.mp hinput
  rw [Outcome.mapErr_eq_ok, parseConfigContent_eq] at hcontent
  obtain ⟨t, ht, hpatch⟩ := Outcome.bind_eq_ok.mp hcontent
  obtain ⟨options', res, outs, hdecoded, hres, houts, hmarshal⟩ := patchConfig_eq_ok hpatch
  obtain ⟨t', ht', hoptions⟩ := hoptions
  obtain rfl := Outcome.ok.inj (ht.symm.trans ht')
  obtain rfl := Outcome.ok.inj (hoptions.symm.trans hdecoded)
  obtain ⟨out, hout, server, hserver⟩ :=
    takeResults_custom hres houts hbase (htags base hbase) hcustom
  cases hwrite : P.marshalOptions { options with outbounds := outs } with
  | panic e =>
    rw [hwrite] at hmarshal
    cases hmarshal
  | fail e =>
    rw [hwrite] at hmarshal
    cases hmarshal
    have hempty := hcodecs.parser.unmarshal_empty
    rw [hread] at hempty
    exact hempty
  | ok text =>
    rw [hwrite] at hmarshal
    cases hmarshal
    have hmem : some (server, 0) ∈ input.outbounds.map wireGuardServer := by
      rw [hcodecs.marshal_reads hwrite hread]
      exact List.mem_map.mpr ⟨out, hout, hserver⟩
    obtain ⟨o, ho, hzero⟩ := List.mem_map.mp hmem
    simp only [wireGuardServer] at hzero
    split_ifs at hzero with hwire
    exact hports o ho hwire (Prod.mk.inj (Option.some.inj hzero)).2

lemma Subscription.Rewrites.unique {input input' : Singbox.Options} (h : sub.Rewrites P input)
    (h' : sub.Rewrites P input') : input' = input := by
  obtain ⟨options, text, ⟨t, ht, hoptions⟩, htext, hinput⟩ := h
  obtain ⟨options', text', ⟨t', ht', hoptions'⟩, htext', hinput'⟩ := h'
  obtain rfl := Outcome.ok.inj (ht.symm.trans ht')
  obtain rfl := Outcome.ok.inj (hoptions.symm.trans hoptions')
  obtain rfl := Outcome.ok.inj (htext.symm.trans htext')
  exact Outcome.ok.inj (hinput'.symm.trans hinput)

variable (sub tag generateWarpInfo) in
/-- Outbounds with one tag are the same, and the calls return texts from which they can be told. -/
structure Subscription.Tells (D : Deps) (P : ParserDeps) (toJson : Encoder) : Prop where
  tags : ∀ options, sub.Decodes P options → ∀ out ∈ options.outbounds, ∀ out' ∈ options.outbounds,
    out'.tag = out.tag → out' = out
  codecs : CodecsTell D P toJson
  returns : sub.Returns D P toJson tag generateWarpInfo

/-- A subscription that never restarts the core is settled. -/
lemma Subscription.NeverRestarts.isSettled (h : sub.NeverRestarts D P toJson tag)
    (htells : sub.Tells tag generateWarpInfo D P toJson) : sub.IsSettled D P tag := by
  let order : MapOrder := ⟨id, fun keys => .refl keys⟩
  obtain ⟨input, -, -, hinput, -⟩ :=
    h.compare htells.codecs htells.returns 1 1 none none order order
  obtain ⟨hsecret, houts, hport, htag⟩ := h.settles htells.codecs htells.returns order hinput
  have hbatch (options : Singbox.Options) (hoptions : sub.Decodes P options) :
      IsSettledBatch options.outbounds :=
    ⟨sub.not_custom htells.codecs hoptions (htells.tags options hoptions) hinput
      fun out hout => (houts out hout).port, htells.tags options hoptions⟩
  refine ⟨hbatch, fun input' hrewrites => ?_⟩
  obtain rfl := (sub.rewrites_of_parseInput hbatch hinput).unique hrewrites
  exact ⟨hsecret, houts, hport,
    fun k k' hk hk' => h.keys htells.codecs htells.returns hinput houts hk hk', htag⟩

/-- A settled subscription never restarts the core, and no other one does if its texts tell what is
drawn. -/
theorem Subscription.neverRestarts_iff_isSettled (sub : Subscription) :
    (sub.IsSettled D P tag → sub.NeverRestarts D P toJson tag) ∧
      ∀ generateWarpInfo, sub.Tells tag generateWarpInfo D P toJson →
        sub.NeverRestarts D P toJson tag → sub.IsSettled D P tag :=
  ⟨fun hs => hs.neverRestarts, fun _ htells h => h.isSettled htells⟩

end Converse

/-! ### A subscription with one outbound -/

namespace OneOutbound

def outbound : Outbound where
  type := .wireguard
  tag := "wg"
  wireGuardOptions := { server := "wg.example", serverPort := 51820, privateKey := "key" }

def decoded : Json := .obj [("outbounds", .arr [.obj [("type", .str "wireguard"),
  ("tag", .str "wg"), ("server", .str "wg.example"), ("server_port", .num 51820 0),
  ("private_key", .str "key")]])]

def parserDeps : ParserDeps := ParserReference.deps

def subscription (opt : ConfigOptions) : Subscription where
  content := parserDeps.indent decoded
  defaultConfig := opt

/-- The default settings with a secret. -/
def withKey : ConfigOptions := { defaultConfigOptions with clashApiSecret := "secret" }

def toJson : Encoder := fun o =>
  if ∀ out ∈ o.outbounds, out.type ∈ DocumentJson.outboundTypes then
    .ok ⟨DocumentJson.entriesCodec.marshal (DocumentJson.entriesOf o),
      JsonText.encode_ne (DocumentJson.entriesCodec.numeric_encode _)⟩
  else
    .fail "unknown outbound type"

lemma toJson_eq_ok {o : Singbox.Options} {text : {text : String // text ≠ ""}}
    (h : toJson o = .ok text) : parserDeps.marshalOptions o = .ok text.val := by
  rw [toJson] at h
  split_ifs at h with hknown
  cases h
  exact DocumentJson.marshalOptions_of_known hknown

/-- What is read of a document is what was written of it. -/
lemma alike_of_marshal {o o' : Singbox.Options} {text : String}
    (h : parserDeps.marshalOptions o = .ok text) (h' : parserDeps.unmarshalOptions text = .ok o') :
    WrittenAlike o o' := by
  obtain rfl := Outcome.ok.inj ((DocumentJson.unmarshal_marshal h).symm.trans h')
  have hservers (out : Outbound) (hout : out ∈ o.outbounds) :
      wireGuardServer out = wireGuardServer (DocumentJson.entryOf out).outbound := by
    simp only [wireGuardServer, DocumentJson.type_of_marshal h hout]
    rfl
  refine ⟨?_, ?_, ?_, ?_⟩
  · cases hclash : o.experimental.bind (·.clashAPI) <;>
      simp [clashSecret, DocumentJson.entriesOf, DocumentJson.Entries.options, hclash]
  · cases hdns : o.dns <;> simp [DocumentJson.entriesOf, DocumentJson.Entries.options, hdns]
  · cases hroute : o.route <;> simp [DocumentJson.entriesOf, DocumentJson.Entries.options, hroute]
  · simpa [DocumentJson.entriesOf, DocumentJson.Entries.options] using hservers

lemma codecsTell : CodecsTell Codec.deps parserDeps toJson where
  documented := Codec.deps_documented
  parser := ParserReference.deps_documented
  addressed := codec_wireGuardAddressed
  toLower_length s := by simp [Codec.deps, Reference.deps, String.length_toList]
  marshal_reads h h' := (alike_of_marshal h h').servers.symm
  toJson_reads h :=
    have hread := DocumentJson.unmarshal_marshal (toJson_eq_ok h)
    ⟨_, hread, alike_of_marshal (toJson_eq_ok h) hread⟩

lemma isOutbounds : DocumentJson.IsOutbounds [DocumentJson.entryOf outbound] decoded := rfl

lemma ofValue_decoded : DocumentJson.ofValue (DocumentJson.value decoded) = some decoded := by
  simp [decoded, DocumentJson.literal, Strings.atoi_intDigits]

lemma outbound_entryOf : (DocumentJson.entryOf outbound).outbound = outbound := by
  have htype := DocumentJson.typeNamed_name outbound.type (by decide)
  rw [DocumentJson.OutboundEntry.outbound, show DocumentJson.typeNamed
    (DocumentJson.entryOf outbound).type = outbound.type from htype]
  rfl

lemma patchedText_eq (opt : ConfigOptions) :
    patchedText parserDeps (subscription opt).content (some opt) false =
      .ok (parserDeps.indent decoded, "SingboxParser") :=
  patchedText_outbounds (some opt) false (ParserReference.decode_indent ofValue_decoded)

lemma unmarshalOptions_decoded :
    parserDeps.unmarshalOptions (parserDeps.indent decoded) = .ok { outbounds := [outbound] } := by
  rw [parserDeps, ParserReference.unmarshalOptions_indent isOutbounds, List.map_singleton,
    outbound_entryOf]

lemma decodes {opt : ConfigOptions} {options : Singbox.Options}
    (h : (subscription opt).Decodes parserDeps options) :
    options = { outbounds := [outbound] } := by
  obtain ⟨t, ht, hoptions⟩ := h
  obtain rfl := Outcome.ok.inj ((patchedText_eq opt).symm.trans ht)
  exact Outcome.ok.inj (hoptions.symm.trans unmarshalOptions_decoded)

lemma isSettledBatch {opt : ConfigOptions} {options : Singbox.Options}
    (h : (subscription opt).Decodes parserDeps options) : IsSettledBatch options.outbounds := by
  rw [decodes h]
  exact ⟨by simp [outbound, warpObject], by simp⟩

/-- The text of the outbound, which is read back. -/
lemma exists_marshal : ∃ text, parserDeps.marshalOptions { outbounds := [outbound] } = .ok text ∧
    parserDeps.unmarshalOptions text = .ok { outbounds := [outbound] } := by
  have hknown : ∀ out ∈ ({ outbounds := [outbound] } : Singbox.Options).outbounds,
      out.type ∈ DocumentJson.outboundTypes := by decide
  have hwrite := DocumentJson.marshalOptions_of_known hknown
  have hread := DocumentJson.unmarshal_marshal hwrite
  rw [DocumentJson.entriesOf, DocumentJson.Entries.options, List.map_singleton, List.map_singleton,
    outbound_entryOf] at hread
  exact ⟨_, hwrite, hread⟩

lemma rewrites {opt : ConfigOptions} {input : Singbox.Options}
    (h : (subscription opt).Rewrites parserDeps input) : input = { outbounds := [outbound] } := by
  obtain ⟨options, text, hoptions, htext, hinput⟩ := h
  obtain rfl := decodes hoptions
  obtain ⟨text', hwrite, hread⟩ := exists_marshal
  rw [hwrite] at htext
  cases htext
  exact Outcome.ok.inj (hinput.symm.trans hread)

lemma parseInput_eq (opt : ConfigOptions) (env : ReadEnv) :
    parseInput Codec.deps parserDeps env opt (subscription opt).content =
      .ok { outbounds := [outbound] } := by
  obtain ⟨text, hwrite, hread⟩ := exists_marshal
  have hcontent : parseConfigContent Codec.deps parserDeps env.parse (subscription opt).content
      (some opt) false = .ok text := by
    have hcheck : validateResult parserDeps text "SingboxParser" = .ok text := rfl
    have hsettled := (subscription opt).parseConfigContent_settled (D := Codec.deps)
      (fun _ => isSettledBatch) env.parse
    exact hsettled.trans (Outcome.bind_eq_ok.mpr ⟨_, patchedText_eq opt, Outcome.bind_eq_ok.mpr
      ⟨_, Outcome.mapErr_eq_ok.mpr unmarshalOptions_decoded, Outcome.bind_eq_ok.mpr
        ⟨text, congrArg contentOf hwrite, hcheck⟩⟩⟩)
  rw [parseInput, hcontent]
  exact hread

lemma text_eq (opt : ConfigOptions) (env : ReadEnv) (tag : String) :
    (subscription opt).text Codec.deps parserDeps toJson env tag = (do
      let final ← buildFinal Codec.deps env tag opt { outbounds := [outbound] }
      toJson final) := by
  rw [Subscription.text, show (subscription opt).opt = opt from rfl, parseInput_eq, Outcome.bind_ok]

lemma tagLeft_eq (opt : ConfigOptions) (env : ReadEnv) (tag : String) :
    (subscription opt).tagLeft Codec.deps parserDeps env tag =
      (buildConfig Codec.deps env.build opt { outbounds := [outbound] }
        { outboundMainProxyTag := tag }).2.outboundMainProxyTag := by
  rw [Subscription.tagLeft, show (subscription opt).opt = opt from rfl, parseInput_eq]

lemma outbound_isSettled : Config.IsSettled (fun _ => some []) outbound where
  custom := rfl
  port _ := by decide
  server _ _ := by decide

/-- The only key is the name of the server. -/
lemma isDirectKey {k : String}
    (h : IsDirectKey Codec.deps (fun _ => some []) withKey { outbounds := [outbound] } k) :
    k = "full:wg.example" := by
  rcases h with ⟨-, out, hout, hname⟩ | hremote
  · rw [List.mem_singleton.mp hout] at hname
    exact (Outcome.ok.inj hname).symm
  · have hnone : remoteKey Codec.deps withKey = none := by decide
    rw [hnone] at hremote
    cases hremote

lemma isSettled : (subscription withKey).IsSettled Codec.deps parserDeps outboundSelectTag where
  batch _ := isSettledBatch
  input input h := by
    obtain rfl := rewrites h
    refine ⟨by decide, fun out hout => ?_, by decide, fun k k' hk hk' => ?_, by decide⟩
    · rw [List.mem_singleton.mp hout]
      exact outbound_isSettled
    · rw [isDirectKey hk, isDirectKey hk']

lemma tells : (subscription withKey).Tells outboundSelectTag (fun _ => .fail "register") Codec.deps
    parserDeps toJson where
  tags options h := by
    rw [decodes h]
    simp
  codecs := codecsTell
  returns env env' henv _ henv' _ := by
    have hquiet : ReadEnv.Resolves {} (subscription withKey).lookupHost :=
      ⟨fun _ => rfl, rfl, rfl, fun _ => rfl⟩
    have hok :
        ((subscription withKey).text Codec.deps parserDeps toJson {} outboundSelectTag).IsOk := by
      rw [text_eq]
      decide
    rw [isSettled.tagLeft_eq, isSettled.text_eq henv hquiet, isSettled.text_eq henv' hquiet]
    exact ⟨hok, hok⟩

end OneOutbound

open OneOutbound in
theorem neverRestarts_iff_isSettled_withKey :
    (subscription withKey).NeverRestarts Codec.deps parserDeps toJson outboundSelectTag ∧
      (subscription withKey).IsSettled Codec.deps parserDeps outboundSelectTag := by
  have hnever : (subscription withKey).NeverRestarts Codec.deps parserDeps toJson
      outboundSelectTag :=
    (subscription withKey).neverRestarts_iff_isSettled.1 isSettled
  exact ⟨hnever, (subscription withKey).neverRestarts_iff_isSettled.2 _ tells hnever⟩

open OneOutbound in
/-- With the default settings the secret is drawn again at the next tick. -/
theorem not_neverRestarts :
    ¬ ∀ (D : Deps) (P : ParserDeps) (toJson : Encoder), D.Documented → P.Documented →
      ∀ (sub : Subscription) (mainProxyTag : String),
        sub.NeverRestarts D P toJson mainProxyTag := by
  intro h
  let sub : Subscription := subscription defaultConfigOptions
  have hnever := h Codec.deps parserDeps toJson Codec.deps_documented
    ParserReference.deps_documented sub outboundSelectTag
  let env : ReadEnv := {}
  let env' : ReadEnv := { build := { secret := none } }
  have henv : env.Resolves sub.lookupHost := ⟨fun _ => rfl, rfl, rfl, fun _ => rfl⟩
  have henv' : env'.Resolves sub.lookupHost := ⟨fun _ => rfl, rfl, rfl, fun _ => rfl⟩
  have hleft : sub.tagLeft Codec.deps parserDeps env outboundSelectTag = outboundSelectTag := by
    rw [tagLeft_eq]
    decide
  obtain ⟨text, htext⟩ := Outcome.IsOk.exists_eq
    (o := sub.text Codec.deps parserDeps toJson env outboundSelectTag) (by
      rw [text_eq]
      decide)
  obtain ⟨text', htext'⟩ := Outcome.IsOk.exists_eq
    (o := sub.text Codec.deps parserDeps toJson env' outboundSelectTag) (by
      rw [text_eq]
      decide)
  obtain rfl := hnever.text_eq henv henv' rfl rfl htext (hleft.symm ▸ htext')
  rw [text_eq] at htext htext'
  obtain ⟨final, hfinal, hjson⟩ := Outcome.bind_eq_ok.mp htext
  obtain ⟨final', hfinal', hjson'⟩ := Outcome.bind_eq_ok.mp htext'
  obtain ⟨o, hread, halike⟩ := codecsTell.toJson_reads hjson
  obtain ⟨o', hread', halike'⟩ := codecsTell.toJson_reads hjson'
  obtain rfl := Outcome.ok.inj (hread.symm.trans hread')
  have hsecret : clashSecret <$> buildFinal Codec.deps env outboundSelectTag defaultConfigOptions
      { outbounds := [outbound] } ≠ clashSecret <$> buildFinal Codec.deps env' outboundSelectTag
        defaultConfigOptions { outbounds := [outbound] } := by decide
  rw [hfinal, hfinal'] at hsecret
  exact hsecret (congrArg Outcome.ok (halike.trans halike'.symm).secret)

end HiddifyCore.V2
