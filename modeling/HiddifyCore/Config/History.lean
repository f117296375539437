import HiddifyCore.Config.SharedTricks

/-!
# The history of BuildConfig

Two things of one call reach a later one: the tag that it leaves in `OutboundMainProxyTag`, and the
TLS tricks that it writes into records of its input. A call returns what it returns in a new process
exactly when the tag is the selector's and the tricks that its document shows are those that it
would show there, or when it fails anyway.
-/

namespace HiddifyCore.Config

open GoLib Singbox

variable {D : Deps}

/-- The call puts the same TLS tricks into its document from two memories: the outbounds that the
loop keeps show the same. -/
def SharedCall.ShowsSame (D : Deps) (c : SharedCall) (memory memory' : TricksMemory) : Prop :=
  ∀ k out out', (c.readInput D memory).outbounds[k]? = some out →
    (c.readInput D memory').outbounds[k]? = some out' → isDropped (resolvedType out) = false →
      shownTricks D (c.env.outbound k) c.options out =
        shownTricks D (c.env.outbound k) c.options out'

/-! ### The loop on outbounds that differ in their tricks -/

section Loop

variable {opt : ConfigOptions} {draws : Nat → Draws} {outs outs' : List Outbound}

lemma resolvedType_same {o o' : Outbound} (h : SameButTricks o o') :
    resolvedType o' = resolvedType o := by
  obtain ⟨f, rfl⟩ := h
  rfl

lemma usesWarpKey_same {o o' : Outbound} (h : SameButTricks o o') (opt : ConfigOptions) :
    usesWarpKey opt o' = usesWarpKey opt o := by
  obtain ⟨f, rfl⟩ := h
  rfl

lemma scanWarp_same (h : List.Forall₂ SameButTricks outs outs') (opt : ConfigOptions) :
    scanWarp outs' opt = scanWarp outs opt := by
  have hany : outs'.any (usesWarpKey opt) = outs.any (usesWarpKey opt) := by
    induction h with
    | nil => rfl
    | cons ho _ ih => rw [List.any_cons, List.any_cons, usesWarpKey_same ho, ih]
  simp only [scanWarp, hany]

/-- The two loops fail alike. -/
lemma collect_failAlike (hT : TricksKeyed D) (h : List.Forall₂ SameButTricks outs outs') (i : Nat)
    (acc acc' : Collected) :
    FailAlike (collect D opt draws outs i acc) (collect D opt draws outs' i acc') := by
  induction h generalizing i acc acc' with
  | nil => exact .inl ⟨trivial, trivial⟩
  | cons ho _ ih =>
    simp only [collect]
    rcases patchOutbound_alike hT (draws i) opt ho with ⟨p, p', hp, hp', -⟩ | ⟨heq, hno⟩
    · rw [hp, hp']
      exact ih (i + 1) _ _
    · rw [← heq]
      cases hp : patchOutbound D (draws i) _ opt with
      | ok p => exact absurd (by rw [hp]; trivial) hno
      | fail e => exact .inr rfl
      | panic e => exact .inr rfl

/-- The body of the loop sees of a dropped outbound its domain and its addresses only. -/
lemma add_eq_of_dropped {acc : Collected} {p p' : Patched}
    (hdomain : p.serverDomain = p'.serverDomain) (hstatic : p.staticIPs = p'.staticIPs)
    (hdrop : isDropped p.outbound.type = true) (hdrop' : isDropped p'.outbound.type = true) :
    acc.add opt p = acc.add opt p' := by
  simp only [Collected.add, hdomain, hstatic, hdrop, hdrop', if_true]

/-- The two loops do the same when the outbounds that are kept show the same tricks. -/
lemma collect_showsSame (hD : D.Documented) (hT : TricksKeyed D)
    (h : List.Forall₂ SameButTricks outs outs') (i : Nat) (acc : Collected)
    (hshown : ∀ k o o', outs[k]? = some o → outs'[k]? = some o' →
      isDropped (resolvedType o) = false →
        shownTricks D (draws (i + k)) opt o = shownTricks D (draws (i + k)) opt o') :
    collect D opt draws outs i acc = collect D opt draws outs' i acc := by
  induction h generalizing i acc with
  | nil => rfl
  | @cons o o' outs outs' ho hs ih =>
    simp only [collect]
    have hrest (acc : Collected) : collect D opt draws outs (i + 1) acc =
        collect D opt draws outs' (i + 1) acc := by
      refine ih (i + 1) acc fun k o o' hk hk' hdrop => ?_
      have := hshown (k + 1) o o' (by simpa using hk) (by simpa using hk') hdrop
      rwa [Nat.add_comm k 1, ← Nat.add_assoc] at this
    cases hdrop : isDropped (resolvedType o) with
    | false =>
      have hpatch := patchOutbound_congr hT (draws i) opt ho (hshown 0 o o' rfl rfl hdrop)
      rw [hpatch]
      cases patchOutbound D (draws i) o' opt with
      | ok p => exact hrest _
      | fail e => rfl
      | panic e => rfl
    | true =>
      rcases patchOutbound_alike hT (draws i) opt ho with
        ⟨p, p', hp, hp', hdomain, hstatic⟩ | ⟨heq, hno⟩
      · have htype := (patchOutbound_ok hD hp).1
        have htype' := (patchOutbound_ok hD hp').1
        rw [resolvedType_same ho] at htype'
        rw [hp, hp', Outcome.bind_ok, Outcome.bind_ok,
          add_eq_of_dropped hdomain hstatic (by rwa [htype]) (by rwa [htype'])]
        exact hrest _
      · rw [← heq]
        cases hp : patchOutbound D (draws i) o opt with
        | ok p => exact absurd (by rw [hp]; trivial) hno
        | fail e => rfl
        | panic e => rfl

lemma detourThroughWarp_of_patched {p p' : Outbound}
    (h : patchHiddifyWarpFromConfig opt p = patchHiddifyWarpFromConfig opt p') :
    detourThroughWarp p = detourThroughWarp p' := by
  simp only [patchHiddifyWarpFromConfig] at h
  split_ifs at h
  · exact h
  · rw [h]

/-- Two loops that keep the same outbounds have met the same tricks in them. -/
lemma shownTricks_of_kept (hD : D.Documented) (hT : TricksKeyed D)
    (h : List.Forall₂ SameButTricks outs outs') {i : Nat} {ps ps' : List Patched}
    (hps : Patches D opt draws i outs ps) (hps' : Patches D opt draws i outs' ps')
    (hkept : (keptOf ps).map (patchHiddifyWarpFromConfig opt) =
      (keptOf ps').map (patchHiddifyWarpFromConfig opt)) {k : Nat} {o o' : Outbound}
    (ho : outs[k]? = some o) (ho' : outs'[k]? = some o')
    (hdrop : isDropped (resolvedType o) = false) :
    shownTricks D (draws (i + k)) opt o = shownTricks D (draws (i + k)) opt o' := by
  induction h generalizing i ps ps' k with
  | nil => simp at ho
  | @cons a a' outs outs' ha hs ih =>
    cases hps with
    | @cons _ _ p _ ps hp hps =>
    cases hps' with
    | @cons _ _ p' _ ps' hp' hps' =>
    have htype := (patchOutbound_ok hD hp).1
    have htype' := (patchOutbound_ok hD hp').1
    rw [resolvedType_same ha] at htype'
    rw [keptOf_cons, keptOf_cons, htype, htype'] at hkept
    -- the first two are dropped together
    have hsplit : (keptOf ps).map (patchHiddifyWarpFromConfig opt) =
          (keptOf ps').map (patchHiddifyWarpFromConfig opt) ∧
        (isDropped (resolvedType a) = false →
          detourThroughWarp p.outbound = detourThroughWarp p'.outbound) := by
      cases hfirst : isDropped (resolvedType a) with
      | true => simpa [hfirst] using hkept
      | false =>
        simp only [hfirst, Bool.false_eq_true, if_false, List.cons_append, List.nil_append,
          List.map_cons, List.cons.injEq] at hkept
        exact ⟨hkept.2, fun _ => detourThroughWarp_of_patched hkept.1⟩
    cases k with
    | zero =>
      cases ho
      cases ho'
      exact shownTricks_of_patched hT ha hp hp' (hsplit.2 hdrop)
    | succ k =>
      have := ih hps hps' hsplit.1 (by simpa using ho) (by simpa using ho')
      rwa [Nat.add_assoc, Nat.add_comm 1 k] at this

end Loop

/-! ### A call from two memories -/

namespace SharedCall

variable (c : SharedCall) (memory memory' : TricksMemory)

lemma readInput_same : List.Forall₂ SameButTricks c.input.outbounds
    (c.readInput D memory).outbounds := readOutbounds_same _ _ _

lemma readInput_alike : List.Forall₂ SameButTricks (c.readInput D memory).outbounds
    (c.readInput D memory').outbounds := by
  have hleft := List.Forall₂.flip (c.readInput_same (D := D) memory)
  have hright := c.readInput_same (D := D) memory'
  revert hleft hright
  generalize (c.readInput D memory).outbounds = outs
  generalize (c.readInput D memory').outbounds = outs'
  generalize c.input.outbounds = input
  intro hleft hright
  induction hleft generalizing outs' with
  | nil =>
    cases hright
    exact .nil
  | cons hl _ ih =>
    cases hright with
    | cons hr hrs => exact .cons ((SameButTricks.symm hl).trans hr) (ih _ hrs)

lemma scannedOptions_readInput :
    scannedOptions c.env c.opt (c.readInput D memory) = c.options :=
  scanWarp_same (c.readInput_same memory) _

/-- The call on the input that it reads. -/
def readCall (D : Deps) (c : SharedCall) (memory : TricksMemory) : Call :=
  { c.toCall with input := c.readInput D memory }

variable {c memory memory'}

/-- Whether a call fails does not depend on what its pointers lead to. -/
lemma fails_readCall (hT : TricksKeyed D) :
    (c.readCall D memory).Fails D ↔ c.toCall.Fails D := by
  have hloop : (collect D c.options c.env.outbound c.input.outbounds 0 {}).IsOk ↔
      (collect D c.options c.env.outbound (c.readInput D memory).outbounds 0 {}).IsOk := by
    rcases collect_failAlike hT (c.readInput_same memory) 0 {} {} with ⟨hok, hok'⟩ | heq
    · exact ⟨fun _ => hok', fun _ => hok⟩
    · rw [heq]
  rw [collect_isOk, collect_isOk] at hloop
  have hneg := not_congr hloop
  push Not at hneg
  simp only [Nat.zero_add] at hneg
  simp only [Call.Fails, readCall, scannedOptions_readInput]
  exact or_congr_right hneg.symm

end SharedCall

/-! ### What runs leave -/

/-- The last call alone decides the tag. -/
lemma runShared_concat (calls : List SharedCall) (c : SharedCall) (p : Process) :
    (runShared D (calls ++ [c]) p).globals.outboundMainProxyTag = tagAfter D c.options := by
  rw [runShared, List.foldl_append, List.foldl_cons, List.foldl_nil, SharedCall.run_globals,
    buildConfig_mainProxyTag, SharedCall.scannedOptions_readInput]

/-- The tag is the selector's again unless the last call makes WARP the main proxy. -/
lemma runShared_mainProxyTag_iff (calls : List SharedCall) (memory : TricksMemory) :
    (runShared D calls ⟨{}, memory⟩).globals.outboundMainProxyTag = outboundSelectTag ↔
      ∀ last, calls.getLast? = some last → ¬ last.MakesWarpMain D := by
  rcases List.eq_nil_or_concat' calls with rfl | ⟨before, last, rfl⟩
  · simp [runShared]
  · rw [runShared_concat]
    simp only [List.getLast?_append, List.getLast?_singleton, Option.some_or, Option.some.injEq,
      forall_eq']
    constructor
    · intro htag hmain
      have hwarp : tagAfter D last.options = warpTag := Call.tagAfter_of_makesWarpMain hmain
      rw [hwarp] at htag
      exact absurd htag (by decide)
    · exact Call.tagAfter_of_not

/-! ### History -/

section History

variable {c : SharedCall} {p p' : Process}

/-- The outbounds of the input count through the scan and the loop. -/
lemma setOutbounds_outbounds {env : BuildEnv} {outs outs' : List Outbound} {opt : ConfigOptions}
    {options : Options} {g : Globals} (hscan : scanWarp outs' opt = scanWarp outs opt)
    (hcollect : collect D (scanWarp outs opt) env.outbound outs 0
        { staticIPs := staticIPsOf options } =
      collect D (scanWarp outs opt) env.outbound outs' 0 { staticIPs := staticIPsOf options }) :
    (setOutbounds D env outs opt options g).1 = (setOutbounds D env outs' opt options g).1 := by
  simp only [setOutbounds, hscan, hcollect]

/-- Without a WARP outbound the loop is not reached. -/
lemma setOutbounds_warp_fails {env : BuildEnv} {outs outs' : List Outbound} {opt : ConfigOptions}
    {options : Options} {g : Globals} (hscan : scanWarp outs' opt = scanWarp outs opt)
    (hgen : generatesWarp (scanWarp outs opt) = true)
    (hwarp : ¬ (warpOutbound D (scanWarp outs opt)).IsOk) :
    (setOutbounds D env outs opt options g).1 = (setOutbounds D env outs' opt options g).1 := by
  simp only [setOutbounds]
  simp only [Go.bind_run, Go.modify, hscan]
  rcases hrun : addWarp D env.warp (scanWarp outs opt) (g.setMainProxyTag outboundSelectTag)
    with ⟨(e | warp) | e, u⟩
  · rfl
  · exact absurd ((addWarp_ok hrun).isOk hgen) hwarp
  · rfl

lemma run_congr (hD : D.Documented) (hT : TricksKeyed D)
    (htag : p.globals.outboundMainProxyTag = p'.globals.outboundMainProxyTag)
    (hshows : c.ShowsSame D p.memory p'.memory) : (c.run D p).1 = (c.run D p').1 := by
  have halike := c.readInput_alike (D := D) p.memory p'.memory
  have hopt : scanWarp (c.readInput D p.memory).outbounds (withSecret c.env c.opt) = c.options :=
    c.scannedOptions_readInput p.memory
  rw [SharedCall.run_fst, SharedCall.run_fst, buildConfig_fst D c.env c.opt _ _ _ htag,
    buildConfig_run, buildConfig_run]
  refine setOutbounds_outbounds (scanWarp_same halike _) (collect_showsSame hD hT halike 0 _ ?_)
  intro k o o' ho ho' hdrop
  rw [hopt, Nat.zero_add]
  exact hshows k o o' ho ho' hdrop

/-- A failing call fails alike from any two processes. -/
lemma run_fails_congr (hT : TricksKeyed D) (h : c.Fails D) : (c.run D p).1 = (c.run D p').1 := by
  have halike := c.readInput_alike (D := D) p.memory p'.memory
  have hscan := scanWarp_same halike (withSecret c.env c.opt)
  have hfails : (c.readCall D p.memory).Fails D := (SharedCall.fails_readCall hT).mpr h
  refine (buildConfig_fails_congr hfails p.globals p'.globals).trans ?_
  rw [SharedCall.run_fst, buildConfig_run, buildConfig_run]
  rcases hfails with ⟨hgen, hwarp⟩ | ⟨k, out, hout, hpatch⟩
  · exact setOutbounds_warp_fails hscan hgen hwarp
  · refine setOutbounds_outbounds hscan ?_
    rcases collect_failAlike hT halike 0 _ _ with ⟨hok, -⟩ | heq
    · -- the patch of that outbound fails in the loop
      exact absurd (by simpa using collect_isOk.mp hok k out hout) hpatch
    · exact heq

/-- From the same document the tag and the tricks can be told. -/
lemma of_run_eq (hD : D.Documented) (hT : TricksKeyed D) (hfails : ¬ c.Fails D)
    (h : (c.run D p).1 = (c.run D p').1) :
    p.globals.outboundMainProxyTag = p'.globals.outboundMainProxyTag ∧
      c.ShowsSame D p.memory p'.memory := by
  have hno : ¬ (c.readCall D p'.memory).Fails D :=
    fun hno => hfails ((SharedCall.fails_readCall hT).mp hno)
  obtain ⟨out, hout⟩ := (buildConfig_isOk (c.readCall D p'.memory) p'.globals).mpr hno
  obtain ⟨b⟩ := buildConfig_fst_ok (h.trans hout)
  obtain ⟨b'⟩ := buildConfig_fst_ok hout
  have hopt := c.scannedOptions_readInput (D := D) p.memory
  have hopt' := c.scannedOptions_readInput (D := D) p'.memory
  constructor
  · have hroute := b.route_eq.symm.trans b'.route_eq
    exact congrArg (fun route : Option Singbox.RouteOptions => (route.getD {}).final) hroute
  · have houts := b.outbounds_eq.symm.trans b'.outbounds_eq
    have hpart := b.warpPart
    have hpart' := b'.warpPart
    have hps := b.patches
    have hps' := b'.patches
    simp only [SharedCall.readCall] at houts hpart' hps'
    rw [hopt, hopt'] at houts
    rw [hopt] at hpart hps
    rw [hopt'] at hpart' hps'
    have hwarp : b.warp.length = b'.warp.length := by
      generalize b.warp = warp at hpart
      generalize b'.warp = warp' at hpart'
      cases hpart with
      | off hoff =>
        cases hpart' with
        | off => rfl
        | on hon => simp [hoff] at hon
      | on hon _ _ =>
        cases hpart' with
        | off hoff => simp [hoff] at hon
        | on => rfl
    have hkept := (List.append_inj (List.append_cancel_right houts) (by simp [hwarp])).2
    intro k o o' ho ho' hdrop
    have := shownTricks_of_kept hD hT (c.readInput_alike p.memory p'.memory) hps hps' hkept ho ho'
      hdrop
    rwa [Nat.zero_add] at this

/-- What a call returns tells two processes apart by the tag and by the tricks that it shows, unless
it fails. -/
lemma run_eq_iff (hD : D.Documented) (hT : TricksKeyed D) :
    (c.run D p).1 = (c.run D p').1 ↔
      (p.globals.outboundMainProxyTag = p'.globals.outboundMainProxyTag ∧
        c.ShowsSame D p.memory p'.memory) ∨ c.Fails D := by
  constructor
  · intro hsame
    by_cases hfails : c.Fails D
    · exact .inr hfails
    · exact .inl (of_run_eq hD hT hfails hsame)
  · rintro (⟨htag, hshows⟩ | hfails)
    · exact run_congr hD hT htag hshows
    · exact run_fails_congr hT hfails

lemma SharedCall.showsSame_of_agree {memory memory' : TricksMemory}
    (h : ∀ k r, memory (c.tricksAt k r) = memory' (c.tricksAt k r)) :
    c.ShowsSame D memory memory' := by
  have hread : c.readInput D memory = c.readInput D memory' :=
    congrArg (fun outs => { c.input with outbounds := outs }) (readOutbounds_congr _ _ h)
  intro k o o' ho ho' _
  rw [hread, ho'] at ho
  cases ho
  rfl

/-- A call whose input shares no record with those of earlier calls finds the tag only. -/
theorem buildConfig_history_unshared (hD : D.Documented) (hT : TricksKeyed D)
    (memory : TricksMemory) (calls : List SharedCall)
    (h : ∀ d ∈ calls, ∀ k r k' r', d.tricksAt k r ≠ c.tricksAt k' r') :
    (c.run D (runShared D calls ⟨{}, memory⟩)).1 = (c.run D ⟨{}, memory⟩).1 ↔
      (∀ last, calls.getLast? = some last → ¬ last.MakesWarpMain D) ∨ c.Fails D := by
  have hshows : c.ShowsSame D (runShared D calls ⟨{}, memory⟩).memory memory :=
    SharedCall.showsSame_of_agree fun k r =>
      runShared_frame calls _ fun d hd k' r' => h d hd k' r' k r
  rw [run_eq_iff hD hT, and_iff_left hshows]
  exact or_congr_left (runShared_mainProxyTag_iff calls memory)

/-- A call returns what it returns in a new process exactly when the call before it did not make
WARP the main proxy and its own document shows the tricks that it shows there, or when it fails
anyway. -/
theorem buildConfig_history_iff (hD : D.Documented) (hT : TricksKeyed D)
    (memory : TricksMemory) (calls : List SharedCall) (c : SharedCall) :
    (c.run D (runShared D calls ⟨{}, memory⟩)).1 = (c.run D ⟨{}, memory⟩).1 ↔
      ((∀ last, calls.getLast? = some last → ¬ last.MakesWarpMain D) ∧
        c.ShowsSame D (runShared D calls ⟨{}, memory⟩).memory memory) ∨ c.Fails D := by
  rw [run_eq_iff hD hT]
  exact or_congr_left (and_congr_left' (runShared_mainProxyTag_iff calls memory))

end History

/-! ### A codec for the tricks of VLESS outbounds -/

namespace TricksReference

def tlsMembers (tls : OutboundTLSOptions) : JObj :=
  ("enabled", .bool tls.enabled) ::
    match tls.tlsTricks with
    | some t => [("tls_tricks", Reference.deps.encodeTLSTricks t)]
    | none => []

def object (o : Outbound) (tls : OutboundTLSOptions) : JObj :=
  [("type", .str "vless"), ("tag", .str o.tag), ("tls", .obj (tlsMembers tls)),
    ("detour", .str o.vlessOptions.detour)]

def marshalJSON (o : Outbound) : Outcome JObj :=
  match o.type, o.vlessOptions.tls with
  | .vless, some tls => .ok (object o tls)
  | t, _ => .fail ("unknown outbound type: " ++ t.name)

def decodeTricks : Json → TLSTricksOptions
  | .obj t => {
      mixedCaseSNI := match JObj.get? t "mixedcase_sni" with
        | some (.bool b) => b
        | _ => false
      paddingMode := JObj.getString t "padding_mode"
      paddingSize := JObj.getString t "padding_size" }
  | _ => {}

def decodeTLS (tls : JObj) : OutboundTLSOptions where
  enabled := match tls.get? "enabled" with
    | some (.bool b) => b
    | _ => false
  tlsTricks := (tls.get? "tls_tricks").map decodeTricks

def unmarshalOutbound (m : JObj) : Outcome Outbound :=
  if m.getString "type" = "vless" then
    .ok {
      type := .vless
      tag := m.getString "tag"
      vlessOptions := {
        detour := m.getString "detour"
        tls := ((m.get? "tls").bind Json.asObject?).map decodeTLS } }
  else
    .fail ("unknown outbound type: " ++ m.getString "type")

def deps : Deps :=
  { Reference.deps with marshalJSON := marshalJSON, unmarshalOutbound := unmarshalOutbound }

variable {o o' : Outbound} {m : JObj}

lemma marshalOutbound_eq {tls : OutboundTLSOptions} (htype : o.type = .vless)
    (htls : o.vlessOptions.tls = some tls) : deps.marshalOutbound o = .ok (object o tls) := by
  have hexact : JObj.unmarshalMap (object o tls) = object o tls := by
    apply (Json.unmarshalMembers_eq_self _).mpr
    obtain ⟨enabled, reality, _ | t⟩ := tls <;> rfl
  simp only [Deps.marshalOutbound, deps, marshalJSON, htype, htls]
  exact congrArg Outcome.ok hexact

lemma marshalOutbound_ok (h : deps.marshalOutbound o = .ok m) :
    o.type = .vless ∧ ∃ tls, o.vlessOptions.tls = some tls ∧ m = object o tls := by
  obtain ⟨text, htext, -⟩ := Outcome.bind_eq_ok.mp h
  simp only [deps, marshalJSON] at htext
  split at htext
  · rename_i tls htype htls
    rw [marshalOutbound_eq htype htls, Outcome.ok.injEq] at h
    exact ⟨htype, tls, htls, h.symm⟩
  · cases htext

lemma unmarshalOutbound_ok (h : deps.unmarshalOutbound m = .ok o) :
    o.type = .vless ∧ o.tag = m.getString "tag" ∧ o.detour = m.getString "detour" ∧
      o.vlessOptions.tls = ((m.get? "tls").bind Json.asObject?).map decodeTLS := by
  simp only [deps, unmarshalOutbound] at h
  split_ifs at h
  cases h
  exact ⟨rfl, rfl, rfl, rfl⟩

theorem deps_documented : deps.Documented where
  ruleIsValid := Reference.deps_documented.ruleIsValid
  dnsRuleIsValid := Reference.deps_documented.dnsRuleIsValid
  type_of_key h h' _ := by
    rw [(unmarshalOutbound_ok h').1, (marshalOutbound_ok h).1]
  tag_of_key h h' hkey := by
    obtain ⟨-, tls, -, rfl⟩ := marshalOutbound_ok h
    rw [(unmarshalOutbound_ok h').2.1, Reference.getString_congr hkey]
    rfl
  detour_of_key h h' _ hkey := by
    obtain ⟨htype, tls, -, rfl⟩ := marshalOutbound_ok h
    rw [(unmarshalOutbound_ok h').2.2.1, Reference.getString_congr hkey, Outbound.detour, htype]
    rfl

lemma marshalOutbound_fail (h : ¬ ∃ tls, o.type = .vless ∧ o.vlessOptions.tls = some tls) :
    deps.marshalOutbound o = .fail ("unknown outbound type: " ++ o.type.name) := by
  simp only [Deps.marshalOutbound, deps, marshalJSON]
  split
  · rename_i tls htype htls
    exact absurd ⟨tls, htype, htls⟩ h
  · rfl

lemma withTricks_tls {f : TLSRecord → TLSTricksOptions} {tls : OutboundTLSOptions}
    (htls : o.vlessOptions.tls = some tls) : (o.withTricks f).vlessOptions.tls =
      some { tls with tlsTricks := tls.tlsTricks.map fun _ => f .vless } := by
  simp [Outbound.withTricks, V2RayOutboundOptions.withTricks, htls]

lemma typeTricks_eq {tls : OutboundTLSOptions} (htype : o.type = .vless)
    (htls : o.vlessOptions.tls = some tls) : o.typeTricks = tls.tlsTricks := by
  simp [Outbound.typeTricks, htype, OutboundType.tlsRecord, Outbound.tricks,
    Outbound.v2rayOptions, V2RayOutboundOptions.tricks, htls]

theorem tricksKeyed : TricksKeyed deps where
  marshal o f := by
    by_cases h : ∃ tls, o.type = .vless ∧ o.vlessOptions.tls = some tls
    · obtain ⟨tls, htype, htls⟩ := h
      rw [marshalOutbound_eq htype htls,
        marshalOutbound_eq (o := o.withTricks f) htype (withTricks_tls htls),
        typeTricks_eq (o := o.withTricks f) htype (withTricks_tls htls)]
      refine congrArg Outcome.ok ?_
      obtain ⟨enabled, reality, _ | t⟩ := tls <;> rfl
    · have h' : ¬ ∃ tls, (o.withTricks f).type = .vless ∧
          (o.withTricks f).vlessOptions.tls = some tls := by
        rintro ⟨tls, htype, htls⟩
        obtain ⟨tls, htls, -⟩ := Option.map_eq_some_iff.mp htls
        exact h ⟨tls, htype, htls⟩
      rw [marshalOutbound_fail h, marshalOutbound_fail h']
      rfl
  hasTricks {o m} h ho := by
    obtain ⟨htype, tls, htls, rfl⟩ := marshalOutbound_ok h
    rw [typeTricks_eq htype htls] at ho
    obtain ⟨t, ht⟩ := Option.isSome_iff_exists.mp ho
    refine ⟨tlsMembers tls, rfl, ?_⟩
    rw [tlsMembers, ht]
    rfl
  unmarshal m t t' := by
    have htype (v : Option Json) : (m.putTricks v).getString "type" = m.getString "type" :=
      Reference.getString_congr (get?_putTricks_of_ne (by decide))
    simp only [deps, unmarshalOutbound, htype]
    split_ifs
    · exact .inl ⟨trivial, trivial⟩
    · exact .inr rfl
  tricks_of_key {m t t' o o'} hm h h' hsame := by
    obtain ⟨tls, htls, hkey⟩ := hm
    obtain ⟨v, hv⟩ := Option.isSome_iff_exists.mp hkey
    -- an encoded record is read as what it was
    have hread (t : TLSTricksOptions) :
        (((m.putTricks (some (deps.encodeTLSTricks t))).get? "tls").bind Json.asObject?).map
          decodeTLS = some { decodeTLS tls with tlsTricks := some t } := by
      rw [asObject_putTricks, htls]
      simp only [Option.bind_some, Json.asObject?, Option.map_some, Option.elim_some, decodeTLS,
        JObj.get?_modify_self, hv,
        JObj.get?_modify_of_ne _ _ (show "enabled" ≠ "tls_tricks" by decide)]
      rfl
    have htricks := congrArg (fun o : Outbound => o.vlessOptions.tls) hsame
    have hto : o.vlessOptions.tls = o'.vlessOptions.tls := htricks
    rw [(unmarshalOutbound_ok h).2.2.2, (unmarshalOutbound_ok h').2.2.2, hread, hread] at hto
    simpa using hto

/-- A VLESS outbound over a WebSocket with a record of TLS tricks. -/
def vless : Outbound where
  type := .vless
  tag := "vless"
  vlessOptions := {
    tls := some { enabled := true, tlsTricks := some {} }
    transport := some .websocket }

/-- A call on an input with this outbound, whose record is at the address. -/
def call (opt : ConfigOptions) (addr : Nat) : SharedCall where
  env := {}
  opt := opt
  input := { outbounds := [vless] }
  tricksAt _ _ := addr

/-- The default options with padding. -/
def padding : ConfigOptions :=
  { defaultConfigOptions with
    tlsTricks := { defaultConfigOptions.tlsTricks with enablePadding := true } }

def memory : TricksMemory := fun _ => {}

lemma not_fails (addr : Nat) : ¬ (call defaultConfigOptions addr).Fails deps := by
  rintro (⟨hgen, -⟩ | ⟨k, out, hout, hpatch⟩)
  · exact Bool.false_ne_true hgen
  · rcases k with _ | k
    · cases hout
      exact hpatch trivial
    · cases hout

end TricksReference

open TricksReference in
/-- The padding of one call is in the document of the next one on the same input, and not in that
of one on another input. -/
theorem buildConfig_history_padding :
    ((call defaultConfigOptions 0).run deps
        (runShared deps [call padding 0] ⟨{}, memory⟩)).1 ≠
      ((call defaultConfigOptions 0).run deps ⟨{}, memory⟩).1 ∧
    ((call defaultConfigOptions 1).run deps
        (runShared deps [call padding 0] ⟨{}, memory⟩)).1 =
      ((call defaultConfigOptions 1).run deps ⟨{}, memory⟩).1 := by
  constructor
  · intro hsame
    rcases (buildConfig_history_iff deps_documented tricksKeyed _ _ _).mp hsame with
      ⟨-, hshows⟩ | hfails
    · exact absurd (hshows 0 _ _ rfl rfl (by decide)) (by decide)
    · exact not_fails 0 hfails
  · refine (buildConfig_history_iff deps_documented tricksKeyed _ _ _).mpr (.inl ⟨?_, ?_⟩)
    · intro last hlast
      cases hlast
      exact fun hmain => absurd hmain.1 (by decide)
    · exact SharedCall.showsSame_of_agree fun k r => rfl

open TricksReference in
/-- A call with WARP, and then one without. -/
theorem not_buildConfig_history :
    ¬ ∀ D : Deps, D.Documented → TricksKeyed D → ∀ (memory : TricksMemory)
      (calls : List SharedCall) (c : SharedCall),
        (c.run D (runShared D calls ⟨{}, memory⟩)).1 = (c.run D ⟨{}, memory⟩).1 := by
  intro h
  have hsame := congrArg (fun r => finalOf (documentOf r))
    (h deps deps_documented tricksKeyed memory [call warpOverProxy 0]
      (call defaultConfigOptions 1))
  exact absurd hsame (by decide)

end HiddifyCore.Config
