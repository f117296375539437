import HiddifyCore.Config.BuildSpec
import HiddifyCore.Config.Reference

/-!
# The main proxy across calls

`setRoutingOptions` writes `OutboundMainProxyTag` into the route before `setOutbounds` of the same
call decides what it should be. So the default route of a call is the WARP decision of the call
before it, and the selector in a new process.
-/

namespace HiddifyCore.Config

open GoLib Singbox

/-- One call of `BuildConfig`, with the answers that it gets from outside. -/
structure Call where
  env : BuildEnv
  opt : ConfigOptions
  input : Options

variable (D : Deps)

/-- The package variables after a sequence of calls. -/
def runCalls (calls : List Call) (g : Globals) : Globals :=
  calls.foldl (fun g c => (buildConfig D c.env c.opt c.input g).2) g

/-- The call generates a WARP outbound in mode warp_over_proxy. -/
def Call.MakesWarpMain (c : Call) : Prop :=
  (scannedOptions c.env c.opt c.input).warp.enableWarp = true ∧
    (scannedOptions c.env c.opt c.input).warp.mode = "warp_over_proxy" ∧
    (warpOutbound D (scannedOptions c.env c.opt c.input)).IsOk

/-- The generation of the WARP outbound or the patch of some input outbound returns no result. -/
def Call.Fails (c : Call) : Prop :=
  (generatesWarp (scannedOptions c.env c.opt c.input) = true ∧
      ¬ (warpOutbound D (scannedOptions c.env c.opt c.input)).IsOk) ∨
    ∃ k out, c.input.outbounds[k]? = some out ∧
      ¬ (patchOutbound D (c.env.outbound k) out (scannedOptions c.env c.opt c.input)).IsOk

variable {D}

lemma Call.tagAfter_of_makesWarpMain {c : Call} (h : c.MakesWarpMain D) :
    tagAfter D (scannedOptions c.env c.opt c.input) = warpTag := by
  obtain ⟨hon, hmode, hok⟩ := h
  have hgen : generatesWarp (scannedOptions c.env c.opt c.input) = true := by
    simp [generatesWarp, hon, hmode]
  exact if_pos ⟨hgen, hmode, hok⟩

lemma Call.tagAfter_of_not {c : Call} (h : ¬ c.MakesWarpMain D) :
    tagAfter D (scannedOptions c.env c.opt c.input) = outboundSelectTag := by
  apply if_neg
  rintro ⟨hgen, hmode, hok⟩
  refine h ⟨?_, hmode, hok⟩
  simp only [generatesWarp, Bool.and_eq_true] at hgen
  exact hgen.1

/-- The last call alone decides the tag. -/
lemma runCalls_concat (calls : List Call) (c : Call) (g : Globals) :
    (runCalls D (calls ++ [c]) g).outboundMainProxyTag =
      tagAfter D (scannedOptions c.env c.opt c.input) := by
  simp only [runCalls]
  rw [List.foldl_append, List.foldl_cons, List.foldl_nil]
  exact buildConfig_mainProxyTag D c.env c.opt c.input _

/-- In a run from a new process the tag is one of two. -/
theorem runCalls_mainProxyTag (calls : List Call) :
    (runCalls D calls {}).outboundMainProxyTag = outboundSelectTag ∨
      (runCalls D calls {}).outboundMainProxyTag = warpTag := by
  induction calls using List.reverseRecOn with
  | nil => exact Or.inl rfl
  | append_singleton calls c _ =>
    rw [runCalls_concat]
    simp only [tagAfter]
    split_ifs
    · exact Or.inr rfl
    · exact Or.inl rfl

/-! ### When a call returns a document -/

/-- The patch of the generated WARP outbound writes no entry and returns no error: it is a
WireGuard outbound with a detour. -/
lemma patchWarpOutbound_isOk (draws : Draws) {opt : ConfigOptions} {raw : Outbound}
    (h : warpOutbound D opt = .ok raw) : (patchWarpOutbound D draws opt raw).IsOk := by
  obtain ⟨htype, -, hdetour⟩ := warpOutbound_ok h
  have hne : raw.wireGuardOptions.detour ≠ "" := by
    rw [hdetour]
    split_ifs <;> decide
  have hwarp : warpObject raw = none := by simp [warpObject, htype]
  have hwrites : (finishWarp D draws raw true).2 = [] := by
    simp only [finishWarp, htype, and_self, if_true, finishWireGuard, placeholderServer]
    split_ifs <;> simp_all
  simp only [patchWarpOutbound, patchWarp]
  simp only [hwarp]
  rcases hfin : finishWarp D draws raw true with ⟨out, writes⟩
  rw [hfin] at hwrites
  obtain rfl : writes = [] := hwrites
  trivial

lemma addWarp_isOk (draws : Draws) {opt : ConfigOptions} (g : Globals)
    (h : ¬ (generatesWarp opt = true ∧ ¬ (warpOutbound D opt).IsOk)) :
    ∃ warp, (addWarp D draws opt g).1 = .ret (.ok warp) := by
  rw [addWarp_eq_warpPart, warpPart]
  by_cases hgen : generatesWarp opt = true
  · have hok : (warpOutbound D opt).IsOk := by
      by_contra hno
      exact h ⟨hgen, hno⟩
    obtain ⟨raw, hraw⟩ := hok.exists_eq
    obtain ⟨out, hout⟩ := (patchWarpOutbound_isOk draws hraw).exists_eq
    refine ⟨[out], ?_⟩
    rw [if_pos hgen, hraw, Outcome.bind_ok, hout]
    rfl
  · exact ⟨[], by rw [if_neg hgen]⟩

lemma WarpPart.isOk {draws : Draws} {opt : ConfigOptions} {warp : List Outbound}
    (h : WarpPart D draws opt warp) (hgen : generatesWarp opt = true) :
    (warpOutbound D opt).IsOk := by
  cases h with
  | off hoff => simp [hoff] at hgen
  | on _ hraw _ =>
    rw [hraw]
    trivial

/-- Two documents with the same static addresses fail alike, or the first one is completed. -/
lemma setOutbounds_congr (env : BuildEnv) (input : List Outbound) (opt : ConfigOptions)
    {options options' : Options} (g : Globals)
    (hstatic : staticIPsOf options = staticIPsOf options') :
    (setOutbounds D env input opt options g).1 = (setOutbounds D env input opt options' g).1 ∨
      ∃ out, (setOutbounds D env input opt options g).1 = .ret (.ok out) := by
  simp only [setOutbounds]
  simp only [Go.bind_run, Go.modify, ← hstatic]
  rcases addWarp D env.warp (scanWarp input opt) (g.setMainProxyTag outboundSelectTag)
    with ⟨(e | warp) | e, u⟩
  · exact Or.inl rfl
  · cases collect D (scanWarp input opt) env.outbound input 0
        { staticIPs := staticIPsOf options } with
    | ok acc => exact Or.inr ⟨_, rfl⟩
    | fail e => exact Or.inl rfl
    | panic e => exact Or.inl rfl
  · exact Or.inl rfl

lemma prepared_staticIPs (env : BuildEnv) (opt : ConfigOptions) (input : Options)
    (tag tag' : String) :
    staticIPsOf (prepared D env opt input tag) = staticIPsOf (prepared D env opt input tag') := by
  unfold prepared setFakeDns setRoutingOptions
  dsimp only
  split_ifs <;> rfl

/-- A call returns a document exactly when it does not fail, whatever the package variables are. -/
lemma buildConfig_isOk (c : Call) (g : Globals) :
    (∃ out, (buildConfig D c.env c.opt c.input g).1 = .ret (.ok out)) ↔ ¬ c.Fails D := by
  constructor
  · rintro ⟨out, hout⟩ hfails
    obtain ⟨b⟩ := buildConfig_fst_ok hout
    rcases hfails with ⟨hgen, hwarp⟩ | ⟨k, o, ho, hpatch⟩
    · exact hwarp (b.warpPart.isOk hgen)
    · have hok : (collect D (scannedOptions c.env c.opt c.input) c.env.outbound
          c.input.outbounds 0 {}).IsOk := by
        rw [collect_eq_ok.mpr ⟨b.patched, b.patches, rfl⟩]
        trivial
      apply hpatch
      simpa using collect_isOk.mp hok k o ho
  · intro hfails
    obtain ⟨hwarp, hpatch⟩ := not_or.mp hfails
    obtain ⟨warp, hok⟩ := addWarp_isOk c.env.warp
      ((commandTunnel (withSecret c.env c.opt) g).setMainProxyTag outboundSelectTag) hwarp
    have hcollect : (collect D (scannedOptions c.env c.opt c.input) c.env.outbound
        c.input.outbounds 0
        { staticIPs :=
            staticIPsOf (prepared D c.env c.opt c.input g.outboundMainProxyTag) }).IsOk := by
      apply collect_isOk.mpr
      intro k o ho
      by_contra hno
      exact hpatch ⟨k, o, ho, by simpa using hno⟩
    obtain ⟨acc, hacc⟩ := hcollect.exists_eq
    rw [buildConfig_run]
    simp only [setOutbounds]
    simp only [Go.bind_run, Go.modify]
    rcases hrun : addWarp D c.env.warp (scannedOptions c.env c.opt c.input)
        ((commandTunnel (withSecret c.env c.opt) g).setMainProxyTag outboundSelectTag) with ⟨r, u⟩
    rw [hrun] at hok
    obtain rfl : r = .ret (.ok warp) := hok
    simp only [scannedOptions] at hrun hacc
    simp [hrun, hacc, Go.bind_run, Go.pure_run]

/-- A failing call fails alike from any two values of the tag. -/
lemma buildConfig_fails_congr {c : Call} (h : c.Fails D) (g g' : Globals) :
    (buildConfig D c.env c.opt c.input g).1 = (buildConfig D c.env c.opt c.input g').1 := by
  have hnot : ∀ out, (buildConfig D c.env c.opt c.input g).1 ≠ .ret (.ok out) := by
    intro out hout
    exact (buildConfig_isOk c g).mp ⟨out, hout⟩ h
  rw [buildConfig_run] at hnot ⊢
  rw [buildConfig_run]
  rw [setOutbounds_fst D c.env _ _ (prepared D c.env c.opt c.input g'.outboundMainProxyTag) _
    (commandTunnel (withSecret c.env c.opt) g)]
  rcases setOutbounds_congr (D := D) c.env c.input.outbounds (withSecret c.env c.opt)
      (commandTunnel (withSecret c.env c.opt) g)
      (prepared_staticIPs c.env c.opt c.input g.outboundMainProxyTag g'.outboundMainProxyTag)
    with hsame | ⟨out, hout⟩
  · exact hsame
  · exact absurd hout (hnot out)

/-- Options with a usable WARP identity. -/
def warpOverProxy : ConfigOptions :=
  { defaultConfigOptions with
    warp := {
      enableWarp := true
      mode := "warp_over_proxy"
      wireguardConfig := {
        localAddressIPv4 := "172.16.0.2"
        localAddressIPv6 := "2606:4700:110:8a36::1" } } }

/-- The default route of a document. -/
def finalOf (out : Options) : Option String := out.route.map (·.final)

/-! ### The default route -/

/-- The default route that the WARP decision asks for. -/
def mainProxyTagOf (opt : ConfigOptions) : String :=
  if opt.warp.enableWarp = true ∧ opt.warp.mode = "warp_over_proxy" then warpTag
  else outboundSelectTag

/-- The default route of the document is the generated WARP outbound in mode warp_over_proxy and
the selector otherwise, and it names an outbound of the document. -/
def RouteFollowsWarp (opt : ConfigOptions) (out : Options) : Prop :=
  ∃ route, out.route = some route ∧ route.final = mainProxyTagOf opt ∧
    ∃ o ∈ out.outbounds, o.tag = route.final

/-- With WARP on, the document has the generated outbound. -/
lemma Built.warp_mem {env : BuildEnv} {opt : ConfigOptions} {input out : Options} {tag : String}
    (b : Built D env opt input tag out)
    (hgen : generatesWarp (scannedOptions env opt input) = true) :
    ∃ o ∈ out.outbounds, o.tag = warpTag := by
  have hpart := b.warpPart
  rw [b.outbounds_eq]
  generalize b.warp = warp at hpart
  cases hpart with
  | off hoff => simp [hoff] at hgen
  | on _ hraw hout => exact ⟨_, by simp, (patchWarpOutbound_ok hraw hout).2.1⟩

lemma Built.select_mem {env : BuildEnv} {opt : ConfigOptions} {input out : Options} {tag : String}
    (b : Built D env opt input tag out) : ∃ o ∈ out.outbounds, o.tag = outboundSelectTag := by
  rw [b.outbounds_eq]
  exact ⟨selectorOutbound (visibleTags b.kept), by simp, rfl⟩

/-- The default route of a document follows the WARP decision of the call exactly when the tag
that was there before the call agrees with it. -/
theorem routeFollowsWarp_iff {env : BuildEnv} {opt : ConfigOptions} {input out : Options}
    {g g' : Globals} (h : buildConfig D env opt input g = (.ret (.ok out), g')) :
    RouteFollowsWarp (scannedOptions env opt input) out ↔
      g.outboundMainProxyTag = mainProxyTagOf (scannedOptions env opt input) := by
  obtain ⟨b⟩ := buildConfig_ok h
  constructor
  · rintro ⟨route, hroute, hfinal, -⟩
    rw [b.route_eq] at hroute
    cases hroute
    exact hfinal
  · intro htag
    refine ⟨_, b.route_eq, htag, ?_⟩
    rw [htag]
    simp only [mainProxyTagOf]
    split_ifs with hmain
    · apply b.warp_mem
      simp [generatesWarp, hmain.1, hmain.2]
    · exact b.select_mem

/-- The second of two calls with WARP finds the tag of the first one. -/
theorem routeFollowsWarp_second_call :
    RouteFollowsWarp (scannedOptions {} warpOverProxy {})
      (documentOf (buildConfig Reference.deps {} warpOverProxy {}
        (runCalls Reference.deps [⟨{}, warpOverProxy, {}⟩] {})).1) := by
  have hbuilt : isDocument (buildConfig Reference.deps {} warpOverProxy {}
      (runCalls Reference.deps [⟨{}, warpOverProxy, {}⟩] {})).1 = true := by decide
  exact (routeFollowsWarp_iff (Prod.ext (eq_documentOf hbuilt) rfl)).mpr (by decide)

/-- A new process that builds with WARP routes around it. -/
theorem not_routeFollowsWarp :
    ¬ ∀ D : Deps, D.Documented → ∀ (env : BuildEnv) (opt : ConfigOptions) (input out : Options)
      (g g' : Globals), buildConfig D env opt input g = (.ret (.ok out), g') →
        RouteFollowsWarp (scannedOptions env opt input) out := by
  intro h
  have hbuilt : buildConfig Reference.deps {} warpOverProxy {} {} =
      (.ret (.ok (documentOf (buildConfig Reference.deps {} warpOverProxy {} {}).1)),
        (buildConfig Reference.deps {} warpOverProxy {} {}).2) := rfl
  obtain ⟨route, hroute, hfinal, -⟩ :=
    h Reference.deps Reference.deps_documented _ _ _ _ _ _ hbuilt
  have hselect : finalOf (documentOf (buildConfig Reference.deps {} warpOverProxy {} {}).1) =
      some (mainProxyTagOf (scannedOptions {} warpOverProxy {})) := by
    rw [finalOf, hroute, Option.map_some, hfinal]
  exact absurd hselect (by decide)

end HiddifyCore.Config
