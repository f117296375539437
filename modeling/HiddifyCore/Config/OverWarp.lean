import HiddifyCore.Config.Codec
import HiddifyCore.Config.Dialing

/-!
# Proxies over WARP

In mode proxy_over_warp the kept outbounds without a detour get one to the generated WARP outbound,
so that along the detours every kept outbound ends there. The pass writes the detour into a list of
option records, and an outbound whose record is not in the list dials past WARP.
-/

namespace HiddifyCore.Config

open GoLib Singbox Relation

variable {D : Deps}

/-- The detour of an outbound leads to an outbound of the document. -/
def DetourStep (outs : List Outbound) (o o' : Outbound) : Prop :=
  o' ∈ outs ∧ o.detour ≠ "" ∧ o'.tag = o.detour

/-- The detours of the kept outbounds name kept outbounds only. -/
def UserDetoursClosed (input : Options) : Prop :=
  ∀ i ∈ input.outbounds, keeps i = true → resolvedDetour i ≠ "" →
    ∃ j ∈ input.outbounds, keeps j = true ∧ j.tag = resolvedDetour i

/-- Every outbound without a detour is one that the pass can detour. -/
def AllTakeWarp (input : Options) : Prop :=
  ∀ i ∈ input.outbounds, keeps i = true → resolvedDetour i = "" →
    takesWarpDetour (resolvedType i) = true

instance (input : Options) : Decidable (UserDetoursClosed input) :=
  inferInstanceAs (Decidable (∀ i ∈ input.outbounds, _))

instance (input : Options) : Decidable (AllTakeWarp input) :=
  inferInstanceAs (Decidable (∀ i ∈ input.outbounds, _))

/-- From every outbound of the document that is no group and no built-in the detours lead to the
generated WARP outbound. -/
def EndsAtWarp (D : Deps) (env : BuildEnv) (opt : ConfigOptions) (out : Options) : Prop :=
  ∀ o ∈ out.outbounds, isDropped o.type = false →
    ∃ warp ∈ out.outbounds, WarpPart D env.warp opt [warp] ∧
      ReflTransGen (DetourStep out.outbounds) o warp

lemma WarpPart.exists_warp {draws : Draws} {opt : ConfigOptions} {outs : List Outbound}
    (h : WarpPart D draws opt outs) (hgen : generatesWarp opt = true) :
    ∃ warp, outs = [warp] ∧ warp.tag = warpTag ∧ warp.type = .wireguard := by
  cases h with
  | off hoff => simp [hoff] at hgen
  | on _ hraw hout =>
    obtain ⟨htype, htag, -⟩ := patchWarpOutbound_ok hraw hout
    exact ⟨_, rfl, htag, htype⟩

namespace Built

variable {env : BuildEnv} {opt : ConfigOptions} {input out : Options} {tag : String}

/-- An outbound that is no group and no built-in is the WARP outbound or a kept one. -/
lemma warp_or_kept (b : Built D env opt input tag out) {o : Outbound} (ho : o ∈ out.outbounds)
    (hdrop : isDropped o.type = false) :
    o ∈ b.warp ∨
      ∃ k ∈ b.kept, patchHiddifyWarpFromConfig (scannedOptions env opt input) k = o := by
  rw [b.outbounds_eq, List.mem_append, List.mem_append, List.mem_append] at ho
  rcases ho with ((ho | ho) | ho) | ho
  · simp only [List.mem_cons, List.not_mem_nil, or_false] at ho
    rcases ho with rfl | rfl <;> cases hdrop
  · exact Or.inl ho
  · exact Or.inr (List.mem_map.mp ho)
  · simp only [builtinOutbounds, List.mem_cons, List.not_mem_nil, or_false] at ho
    rcases ho with rfl | rfl | rfl | rfl | rfl <;> cases hdrop

lemma warp_subset (b : Built D env opt input tag out) {o : Outbound} (ho : o ∈ b.warp) :
    o ∈ out.outbounds := by
  rw [b.outbounds_eq]
  simp [ho]

lemma kept_subset (b : Built D env opt input tag out) {k : Outbound} (hk : k ∈ b.kept) :
    patchHiddifyWarpFromConfig (scannedOptions env opt input) k ∈ out.outbounds := by
  rw [b.outbounds_eq]
  simp only [List.mem_append]
  exact Or.inl (Or.inr (List.mem_map_of_mem hk))

variable (hD : D.Documented) (b : Built D env opt input tag out) {warp : Outbound}
  (hwarp : b.warp = [warp]) (htag : warp.tag = warpTag)
include hD b hwarp htag

/-- A kept outbound ends at WARP once those with the tag of its detour do. -/
lemma endsAtWarp_step (hclosed : UserDetoursClosed input)
    (hvia : ∀ i ∈ input.outbounds, keeps i = true → resolvedDetour i = "" →
      detourVia (scannedOptions env opt input) i = warpTag)
    {k i : Outbound} (hi : i ∈ input.outbounds) (hkeep : keeps i = true)
    (hmade : MadeFrom k i)
    (ih : ∀ k' ∈ b.kept, UserDetours input i.tag k'.tag → ReflTransGen (DetourStep out.outbounds)
      (patchHiddifyWarpFromConfig (scannedOptions env opt input) k') warp) :
    ReflTransGen (DetourStep out.outbounds)
      (patchHiddifyWarpFromConfig (scannedOptions env opt input) k) warp := by
  have hdetour := hmade.detourVia_eq (scannedOptions env opt input)
  by_cases hempty : resolvedDetour i = ""
  · rw [hvia i hi hkeep hempty] at hdetour
    refine .single ⟨b.warp_subset (hwarp ▸ List.mem_singleton_self warp), ?_, ?_⟩
    · rw [hdetour]
      decide
    · rw [hdetour, htag]
  · obtain ⟨j, hj, hjkeep, hjtag⟩ := hclosed i hi hkeep hempty
    obtain ⟨k', hk', hmade'⟩ := b.exists_kept hD hj hjkeep
    rw [detourVia_of_ne hempty] at hdetour
    have hnext : UserDetours input i.tag k'.tag :=
      ⟨i, hi, hkeep, rfl, hempty, by rw [hmade'.tag, hjtag]⟩
    refine .head ⟨b.kept_subset hk', ?_, ?_⟩ (ih k' hk' hnext)
    · rwa [hdetour]
    · rw [patchHiddifyWarp_tag, hmade'.tag, hjtag, hdetour]

/-- The induction goes along the user's detours, from the outbounds they end at. -/
lemma kept_endsAtWarp (hclosed : UserDetoursClosed input) (hacyclic : Acyclic (UserDetours input))
    (hvia : ∀ i ∈ input.outbounds, keeps i = true → resolvedDetour i = "" →
      detourVia (scannedOptions env opt input) i = warpTag) (t : String) :
    ∀ k ∈ b.kept, k.tag = t → ReflTransGen (DetourStep out.outbounds)
      (patchHiddifyWarpFromConfig (scannedOptions env opt input) k) warp := by
  have hfinite : {t | t ∈ input.outbounds.map resolvedDetour}.Finite :=
    (input.outbounds.map resolvedDetour).finite_toSet
  refine hacyclic.induction (P := fun t => ∀ k ∈ b.kept, k.tag = t → ReflTransGen _
    (patchHiddifyWarpFromConfig (scannedOptions env opt input) k) warp) hfinite ?_ ?_ t
  · rintro x y ⟨i, hi, -, -, -, rfl⟩
    exact List.mem_map_of_mem hi
  · rintro x ih k hk rfl
    obtain ⟨i, hi, hkeep, hmade⟩ := b.exists_input hD hk
    refine b.endsAtWarp_step hD hwarp htag hclosed hvia hi hkeep hmade ?_
    intro k' hk' hnext
    rw [← hmade.tag] at hnext
    exact ih k'.tag hnext k' hk' rfl

omit b hwarp htag in
/-- An outbound without a detour ends at itself, which is no WireGuard outbound if its type is one
that gets none. -/
lemma allTakeWarp (b : Built D env opt input tag out)
    (hgen : generatesWarp (scannedOptions env opt input) = true)
    (hends : EndsAtWarp D env (scannedOptions env opt input) out) : AllTakeWarp input := by
  intro i hi hkeep hempty
  by_contra hnot
  obtain ⟨k, hk, hmade⟩ := b.exists_kept hD hi hkeep
  have hvia : detourVia (scannedOptions env opt input) i = "" := by
    rw [detourVia, if_neg fun hvia => hnot hvia.2.2.2, hempty]
  obtain ⟨w, -, hpart, hpath⟩ := hends _ (b.kept_subset hk)
    (by rw [patchHiddifyWarp_type]; exact (mem_keptOf.mp hk).2)
  rcases hpath.cases_head with heq | ⟨next, hstep, -⟩
  · obtain ⟨w', hw', -, hwtype⟩ := hpart.exists_warp hgen
    obtain rfl : w = w' := by simpa using hw'
    rw [← heq, patchHiddifyWarp_type, hmade.type] at hwtype
    rw [hwtype] at hnot
    exact hnot rfl
  · exact hstep.2.1 ((hmade.detourVia_eq _).trans hvia)

end Built

/-- With closed and acyclic detours, all kept outbounds dial through WARP exactly when every one of
them without a detour is of a type that the pass gives one. -/
theorem endsAtWarp_iff (hD : D.Documented) {env : BuildEnv} {opt : ConfigOptions}
    {input out : Options} {g g' : Globals}
    (h : buildConfig D env opt input g = (.ret (.ok out), g'))
    (hgen : generatesWarp (scannedOptions env opt input) = true)
    (hmode : (scannedOptions env opt input).warp.mode = "proxy_over_warp")
    (hclosed : UserDetoursClosed input) (hacyclic : Acyclic (UserDetours input)) :
    EndsAtWarp D env (scannedOptions env opt input) out ↔ AllTakeWarp input := by
  obtain ⟨b⟩ := buildConfig_ok h
  obtain ⟨warp, hwarp, htag, htype⟩ := b.warpPart.exists_warp hgen
  constructor
  · exact b.allTakeWarp hD hgen
  · intro htake o ho hdrop
    have hmem : warp ∈ out.outbounds := b.warp_subset (hwarp ▸ List.mem_singleton_self warp)
    refine ⟨warp, hmem, hwarp ▸ b.warpPart, ?_⟩
    have hon : (scannedOptions env opt input).warp.enableWarp = true := by
      simp only [generatesWarp, Bool.and_eq_true] at hgen
      exact hgen.1
    rcases b.warp_or_kept ho hdrop with ho | ⟨k, hk, rfl⟩
    · rw [hwarp, List.mem_singleton] at ho
      rw [ho]
    · refine b.kept_endsAtWarp hD hwarp htag hclosed hacyclic ?_ k.tag k hk rfl
      intro i hi hkeep hempty
      rw [detourVia, if_pos ⟨hempty, hon, hmode, htake i hi hkeep hempty⟩]

/-- Options with WARP between the proxies and the network. -/
def proxyOverWarp : ConfigOptions :=
  { defaultConfigOptions with
    warp := {
      enableWarp := true
      mode := "proxy_over_warp"
      wireguardConfig := {
        localAddressIPv4 := "172.16.0.2"
        localAddressIPv6 := "2606:4700:110:8a36::1" } } }

theorem endsAtWarp_chain :
    EndsAtWarp Codec.deps {} (scannedOptions {} proxyOverWarp chainInput)
      (documentOf (buildConfig Codec.deps {} proxyOverWarp chainInput {}).1) := by
  have hbuilt : isDocument (buildConfig Codec.deps {} proxyOverWarp chainInput {}).1 = true := by
    decide
  have hedge : ∀ x y, UserDetours chainInput x y → x = "a" ∧ y = "b" := by
    rintro x y ⟨i, hi, -, rfl, hne, rfl⟩
    simp only [chainInput, List.mem_cons, List.not_mem_nil, or_false] at hi
    rcases hi with rfl | rfl
    · decide
    · exact absurd rfl hne
  have hacyclic : Acyclic (UserDetours chainInput) := by
    refine acyclic_of_rank (fun t => if t = "a" then 0 else 1) fun x y hxy => ?_
    obtain ⟨rfl, rfl⟩ := hedge x y hxy
    decide
  exact (endsAtWarp_iff Codec.deps_documented (Prod.ext (eq_documentOf hbuilt) rfl) (by decide)
    (by decide) (by decide) hacyclic).mpr (by decide)

/-- A single xray outbound. -/
def xrayInput : Options where
  outbounds := [{ type := .xray, tag := "x" }]

/-- The xray outbound keeps its empty detour. -/
theorem not_endsAtWarp :
    ¬ ∀ D : Deps, D.Documented → ∀ (env : BuildEnv) (opt : ConfigOptions) (input out : Options)
      (g g' : Globals), buildConfig D env opt input g = (.ret (.ok out), g') →
        generatesWarp (scannedOptions env opt input) = true →
        (scannedOptions env opt input).warp.mode = "proxy_over_warp" →
        UserDetoursClosed input → Acyclic (UserDetours input) →
          EndsAtWarp D env (scannedOptions env opt input) out := by
  intro h
  have hbuilt : isDocument (buildConfig Codec.deps {} proxyOverWarp xrayInput {}).1 = true := by
    decide
  have hacyclic : Acyclic (UserDetours xrayInput) := by
    refine acyclic_of_rank (fun _ => 0) ?_
    rintro x y ⟨i, hi, -, -, hne, -⟩
    obtain rfl := List.mem_singleton.mp hi
    exact absurd rfl hne
  have hends := h _ Codec.deps_documented _ _ _ _ _ _ (Prod.ext (eq_documentOf hbuilt) rfl)
    (by decide) (by decide) (by decide) hacyclic
  obtain ⟨b⟩ := buildConfig_ok (Prod.ext (eq_documentOf hbuilt) rfl)
  exact absurd (b.allTakeWarp Codec.deps_documented (by decide) hends) (by decide)

end HiddifyCore.Config
