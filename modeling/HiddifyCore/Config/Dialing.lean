import HiddifyCore.GoLib.Acyclic
import HiddifyCore.Config.BuildSpec
import HiddifyCore.Config.Reference

/-!
# Who dials through whom

The graph over the tags of a document: groups lead to their members and outbounds to their detour.
`setOutbounds` drops the groups of the input, puts every kept outbound under two groups of its own
called select and auto, and adds the detours of WARP. User detours are kept by name, so a detour
to a name that the pass reserves or drops does not lead where it did in the input.
-/

namespace HiddifyCore.Config

open GoLib Singbox Relation

/-- The edges out of the outbounds of a document. -/
def Dials (outs : List Outbound) (a b : String) : Prop :=
  ∃ o ∈ outs, o.tag = a ∧ (b ∈ o.members ∨ (o.detour ≠ "" ∧ o.detour = b))

/-- Every detour of a document is the tag of one of its outbounds. -/
def DetoursClosed (outs : List Outbound) : Prop :=
  ∀ o ∈ outs, o.detour ≠ "" → ∃ o' ∈ outs, o'.tag = o.detour

/-! ### The graph of the kept outbounds, read off the input -/

/-- `setOutbounds` keeps the outbound. -/
def keeps (out : Outbound) : Bool := !isDropped (resolvedType out)

/-- The types whose record `patchHiddifyWarpFromConfig` gives a detour. -/
def takesWarpDetour (t : OutboundType) : Bool :=
  t = .direct || t = .http || t = .hysteria2 || t = .hysteria || t = .ssh || t = .shadowtls ||
    t = .shadowsocks || t = .shadowsocksr || t = .socks || t = .tuic || t = .tor || t = .trojan ||
    t = .vless || t = .vmess || t = .wireguard

/-- The detour of a kept outbound in the output. -/
def detourVia (opt : ConfigOptions) (out : Outbound) : String :=
  if resolvedDetour out = "" ∧ opt.warp.enableWarp = true ∧ opt.warp.mode = "proxy_over_warp" ∧
      takesWarpDetour (resolvedType out) then warpTag
  else resolvedDetour out

/-- The detour of the generated WARP outbound. -/
def warpDetour (opt : ConfigOptions) : String :=
  if opt.warp.mode = "warp_over_proxy" then outboundSelectTag else outboundDirectTag

/-- The detours of the kept outbounds as the user gave them. -/
def UserDetours (input : Options) (a b : String) : Prop :=
  ∃ out ∈ input.outbounds, keeps out = true ∧ out.tag = a ∧ resolvedDetour out ≠ "" ∧
    resolvedDetour out = b

/-- The detours of the kept outbounds and of WARP in the output. -/
def DetourGraph (opt : ConfigOptions) (input : Options) (a b : String) : Prop :=
  (∃ out ∈ input.outbounds, keeps out = true ∧ out.tag = a ∧ detourVia opt out ≠ "" ∧
    detourVia opt out = b) ∨
  (generatesWarp opt = true ∧ a = warpTag ∧ b = warpDetour opt)

/-- The tags of the kept outbounds that are not hidden. -/
def visible (input : Options) : Set String :=
  { t | ∃ out ∈ input.outbounds, keeps out = true ∧ isHidden out.tag = false ∧ out.tag = t }

/-! ### Detouring through WARP -/

lemma patchHiddifyWarp_tag (opt : ConfigOptions) (o : Outbound) :
    (patchHiddifyWarpFromConfig opt o).tag = o.tag := by
  simp only [patchHiddifyWarpFromConfig]
  split_ifs <;> rfl

lemma patchHiddifyWarp_type (opt : ConfigOptions) (o : Outbound) :
    (patchHiddifyWarpFromConfig opt o).type = o.type := by
  simp only [patchHiddifyWarpFromConfig]
  split_ifs <;> rfl

lemma detourThroughWarp_detour (o : Outbound) :
    (detourThroughWarp o).detour =
      if o.detour = "" ∧ takesWarpDetour o.type = true then warpTag else o.detour := by
  cases h : o.type <;>
    simp [detourThroughWarp, Outbound.detour, takesWarpDetour, h]

lemma patchHiddifyWarp_detour (opt : ConfigOptions) (o : Outbound) :
    (patchHiddifyWarpFromConfig opt o).detour =
      if o.detour = "" ∧ opt.warp.enableWarp = true ∧ opt.warp.mode = "proxy_over_warp" ∧
        takesWarpDetour o.type = true then warpTag else o.detour := by
  simp only [patchHiddifyWarpFromConfig]
  by_cases hwarp : opt.warp.enableWarp = true ∧ opt.warp.mode = "proxy_over_warp"
  · rw [if_pos hwarp, detourThroughWarp_detour]
    simp only [hwarp.1, hwarp.2, true_and]
  · rw [if_neg hwarp, if_neg fun h => hwarp ⟨h.2.1, h.2.2.1⟩]

/-! ### The output in terms of the input -/

variable {D : Deps}

/-- The patched outbound is the input outbound up to the resolution of WARP options. -/
structure MadeFrom (o out : Outbound) : Prop where
  type : o.type = resolvedType out
  tag : o.tag = out.tag
  detour : o.detour = resolvedDetour out

section Patches

variable {opt : ConfigOptions} {draws : Nat → Draws} {i : Nat} {outs : List Outbound}
  {ps : List Patched}

lemma Patches.exists_input (hD : D.Documented) (h : Patches D opt draws i outs ps) :
    ∀ p ∈ ps, ∃ out ∈ outs, MadeFrom p.outbound out := by
  induction h with
  | nil => simp
  | cons hp _ ih =>
    intro p hmem
    rcases List.mem_cons.mp hmem with rfl | hmem
    · obtain ⟨htype, htag, hdetour⟩ := patchOutbound_ok hD hp
      exact ⟨_, List.mem_cons_self, htype, htag, hdetour⟩
    · obtain ⟨out, hout, hmade⟩ := ih p hmem
      exact ⟨out, List.mem_cons_of_mem _ hout, hmade⟩

lemma Patches.exists_patched (hD : D.Documented) (h : Patches D opt draws i outs ps) :
    ∀ out ∈ outs, ∃ p ∈ ps, MadeFrom p.outbound out := by
  induction h with
  | nil => simp
  | cons hp _ ih =>
    intro out hmem
    rcases List.mem_cons.mp hmem with rfl | hmem
    · obtain ⟨htype, htag, hdetour⟩ := patchOutbound_ok hD hp
      exact ⟨_, List.mem_cons_self, htype, htag, hdetour⟩
    · obtain ⟨p, hp, hmade⟩ := ih out hmem
      exact ⟨p, List.mem_cons_of_mem _ hp, hmade⟩

end Patches

lemma mem_keptOf {ps : List Patched} {o : Outbound} :
    o ∈ keptOf ps ↔ (∃ p ∈ ps, p.outbound = o) ∧ isDropped o.type = false := by
  simp [keptOf]

namespace Built

variable {env : BuildEnv} {opt : ConfigOptions} {input out : Options} {tag : String}

lemma exists_input (hD : D.Documented) (b : Built D env opt input tag out) {o : Outbound}
    (ho : o ∈ b.kept) : ∃ i ∈ input.outbounds, keeps i = true ∧ MadeFrom o i := by
  obtain ⟨⟨p, hp, rfl⟩, hdrop⟩ := mem_keptOf.mp ho
  obtain ⟨i, hi, hmade⟩ := b.patches.exists_input hD p hp
  refine ⟨i, hi, ?_, hmade⟩
  simp [keeps, ← hmade.type, hdrop]

lemma exists_kept (hD : D.Documented) (b : Built D env opt input tag out) {i : Outbound}
    (hi : i ∈ input.outbounds) (hkeep : keeps i = true) : ∃ o ∈ b.kept, MadeFrom o i := by
  obtain ⟨p, hp, hmade⟩ := b.patches.exists_patched hD i hi
  refine ⟨p.outbound, mem_keptOf.mpr ⟨⟨p, hp, rfl⟩, ?_⟩, hmade⟩
  simpa [keeps, hmade.type] using hkeep

lemma visible_iff (hD : D.Documented) (b : Built D env opt input tag out) (t : String) :
    t ∈ visibleTags b.kept ↔ t ∈ visible input := by
  simp only [visibleTags, List.mem_filter, List.mem_map]
  constructor
  · rintro ⟨⟨o, ho, rfl⟩, hhide⟩
    obtain ⟨i, hi, hkeep, hmade⟩ := b.exists_input hD ho
    rw [hmade.tag] at hhide ⊢
    exact ⟨i, hi, hkeep, by simpa using hhide, rfl⟩
  · rintro ⟨i, hi, hkeep, hhide, rfl⟩
    obtain ⟨o, ho, hmade⟩ := b.exists_kept hD hi hkeep
    exact ⟨⟨o, ho, hmade.tag⟩, by simpa using hhide⟩

end Built

/-! ### The graph of the output -/

lemma dials_append (xs ys : List Outbound) (a b : String) :
    Dials (xs ++ ys) a b ↔ Dials xs a b ∨ Dials ys a b := by
  simp only [Dials, List.mem_append, or_and_right, exists_or]

lemma dials_groups (opt : ConfigOptions) (tags : List String) (a b : String) :
    Dials [selectorOutbound tags, urlTestOutbound opt tags] a b ↔
      (a = outboundSelectTag ∧ (b = outboundURLTestTag ∨ b ∈ tags)) ∨
      (a = outboundURLTestTag ∧ b ∈ tags) := by
  rw [eq_comm (a := a), eq_comm (a := a)]
  simp [Dials, selectorOutbound, urlTestOutbound, Outbound.members, Outbound.detour]

lemma dials_builtin (opt : ConfigOptions) (a b : String) : ¬ Dials (builtinOutbounds opt) a b := by
  simp [Dials, builtinOutbounds, Outbound.members, Outbound.detour]

lemma dials_warp {draws : Draws} {opt : ConfigOptions} {warp : List Outbound}
    (h : WarpPart D draws opt warp) (a b : String) :
    Dials warp a b ↔ generatesWarp opt = true ∧ a = warpTag ∧ b = warpDetour opt := by
  cases h with
  | off hoff => simp [Dials, hoff]
  | @on raw out hon hraw hout =>
    obtain ⟨htype, htag, hdetour⟩ := patchWarpOutbound_ok hraw hout
    have hvia : out.detour = warpDetour opt := hdetour.trans (warpOutbound_ok hraw).2.2
    have hne : warpDetour opt ≠ "" := by
      simp only [warpDetour]
      split_ifs <;> decide
    rw [eq_comm (a := a), eq_comm (a := b)]
    simp [Dials, Outbound.members, htype, htag, hvia, hne, hon]

lemma members_of_kept {o : Outbound} (h : isDropped o.type = false) : o.members = [] := by
  simp only [Outbound.members]
  cases htype : o.type <;> simp_all [isDropped]

lemma MadeFrom.detourVia_eq (opt : ConfigOptions) {o i : Outbound} (h : MadeFrom o i) :
    (patchHiddifyWarpFromConfig opt o).detour = detourVia opt i := by
  rw [patchHiddifyWarp_detour, h.detour, h.type]
  rfl

namespace Built

variable {env : BuildEnv} {opt : ConfigOptions} {input out : Options} {tag : String}

lemma dials_kept (hD : D.Documented) (b : Built D env opt input tag out) (x y : String) :
    Dials (b.kept.map (patchHiddifyWarpFromConfig (scannedOptions env opt input))) x y ↔
      ∃ i ∈ input.outbounds, keeps i = true ∧ i.tag = x ∧
        detourVia (scannedOptions env opt input) i ≠ "" ∧
        detourVia (scannedOptions env opt input) i = y := by
  constructor
  · rintro ⟨o', ho', htag, hedge⟩
    obtain ⟨o, ho, rfl⟩ := List.mem_map.mp ho'
    obtain ⟨i, hi, hkeep, hmade⟩ := b.exists_input hD ho
    have hmembers : (patchHiddifyWarpFromConfig (scannedOptions env opt input) o).members = [] := by
      apply members_of_kept
      rw [patchHiddifyWarp_type]
      exact (mem_keptOf.mp ho).2
    rw [hmembers, hmade.detourVia_eq] at hedge
    rw [patchHiddifyWarp_tag, hmade.tag] at htag
    rcases hedge with hedge | ⟨hne, hy⟩
    · simp at hedge
    · exact ⟨i, hi, hkeep, htag, hne, hy⟩
  · rintro ⟨i, hi, hkeep, rfl, hne, rfl⟩
    obtain ⟨o, ho, hmade⟩ := b.exists_kept hD hi hkeep
    refine ⟨_, List.mem_map_of_mem ho, ?_, Or.inr ⟨?_, ?_⟩⟩
    · rw [patchHiddifyWarp_tag, hmade.tag]
    · rwa [hmade.detourVia_eq]
    · exact hmade.detourVia_eq _

/-- The two groups are hubs over the detours of the kept outbounds and of WARP. -/
lemma dials_iff (hD : D.Documented) (b : Built D env opt input tag out) (x y : String) :
    Dials out.outbounds x y ↔
      AddHub (AddHub (DetourGraph (scannedOptions env opt input) input) outboundURLTestTag
        (visible input)) outboundSelectTag (insert outboundURLTestTag (visible input)) x y := by
  rw [b.outbounds_eq, dials_append, dials_append, dials_append, dials_groups,
    dials_warp b.warpPart, b.dials_kept hD, b.visible_iff hD]
  simp only [dials_builtin, or_false, AddHub, DetourGraph, Set.mem_insert_iff]
  constructor
  · rintro (((h | h) | h) | h)
    · exact Or.inr h
    · exact Or.inl (Or.inr h)
    · exact Or.inl (Or.inl (Or.inr h))
    · exact Or.inl (Or.inl (Or.inl h))
  · rintro (((h | h) | h) | h)
    · exact Or.inr h
    · exact Or.inl (Or.inr h)
    · exact Or.inl (Or.inl (Or.inr h))
    · exact Or.inl (Or.inl (Or.inl h))

/-- Only kept outbounds and WARP have detours, so no edge of the detour graph leaves a reserved
group name, unless a kept outbound has that name. -/
lemma not_reaches_of_visible {o : ConfigOptions} {g : String} (hwarp : g ≠ warpTag)
    (hhide : isHidden g = false) {t : String} (hne : g ≠ t)
    (hvisible : ∀ u ∈ visible input, ¬ ReflTransGen (DetourGraph o input) u g) :
    ¬ ReflTransGen (DetourGraph o input) g t := by
  intro hpath
  rcases hpath.cases_head with heq | ⟨u, hedge, -⟩
  · exact hne heq
  · rcases hedge with ⟨i, hi, hkeep, htag, -⟩ | ⟨-, htag, -⟩
    · refine hvisible g ⟨i, hi, hkeep, ?_, htag⟩ .refl
      rwa [htag]
    · exact hwarp htag

end Built

lemma detourVia_of_ne {o : ConfigOptions} {i : Outbound} (h : resolvedDetour i ≠ "") :
    detourVia o i = resolvedDetour i :=
  if_neg fun hvia => h hvia.1

lemma UserDetours.detourGraph {o : ConfigOptions} {input : Options} {a b : String}
    (h : UserDetours input a b) : DetourGraph o input a b := by
  obtain ⟨i, hi, hkeep, htag, hne, hb⟩ := h
  refine Or.inl ⟨i, hi, hkeep, htag, ?_⟩
  rw [detourVia_of_ne hne]
  exact ⟨hne, hb⟩

/-- What the pass adds to the user's detours touches WARP. -/
lemma DetourGraph.user_or_warp {o : ConfigOptions} {input : Options} {a b : String}
    (h : DetourGraph o input a b) : UserDetours input a b ∨ a = warpTag ∨ b = warpTag := by
  rcases h with ⟨i, hi, hkeep, htag, hne, hb⟩ | ⟨-, ha, -⟩
  · by_cases hempty : resolvedDetour i = ""
    · simp only [detourVia] at hne hb
      split_ifs at hne hb
      · exact Or.inr (Or.inr hb.symm)
      · exact absurd hempty hne
    · rw [detourVia_of_ne hempty] at hb
      exact Or.inl ⟨i, hi, hkeep, htag, hempty, hb⟩
  · exact Or.inr (Or.inl ha)

/-- Once no listed outbound reaches a group along detours, none does through the url-test group. -/
lemma not_reaches_select {o : ConfigOptions} {input : Options}
    (hauto : ∀ t ∈ visible input,
      ¬ ReflTransGen (DetourGraph o input) t outboundURLTestTag)
    (hselect : ∀ t ∈ visible input,
      ¬ ReflTransGen (DetourGraph o input) t outboundSelectTag) :
    ∀ t ∈ insert outboundURLTestTag (visible input),
      ¬ ReflTransGen (AddHub (DetourGraph o input) outboundURLTestTag (visible input)) t
        outboundSelectTag := by
  intro t ht hpath
  rcases reflTransGen_addHub hauto hpath with hdirect | ⟨-, u, hu, hreach⟩
  · rcases ht with rfl | ht
    · refine Built.not_reaches_of_visible (o := o) (g := outboundURLTestTag) (by decide) (by decide)
        (by decide) hauto hdirect
    · exact hselect t ht hdirect
  · exact hselect u hu hreach

/-- The dialing graph of the output is acyclic exactly when the user's detours among the kept
outbounds are, no detour leads from WARP back to WARP, and no listed outbound leads to a group
along detours. -/
theorem dials_acyclic_iff (hD : D.Documented) {env : BuildEnv} {opt : ConfigOptions}
    {input out : Options} {g g' : Globals}
    (h : buildConfig D env opt input g = (.ret (.ok out), g')) :
    Acyclic (Dials out.outbounds) ↔
      Acyclic (UserDetours input) ∧
      ¬ TransGen (DetourGraph (scannedOptions env opt input) input) warpTag warpTag ∧
      ∀ t ∈ visible input,
        ¬ ReflTransGen (DetourGraph (scannedOptions env opt input) input) t outboundSelectTag ∧
        ¬ ReflTransGen (DetourGraph (scannedOptions env opt input) input) t outboundURLTestTag := by
  obtain ⟨b⟩ := buildConfig_ok h
  rw [acyclic_congr (b.dials_iff hD), acyclic_addHub, acyclic_addHub,
    acyclic_of_touching (fun _ _ => UserDetours.detourGraph) fun _ _ => DetourGraph.user_or_warp]
  constructor
  · rintro ⟨⟨⟨huser, hwarp⟩, hauto⟩, hselect⟩
    refine ⟨huser, hwarp, fun t ht => ⟨fun hpath => ?_, hauto t ht⟩⟩
    exact hselect t (Set.mem_insert_of_mem _ ht) (AddHub.lift hpath)
  · rintro ⟨huser, hwarp, hvisible⟩
    have hauto := fun t ht => (hvisible t ht).2
    have hselect := fun t ht => (hvisible t ht).1
    exact ⟨⟨⟨huser, hwarp⟩, hauto⟩, not_reaches_select hauto hselect⟩

/-- Without custom WARP outbounds the user's detours are edges of the input. -/
theorem userDetours_acyclic {input : Options}
    (hcustom : ∀ i ∈ input.outbounds, warpObject i = none)
    (h : Acyclic (Dials input.outbounds)) : Acyclic (UserDetours input) := by
  apply h.mono
  rintro a b ⟨i, hi, -, htag, hne, hb⟩
  have hdetour : resolvedDetour i = i.detour := by simp [resolvedDetour, hcustom i hi]
  rw [hdetour] at hne hb
  exact ⟨i, hi, htag, Or.inr ⟨hne, hb⟩⟩

/-- Every edge leads to the tag of an outbound of the document. -/
def DialsClosed (outs : List Outbound) : Prop := ∀ a b, Dials outs a b → ∃ o ∈ outs, o.tag = b

/-- Two socks outbounds, the first one behind the second. -/
def chainInput : Options where
  outbounds := [{ type := .socks, tag := "a", socksOptions := { detour := "b" } },
    { type := .socks, tag := "b" }]

theorem dials_acyclic_chain :
    Acyclic (Dials
      (documentOf
        (buildConfig Reference.deps {} defaultConfigOptions chainInput {}).1).outbounds) := by
  have hedge : ∀ x y,
      DetourGraph (scannedOptions {} defaultConfigOptions chainInput) chainInput x y →
        x = "a" ∧ y = "b" := by
    rintro x y (⟨i, hi, -, rfl, hne, rfl⟩ | ⟨hgen, -⟩)
    · simp only [chainInput, List.mem_cons, List.not_mem_nil, or_false] at hi
      rcases hi with rfl | rfl
      · decide
      · exact absurd rfl hne
    · exact absurd hgen (by decide)
  have hpath : ∀ x y,
      TransGen (DetourGraph (scannedOptions {} defaultConfigOptions chainInput) chainInput) x y →
        x = "a" ∧ y = "b" := by
    intro x y h
    induction h with
    | single h => exact hedge _ _ h
    | tail _ h ih => exact ⟨ih.1, (hedge _ _ h).2⟩
  have hacyclic : ∀ {r : String → String → Prop},
      (∀ x y, TransGen r x y → x = "a" ∧ y = "b") → Acyclic r := by
    intro r hr x hx
    obtain ⟨ha, hb⟩ := hr x x hx
    rw [ha] at hb
    exact absurd hb (by decide)
  have hbuilt : isDocument (buildConfig Reference.deps {} defaultConfigOptions chainInput {}).1
      = true := by decide
  refine (dials_acyclic_iff Reference.deps_documented (Prod.ext (eq_documentOf hbuilt) rfl)).mpr
    ⟨?_, fun h => absurd (hpath _ _ h).1 (by decide), fun t ht => ⟨fun h => ?_, fun h => ?_⟩⟩
  · exact hacyclic fun x y h => hpath x y (TransGen.mono (fun _ _ => UserDetours.detourGraph) x y h)
  all_goals
    obtain ⟨i, hi, -, -, rfl⟩ := ht
    rcases reflTransGen_iff_eq_or_transGen.mp h with heq | hpos
    · simp only [chainInput, List.mem_cons, List.not_mem_nil, or_false] at hi
      rcases hi with rfl | rfl <;> exact absurd heq (by decide)
    · exact absurd (hpath _ _ hpos).2 (by decide)

/-- A selector that the pass drops, and an outbound behind it. -/
def groupInput : Options where
  outbounds := [
    { type := .selector, tag := "select", selectorOptions := { outbounds := ["a"] } },
    { type := .socks, tag := "a" },
    { type := .socks, tag := "b", socksOptions := { detour := "select" } }]

lemma dials_groupInput {x y : String} (h : Dials groupInput.outbounds x y) :
    (x = "select" ∧ y = "a") ∨ (x = "b" ∧ y = "select") := by
  obtain ⟨o, ho, rfl, hy⟩ := h
  simp only [groupInput, List.mem_cons, List.not_mem_nil, or_false] at ho
  rcases ho with rfl | rfl | rfl
  · left
    simpa [Outbound.members, Outbound.detour] using hy
  · simp [Outbound.members, Outbound.detour] at hy
  · simp only [Outbound.members, Outbound.detour, List.not_mem_nil, false_or] at hy
    exact Or.inr ⟨rfl, hy.2.symm⟩

/-- The detour leads to the new selector, which has every kept outbound as a member. -/
theorem not_dials_acyclic :
    ¬ ∀ D : Deps, D.Documented → ∀ (env : BuildEnv) (opt : ConfigOptions) (input out : Options)
      (g g' : Globals), buildConfig D env opt input g = (.ret (.ok out), g') →
        DialsClosed input.outbounds → Acyclic (Dials input.outbounds) →
          Acyclic (Dials out.outbounds) := by
  intro h
  have hclosed : DialsClosed groupInput.outbounds := by
    intro x y hxy
    rcases dials_groupInput hxy with ⟨-, rfl⟩ | ⟨-, rfl⟩
    · exact ⟨{ type := .socks, tag := "a" }, by simp [groupInput], rfl⟩
    · exact ⟨_, List.mem_cons_self, rfl⟩
  have hacyclic : Acyclic (Dials groupInput.outbounds) := by
    refine acyclic_of_rank (fun t => if t = "b" then 0 else if t = "select" then 1 else 2) ?_
    intro x y hxy
    rcases dials_groupInput hxy with ⟨rfl, rfl⟩ | ⟨rfl, rfl⟩ <;> decide
  have hbuilt : isDocument (buildConfig Reference.deps {} defaultConfigOptions groupInput {}).1
      = true := by decide
  have hout := h _ Reference.deps_documented _ _ _ _ _ _ (Prod.ext (eq_documentOf hbuilt) rfl)
    hclosed hacyclic
  obtain ⟨b⟩ := buildConfig_ok (Prod.ext (eq_documentOf hbuilt) rfl)
  have hdials := b.dials_iff Reference.deps_documented
  have hmem : { type := .socks, tag := "b", socksOptions := { detour := "select" } } ∈
      groupInput.outbounds := by simp [groupInput]
  -- from the selector to `b` and back
  refine hout outboundSelectTag (.tail (.single ((hdials _ "b").mpr ?_)) ((hdials _ _).mpr ?_))
  · exact Or.inr ⟨rfl, Set.mem_insert_of_mem _ ⟨_, hmem, rfl, by decide, rfl⟩⟩
  · exact Or.inl (Or.inl (Or.inl ⟨_, hmem, rfl, rfl, by decide, rfl⟩))

/-! ### Closed detours -/

/-- The tags of the two groups. -/
def groupTags : List String := [outboundSelectTag, outboundURLTestTag]

/-- The tags of the outbounds that end every output. -/
def builtinTags : List String :=
  [outboundDNSTag, outboundDirectTag, outboundDirectFragmentTag, outboundBypassTag,
    outboundBlockTag]

/-- The tag of an outbound that a successful call emits. -/
def EmitsTag (opt : ConfigOptions) (input : Options) (t : String) : Prop :=
  t ∈ groupTags ∨ (generatesWarp opt = true ∧ t = warpTag) ∨
    (∃ i ∈ input.outbounds, keeps i = true ∧ i.tag = t) ∨ t ∈ builtinTags

namespace Built

variable {env : BuildEnv} {opt : ConfigOptions} {input out : Options} {tag : String}

lemma emitsTag_iff (hD : D.Documented) (b : Built D env opt input tag out) (t : String) :
    (∃ o ∈ out.outbounds, o.tag = t) ↔ EmitsTag (scannedOptions env opt input) input t := by
  have hwarp : (∃ o ∈ b.warp, o.tag = t) ↔
      generatesWarp (scannedOptions env opt input) = true ∧ t = warpTag := by
    have hpart := b.warpPart
    generalize b.warp = warp at hpart
    cases hpart with
    | off hoff => simp [hoff]
    | on hon hraw hout => simp [hon, (patchWarpOutbound_ok hraw hout).2.1, eq_comm]
  have hkept : (∃ o ∈ b.kept, o.tag = t) ↔ ∃ i ∈ input.outbounds, keeps i = true ∧ i.tag = t := by
    constructor
    · rintro ⟨o, ho, rfl⟩
      obtain ⟨i, hi, hkeep, hmade⟩ := b.exists_input hD ho
      exact ⟨i, hi, hkeep, hmade.tag.symm⟩
    · rintro ⟨i, hi, hkeep, rfl⟩
      obtain ⟨o, ho, hmade⟩ := b.exists_kept hD hi hkeep
      exact ⟨o, ho, hmade.tag⟩
  simp only [EmitsTag]
  rw [b.outbounds_eq, ← hwarp, ← hkept]
  simp only [← List.mem_map]
  simp only [List.map_append, List.mem_append, List.map_map, or_assoc]
  have htags : Outbound.tag ∘ patchHiddifyWarpFromConfig (scannedOptions env opt input) =
      Outbound.tag := funext (patchHiddifyWarp_tag _)
  rw [htags]
  rfl

end Built

lemma emitsTag_warpDetour (opt : ConfigOptions) (input : Options) :
    EmitsTag opt input (warpDetour opt) := by
  simp only [warpDetour]
  split_ifs
  · exact Or.inl (by decide)
  · exact Or.inr (Or.inr (Or.inr (by decide)))

/-- A detour that is added leads to the generated outbound. -/
lemma emitsTag_detourVia {opt : ConfigOptions} {input : Options} {i : Outbound}
    (h : resolvedDetour i ≠ "" → EmitsTag opt input (resolvedDetour i))
    (hne : detourVia opt i ≠ "") : EmitsTag opt input (detourVia opt i) := by
  simp only [detourVia] at hne ⊢
  split_ifs with hvia
  · obtain ⟨-, hon, hmode, -⟩ := hvia
    refine Or.inr (Or.inl ⟨?_, rfl⟩)
    simp [generatesWarp, hon, hmode]
  · rw [if_neg hvia] at hne
    exact h hne

/-- The detours of the output are closed exactly when every detour of a kept outbound is the tag
of a kept outbound, a tag that the pass adds, or the tag of a generated WARP outbound. -/
theorem detoursClosed_iff (hD : D.Documented) {env : BuildEnv} {opt : ConfigOptions}
    {input out : Options} {g g' : Globals}
    (h : buildConfig D env opt input g = (.ret (.ok out), g')) :
    DetoursClosed out.outbounds ↔
      ∀ i ∈ input.outbounds, keeps i = true → resolvedDetour i ≠ "" →
        EmitsTag (scannedOptions env opt input) input (resolvedDetour i) := by
  obtain ⟨b⟩ := buildConfig_ok h
  simp only [DetoursClosed]
  simp only [b.emitsTag_iff hD]
  constructor
  · intro hclosed i hi hkeep hne
    obtain ⟨o, ho, hmade⟩ := b.exists_kept hD hi hkeep
    have hdetour := hmade.detourVia_eq (scannedOptions env opt input)
    rw [detourVia_of_ne hne] at hdetour
    rw [← hdetour] at hne ⊢
    refine hclosed _ ?_ hne
    rw [b.outbounds_eq]
    simp only [List.mem_append, List.mem_map]
    exact Or.inl (Or.inr ⟨o, ho, rfl⟩)
  · intro hinput o ho hne
    rw [b.outbounds_eq] at ho
    simp only [List.mem_append] at ho
    rcases ho with ((ho | ho) | ho) | ho
    · -- the groups have no dialer
      simp only [List.mem_cons, List.not_mem_nil, or_false] at ho
      rcases ho with rfl | rfl <;> exact absurd rfl hne
    · have hedge : Dials b.warp o.tag o.detour := ⟨o, ho, rfl, Or.inr ⟨hne, rfl⟩⟩
      rw [dials_warp b.warpPart] at hedge
      rw [hedge.2.2]
      exact emitsTag_warpDetour _ _
    · obtain ⟨k, hk, rfl⟩ := List.mem_map.mp ho
      obtain ⟨i, hi, hkeep, hmade⟩ := b.exists_input hD hk
      rw [hmade.detourVia_eq] at hne ⊢
      exact emitsTag_detourVia (hinput i hi hkeep) hne
    · exact absurd ⟨o, ho, rfl, Or.inr ⟨hne, rfl⟩⟩ (dials_builtin _ o.tag o.detour)

theorem detoursClosed_chain :
    DetoursClosed
      (documentOf
        (buildConfig Reference.deps {} defaultConfigOptions chainInput {}).1).outbounds := by
  have hbuilt : isDocument (buildConfig Reference.deps {} defaultConfigOptions chainInput {}).1
      = true := by decide
  apply (detoursClosed_iff Reference.deps_documented (Prod.ext (eq_documentOf hbuilt) rfl)).mpr
  intro i hi _ hne
  simp only [chainInput, List.mem_cons, List.not_mem_nil, or_false] at hi
  rcases hi with rfl | rfl
  · exact Or.inr (Or.inr (Or.inl
      ⟨{ type := .socks, tag := "b" }, by simp [chainInput], rfl, rfl⟩))
  · exact absurd rfl hne

/-- A detour to a selector that the pass drops. -/
def droppedInput : Options where
  outbounds := [
    { type := .selector, tag := "proxies", selectorOptions := { outbounds := ["b"] } },
    { type := .socks, tag := "a", socksOptions := { detour := "proxies" } },
    { type := .socks, tag := "b" }]

/-- The detour is kept without the selector. -/
theorem not_detoursClosed :
    ¬ ∀ D : Deps, D.Documented → ∀ (env : BuildEnv) (opt : ConfigOptions) (input out : Options)
      (g g' : Globals), buildConfig D env opt input g = (.ret (.ok out), g') →
        DetoursClosed input.outbounds → DetoursClosed out.outbounds := by
  intro h
  have hclosed : DetoursClosed droppedInput.outbounds := by
    simp [DetoursClosed, droppedInput, Outbound.detour]
  have hbuilt : isDocument (buildConfig Reference.deps {} defaultConfigOptions droppedInput {}).1
      = true := by decide
  have hout := h _ Reference.deps_documented _ _ _ _ _ _ (Prod.ext (eq_documentOf hbuilt) rfl)
    hclosed
  have hdetour : "proxies" ∈ (documentOf (buildConfig Reference.deps {} defaultConfigOptions
      droppedInput {}).1).outbounds.map Outbound.detour := by decide
  have htag : "proxies" ∉ (documentOf (buildConfig Reference.deps {} defaultConfigOptions
      droppedInput {}).1).outbounds.map Outbound.tag := by decide
  obtain ⟨o, ho, hproxies⟩ := List.mem_map.mp hdetour
  obtain ⟨o', ho', hto⟩ := hout o ho (by rw [hproxies]; decide)
  exact htag (List.mem_map.mpr ⟨o', ho', hto.trans hproxies⟩)

end HiddifyCore.Config
