import HiddifyCore.Config.Dialing

/-!
# The proxies of a document

The loop of `setOutbounds` fills two lists under different conditions: the outbounds that are kept,
and the tags of those that are not hidden. Both follow the input in its order, and the two groups
list the tags. The default of the selector is found in a second loop, which looks for a marker in
the tags and then stores the marker itself.
-/

namespace HiddifyCore.Config

open GoLib GoLib.Strings Singbox

variable {D : Deps}

/-! ### What is kept -/

/-- The outbound of the output that is made from the input outbound at a position. -/
def EmittedFrom (D : Deps) (draws : Nat → Draws) (opt : ConfigOptions) (o : Outbound)
    (i : Outbound × Nat) : Prop :=
  ∃ p, patchOutbound D (draws i.2) i.1 opt = .ok p ∧ MadeFrom p.outbound i.1 ∧
    o = patchHiddifyWarpFromConfig opt p.outbound

/-- The kept outbounds of the input with their positions. -/
def keptInputs (input : List Outbound) (start : Nat) : List (Outbound × Nat) :=
  (input.zipIdx start).filter fun i => keeps i.1

/-- The tags of the groups, read off the input. -/
def visibleOf (input : List Outbound) : List String :=
  ((input.filter keeps).map Outbound.tag).filter (!isHidden ·)

/-- Behind the two groups and the generated WARP outbound the document has one outbound for each
kept outbound of the input, and the groups list the tags of those that are not hidden. -/
def ListsProxies (D : Deps) (env : BuildEnv) (opt : ConfigOptions) (input out : Options) : Prop :=
  ∃ (selector urlTest : Outbound) (warp kept : List Outbound),
    out.outbounds = [selector, urlTest] ++ warp ++ kept ++ builtinOutbounds opt ∧
    WarpPart D env.warp opt warp ∧
    List.Forall₂ (EmittedFrom D env.outbound opt) kept (keptInputs input.outbounds 0) ∧
    selector.type = .selector ∧
    selector.members = outboundURLTestTag :: visibleOf input.outbounds ∧
    urlTest.type = .urltest ∧ urlTest.tag = outboundURLTestTag ∧
    urlTest.members = visibleOf input.outbounds

/-- The kept outbounds follow the input, position by position. -/
lemma Patches.emittedFrom (hD : D.Documented) {opt : ConfigOptions} {draws : Nat → Draws} {i : Nat}
    {outs : List Outbound} {ps : List Patched} (h : Patches D opt draws i outs ps) :
    List.Forall₂ (EmittedFrom D draws opt)
      ((keptOf ps).map (patchHiddifyWarpFromConfig opt)) (keptInputs outs i) := by
  induction h with
  | nil => exact .nil
  | @cons i out p outs ps hp _ ih =>
    obtain ⟨htype, htag, hdetour⟩ := patchOutbound_ok hD hp
    have hdrop : isDropped p.outbound.type = !keeps out := by
      rw [htype, keeps, Bool.not_not]
    rw [keptOf_cons, hdrop, keptInputs, List.zipIdx_cons, List.filter_cons]
    cases hkeep : keeps out with
    | false => exact ih
    | true => exact .cons ⟨p, hp, ⟨htype, htag, hdetour⟩, rfl⟩ ih

lemma keptInputs_map_fst (input : List Outbound) (start : Nat) :
    (keptInputs input start).map Prod.fst = input.filter keeps := by
  have hfilter : (keptInputs input start).map Prod.fst =
      ((input.zipIdx start).map Prod.fst).filter keeps := by
    rw [List.filter_map]
    rfl
  rw [hfilter, List.zipIdx_map_fst]

lemma tags_of_emittedFrom {opt : ConfigOptions} {draws : Nat → Draws} {kept : List Outbound}
    {inputs : List (Outbound × Nat)} (h : List.Forall₂ (EmittedFrom D draws opt) kept inputs) :
    kept.map Outbound.tag = (inputs.map Prod.fst).map Outbound.tag := by
  induction h with
  | nil => rfl
  | cons hp _ ih =>
    obtain ⟨p, -, hmade, rfl⟩ := hp
    rw [List.map_cons, List.map_cons, List.map_cons, ih, patchHiddifyWarp_tag, hmade.tag]

namespace Built

variable {env : BuildEnv} {opt : ConfigOptions} {input out : Options} {tag : String}

lemma visibleTags_eq (hD : D.Documented) (b : Built D env opt input tag out) :
    visibleTags b.kept = visibleOf input.outbounds := by
  have hkept := tags_of_emittedFrom (b.patches.emittedFrom hD)
  have htags : Outbound.tag ∘ patchHiddifyWarpFromConfig (scannedOptions env opt input) =
      Outbound.tag := funext (patchHiddifyWarp_tag _)
  rw [List.map_map, htags, keptInputs_map_fst] at hkept
  rw [visibleTags, visibleOf, ← hkept]
  rfl

end Built

/-- Every kept outbound of the input is in the document once and in the order of the input, and
the groups list the tags of those that are not hidden. -/
theorem listsProxies (hD : D.Documented) {env : BuildEnv} {opt : ConfigOptions}
    {input out : Options} {g g' : Globals}
    (h : buildConfig D env opt input g = (.ret (.ok out), g')) :
    ListsProxies D env (scannedOptions env opt input) input out := by
  obtain ⟨b⟩ := buildConfig_ok h
  refine ⟨selectorOutbound (visibleTags b.kept),
    urlTestOutbound (scannedOptions env opt input) (visibleTags b.kept), b.warp,
    b.kept.map (patchHiddifyWarpFromConfig (scannedOptions env opt input)), b.outbounds_eq,
    b.warpPart, b.patches.emittedFrom hD, rfl, ?_, rfl, rfl, ?_⟩
  · exact congrArg (outboundURLTestTag :: ·) (b.visibleTags_eq hD)
  · exact b.visibleTags_eq hD

theorem listsProxies_chain :
    ListsProxies Reference.deps {} (scannedOptions {} defaultConfigOptions chainInput) chainInput
      (documentOf (buildConfig Reference.deps {} defaultConfigOptions chainInput {}).1) := by
  have hbuilt : isDocument (buildConfig Reference.deps {} defaultConfigOptions chainInput {}).1
      = true := by decide
  exact listsProxies Reference.deps_documented (Prod.ext (eq_documentOf hbuilt) rfl)

/-! ### The references of the groups -/

/-- The members of the groups are outbounds of the document, and the default of the selector is
one of its members: a marked one when a tag of the kept outbounds is marked. -/
structure GroupsRefer (input out : Options) : Prop where
  members : ∀ o ∈ out.outbounds, ∀ t ∈ o.members, ∃ o' ∈ out.outbounds, o'.tag = t
  default : ∀ o ∈ out.outbounds, o.type = .selector → o.selectorOptions.default ∈ o.members
  marked : ∀ o ∈ out.outbounds, o.type = .selector →
    (∃ t ∈ visibleOf input.outbounds, contains t "§default§" = true) →
      o.selectorOptions.default ∈ visibleOf input.outbounds ∧
        contains o.selectorOptions.default "§default§" = true

/-- No tag of the kept outbounds is marked, or one of them is the marker. -/
def MarkerIsTag (input : Options) : Prop :=
  (∀ t ∈ visibleOf input.outbounds, contains t "§default§" = false) ∨
    "§default§" ∈ visibleOf input.outbounds

instance (input : Options) : Decidable (MarkerIsTag input) := inferInstanceAs (Decidable (_ ∨ _))

namespace Built

variable {env : BuildEnv} {opt : ConfigOptions} {input out : Options} {tag : String}

/-- The groups are the only outbounds of the document that have members. -/
lemma eq_group_of_type (b : Built D env opt input tag out) {o : Outbound} (ho : o ∈ out.outbounds)
    (htype : o.type = .selector ∨ o.type = .urltest) :
    o = selectorOutbound (visibleTags b.kept) ∨
      o = urlTestOutbound (scannedOptions env opt input) (visibleTags b.kept) := by
  have hdrop : isDropped o.type = true := by
    rcases htype with h | h <;> rw [h] <;> rfl
  rw [b.outbounds_eq] at ho
  simp only [List.mem_append, List.mem_cons, List.not_mem_nil, or_false] at ho
  rcases ho with ((ho | ho) | ho) | ho
  · exact ho
  · have hpart := b.warpPart
    generalize b.warp = warp at hpart ho
    cases hpart with
    | off _ => cases ho
    | on _ hraw hout =>
      rw [List.mem_singleton.mp ho, (patchWarpOutbound_ok hraw hout).1] at hdrop
      cases hdrop
  · obtain ⟨k, hk, rfl⟩ := List.mem_map.mp ho
    rw [patchHiddifyWarp_type, (mem_keptOf.mp hk).2] at hdrop
    cases hdrop
  · simp only [builtinOutbounds, List.mem_cons, List.not_mem_nil, or_false] at ho
    rcases ho with rfl | rfl | rfl | rfl | rfl <;> rcases htype with h | h <;> cases h

lemma visible_mem (hD : D.Documented) (b : Built D env opt input tag out) {t : String}
    (ht : t ∈ visibleOf input.outbounds) : ∃ o ∈ out.outbounds, o.tag = t := by
  rw [← b.visibleTags_eq hD] at ht
  obtain ⟨k, hk, rfl⟩ := List.mem_map.mp (List.mem_of_mem_filter ht)
  refine ⟨_, ?_, patchHiddifyWarp_tag (scannedOptions env opt input) k⟩
  rw [b.outbounds_eq]
  simp only [List.mem_append]
  exact Or.inl (Or.inr (List.mem_map_of_mem hk))

lemma members_refer (hD : D.Documented) (b : Built D env opt input tag out) {o : Outbound}
    (ho : o ∈ out.outbounds) {t : String} (ht : t ∈ o.members) :
    ∃ o' ∈ out.outbounds, o'.tag = t := by
  have htype : o.type = .selector ∨ o.type = .urltest := by
    simp only [Outbound.members] at ht
    split at ht
    · exact Or.inl ‹_›
    · exact Or.inr ‹_›
    · cases ht
  have hgroups : urlTestOutbound (scannedOptions env opt input) (visibleTags b.kept) ∈
      out.outbounds := by
    rw [b.outbounds_eq]
    simp
  rcases b.eq_group_of_type ho htype with rfl | rfl
  · rcases List.mem_cons.mp ht with rfl | ht
    · exact ⟨_, hgroups, rfl⟩
    · exact b.visible_mem hD (b.visibleTags_eq hD ▸ ht)
  · exact b.visible_mem hD (b.visibleTags_eq hD ▸ ht)

end Built

/-- What the second loop makes of the tags. -/
lemma selectorOutbound_default (tags : List String) :
    (selectorOutbound tags).selectorOptions.default =
      if ∃ t ∈ tags, contains t "§default§" = true then "§default§" else outboundURLTestTag := by
  simp only [selectorOutbound, List.any_eq_true]

lemma MarkerIsTag.mem {input : Options} (h : MarkerIsTag input)
    (hmark : ∃ t ∈ visibleOf input.outbounds, contains t "§default§" = true) :
    "§default§" ∈ visibleOf input.outbounds := by
  rcases h with hnone | htag
  · obtain ⟨t, ht, hc⟩ := hmark
    rw [hnone t ht] at hc
    cases hc
  · exact htag

/-- The groups of a document refer to its outbounds exactly when the marker is not found inside a
longer tag alone. -/
theorem groupsRefer_iff (hD : D.Documented) {env : BuildEnv} {opt : ConfigOptions}
    {input out : Options} {g g' : Globals}
    (h : buildConfig D env opt input g = (.ret (.ok out), g')) :
    GroupsRefer input out ↔ MarkerIsTag input := by
  obtain ⟨b⟩ := buildConfig_ok h
  have hselector : ∀ o ∈ out.outbounds, o.type = .selector →
      o = selectorOutbound (visibleOf input.outbounds) := by
    intro o ho htype
    rcases b.eq_group_of_type ho (Or.inl htype) with rfl | rfl
    · rw [b.visibleTags_eq hD]
    · cases htype
  constructor
  · intro hrefer
    have hmem : selectorOutbound (visibleOf input.outbounds) ∈ out.outbounds := by
      rw [b.outbounds_eq, b.visibleTags_eq hD]
      simp
    by_cases hmark : ∃ t ∈ visibleOf input.outbounds, contains t "§default§" = true
    · have hdefault := (hrefer.marked _ hmem rfl hmark).1
      rw [selectorOutbound_default, if_pos hmark] at hdefault
      exact Or.inr hdefault
    · exact Or.inl fun t ht => Bool.eq_false_iff.mpr fun hc => hmark ⟨t, ht, hc⟩
  · intro hmarker
    refine ⟨fun o ho t ht => b.members_refer hD ho ht, fun o ho htype => ?_,
      fun o ho htype hmark => ?_⟩
    · rw [hselector o ho htype, selectorOutbound_default]
      split_ifs with hmark
      · exact List.mem_cons_of_mem _ (hmarker.mem hmark)
      · exact List.mem_cons_self
    · rw [hselector o ho htype, selectorOutbound_default, if_pos hmark]
      exact ⟨hmarker.mem hmark, by decide⟩

/-- The chain, and outbounds whose tags are the marker and contain it. -/
def markedChain : Options :=
  { chainInput with
    outbounds := chainInput.outbounds ++
      [{ type := .socks, tag := "a §default§" }, { type := .socks, tag := "§default§" }] }

theorem groupsRefer_chain :
    GroupsRefer markedChain
      (documentOf (buildConfig Reference.deps {} defaultConfigOptions markedChain {}).1) := by
  have hbuilt : isDocument (buildConfig Reference.deps {} defaultConfigOptions markedChain {}).1
      = true := by decide
  exact (groupsRefer_iff Reference.deps_documented (Prod.ext (eq_documentOf hbuilt) rfl)).mpr
    (by decide)

/-- An outbound whose tag contains the marker. -/
def markedInput : Options where
  outbounds := [{ type := .socks, tag := "a §default§" }]

/-- The default is the marker, which no outbound is tagged with. -/
theorem not_groupsRefer :
    ¬ ∀ D : Deps, D.Documented → ∀ (env : BuildEnv) (opt : ConfigOptions) (input out : Options)
      (g g' : Globals), buildConfig D env opt input g = (.ret (.ok out), g') →
        GroupsRefer input out := by
  intro h
  have hbuilt : isDocument (buildConfig Reference.deps {} defaultConfigOptions markedInput {}).1
      = true := by decide
  have hrefer := h _ Reference.deps_documented _ _ _ _ _ _ (Prod.ext (eq_documentOf hbuilt) rfl)
  have hdefault := hrefer.default (selectorOutbound ["a §default§"]) (List.mem_of_mem_head? rfl) rfl
  exact absurd hdefault (by decide)

end HiddifyCore.Config
