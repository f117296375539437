import Mathlib.Data.List.Nodup
import HiddifyCore.Config.Dialing

/-!
# One namespace of tags

`BuildConfig` puts its own outbounds and inbounds beside those of the user and renames none. The
tags of the output are the reserved ones and those of the kept outbounds, so distinct input tags
stay distinct exactly when no kept outbound, and with the full configuration no inbound, has one
of the reserved tags.
-/

namespace HiddifyCore.Config

open GoLib Singbox

variable {D : Deps}

/-- The tags of the outbounds that the pass adds. -/
def reservedTags (opt : ConfigOptions) : List String :=
  groupTags ++ (if generatesWarp opt then [warpTag] else []) ++ builtinTags

/-- The tags of the inbounds that the pass adds. -/
def reservedInboundTags (opt : ConfigOptions) : List String :=
  (if ¬ opt.enableTunService ∧ opt.enableTun then [inboundTUNTag] else []) ++
    [inboundMixedTag, inboundDNSTag]

/-- The tags of the inbounds are pairwise distinct, and so are those of the outbounds. -/
structure DistinctTags (options : Options) : Prop where
  outbounds : (options.outbounds.map Outbound.tag).Nodup
  inbounds : (options.inbounds.map Inbound.tag).Nodup

lemma reservedTags_nodup (opt : ConfigOptions) : (reservedTags opt).Nodup := by
  simp only [reservedTags]
  split_ifs <;> decide

lemma reservedInboundTags_nodup (opt : ConfigOptions) : (reservedInboundTags opt).Nodup := by
  simp only [reservedInboundTags]
  split_ifs <;> decide

/-- A list in front of reserved names is free of repetitions when it is so itself and avoids
them. -/
lemma nodup_append_reserved {tags reserved : List String} (h : tags.Nodup)
    (hreserved : reserved.Nodup) :
    (tags ++ reserved).Nodup ↔ ∀ t ∈ tags, t ∉ reserved := by
  rw [List.nodup_append', List.disjoint_left]
  constructor
  · rintro ⟨-, -, hdisjoint⟩ t ht
    exact hdisjoint ht
  · intro hdisjoint
    exact ⟨h, hreserved, fun t ht => hdisjoint t ht⟩

/-! ### Outbounds -/

lemma Patches.tags (hD : D.Documented) {opt : ConfigOptions} {draws : Nat → Draws} {i : Nat}
    {outs : List Outbound} {ps : List Patched} (h : Patches D opt draws i outs ps) :
    ps.map (·.outbound.tag) = outs.map Outbound.tag := by
  induction h with
  | nil => rfl
  | cons hp _ ih => rw [List.map_cons, List.map_cons, ih, (patchOutbound_ok hD hp).2.1]

lemma WarpPart.tags {draws : Draws} {opt : ConfigOptions} {warp : List Outbound}
    (h : WarpPart D draws opt warp) :
    warp.map Outbound.tag = if generatesWarp opt then [warpTag] else [] := by
  cases h with
  | off hoff => simp [hoff]
  | on hon hraw hout => simp [hon, (patchWarpOutbound_ok hraw hout).2.1]

namespace Built

variable {env : BuildEnv} {opt : ConfigOptions} {input out : Options} {tag : String}

/-- The loop drops outbounds and keeps their order. -/
lemma kept_tags_sublist (hD : D.Documented) (b : Built D env opt input tag out) :
    (b.kept.map Outbound.tag).Sublist (input.outbounds.map Outbound.tag) := by
  have hsub : (b.kept.map Outbound.tag).Sublist
      ((b.patched.map Patched.outbound).map Outbound.tag) := List.filter_sublist.map Outbound.tag
  rw [List.map_map] at hsub
  rw [← b.patches.tags hD]
  exact hsub

lemma outbound_tags_perm (b : Built D env opt input tag out) :
    (out.outbounds.map Outbound.tag).Perm
      (b.kept.map Outbound.tag ++ reservedTags (scannedOptions env opt input)) := by
  have htags : Outbound.tag ∘ patchHiddifyWarpFromConfig (scannedOptions env opt input) =
      Outbound.tag := funext (patchHiddifyWarp_tag _)
  have heq : out.outbounds.map Outbound.tag = groupTags ++ b.warp.map Outbound.tag ++
      b.kept.map Outbound.tag ++ builtinTags := by
    rw [b.outbounds_eq]
    simp only [List.map_append, List.map_map, htags]
    rfl
  rw [heq, b.warpPart.tags, reservedTags, ← List.append_assoc (b.kept.map _)]
  exact List.perm_append_comm.append_right _

lemma outbound_tags_nodup_iff (hD : D.Documented) (b : Built D env opt input tag out)
    (h : (input.outbounds.map Outbound.tag).Nodup) :
    (out.outbounds.map Outbound.tag).Nodup ↔
      ∀ i ∈ input.outbounds, keeps i = true →
        i.tag ∉ reservedTags (scannedOptions env opt input) := by
  rw [b.outbound_tags_perm.nodup_iff, nodup_append_reserved ((b.kept_tags_sublist hD).nodup h)
    (reservedTags_nodup _)]
  constructor
  · intro hkept i hi hkeep
    obtain ⟨o, ho, hmade⟩ := b.exists_kept hD hi hkeep
    exact hkept i.tag (hmade.tag ▸ List.mem_map_of_mem ho)
  · intro hinput t ht
    obtain ⟨o, ho, rfl⟩ := List.mem_map.mp ht
    obtain ⟨i, hi, hkeep, hmade⟩ := b.exists_input hD ho
    rw [hmade.tag]
    exact hinput i hi hkeep

end Built

/-! ### Inbounds -/

lemma addForceDirect_inbounds (D : Deps) (order : MapOrder) (opt : ConfigOptions)
    (domains : List String) (options : Options) :
    (addForceDirect D order opt domains options).inbounds = options.inbounds := by
  unfold addForceDirect
  dsimp only
  split_ifs <;> rfl

/-- Behind `setInbound` no pass touches the inbounds. -/
lemma prepared_inbounds (D : Deps) (env : BuildEnv) (opt : ConfigOptions) (input : Options)
    (mainProxyTag : String) :
    ∃ options : Options, (prepared D env opt input mainProxyTag).inbounds =
        (setInbound (withSecret env opt) options).inbounds ∧
      options.inbounds = if opt.enableFullConfig then input.inbounds else [] := by
  refine ⟨setLog (withSecret env opt) (setClashAPI (withSecret env opt)
    (if opt.enableFullConfig then
      { inbounds := input.inbounds, dns := input.dns, route := input.route }
    else {})), ?_, ?_⟩
  · unfold prepared setFakeDns setRoutingOptions
    dsimp only
    split_ifs <;> rfl
  · unfold setLog setClashAPI
    dsimp only
    split_ifs <;> rfl

lemma setInbound_tags (opt : ConfigOptions) (options : Options) :
    (setInbound opt options).inbounds.map Inbound.tag =
      options.inbounds.map Inbound.tag ++ reservedInboundTags opt := by
  simp only [setInbound, reservedInboundTags]
  split_ifs <;> simp [tunInbound, mixedInbound, dnsInbound]

namespace Built

variable {env : BuildEnv} {opt : ConfigOptions} {input out : Options} {tag : String}

lemma inbound_tags (b : Built D env opt input tag out) :
    out.inbounds.map Inbound.tag =
      (if opt.enableFullConfig then input.inbounds else []).map Inbound.tag ++
        reservedInboundTags opt := by
  obtain ⟨options, hprepared, hfull⟩ := prepared_inbounds D env opt input tag
  have hout : out.inbounds = (prepared D env opt input tag).inbounds := by
    rw [b.out_eq]
    exact addForceDirect_inbounds D env.keyOrder _ _ _
  rw [hout, hprepared, setInbound_tags, hfull,
    withSecret_congr reservedInboundTags fun _ _ => rfl]

lemma inbound_tags_nodup_iff (b : Built D env opt input tag out)
    (h : (input.inbounds.map Inbound.tag).Nodup) :
    (out.inbounds.map Inbound.tag).Nodup ↔
      (opt.enableFullConfig = true → ∀ i ∈ input.inbounds, i.tag ∉ reservedInboundTags opt) := by
  rw [b.inbound_tags]
  by_cases hfull : opt.enableFullConfig = true
  · rw [if_pos hfull, nodup_append_reserved h (reservedInboundTags_nodup opt)]
    simp only [List.forall_mem_map, hfull, forall_const]
  · rw [if_neg hfull]
    exact iff_of_true (reservedInboundTags_nodup opt) fun h => absurd h hfull

end Built

/-! ### The whole document -/

/-- From an input with distinct tags the outbounds of the output have distinct tags exactly when
no kept outbound has a reserved one, and its inbounds exactly when no inbound does that the full
configuration takes over. -/
theorem tags_nodup_iff (hD : D.Documented) {env : BuildEnv} {opt : ConfigOptions}
    {input out : Options} {g g' : Globals}
    (h : buildConfig D env opt input g = (.ret (.ok out), g')) (hinput : DistinctTags input) :
    ((out.outbounds.map Outbound.tag).Nodup ↔ ∀ i ∈ input.outbounds, keeps i = true →
      i.tag ∉ reservedTags (scannedOptions env opt input)) ∧
    ((out.inbounds.map Inbound.tag).Nodup ↔
      (opt.enableFullConfig = true → ∀ i ∈ input.inbounds, i.tag ∉ reservedInboundTags opt)) := by
  obtain ⟨b⟩ := buildConfig_ok h
  exact ⟨b.outbound_tags_nodup_iff hD hinput.outbounds, b.inbound_tags_nodup_iff hinput.inbounds⟩

theorem tags_nodup_chain :
    DistinctTags
      (documentOf (buildConfig Reference.deps {} defaultConfigOptions chainInput {}).1) := by
  have hbuilt : isDocument (buildConfig Reference.deps {} defaultConfigOptions chainInput {}).1
      = true := by decide
  obtain ⟨hout, hin⟩ := tags_nodup_iff Reference.deps_documented
    (Prod.ext (eq_documentOf hbuilt) rfl) ⟨by decide, by decide⟩
  exact ⟨hout.mpr (by decide), hin.mpr (by decide)⟩

/-- An outbound with the tag of a group. -/
def selectInput : Options where
  outbounds := [{ type := .socks, tag := "select" }]

/-- The user's outbound and the selector have one tag. -/
theorem not_tags_nodup :
    ¬ ∀ D : Deps, D.Documented → ∀ (env : BuildEnv) (opt : ConfigOptions) (input out : Options)
      (g g' : Globals), buildConfig D env opt input g = (.ret (.ok out), g') →
        DistinctTags input → DistinctTags out := by
  intro h
  have hbuilt : isDocument (buildConfig Reference.deps {} defaultConfigOptions selectInput {}).1
      = true := by decide
  have hout := h _ Reference.deps_documented _ _ _ _ _ _ (Prod.ext (eq_documentOf hbuilt) rfl)
    ⟨by decide, by decide⟩
  exact absurd hout.outbounds (by decide)

end HiddifyCore.Config
