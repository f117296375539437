import HiddifyCore.Config.Batch
import HiddifyCore.Config.BuildSpec

/-!
# Outbounds for which nothing is drawn

`patchWarp` draws names, addresses and ports for some outbounds: for a custom WARP outbound, which
is always given port zero, and for a WireGuard outbound with port zero, or with a placeholder for
its server and no detour. The others are settled. On a settled outbound a patch gives the same in
every call that gets the same answers to its name lookups, and a batch of the parser over settled
outbounds gives each one back, in whatever order its tasks complete, as long as outbounds with one
tag are the same.
-/

namespace HiddifyCore.Config

open GoLib Singbox

/-! ### One outbound -/

/-- The draws of a call that only looks names up. -/
def lookups (lookupHost : String → Option (List String)) : Draws := { lookupHost := lookupHost }

/-- No patch of the outbound draws anything. -/
structure IsSettled (lookupHost : String → Option (List String)) (out : Outbound) : Prop where
  custom : warpObject out = none
  port : out.type = .wireguard → out.wireGuardOptions.serverPort ≠ 0
  server : out.type = .wireguard → out.wireGuardOptions.detour = "" →
    isPlaceholder (lookups lookupHost) out.wireGuardOptions.server = false

variable {D : Deps} {lookupHost : String → Option (List String)} {draws : Draws}

lemma isPlaceholder_lookups (h : draws.lookupHost = lookupHost) (host : String) :
    isPlaceholder draws host = isPlaceholder (lookups lookupHost) host := by
  simp only [isPlaceholder, lookups, h]

lemma finishWireGuard_settled {wg : WireGuardOutboundOptions} (h : draws.lookupHost = lookupHost)
    (hport : wg.serverPort ≠ 0)
    (hserver : wg.detour = "" → isPlaceholder (lookups lookupHost) wg.server = false) :
    finishWireGuard D draws wg = finishWireGuard D (lookups lookupHost) wg := by
  unfold finishWireGuard
  rw [isPlaceholder_lookups h]
  by_cases hdetour : wg.detour = ""
  · simp only [hserver hdetour, Bool.false_eq_true, if_false, if_neg hport]
  · simp only [placeholderServer, ne_eq, hdetour, not_false_eq_true, if_true, if_neg hport]

lemma IsSettled.finishWarp_eq {out : Outbound} (hout : IsSettled lookupHost out)
    (h : draws.lookupHost = lookupHost) (final : Bool) :
    finishWarp D draws out final = finishWarp D (lookups lookupHost) out final := by
  unfold finishWarp
  split_ifs with hfinal
  · rw [finishWireGuard_settled h (hout.port hfinal.2) (hout.server hfinal.2)]
  · rfl

lemma patchWarp_of_not_custom {out : Outbound} (h : warpObject out = none)
    (configOpt : Option ConfigOptions) (final : Bool) :
    patchWarp D draws out configOpt final = .ok (finishWarp D draws out final) := by
  simp only [patchWarp, h]

lemma IsSettled.patchOutbound_eq {out : Outbound} (hout : IsSettled lookupHost out)
    (h : draws.lookupHost = lookupHost) (opt : ConfigOptions) :
    patchOutbound D draws out opt = patchOutbound D (lookups lookupHost) out opt := by
  simp only [patchOutbound, patchWarp_of_not_custom hout.custom, hout.finishWarp_eq h]

/-- The loop of `setOutbounds` over settled outbounds. -/
lemma collect_settled {opt : ConfigOptions} {draws : Nat → Draws} {outs : List Outbound} {i : Nat}
    {acc : Collected} (h : ∀ i, (draws i).lookupHost = lookupHost)
    (houts : ∀ out ∈ outs, IsSettled lookupHost out) :
    collect D opt draws outs i acc = collect D opt (fun _ => lookups lookupHost) outs i acc := by
  induction outs generalizing i acc with
  | nil => rfl
  | cons out outs ih =>
    simp only [collect, (houts out List.mem_cons_self).patchOutbound_eq (h i)]
    congr 1
    funext p
    exact ih fun out' hout' => houts out' (List.mem_cons_of_mem out hout')

/-! ### The generated WARP outbound -/

lemma generateWarpSingbox_port {wgConfig : WarpWireguardConfig} {host : String} {port : UInt16}
    {fake : FakePackets} {out : Outbound}
    (h : generateWarpSingbox D wgConfig host port fake = .ok out) :
    out.wireGuardOptions.serverPort = port := by
  obtain ⟨reserved, p4, p6, -, -, -, rfl⟩ := generateWarpSingbox_eq_ok.mp h
  rfl

lemma warpOutbound_port {opt : ConfigOptions} {out : Outbound} (h : warpOutbound D opt = .ok out) :
    out.wireGuardOptions.serverPort = opt.warp.cleanPort := by
  obtain ⟨reserved, prefixes, rfl⟩ := warpOutbound_record h
  rfl

/-- It always has a detour, so only its port can be drawn. -/
lemma warpOutbound_settled {opt : ConfigOptions} {out : Outbound}
    (h : warpOutbound D opt = .ok out) (hport : opt.warp.cleanPort ≠ 0) :
    IsSettled lookupHost out := by
  obtain ⟨htype, -, hdetour⟩ := warpOutbound_ok h
  refine ⟨by simp [warpObject, htype], fun _ => warpOutbound_port h ▸ hport, fun _ hnone => ?_⟩
  rw [hdetour] at hnone
  split_ifs at hnone <;> exact absurd hnone (by decide)

@[simp]
lemma scanWarp_cleanPort (input : List Outbound) (opt : ConfigOptions) :
    (scanWarp input opt).warp.cleanPort = opt.warp.cleanPort := by
  simp only [scanWarp]
  split_ifs <;> rfl

lemma addWarp_settled {opt : ConfigOptions} (h : draws.lookupHost = lookupHost)
    (hport : generatesWarp opt = true → opt.warp.cleanPort ≠ 0) :
    addWarp D draws opt = addWarp D (lookups lookupHost) opt := by
  funext g
  simp only [addWarp]
  cases hgen : generatesWarp opt with
  | false => rfl
  | true =>
    cases hwarp : warpOutbound D opt with
    | fail e => simp [Go.bind_run, Go.call, Go.pure_run]
    | panic e => simp [Go.bind_run, Go.call]
    | ok out =>
      have hout : IsSettled lookupHost out := warpOutbound_settled hwarp (hport hgen)
      have hpatch : patchWarpOutbound D draws opt out =
          patchWarpOutbound D (lookups lookupHost) opt out := by
        simp only [patchWarpOutbound, patchWarp_of_not_custom hout.custom, hout.finishWarp_eq h]
      simp only [if_true, Go.bind_run, Go.call_ok, Go.modify, hpatch]

/-! ### The batch of the parser -/

section Batch

variable {P : ParserDeps} {env : ParseEnv}

/-- A batch has nothing to do for these outbounds, and its order does not show. -/
structure IsSettledBatch (outs : List Outbound) : Prop where
  custom : ∀ out ∈ outs, warpObject out = none
  tags : ∀ out ∈ outs, ∀ out' ∈ outs, out'.tag = out.tag → out' = out

/-- The results of a settled batch in the order of their completion. -/
def settledResults (env : ParseEnv) (outs : List Outbound) : List (String × Outbound) :=
  (env.completion outs.length).filterMap fun i => outs[i]?.map fun base => (base.tag, base)

lemma settledResults_eq (outs : List Outbound) :
    settledResults env outs =
      Batch.completed (env.completion outs.length) (outs.map fun base => (base.tag, base)) := by
  simp only [settledResults, Batch.completed, List.getElem?_map]

lemma patchTask_settled {out : Outbound} (h : warpObject out = none)
    (configOpt : Option ConfigOptions) (i : Nat) :
    patchTask D env configOpt i out = .ok out :=
  patchTask_eq_ok.mpr ⟨[], patchWarp_of_not_custom h configOpt false⟩

lemma completedTasks_settled {outs : List Outbound} (h : ∀ out ∈ outs, warpObject out = none)
    (configOpt : Option ConfigOptions) :
    completedTasks D env configOpt outs =
      (settledResults env outs).map fun kv => (kv.1, .ok kv.2) := by
  rw [completedTasks, settledResults, List.map_filterMap]
  refine List.filterMap_congr fun i _ => ?_
  cases hbase : outs[i]? with
  | none => rfl
  | some base =>
    simp only [Option.map_some, patchTask_settled (h base (List.mem_of_getElem? hbase))]

/-- A settled batch gives the outbounds back. -/
lemma takeResults_settled {outs : List Outbound} (h : IsSettledBatch outs) :
    takeResults (settledResults env outs).reverse outs = .ok outs := by
  have hperm : (env.completion outs.length).Perm
      (List.range (outs.map fun base => (base.tag, base)).length) := by
    rw [List.length_map]
    exact env.perm _
  have hagree : Batch.Agree (outs.map fun base => (base.tag, base)) := by
    simp only [Batch.Agree, List.forall_mem_map]
    exact fun out hout out' hout' htag => h.tags out' hout' out hout htag
  rw [takeResults_eq_ok, List.forall₂_same, settledResults_eq]
  exact fun base hbase =>
    (Batch.resultOf_eq_iff hperm).mpr hagree _ (List.mem_map_of_mem hbase)

lemma patchedOutbounds_settled {outs : List Outbound} (h : IsSettledBatch outs)
    (configOpt : Option ConfigOptions) :
    patchedOutbounds D P env configOpt outs = .ok outs := by
  rw [patchedOutbounds, completedTasks_settled h.custom, waitAndGetResult_ok, Outcome.bind_ok,
    takeResults_settled h]

/-- So the options are written as they were read. -/
lemma patchConfig_settled {content name : String} {configOpt : Option ConfigOptions}
    (h : ∀ options, P.unmarshalOptions content = .ok options → IsSettledBatch options.outbounds) :
    patchConfig D P env content name configOpt = (do
      let options ← (P.unmarshalOptions content).mapErr
        ("[SingboxParser] unmarshal error: " ++ ·)
      let content ← contentOf (P.marshalOptions options)
      validateResult P content name) := by
  rw [patchConfig_eq]
  cases hoptions : P.unmarshalOptions content with
  | fail e => rfl
  | panic e => rfl
  | ok options =>
    simp only [Outcome.mapErr, Outcome.bind_ok, patchedOutbounds_settled (h options hoptions)]

end Batch

end HiddifyCore.Config
