import HiddifyCore.Config.Emitted
import HiddifyCore.Config.Settled

/-!
# Early and late resolution

A custom outbound with one of the two WARP identities of the options is resolved by `patchConfig`,
if that has the options, or else by `BuildConfig`. Both ways patch the same WireGuard outbounds.
They differ in what the scan of `setOutbounds` sees: a key before the resolution, a private key
after it.
-/

namespace HiddifyCore.Config

open GoLib Singbox

variable {D : Deps} {P : ParserDeps}

/-! ### A build in terms of its scanned options -/

/-- The document of a call that ends with one. -/
def outcomeOf : Exit (Except String Options) → Outcome Options
  | .ret (.ok out) => .ok out
  | .ret (.error e) => .fail e
  | .panic e => .panic e

/-- `setOutbounds` after its scan. -/
def buildScanned (D : Deps) (env : BuildEnv) (opt : ConfigOptions) (outs : List Outbound)
    (options : Options) : Outcome Options := do
  let warp ← warpPart D env.warp opt
  let acc ← collect D opt env.outbound outs 0 { staticIPs := staticIPsOf options }
  .ok (assembleOutbounds D env.keyOrder opt warp acc options)

lemma outcomeOf_buildConfig (env : BuildEnv) (opt : ConfigOptions) (input : Options)
    (g : Globals) :
    outcomeOf (buildConfig D env opt input g).1 =
      buildScanned D env (scannedOptions env opt input) input.outbounds
        (prepared D env opt input g.outboundMainProxyTag) := by
  rw [buildConfig_run, setOutbounds, buildScanned, scannedOptions]
  simp only [Go.bind_run, Go.modify]
  have haddWarp := addWarp_eq_warpPart D env.warp
    (scanWarp input.outbounds (withSecret env opt))
    ((commandTunnel (withSecret env opt) g).setMainProxyTag outboundSelectTag)
  rcases hrun : addWarp D env.warp (scanWarp input.outbounds (withSecret env opt))
      ((commandTunnel (withSecret env opt) g).setMainProxyTag outboundSelectTag) with ⟨r, u⟩
  rw [hrun] at haddWarp
  cases hpart : warpPart D env.warp (scanWarp input.outbounds (withSecret env opt)) with
  | fail e =>
    simp only [hpart] at haddWarp
    simp [haddWarp, Go.pure_run, outcomeOf]
  | panic e =>
    simp only [hpart] at haddWarp
    simp [haddWarp, outcomeOf]
  | ok warp =>
    simp only [hpart] at haddWarp
    simp only [haddWarp, Go.bind_run, Outcome.bind_ok]
    cases collect D (scanWarp input.outbounds (withSecret env opt)) env.outbound input.outbounds 0
      { staticIPs := staticIPsOf (prepared D env opt input g.outboundMainProxyTag) } <;> rfl

/-! ### One outbound -/

/-- The options have the same two identities. -/
def SameIdentities (opt o : ConfigOptions) : Prop :=
  o.warp.wireguardConfig = opt.warp.wireguardConfig ∧
    o.warp2.wireguardConfig = opt.warp2.wireguardConfig

/-- The parser makes this outbound of the other one. -/
def Resolves (D : Deps) (opt : ConfigOptions) (base base' : Outbound) : Prop :=
  ∃ draws writes, patchWarp D draws base (some opt) false = .ok (base', writes)

lemma key_of_registeredKey {base : Outbound} {warp : JObj} (h : registeredKey base = none)
    (hwarp : warpObject base = some warp) :
    warp.getString "key" = "p1" ∨ warp.getString "key" = "p2" := by
  by_contra hkey
  obtain ⟨hp1, hp2⟩ := not_or.mp hkey
  have hsome := registeredKey_eq_some.mpr ⟨warp, hwarp, rfl, hp1, hp2⟩
  rw [h] at hsome
  cases hsome

/-- An identity of the options is generated from in the same way by both. -/
lemma customWarpConfig_sameIdentities {draws draws' : Draws} {opt o : ConfigOptions}
    (ho : SameIdentities opt o) {warp : JObj}
    (hkey : warp.getString "key" = "p1" ∨ warp.getString "key" = "p2") :
    customWarpConfig D draws (some o) warp = customWarpConfig D draws' (some opt) warp := by
  rw [customWarpConfig_of_key hkey, customWarpConfig_of_key hkey]
  simp only [identityOf, ho.1, ho.2]

/-- What the parser resolves, the builder patches as what it resolves itself. -/
lemma Resolves.patchOutbound_eq {opt o : ConfigOptions} (ho : SameIdentities opt o)
    {base base' : Outbound} (hkey : registeredKey base = none) (h : Resolves D opt base base')
    (draws : Draws) : patchOutbound D draws base o = patchOutbound D draws base' o := by
  obtain ⟨draws', writes, h⟩ := h
  rcases patchWarp_early h with ⟨rfl, -⟩ | ⟨warp, config, hwarp, hconfig, rfl⟩
  · rfl
  · have hlate : patchWarp D draws base (some o) true = _ :=
      patchWarp_of_config hwarp ((customWarpConfig_sameIdentities ho
        (key_of_registeredKey hkey hwarp)).trans hconfig) true
    have hearly : patchWarp D draws (resolveWarp base config (warp.getString "detour")) (some o)
        true = .ok (finishWarp D draws
          (resolveWarp base config (warp.getString "detour")) true) := by
      rw [patchWarp, show warpObject (resolveWarp base config _) = none from rfl]
    simp only [patchOutbound, hlate, hearly, Outcome.mapErr, Outcome.bind_ok]

/-- What the builder patches, the parser resolves. -/
lemma isOk_patchTask_of_patchOutbound {opt o : ConfigOptions} (ho : SameIdentities opt o)
    {env : ParseEnv} {draws : Draws} {base : Outbound} (hkey : registeredKey base = none)
    (h : (patchOutbound D draws base o).IsOk) (i : Nat) :
    (patchTask D env (some opt) i base).IsOk := by
  obtain ⟨p, hp⟩ := h.exists_eq
  obtain ⟨base', _, _, hwarp, -⟩ := patchOutbound_steps hp
  rcases patchWarp_resolved hwarp with ⟨hnone, -⟩ | ⟨warp, config, hsome, hconfig, -⟩
  · rw [patchTask_settled hnone]
    trivial
  · have htask : customWarpConfig D (env.draws i) (some opt) warp = .ok (some config) :=
      (customWarpConfig_sameIdentities ⟨ho.1.symm, ho.2.symm⟩
        (key_of_registeredKey hkey hsome)).trans hconfig
    rw [patchTask_eq_ok.mpr ⟨_, patchWarp_of_config hsome htask false⟩]
    trivial

/-! ### All outbounds -/

lemma collect_congr {o : ConfigOptions} {draws : Nat → Draws} {outs outs' : List Outbound}
    (h : List.Forall₂ (fun base base' => ∀ draws, patchOutbound D draws base o =
      patchOutbound D draws base' o) outs outs') (i : Nat) (acc : Collected) :
    collect D o draws outs i acc = collect D o draws outs' i acc := by
  induction h generalizing i acc with
  | nil => rfl
  | cons hbase _ ih =>
    simp only [collect, hbase (draws i)]
    congr 1
    funext p
    exact ih (i + 1) (acc.add o p)

/-- The tags are distinct, and no custom WARP outbound is registered with a key of its own. -/
structure IsPlainList (outs : List Outbound) : Prop where
  tags : (outs.map Outbound.tag).Nodup
  keys : ∀ base ∈ outs, registeredKey base = none

section List

variable {env : ParseEnv} {configOpt : Option ConfigOptions} {outs : List Outbound}

/-- With distinct tags the batch is pointwise. -/
lemma NoTaskFails.isPointwise_of_nodup (h : NoTaskFails D env configOpt outs)
    (htags : (outs.map Outbound.tag).Nodup) : IsPointwise D P env configOpt outs := by
  refine h.isPointwise_iff_agree.mpr (Batch.agree_of_nodup ?_)
  rw [← List.zipIdx_map_fst 0 outs, List.map_map] at htags
  rw [resultsOf, List.map_map]
  exact htags

/-- Positions are forgotten. -/
lemma forall₂_of_zipIdx {R : Outbound → Outbound → Prop} {outs outs' : List Outbound}
    (h : List.Forall₂ (fun (i : Outbound × Nat) out => R i.1 out) outs.zipIdx outs') :
    List.Forall₂ R outs outs' := by
  rw [← List.zipIdx_map_fst 0 outs, List.forall₂_map_left_iff]
  exact h

/-- Without the options the parser leaves the outbounds as they are. -/
lemma IsPlainList.patchedOutbounds_none (h : IsPlainList outs) :
    patchedOutbounds D P env none outs = .ok outs := by
  have hstay (base : Outbound) (hbase : base ∈ outs) (i : Nat) :
      patchTask D env none i base = .ok base := by
    cases hwarp : warpObject base with
    | none => exact patchTask_settled hwarp none i
    | some warp =>
      have hkey := key_of_registeredKey (h.keys base hbase) hwarp
      simp only [patchTask, patchWarp, hwarp, customWarpConfig, hkey, if_true, Outcome.bind_ok]
      rfl
  have hok : NoTaskFails D env none outs := by
    intro i hi
    rw [hstay _ (List.fst_mem_of_mem_zipIdx hi)]
    trivial
  obtain ⟨outs', houts, hpatched⟩ := hok.isPointwise_of_nodup (P := P) h.tags
  have hsame : List.Forall₂ (· = ·) outs outs' := by
    refine forall₂_of_zipIdx ?_
    refine (List.forall₂_and_left _ _).mpr ⟨fun i hi => hi, hpatched⟩ |>.imp ?_
    rintro i out ⟨hi, hout⟩
    have htask := hstay i.1 (List.fst_mem_of_mem_zipIdx hi) i.2
    rw [patchTask_eq_ok.mpr hout] at htask
    exact (Outcome.ok.inj htask).symm
  rw [List.forall₂_eq_eq_eq] at hsame
  rw [houts, hsame]

/-- With the options the parser resolves each of them, unless one of them cannot be. -/
lemma IsPlainList.patchedOutbounds_some (h : IsPlainList outs) {opt : ConfigOptions}
    (hok : NoTaskFails D env (some opt) outs) :
    ∃ outs', patchedOutbounds D P env (some opt) outs = .ok outs' ∧
      List.Forall₂ (Resolves D opt) outs outs' := by
  obtain ⟨outs', houts, hpatched⟩ := hok.isPointwise_of_nodup (P := P) h.tags
  exact ⟨outs', houts, forall₂_of_zipIdx (hpatched.imp fun i out hout => ⟨_, hout⟩)⟩

lemma forall₂_of_mem_left {α β : Type*} {R S : α → β → Prop} {l : List α} {u : List β}
    (h : List.Forall₂ R l u) (himp : ∀ a ∈ l, ∀ b, R a b → S a b) : List.Forall₂ S l u :=
  ((List.forall₂_and_left l u).mpr ⟨fun _ ha => ha, h⟩).imp fun a b hab => himp a hab.1 b hab.2

/-- The loop of the builder does the same for both. -/
lemma IsPlainList.collect_eq (h : IsPlainList outs) {opt o : ConfigOptions}
    (ho : SameIdentities opt o) {outs' : List Outbound}
    (hresolved : List.Forall₂ (Resolves D opt) outs outs') (draws : Nat → Draws) (i : Nat)
    (acc : Collected) : collect D o draws outs i acc = collect D o draws outs' i acc :=
  collect_congr (forall₂_of_mem_left hresolved fun base hbase _ hbase' =>
    hbase'.patchOutbound_eq ho (h.keys base hbase)) i acc

end List

/-! ### The two scans -/

/-- A custom WARP outbound with the second identity. -/
def UsesSecond (base : Outbound) : Prop :=
  (warpObject base).map (·.getString "key") = some "p2"

/-- The second identity looks like the first one to the scan. -/
def SecondLooksFirst (opt : ConfigOptions) : Prop :=
  opt.warp2.wireguardConfig.privateKey = opt.warp.wireguardConfig.privateKey ∨
    opt.warp2.wireguardConfig.privateKey = "p1"

lemma resolved_privateKey {opt : ConfigOptions} {draws : Draws} {warp : JObj} {config : Outbound}
    (hkey : warp.getString "key" = "p1" ∨ warp.getString "key" = "p2")
    (h : customWarpConfig D draws (some opt) warp = .ok (some config)) :
    config.wireGuardOptions.privateKey = (identityOf opt (warp.getString "key")).privateKey := by
  rw [customWarpConfig_of_key hkey] at h
  obtain ⟨out, hout, heq⟩ := Outcome.bind_eq_ok.mp h
  cases heq
  obtain ⟨_, _, _, -, -, -, rfl⟩ := generateWarpSingbox_eq_ok.mp hout
  rfl

lemma usesWarpKey_custom {opt : ConfigOptions} {base : Outbound} {warp : JObj}
    (hwarp : warpObject base = some warp) :
    usesWarpKey opt base = true ↔ warp.getString "key" = "p1" := by
  simp [usesWarpKey, hwarp, type_of_warpObject hwarp]

lemma usesWarpKey_resolveWarp {opt : ConfigOptions} {base config : Outbound} {detour : String} :
    usesWarpKey opt (resolveWarp base config detour) = true ↔
      config.wireGuardOptions.privateKey = opt.warp.wireguardConfig.privateKey ∨
        config.wireGuardOptions.privateKey = "p1" := by
  simp only [usesWarpKey, show warpObject (resolveWarp base config detour) = none from rfl,
    Bool.false_or, Bool.and_eq_true, Bool.or_eq_true, decide_eq_true_eq]
  exact and_iff_right rfl

/-- A resolved outbound shows its private key to the scan. -/
lemma Resolves.usesWarpKey_iff {opt : ConfigOptions} {base base' : Outbound}
    (hkey : registeredKey base = none) (h : Resolves D opt base base') :
    usesWarpKey opt base' = true ↔
      usesWarpKey opt base = true ∨ (UsesSecond base ∧ SecondLooksFirst opt) := by
  obtain ⟨draws, writes, h⟩ := h
  rcases patchWarp_resolved h with ⟨hnone, rfl⟩ | ⟨warp, config, hwarp, hconfig, rfl⟩
  · simp [UsesSecond, hnone]
  · have hkeys := key_of_registeredKey hkey hwarp
    have hprivate := resolved_privateKey hkeys hconfig
    rw [finishWarp_not_final, usesWarpKey_resolveWarp, usesWarpKey_custom hwarp, hprivate]
    rcases hkeys with hp | hp
    · simp [hp, identityOf]
    · simp [hp, identityOf, UsesSecond, hwarp, SecondLooksFirst]

lemma any_usesWarpKey_iff {opt : ConfigOptions} {outs outs' : List Outbound}
    (hkeys : ∀ base ∈ outs, registeredKey base = none)
    (h : List.Forall₂ (Resolves D opt) outs outs') :
    outs'.any (usesWarpKey opt) = true ↔
      outs.any (usesWarpKey opt) = true ∨
        ((∃ base ∈ outs, UsesSecond base) ∧ SecondLooksFirst opt) := by
  induction h with
  | nil => simp
  | @cons base base' outs outs' hbase _ ih =>
    obtain ⟨hkey, hkeys⟩ := List.forall_mem_cons.mp hkeys
    simp only [List.any_cons, Bool.or_eq_true, hbase.usesWarpKey_iff hkey, ih hkeys,
      List.exists_mem_cons_iff]
    tauto

/-- The scan depends on the answer for the whole list. -/
lemma scanWarp_congr {opt : ConfigOptions} {outs outs' : List Outbound}
    (h : outs.any (usesWarpKey opt) = outs'.any (usesWarpKey opt)) :
    scanWarp outs opt = scanWarp outs' opt := by
  simp only [scanWarp, h]

/-! ### The two builds -/

/-- `BuildConfig` on the outbounds that `patchConfig` leaves for it. -/
def buildAfter (D : Deps) (P : ParserDeps) (parse : ParseEnv) (env : BuildEnv)
    (configOpt : Option ConfigOptions) (opt : ConfigOptions) (input : Options) (g : Globals) :
    Outcome Options := do
  let outs ← patchedOutbounds D P parse configOpt input.outbounds
  outcomeOf (buildConfig D env opt { input with outbounds := outs } g).1

/-- Both routes fail, or both return one document. -/
def RoutesAgree (D : Deps) (P : ParserDeps) (parse : ParseEnv) (env : BuildEnv)
    (opt : ConfigOptions) (input : Options) (g : Globals) : Prop :=
  ∀ out, buildAfter D P parse env (some opt) opt input g = .ok out ↔
    buildAfter D P parse env none opt input g = .ok out

/-- The resolution does not change what the scan answers, or nothing comes of it. -/
def ScansAgree (opt : ConfigOptions) (outs : List Outbound) : Prop :=
  generatesWarp opt = false ∨ outs.any (usesWarpKey opt) = true ∨
    (∀ base ∈ outs, ¬ UsesSecond base) ∨ ¬ SecondLooksFirst opt

/-- Some outbound cannot be patched. -/
def CannotPatch (D : Deps) (env : BuildEnv) (opt : ConfigOptions) (outs : List Outbound) : Prop :=
  ∃ k out, outs[k]? = some out ∧ ¬ (patchOutbound D (env.outbound k) out opt).IsOk

/-- The options with WARP switched off by the scan. -/
def withoutWarp (opt : ConfigOptions) : ConfigOptions :=
  { opt with warp := { opt.warp with enableWarp := false } }

lemma patchOutbound_scanned (env : BuildEnv) (opt : ConfigOptions) (outs : List Outbound)
    (draws : Draws) (base : Outbound) :
    patchOutbound D draws base (scanWarp outs (withSecret env opt)) =
      patchOutbound D draws base opt := by
  simp only [scanWarp, withSecret]
  split_ifs <;> rfl

lemma sameIdentities_scanned (env : BuildEnv) (opt : ConfigOptions) (outs : List Outbound) :
    SameIdentities opt (scanWarp outs (withSecret env opt)) := by
  simp only [scanWarp, withSecret]
  split_ifs <;> exact ⟨rfl, rfl⟩

lemma collect_scanned_isOk (env : BuildEnv) (opt : ConfigOptions) (outs outs' : List Outbound)
    (acc : Collected) :
    (collect D (scanWarp outs' (withSecret env opt)) env.outbound outs 0 acc).IsOk ↔
      ¬ CannotPatch D env opt outs := by
  rw [collect_isOk, CannotPatch]
  push Not
  simp only [patchOutbound_scanned, Nat.zero_add]

lemma buildScanned_eq_ok {env : BuildEnv} {o : ConfigOptions} {outs : List Outbound}
    {options out : Options} :
    buildScanned D env o outs options = .ok out ↔
      ∃ warp acc, warpPart D env.warp o = .ok warp ∧
        collect D o env.outbound outs 0 { staticIPs := staticIPsOf options } = .ok acc ∧
        out = assembleOutbounds D env.keyOrder o warp acc options := by
  constructor
  · intro h
    obtain ⟨warp, hwarp, h⟩ := Outcome.bind_eq_ok.mp h
    obtain ⟨acc, hacc, h⟩ := Outcome.bind_eq_ok.mp h
    cases h
    exact ⟨warp, acc, hwarp, hacc, rfl⟩
  · rintro ⟨warp, acc, hwarp, hacc, rfl⟩
    rw [buildScanned, hwarp, Outcome.bind_ok, hacc]
    rfl

/-- Without a generated outbound the switch does nothing. -/
lemma buildScanned_withoutWarp {o : ConfigOptions} (hoff : generatesWarp o = false)
    (env : BuildEnv) (outs : List Outbound) (options : Options) :
    buildScanned D env (withoutWarp o) outs options = buildScanned D env o outs options := by
  have hoff' : generatesWarp (withoutWarp o) = false := rfl
  have hadd : Collected.add (withoutWarp o) = Collected.add o := by
    funext acc p
    simp only [Collected.add, patchHiddifyWarp_off hoff, patchHiddifyWarp_off hoff']
  have hcollect (i : Nat) (acc : Collected) : collect D (withoutWarp o) env.outbound outs i acc =
      collect D o env.outbound outs i acc := by
    induction outs generalizing i acc with
    | nil => rfl
    | cons out outs ih =>
      simp only [collect, hadd]
      exact congrArg _ (funext fun p => ih (i + 1) _)
  have hwarp : warpPart D env.warp (withoutWarp o) = warpPart D env.warp o := by
    simp only [warpPart, hoff, show generatesWarp (withoutWarp o) = false from rfl,
      Bool.false_eq_true, if_false]
  rw [buildScanned, buildScanned, hwarp, hcollect]
  rfl

lemma scanWarp_eq (o : ConfigOptions) (outs : List Outbound) :
    scanWarp outs o =
      if o.warp.enableWarp ∧ outs.any (usesWarpKey o) then withoutWarp o else o := rfl

/-- Without a generated outbound the scan does nothing either. -/
lemma buildScanned_scan_off {o : ConfigOptions} (hoff : generatesWarp o = false) (env : BuildEnv)
    (outs scanned : List Outbound) (options : Options) :
    buildScanned D env (scanWarp scanned o) outs options = buildScanned D env o outs options := by
  rw [scanWarp_eq]
  split_ifs
  · exact buildScanned_withoutWarp hoff env outs options
  · rfl

/-- One outbound more tells the two documents apart. -/
lemma buildScanned_length {env : BuildEnv} {o : ConfigOptions} {outs : List Outbound}
    {options out : Options} (h : buildScanned D env o outs options = .ok out) :
    ∃ warp ps, warpPart D env.warp o = .ok warp ∧ Patches D o env.outbound 0 outs ps ∧
      out.outbounds.length = 7 + warp.length + (keptOf ps).length := by
  obtain ⟨warp, acc, hwarp, hacc, rfl⟩ := buildScanned_eq_ok.mp h
  obtain ⟨ps, hps, rfl⟩ := collect_eq_ok.mp hacc
  refine ⟨warp, ps, hwarp, hps, ?_⟩
  rw [assembleOutbounds_outbounds, collected_outbounds]
  simp only [builtinOutbounds, List.length_append, List.length_cons, List.length_nil,
    List.length_map]
  omega

lemma Patches.withoutWarp_unique {o : ConfigOptions} {draws : Nat → Draws} {i : Nat}
    {outs : List Outbound} {ps ps' : List Patched} (h : Patches D o draws i outs ps)
    (h' : Patches D (withoutWarp o) draws i outs ps') : ps = ps' := by
  induction h generalizing ps' with
  | nil =>
    cases h'
    rfl
  | cons hp _ ih =>
    cases h' with
    | cons hp' h' =>
      have hhead := hp.symm.trans hp'
      rw [Outcome.ok.inj hhead, ih h']

/-- A build that generates no WARP outbound succeeds when all outbounds are patched. -/
lemma buildScanned_withoutWarp_ok {env : BuildEnv} {opt : ConfigOptions} {outs : List Outbound}
    (h : ¬ CannotPatch D env opt outs) (options : Options) :
    ∃ out, buildScanned D env (withoutWarp (withSecret env opt)) outs options = .ok out := by
  have hok : ¬ ∃ k out, outs[k]? = some out ∧
      ¬ (patchOutbound D (env.outbound k) out (withoutWarp (withSecret env opt))).IsOk := by
    intro hno
    obtain ⟨k, out, hk, hbad⟩ := hno
    refine h ⟨k, out, hk, ?_⟩
    rw [← withSecret_congr (patchOutbound D (env.outbound k) out) fun _ _ => rfl]
    exact hbad
  push Not at hok
  have hcollect : (collect D (withoutWarp (withSecret env opt)) env.outbound outs 0
      { staticIPs := staticIPsOf options }).IsOk :=
    collect_isOk.mpr fun k out hk => by
      rw [Nat.zero_add]
      exact hok k out hk
  obtain ⟨acc, hacc⟩ := hcollect.exists_eq
  exact ⟨_, buildScanned_eq_ok.mpr ⟨[], acc, rfl, hacc, rfl⟩⟩

/-- Switching the generated outbound off is seen in the document. -/
lemma buildScanned_ne_withoutWarp {env : BuildEnv} {o : ConfigOptions}
    (hon : generatesWarp o = true)
    {outs : List Outbound} {options out : Options}
    (h : buildScanned D env (withoutWarp o) outs options = .ok out) :
    buildScanned D env o outs options ≠ .ok out := by
  intro h'
  obtain ⟨warp, ps, hwarp, hps, hlength⟩ := buildScanned_length h
  obtain ⟨warp', ps', hwarp', hps', hlength'⟩ := buildScanned_length h'
  obtain rfl := hps'.withoutWarp_unique hps
  cases hwarp
  simp only [warpPart, hon, if_true] at hwarp'
  obtain ⟨raw, -, hwarp'⟩ := Outcome.bind_eq_ok.mp hwarp'
  obtain ⟨gen, -, hwarp'⟩ := Outcome.bind_eq_ok.mp hwarp'
  cases hwarp'
  rw [hlength] at hlength'
  simp only [List.length_nil, List.length_singleton] at hlength'
  omega

section Routes

variable {parse : ParseEnv} {env : BuildEnv} {opt : ConfigOptions} {input : Options} {g : Globals}

/-- The late route is the build over the outbounds as they are. -/
lemma IsPlainList.late_eq (h : IsPlainList input.outbounds) :
    buildAfter D P parse env none opt input g =
      buildScanned D env (scanWarp input.outbounds (withSecret env opt)) input.outbounds
        (prepared D env opt input g.outboundMainProxyTag) := by
  rw [buildAfter, h.patchedOutbounds_none, Outcome.bind_ok, outcomeOf_buildConfig]
  rfl

/-- The early route is the same build with the scan of the resolved outbounds. -/
lemma IsPlainList.early_eq (h : IsPlainList input.outbounds) {outs : List Outbound}
    (houts : patchedOutbounds D P parse (some opt) input.outbounds = .ok outs)
    (hresolved : List.Forall₂ (Resolves D opt) input.outbounds outs) :
    buildAfter D P parse env (some opt) opt input g =
      buildScanned D env (scanWarp outs (withSecret env opt)) input.outbounds
        (prepared D env opt input g.outboundMainProxyTag) := by
  rw [buildAfter, houts, Outcome.bind_ok, outcomeOf_buildConfig]
  show buildScanned D env (scanWarp outs (withSecret env opt)) outs
    (prepared D env opt input g.outboundMainProxyTag) = _
  rw [buildScanned, buildScanned, h.collect_eq (sameIdentities_scanned env opt outs) hresolved]

/-- An outbound that cannot be patched stops both routes. -/
lemma IsPlainList.routesAgree_of_cannotPatch (h : IsPlainList input.outbounds)
    (hbad : CannotPatch D env opt input.outbounds) : RoutesAgree D P parse env opt input g := by
  have hfail (o : List Outbound) (out options : Options) :
      buildScanned D env (scanWarp o (withSecret env opt)) input.outbounds options ≠ .ok out := by
    intro hout
    obtain ⟨_, acc, -, hacc, -⟩ := buildScanned_eq_ok.mp hout
    exact (collect_scanned_isOk env opt input.outbounds o _).mp (by rw [hacc]; trivial) hbad
  intro out
  rw [h.late_eq]
  refine iff_of_false (fun hearly => ?_) (hfail _ _ _)
  obtain ⟨outs, houts, -⟩ := Outcome.bind_eq_ok.mp hearly
  obtain ⟨outs', houts', hresolved⟩ :=
    h.patchedOutbounds_some (P := P) (noTaskFails_of_patchedOutbounds houts)
  rw [h.early_eq houts' hresolved] at hearly
  exact hfail _ _ _ hearly

/-- What the scans answer decides whether the routes agree. -/
theorem routesAgree_iff (h : IsPlainList input.outbounds) :
    RoutesAgree D P parse env opt input g ↔
      ScansAgree opt input.outbounds ∨ CannotPatch D env opt input.outbounds := by
  by_cases hbad : CannotPatch D env opt input.outbounds
  · exact iff_of_true (h.routesAgree_of_cannotPatch hbad) (Or.inr hbad)
  rw [or_iff_left hbad]
  have hok : NoTaskFails D parse (some opt) input.outbounds := by
    intro i hi
    have hget : input.outbounds[i.2]? = some i.1 := by
      have := List.mk_mem_zipIdx_iff_getElem?.mp hi
      exact this
    have hpatch : (patchOutbound D (env.outbound i.2) i.1 opt).IsOk := by
      by_contra hno
      exact hbad ⟨i.2, i.1, hget, hno⟩
    exact isOk_patchTask_of_patchOutbound ⟨rfl, rfl⟩ (h.keys _ (List.mem_of_getElem? hget)) hpatch
      i.2
  obtain ⟨outs, houts, hresolved⟩ := h.patchedOutbounds_some (P := P) hok
  have huses : usesWarpKey (withSecret env opt) = usesWarpKey opt :=
    withSecret_congr usesWarpKey (fun _ _ => rfl) env opt
  have hgenerates : generatesWarp (withSecret env opt) = generatesWarp opt :=
    withSecret_congr generatesWarp (fun _ _ => rfl) env opt
  have hany := any_usesWarpKey_iff h.keys hresolved
  simp only [RoutesAgree, h.late_eq, h.early_eq houts hresolved]
  constructor
  · intro hsame
    by_contra hdiffer
    simp only [ScansAgree, not_or, not_forall, not_not, Bool.not_eq_false] at hdiffer
    obtain ⟨hon, hlate, ⟨base, hbase, hsecond⟩, hlooks⟩ := hdiffer
    have hearly : outs.any (usesWarpKey opt) = true :=
      hany.mpr (Or.inr ⟨⟨base, hbase, hsecond⟩, hlooks⟩)
    rw [← hgenerates] at hon
    have henabled : (withSecret env opt).warp.enableWarp = true := by
      rw [generatesWarp, Bool.and_eq_true] at hon
      exact hon.1
    -- the early scan switches WARP off, and the late one does not
    have hscan : scanWarp outs (withSecret env opt) = withoutWarp (withSecret env opt) := by
      rw [scanWarp_eq, if_pos ⟨henabled, huses ▸ hearly⟩]
    have hscan' : scanWarp input.outbounds (withSecret env opt) = withSecret env opt := by
      rw [scanWarp_eq, if_neg fun hboth => hlate (huses ▸ hboth.2)]
    rw [hscan, hscan'] at hsame
    obtain ⟨out, hout⟩ := buildScanned_withoutWarp_ok hbad
      (prepared D env opt input g.outboundMainProxyTag)
    exact buildScanned_ne_withoutWarp hon hout ((hsame out).mp hout)
  · rintro (hoff | hagree) out
    · rw [← hgenerates] at hoff
      rw [buildScanned_scan_off hoff, buildScanned_scan_off hoff]
    · have hsame : outs.any (usesWarpKey opt) = input.outbounds.any (usesWarpKey opt) := by
        rw [Bool.eq_iff_iff, hany]
        rcases hagree with hlate | hnone | hlooks
        · simp [hlate]
        · refine or_iff_left fun hboth => ?_
          obtain ⟨⟨base, hbase, hsecond⟩, -⟩ := hboth
          exact hnone base hbase hsecond
        · exact or_iff_left fun hboth => hlooks hboth.2
      have hscan : scanWarp outs (withSecret env opt) =
          scanWarp input.outbounds (withSecret env opt) := by
        apply scanWarp_congr
        rw [huses, hsame]
      rw [hscan]

end Routes

/-- One custom WARP outbound with a key of the options. -/
def keyedInput (key : String) : Options where
  outbounds := [
    { type := .custom, tag := "w", customOptions := [("warp", .obj [("key", .str key)])] }]

def keyedIdentity : WarpWireguardConfig := { Reference.dualStack with privateKey := "key" }

/-- WARP is on, and the two identities are one. -/
def oneIdentity : ConfigOptions where
  warp := { enableWarp := true, mode := "proxy_over_warp", wireguardConfig := keyedIdentity }
  warp2 := { wireguardConfig := keyedIdentity }

lemma keyedInput_isPlainList {key : String} (h : key = "p1" ∨ key = "p2") :
    IsPlainList (keyedInput key).outbounds where
  tags := List.nodup_singleton _
  keys base hbase := by
    rw [List.mem_singleton.mp hbase]
    rcases h with rfl | rfl <;> decide

theorem routesAgree_p1 :
    RoutesAgree Codec.deps ParserReference.deps {} {} oneIdentity (keyedInput "p1") {} :=
  (routesAgree_iff (keyedInput_isPlainList (Or.inl rfl))).mpr (Or.inl (Or.inr (Or.inl (by decide))))

/-- How many outbounds the document has. -/
def outboundCount : Outcome Options → Nat
  | .ok out => out.outbounds.length
  | _ => 0

/-- The late route generates a WARP outbound that the early one does not. -/
theorem not_routesAgree :
    ¬ ∀ (D : Deps) (P : ParserDeps) (parse : ParseEnv) (env : BuildEnv) (opt : ConfigOptions)
      (input : Options) (g : Globals), IsPlainList input.outbounds →
        RoutesAgree D P parse env opt input g := by
  intro h
  have hagree := h Codec.deps ParserReference.deps {} {} oneIdentity (keyedInput "p2") {}
    (keyedInput_isPlainList (Or.inr rfl))
  have hok : (buildAfter Codec.deps ParserReference.deps {} {} none oneIdentity (keyedInput "p2")
    {}).IsOk := by decide
  obtain ⟨out, hout⟩ := hok.exists_eq
  have hlate : outboundCount (buildAfter Codec.deps ParserReference.deps {} {} none oneIdentity
    (keyedInput "p2") {}) = 9 := by decide
  have hearly : outboundCount (buildAfter Codec.deps ParserReference.deps {} {} (some oneIdentity)
    oneIdentity (keyedInput "p2") {}) = 8 := by decide
  rw [hout] at hlate
  rw [(hagree out).mpr hout] at hearly
  exact absurd (hlate.symm.trans hearly) (by decide)

end HiddifyCore.Config
