import HiddifyCore.GoLib.Batch
import HiddifyCore.Config.Parser
import HiddifyCore.Config.WarpRecord

/-!
# The batch of the parser

`patchConfig` resolves the outbounds in a batch whose keys are their tags, and then takes for each
outbound the result under its tag. Tasks with one tag share that result.
-/

namespace HiddifyCore.Config

open GoLib Singbox

variable {D : Deps} {P : ParserDeps}

section Batch

variable {env : ParseEnv} {configOpt : Option ConfigOptions}

/-- The list part of `patchConfig`. -/
def patchedOutbounds (D : Deps) (P : ParserDeps) (env : ParseEnv)
    (configOpt : Option ConfigOptions) (outbounds : List Outbound) : Outcome (List Outbound) := do
  let res ← waitAndGetResult P (completedTasks D env configOpt outbounds)
  takeResults res outbounds

lemma patchConfig_eq (content name : String) :
    patchConfig D P env content name configOpt = (do
      let options ← (P.unmarshalOptions content).mapErr ("[SingboxParser] unmarshal error: " ++ ·)
      let outbounds ← patchedOutbounds D P env configOpt options.outbounds
      let content ← contentOf (P.marshalOptions { options with outbounds := outbounds })
      validateResult P content name) := by
  simp only [patchConfig, patchedOutbounds]
  cases (P.unmarshalOptions content).mapErr ("[SingboxParser] unmarshal error: " ++ ·) with
  | fail e => rfl
  | panic e => rfl
  | ok options =>
    rw [Outcome.bind_ok, Outcome.bind_ok]
    cases waitAndGetResult P (completedTasks D env configOpt options.outbounds) <;> rfl

/-! ### The results -/

/-- A result of the batch is one of a task. -/
lemma of_mem_waitAndGetResult {tasks : List (String × Outcome Outbound)}
    {res : List (String × Outbound)} (h : waitAndGetResult P tasks = .ok res) :
    ∀ kv ∈ res, (kv.1, Outcome.ok kv.2) ∈ tasks := by
  induction tasks generalizing res with
  | nil =>
    cases h
    simp
  | cons task tasks ih =>
    obtain ⟨key, result⟩ := task
    cases result with
    | panic e => cases h
    | fail e =>
      simp only [waitAndGetResult] at h
      cases hrest : waitAndGetResult P tasks <;> simp [hrest] at h
    | ok out =>
      simp only [waitAndGetResult] at h
      cases hrest : waitAndGetResult P tasks with
      | fail e => simp [hrest] at h
      | panic e => simp [hrest] at h
      | ok res' =>
        simp only [hrest, Outcome.ok.injEq] at h
        subst h
        intro kv hkv
        rcases List.mem_append.mp hkv with hkv | hkv
        · exact List.mem_cons_of_mem _ (ih hrest kv hkv)
        · rw [List.mem_singleton.mp hkv]
          exact List.mem_cons_self

/-- One task that fails is enough for the batch to fail. -/
lemma isOk_of_waitAndGetResult {tasks : List (String × Outcome Outbound)}
    {res : List (String × Outbound)} (h : waitAndGetResult P tasks = .ok res) :
    ∀ task ∈ tasks, task.2.IsOk := by
  induction tasks generalizing res with
  | nil => simp
  | cons task tasks ih =>
    obtain ⟨key, result⟩ := task
    simp only [waitAndGetResult] at h
    cases result <;> cases hrest : waitAndGetResult P tasks <;> simp [hrest] at h
    simpa using ih hrest

lemma waitAndGetResult_ok (res : List (String × Outbound)) :
    waitAndGetResult P (res.map fun kv => (kv.1, .ok kv.2)) = .ok res.reverse := by
  induction res with
  | nil => rfl
  | cons kv res ih => simp [waitAndGetResult, ih]

lemma takeResults_eq_ok {res : List (String × Outbound)} {outs outs' : List Outbound} :
    takeResults res outs = .ok outs' ↔
      List.Forall₂ (fun base out => res.lookup base.tag = some out) outs outs' := by
  induction outs generalizing outs' with
  | nil =>
    rw [List.forall₂_nil_left_iff]
    constructor
    · intro h
      cases h
      rfl
    · rintro rfl
      rfl
  | cons base outs ih =>
    rw [List.forall₂_cons_left_iff]
    simp only [takeResults]
    cases hlookup : res.lookup base.tag with
    | none => simp
    | some out =>
      constructor
      · intro h
        obtain ⟨outs'', houts, h⟩ := Outcome.bind_eq_ok.mp h
        cases h
        exact ⟨out, outs'', rfl, ih.mp houts, rfl⟩
      · rintro ⟨out', outs'', hout, houts, rfl⟩
        cases hout
        rw [ih.mpr houts]
        rfl

/-- The tasks in the order of their outbounds. -/
def tasksOf (D : Deps) (env : ParseEnv) (configOpt : Option ConfigOptions)
    (outbounds : List Outbound) : List (String × Outcome Outbound) :=
  outbounds.zipIdx.map fun i => (i.1.tag, patchTask D env configOpt i.2 i.1)

lemma completedTasks_eq (outbounds : List Outbound) :
    completedTasks D env configOpt outbounds =
      Batch.completed (env.completion outbounds.length) (tasksOf D env configOpt outbounds) := by
  refine List.filterMap_congr fun i _ => ?_
  simp only [tasksOf, List.getElem?_map, List.getElem?_zipIdx, Option.map_map,
    Function.comp_def, Nat.zero_add]

def NoTaskFails (D : Deps) (env : ParseEnv) (configOpt : Option ConfigOptions)
    (outbounds : List Outbound) : Prop :=
  ∀ i ∈ outbounds.zipIdx, (patchTask D env configOpt i.2 i.1).IsOk

/-- The outbound at each position is the one that `patchWarp` makes of the one there. -/
def IsPointwise (D : Deps) (P : ParserDeps) (env : ParseEnv) (configOpt : Option ConfigOptions)
    (outbounds : List Outbound) : Prop :=
  ∃ outs, patchedOutbounds D P env configOpt outbounds = .ok outs ∧
    List.Forall₂ (fun i out => ∃ writes,
      patchWarp D (env.draws i.2) i.1 configOpt false = .ok (out, writes)) outbounds.zipIdx outs

lemma patchTask_eq_ok {i : Nat} {base out : Outbound} :
    patchTask D env configOpt i base = .ok out ↔
      ∃ writes, patchWarp D (env.draws i) base configOpt false = .ok (out, writes) := by
  rw [patchTask, Outcome.mapErr_eq_ok]
  constructor
  · intro h
    obtain ⟨⟨out', writes⟩, hpatch, hout⟩ := Outcome.bind_eq_ok.mp h
    cases hout
    exact ⟨writes, hpatch⟩
  · rintro ⟨writes, hpatch⟩
    rw [hpatch]
    rfl

/-- What the task at a position makes of the outbound there. -/
def taskResult (D : Deps) (env : ParseEnv) (configOpt : Option ConfigOptions)
    (i : Outbound × Nat) : Outbound :=
  match patchTask D env configOpt i.2 i.1 with
  | .ok out => out
  | _ => i.1

lemma taskResult_of_ok {i : Outbound × Nat} {out : Outbound}
    (h : patchTask D env configOpt i.2 i.1 = .ok out) : taskResult D env configOpt i = out := by
  rw [taskResult, h]

lemma NoTaskFails.patchTask_eq {outbounds : List Outbound}
    (h : NoTaskFails D env configOpt outbounds) {i : Outbound × Nat}
    (hi : i ∈ outbounds.zipIdx) :
    patchTask D env configOpt i.2 i.1 = .ok (taskResult D env configOpt i) := by
  obtain ⟨out, hout⟩ := (h i hi).exists_eq
  rw [taskResult_of_ok hout, hout]

/-- A batch that succeeds had no task that fails. -/
lemma noTaskFails_of_patchedOutbounds {outbounds outs : List Outbound}
    (h : patchedOutbounds D P env configOpt outbounds = .ok outs) :
    NoTaskFails D env configOpt outbounds := by
  obtain ⟨res, hres, -⟩ := Outcome.bind_eq_ok.mp h
  rw [completedTasks_eq] at hres
  have hperm : (env.completion outbounds.length).Perm
      (List.range (tasksOf D env configOpt outbounds).length) := by
    rw [tasksOf, List.length_map, List.length_zipIdx]
    exact env.perm _
  intro i hi
  exact isOk_of_waitAndGetResult hres _
    ((Batch.mem_completed hperm).mpr (List.mem_map_of_mem (f := fun i : Outbound × Nat =>
      (i.1.tag, patchTask D env configOpt i.2 i.1)) hi))

/-- The results of the tasks, each under the tag of its outbound. -/
def resultsOf (D : Deps) (env : ParseEnv) (configOpt : Option ConfigOptions)
    (outbounds : List Outbound) : List (String × Outbound) :=
  outbounds.zipIdx.map fun i => (i.1.tag, taskResult D env configOpt i)

/-- A batch in which no task fails looks every tag up in the map of its results. -/
lemma NoTaskFails.patchedOutbounds_eq_ok {outbounds outs : List Outbound}
    (h : NoTaskFails D env configOpt outbounds) :
    patchedOutbounds D P env configOpt outbounds = .ok outs ↔
      List.Forall₂ (fun base out => Batch.resultOf (env.completion outbounds.length)
        (resultsOf D env configOpt outbounds) base.tag = some out) outbounds outs := by
  have htasks : tasksOf D env configOpt outbounds =
      (resultsOf D env configOpt outbounds).map (Prod.map id .ok) := by
    rw [tasksOf, resultsOf, List.map_map]
    exact List.map_congr_left fun i hi => by rw [h.patchTask_eq hi]; rfl
  rw [patchedOutbounds, completedTasks_eq, htasks, Batch.completed_map,
    show Prod.map id Outcome.ok = fun kv : String × Outbound => (kv.1, .ok kv.2) from rfl,
    waitAndGetResult_ok, Outcome.bind_ok, takeResults_eq_ok]
  rfl

/-- Tags and positions, side by side. -/
lemma forall₂_tag_iff {R : String → Outbound → Prop} {f : Outbound × Nat → Outbound}
    {outbounds : List Outbound} :
    List.Forall₂ (fun base out => R base.tag out) outbounds (outbounds.zipIdx.map f) ↔
      ∀ i ∈ outbounds.zipIdx, R i.1.tag (f i) := by
  have htags : outbounds.map Outbound.tag = outbounds.zipIdx.map fun i => i.1.tag := by
    conv_lhs => rw [← List.zipIdx_map_fst 0 outbounds, List.map_map]
    rfl
  rw [← List.forall₂_map_left_iff (f := Outbound.tag), htags, List.forall₂_map_left_iff,
    List.forall₂_map_right_iff, List.forall₂_same]

/-- The batch is pointwise exactly when the tasks with one tag have one result. -/
lemma NoTaskFails.isPointwise_iff_agree {outbounds : List Outbound}
    (h : NoTaskFails D env configOpt outbounds) :
    IsPointwise D P env configOpt outbounds ↔
      Batch.Agree (resultsOf D env configOpt outbounds) := by
  have hperm : (env.completion outbounds.length).Perm
      (List.range (resultsOf D env configOpt outbounds).length) := by
    rw [resultsOf, List.length_map, List.length_zipIdx]
    exact env.perm _
  have hown : patchedOutbounds D P env configOpt outbounds =
      .ok (outbounds.zipIdx.map (taskResult D env configOpt)) ↔
        Batch.Agree (resultsOf D env configOpt outbounds) := by
    rw [← Batch.resultOf_eq_iff hperm, h.patchedOutbounds_eq_ok]
    refine (forall₂_tag_iff (R := fun tag out => Batch.resultOf _ _ tag = some out)).trans ?_
    conv_rhs => rw [resultsOf, List.forall_mem_map]
    rfl
  rw [← hown]
  constructor
  · rintro ⟨outs, houts, hpatched⟩
    have hresults : List.Forall₂ (fun i out => taskResult D env configOpt i = out)
        outbounds.zipIdx outs :=
      hpatched.imp fun i out hout => taskResult_of_ok (patchTask_eq_ok.mpr hout)
    rw [← List.forall₂_map_left_iff (R := (· = ·)), List.forall₂_eq_eq_eq] at hresults
    rw [houts, hresults]
  · intro houts
    refine ⟨_, houts, ?_⟩
    rw [List.forall₂_map_right_iff, List.forall₂_same]
    exact fun i hi => patchTask_eq_ok.mp (h.patchTask_eq hi)

end Batch

/-! ### Outbounds with one result -/

/-- What sing-box documents about a decoded outbound: only the record of its own type is filled. -/
structure IsDecoded (base : Outbound) : Prop where
  custom : base.type = .custom → base.wireGuardOptions = {}
  wireguard : base.type = .wireguard → base.customOptions = []

/-- The key with which a custom WARP outbound is registered. -/
def registeredKey (base : Outbound) : Option String :=
  (warpObject base).bind fun warp =>
    let key := warp.getString "key"
    if key = "p1" ∨ key = "p2" then none else some key

/-- Two identities from which the same records are generated. -/
structure SameIdentity (D : Deps) (wgConfig wgConfig' : WarpWireguardConfig) : Prop where
  privateKey : wgConfig.privateKey = wgConfig'.privateKey
  peerPublicKey : wgConfig.peerPublicKey = wgConfig'.peerPublicKey
  reserved : reservedBytes (D.decodeBase64 wgConfig.clientID) =
    reservedBytes (D.decodeBase64 wgConfig'.clientID)
  ipv4 : D.parsePrefix (wgConfig.localAddressIPv4 ++ "/24") =
    D.parsePrefix (wgConfig'.localAddressIPv4 ++ "/24")
  ipv6 : D.parsePrefix (wgConfig.localAddressIPv6 ++ "/128") =
    D.parsePrefix (wgConfig'.localAddressIPv6 ++ "/128")

/-- The two registrations of an outbound, if it is registered, gave one identity. -/
def SameRegistration (D : Deps) (draws draws' : Draws) (base : Outbound) : Prop :=
  ∀ key, registeredKey base = some key → ∀ wgConfig wgConfig',
    draws.generateWarpInfo key = .ok wgConfig → draws'.generateWarpInfo key = .ok wgConfig' →
      SameIdentity D wgConfig wgConfig'

/-- Outbounds with one tag are the same, and so are their registrations. -/
def TagsAgree (D : Deps) (env : ParseEnv) (outbounds : List Outbound) : Prop :=
  ∀ i ∈ outbounds.zipIdx, ∀ j ∈ outbounds.zipIdx, i.1.tag = j.1.tag →
    i.1 = j.1 ∧ SameRegistration D (env.draws i.2) (env.draws j.2) i.1

lemma SameIdentity.generateWarpSingbox_eq {wgConfig wgConfig' : WarpWireguardConfig}
    (h : SameIdentity D wgConfig wgConfig') (host : String) (port : UInt16) (fake : FakePackets) :
    generateWarpSingbox D wgConfig host port fake =
      generateWarpSingbox D wgConfig' host port fake := by
  simp only [Config.generateWarpSingbox_eq, h.reserved, h.ipv4, h.ipv6, warpRecord, h.privateKey,
    h.peerPublicKey]

/-- The records tell the identities apart. -/
lemma SameIdentity.of_records {wgConfig wgConfig' : WarpWireguardConfig} {host host' : String}
    {port port' : UInt16} {fake fake' : FakePackets} {out out' : Outbound} {detour : String}
    (h : generateWarpSingbox D wgConfig host port fake = .ok out)
    (h' : generateWarpSingbox D wgConfig' host' port' fake' = .ok out')
    (heq : { out.wireGuardOptions with detour := detour } =
      { out'.wireGuardOptions with detour := detour }) : SameIdentity D wgConfig wgConfig' := by
  obtain ⟨reserved, p4, p6, hreserved, hp4, hp6, rfl⟩ := generateWarpSingbox_eq_ok.mp h
  obtain ⟨reserved', p4', p6', hreserved', hp4', hp6', rfl⟩ := generateWarpSingbox_eq_ok.mp h'
  simp only [warpRecord, WireGuardOutboundOptions.mk.injEq, List.cons.injEq, and_true] at heq
  obtain ⟨-, ⟨rfl, rfl⟩, hprivate, hpeer, rfl, -⟩ := heq
  exact {
    privateKey := hprivate
    peerPublicKey := hpeer
    reserved := hreserved.trans hreserved'.symm
    ipv4 := hp4.trans hp4'.symm
    ipv6 := hp6.trans hp6'.symm }

lemma registeredKey_eq_some {base : Outbound} {key : String} :
    registeredKey base = some key ↔
      ∃ warp, warpObject base = some warp ∧ warp.getString "key" = key ∧ key ≠ "p1" ∧
        key ≠ "p2" := by
  simp only [registeredKey, Option.bind_eq_some_iff, ite_eq_iff, reduceCtorEq, and_false, false_or,
    Option.some.injEq, not_or]
  constructor
  · rintro ⟨warp, hwarp, hkey, rfl⟩
    exact ⟨warp, hwarp, rfl, hkey⟩
  · rintro ⟨warp, hwarp, rfl, hkey⟩
    exact ⟨warp, hwarp, hkey, rfl⟩

/-- Any other key is registered. -/
lemma customWarpConfig_registered {draws : Draws} {configOpt : Option ConfigOptions} {warp : JObj}
    (hp1 : warp.getString "key" ≠ "p1") (hp2 : warp.getString "key" ≠ "p2") :
    customWarpConfig D draws configOpt warp =
      some <$> generateWarp D draws (warp.getString "key") (warp.getString "host") 0
        (warpFake warp) := by
  cases configOpt <;> simp [customWarpConfig, hp1, hp2]

lemma customWarpConfig_info {draws : Draws} {configOpt : Option ConfigOptions} {warp : JObj}
    {config : Option Outbound} (hp1 : warp.getString "key" ≠ "p1")
    (hp2 : warp.getString "key" ≠ "p2")
    (h : customWarpConfig D draws configOpt warp = .ok config) :
    ∃ wgConfig out, draws.generateWarpInfo (warp.getString "key") = .ok wgConfig ∧
      generateWarpSingbox D wgConfig (warp.getString "host") 0 (warpFake warp) = .ok out ∧
      config = some out := by
  rw [customWarpConfig_registered hp1 hp2] at h
  obtain ⟨out, hout, hconfig⟩ := Outcome.bind_eq_ok.mp h
  cases hconfig
  obtain ⟨wgConfig, hinfo, hout⟩ := Outcome.bind_eq_ok.mp hout
  exact ⟨wgConfig, out, hinfo, hout, rfl⟩

/-- The keys of the options draw nothing. -/
lemma customWarpConfig_draws {draws draws' : Draws} {configOpt : Option ConfigOptions}
    {warp : JObj} (h : warp.getString "key" = "p1" ∨ warp.getString "key" = "p2") :
    customWarpConfig D draws configOpt warp = customWarpConfig D draws' configOpt warp := by
  cases configOpt <;> rcases h with h | h <;> simp [customWarpConfig, h]

/-- What the task of the parser makes of an outbound: nothing new, or a WireGuard outbound. -/
lemma patchWarp_early {draws : Draws} {configOpt : Option ConfigOptions} {base out : Outbound}
    {writes : List StaticIP} (h : patchWarp D draws base configOpt false = .ok (out, writes)) :
    (out = base ∧ registeredKey base = none) ∨
      ∃ warp config, warpObject base = some warp ∧
        customWarpConfig D draws configOpt warp = .ok (some config) ∧
        out = resolveWarp base config (warp.getString "detour") := by
  cases hwarp : warpObject base with
  | none =>
    simp only [patchWarp, hwarp, finishWarp_not_final] at h
    cases h
    exact Or.inl ⟨rfl, by simp [registeredKey, hwarp]⟩
  | some warp =>
    simp only [patchWarp, hwarp, finishWarp_not_final] at h
    obtain ⟨config, hconfig, h⟩ := Outcome.bind_eq_ok.mp h
    cases config with
    | some config =>
      cases h
      exact Or.inr ⟨warp, config, rfl, hconfig, rfl⟩
    | none =>
      cases h
      refine Or.inl ⟨rfl, ?_⟩
      by_contra hkey
      obtain ⟨key, hkey⟩ := Option.ne_none_iff_exists'.mp hkey
      obtain ⟨warp', hwarp', rfl, hp1, hp2⟩ := registeredKey_eq_some.mp hkey
      obtain rfl := Option.some.inj (hwarp.symm.trans hwarp')
      rw [customWarpConfig_registered hp1 hp2] at hconfig
      obtain ⟨_, -, hnone⟩ := Outcome.bind_eq_ok.mp hconfig
      cases hnone

/-- The task answers the same for one outbound when the service does. -/
lemma SameRegistration.patchWarp_eq {draws draws' : Draws} {configOpt : Option ConfigOptions}
    {base out out' : Outbound} {writes writes' : List StaticIP}
    (hsame : SameRegistration D draws draws' base)
    (h : patchWarp D draws base configOpt false = .ok (out, writes))
    (h' : patchWarp D draws' base configOpt false = .ok (out', writes')) : out = out' := by
  cases hwarp : warpObject base with
  | none =>
    simp only [patchWarp, hwarp] at h h'
    cases h
    cases h'
    rfl
  | some warp =>
    simp only [patchWarp, hwarp] at h h'
    obtain ⟨config, hconfig, h⟩ := Outcome.bind_eq_ok.mp h
    obtain ⟨config', hconfig', h'⟩ := Outcome.bind_eq_ok.mp h'
    have heq : config = config' := by
      by_cases hkey : warp.getString "key" = "p1" ∨ warp.getString "key" = "p2"
      · exact Outcome.ok.inj
          (hconfig.symm.trans ((customWarpConfig_draws hkey).trans hconfig'))
      · obtain ⟨hp1, hp2⟩ := not_or.mp hkey
        obtain ⟨wgConfig, gen, hinfo, hgen, rfl⟩ := customWarpConfig_info hp1 hp2 hconfig
        obtain ⟨wgConfig', gen', hinfo', hgen', rfl⟩ := customWarpConfig_info hp1 hp2 hconfig'
        have hid := hsame _ (registeredKey_eq_some.mpr ⟨warp, hwarp, rfl, hp1, hp2⟩) _ _ hinfo
          hinfo'
        rw [hid.generateWarpSingbox_eq] at hgen
        rw [Outcome.ok.inj (hgen.symm.trans hgen')]
    rw [heq] at h
    cases h.symm.trans h'
    rfl

/-- A custom outbound, read off what it was resolved to. -/
lemma resolveWarp_restore {base : Outbound} (hcustom : base.type = .custom)
    (hempty : base.wireGuardOptions = {}) (config : Outbound) (detour : String) :
    { resolveWarp base config detour with type := .custom, wireGuardOptions := {} } = base := by
  cases base
  cases hcustom
  cases hempty
  rfl

lemma type_of_warpObject {base : Outbound} {warp : JObj} (h : warpObject base = some warp) :
    base.type = .custom := by
  by_contra hne
  simp [warpObject, hne] at h

lemma customOptions_of_warpObject {base : Outbound} {warp : JObj}
    (h : warpObject base = some warp) : base.customOptions ≠ [] := by
  intro hempty
  simp [warpObject, hempty, JObj.get?] at h

/-- An outbound that stays is not what another one was resolved to. -/
lemma resolveWarp_ne_decoded {base base' config : Outbound} {warp : JObj} {detour : String}
    (hbase' : IsDecoded base') (hwarp : warpObject base = some warp) :
    resolveWarp base config detour ≠ base' := by
  rintro rfl
  exact customOptions_of_warpObject hwarp (hbase'.wireguard rfl)

/-- Two tasks with one result had one outbound, and one identity if it was registered. -/
lemma IsDecoded.eq_of_patchWarp_eq {draws draws' : Draws} {configOpt : Option ConfigOptions}
    {base base' out : Outbound} {writes writes' : List StaticIP} (hbase : IsDecoded base)
    (hbase' : IsDecoded base') (h : patchWarp D draws base configOpt false = .ok (out, writes))
    (h' : patchWarp D draws' base' configOpt false = .ok (out, writes')) :
    base = base' ∧ SameRegistration D draws draws' base := by
  rcases patchWarp_early h with ⟨rfl, hkey⟩ | ⟨warp, config, hwarp, hconfig, hout⟩ <;>
    rcases patchWarp_early h' with ⟨hout', hkey'⟩ | ⟨warp', config', hwarp', hconfig', hout'⟩
  · refine ⟨hout', fun key hregistered => ?_⟩
    rw [hkey] at hregistered
    cases hregistered
  · exact absurd hout'.symm (resolveWarp_ne_decoded hbase hwarp')
  · exact absurd (hout.symm.trans hout') (resolveWarp_ne_decoded hbase' hwarp)
  · have hresolved := hout.symm.trans hout'
    have hcustom := type_of_warpObject hwarp
    have hcustom' := type_of_warpObject hwarp'
    obtain rfl : base = base' := by
      rw [← resolveWarp_restore hcustom (hbase.custom hcustom) config, hresolved,
        resolveWarp_restore hcustom' (hbase'.custom hcustom')]
    obtain rfl := Option.some.inj (hwarp.symm.trans hwarp')
    refine ⟨rfl, fun key hregistered wgConfig wgConfig' hinfo hinfo' => ?_⟩
    obtain ⟨warp', hwarp', rfl, hp1, hp2⟩ := registeredKey_eq_some.mp hregistered
    obtain rfl := Option.some.inj (hwarp.symm.trans hwarp')
    obtain ⟨_, gen, hinfo₁, hgen, heq⟩ := customWarpConfig_info hp1 hp2 hconfig
    obtain ⟨_, gen', hinfo₁', hgen', heq'⟩ := customWarpConfig_info hp1 hp2 hconfig'
    cases heq
    cases heq'
    obtain rfl := Outcome.ok.inj (hinfo.symm.trans hinfo₁)
    obtain rfl := Outcome.ok.inj (hinfo'.symm.trans hinfo₁')
    exact .of_records hgen hgen' (congrArg Outbound.wireGuardOptions hresolved)

/-- The batch of a parsed document is pointwise, whatever the order in which its tasks complete,
exactly when outbounds with one tag are the same and registered with one result. -/
theorem isPointwise_iff {env : ParseEnv} {configOpt : Option ConfigOptions}
    {outbounds : List Outbound} (hdecoded : ∀ base ∈ outbounds, IsDecoded base)
    (hok : NoTaskFails D env configOpt outbounds) :
    IsPointwise D P env configOpt outbounds ↔ TagsAgree D env outbounds := by
  have hpatch (i : Outbound × Nat) (hi : i ∈ outbounds.zipIdx) :=
    patchTask_eq_ok.mp (hok.patchTask_eq hi)
  rw [hok.isPointwise_iff_agree]
  simp only [Batch.Agree, resultsOf, List.forall_mem_map]
  refine forall₂_congr fun i hi => forall₂_congr fun j hj => forall_congr' fun htag => ?_
  obtain ⟨writes, hpi⟩ := hpatch i hi
  obtain ⟨writes', hpj⟩ := hpatch j hj
  constructor
  · intro heq
    rw [← heq] at hpj
    exact (hdecoded _ (List.fst_mem_of_mem_zipIdx hi)).eq_of_patchWarp_eq
      (hdecoded _ (List.fst_mem_of_mem_zipIdx hj)) hpi hpj
  · rintro ⟨heq, hsame⟩
    rw [← heq] at hpj
    exact hsame.patchWarp_eq hpi hpj

namespace ParserReference

/-- Two proxies with these tags. -/
def proxies (tag tag' : String) : List Outbound := [
  { type := .socks, tag := tag, socksOptions := { server := "one.example" } },
  { type := .socks, tag := tag', socksOptions := { server := "two.example" } }]

lemma proxies_isDecoded (tag tag' : String) : ∀ base ∈ proxies tag tag', IsDecoded base := by
  simp only [proxies, List.forall_mem_cons, List.not_mem_nil, false_imp_iff, forall_true_iff,
    and_true]
  exact ⟨⟨fun _ => rfl, fun _ => rfl⟩, ⟨fun _ => rfl, fun _ => rfl⟩⟩

lemma proxies_noTaskFails (tag tag' : String) :
    NoTaskFails Reference.deps {} none (proxies tag tag') := by
  simp only [NoTaskFails, proxies, List.zipIdx_cons, List.zipIdx_nil, List.forall_mem_cons,
    List.not_mem_nil, false_imp_iff, forall_true_iff, and_true]
  exact ⟨trivial, trivial⟩

end ParserReference

open ParserReference in
theorem proxies_isPointwise :
    IsPointwise Reference.deps ParserReference.deps {} none (proxies "a" "b") := by
  refine (isPointwise_iff (proxies_isDecoded "a" "b") (proxies_noTaskFails "a" "b")).mpr ?_
  have hnone : ∀ i ∈ (proxies "a" "b").zipIdx, registeredKey i.1 = none := by decide
  intro i hi j hj htag
  have heq : i = j := by
    simp only [proxies, List.zipIdx_cons, List.zipIdx_nil, List.mem_cons, List.not_mem_nil,
      or_false] at hi hj
    rcases hi with rfl | rfl <;> rcases hj with rfl | rfl <;>
      first | rfl | exact absurd htag (by decide)
  subst heq
  refine ⟨rfl, fun key hkey => ?_⟩
  rw [hnone i hi] at hkey
  cases hkey

open ParserReference in
/-- Of two proxies with one tag the second replaces the first. -/
theorem not_isPointwise :
    ¬ ∀ (D : Deps) (P : ParserDeps) (env : ParseEnv) (configOpt : Option ConfigOptions)
      (outbounds : List Outbound), (∀ base ∈ outbounds, IsDecoded base) →
        NoTaskFails D env configOpt outbounds → IsPointwise D P env configOpt outbounds := by
  intro h
  have hok := proxies_noTaskFails "a" "a"
  have hagree := hok.isPointwise_iff_agree.mp (h _ ParserReference.deps _ _ _
    (proxies_isDecoded "a" "a") hok)
  have hsame := hagree _ List.mem_cons_self _ (List.mem_cons_of_mem _ List.mem_cons_self) rfl
  exact absurd (congrArg (·.socksOptions.server) hsame) (by decide)

end HiddifyCore.Config
