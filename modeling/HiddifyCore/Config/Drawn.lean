import HiddifyCore.Config.Rebuild
import HiddifyCore.Config.Settled

/-!
# What is drawn for an outbound

The converse of `Config.Settled`: the port and the server that a call draws are found in the
document it returns, at the place of the outbound they are drawn for.
-/

namespace HiddifyCore.Config

open GoLib Singbox

/-- The server and the port of a WireGuard outbound. -/
def wireGuardServer (out : Outbound) : Option (String × UInt16) :=
  if out.type = .wireguard then
    some (out.wireGuardOptions.server, out.wireGuardOptions.serverPort)
  else none

/-- What sing-box documents about the address of a WireGuard outbound: it is read from the keys of
these names. -/
structure WireGuardAddressed (D : Deps) : Prop where
  server_of_key {o o' : Outbound} {m m' : JObj} (h : D.marshalOutbound o = .ok m)
    (h' : D.unmarshalOutbound m' = .ok o') (htype : m'.get? "type" = m.get? "type")
    (hkey : m'.get? "server" = m.get? "server") (hwg : o.type = .wireguard) :
    o'.wireGuardOptions.server = o.wireGuardOptions.server
  port_of_key {o o' : Outbound} {m m' : JObj} (h : D.marshalOutbound o = .ok m)
    (h' : D.unmarshalOutbound m' = .ok o') (htype : m'.get? "type" = m.get? "type")
    (hkey : m'.get? "server_port" = m.get? "server_port") (hwg : o.type = .wireguard) :
    o'.wireGuardOptions.serverPort = o.wireGuardOptions.serverPort

variable {D : Deps} {draws : Draws}

/-- The codec for all types has the addresses under their keys. -/
lemma codec_wireGuardAddressed : WireGuardAddressed Codec.deps where
  server_of_key {o o' m m'} h h' htype hkey hwg := by
    have hserver := Codec.server_of_key h h' htype hkey
    have hwg' : o'.type = .wireguard := (Codec.type_of_key h h' htype).trans hwg
    simpa only [Outbound.server, hwg, hwg'] using hserver
  port_of_key {o o' m m'} h h' htype hkey hwg := by
    have hwg' : o'.type = .wireguard := (Codec.type_of_key h h' htype).trans hwg
    obtain ⟨-, -, ho'⟩ := Codec.unmarshalOutbound_ok h'
    obtain ⟨-, rfl⟩ := Codec.marshalOutbound_ok h
    have hlt := o.wireGuardOptions.serverPort.toNat_lt
    have hport : (JObj.unmarshalMap (Reference.header o ++ Codec.recordFields o)).get?
        "server_port" = some (.num o.wireGuardOptions.serverPort.toNat 0) := by
      simp only [Codec.recordFields, hwg]
      refine JObj.get?_unmarshalMap_whole rfl ?_
      omega
    rw [hport] at hkey
    rw [ho', hwg']
    show Reference.decodePort m' = _
    rw [Reference.decodePort, hkey]
    have hmod : (o.wireGuardOptions.serverPort.toNat : Int) % 2 ^ 16 =
        o.wireGuardOptions.serverPort.toNat := by
      omega
    simp only [UInt16.ofInt, hmod, Int.toNat_natCast]
    exact UInt16.ofNat_toNat

/-! ### One patch -/

lemma finishWireGuard_port (draws : Draws) (wg : WireGuardOutboundOptions) :
    (finishWireGuard D draws wg).1.serverPort =
      if wg.serverPort = 0 then draws.port else wg.serverPort := by
  unfold finishWireGuard
  dsimp only
  split_ifs <;> rfl

lemma finishWireGuard_server (draws : Draws) (wg : WireGuardOutboundOptions) :
    (finishWireGuard D draws wg).1.server =
      if isPlaceholder draws wg.server then
        (placeholderServer D draws wg.server wg.detour).1
      else wg.server := by
  unfold finishWireGuard
  dsimp only
  split_ifs <;> rfl

/-- A patched WireGuard outbound has the address that `patchWarp` gave it. -/
lemma patchOutbound_wireGuardServer (hD : D.Documented) (hwg : WireGuardAddressed D)
    {base : Outbound} {opt : ConfigOptions} {p : Patched}
    (h : patchOutbound D draws base opt = .ok p) (htype : resolvedType base = .wireguard) :
    ∃ wg, (warpObject base = none → wg = base.wireGuardOptions) ∧
      ((warpObject base).isSome → wg.serverPort = 0) ∧
      wireGuardServer p.outbound = some
        ((finishWireGuard D draws wg).1.server, (finishWireGuard D draws wg).1.serverPort) := by
  obtain ⟨base', obj, obj', hwarp, hobj, -, hsame, hout⟩ := patchOutbound_steps h
  have hbase : base'.type = .wireguard := (patchWarp_ok hwarp).1.trans htype
  have hkey := hsame "type" (by decide)
  have haddress : wireGuardServer p.outbound =
      some (base'.wireGuardOptions.server, base'.wireGuardOptions.serverPort) := by
    rw [wireGuardServer, if_pos ((hD.type_of_key hobj hout hkey).trans hbase),
      hwg.server_of_key hobj hout hkey (hsame "server" (by decide)) hbase,
      hwg.port_of_key hobj hout hkey (hsame "server_port" (by decide)) hbase]
  rw [haddress]
  rcases patchWarp_resolved hwarp with ⟨hnone, rfl⟩ | ⟨warp, config, hsome, hconfig, rfl⟩
  · refine ⟨base.wireGuardOptions, fun _ => rfl, ?_, ?_⟩
    · simp [hnone]
    · simp only [resolvedType, hnone] at htype
      rw [finishWarp_record htype]
  · obtain ⟨_, _, _, hgen, -⟩ := customWarpConfig_generated hconfig
    have hport := generateWarpSingbox_port hgen
    refine ⟨(resolveWarp base config (warp.getString "detour")).wireGuardOptions, ?_,
      fun _ => hport, ?_⟩
    · simp [hsome]
    · rw [finishWarp_record rfl]

/-! ### The loop -/

/-- Two calls that give the same in one respect give it for every outbound that is kept. -/
lemma Patches.exists_pair (hD : D.Documented) {β : Type*} (f : Outbound → β)
    {opt opt' : ConfigOptions} {draws draws' : Nat → Draws} {i : Nat} {outs : List Outbound}
    {ps ps' : List Patched} (h : Patches D opt draws i outs ps)
    (h' : Patches D opt' draws' i outs ps') (hf : (keptOf ps).map f = (keptOf ps').map f) :
    ∀ out ∈ outs, keeps out = true → ∃ k p p', patchOutbound D (draws k) out opt = .ok p ∧
      patchOutbound D (draws' k) out opt' = .ok p' ∧ f p.outbound = f p'.outbound := by
  induction h generalizing ps' with
  | nil => simp
  | @cons i out p outs ps hp _ ih =>
    cases h' with
    | @cons _ _ p' _ ps' hp' h' =>
      have hdrop {draws : Draws} {opt : ConfigOptions} {p : Patched}
          (hp : patchOutbound D draws out opt = .ok p) :
          isDropped p.outbound.type = !keeps out := by
        rw [(patchOutbound_ok hD hp).1, keeps, Bool.not_not]
      rw [keptOf_cons, keptOf_cons, hdrop hp, hdrop hp'] at hf
      intro out' hmem hkeep
      rcases List.mem_cons.mp hmem with rfl | hmem
      · simp only [hkeep] at hf
        exact ⟨i, p, p', hp, hp', (List.cons.inj hf).1⟩
      · refine ih h' ?_ out' hmem hkeep
        cases hhead : keeps out with
        | false => simpa [hhead] using hf
        | true =>
          simp only [hhead] at hf
          exact (List.cons.inj hf).2

/-! ### The document -/

/-- The secret that the document has for the Clash API. -/
def clashSecret (options : Options) : Option String :=
  (options.experimental.bind (·.clashAPI)).map (·.secret)

lemma patchHiddifyWarp_wireGuardServer (opt : ConfigOptions) (o : Outbound) :
    wireGuardServer (patchHiddifyWarpFromConfig opt o) = wireGuardServer o := by
  simp only [patchHiddifyWarpFromConfig]
  split_ifs <;> rfl

namespace Built

variable {env : BuildEnv} {opt : ConfigOptions} {input out : Options} {tag : String}

/-- Where the addresses of the WireGuard outbounds are found. -/
lemma wireGuardServers_eq (b : Built D env opt input tag out) :
    out.outbounds.map wireGuardServer = [none, none] ++ b.warp.map wireGuardServer ++
      b.kept.map wireGuardServer ++ List.replicate 5 none := by
  rw [b.outbounds_eq]
  simp only [List.map_append, List.map_map]
  congr 2
  exact List.map_congr_left fun o _ => patchHiddifyWarp_wireGuardServer _ o

lemma clashSecret_eq (b : Built D env opt input tag out) (h : opt.enableClashApi = true) :
    clashSecret out = some (withSecret env opt).clashApiSecret := by
  have hon : (withSecret env opt).enableClashApi = true := by
    rw [withSecret_congr (·.enableClashApi) fun _ _ => rfl, h]
  have hout := congrArg Prod.snd b.logAndExperimental_eq
  simp only [logAndExperimental, setLog, setClashAPI, hon, if_true] at hout
  rw [clashSecret, hout, Option.bind_some, Option.map_some]

end Built

/-! ### Two calls that draw differently -/

section Drawn

variable (lookupHost : String → Option (List String))
  (generateWarpInfo : String → Outcome WarpWireguardConfig)

/-- The draws of a call that draws one port and one sequence of bytes. -/
def drawn (port : UInt16) (random : Option (Nat → UInt8)) : Draws where
  lookupHost := lookupHost
  random := random
  port := port
  generateWarpInfo := generateWarpInfo

def drawnBuild (port : UInt16) (random : Option (Nat → UInt8)) (order : MapOrder) : BuildEnv where
  lookupHost := lookupHost
  secret := random
  warp := drawn lookupHost generateWarpInfo port random
  outbound _ := drawn lookupHost generateWarpInfo port random
  keyOrder := order

variable {lookupHost generateWarpInfo} {opt : ConfigOptions} {input out out' : Options}
  {tag tag' : String} {port port' : UInt16} {order order' : MapOrder}

/-- The secrets of the two calls differ if they are drawn. -/
lemma Built.clashApiSecret_ne
    (b : Built D (drawnBuild lookupHost generateWarpInfo port none order) opt input tag out)
    (b' : Built D (drawnBuild lookupHost generateWarpInfo port' (some fun _ => 0) order') opt input
      tag' out')
    (h : clashSecret out = clashSecret out') (hon : opt.enableClashApi = true) :
    opt.clashApiSecret ≠ "" := by
  intro hempty
  rw [b.clashSecret_eq hon, b'.clashSecret_eq hon, Option.some.injEq] at h
  simp only [withSecret, hon, hempty, and_self, if_true] at h
  have hne : generateRandomString none 16 ≠ generateRandomString (some fun _ => 0) 16 := by decide
  exact hne h

/-- The document has the drawn port of the WARP outbound. -/
lemma WarpPart.servers {opt : ConfigOptions} {warp : List Outbound}
    (h : WarpPart D draws opt warp) :
    (generatesWarp opt = false → warp = []) ∧ (generatesWarp opt = true → ∃ server,
      warp.map wireGuardServer =
        [some (server, if opt.warp.cleanPort = 0 then draws.port else opt.warp.cleanPort)]) := by
  cases h with
  | off hgen =>
    refine ⟨fun _ => rfl, fun hon => ?_⟩
    rw [hgen] at hon
    cases hon
  | @on raw out hgen hraw hout =>
    refine ⟨fun hoff => ?_, fun _ => ?_⟩
    · rw [hgen] at hoff
      cases hoff
    · have hout' := patchWarpOutbound_eq hraw hout
      refine ⟨(finishWireGuard D draws raw.wireGuardOptions).1.server, ?_⟩
      rw [List.map_singleton, wireGuardServer, if_pos (patchWarpOutbound_ok hraw hout).1, hout',
        finishWarp_record (warpOutbound_ok hraw).1, finishWireGuard_port, warpOutbound_port hraw]

/-- Two documents with the same addresses have them in the same parts. -/
lemma Built.servers_eq {env env' : BuildEnv} (b : Built D env opt input tag out)
    (b' : Built D env' opt input tag' out')
    (hopt : scannedOptions env opt input = scannedOptions env' opt input)
    (h : out.outbounds.map wireGuardServer = out'.outbounds.map wireGuardServer) :
    b.warp.map wireGuardServer = b'.warp.map wireGuardServer ∧
      b.kept.map wireGuardServer = b'.kept.map wireGuardServer := by
  have hlength : (b.warp.map wireGuardServer).length = (b'.warp.map wireGuardServer).length := by
    obtain ⟨hoff, hon⟩ := b.warpPart.servers
    obtain ⟨hoff', hon'⟩ := b'.warpPart.servers
    rw [hopt] at hoff hon
    cases hgen : generatesWarp (scannedOptions env' opt input) with
    | false => rw [hoff hgen, hoff' hgen]
    | true =>
      obtain ⟨_, hserver⟩ := hon hgen
      obtain ⟨_, hserver'⟩ := hon' hgen
      rw [hserver, hserver']
      rfl
  rw [b.wireGuardServers_eq, b'.wireGuardServers_eq] at h
  have hfront := List.append_cancel_right h
  rw [List.append_assoc, List.append_assoc] at hfront
  exact List.append_inj (List.append_cancel_left hfront) hlength

/-- The ports of the two WARP outbounds differ if they are drawn. -/
lemma Built.cleanPort_ne {random random' : Option (Nat → UInt8)}
    (b : Built D (drawnBuild lookupHost generateWarpInfo port random order) opt input tag out)
    (b' : Built D (drawnBuild lookupHost generateWarpInfo port' random' order') opt input tag' out')
    (hopt : scannedOptions (drawnBuild lookupHost generateWarpInfo port random order) opt input =
      scannedOptions (drawnBuild lookupHost generateWarpInfo port' random' order') opt input)
    (hport : port ≠ port')
    (h : out.outbounds.map wireGuardServer = out'.outbounds.map wireGuardServer)
    (hgen : generatesWarp (scannedOptions
      (drawnBuild lookupHost generateWarpInfo port random order) opt input) = true) :
    (scannedOptions (drawnBuild lookupHost generateWarpInfo port random order) opt
      input).warp.cleanPort ≠ 0 := by
  intro hzero
  have hwarp := (b.servers_eq b' hopt h).1
  obtain ⟨_, hserver⟩ := b.warpPart.servers.2 hgen
  obtain ⟨_, hserver'⟩ := b'.warpPart.servers.2 (hopt ▸ hgen)
  rw [hserver, hserver', ← hopt, if_pos hzero, if_pos hzero, List.singleton_inj,
    Option.some.injEq, Prod.mk.injEq] at hwarp
  exact hport hwarp.2

/-- The names that are drawn for a placeholder differ in their length. -/
lemma placeholderServer_ne (hlower : ∀ s, (D.toLower s).length = s.length) (host : String) :
    (placeholderServer D (drawn lookupHost generateWarpInfo port none) host "").1 ≠
      (placeholderServer D (drawn lookupHost generateWarpInfo port' (some fun _ => 0)) host
        "").1 := by
  intro h
  simp only [placeholderServer, drawn, ne_eq, not_true_eq_false, if_false] at h
  have hlength := congrArg String.length h
  rw [hlower, hlower] at hlength
  have hne : (generateRandomString none 20).length ≠
      (generateRandomString (some fun _ => 0) 20).length := by decide
  exact hne hlength

/-- The addresses of the outbounds that are not settled differ too. -/
lemma Built.isSettled (hD : D.Documented) (hwg : WireGuardAddressed D)
    (hlower : ∀ s, (D.toLower s).length = s.length)
    (b : Built D (drawnBuild lookupHost generateWarpInfo port none order) opt input tag out)
    (b' : Built D (drawnBuild lookupHost generateWarpInfo port' (some fun _ => 0) order') opt input
      tag' out')
    (hopt : scannedOptions (drawnBuild lookupHost generateWarpInfo port none order) opt input =
      scannedOptions (drawnBuild lookupHost generateWarpInfo port' (some fun _ => 0) order') opt
        input)
    (hport : port ≠ port')
    (h : out.outbounds.map wireGuardServer = out'.outbounds.map wireGuardServer)
    {base : Outbound} (hbase : base ∈ input.outbounds) : IsSettled lookupHost base := by
  by_cases htype : resolvedType base = .wireguard
  · have hkeep : keeps base = true := by
      rw [keeps, htype]
      rfl
    obtain ⟨k, p, p', hp, hp', heq⟩ := b.patches.exists_pair hD wireGuardServer b'.patches
      (b.servers_eq b' hopt h).2 base hbase hkeep
    obtain ⟨wg, hnone, hsome, hserver⟩ := patchOutbound_wireGuardServer hD hwg hp htype
    obtain ⟨wg', hnone', hsome', hserver'⟩ := patchOutbound_wireGuardServer hD hwg hp' htype
    rw [hserver, hserver', Option.some.injEq, Prod.mk.injEq, finishWireGuard_port,
      finishWireGuard_port] at heq
    obtain ⟨hservers, hports⟩ := heq
    have hcustom : warpObject base = none := by
      by_contra hne
      have hc := Option.isSome_iff_ne_none.mpr hne
      rw [if_pos (hsome hc), if_pos (hsome' hc)] at hports
      exact hport hports
    obtain rfl := hnone hcustom
    obtain rfl := hnone' hcustom
    refine ⟨hcustom, fun _ hzero => ?_, fun _ hdetour => ?_⟩
    · rw [if_pos hzero, if_pos hzero] at hports
      exact hport hports
    · rw [finishWireGuard_server, finishWireGuard_server] at hservers
      by_contra hplaceholder
      rw [Bool.not_eq_false] at hplaceholder
      have hplaceholder' (port : UInt16) (random : Option (Nat → UInt8)) :
          isPlaceholder (drawn lookupHost generateWarpInfo port random)
            base.wireGuardOptions.server = true :=
        hplaceholder
      simp only [drawnBuild, hplaceholder', if_true, hdetour] at hservers
      exact placeholderServer_ne hlower _ hservers
  · have hcustom : warpObject base = none := by
      by_contra hne
      refine htype ?_
      rw [resolvedType, if_pos (Option.isSome_iff_ne_none.mpr hne)]
    have hother : base.type ≠ .wireguard := by
      simpa [resolvedType, hcustom] using htype
    exact ⟨hcustom, fun hwire => absurd hwire hother, fun hwire => absurd hwire hother⟩

end Drawn

end HiddifyCore.Config
