import HiddifyCore.Config.Drawn
import HiddifyCore.Config.Detoured

/-!
# The servers of the user's WireGuard outbounds

`patchWarp` gives a random name to a WireGuard outbound whose server is a placeholder, and to one
whose server is blocked: a lookup that fails or that answers a private address. Every other server
of the input is found in the document, and every port.
-/

namespace HiddifyCore.Config

open GoLib GoLib.Strings Singbox

variable {D : Deps}

/-- A server that `patchWarp` takes for a placeholder whatever its lookup says. -/
def IsPlaceholderName (server : String) : Prop :=
  server ∈ ["default", "random", "auto", "auto4", "auto6"]

/-- The lookup answers, and no answer is in the private network `10.`. -/
def LooksUp (lookupHost : String → Option (List String)) (server : String) : Prop :=
  ∃ ips, lookupHost server = some ips ∧ ∀ ip ∈ ips, hasPrefix ip "10." = false

/-- The port stays unless it is zero, and the server stays if it looks up. One that does not is
replaced: behind a detour by an address, else by a name. -/
structure KeepsServer (D : Deps) (draws : Draws) (i o : Outbound) : Prop where
  type : o.type = .wireguard
  port : i.wireGuardOptions.serverPort ≠ 0 →
    o.wireGuardOptions.serverPort = i.wireGuardOptions.serverPort
  server : LooksUp draws.lookupHost i.wireGuardOptions.server →
    o.wireGuardOptions.server = i.wireGuardOptions.server
  blocked : ¬ LooksUp draws.lookupHost i.wireGuardOptions.server →
    hasPrefix "full:" i.wireGuardOptions.server = false → o.wireGuardOptions.server =
      if i.wireGuardOptions.detour ≠ "" then "162.159.192.1"
      else D.toLower (generateRandomString draws.random 20)

/-- The outbounds that are made from the input have a property of both. -/
def KeptSatisfy (D : Deps) (env : BuildEnv) (opt : ConfigOptions) (input out : Options)
    (P : Draws → Outbound → Outbound → Prop) : Prop :=
  ∃ front kept back, out.outbounds = front ++ kept ++ back ∧
    List.Forall₂ (fun o i => EmittedFrom D env.outbound opt o i ∧ P (env.outbound i.2) i.1 o) kept
      (keptInputs input.outbounds 0)

/-- Every WireGuard outbound of the input with a server of its own keeps it. -/
def KeepsOwnServers (D : Deps) (env : BuildEnv) (opt : ConfigOptions) (input out : Options) :
    Prop :=
  KeptSatisfy D env opt input out fun draws i o =>
    i.type = .wireguard → ¬ IsPlaceholderName i.wireGuardOptions.server → KeepsServer D draws i o

/-! ### One outbound -/

lemma isBlockedDomain_of_looksUp {lookupHost : String → Option (List String)} {server : String}
    (h : LooksUp lookupHost server) : isBlockedDomain lookupHost server = false := by
  obtain ⟨ips, hips, hpublic⟩ := h
  simp only [isBlockedDomain, hips]
  split_ifs
  · rfl
  · simpa using hpublic

lemma isBlockedDomain_of_not_looksUp {lookupHost : String → Option (List String)}
    {server : String} (h : ¬ LooksUp lookupHost server)
    (hfull : hasPrefix "full:" server = false) : isBlockedDomain lookupHost server = true := by
  simp only [isBlockedDomain, hfull, Bool.false_eq_true, if_false]
  cases hips : lookupHost server with
  | none => rfl
  | some ips =>
    simp only [List.any_eq_true]
    by_contra! hpublic
    exact h ⟨ips, hips, fun ip hip => by simpa using hpublic ip hip⟩

lemma isPlaceholder_eq {draws : Draws} {server : String} (h : ¬ IsPlaceholderName server) :
    isPlaceholder draws server = isBlockedDomain draws.lookupHost server := by
  simp only [IsPlaceholderName, List.mem_cons, List.not_mem_nil, or_false, not_or] at h
  obtain ⟨h1, h2, h3, h4, h5⟩ := h
  simp [isPlaceholder, h1, h2, h3, h4, h5]

lemma warpObject_of_wireguard {i : Outbound} (h : i.type = .wireguard) : warpObject i = none := by
  simp [warpObject, h]

/-- The address of an outbound that is made from a WireGuard outbound of the input. -/
lemma EmittedFrom.wireGuard_address (hD : D.Documented) (hwg : WireGuardAddressed D)
    {draws : Nat → Draws} {opt : ConfigOptions} {o : Outbound} {i : Outbound × Nat}
    (h : EmittedFrom D draws opt o i) (htype : i.1.type = .wireguard) :
    o.type = .wireguard ∧
      o.wireGuardOptions.server =
        (finishWireGuard D (draws i.2) i.1.wireGuardOptions).1.server ∧
      o.wireGuardOptions.serverPort =
        (finishWireGuard D (draws i.2) i.1.wireGuardOptions).1.serverPort := by
  obtain ⟨p, hp, -, rfl⟩ := h
  have hcustom := warpObject_of_wireguard htype
  have hresolved : resolvedType i.1 = .wireguard := by simp [resolvedType, hcustom, htype]
  obtain ⟨wg, hnone, -, hserver⟩ := patchOutbound_wireGuardServer hD hwg hp hresolved
  obtain rfl := hnone hcustom
  rw [← patchHiddifyWarp_wireGuardServer opt] at hserver
  simp only [wireGuardServer] at hserver
  split_ifs at hserver with hwire
  simpa [hwire] using hserver

/-- The rewrite meant for WARP endpoints meets a server of one's own only when it is blocked. -/
lemma EmittedFrom.keepsServer (hD : D.Documented) (hwg : WireGuardAddressed D)
    {draws : Nat → Draws} {opt : ConfigOptions} {o : Outbound} {i : Outbound × Nat}
    (h : EmittedFrom D draws opt o i) (htype : i.1.type = .wireguard)
    (hname : ¬ IsPlaceholderName i.1.wireGuardOptions.server) :
    KeepsServer D (draws i.2) i.1 o := by
  obtain ⟨hwire, hserver, hport⟩ := h.wireGuard_address hD hwg htype
  rw [finishWireGuard_server, isPlaceholder_eq hname] at hserver
  rw [finishWireGuard_port] at hport
  refine ⟨hwire, fun hne => ?_, fun hlooks => ?_, fun hlooks hfull => ?_⟩
  · rw [hport, if_neg hne]
  · rw [hserver, isBlockedDomain_of_looksUp hlooks]
    rfl
  · rw [hserver, isBlockedDomain_of_not_looksUp hlooks hfull, if_pos rfl, placeholderServer]
    split_ifs <;> rfl

/-! ### The document -/

lemma Built.keptSatisfy (hD : D.Documented) {env : BuildEnv} {opt : ConfigOptions}
    {input out : Options} {tag : String} (b : Built D env opt input tag out)
    {P : Draws → Outbound → Outbound → Prop}
    (h : ∀ o i, EmittedFrom D env.outbound (scannedOptions env opt input) o i →
      P (env.outbound i.2) i.1 o) :
    KeptSatisfy D env (scannedOptions env opt input) input out P :=
  ⟨_, _, _, b.outbounds_eq, forall₂_and_of_mem (b.patches.emittedFrom hD) fun o i _ => h o i⟩

/-- A server of one's own stays unless its lookup fails or answers a private address. -/
theorem buildConfig_keepsOwnServers (hD : D.Documented) (hwg : WireGuardAddressed D)
    {env : BuildEnv} {opt : ConfigOptions} {input out : Options} {g g' : Globals}
    (h : buildConfig D env opt input g = (.ret (.ok out), g')) :
    KeepsOwnServers D env (scannedOptions env opt input) input out := by
  obtain ⟨b⟩ := buildConfig_ok h
  exact b.keptSatisfy hD fun _ _ hemitted htype hname => hemitted.keepsServer hD hwg htype hname

/-- A WireGuard outbound with a server of its own. -/
def ownWireGuard : Options where
  outbounds := [
    { type := .wireguard, tag := "w"
      wireGuardOptions := { server := "vpn.example", serverPort := 51820, privateKey := "k" } }]

theorem keepsOwnServers_resolved :
    KeepsOwnServers Codec.deps {} (scannedOptions {} {} ownWireGuard) ownWireGuard
      (documentOf (buildConfig Codec.deps {} {} ownWireGuard {}).1) := by
  have hbuilt : isDocument (buildConfig Codec.deps {} {} ownWireGuard {}).1 = true := by decide
  exact buildConfig_keepsOwnServers Codec.deps_documented codec_wireGuardAddressed
    (Prod.ext (eq_documentOf hbuilt) rfl)

/-- A build whose lookups all fail. -/
def unresolvedBuild : BuildEnv where
  lookupHost _ := none
  outbound _ := { lookupHost := fun _ => none }

/-- The server does not stay when its lookup fails. -/
theorem not_keepsServers :
    ¬ ∀ D : Deps, D.Documented → WireGuardAddressed D → ∀ (env : BuildEnv) (opt : ConfigOptions)
      (input out : Options) (g g' : Globals),
        buildConfig D env opt input g = (.ret (.ok out), g') →
          KeptSatisfy D env (scannedOptions env opt input) input out fun _ i o =>
            i.type = .wireguard → ¬ IsPlaceholderName i.wireGuardOptions.server →
              o.wireGuardOptions.server = i.wireGuardOptions.server ∧
                (i.wireGuardOptions.serverPort ≠ 0 →
                  o.wireGuardOptions.serverPort = i.wireGuardOptions.serverPort) := by
  intro h
  have hbuilt : isDocument
      (buildConfig Codec.deps unresolvedBuild {} ownWireGuard {}).1 = true := by decide
  obtain ⟨_, _, _, -, hkept⟩ := h _ Codec.deps_documented codec_wireGuardAddressed _ _ _ _ _ _
    (Prod.ext (eq_documentOf hbuilt) rfl)
  obtain ⟨o, hemitted, hsame⟩ := forall₂_exists_left hkept List.mem_cons_self
  have hname : ¬ IsPlaceholderName "vpn.example" := by simp [IsPlaceholderName]
  have hreplaced := (hemitted.keepsServer Codec.deps_documented codec_wireGuardAddressed rfl
    hname).blocked (by rintro ⟨ips, hips, -⟩; cases hips) (by decide)
  rw [(hsame rfl hname).1] at hreplaced
  exact absurd hreplaced (by decide)

end HiddifyCore.Config
