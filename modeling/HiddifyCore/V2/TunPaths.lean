import HiddifyCore.V2.TunnelService
import HiddifyCore.Config.Build

/-!
# The two TUN paths

With `EnableTun` the builder puts a tun inbound into the configuration, with `EnableTunService` the
tunnel service runs one, on the request that `startTunnelRequest` fills in from the same options.
The request asks for IPv6 when the options ask for IPv4 only, so that the two paths never assign
the same address families.
-/

namespace HiddifyCore.V2

open GoLib GoLib.JsonText Config

/-- The text that the tunnel service runs for the options. -/
def serviceConfig (opt : ConfigOptions) : String :=
  tunnelConfig (withDefaultPort (tunnelStartRequest opt))

/-- The document of the service says what the inbound of the builder says. -/
structure PathsAgree (opt : ConfigOptions) (doc : Value) : Prop where
  inet4Address : ((tunInboundOf doc).bind (Value.get? "inet4_address")).isSome
    = !(tunInbound opt).tunOptions.inet4Address.isEmpty
  inet6Address : ((tunInboundOf doc).bind (Value.get? "inet6_address")).isSome
    = !(tunInbound opt).tunOptions.inet6Address.isEmpty
  strictRoute : (tunInboundOf doc).bind (Value.get? "strict_route")
    = some (.bool (tunInbound opt).tunOptions.strictRoute)
  endpointIndependentNat : (tunInboundOf doc).bind (Value.get? "endpoint_independent_nat")
    = some (.bool (tunInbound opt).tunOptions.endpointIndependentNat)
  stack : (tunInboundOf doc).bind (Value.get? "stack")
    = some (.str (tunInbound opt).tunOptions.stack)
  serverPort : ∃ literal,
    (socksOutboundOf doc).bind (Value.get? "server_port") = some (.num literal) ∧
      Strings.atoi literal = some ((mixedInbound opt).mixedOptions.listenPort.toNat : Int)

@[simp] lemma withDefaultPort_ipv6 (req : TunnelStartRequest) :
    (withDefaultPort req).ipv6 = req.ipv6 := by
  simp only [withDefaultPort]
  split_ifs <;> rfl

@[simp] lemma withDefaultPort_stack (req : TunnelStartRequest) :
    (withDefaultPort req).stack = req.stack := by
  simp only [withDefaultPort]
  split_ifs <;> rfl

@[simp] lemma withDefaultPort_strictRoute (req : TunnelStartRequest) :
    (withDefaultPort req).strictRoute = req.strictRoute := by
  simp only [withDefaultPort]
  split_ifs <;> rfl

@[simp] lemma withDefaultPort_endpointIndependentNat (req : TunnelStartRequest) :
    (withDefaultPort req).endpointIndependentNat = req.endpointIndependentNat := by
  simp only [withDefaultPort]
  split_ifs <;> rfl

lemma toInt_ofPort (port : UInt16) : (Int32.ofNat port.toNat).toInt = port.toNat := by
  have hlt := port.toNat_lt
  apply Int32.toInt_ofNat_of_lt
  omega

/-- The port survives its way through the request unless it is zero. -/
lemma serverPort_eq_iff (opt : ConfigOptions) :
    (withDefaultPort (tunnelStartRequest opt)).serverPort.toInt = opt.mixedPort.toNat ↔
      opt.mixedPort ≠ 0 := by
  have hport : (tunnelStartRequest opt).serverPort.toInt = opt.mixedPort.toNat :=
    toInt_ofPort opt.mixedPort
  by_cases hzero : opt.mixedPort = 0
  · have hserver : (tunnelStartRequest opt).serverPort = 0 := by
      rw [tunnelStartRequest, hzero]
      rfl
    refine iff_of_false ?_ (not_not.mpr hzero)
    have hdefault : (12334 : Int32).toInt ≠ ((0 : UInt16).toNat : Int) := by decide
    rw [withDefaultPort, if_pos hserver, hzero]
    exact hdefault
  · have hserver : (tunnelStartRequest opt).serverPort ≠ 0 := by
      intro h
      rw [h] at hport
      have hnat : opt.mixedPort.toNat = 0 := by simpa using hport.symm
      exact hzero (UInt16.toNat_inj.mp hnat)
    rw [withDefaultPort, if_neg hserver]
    exact iff_of_true hport hzero

lemma tunInbound_inet4 (opt : ConfigOptions) :
    (tunInbound opt).tunOptions.inet4Address.isEmpty = decide (opt.ipv6Mode = .useIPv6) := by
  simp only [tunInbound]
  split_ifs with h <;> simp [h]

/-- A document that the service decodes has an IPv6 address exactly for IPv4-only options. -/
lemma serviceConfig_inet6 {opt : ConfigOptions} {doc : Value} (hstack : IsPlain opt.tunStack.toList)
    (hdoc : decode (serviceConfig opt) = some doc) :
    ((tunInboundOf doc).bind (Value.get? "inet6_address")).isSome
      = decide (opt.ipv6Mode = .useIPv4) := by
  have hplain : IsPlain (withDefaultPort (tunnelStartRequest opt)).stack.toList := by
    rw [withDefaultPort_stack]
    exact hstack
  obtain rfl : tunnelDocument _ = doc :=
    Option.some.inj ((decode_eq_some.mpr (lex_of_plain hplain)).symm.trans hdoc)
  have hinet6 := (tunnelDocument_describes (withDefaultPort (tunnelStartRequest opt))).inet6Address
  rw [hinet6, withDefaultPort_ipv6]
  rfl

lemma tunInbound_inet6 (opt : ConfigOptions) :
    (tunInbound opt).tunOptions.inet6Address.isEmpty = decide (opt.ipv6Mode = .useIPv4) := by
  simp only [tunInbound]
  split_ifs with h <;> simp [h]

lemma PathsAgree.false {opt : ConfigOptions} {doc : Value} (hagree : PathsAgree opt doc)
    (hdoc : decode (serviceConfig opt) = some doc) : False := by
  by_cases hstack : IsPlain opt.tunStack.toList
  · have hinet6 := hagree.inet6Address
    rw [serviceConfig_inet6 hstack hdoc, tunInbound_inet6] at hinet6
    cases h : decide (opt.ipv6Mode = .useIPv4) <;> simp [h] at hinet6
  · have hne : ¬ IsPlain (withDefaultPort (tunnelStartRequest opt)).stack.toList := by
      rw [withDefaultPort_stack]
      exact hstack
    apply decode_stack_ne hne hdoc
    rw [hagree.stack, withDefaultPort_stack]
    rfl

/-- There are no options for which the two paths agree. -/
theorem not_pathsAgree (opt : ConfigOptions) :
    ¬ ∃ doc, decode (serviceConfig opt) = some doc ∧ PathsAgree opt doc := by
  rintro ⟨doc, hdoc, hagree⟩
  exact hagree.false hdoc

/-- The default options leave the address families alone: the builder assigns both, the service
IPv4 only. -/
theorem not_forall_pathsAgree :
    ¬ ∀ opt : ConfigOptions, ∃ doc, decode (serviceConfig opt) = some doc ∧ PathsAgree opt doc := by
  intro h
  obtain ⟨doc, hdoc, hagree⟩ := h defaultConfigOptions
  exact hagree.false hdoc

/-- What is left when the families are set aside: the port differs for the options that leave it at
zero, and IPv4 for those that ask for IPv6 only. -/
theorem serviceConfig_agrees_otherwise (opt : ConfigOptions)
    (hstack : IsPlain opt.tunStack.toList) :
    ∃ doc, decode (serviceConfig opt) = some doc ∧
      (tunInboundOf doc).bind (Value.get? "strict_route")
        = some (.bool (tunInbound opt).tunOptions.strictRoute) ∧
      (tunInboundOf doc).bind (Value.get? "endpoint_independent_nat")
        = some (.bool (tunInbound opt).tunOptions.endpointIndependentNat) ∧
      (tunInboundOf doc).bind (Value.get? "stack")
        = some (.str (tunInbound opt).tunOptions.stack) ∧
      (((tunInboundOf doc).bind (Value.get? "inet4_address")).isSome
        = !(tunInbound opt).tunOptions.inet4Address.isEmpty ↔ opt.ipv6Mode ≠ .useIPv6) ∧
      ((∃ literal, (socksOutboundOf doc).bind (Value.get? "server_port") = some (.num literal) ∧
        Strings.atoi literal = some ((mixedInbound opt).mixedOptions.listenPort.toNat : Int)) ↔
          opt.mixedPort ≠ 0) := by
  let req := withDefaultPort (tunnelStartRequest opt)
  have hplain : IsPlain req.stack.toList := by
    rw [withDefaultPort_stack]
    exact hstack
  obtain ⟨hstack', hstrict, hnat, -, hport, -⟩ := tunnelDocument_describes req
  refine ⟨tunnelDocument req, decode_eq_some.mpr (lex_of_plain hplain), ?_, ?_, ?_, ?_, ?_⟩
  · rw [hstrict, withDefaultPort_strictRoute]
    rfl
  · rw [hnat, withDefaultPort_endpointIndependentNat]
    rfl
  · rw [hstack', withDefaultPort_stack]
    rfl
  · have hinet4 : ((tunInboundOf (tunnelDocument req)).bind (Value.get? "inet4_address")).isSome
        = true := by
      rcases h : req.ipv6 <;> simp only [tunnelDocument, h] <;> rfl
    rw [hinet4, tunInbound_inet4]
    by_cases h : opt.ipv6Mode = .useIPv6 <;> simp [h]
  · rw [← serverPort_eq_iff]
    obtain ⟨literal, hliteral, hvalue⟩ := hport
    constructor
    · rintro ⟨literal', hliteral', hvalue'⟩
      cases hliteral.symm.trans hliteral'
      exact Option.some.inj (hvalue.symm.trans hvalue')
    · intro h
      exact ⟨literal, hliteral, hvalue.trans (congrArg some h)⟩

end HiddifyCore.V2
