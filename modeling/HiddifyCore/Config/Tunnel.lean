import HiddifyCore.GoLib.Panic
import HiddifyCore.Config.Option

/-!
# Commanding the tunnel service

The flag `tunnelServiceRunning` of the main process and the requests it sends to the tunnel
service. A request launched with `go` is recorded when it is launched.
-/

namespace HiddifyCore.Config

open GoLib

/-- The `pb.TunnelStartRequest` message. -/
structure TunnelStartRequest where
  ipv6 : Bool
  serverPort : Int32
  strictRoute : Bool
  endpointIndependentNat : Bool
  stack : String
  deriving DecidableEq

/-- The request that `startTunnelRequest` sends. -/
def tunnelStartRequest (opt : ConfigOptions) : TunnelStartRequest where
  ipv6 := opt.ipv6Mode = .useIPv4
  serverPort := Int32.ofNat opt.mixedPort.toNat
  strictRoute := opt.strictRoute
  endpointIndependentNat := true
  stack := opt.tunStack

inductive TunnelRequest where
  | start (req : TunnelStartRequest)
  /-- `waited` tells whether the caller waits for the reply. -/
  | stop (waited : Bool)
  deriving DecidableEq

/-- The `Stop` that a `stopTunnelRequest` has in flight: the first one, or the second one after an
error. -/
inductive Attempt where
  | first | second
  deriving DecidableEq

/-- What `stopTunnelRequest` sends next, once its `Stop` was answered with an error or without. -/
def Attempt.next (a : Attempt) (failed : Bool) : Option Attempt :=
  match a, failed with
  | .first, true => some .second
  | _, _ => none

@[simp] lemma Attempt.next_second (failed : Bool) : Attempt.second.next failed = none := rfl

lemma Attempt.eq_second_of_next {a a' : Attempt} {failed : Bool} (h : a.next failed = some a') :
    a' = .second := by
  cases a <;> cases failed <;> cases h
  rfl

structure Tunnel where
  running : Bool := false
  requests : List TunnelRequest := []
  deriving DecidableEq

def activateTunnelService (opt : ConfigOptions) (t : Tunnel) : Tunnel where
  running := true
  requests := t.requests ++ [.start (tunnelStartRequest opt)]

/-- `stop` is what `stopTunnelRequest` does. Only a running service is waited for, and the flag is
lowered when that request fails. -/
def deactivateTunnelService (stop : Outcome PUnit) : Go Tunnel (Except String PUnit) := do
  if (← Go.get).running then
    Go.modify fun t => { t with requests := t.requests ++ [.stop true] }
    match ← Go.call stop with
    | .error e =>
      Go.modify fun t => { t with running := false }
      pure (.error e)
    | .ok _ => pure (.ok ⟨⟩)
  else
    Go.modify fun t => { t with requests := t.requests ++ [.stop false] }
    pure (.ok ⟨⟩)

end HiddifyCore.Config
