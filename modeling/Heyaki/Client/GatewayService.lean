/-
Purpose: the tunnels of a gateway and what ends them (`gateway_service.cpp`).

A call carries the reading of the wall clock it takes.  What the resolver, the dialler and the
pumps post to the service is a call each; admission is in `Core.Gateway`.  Streams, sockets,
audit records and statistics are left out.

Trusted boundary: no two streams of a session share an id
-/
import Heyaki.Core.Gateway
import Heyaki.Foundation.SortedMap

namespace Heyaki

open Foundation (SortedMap)

def gatewayConfirmDeadline : Int := 30000

inductive GatewayConfirmMode where
  | never | firstUse | always
  deriving Repr, DecidableEq

/-- A profile as the node takes it: other times fail its creation. -/
structure GatewayProfile extends GatewayProfileConfig where
  confirm : GatewayConfirmMode := .never
  inBounds : toGatewayProfileConfig.timeoutInvalid = false
  deriving DecidableEq

structure GatewayTunnel where
  profile : GatewayProfile
  openedUnixMs : UInt64
  lastActivityUnixMs : UInt64
  awaitingConfirm : Bool := false
  socketConnected : Bool := false
  deriving DecidableEq

inductive TunnelEnd where
  | confirmDeadline | duration | idle | byteQuota | closed (reason : StableStatus)
  deriving Repr, DecidableEq

/-- The readings are unsigned, and so is their difference. -/
def timerFires (current recorded : UInt64) (limit : Int) : Bool :=
  current - recorded > UInt64.ofInt limit

/-- The first check of the sweep that ends a tunnel, given the bytes its profile has used. -/
def GatewayTunnel.due? (tunnel : GatewayTunnel) (used current : UInt64) : Option TunnelEnd :=
  if tunnel.awaitingConfirm ∧ timerFires current tunnel.openedUnixMs gatewayConfirmDeadline then
    some .confirmDeadline
  else if ¬tunnel.awaitingConfirm ∧
      timerFires current tunnel.openedUnixMs tunnel.profile.streamMaxDuration then
    some .duration
  else if tunnel.socketConnected ∧
      timerFires current tunnel.lastActivityUnixMs tunnel.profile.streamIdleTimeout then
    some .idle
  else if used ≥ tunnel.profile.maxProfileBytes then some .byteQuota
  else none

structure GatewayService (Id : Type) [LinearOrder Id] where
  tunnels : SortedMap Id GatewayTunnel := {}
  confirmedProfiles : List (List UInt8) := []
  /-- Bytes by profile. -/
  usage : List UInt8 → UInt64 := fun _ => 0
  /-- History: the tunnels that ended, as they were. -/
  ended : List (Id × GatewayTunnel × TunnelEnd) := []

inductive GatewayCall (Id : Type) where
  | beginTunnel (id : Id) (profile : GatewayProfile) (confirmSink : Bool) (now : UInt64)
  | onConfirmDecided (id : Id) (allowed : Bool)
  | onDialSucceeded (id : Id) (now : UInt64)
  | onTunnelBytes (id : Id) (bytes now : UInt64)
  | closeTunnel (id : Id) (reason : StableStatus)
  | prune (now : UInt64)

namespace GatewayService

variable {Id : Type} [LinearOrder Id] (service : GatewayService Id)

def put (id : Id) (tunnel : GatewayTunnel) : GatewayService Id :=
  { service with tunnels := service.tunnels.insert id tunnel }

def closeTunnel (id : Id) (tunnel : GatewayTunnel) (reason : TunnelEnd) : GatewayService Id :=
  { service with
    tunnels := service.tunnels.erase id
    ended := service.ended ++ [(id, tunnel, reason)] }

def refuseOpen (id : Id) (tunnel : GatewayTunnel) : GatewayService Id :=
  service.closeTunnel id tunnel (.closed (gatewayRefusalStatus .policyDenied))

def beginTunnel (id : Id) (profile : GatewayProfile) (confirmSink : Bool) (now : UInt64) :
    GatewayService Id :=
  let tunnel := { profile, openedUnixMs := now, lastActivityUnixMs := now }
  let mustAsk := profile.confirm = .always ∨
    profile.confirm = .firstUse ∧ profile.name ∉ service.confirmedProfiles
  if mustAsk then
    if confirmSink then service.put id { tunnel with awaitingConfirm := true }
    else service.refuseOpen id tunnel
  else service.put id tunnel

def onConfirmDecided (id : Id) (allowed : Bool) (tunnel : GatewayTunnel) : GatewayService Id :=
  if ¬tunnel.awaitingConfirm then service
  else if ¬allowed then service.refuseOpen id tunnel
  else
    let service := service.put id { tunnel with awaitingConfirm := false }
    if tunnel.profile.confirm = .firstUse then
      { service with confirmedProfiles := tunnel.profile.name :: service.confirmedProfiles }
    else service

def onTunnelBytes (id : Id) (bytes now : UInt64) (tunnel : GatewayTunnel) : GatewayService Id :=
  { service.put id { tunnel with lastActivityUnixMs := now } with
    usage := Function.update service.usage tunnel.profile.name
      (service.usage tunnel.profile.name + bytes) }

/-- One round of the sweep. -/
def pruneOne (current : UInt64) (entry : Id × GatewayTunnel) : GatewayService Id :=
  match entry.2.due? (service.usage entry.2.profile.name) current with
  | some reason => service.closeTunnel entry.1 entry.2 reason
  | none => service

def prune (current : UInt64) : GatewayService Id :=
  service.tunnels.entries.foldl (·.pruneOne current ·) service

/-- A call for a tunnel that has ended changes nothing. -/
def onTunnel (id : Id) (call : GatewayTunnel → GatewayService Id) : GatewayService Id :=
  ((service.tunnels.find? id).map call).getD service

def step : GatewayCall Id → GatewayService Id
  | .beginTunnel id profile confirmSink now => service.beginTunnel id profile confirmSink now
  | .onConfirmDecided id allowed => service.onTunnel id (service.onConfirmDecided id allowed)
  | .onDialSucceeded id now => service.onTunnel id fun tunnel =>
    service.put id { tunnel with socketConnected := true, lastActivityUnixMs := now }
  | .onTunnelBytes id bytes now => service.onTunnel id (service.onTunnelBytes id bytes now)
  | .closeTunnel id reason =>
    service.onTunnel id fun tunnel => service.closeTunnel id tunnel (.closed reason)
  | .prune now => service.prune now

end GatewayService

end Heyaki
