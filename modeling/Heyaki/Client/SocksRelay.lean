/-
Purpose: a SOCKS connection that relays between its client and its tunnel
(`socks_frontend.cpp`).

Each direction is a loop of asynchronous calls, one of which is outstanding at a time, and
an event is the completion of one.  What the client sends, what the tunnel delivers and how
much of a write it accepts are arbitrary.  The handshake before the relaying phase and the
counters are left out.

`fromClient`, `toTunnel`, `fromTunnel`, `toClient`, `tunnelEnded`, `failed`, `stopped` and
`cut` are not in the source: they note what has happened.
-/
import Heyaki.Core.Limits

namespace Heyaki

inductive ClientPump where
  | reading
  | writing (chunk : List UInt8)
  /-- The completion of a write is on its way to the strand. -/
  | hopping
  | ended
  deriving DecidableEq

/-- Bytes, none at the end of the stream, or an error. -/
abbrev TunnelRead := Except Error (List UInt8)

inductive TunnelPump where
  | reading
  /-- The result of a read is on its way to the strand. -/
  | hopping (result : TunnelRead)
  | writing
  | ended

inductive ClientRead where
  | data (bytes : List UInt8)
  | endOfFile
  | error

structure SocksRelay where
  closed : Bool := false
  /-- `connection->stream.has_value()` -/
  hasStream : Bool := true
  clientPump : ClientPump := .reading
  tunnelPump : TunnelPump := .reading
  fromClient : List UInt8 := []
  toTunnel : List UInt8 := []
  fromTunnel : List UInt8 := []
  /-- Bytes handed to the socket, which takes the first of them if it then fails. -/
  toClient : List UInt8 := []
  tunnelEnded : Bool := false
  failed : Bool := false
  stopped : Bool := false
  /-- The tunnel has not accepted all of a write. -/
  cut : Bool := false

inductive SocksEvent where
  | clientRead (outcome : ClientRead)
  | tunnelWritten (accepted : Nat)
  | clientHop
  | tunnelRead (result : TunnelRead)
  | tunnelHop
  | clientWritten (error : Bool)
  | stop

namespace SocksRelay

variable (relay : SocksRelay)

def closeConnection : SocksRelay := { relay with closed := true }

def fail : SocksRelay := { relay.closeConnection with failed := true }

def pumpClientToTunnel : SocksRelay :=
  { relay with clientPump := if relay.closed then .ended else .reading }

def pumpTunnelToClient : SocksRelay :=
  if relay.closed then { relay with tunnelPump := .ended }
  else if !relay.hasStream then { relay.closeConnection with tunnelPump := .ended }
  else { relay with tunnelPump := .reading }

/-- At the end of what the client sends the stream is moved away to be shut down. -/
def handleClientRead (outcome : ClientRead) : SocksRelay :=
  if relay.closed then { relay with clientPump := .ended }
  else
    match outcome with
    | .endOfFile => { relay with hasStream := false, clientPump := .ended }
    | .error => { relay.fail with clientPump := .ended }
    | .data [] => { relay.fail with clientPump := .ended }
    | .data bytes =>
      let relay := { relay with fromClient := relay.fromClient ++ bytes }
      if relay.hasStream then { relay with clientPump := .writing bytes }
      else { relay.closeConnection with clientPump := .ended }

/-- The result of the write is not looked at. -/
def handleTunnelWritten (chunk : List UInt8) (accepted : Nat) : SocksRelay :=
  { relay with
    toTunnel := relay.toTunnel ++ chunk.take accepted
    cut := relay.cut || decide (accepted < chunk.length)
    clientPump := .hopping }

def handleTunnelRead (result : TunnelRead) : SocksRelay :=
  { relay with
    fromTunnel := relay.fromTunnel ++ result.toOption.getD []
    tunnelPump := if relay.closed then .ended else .hopping result }

def handleTunnelHop (result : TunnelRead) : SocksRelay :=
  if relay.closed then { relay with tunnelPump := .ended }
  else
    match result with
    | .error _ => { relay.fail with tunnelPump := .ended }
    | .ok [] => { relay with tunnelEnded := true, tunnelPump := .ended }
    | .ok bytes => { relay with toClient := relay.toClient ++ bytes, tunnelPump := .writing }

def handleClientWritten (error : Bool) : SocksRelay :=
  if relay.closed then { relay with tunnelPump := .ended }
  else if error then { relay.fail with tunnelPump := .ended }
  else relay.pumpTunnelToClient

/-- A completion of a call that is not outstanding does not happen. -/
def step : SocksEvent → SocksRelay
  | .clientRead outcome =>
    match relay.clientPump with
    | .reading => relay.handleClientRead outcome
    | _ => relay
  | .tunnelWritten accepted =>
    match relay.clientPump with
    | .writing chunk => relay.handleTunnelWritten chunk accepted
    | _ => relay
  | .clientHop =>
    match relay.clientPump with
    | .hopping => relay.pumpClientToTunnel
    | _ => relay
  | .tunnelRead result =>
    match relay.tunnelPump with
    | .reading => relay.handleTunnelRead result
    | _ => relay
  | .tunnelHop =>
    match relay.tunnelPump with
    | .hopping result => relay.handleTunnelHop result
    | _ => relay
  | .clientWritten error =>
    match relay.tunnelPump with
    | .writing => relay.handleClientWritten error
    | _ => relay
  | .stop => { relay with closed := true, stopped := true }

end SocksRelay

end Heyaki
