/-
Purpose: a session with the pairing service behind it, as the node wires them in
`start_verified_peer_session`: the authorizer, the evaluator and the sink of the
session are calls of the service for the session's peer.

An event of the session calls the service at most once; its log says with what.
The service reads the same clock as the session.

Trusted boundary: `GrantCrypto`, `PairingEnv`, the rest of `SessionEnv`
-/
import Heyaki.Client.PeerSession

namespace Heyaki

open PairingService

structure TrustedSession where
  service : PairingService
  session : PeerSession
  peer : DeviceId
  peerPublicKey : IdentityPublicKey

namespace TrustedSession

variable (crypto : GrantCrypto) (node : TrustedSession)

/-- The injected functions of the session, answered by the service. -/
def wire (outside : SessionEnv) (pairing : PairingEnv) : SessionEnv :=
  { outside with
    wallClock := pairing.now
    authorize := node.service.authorize node.peer
    evaluate := fun request =>
      (evaluate crypto node.service pairing request node.peer
        node.peerPublicKey.val).1
    acceptResult := fun result requestId nonce scopes =>
      (acceptGrant crypto node.service pairing result requestId nonce node.peer
        node.peerPublicKey scopes).1 }

/-- The service after an entry of the session's log. -/
def serve (pairing : PairingEnv) (service : PairingService) :
    SessionRecord → PairingService
  | .evaluated request =>
    (evaluate crypto service pairing request node.peer node.peerPublicKey.val).2
  | .presented result pending scopes =>
    (acceptGrant crypto service pairing result pending.1 pending.2 node.peer
      node.peerPublicKey scopes).2
  | _ => service

def handle (outside : SessionEnv) (pairing : PairingEnv) (event : PeerSession.SessionEvent) :
    TrustedSession :=
  let session := node.session.step (node.wire crypto outside pairing, event)
  { node with
    session := session
    service := (session.log.drop node.session.log.length).foldl (node.serve crypto pairing)
      node.service }

end TrustedSession

end Heyaki
