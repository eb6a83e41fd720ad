/-
Purpose: the error value every fallible function returns, and the configured
limits with their validation (`error.hpp`, `limits.hpp`, `limits.cpp`).

Sizes are `Nat`: `validateLimits` bounds every field far below the range of
`std::size_t` before any arithmetic is done on it.
-/
import Mathlib

namespace Heyaki

/-! ### Errors -/

/-- Error classes, in the order of their wire values 1..30. -/
inductive ErrorCode where
  | configuration | identity | authentication | permission | notRegistered
  | enrollmentRevoked | profileLocked | pairingRequired | pairingDenied
  | pairingRateLimited | peerOffline | endpointOffline | signaling | natTraversal
  | relayUnavailable | transport | protocol | timeout | cancelled | wouldBlock
  | resourceExhausted | remoteError | outcomeUnknown | internal | secretUnavailable
  | secretBackendDegraded | profilePermissions | profileCorrupt | schemaTooNew | storage
  deriving Repr, Inhabited, DecidableEq

/-- An error with the component that raised it and a loggable detail token. -/
structure Error where
  code : ErrorCode := .internal
  component : String := "core"
  safeDetail : String := "internal_error"
  deriving Repr, Inhabited, DecidableEq

/-- The statuses a peer reports (`pairing_protocol.hpp`). -/
inductive StableStatus where
  | unspecified | ok | cancelled | deadlineExceeded | unauthenticated | permissionDenied
  | notFound | alreadyExists | resourceExhausted | failedPrecondition | unavailable | internal
  | unimplemented | protocolError | outcomeUnknown
  deriving Repr, Inhabited, DecidableEq

/-- The wire values 0..14. -/
def StableStatus.code (status : StableStatus) : Nat :=
  status.ctorIdx

/-- The bytes of an ASCII literal. -/
def asciiBytes (text : String) : List UInt8 :=
  text.toList.map fun character => UInt8.ofNat character.toNat

/-! ### Limits -/

def kib : Nat := 1024
def mib : Nat := 1024 * kib
def gib : Nat := 1024 * mib

structure Limits where
  maxFrameBytes : Nat := 2 * mib
  maxControlFrameBytes : Nat := 64 * kib
  maxMessageBytes : Nat := mib
  maxRpcPayloadBytes : Nat := mib
  maxEventPayloadBytes : Nat := 256 * kib
  maxSendQueueMessages : Nat := 1024
  maxSendQueueBytes : Nat := 8 * mib
  maxReceiveWindowFrames : Nat := 256
  maxReceiveWindowBytes : Nat := 4 * mib
  maxFileBytes : Nat := 16 * gib
  maxExpandedFileBytes : Nat := 16 * gib
  maxFileChunkBytes : Nat := 256 * kib
  maxConcurrentOperations : Nat := 256
  maxPairingPayloadBytes : Nat := 8 * kib
  maxPairingAttemptsPerSession : Nat := 5
  maxEndpointManifestBytes : Nat := 64 * kib
  maxDiagnosticEvents : Nat := 2048
  maxShellDataBytes : Nat := 32 * kib
  maxShellControlBytes : Nat := 2 * kib
  deriving Repr, Inhabited, DecidableEq

def invalidLimit (name : String) : Except Error Unit :=
  .error { code := .configuration, component := "limits", safeDetail := name }

def outside (value minimum maximum : Nat) : Bool :=
  value < minimum || value > maximum

def shellDataHeaderBytes : Nat := 28

variable (limits : Limits)

/-- Every limit against its range, in the source's order, with the field each failure names. -/
def limitChecks : List (String × Bool) := [
  ("max_frame_bytes", outside limits.maxFrameBytes 256 (64 * mib)),
  ("max_control_frame_bytes", outside limits.maxControlFrameBytes 256 (1024 * kib) ||
    limits.maxControlFrameBytes > limits.maxFrameBytes),
  ("max_message_bytes", outside limits.maxMessageBytes 1 (16 * mib) ||
    limits.maxMessageBytes > limits.maxFrameBytes),
  ("max_rpc_payload_bytes", outside limits.maxRpcPayloadBytes 1 (16 * mib) ||
    limits.maxRpcPayloadBytes > limits.maxFrameBytes),
  ("max_event_payload_bytes", outside limits.maxEventPayloadBytes 1 (16 * mib) ||
    limits.maxEventPayloadBytes > limits.maxFrameBytes),
  ("max_send_queue_messages", outside limits.maxSendQueueMessages 1 65536),
  ("max_send_queue_bytes", outside limits.maxSendQueueBytes limits.maxFrameBytes gib),
  ("max_receive_window_frames", outside limits.maxReceiveWindowFrames 1 65536),
  ("max_receive_window_bytes", outside limits.maxReceiveWindowBytes limits.maxFrameBytes gib),
  ("max_file_bytes", outside limits.maxFileBytes limits.maxFileChunkBytes (16 * 1024 * gib)),
  ("max_expanded_file_bytes",
    outside limits.maxExpandedFileBytes limits.maxFileChunkBytes (16 * 1024 * gib)),
  ("max_file_chunk_bytes", outside limits.maxFileChunkBytes (4 * kib) (1024 * kib) ||
    limits.maxFileChunkBytes > limits.maxFrameBytes),
  ("max_concurrent_operations", outside limits.maxConcurrentOperations 1 65536),
  ("max_pairing_payload_bytes", outside limits.maxPairingPayloadBytes 256 (64 * kib) ||
    limits.maxPairingPayloadBytes > limits.maxControlFrameBytes),
  ("max_pairing_attempts_per_session", outside limits.maxPairingAttemptsPerSession 1 20),
  ("max_endpoint_manifest_bytes", outside limits.maxEndpointManifestBytes 256 (1024 * kib) ||
    limits.maxEndpointManifestBytes > limits.maxFrameBytes),
  ("max_diagnostic_events", outside limits.maxDiagnosticEvents 16 (1024 * 1024)),
  ("max_shell_data_bytes", outside limits.maxShellDataBytes 256 (1024 * kib) ||
    limits.maxShellDataBytes + shellDataHeaderBytes > limits.maxFrameBytes),
  ("max_shell_control_bytes", outside limits.maxShellControlBytes 256 (64 * kib) ||
    limits.maxShellControlBytes > limits.maxFrameBytes)]

/-- The first limit outside its range is reported. -/
def validateLimits : Except Error Unit :=
  match (limitChecks limits).find? (·.2) with
  | some (name, _) => invalidLimit name
  | none => .ok ()

theorem validateLimits_eq_ok_iff :
    validateLimits limits = .ok () ↔ ∀ check ∈ limitChecks limits, check.2 = false := by
  unfold validateLimits
  cases found : (limitChecks limits).find? (·.2) with
  | none =>
    simpa using found
  | some check =>
    have member := List.mem_of_find?_eq_some found
    have failed := List.find?_some found
    simp only [invalidLimit, reduceCtorEq, false_iff]
    intro allPass
    simp [allPass check member] at failed

/-- The default limits are among those the validation accepts. -/
theorem validateLimits_default : validateLimits {} = .ok () := by decide

/-- The part of a successful validation that the frame codec relies on. -/
structure ValidLimits (limits : Limits) : Prop where
  frameLower : 256 ≤ limits.maxFrameBytes
  frameUpper : limits.maxFrameBytes ≤ 64 * mib
  controlLower : 256 ≤ limits.maxControlFrameBytes
  controlUpper : limits.maxControlFrameBytes ≤ limits.maxFrameBytes

theorem ValidLimits.of_validateLimits {limits : Limits}
    (accepted : validateLimits limits = .ok ()) : ValidLimits limits := by
  rw [validateLimits_eq_ok_iff] at accepted
  have frame := accepted _ (List.mem_cons_self ..)
  have control := accepted _ (List.mem_cons_of_mem _ (List.mem_cons_self ..))
  simp only [outside, Bool.or_eq_false_iff, decide_eq_false_iff_not, Nat.not_lt] at frame control
  exact ⟨frame.1, frame.2, control.1.1, control.2⟩

end Heyaki
