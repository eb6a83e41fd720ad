/-
Purpose: the input side of one served shell (`shell_service.cpp`).

An event touches the record of its own shell only, and finds it terminal or gone once the
shell has ended.  What the PTY answers to a write, whether the profile allows a signal and
whether output floods its window are part of the event.  Resizes, allowed signals, the
output itself and what the embedder is shown are left out.
-/
import Heyaki.Core.Limits

namespace Heyaki

/-- Why the PTY says that a child is gone. -/
inductive ExitReason where
  | process | idleTimeout | absoluteTimeout | outputLimit | inputBackpressure | terminated
  | workerShutdown
  deriving Repr, DecidableEq

/-- The error that goes before the exit, unless the process just ended. -/
def ExitReason.error? : ExitReason → Option (StableStatus × String)
  | .process => none
  | .idleTimeout => some (.deadlineExceeded, "pty_idle_timeout")
  | .absoluteTimeout => some (.deadlineExceeded, "pty_absolute_timeout")
  | .outputLimit => some (.resourceExhausted, "pty_output_limit")
  | .inputBackpressure => some (.resourceExhausted, "pty_input_backpressure")
  | .terminated => some (.resourceExhausted, "pty_terminated")
  | .workerShutdown => some (.resourceExhausted, "pty_session_closed")

/-- Calls of the PTY that it takes, and frames to the peer. -/
inductive ShellAction where
  | writeStdin (data : List UInt8)
  | closeStdin
  | terminate (detail : String)
  | sendError (status : StableStatus) (detail : String)
  | sendExit
  deriving Repr, DecidableEq

inductive ShellEvent where
  | input (offset : UInt64) (data : List UInt8) (written : Bool)
  | eof
  | signal (allowed : Bool)
  | close
  | output (flood : Bool)
  | exit (reason : ExitReason)
  | spawnFailed (detail : String)
  | inputRejected
  | closeShell
  | sessionClosed
  deriving Repr, DecidableEq

structure ShellRecord where
  nextInputOffset : UInt64 := 0
  eofReceived : Bool := false
  terminal : Bool := false
  errorSent : Bool := false
  /-- History. -/
  actions : List ShellAction := []
  deriving Repr, DecidableEq

namespace ShellRecord

variable (record : ShellRecord)

def act (action : ShellAction) : ShellRecord :=
  { record with actions := record.actions ++ [action] }

def sendError (status : StableStatus) (detail : String) : ShellRecord :=
  { record with errorSent := true }.act (.sendError status detail)

def finishTerminal : ShellRecord :=
  { record with terminal := true }

/-- `send_error` and `terminate_serving_child` in one. -/
def stop (status : StableStatus) (detail : String) : ShellRecord :=
  (record.sendError status detail).act (.terminate detail)

def handleInboundInput (offset : UInt64) (data : List UInt8) (written : Bool) : ShellRecord :=
  if record.eofReceived then record.stop .protocolError "input_after_eof"
  else
    let stop := offset + UInt64.ofNat data.length
    if offset = record.nextInputOffset then
      let record := { record with nextInputOffset := stop }
      if data = [] then record
      else if written then record.act (.writeStdin data)
      else record.stop .resourceExhausted "input_write_rejected"
    else if stop ≤ record.nextInputOffset then record
    else record.stop .protocolError "input_offset_conflict"

def handleInboundEof : ShellRecord :=
  if record.eofReceived then record else { record with eofReceived := true }.act .closeStdin

def handleExit (reason : ExitReason) : ShellRecord :=
  let noted := match reason.error? with
    | some (status, detail) => if record.errorSent then record else record.sendError status detail
    | none => record
  (noted.act .sendExit).finishTerminal

def step : ShellEvent → ShellRecord :=
  if record.terminal then fun _ => record
  else fun
    | .input offset data written => record.handleInboundInput offset data written
    | .eof => record.handleInboundEof
    | .signal allowed =>
      if allowed then record else record.sendError .unimplemented "signal_not_allowed"
    | .close => (record.act (.terminate "peer_close")).finishTerminal
    | .output flood => if flood then record.stop .resourceExhausted "output_window_flood" else record
    | .exit reason => record.handleExit reason
    | .spawnFailed detail =>
      (record.sendError .failedPrecondition
        (if detail = "" then "spawn_failed" else detail)).finishTerminal
    | .inputRejected => record.stop .resourceExhausted "input_pending_limit"
    | .closeShell => record.act (.terminate "local_close")
    | .sessionClosed => (record.act (.terminate "session_closed")).finishTerminal

end ShellRecord

end Heyaki
