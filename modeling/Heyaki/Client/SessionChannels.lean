/-
Purpose: logical channels, budgets and the weighted send scheduler of one session
(`session_channels.cpp`).

Queued frames wait in one queue for each class.  A class sends while it has
tokens, in the order of the classes; when every class with frames is out of
tokens all of them are refilled.  Sizes are `Nat`.  `frame_wire_size` dereferences
a failed result for a frame above the frame limit; here it has the value of the
formula there too.  Capacity waits, which no caller in the source registers, and
the counters for snapshots are left out.
-/
import Heyaki.Core.Wire
import Heyaki.Foundation.SortedMap

namespace Heyaki

open Foundation (SortedMap)
open Function

def sessionChannelError (code : ErrorCode) (detail : String) : Error :=
  { code := code, component := "session_channels", safeDetail := detail }

/-! ### Domains and classes -/

inductive ChannelDomain where
  | control | message | rpc | event | file | shell | stream
  deriving Repr, Inhabited, DecidableEq

inductive FrameClass where
  | control | interactive | standard | bulk
  deriving Repr, Inhabited, DecidableEq

/-- The classes in the order in which they are served. -/
def frameClasses : List FrameClass := [.control, .interactive, .standard, .bulk]

def frameClassWeight : FrameClass → Nat
  | .control => 8
  | .interactive => 8
  | .standard => 4
  | .bulk => 1

def isControlDomainFrameType (type : UInt8) : Bool :=
  type < FrameType.message.code

/-- The domain of a known business frame type. -/
def FrameType.domain : FrameType → Option ChannelDomain
  | .message | .messageAck => some .message
  | .rpcRequest | .rpcResponse | .rpcCancel => some .rpc
  | .eventSubscribe | .eventItem | .eventUnsubscribe => some .event
  | .fileManifest | .fileAccept | .fileChunk | .fileComplete | .fileReject => some .file
  | .shellOpen | .shellInput | .shellOutput | .shellResize | .shellSignal | .shellExit
  | .shellEof | .shellError | .shellClose => some .shell
  | .streamOpen | .streamData | .streamWindowUpdate | .streamFin | .streamReset => some .stream
  | _ => none

def frameTypeDomain (type : UInt8) : Option ChannelDomain :=
  (FrameType.all.find? fun known => known.code == type).bind FrameType.domain

/-! ### Budgets -/

structure ChannelBudgetConfig where
  maxOpenChannels : Nat := 16
  perPeerQueuedFrames : Nat := 1024
  perPeerQueuedBytes : Nat := 8 * mib
  controlReservedFrames : Nat := 64
  controlReservedBytes : Nat := 64 * kib
  maxChannelQueuedFrames : Nat := 1024
  maxChannelQueuedBytes : Nat := 8 * mib
  deriving Repr, Inhabited, DecidableEq

def validateChannelBudgetConfig (config : ChannelBudgetConfig) : Except Error Unit :=
  let invalid (detail : String) := sessionChannelError .configuration detail
  let maxQueuedFrames := 65536
  let maxQueuedBytes := 256 * mib
  if config.maxOpenChannels = 0 ∨ config.maxOpenChannels > 1024 then
    .error (invalid "max_open_channels_invalid")
  else if config.perPeerQueuedFrames = 0 ∨ config.perPeerQueuedFrames > maxQueuedFrames ∨
      config.perPeerQueuedBytes = 0 ∨ config.perPeerQueuedBytes > maxQueuedBytes then
    .error (invalid "per_peer_budget_invalid")
  else if config.controlReservedFrames = 0 ∨ config.controlReservedBytes = 0 then
    .error (invalid "control_reservation_invalid")
  else if config.maxChannelQueuedFrames = 0 ∨ config.maxChannelQueuedFrames > maxQueuedFrames ∨
      config.maxChannelQueuedBytes = 0 ∨ config.maxChannelQueuedBytes > maxQueuedBytes then
    .error (invalid "channel_queue_bounds_invalid")
  else if config.controlReservedFrames > config.perPeerQueuedFrames ∨
      config.controlReservedBytes > config.perPeerQueuedBytes then
    .error (invalid "control_reservation_exceeds_budget")
  else .ok ()

inductive QueueFullPolicy where
  | reject | dropOldest | keepLatest
  deriving Repr, Inhabited, DecidableEq

structure ChannelState where
  domain : ChannelDomain := .message
  policy : QueueFullPolicy := .reject
  queuedFrameCapacity : Nat := 0
  queuedByteCapacity : Nat := 0
  queuedFrames : Nat := 0
  queuedBytes : Nat := 0
  deriving Repr, Inhabited, DecidableEq

structure QueuedSendFrame where
  channelId : UInt32
  frameClass : FrameClass
  frame : Frame
  deriving Repr, DecidableEq

structure EnqueueReceipt where
  admitted : Bool := false
  droppedPrevious : Bool := false
  droppedFrames : Nat := 0
  deriving Repr, Inhabited, DecidableEq

/-- Body and length of a frame on the wire. -/
def frameWireSize (frame : Frame) : Nat :=
  varintSize (UInt32.ofNat (frameBodySize frame)) + frameBodySize frame

structure SessionChannelManager where
  config : ChannelBudgetConfig := {}
  /-- The open channels by the value of their id. -/
  channels : SortedMap Nat ChannelState := {}
  queues : FrameClass → List QueuedSendFrame := fun _ => []
  tokens : FrameClass → Nat := frameClassWeight
  businessQueuedFrames : Nat := 0
  businessQueuedBytes : Nat := 0
  controlQueuedFrames : Nat := 0
  controlQueuedBytes : Nat := 0

namespace SessionChannelManager

/-! ### Channels -/

variable (manager : SessionChannelManager) (channelId : UInt32)

def hasChannel : Bool :=
  manager.channels.contains channelId.toNat

def channelDomain : Option ChannelDomain :=
  (manager.channels.find? channelId.toNat).map ChannelState.domain

def openChannel (domain : ChannelDomain) (policy : QueueFullPolicy)
    (frameCapacity byteCapacity : Nat) : Except Error Unit × SessionChannelManager :=
  let refuse (code : ErrorCode) (detail : String) : Except Error Unit × SessionChannelManager :=
    (.error (sessionChannelError code detail), manager)
  if channelId = 0 ∨ domain = .control then refuse .configuration "business_channel_id_invalid"
  else if manager.channels.size ≥ manager.config.maxOpenChannels ∧
      !manager.hasChannel channelId then
    refuse .resourceExhausted "open_channel_limit"
  else if frameCapacity = 0 ∨ frameCapacity > manager.config.maxChannelQueuedFrames then
    refuse .configuration "channel_frame_capacity_invalid"
  else if byteCapacity = 0 ∨ byteCapacity > manager.config.maxChannelQueuedBytes then
    refuse .configuration "channel_byte_capacity_invalid"
  else if manager.hasChannel channelId then refuse .configuration "channel_id_in_use"
  else
    (.ok (), { manager with
      channels := manager.channels.insert channelId.toNat {
        domain := domain, policy := policy, queuedFrameCapacity := frameCapacity,
        queuedByteCapacity := byteCapacity } })

/-- The first candidate of the loop that is free, of as many as are left. -/
def freeChannelId (manager : SessionChannelManager) : Nat → Nat → Option UInt32
  | _, 0 => none
  | candidate, rounds + 1 =>
    if candidate < 2 * manager.config.maxOpenChannels + 2 then
      if manager.channels.contains candidate then freeChannelId manager (candidate + 2) rounds
      else some (UInt32.ofNat candidate)
    else none

/-- The initiator of the session takes odd ids and the responder even ones. -/
def allocateChannel (initiatorRole : Bool) (domain : ChannelDomain) (policy : QueueFullPolicy)
    (frameCapacity byteCapacity : Nat) : Except Error UInt32 × SessionChannelManager :=
  match manager.freeChannelId (if initiatorRole then 1 else 2)
      (manager.config.maxOpenChannels + 1) with
  | none =>
    (.error (sessionChannelError .resourceExhausted "channel_id_space_exhausted"), manager)
  | some channelId =>
    match manager.openChannel channelId domain policy frameCapacity byteCapacity with
    | (.error error, manager) => (.error error, manager)
    | (.ok (), manager) => (.ok channelId, manager)

/-- Frames of the channel leave every queue; those of the control class stay in the
count of the control reservation. -/
def closeChannel : SessionChannelManager :=
  match manager.channels.find? channelId.toNat with
  | none => manager
  | some channel =>
    { manager with
      channels := manager.channels.erase channelId.toNat
      queues := fun klass =>
        (manager.queues klass).filter fun queued => decide (queued.channelId ≠ channelId)
      businessQueuedFrames := manager.businessQueuedFrames - channel.queuedFrames
      businessQueuedBytes := manager.businessQueuedBytes - channel.queuedBytes }

/-! ### Enqueueing -/

variable (queued : QueuedSendFrame)

def push : SessionChannelManager :=
  { manager with
    queues := update manager.queues queued.frameClass
      (manager.queues queued.frameClass ++ [queued]) }

def enqueueControl (frame : Frame) : Except Error EnqueueReceipt × SessionChannelManager :=
  if manager.controlQueuedFrames + 1 > manager.config.controlReservedFrames then
    (.error (sessionChannelError .wouldBlock "control_reservation_full"), manager)
  else
    let size := frameWireSize frame
    if manager.controlQueuedBytes + size > manager.config.controlReservedBytes then
      (.error (sessionChannelError .wouldBlock "control_reservation_full"), manager)
    else
      (.ok { admitted := true },
        { manager with
          controlQueuedFrames := manager.controlQueuedFrames + 1
          controlQueuedBytes := manager.controlQueuedBytes + size }.push
            { channelId := channelId, frameClass := .control, frame := frame })

def chargeDrop (channel : ChannelState) (dropped : List QueuedSendFrame) : SessionChannelManager :=
  let bytes := (dropped.map fun queued => frameWireSize queued.frame).sum
  { manager with
    channels := manager.channels.insert channelId.toNat { channel with
      queuedFrames := channel.queuedFrames - dropped.length
      queuedBytes := channel.queuedBytes - bytes }
    businessQueuedFrames := manager.businessQueuedFrames - dropped.length
    businessQueuedBytes := manager.businessQueuedBytes - bytes }

/-- The first class in order that has a frame of the channel. -/
def oldestClass : Option FrameClass :=
  frameClasses.find? fun klass => (manager.queues klass).any fun queued =>
    decide (queued.channelId = channelId)

/-- Make room as the policy of the channel says; `none` when the frame is refused. -/
def evict (channel : ChannelState) : Option (SessionChannelManager × EnqueueReceipt) :=
  match channel.policy with
  | .reject => none
  | .dropOldest =>
    if channel.queuedFrames = 0 then some (manager, {})
    else
      match manager.oldestClass channelId with
      | none => some (manager, {})
      | some klass =>
        let queue := manager.queues klass
        let dropped := (queue.find? fun queued => decide (queued.channelId = channelId)).toList
        let kept := queue.eraseP fun queued => decide (queued.channelId = channelId)
        some ({ manager with queues := update manager.queues klass kept }.chargeDrop
          channelId channel dropped, { droppedPrevious := true, droppedFrames := 1 })
  | .keepLatest =>
    let dropped := (frameClasses.map fun klass =>
      (manager.queues klass).filter fun queued => decide (queued.channelId = channelId)).flatten
    if dropped.isEmpty then some (manager, {})
    else
      some ({ manager with
        queues := fun klass =>
          (manager.queues klass).filter fun queued => decide (queued.channelId ≠ channelId) }.chargeDrop
            channelId channel dropped,
        { droppedPrevious := true, droppedFrames := dropped.length })

def enqueueBusiness (channel : ChannelState) (channelId : UInt32) (klass : FrameClass)
    (frame : Frame) : Except Error EnqueueReceipt × SessionChannelManager :=
  let size := frameWireSize frame
  let full (channel : ChannelState) : Bool :=
    channel.queuedFrames + 1 > channel.queuedFrameCapacity ||
      channel.queuedBytes + size > channel.queuedByteCapacity
  if manager.businessQueuedFrames + 1 > manager.config.perPeerQueuedFrames ∨
      manager.businessQueuedBytes + size > manager.config.perPeerQueuedBytes then
    (.error (sessionChannelError .wouldBlock "per_peer_budget_full"), manager)
  else
    -- a channel that keeps the latest frame evicts on every enqueue
    let room := if full channel || channel.policy == .keepLatest then
        manager.evict channelId channel
      else some (manager, {})
    match room with
    | none => (.error (sessionChannelError .wouldBlock "channel_queue_full"), manager)
    | some (manager, receipt) =>
      let channel := (manager.channels.find? channelId.toNat).getD channel
      if full channel then
        (.error (sessionChannelError .wouldBlock "channel_queue_full"), manager)
      else
        (.ok { receipt with admitted := true },
          { manager with
            channels := manager.channels.insert channelId.toNat { channel with
              queuedFrames := channel.queuedFrames + 1
              queuedBytes := channel.queuedBytes + size }
            businessQueuedFrames := manager.businessQueuedFrames + 1
            businessQueuedBytes := manager.businessQueuedBytes + size }.push
              { channelId := channelId, frameClass := klass, frame := frame })

/-- Frames of the control class need no open channel. -/
def enqueue (klass : FrameClass) (frame : Frame) :
    Except Error EnqueueReceipt × SessionChannelManager :=
  if klass = .control then manager.enqueueControl channelId frame
  else
    match manager.channels.find? channelId.toNat with
    | none => (.error (sessionChannelError .protocol "channel_not_open"), manager)
    | some channel => manager.enqueueBusiness channel channelId klass frame

/-! ### Sending -/

def hasSendableFrames : Bool :=
  frameClasses.any fun klass => !(manager.queues klass).isEmpty

def queuedCount : Nat :=
  (frameClasses.map fun klass => (manager.queues klass).length).sum

def refillTokens : SessionChannelManager :=
  { manager with tokens := frameClassWeight }

/-- The first class with frames and tokens. -/
def readyClass : Option FrameClass :=
  frameClasses.find? fun klass =>
    !(manager.queues klass).isEmpty && decide (0 < manager.tokens klass)

/-- The counters after a frame has left its queue. -/
def discharge : SessionChannelManager :=
  let size := frameWireSize queued.frame
  if queued.frameClass = .control then
    { manager with
      controlQueuedFrames := manager.controlQueuedFrames - 1
      controlQueuedBytes := manager.controlQueuedBytes - size }
  else
    { manager with
      channels := match manager.channels.find? queued.channelId.toNat with
        | none => manager.channels
        | some channel => manager.channels.insert queued.channelId.toNat { channel with
            queuedFrames := channel.queuedFrames - 1
            queuedBytes := channel.queuedBytes - size }
      businessQueuedFrames := manager.businessQueuedFrames - 1
      businessQueuedBytes := manager.businessQueuedBytes - size }

def takeFrom (klass : FrameClass) : Option (QueuedSendFrame × SessionChannelManager) :=
  match manager.queues klass with
  | [] => none
  | queued :: rest =>
    some (queued, { manager with
      queues := update manager.queues klass rest
      tokens := update manager.tokens klass (manager.tokens klass - 1) }.discharge queued)

def nextToSend : Option (QueuedSendFrame × SessionChannelManager) :=
  match manager.readyClass with
  | some klass => manager.takeFrom klass
  | none =>
    if manager.hasSendableFrames then
      manager.refillTokens.readyClass.bind manager.refillTokens.takeFrom
    else none

/-- The frame goes back to the head of its queue; the token it took is gone. -/
def returnToSend : SessionChannelManager :=
  let size := frameWireSize queued.frame
  let charged := if queued.frameClass = .control then
      { manager with
        controlQueuedFrames := manager.controlQueuedFrames + 1
        controlQueuedBytes := manager.controlQueuedBytes + size }
    else
      { manager with
        channels := match manager.channels.find? queued.channelId.toNat with
          | none => manager.channels
          | some channel => manager.channels.insert queued.channelId.toNat { channel with
              queuedFrames := channel.queuedFrames + 1
              queuedBytes := channel.queuedBytes + size }
        businessQueuedFrames := manager.businessQueuedFrames + 1
        businessQueuedBytes := manager.businessQueuedBytes + size }
  { charged with
    queues := update charged.queues queued.frameClass
      (queued :: charged.queues queued.frameClass) }

end SessionChannelManager

end Heyaki
