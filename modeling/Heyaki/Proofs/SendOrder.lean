/-
Purpose: whether the frames of a stream reach the transport in the order in which the
stream emitted them.

A stream opens with a frame of the standard class, sends its data in the bulk class, and
ends with one of the control class.  The scheduler keeps the order within a class and
serves control first, so that the end of a stream overtakes data that waits.  The order
is kept in those runs in which a frame of a stream finds all waiting ones in its class.

Main exports: `ofStream`, `PeerSession.stream_frames_sent_in_order`,
`PeerSession.fin_overtakes_data`
-/
import Heyaki.Client.StreamFrames
import Heyaki.Foundation.Lanes
import Heyaki.Proofs.ByteStreamLink
import Heyaki.Proofs.PeerSessionGate

namespace Heyaki

open Foundation
open Foundation.Lanes (InLine)
open Foundation.Machine (EachAllowed Reaches)
open SessionRecord SessionChannelManager StreamFrame Function List

/-- The frames that open, carry and end a stream. -/
def orderedTypes : List FrameType := [.streamOpen, .streamData, .streamFin, .streamReset]

/-- A frame that opens, carries or ends the stream, on its channel. -/
def ofStream (channel : UInt32) (stream : StreamId) (queued : QueuedSendFrame) : Bool :=
  queued.channelId == channel &&
    orderedTypes.any fun type =>
      type.code == queued.frame.type && (head stream type).isPrefixOf queued.frame.payload

theorem StreamFrame.length_head (id other : StreamId) (type : FrameType) :
    (head id type).length = (head other type).length := by
  unfold head
  split_ifs
  · rw [id.size, other.size]
  · simp only [ProtoCodec.appendBytes, length_append, id.size, other.size]

theorem StreamFrame.head_injective {id other : StreamId} {type : FrameType}
    (same : head id type = head other type) : id = other := by
  have bytes : id.bytes = other.bytes := by
    unfold head at same
    split_ifs at same
    · exact same
    · unfold ProtoCodec.appendBytes at same
      rw [id.size, other.size] at same
      exact append_cancel_left (append_cancel_left same)
  cases id
  cases other
  cases bytes
  rfl

/-- What a stream hands to its session is found under the id of that stream only. -/
theorem ofStream_payload (channel channelId : UInt32) (stream id : StreamId) (klass : FrameClass)
    (flags : UInt8) (messageId : MessageId) (connect : List UInt8) (frame : StreamFrame) :
    ofStream channel stream ⟨channelId, klass,
        ⟨frame.type.code, flags, channelId, messageId, frame.payload id connect⟩⟩ = true ↔
      channelId = channel ∧ frame.type ∈ orderedTypes ∧ id = stream := by
  have codes : ∀ type ∈ orderedTypes, type.code = frame.type.code → type = frame.type := by
    generalize frame.type = sent
    cases sent <;> decide
  simp only [ofStream, Bool.and_eq_true, beq_iff_eq, any_eq_true, isPrefixOf_iff_prefix]
  constructor
  · rintro ⟨onChannel, type, ordered, code, starts⟩
    obtain rfl := codes type ordered code
    refine ⟨onChannel, ordered, ?_⟩
    have length := length_head stream id frame.type
    have heads : head stream frame.type <+: head id frame.type :=
      prefix_of_prefix_length_le starts (prefix_append _ _) length.le
    exact (head_injective (heads.eq_of_length length)).symm
  · rintro ⟨onChannel, ordered, rfl⟩
    exact ⟨onChannel, frame.type, ordered, rfl, prefix_append _ _⟩

def SessionRecord.emission? : SessionRecord → Option QueuedSendFrame
  | .emitted channelId klass frame => some ⟨channelId, klass, frame⟩
  | _ => none

def SessionRecord.transmission? : SessionRecord → Option QueuedSendFrame
  | .sent _ queued => some queued
  | _ => none

namespace PeerSession

/-- The frames of the stream wait in line behind those that were sent. -/
structure Line (channel : UInt32) (stream : StreamId) (queues : FrameClass → List QueuedSendFrame)
    (log : List SessionRecord) : Prop where
  classes : ∀ klass, ∀ queued ∈ queues klass, queued.frameClass = klass
  line : InLine (ofStream channel stream) queues (log.filterMap emission?)
    (log.filterMap transmission?)

variable (channel : UInt32) (stream : StreamId) {entry : SessionRecord} {queued : QueuedSendFrame}
  {channelId : UInt32}

def SendsInOrder (session : PeerSession) : Prop :=
  Line channel stream session.channels.queues session.log

def emittedOf (session : PeerSession) : List QueuedSendFrame :=
  (session.log.filterMap emission?).filter (ofStream channel stream)

/-- The frames of the stream that the transport took, in that order. -/
def sentOf (session : PeerSession) : List QueuedSendFrame :=
  (session.log.filterMap transmission?).filter (ofStream channel stream)

/-- A frame of the stream finds all that wait in its class. -/
def FindsClass (session : PeerSession) : LocalCall → Prop
  | .sendFrame channelId klass frame => ofStream channel stream ⟨channelId, klass, frame⟩ = true →
      ∀ other, other ≠ klass → (session.channels.queues other).filter (ofStream channel stream) = []
  | _ => True

/-- The calls that a domain handler makes for a frame. -/
def HandlerFindsClass (session : PeerSession) (env : SessionEnv) (frame : Frame) : Prop :=
  ∀ domain token,
    EachAllowed (fun session entry => session.call entry.1 entry.2)
      (fun session entry => FindsClass channel stream session entry.2)
      (session.record (.admitted domain token frame)) (env.admitFrame frame).1

/-- Every frame of the stream that the event sends finds the waiting ones in its class. -/
def KeepsClass (session : PeerSession) (event : SessionEnv × SessionEvent) : Prop :=
  match event.2 with
  | .call call => FindsClass channel stream session call
  | received => ∀ frame, session.businessFrame received = some frame →
      HandlerFindsClass channel stream session event.1 frame

namespace Line

variable {channel : UInt32} {stream : StreamId} {queues after : FrameClass → List QueuedSendFrame}
  {log : List SessionRecord} {klass : FrameClass}

theorem record (line : Line channel stream queues log)
    (emission : entry.emission? = none) (transmission : entry.transmission? = none) :
    Line channel stream queues (log ++ [entry]) := by
  refine ⟨line.classes, ?_⟩
  simpa [emission, transmission] using line.line

theorem fewer (line : Line channel stream queues log)
    (fewer : ∀ klass, (after klass).Sublist (queues klass)) : Line channel stream after log :=
  ⟨InClasses.fewer line.classes fewer, line.line.fewer fewer⟩

section

variable (line : Line channel stream queues log)

include line

theorem sent {rest : List QueuedSendFrame}
    (front : queues klass = queued :: rest) (physical : TransportChannel) :
    Line channel stream (update queues klass rest) (log ++ [.sent physical queued]) := by
  constructor
  · exact InClasses.update line.classes fun later member =>
      line.classes klass later (front ▸ mem_cons_of_mem _ member)
  · have left := line.line.leave front
    rw [filterMap_append, filterMap_append, filterMap_cons_none rfl,
      filterMap_nil, append_nil]
    exact left

theorem emitted {frame : Frame} (finds : ofStream channel stream ⟨channelId, klass, frame⟩ = true →
      ∀ other, other ≠ klass → (queues other).filter (ofStream channel stream) = []) :
    Line channel stream (update queues klass (queues klass ++ [⟨channelId, klass, frame⟩]))
      (log ++ [.emitted channelId klass frame]) := by
  refine ⟨InClasses.push line.classes channelId frame, ?_⟩
  have entered := line.line.enter finds
  have kept : (log ++ [SessionRecord.emitted channelId klass frame]).filterMap SessionRecord.transmission? =
      log.filterMap transmission? := by
    rw [filterMap_append, filterMap_cons_none rfl, filterMap_nil, append_nil]
  rw [kept, filterMap_append]
  exact entered

end

end Line

namespace SendsInOrder

variable {channel : UInt32} {stream : StreamId} {session : PeerSession}
  {channels : SessionChannelManager} {frame : Frame}

section

variable (inOrder : SendsInOrder channel stream session)

include inOrder

theorem record (emission : entry.emission? = none) (transmission : entry.transmission? = none) :
    SendsInOrder channel stream (session.record entry) :=
  Line.record inOrder emission transmission

theorem returned (next : session.channels.nextToSend = some (queued, channels)) :
    SendsInOrder channel stream { session with channels := channels.returnToSend queued } := by
  obtain ⟨klass, rest, front, queues⟩ := nextToSend_queues next
  have own : queued.frameClass = klass := inOrder.classes klass queued (front ▸ mem_cons_self ..)
  have restored : (channels.returnToSend queued).queues = session.channels.queues := by
    rw [queues_returnToSend, queues, own, update_self,
      update_idem, ← front, update_eq_self]
  show Line channel stream (channels.returnToSend queued).queues session.log
  rw [restored]
  exact inOrder

theorem sent
    (next : session.channels.nextToSend = some (queued, channels)) (physical : TransportChannel) :
    SendsInOrder channel stream
      ({ session with channels := channels }.record (.sent physical queued)) := by
  obtain ⟨klass, rest, front, queues⟩ := nextToSend_queues next
  have sent := Line.sent inOrder front physical
  rw [← queues] at sent
  exact sent

/-- Frames of the session itself are on channel zero. -/
theorem control (business : channel ≠ 0) {klass : FrameClass} {receipt : EnqueueReceipt}
    (admitted : session.channels.enqueue 0 klass frame = (.ok receipt, channels)) :
    SendsInOrder channel stream { session with channels := channels } := by
  obtain ⟨kept, fewer, left⟩ := enqueue_admitted admitted
  show Line channel stream channels.queues session.log
  rw [left]
  have line := Line.fewer inOrder fewer
  refine ⟨InClasses.push line.classes 0 frame, line.line.pass ?_⟩
  simp [ofStream, Ne.symm business]

end

/-- The configuration stays, and the order if it was kept before. -/
def Kept (channel : UInt32) (stream : StreamId) (session after : PeerSession) : Prop :=
  after.config = session.config ∧
    (SendsInOrder channel stream session → SendsInOrder channel stream after)

/-- Whatever the session does without a frame of a service keeps the order. -/
theorem walk (stream : StreamId) (business : channel ≠ 0) : Walk (Kept channel stream) where
  trans first second := ⟨second.1.trans first.1, second.2 ∘ first.2⟩
  config kept := kept.1
  same calm log channels := by
    refine ⟨calm.config, fun inOrder => ?_⟩
    unfold SendsInOrder
    rw [log, channels]
    exact inOrder
  closed _ := ⟨rfl, fun inOrder => inOrder.record rfl rfl⟩
  active _ := ⟨rfl, fun inOrder => inOrder.record rfl rfl⟩
  record {_ entry} plain := by
    refine ⟨rfl, fun inOrder => ?_⟩
    cases entry with
    | state | delivered | admitted | evaluated | presented | emitted | sent => exact plain.elim
    | _ => exact inOrder.record rfl rfl
  fewer fewer := ⟨rfl, fun inOrder => Line.fewer inOrder fewer⟩
  returned next := ⟨rfl, fun inOrder => inOrder.returned next⟩
  sent next := ⟨rfl, fun inOrder => inOrder.sent next _⟩
  control admitted := ⟨rfl, fun inOrder => inOrder.control business admitted⟩
  opened session channelId handler := by
    refine ⟨(calm_registerHandler session channelId handler).config, fun inOrder => ?_⟩
    unfold PeerSession.registerHandler
    dsimp only
    split_ifs
    · exact inOrder.record rfl rfl
    · exact inOrder.record rfl rfl
  dropped session channelId :=
    ⟨rfl, fun inOrder => Line.fewer inOrder (session.channels.queues_closeChannel_sublist channelId)⟩

/-- A frame of the stream enters the queue of its class and is noted. -/
theorem sendFrame (inOrder : SendsInOrder channel stream session) (business : channel ≠ 0)
    (env : CallEnv) {klass : FrameClass}
    (finds : FindsClass channel stream session (.sendFrame channelId klass frame)) :
    SendsInOrder channel stream (session.sendFrame env channelId klass frame).2 := by
  have walk := walk stream business
  unfold PeerSession.sendFrame
  dsimp only
  split
  · exact inOrder
  have ensured := (walk.ensurePhysicalChannel session
    ((frameTypeDomain frame.type).getD .message)).2 inOrder
  have queues : (session.ensurePhysicalChannel ((frameTypeDomain frame.type).getD .message)
      ).channels.queues = session.channels.queues := by
    unfold PeerSession.ensurePhysicalChannel
    split_ifs <;> rfl
  generalize session.ensurePhysicalChannel _ = ready at ensured queues ⊢
  split
  · rename_i refused
    exact Line.fewer ensured (enqueue_refused refused)
  rename_i receipt channels admitted
  obtain ⟨kept, fewer, left⟩ := enqueue_admitted admitted
  apply (walk.pump env).2
  show Line channel stream channels.queues (ready.log ++ [_])
  rw [left]
  apply (Line.fewer ensured fewer).emitted
  intro selected other different
  have none := (fewer other).filter (ofStream channel stream)
  rw [queues, finds selected other different] at none
  exact sublist_nil.mp none

theorem call (business : channel ≠ 0) (env : CallEnv) {call : LocalCall}
    (finds : FindsClass channel stream session call) :
    Kept channel stream session (session.call env call) := by
  apply (walk stream business).call env call
  rintro channelId klass frame rfl
  exact ⟨(calm_sendFrame env klass frame).config,
    fun inOrder => inOrder.sendFrame business env finds⟩

theorem calls (business : channel ≠ 0) {calls : List (CallEnv × LocalCall)}
    (finds : EachAllowed (fun session entry => session.call entry.1 entry.2)
      (fun session entry => FindsClass channel stream session entry.2) session calls) :
    Kept channel stream session
      (calls.foldl (fun session (env, call) => session.call env call) session) := by
  induction calls generalizing session with
  | nil => exact (walk stream business).refl session
  | cons entry calls ih =>
    exact (walk stream business).trans (call business entry.1 finds.1) (ih finds.2)

theorem served (business : channel ≠ 0) {event : SessionEnv × SessionEvent}
    (keeps : KeepsClass channel stream session event) :
    Served (Kept channel stream) session event := by
  obtain ⟨env, event⟩ := event
  cases event with
  | call call =>
    refine ⟨fun _ _ received => absurd received nofun, fun same => ?_⟩
    cases same
    exact SendsInOrder.call business env.toCallEnv keeps
  | _ => exact ⟨fun domain token received => calls business (keeps _ received domain token), nofun⟩

theorem step (inOrder : SendsInOrder channel stream session) (business : channel ≠ 0)
    (event : SessionEnv × SessionEvent) (keeps : KeepsClass channel stream session event) :
    SendsInOrder channel stream (session.step event) := by
  have path := (walk stream business).path_step (served business keeps)
  generalize session.step event = after at path ⊢
  cases path with
  | calm kept | hello _ _ kept => exact kept.2 inOrder
  | start _ kept | admitted _ _ _ _ kept => exact kept.2 (inOrder.record rfl rfl)
  | asked entry called kept =>
    apply kept.2
    cases entry with
    | evaluated | presented => exact inOrder.record rfl rfl
    | _ => exact called.elim
  | @authorized _ start _ _ _ authority kept _ =>
    have started : SendsInOrder channel stream start := by
      cases authority with
      | noAuthorizer | trusted => exact inOrder
      | evaluated | accepted => exact inOrder.record rfl rfl
    exact (kept.2 started).record rfl rfl
  | restricted _ _ _ kept _ => exact Line.record (kept.2 inOrder) rfl rfl
  | delivered => exact (((walk stream business).activate session).2 inOrder).record rfl rfl

end SendsInOrder

/-- The transport gets the frames of a stream in the order in which they were emitted. -/
theorem stream_frames_sent_in_order {channel : UInt32} (business : channel ≠ 0)
    (stream : StreamId) {session : PeerSession}
    (run : Reaches step Created (KeepsClass channel stream) session) :
    (sentOf channel stream session).Sublist (emittedOf channel stream session) := by
  have inOrder : SendsInOrder channel stream session := by
    apply run.invariant
    · rintro _ ⟨config, admission, budgets, -, rfl⟩
      exact ⟨fun _ _ member => absurd member not_mem_nil, Lanes.inLine_empty .control⟩
    · intro session event inOrder keeps
      exact inOrder.step business event keeps
  exact inOrder.line.order

/-! ### A stream of one byte -/

/-- A stream is opened, gets its credit, carries a byte and ends. -/
def oneByte : List (Side × Op) := [
  (.left, .openStream streamOne 8 8 none), (.right, Heyaki.arrival), (.left, Heyaki.arrival),
  (.left, writing [65]), (.left, .shutdownWrite streamOne [])]

def oneByteFrames : List StreamFrame := .streamOpen 8 8 false :: (slotAfter oneByte .left).out

def streamChannel : TransportChannel := { id := 2, kind := .stream }

def wouldBlock : Error := { code := .wouldBlock, component := "transport", safeDetail := "full" }

/-- The sample session with a channel for streams, of id 1. -/
def streamEvents : List (SessionEnv × SessionEvent) :=
  sampleEvents.take 3 ++
    [(sampleEnv [], .call (.openBusinessChannel .stream .reject 1024 (8 * 1024 * 1024) 6)),
      (sampleEnv [], .physicalOpened .stream (.ok streamChannel))]

/-- The frames are sent one after the other, with the transport's answers to each call. -/
def sendEvents (frames : List StreamFrame) (answers : List (List (Except Error Unit))) :
    List (SessionEnv × SessionEvent) :=
  (frames.zip answers).map fun (frame, answers) =>
    (sampleEnv answers, .call (frame.sendCall 1 streamOne []))

/-- The byte waits in the transport's way until the end of the stream is sent. -/
def blockedEvents : List (SessionEnv × SessionEvent) :=
  streamEvents ++ sendEvents oneByteFrames [[.ok ()], [.error wouldBlock], [.ok (), .ok ()]]

/-- The byte is sent before the end of the stream is emitted. -/
def drainedEvents : List (SessionEnv × SessionEvent) :=
  streamEvents ++ sendEvents (oneByteFrames.take 2) [[.ok ()], [.error wouldBlock]] ++
    [(sampleEnv [.ok ()], .writable)] ++ sendEvents (oneByteFrames.drop 2) [[.ok ()]]

theorem keepsClass_of_idle {channel : UInt32} {stream : StreamId} {session : PeerSession}
    {env : SessionEnv} {event : SessionEvent}
    (none : session.businessFrame event = none)
    (idle : ∀ klass, session.channels.queues klass = []) :
    KeepsClass channel stream session (env, event) := by
  have finds : ∀ call, FindsClass channel stream session call := by
    intro call
    cases call with
    | sendFrame channelId klass frame =>
      intro _ other _
      rw [idle other, filter_nil]
    | _ => trivial
  cases event with
  | call call => exact finds call
  | _ =>
    intro frame received
    rw [none] at received
    cases received

theorem drainedEvents_keepsClass :
    EachAllowed step (KeepsClass 1 streamOne) sampleSession drainedEvents := by
  unfold drainedEvents
  rw [show oneByteFrames = [.streamOpen 8 8 false, .streamData 0 1 [65], .streamFin 1] by
    decide +kernel]
  -- only the pump runs while the byte waits
  refine ⟨keepsClass_of_idle rfl ?_, keepsClass_of_idle rfl ?_,
    keepsClass_of_idle (by decide +kernel) ?_, trivial, keepsClass_of_idle rfl ?_,
    keepsClass_of_idle rfl ?_, keepsClass_of_idle rfl ?_, fun _ received => (by cases received),
    keepsClass_of_idle rfl ?_, trivial⟩
  all_goals
    intro klass
    cases klass <;> decide +kernel

theorem stream_frames_sent_in_order_drained :
    (emittedOf 1 streamOne (drainedEvents.foldl step sampleSession)).length = 3 ∧
      (sentOf 1 streamOne (drainedEvents.foldl step sampleSession)).Sublist
        (emittedOf 1 streamOne (drainedEvents.foldl step sampleSession)) := by
  refine ⟨by decide +kernel, stream_frames_sent_in_order (by decide) streamOne ?_⟩
  exact (Reaches.start sampleSession_created).foldl drainedEvents_keepsClass

/-- The end of the stream overtakes its byte; the receiver, which the opening frame
has reached, then resets the stream. -/
theorem fin_overtakes_data :
    Reaches step Created (fun _ _ => True) (blockedEvents.foldl step sampleSession) ∧
      (emittedOf 1 streamOne (blockedEvents.foldl step sampleSession)).map (·.frame.type) =
        [FrameType.streamOpen.code, FrameType.streamData.code, FrameType.streamFin.code] ∧
      (sentOf 1 streamOne (blockedEvents.foldl step sampleSession)).map (·.frame.type) =
        [FrameType.streamOpen.code, FrameType.streamFin.code, FrameType.streamData.code] ∧
      (slotAfter (oneByte.take 2) .right).handle.map (fun handle =>
          (handleStreamFrame {} (.streamFin 1) { handle := handle }).out) =
        some [.streamReset StableStatus.protocolError.code] := by
  refine ⟨?_, ?_, ?_, ?_⟩
  · exact (Reaches.start sampleSession_created).foldl (Machine.eachAllowed_true _ blockedEvents)
  · decide +kernel
  · decide +kernel
  · decide +kernel

end PeerSession

end Heyaki
