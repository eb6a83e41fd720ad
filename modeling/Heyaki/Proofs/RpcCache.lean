/-
Purpose: the window within which a request is not executed twice.

A terminal response is in the result cache until the responses behind it fill
the cache, by number or by bytes, provided that each eviction takes the oldest
result.  The result cache is ordered by request id, so that it need not.

Main exports: `Caches`, `rpc_at_most_once`, `rpc_executed_twice`
-/
import Heyaki.Foundation.Window
import Heyaki.Proofs.RpcServer

namespace Heyaki

open Foundation
open SortedMap Window List

/-- What a terminal response takes up in a cache with this budget. -/
def RpcRecord.resultBytes (budget : Nat) : RpcRecord → Nat
  | .terminal _ _ digest response =>
    if response.length + digest.length ≤ budget then response.length + digest.length else 0
  | _ => 0

namespace RpcService

variable {records : List RpcRecord}

def resultBytes (budget : Nat) (log : List RpcRecord) : Nat := (log.map (·.resultBytes budget)).sum

variable {hash : List UInt8 → List UInt8} {strict : Prop} {service after : RpcService} {total : Nat}
  {cache : SortedMap RequestId CachedResult}

/-! ### Terminal responses of a log -/

theorem terminalIds_append (one two : List RpcRecord) :
    terminalIds (one ++ two) = terminalIds one ++ terminalIds two :=
  filterMap_append ..

theorem resultBytes_append (budget : Nat) (one two : List RpcRecord) :
    resultBytes budget (one ++ two) = resultBytes budget one + resultBytes budget two := by
  unfold resultBytes
  rw [map_append, sum_append]

def Unfinal (records : List RpcRecord) : Prop :=
  ∀ id request digest response, .terminal id request digest response ∉ records

theorem Unfinal.terminalIds (unfinal : Unfinal records) : terminalIds records = [] := by
  refine filterMap_eq_nil_iff.mpr fun record member => ?_
  split
  · exact absurd member (unfinal _ _ _ _)
  · rfl

theorem Unfinal.resultBytes (unfinal : Unfinal records) (budget : Nat) :
    resultBytes budget records = 0 := by
  refine sum_eq_zero fun bytes member => ?_
  obtain ⟨record, inRecords, rfl⟩ := mem_map.mp member
  unfold RpcRecord.resultBytes
  split
  · exact absurd inRecords (unfinal _ _ _ _)
  · rfl

theorem drop_terminalIds (before after : List RpcRecord) (id : RequestId)
    (request digest response : List UInt8) :
    (terminalIds (before ++ .terminal id request digest response :: after)).drop
      ((terminalIds before).length + 1) = terminalIds after := by
  rw [terminalIds_append, drop_append]
  simp [terminalIds]

/-! ### Evictions -/

section Evictions

variable (config : RpcServiceConfig) (bytes rounds : Nat)

theorem evict_total (cache : SortedMap RequestId CachedResult)
    (exact_ : total = weight CachedResult.bytes cache) :
    (evict config bytes rounds cache total).2 =
      weight CachedResult.bytes (evict config bytes rounds cache total).1 := by
  induction rounds generalizing cache total with
  | zero => exact exact_
  | succ rounds ih =>
    unfold evict
    split
    · split
      · exact exact_
      · rename_i id first isFirst
        refine ih _ ?_
        rw [exact_, weight_first isFirst, Nat.add_sub_cancel_left]
    · exact exact_

theorem evict_younger (cache : SortedMap RequestId CachedResult) (total position : Nat) :
    weight CachedResult.bytes (younger CachedResult.order position
      (evict config bytes rounds cache total).1) ≤
    weight CachedResult.bytes (younger CachedResult.order position cache) := by
  induction rounds generalizing cache total with
  | zero => exact Nat.le_refl _
  | succ rounds ih =>
    unfold evict
    split
    · split
      · exact Nat.le_refl _
      · exact (ih _ _).trans (weight_younger_dropFirst position cache)
    · exact Nat.le_refl _

/-- The evictions end with room in the cache or with nothing in it. -/
theorem evict_full (cache : SortedMap RequestId CachedResult) (total : Nat)
    (full : cacheFull config bytes (evict config bytes cache.size cache total).1
      (evict config bytes cache.size cache total).2 = true) :
    (evict config bytes cache.size cache total).1.size = 0 := by
  generalize rounds_eq : cache.size = rounds at full ⊢
  induction rounds generalizing cache total with
  | zero => exact rounds_eq
  | succ rounds ih =>
    unfold evict at full ⊢
    split
    · rename_i isFull
      rw [if_pos isFull] at full
      split
      · rename_i isFirst
        exact first?_eq_none_iff.mp isFirst
      rename_i id first isFirst
      rw [isFirst] at full
      refine ih cache.dropFirst _ ?_ full
      rw [size_dropFirst, rounds_eq, Nat.add_sub_cancel]
    · rename_i notFull
      rw [if_neg notFull] at full
      exact absurd full notFull

/-- The result was the oldest of a part of the cache that left no room. -/
def GivenUp (config : RpcServiceConfig) (bytes : Nat) (cache : SortedMap RequestId CachedResult)
    (id : RequestId) (result : CachedResult) : Prop :=
  ∃ part : SortedMap RequestId CachedResult,
    (∀ other later, part.find? other = some later → cache.find? other = some later) ∧
    part.find? id = some result ∧
    (∀ other later, part.find? other = some later → result.order ≤ later.order) ∧
    cacheFull config bytes part (weight CachedResult.bytes part) = true ∧
    weight CachedResult.bytes (younger CachedResult.order result.order part) ≤
      weight CachedResult.bytes (younger CachedResult.order result.order cache)

theorem evict_cases {id : RequestId}
    {result : CachedResult} (exact_ : total = weight CachedResult.bytes cache)
    (oldest : EvictsOldest config bytes rounds cache total) (found : cache.find? id = some result) :
    (evict config bytes rounds cache total).1.find? id = some result ∨
      GivenUp config bytes cache id result := by
  induction rounds generalizing cache total with
  | zero => exact .inl found
  | succ rounds ih =>
    unfold evict
    split
    · rename_i isFull
      split
      · exact .inl found
      rename_i firstId first isFirst
      obtain ⟨isOldest, rest⟩ := oldest isFull firstId first isFirst
      by_cases same : id = firstId
      · subst same
        cases found.symm.trans (find?_of_first? isFirst)
        exact .inr ⟨cache, fun _ _ inside => inside, found, isOldest, exact_ ▸ isFull, Nat.le_refl _⟩
      · have smaller {other : RequestId} {later : CachedResult}
            (inRest : cache.dropFirst.find? other = some later) :
            cache.find? other = some later := by
          rw [find?_dropFirst isFirst] at inRest
          split at inRest
          · cases inRest
          · exact inRest
        have stillThere : cache.dropFirst.find? id = some result := by
          rw [find?_dropFirst isFirst, if_neg same]
          exact found
        have exactRest : total - first.bytes = weight CachedResult.bytes cache.dropFirst := by
          rw [exact_, weight_first isFirst, Nat.add_sub_cancel_left]
        rcases ih exactRest rest stillThere with kept | ⟨part, sub, inPart, isOld, full, light⟩
        · exact .inl kept
        · exact .inr ⟨part, fun other later inside => smaller (sub other later inside), inPart,
            isOld, full, light.trans (weight_younger_dropFirst _ cache)⟩
    · exact .inl found

end Evictions

/-! ### The invariant -/

/-- The responses behind this one have filled the cache, by number or by bytes. -/
def Overrun (config : RpcServiceConfig) (id : RequestId) (bytes : Nat)
    (after : List RpcRecord) : Prop :=
  config.resultCacheEntries ≤ others id (terminalIds after) ∨
  config.resultCacheBytes < bytes + resultBytes config.resultCacheBytes after

/-- The response at this place of the log is cached. -/
def Cached (service : RpcService) (before : List RpcRecord) (id : RequestId)
    (digest response : List UInt8) (after : List RpcRecord) : Prop :=
  ∃ result, service.resultCache.find? id = some result ∧
    result.encodedResponse = response ∧ result.requestDigest = digest ∧
    result.order = (terminalIds before).length ∧
    weight CachedResult.bytes
      (younger CachedResult.order result.order service.resultCache) ≤
      resultBytes service.config.resultCacheBytes after

structure Caches (hash : List UInt8 → List UInt8) (service : RpcService) : Prop where
  total : service.cachedBytes = weight CachedResult.bytes service.resultCache
  sized : ∀ id result, service.resultCache.find? id = some result →
    result.bytes = result.encodedResponse.length + result.requestDigest.length
  indexed : Window.Indexed CachedResult.order (terminalIds service.log) service.resultCache
  digests : ∀ id request digest response, .terminal id request digest response ∈ service.log →
    digest = hash request
  held : ∀ before id request digest response after,
    service.log = before ++ .terminal id request digest response :: after →
    Overrun service.config id (response.length + digest.length) after ∨
      service.Cached before id digest response after

theorem Caches.keep (caches : Caches hash service) (unfinal : Unfinal records)
    (config : after.config = service.config) (resultCache : after.resultCache = service.resultCache)
    (cachedBytes : after.cachedBytes = service.cachedBytes)
    (log : after.log = service.log ++ records) : Caches hash after := by
  have ids : terminalIds after.log = terminalIds service.log := by
    rw [log, terminalIds_append, unfinal.terminalIds, append_nil]
  refine ⟨?_, ?_, ?_, ?_, ?_⟩
  · rw [cachedBytes, resultCache]
    exact caches.total
  · rw [resultCache]
    exact caches.sized
  · rw [ids, resultCache]
    exact caches.indexed
  · intro id request digest response member
    rw [log] at member
    exact caches.digests id request digest response
      ((mem_append.mp member).resolve_right (unfinal _ _ _ _))
  · intro before id request digest response rest split
    rw [log] at split
    obtain ⟨tail, old, rfl⟩ := History.split_append_of_not_mem split (unfinal _ _ _ _)
    have sameIds : terminalIds (tail ++ records) = terminalIds tail := by
      rw [terminalIds_append, unfinal.terminalIds, append_nil]
    have sameBytes (budget : Nat) : resultBytes budget (tail ++ records) =
        resultBytes budget tail := by
      rw [resultBytes_append, unfinal.resultBytes, Nat.add_zero]
    unfold Overrun Cached
    rw [config, resultCache, sameIds, sameBytes]
    exact caches.held before id request digest response tail old

/-! ### Caching a response -/

section Store

variable {id : RequestId} {encoded request digest : List UInt8}

theorem Overrun.append {config : RpcServiceConfig} {bytes : Nat} {records : List RpcRecord}
    (overrun : Overrun config id bytes records) (later : List RpcRecord) :
    Overrun config id bytes (records ++ later) := by
  refine overrun.imp ?_ ?_
  · intro many
    rw [terminalIds_append]
    exact many.trans (others_le_append ..)
  · intro heavy
    rw [resultBytes_append]
    omega

theorem terminalIds_terminal (digest : List UInt8) :
    terminalIds [.terminal id request digest encoded] = [id] := rfl

theorem resultBytes_terminal {budget : Nat} (fits : encoded.length + digest.length ≤ budget) :
    resultBytes budget [.terminal id request digest encoded] = encoded.length + digest.length := by
  simp [resultBytes, RpcRecord.resultBytes, fits]

/-- The cache and its size after a response that fits was cached. -/
theorem cacheResult_fits (fits : encoded.length + digest.length ≤ service.config.resultCacheBytes)
    (evicted : evict service.config (encoded.length + digest.length) service.resultCache.size
      service.resultCache service.cachedBytes = (cache, total)) :
    service.cacheResult id encoded digest request = { service with
      log := service.log ++ [.terminal id request digest encoded]
      resultCache :=
        if cacheFull service.config (encoded.length + digest.length) cache total then cache
        else cache.insert id {
          encodedResponse := encoded, requestDigest := digest,
          bytes := encoded.length + digest.length, order := (terminalIds service.log).length }
      cachedBytes :=
        if cacheFull service.config (encoded.length + digest.length) cache total then total
        else total + (encoded.length + digest.length) } := by
  unfold cacheResult
  simp only [record, evicted]
  rw [if_neg (Nat.not_lt.mpr fits)]
  split <;> rfl

theorem Caches.digests_append (caches : Caches hash service) {other : RequestId}
    {otherRequest response : List UInt8} (member : .terminal other otherRequest digest response ∈
      service.log ++ [.terminal id request (hash request) encoded]) :
    digest = hash otherRequest := by
  rcases mem_append.mp member with old | new
  · exact caches.digests other otherRequest digest response old
  · cases mem_singleton.mp new
    rfl

theorem Caches.store_oversized (caches : Caches hash service)
    (large : service.config.resultCacheBytes < encoded.length + (hash request).length) :
    Caches hash (service.record [.terminal id request (hash request) encoded]) := by
  refine ⟨caches.total, caches.sized, ?_, ?_, ?_⟩
  · show Window.Indexed _ (terminalIds (service.log ++ _)) _
    rw [terminalIds_append]
    exact caches.indexed.append _
  · intro other otherRequest digest response member
    exact caches.digests_append member
  · intro before other otherRequest digest response rest split
    rcases History.split_append split with ⟨tail, old, rfl⟩ | ⟨front, -, new⟩
    · refine (caches.held before other otherRequest digest response tail old).imp
        (fun overrun => overrun.append _) ?_
      rintro ⟨result, found, sameResponse, sameDigest, order, light⟩
      refine ⟨result, found, sameResponse, sameDigest, order, ?_⟩
      rw [resultBytes_append]
      exact light.trans (Nat.le_add_right ..)
    · cases mem_singleton.mp (new ▸ mem_append_right front (.head rest))
      exact .inl (.inr (Nat.lt_of_lt_of_le large (Nat.le_add_right ..)))

/-- What is cached after a response that fits: the results that were not given up,
and the new one unless the cache has no entries. -/
structure Stored (service after : RpcService) (id : RequestId)
    (encoded digest : List UInt8) : Prop where
  config : after.config = service.config
  total : after.cachedBytes = weight CachedResult.bytes after.resultCache
  old : ∀ other result, other ≠ id → after.resultCache.find? other = some result →
    service.resultCache.find? other = some result
  kept : ∀ other result, service.resultCache.find? other = some result →
    GivenUp service.config (encoded.length + digest.length) service.resultCache other result ∨
    after.resultCache.find? other = some result ∧
      weight CachedResult.bytes (younger CachedResult.order result.order after.resultCache) ≤
      weight CachedResult.bytes
        (younger CachedResult.order result.order service.resultCache) +
        (encoded.length + digest.length)
  new : after.resultCache.find? id = none ∧ service.config.resultCacheEntries = 0 ∨
    after.resultCache.find? id = some {
      encodedResponse := encoded, requestDigest := digest,
      bytes := encoded.length + digest.length, order := (terminalIds service.log).length }

section

variable (caches : Caches hash service) (uncached : service.resultCache.find? id = none)

include caches uncached

theorem Caches.stored (fits : encoded.length + digest.length ≤ service.config.resultCacheBytes)
    (inOrder : service.CacheInOrder encoded digest) :
    Stored service (service.cacheResult id encoded digest request) id encoded digest := by
  have exact_ := evict_total service.config (encoded.length + digest.length)
    service.resultCache.size service.resultCache caches.total
  have lighter := evict_younger service.config (encoded.length + digest.length)
    service.resultCache.size service.resultCache service.cachedBytes
  have isEmpty := evict_full service.config (encoded.length + digest.length) service.resultCache
    service.cachedBytes
  have cases {other : RequestId} {result : CachedResult}
      (found : service.resultCache.find? other = some result) :=
    evict_cases _ _ service.resultCache.size caches.total (inOrder fits) found
  have sub {result : CachedResult} := @find?_evict id service.config result
    (encoded.length + digest.length) service.resultCache.size service.resultCache
    service.cachedBytes
  generalize evicted : evict service.config (encoded.length + digest.length)
    service.resultCache.size service.resultCache service.cachedBytes = pair at *
  obtain ⟨cache, total⟩ := pair
  dsimp only at *
  have absent : cache.find? id = none := by
    refine Option.eq_none_iff_forall_not_mem.mpr fun result found => ?_
    rw [sub found] at uncached
    cases uncached
  have old {other : RequestId} {result : CachedResult} (apart : other ≠ id)
      (found : (service.cacheResult id encoded digest request).resultCache.find? other =
        some result) := (find?_cacheResult found).resolve_left apart
  rw [cacheResult_fits fits evicted] at old ⊢
  by_cases full : cacheFull service.config (encoded.length + digest.length) cache total = true
  · simp only [full, if_true] at old ⊢
    have empty := isEmpty full
    refine ⟨rfl, exact_, fun _ _ => old, fun other result found => ?_, .inl ⟨absent, ?_⟩⟩
    · exact (cases found).symm.imp_right fun kept => ⟨kept, (lighter _).trans (Nat.le_add_right ..)⟩
    · unfold cacheFull at full
      rw [empty, exact_, weight_of_size_zero empty, Nat.zero_add] at full
      simpa [Nat.not_lt.mpr fits] using full
  · simp only [full, Bool.false_eq_true, if_false] at old ⊢
    refine ⟨rfl, ?_, fun _ _ => old, fun other result found => ?_, .inr ?_⟩
    · rw [weight_insert _ absent, exact_]
      exact Nat.add_comm ..
    · refine (cases found).symm.imp_right fun kept => ?_
      have apart : other ≠ id := by
        rintro rfl
        rw [uncached] at found
        cases found
      refine ⟨by rw [find?_insert, if_neg apart]; exact kept, ?_⟩
      have later : result.order < (terminalIds service.log).length :=
        (List.getElem?_eq_some_iff.mp (caches.indexed other result found)).1
      rw [weight_younger_insert absent later]
      have light := lighter result.order
      dsimp only
      omega
    · exact find?_insert_self ..

/-- A place that was held still is: what is given up for a response has been overrun by it. -/
theorem Caches.held_stored
    (fits : encoded.length + digest.length ≤ service.config.resultCacheBytes)
    (stored : Stored service after id encoded digest) {before rest : List RpcRecord}
    {other : RequestId} {otherRequest otherDigest response : List UInt8}
    (log : service.log = before ++ .terminal other otherRequest otherDigest response :: rest) :
    Overrun service.config other (response.length + otherDigest.length)
        (rest ++ [.terminal id request digest encoded]) ∨
      after.Cached before other otherDigest response
        (rest ++ [.terminal id request digest encoded]) := by
  rcases caches.held before other otherRequest otherDigest response rest log with
    overrun | ⟨result, found, sameResponse, sameDigest, order, light⟩
  · exact .inl (overrun.append _)
  rcases stored.kept other result found with
    ⟨part, sub, found, oldest, full, younger⟩ | ⟨kept, lighter⟩
  · have indexed := caches.indexed.of_find? sub
    rcases Bool.or_eq_true_iff.mp full with many | heavy
    · refine .inl (.inl ((of_decide_eq_true many).trans ?_))
      have absent : part.find? id = none := by
        refine Option.eq_none_iff_forall_not_mem.mpr fun later inside => ?_
        rw [sub id later inside] at uncached
        cases uncached
      have bound := indexed.size_le_others found oldest absent
      rw [log, order, drop_terminalIds] at bound
      rw [terminalIds_append, terminalIds_terminal]
      exact bound
    · refine .inl (.inr ?_)
      have heavy := of_decide_eq_true heavy
      have split : weight CachedResult.bytes part = _ := indexed.weight_oldest found oldest
      have size := caches.sized other result (sub other result found)
      rw [sameResponse, sameDigest] at size
      rw [resultBytes_append, resultBytes_terminal fits]
      omega
  · refine .inr ⟨result, kept, sameResponse, sameDigest, order, ?_⟩
    rw [stored.config, resultBytes_append, resultBytes_terminal fits]
    omega

theorem Caches.store_fits
    (fits : encoded.length + (hash request).length ≤ service.config.resultCacheBytes)
    (inOrder : service.CacheInOrder encoded (hash request)) :
    Caches hash (service.cacheResult id encoded (hash request) request) := by
  have stored : Stored service (service.cacheResult id encoded (hash request) request) id encoded
      (hash request) := caches.stored uncached fits inOrder
  have log : (service.cacheResult id encoded (hash request) request).log =
      service.log ++ [.terminal id request (hash request) encoded] := by
    rw [cacheResult_eq]
  generalize service.cacheResult id encoded (hash request) request = after at stored log
  have ids : terminalIds after.log = terminalIds service.log ++ [id] := by
    rw [log, terminalIds_append, terminalIds_terminal]
  -- A cached result is the new one or an old one.
  have origin {other : RequestId} {result : CachedResult}
      (found : after.resultCache.find? other = some result) :
      other = id ∧ result = {
        encodedResponse := encoded, requestDigest := hash request,
        bytes := encoded.length + (hash request).length,
        order := (terminalIds service.log).length } ∨
      service.resultCache.find? other = some result := by
    by_cases same : other = id
    · subst same
      rcases stored.new with ⟨none, -⟩ | new
      · rw [none] at found
        cases found
      · cases found.symm.trans new
        exact .inl ⟨rfl, rfl⟩
    · exact .inr (stored.old other result same found)
  have indexed : Window.Indexed CachedResult.order (terminalIds after.log) after.resultCache := by
    intro other result found
    rw [ids]
    rcases origin found with ⟨rfl, rfl⟩ | old
    · exact getElem?_concat_length
    · exact caches.indexed.append [id] other result old
  refine ⟨stored.total, ?_, indexed, ?_, ?_⟩
  · intro other result found
    rcases origin found with ⟨-, rfl⟩ | old
    · rfl
    · exact caches.sized other result old
  · intro other otherRequest digest response member
    rw [log] at member
    exact caches.digests_append member
  · intro before other otherRequest digest response rest split
    rw [log] at split
    rw [stored.config]
    rcases History.split_append split with ⟨tail, old, rfl⟩ | ⟨front, beforeEq, new⟩
    · exact caches.held_stored uncached fits stored old
    · cases front with
      | cons head front => simp at new
      | nil =>
        cases new
        rw [append_nil] at beforeEq
        subst beforeEq
        rcases stored.new with ⟨-, noEntries⟩ | isNew
        · exact .inl (.inl (noEntries ▸ Nat.zero_le _))
        refine .inr ⟨_, isNew, rfl, rfl, rfl, ?_⟩
        rw [indexed.weight_younger_last]
        · exact Nat.zero_le _
        · rw [ids, length_append]
          rfl

theorem Caches.store (inOrder : service.CacheInOrder encoded (hash request)) :
    Caches hash (service.cacheResult id encoded (hash request) request) := by
  by_cases fits : encoded.length + (hash request).length ≤ service.config.resultCacheBytes
  · exact caches.store_fits uncached fits inOrder
  · rw [show service.cacheResult id encoded (hash request) request = _ from
      if_pos (Nat.not_le.mp fits)]
    exact caches.store_oversized (Nat.not_le.mp fits)

end

end Store

theorem unfinal_nil : Unfinal [] := nofun

theorem Caches.move (caches : Caches hash service) (move : Move hash True service after) :
    Caches hash after := by
  have unlogged {after : RpcService} (config : after.config = service.config)
      (resultCache : after.resultCache = service.resultCache)
      (cachedBytes : after.cachedBytes = service.cachedBytes) (log : after.log = service.log) :
      Caches hash after :=
    caches.keep unfinal_nil config resultCache cachedBytes (by rw [log, append_nil])
  cases move with
  | quiet records plain same log =>
    exact caches.keep (fun _ _ _ _ member => plain _ member) same.config same.resultCache
      same.cachedBytes log
  | reject call rejected digest | adjust serial call change found keeps
  | post finish call found accepted | unpost index | drop keep turned =>
    exact unlogged rfl rfl rfl rfl
  | start call queued fresh digest uncached idle room =>
    exact caches.keep (by simp [Unfinal]) rfl rfl rfl rfl
  | run serial call found queued | turn serial call found isOpen active
  | abandon serial call found isOpen | respond channelId response isOpen | lose idle =>
    exact caches.keep (by simp [Unfinal]) rfl rfl rfl rfl
  | store id encoded request uncached turned inOrder => exact caches.store uncached (inOrder trivial)

theorem caches_initial (initial : Initial service) : Caches hash service := by
  obtain ⟨config, limits, channelId, clock, -, rfl⟩ := initial_eq initial
  refine ⟨rfl, nofun, nofun, nofun, ?_⟩
  intro before id request digest response rest split
  cases before <;> cases split

/-! ### A request that is cached -/

def NoStart (service after : RpcService) : Prop :=
  Adds (fun record => ∀ serial, record ≠ .started serial) service after

theorem noStart_sendResponse (channelId : UInt32) (response : List UInt8) (reply : SendReply) :
    NoStart service (service.sendResponse channelId response reply) := by
  have sent : NoStart service (service.sendFrame (.responseSent channelId response) reply).2 := by
    refine adds_sendFrame nofun (fun record ofLoss serial same => ?_) reply
    rw [same] at ofLoss
    exact ofLoss
  unfold sendResponse
  split
  · rename_i taken
    rwa [taken] at sent
  · rename_i refused
    rw [refused] at sent
    exact sent.trans (adds_one .responseSendFailed nofun rfl)

section Retransmission

variable {frame : Frame} {replies : FrameReplies} {request : RpcRequestBody} {result : CachedResult}

/-- A cached request is answered from the cache if its bytes have the same digest. -/
theorem handleRequest_cached
    (parsed : parseRpcRequest frame.payload service.limits = .ok request)
    (cached : service.resultCache.find? request.requestId = some result) :
    service.handleRequest hash frame replies =
      if result.requestDigest = hash frame.payload then
        (service.record [.requestReceived, .replayed request.requestId]).sendResponse
          frame.channelId result.encodedResponse replies.sent
      else service.record [.requestReceived, .conflicting request.requestId,
        .channelFailed frame.channelId] := by
  have received : (service.record [.requestReceived]).requestVerdict request
      (hash frame.payload) replies =
      if result.requestDigest = hash frame.payload then .replay result else .conflict := by
    unfold requestVerdict
    rw [show (service.record [.requestReceived]).resultCache.find? request.requestId =
      some result from cached]
  have joined (records : List RpcRecord) : (service.record [.requestReceived]).record records =
      service.record (.requestReceived :: records) := by
    simp [record]
  unfold handleRequest
  dsimp only
  rw [show parseRpcRequest frame.payload (service.record [.requestReceived]).limits = .ok request
    from parsed]
  dsimp only
  rw [received]
  by_cases same : result.requestDigest = hash frame.payload
  · rw [if_pos same, if_pos same]
    exact congrArg (sendResponse _ _ _) (joined _)
  · rw [if_neg same, if_neg same]
    exact joined _

end Retransmission

end RpcService

namespace RpcOwner

open RpcService

variable {hash : List UInt8 → List UInt8} {owner : RpcOwner}

/-- A request whose terminal response has not been overrun by those of other
requests is answered with the same bytes when it is sent again, and no handler
is dispatched for its id whatever the bytes, when each eviction takes the oldest
result. -/
theorem rpc_at_most_once (run : Run hash (CachesInOrder hash) owner)
    {before after : List RpcRecord} {id : RequestId} {request digest response : List UInt8}
    (log : owner.service.log = before ++ .terminal id request digest response :: after)
    (few : others id (terminalIds after) < owner.service.config.resultCacheEntries)
    (light : response.length + digest.length +
      resultBytes owner.service.config.resultCacheBytes after ≤
        owner.service.config.resultCacheBytes)
    {frame : Frame} {replies : FrameReplies} {body : RpcRequestBody}
    (isRequest : frame.type = FrameType.rpcRequest.code) (adopted : replies.adopted = none)
    (parsed : parseRpcRequest frame.payload owner.service.limits = .ok body)
    (sameId : body.requestId = id) :
    (frame.payload = request →
      (owner.step hash (.service (.frame frame replies))).service =
        (owner.service.record [.requestReceived, .replayed id]).sendResponse frame.channelId
          response replies.sent) ∧
    NoStart owner.service (owner.step hash (.service (.frame frame replies))).service := by
  have inOrder : True → ∀ (owner : RpcOwner) (event : Event), owner.CachesInOrder hash event →
      owner.CachesInOrder hash event := fun _ _ _ ok => ok
  obtain ⟨-, caches⟩ : _ ∧ Caches hash owner.service :=
    invariant run inOrder (fun _ => caches_initial) fun _ _ _ caches move => caches.move move
  obtain ⟨result, cached, sameResponse, sameDigest, -, -⟩ :
      owner.service.Cached before id digest response after := by
    refine (caches.held before id request digest response after log).resolve_left ?_
    rintro (many | heavy)
    · exact absurd few (Nat.not_lt.mpr many)
    · exact absurd light (Nat.not_le.mpr heavy)
  have digestEq : digest = hash request :=
    caches.digests id request digest response (log ▸ mem_append_right before (.head after))
  have taken : owner.service.handleFrame hash frame replies =
      owner.service.handleRequest hash frame replies := by
    unfold RpcService.handleFrame RpcService.admitFrame
    rw [attached_run run, isRequest, adopted]
    rfl
  have handled : (owner.step hash (.service (.frame frame replies))).service = _ :=
    taken.trans (handleRequest_cached parsed (sameId ▸ cached))
  rw [handled, sameId]
  refine ⟨fun identical => ?_, ?_⟩
  · rw [if_pos (by rw [sameDigest, digestEq, identical]), sameResponse]
  · split
    · refine Adds.trans ⟨[.requestReceived, .replayed id], rfl, ?_⟩ (noStart_sendResponse ..)
      simp
    · exact ⟨_, rfl, by simp⟩

/-! ### Sample runs -/

theorem cacheInOrder_of_empty {service : RpcService} {encoded digest : List UInt8}
    (empty : service.resultCache.size = 0) : service.CacheInOrder encoded digest := by
  unfold CacheInOrder
  rw [empty]
  exact fun _ => trivial

theorem cachesInOrder_of_empty {event : RpcService.Event}
    (empty : owner.service.resultCache.size = 0) (noSweep : ∀ replies, event ≠ .prune replies) :
    owner.CachesInOrder hash (.service event) := by
  cases event with
  | frame frame replies =>
    exact ⟨fun _ _ _ _ _ _ _ _ => cacheInOrder_of_empty empty,
      fun _ _ _ _ _ _ _ _ _ _ => cacheInOrder_of_empty empty⟩
  | posted index reply => exact fun _ _ _ _ _ _ _ => cacheInOrder_of_empty empty
  | prune replies => exact absurd rfl (noSweep replies)
  | _ => trivial

def executed : List Event := sampleArrival 1 :: sampleFinish

theorem run_executed : Run id (CachesInOrder id) (executed.foldl (step id) (sampleOwner 2)) := by
  refine Machine.Reaches.foldl (.start (sampleOwner_initial 2 (by decide))) ⟨?_, ?_, ?_, ?_, trivial⟩
  all_goals exact cachesInOrder_of_empty (by decide +kernel) nofun

/-- The response to it: the handler gave no detail. -/
def sampleResponse : List UInt8 :=
  rpcResponseBytes
    { requestId := sampleRequestId 1
      status := StableStatus.ok.wire
      safeDetail := asciiBytes "handler_detail_invalid"
      payload := [] }

theorem rpc_at_most_once_executed :
    let owner := executed.foldl (step id) (sampleOwner 2)
    (owner.step id (sampleArrival 1)).service = (owner.service.record
      [.requestReceived, .replayed (sampleRequestId 1)]).sendResponse 2 sampleResponse .accepted := by
  have log : (executed.foldl (step id) (sampleOwner 2)).service.log =
      [.requestReceived, .started 0, .handlerRan 0, .answered 0] ++
        .terminal (sampleRequestId 1) (rpcRequestBytes (sampleRequest 1))
          (rpcRequestBytes (sampleRequest 1)) sampleResponse :: [.responseSent 2 sampleResponse] := by
    decide +kernel
  have parsed : parseRpcRequest (sampleRequestFrame 1).payload
      (executed.foldl (step id) (sampleOwner 2)).service.limits = .ok (sampleRequest 1) := by
    decide +kernel
  exact (rpc_at_most_once run_executed log (by decide +kernel) (by decide +kernel) rfl rfl parsed
    rfl).1 rfl

/-- Two requests with larger ids are refused before the request is executed, and a
third one after it. -/
def overtaken : List Event :=
  [sampleArrival 5 false, sampleArrival 6 false] ++ executed ++ [sampleArrival 7 false]

/-- The third refusal evicts the newer result, because it has the smallest id, and the
request is executed a second time. -/
theorem rpc_executed_twice :
    let owner := overtaken.foldl (step id) (sampleOwner 2)
    Run id (fun _ _ => True) owner ∧ owner.service.config.resultCacheEntries = 2 ∧
      (∃ before after, owner.service.log = before ++ .terminal (sampleRequestId 1)
          (sampleRequestFrame 1).payload (sampleRequestFrame 1).payload sampleResponse :: after ∧
        others (sampleRequestId 1) (terminalIds after) = 1 ∧
        sampleResponse.length + (sampleRequestFrame 1).payload.length +
          resultBytes owner.service.config.resultCacheBytes after ≤
            owner.service.config.resultCacheBytes) ∧
      (owner.step id (sampleArrival 1)).service.log =
        owner.service.log ++ [.requestReceived, .started 1] := by
  refine ⟨Machine.Reaches.foldl (.start (sampleOwner_initial 2 (by decide)))
    (Machine.eachAllowed_true ..), rfl, ?_, by decide +kernel⟩
  exact ⟨(overtaken.foldl (step id) (sampleOwner 2)).service.log.take 12,
    (overtaken.foldl (step id) (sampleOwner 2)).service.log.drop 13, by decide +kernel,
    by decide +kernel, by decide +kernel⟩

end RpcOwner

end Heyaki
