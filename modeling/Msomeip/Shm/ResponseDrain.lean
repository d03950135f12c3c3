import Msomeip.Library.Ring
import Msomeip.Shm.Responses

namespace Msomeip.Shm

open BigEndian

def Response.notification (response : Response) : Option ResponseEffect :=
  if response.type = .serviceAvailable ∨ response.type = .serviceUnavailable then
    match response.payload with
    | s0 :: s1 :: i0 :: i1 :: _ =>
      some (.available (word16 s0 s1) (word16 i0 i1) (response.type = .serviceAvailable))
    | _ => none
  else if response.type = .subscriptionAck ∨ response.type = .subscriptionNack then
    match response.payload with
    | s0 :: s1 :: i0 :: i1 :: e0 :: e1 :: _ :: _ =>
      some (.subscription (word16 s0 s1) (word16 i0 i1) (word16 e0 e1))
    | _ => none
  else none

namespace ResponseRegion

def payloadLength (queueData : Nat → UInt8) (index : Nat) : UInt32 :=
  let start := responseSize * index
  word32 (queueData (start + 5)) (queueData (start + 6)) (queueData (start + 7))
    (queueData (start + 8))

def slot (queueData : Nat → UInt8) (index : Nat) : Response :=
  let start := responseSize * index
  { sequence := word32 (queueData start) (queueData (start + 1)) (queueData (start + 2))
      (queueData (start + 3))
    type := ⟨queueData (start + 4)⟩
    payload := Memory.readAt queueData (start + 9) (payloadLength queueData index).toNat }

/-- The responses in the queue, from the read index on. -/
def queued (region : ResponseRegion) (count : Nat) : List Response :=
  Ring.contents (slot region.queueData) region.queue.capacity.toNat region.queue.readIndex.toNat
    count

end ResponseRegion

/-- Everything in the queue has been handled, and nothing else has changed. -/
structure Drained (before : ResponseRegion) (handled : List Handled) (after : ResponseRegion) :
    Prop where
  notified : handled.flatMap Handled.effects =
    (before.queued before.queue.count.toNat).filterMap Response.notification
  once : handled.length = before.queue.count.toNat
  count : after.queue.count = 0
  readIndex : after.queue.readIndex.toNat =
    (before.queue.readIndex.toNat + before.queue.count.toNat) % before.queue.capacity.toNat
  writeIndex : after.queue.writeIndex = before.queue.writeIndex
  capacity : after.queue.capacity = before.queue.capacity
  slots : after.queueData = before.queueData

structure ResponseQueue.Sound (queue : ResponseQueue) : Prop where
  positive : 1 ≤ queue.capacity.toNat
  read : queue.readIndex.toNat < queue.capacity.toNat
  room : queue.count.toNat ≤ queue.capacity.toNat

/-- Payloads of the `count` slots in use have at most the size of a slot's. -/
def PayloadsFit (region : ResponseRegion) (count : Nat) : Prop :=
  ∀ index < count, (ResponseRegion.payloadLength region.queueData
    ((region.queue.readIndex.toNat + index) % region.queue.capacity.toNat)).toNat ≤ payloadSize

/-- The `count` slots in use start at offsets of 32 bits. -/
def OffsetsFit (queue : ResponseQueue) (count : Nat) : Prop :=
  ∀ index < count,
    responseSize * ((queue.readIndex.toNat + index) % queue.capacity.toNat) < 2 ^ 32

theorem dispatch_notification (response : Response) :
    dispatch ⟨true, true⟩ response = response.notification.toList := by
  obtain ⟨sequence, type, payload⟩ := response
  unfold dispatch Response.notification
  dsimp only
  have other : RouteResponseType.serviceUnavailable ≠ .serviceAvailable := by decide
  by_cases up : type = .serviceAvailable
  · simp only [up, if_true, true_or, decide_true]
    rcases payload with _ | ⟨s0, _ | ⟨s1, _ | ⟨i0, _ | ⟨i1, rest⟩⟩⟩⟩ <;> rfl
  · by_cases down : type = .serviceUnavailable
    · simp only [down, other, if_true, if_false, or_true, decide_false]
      rcases payload with _ | ⟨s0, _ | ⟨s1, _ | ⟨i0, _ | ⟨i1, rest⟩⟩⟩⟩ <;> rfl
    · simp only [up, down, if_false, or_self]
      by_cases answered : type = .subscriptionAck ∨ type = .subscriptionNack
      · rw [if_pos answered, if_pos answered]
        rcases payload with
          _ | ⟨s0, _ | ⟨s1, _ | ⟨i0, _ | ⟨i1, _ | ⟨e0, _ | ⟨e1, _ | ⟨e2, rest⟩⟩⟩⟩⟩⟩⟩ <;> rfl
      · rw [if_neg answered, if_neg answered]
        rfl

/-- A copy of a slot, in front of whatever stands behind the local array, holds its response. -/
theorem readResponse_slot (queueData beyond : Nat → UInt8) {index : Nat}
    (fits : (ResponseRegion.payloadLength queueData index).toNat ≤ payloadSize) :
    (readResponse queueData beyond (responseSize * index)).val =
      ResponseRegion.slot queueData index := by
  set start := responseSize * index
  have copied : ∀ place < responseBufferSize,
      Tracked.buffer (Memory.readAt queueData start responseBufferSize) beyond place =
        queueData (start + place) := by
    intro place inside
    rw [Tracked.buffer_of_lt _ _ _ (by rwa [Memory.readAt_length])]
    simp [Memory.readAt]
  have length : word32 (queueData (start + 5)) (queueData (start + 6)) (queueData (start + 7))
      (queueData (start + 8)) = ResponseRegion.payloadLength queueData index := rfl
  have payload : Memory.readAt
      (Tracked.buffer (Memory.readAt queueData start responseBufferSize) beyond) 9
        (ResponseRegion.payloadLength queueData index).toNat =
      Memory.readAt queueData (start + 9)
        (ResponseRegion.payloadLength queueData index).toNat := by
    apply List.map_congr_left
    intro place member
    have inside := List.mem_range.mp member
    unfold payloadSize at fits
    rw [copied (9 + place) (by unfold responseBufferSize; omega), Nat.add_assoc]
  unfold readResponse
  simp only [Tracked.val_bind, Tracked.val_pure, Tracked.readRange]
  rw [copied 0 (by decide), copied 1 (by decide), copied 2 (by decide), copied 3 (by decide),
    copied 4 (by decide), copied 5 (by decide), copied 6 (by decide), copied 7 (by decide),
    copied 8 (by decide), length, payload]
  rfl

section Loop

variable {region : ResponseRegion} {count : Nat} (beyond : Nat → Nat → UInt8)

theorem handleResponse_slot (handlers : Handlers) (beyond : Nat → UInt8)
    (start : responseSize * region.queue.readIndex.toNat < 2 ^ 32)
    (fits : (ResponseRegion.payloadLength region.queueData
      region.queue.readIndex.toNat).toNat ≤ payloadSize) :
    (handleResponse handlers region beyond).1.effects =
      dispatch handlers (ResponseRegion.slot region.queueData region.queue.readIndex.toNat) := by
  have size : (UInt32.ofNat responseSize).toNat = responseSize := by decide
  have offset : (region.queue.readIndex * UInt32.ofNat responseSize).toNat =
      responseSize * region.queue.readIndex.toNat := by
    rw [UInt32.toNat_mul, size, Nat.mul_comm]
    exact Nat.mod_eq_of_lt start
  change dispatch handlers (readResponse region.queueData beyond
    (region.queue.readIndex * UInt32.ofNat responseSize).toNat).val = _
  rw [offset, readResponse_slot region.queueData beyond fits]

theorem handleResponse_readIndex (handlers : Handlers) (beyond : Nat → UInt8)
    (read : region.queue.readIndex.toNat < region.queue.capacity.toNat) :
    (handleResponse handlers region beyond).2.queue.readIndex.toNat =
      (region.queue.readIndex.toNat + 1) % region.queue.capacity.toNat := by
  have bound := region.queue.capacity.toNat_lt
  change ((region.queue.readIndex + 1) % region.queue.capacity).toNat = _
  rw [UInt32.toNat_mod, UInt32.toNat_add, UInt32.toNat_one, Nat.mod_eq_of_lt (a := _ + 1)]
  omega

section Turn

variable (handlers : Handlers) (beyond : Nat → UInt8)
  (read : region.queue.readIndex.toNat < region.queue.capacity.toNat)

include read

theorem handleResponse_advances (index : Nat) :
    ((handleResponse handlers region beyond).2.queue.readIndex.toNat + index) %
        region.queue.capacity.toNat =
      (region.queue.readIndex.toNat + (index + 1)) % region.queue.capacity.toNat := by
  rw [handleResponse_readIndex handlers beyond read, Nat.mod_add_mod, Nat.add_assoc, Nat.add_comm 1]

theorem handleResponse_offsetsFit (starts : OffsetsFit region.queue (count + 1)) :
    OffsetsFit (handleResponse handlers region beyond).2.queue count := by
  intro index below
  have next := starts (index + 1) (Nat.succ_lt_succ below)
  rw [← handleResponse_advances handlers beyond read] at next
  exact next

theorem handleResponse_payloadsFit (fits : PayloadsFit region (count + 1)) :
    PayloadsFit (handleResponse handlers region beyond).2 count := by
  intro index below
  have next := fits (index + 1) (Nat.succ_lt_succ below)
  rw [← handleResponse_advances handlers beyond read] at next
  exact next

end Turn

theorem processLoop_drained (read : region.queue.readIndex.toNat < region.queue.capacity.toNat)
    (counted : region.queue.count.toNat = count) (starts : OffsetsFit region.queue count)
    (fits : PayloadsFit region count) :
    Drained region (processLoop ⟨true, true⟩ beyond count region).1
      (processLoop ⟨true, true⟩ beyond count region).2 := by
  have here : (region.queue.readIndex.toNat + 0) % region.queue.capacity.toNat =
      region.queue.readIndex.toNat := Nat.mod_eq_of_lt read
  induction count generalizing region with
  | zero =>
    exact ⟨by rw [counted]; rfl, counted.symm, UInt32.toNat_inj.mp counted,
      by rw [counted, here]; rfl, rfl, rfl, rfl⟩
  | succ count ih =>
    have first := starts 0 (Nat.succ_pos count)
    have short := fits 0 (Nat.succ_pos count)
    rw [here] at first short
    have effects := handleResponse_slot ⟨true, true⟩ (beyond count) first short
    have next := handleResponse_readIndex ⟨true, true⟩ (beyond count) read
    have left := count_handleResponse ⟨true, true⟩ (beyond count) counted
    have advanced := handleResponse_advances ⟨true, true⟩ (beyond count) read
    have laterStarts := handleResponse_offsetsFit ⟨true, true⟩ (beyond count) read starts
    have laterFits := handleResponse_payloadsFit ⟨true, true⟩ (beyond count) read fits
    set turn := handleResponse ⟨true, true⟩ region (beyond count)
    have inside : turn.2.queue.readIndex.toNat < turn.2.queue.capacity.toNat := by
      rw [next]
      exact Nat.mod_lt _ (Nat.lt_of_le_of_lt (Nat.zero_le _) read)
    obtain ⟨notified, once, drained, readIndex, writeIndex, sameCapacity, slots⟩ :=
      ih inside left laterStarts laterFits (Nat.mod_eq_of_lt inside)
    have looped : processLoop ⟨true, true⟩ beyond (count + 1) region =
        (turn.1 :: (processLoop ⟨true, true⟩ beyond count turn.2).1,
          (processLoop ⟨true, true⟩ beyond count turn.2).2) := rfl
    rw [looped]
    constructor
    · rw [List.flatMap_cons, notified, effects, dispatch_notification, left, counted,
        ResponseRegion.queued, ResponseRegion.queued, Ring.contents_pop _ read,
        List.filterMap_cons, ← next]
      cases (ResponseRegion.slot region.queueData region.queue.readIndex.toNat).notification <;>
        rfl
    · exact (congrArg (· + 1) once).trans (by rw [left, counted])
    · exact drained
    · refine readIndex.trans ?_
      rw [left, counted, ← advanced]
      rfl
    · exact writeIndex
    · exact sameCapacity
    · exact slots

/-- The product in `process_responses` is one of 32 bits: no slot further on is ever read. -/
theorem processLoop_silent (handlers : Handlers)
    (quiet : ∀ offset < 2 ^ 32, ∀ beyond : Nat → UInt8,
      dispatch handlers (readResponse region.queueData beyond offset).val = []) :
    (processLoop handlers beyond count region).1.flatMap Handled.effects = [] := by
  induction count generalizing region with
  | zero => rfl
  | succ count ih =>
    have looped : processLoop handlers beyond (count + 1) region =
        ((handleResponse handlers region (beyond count)).1 ::
            (processLoop handlers beyond count
              (handleResponse handlers region (beyond count)).2).1,
          (processLoop handlers beyond count
            (handleResponse handlers region (beyond count)).2).2) := rfl
    have offset := (region.queue.readIndex * UInt32.ofNat responseSize).toNat_lt
    rw [looped, List.flatMap_cons]
    exact List.append_eq_nil_iff.mpr ⟨quiet _ offset (beyond count), ih quiet⟩

end Loop

/-- One response in the memory, which reports a service as available. -/
def onlyAvailable (index address : Nat) : UInt8 :=
  if address = responseSize * index + 4 then 0x10
  else if address = responseSize * index + 8 then 4
  else 0

theorem onlyAvailable_payloadLength (index other : Nat) :
    (ResponseRegion.payloadLength (onlyAvailable index) other).toNat ≤ payloadSize := by
  have zero : ∀ place, 5 ≤ place → place < 8 →
      onlyAvailable index (responseSize * other + place) = 0 := by
    intro place lower upper
    unfold onlyAvailable responseSize payloadSize
    rw [if_neg (by omega), if_neg (by omega)]
  have last : onlyAvailable index (responseSize * other + 8) = 4 ∨
      onlyAvailable index (responseSize * other + 8) = 0 := by
    unfold onlyAvailable responseSize payloadSize
    rw [if_neg (by omega)]
    split
    · exact .inl rfl
    · exact .inr rfl
  unfold ResponseRegion.payloadLength
  dsimp only
  rw [zero 5 (by decide) (by decide), zero 6 (by decide) (by decide),
    zero 7 (by decide) (by decide)]
  rcases last with last | last <;> rw [last] <;> decide

theorem onlyAvailable_notification (index : Nat) :
    (ResponseRegion.slot (onlyAvailable index) index).notification =
      some (.available 0 0 true) := by
  have type : onlyAvailable index (responseSize * index + 4) = 0x10 := if_pos rfl
  have zero : ∀ place, place ≠ 4 → place ≠ 8 →
      onlyAvailable index (responseSize * index + place) = 0 := by
    intro place notType notLength
    unfold onlyAvailable
    rw [if_neg (by omega), if_neg (by omega)]
  have length : ResponseRegion.payloadLength (onlyAvailable index) index = 4 := by
    have last : onlyAvailable index (responseSize * index + 8) = 4 := by
      unfold onlyAvailable
      rw [if_neg (by omega), if_pos rfl]
    unfold ResponseRegion.payloadLength
    dsimp only
    rw [zero 5 (by decide) (by decide), zero 6 (by decide) (by decide),
      zero 7 (by decide) (by decide), last]
    rfl
  have payload : Memory.readAt (onlyAvailable index) (responseSize * index + 9) 4 =
      [0, 0, 0, 0] := by
    simp [Memory.readAt, List.range_succ, Nat.add_assoc, zero]
  unfold ResponseRegion.slot Response.notification
  simp only [type, length]
  rw [show (4 : UInt32).toNat = 4 from rfl, payload]
  rfl

theorem onlyAvailable_silent {index offset : Nat} (far : 2 ^ 32 ≤ responseSize * index)
    (near : offset < 2 ^ 32) (beyond : Nat → UInt8) :
    dispatch ⟨true, true⟩ (readResponse (onlyAvailable index) beyond offset).val = [] := by
  have type : (readResponse (onlyAvailable index) beyond offset).val.type =
      ⟨onlyAvailable index (offset + 4)⟩ := by
    simp [readResponse, Tracked.readRange, Tracked.buffer, Memory.readAt, responseBufferSize]
  have other : onlyAvailable index (offset + 4) = 4 ∨ onlyAvailable index (offset + 4) = 0 := by
    unfold onlyAvailable
    rw [if_neg (by omega)]
    split
    · exact .inl rfl
    · exact .inr rfl
  unfold dispatch
  simp only [type]
  rcases other with other | other <;> rw [other] <;> rfl

theorem undrained_of_far {queue : ResponseQueue} {index : Nat} (used : index < queue.count.toNat)
    (far : 2 ^ 32 ≤
      responseSize * ((queue.readIndex.toNat + index) % queue.capacity.toNat)) :
    ¬ ∀ queueData beyond, PayloadsFit ⟨queue, queueData⟩ queue.count.toNat →
      Drained ⟨queue, queueData⟩
        (processResponses true true ⟨true, true⟩ ⟨queue, queueData⟩ beyond).1
        (processResponses true true ⟨true, true⟩ ⟨queue, queueData⟩ beyond).2 := by
  intro drains
  set place := (queue.readIndex.toNat + index) % queue.capacity.toNat
  have drained := drains (onlyAvailable place) (fun _ _ => 0) fun _ _ =>
    onlyAvailable_payloadLength place _
  have silent : (processResponses true true ⟨true, true⟩ ⟨queue, onlyAvailable place⟩
      fun _ _ => 0).1.flatMap Handled.effects = [] :=
    processLoop_silent _ _ fun offset near => onlyAvailable_silent far near
  have missed := drained.notified.symm.trans silent
  rw [List.filterMap_eq_nil_iff] at missed
  have held : ResponseRegion.slot (onlyAvailable place) place ∈
      ResponseRegion.queued ⟨queue, onlyAvailable place⟩ queue.count.toNat :=
    List.mem_map.mpr ⟨index, List.mem_range.mpr used, rfl⟩
  have none := missed _ held
  rw [onlyAvailable_notification] at none
  cases none

/-- `process_responses` drains a queue, whatever it holds, exactly when the slots in use start
    below 2^32. -/
theorem processResponses_drains_iff {queue : ResponseQueue} (sound : queue.Sound) :
    (∀ queueData beyond, PayloadsFit ⟨queue, queueData⟩ queue.count.toNat →
      Drained ⟨queue, queueData⟩
        (processResponses true true ⟨true, true⟩ ⟨queue, queueData⟩ beyond).1
        (processResponses true true ⟨true, true⟩ ⟨queue, queueData⟩ beyond).2) ↔
      OffsetsFit queue queue.count.toNat := by
  constructor
  · intro drains index used
    by_contra far
    exact undrained_of_far used (Nat.not_lt.mp far) drains
  · intro starts queueData beyond fits
    exact processLoop_drained beyond sound.read rfl starts fits

/-- Two responses, the second one in the first slot: a service is there, and it is gone. -/
def wrappedRegion : ResponseRegion :=
  { queue := ⟨2, 1, 1, 2⟩
    queueData := fun place =>
      if place = 4 then 0x11 else if place = 269 then 0x10
      else if place = 8 ∨ place = 273 then 4 else 0 }

theorem wrappedQueue_drains : Drained wrappedRegion
    (processResponses true true ⟨true, true⟩ wrappedRegion fun _ _ => 0).1
    (processResponses true true ⟨true, true⟩ wrappedRegion fun _ _ => 0).2 :=
  (processResponses_drains_iff ⟨by decide, by decide, by decide⟩).mpr
    (by unfold OffsetsFit; decide) _ _ (by unfold PayloadsFit; decide)

/-- The smallest ring with a slot that starts behind 2^32, and one response, in that slot. -/
def farQueue : ResponseQueue := ⟨1, 16207424, 0, 16207425⟩

theorem farQueue_undrained : ¬ ∀ queue : ResponseQueue, queue.Sound → ∀ queueData beyond,
    PayloadsFit ⟨queue, queueData⟩ queue.count.toNat →
      Drained ⟨queue, queueData⟩
        (processResponses true true ⟨true, true⟩ ⟨queue, queueData⟩ beyond).1
        (processResponses true true ⟨true, true⟩ ⟨queue, queueData⟩ beyond).2 := by
  intro drains
  have sound : farQueue.Sound := ⟨by decide, by decide, by decide⟩
  have used : 0 < farQueue.count.toNat := by decide
  have far : 2 ^ 32 ≤ responseSize *
      ((farQueue.readIndex.toNat + 0) % farQueue.capacity.toNat) := by decide
  exact undrained_of_far used far (drains farQueue sound)

end Msomeip.Shm
