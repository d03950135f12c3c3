import Msomeip.Library.BigEndian
import Msomeip.Library.Memory
import Msomeip.Library.Tracked
import Msomeip.Shm.Commands

namespace Msomeip.Shm

open BigEndian

structure RouteResponseType where
  value : UInt8
deriving DecidableEq, Repr

namespace RouteResponseType

def serviceAvailable : RouteResponseType := ⟨0x10⟩
def serviceUnavailable : RouteResponseType := ⟨0x11⟩
def subscriptionAck : RouteResponseType := ⟨0x12⟩
def subscriptionNack : RouteResponseType := ⟨0x13⟩
def lookupResult : RouteResponseType := ⟨0x14⟩

end RouteResponseType

structure ResponseQueue where
  count : UInt32
  readIndex : UInt32
  writeIndex : UInt32
  capacity : UInt32
deriving DecidableEq, Repr

/-- The response queue in the shared memory, with the bytes from `queue_data` on. -/
structure ResponseRegion where
  queue : ResponseQueue
  queueData : Nat → UInt8

structure Response where
  sequence : UInt32
  type : RouteResponseType
  payload : PayloadData
deriving DecidableEq, Repr

/-- Four bytes of sequence number, one of type, four of length. -/
def responseSize : Nat := 4 + 1 + 4 + payloadSize

/-- The size of the local array that a slot is copied to. -/
def responseBufferSize : Nat := 285

/-- The handlers live outside: of each only whether it is set is kept. -/
structure Handlers where
  availability : Bool := false
  subscription : Bool := false
deriving DecidableEq, Repr

/-- The calls of the handlers. Of the record that the subscription handler gets, the other fields
    are never set. -/
inductive ResponseEffect
  | available (service : ServiceId) (instance' : InstanceId) (isAvailable : Bool)
  | subscription (service : ServiceId) (instance' : InstanceId) (eventgroup : EventgroupId)
deriving DecidableEq, Repr

def dispatch (handlers : Handlers) (response : Response) : List ResponseEffect :=
  let available (isAvailable : Bool) : List ResponseEffect :=
    match response.payload with
    | s0 :: s1 :: i0 :: i1 :: _ =>
      if handlers.availability then [.available (word16 s0 s1) (word16 i0 i1) isAvailable] else []
    | _ => []
  if response.type = .serviceAvailable then available true
  else if response.type = .serviceUnavailable then available false
  else if response.type = .subscriptionAck ∨ response.type = .subscriptionNack then
    match response.payload with
    | s0 :: s1 :: i0 :: i1 :: e0 :: e1 :: _ :: _ =>
      if handlers.subscription then
        [.subscription (word16 s0 s1) (word16 i0 i1) (word16 e0 e1)]
      else []
    | _ => []
  else []

/-- The copy to the local array, and the response in it; `beyond` is the memory past its end. -/
def readResponse (queueData beyond : Nat → UInt8) (offset : Nat) : Tracked Response := do
  let bytes ← Tracked.readRange queueData offset responseBufferSize
  let response := Tracked.buffer bytes beyond
  let payloadLength := word32 (response 5) (response 6) (response 7) (response 8)
  pure
    { sequence := word32 (response 0) (response 1) (response 2) (response 3)
      type := ⟨response 4⟩
      payload := Memory.readAt response 9 payloadLength.toNat }

/-- One response that `process_responses` handles: its slot, the bytes of the queue that are read
    for it, and what is made of them. -/
structure Handled where
  readIndex : UInt32
  reads : List Nat
  response : Response
  effects : List ResponseEffect

/-- One turn of the loop. -/
def handleResponse (handlers : Handlers) (region : ResponseRegion) (beyond : Nat → UInt8) :
    Handled × ResponseRegion :=
  let queue := region.queue
  let read := readResponse region.queueData beyond
    (queue.readIndex * UInt32.ofNat responseSize).toNat
  (⟨queue.readIndex, read.reads, read.val, dispatch handlers read.val⟩,
    { region with queue := { queue with
        readIndex := (queue.readIndex + 1) % queue.capacity, count := queue.count - 1 } })

/-- The loop; `count` is the number that the condition finds. -/
def processLoop (handlers : Handlers) (beyond : Nat → Nat → UInt8) :
    Nat → ResponseRegion → List Handled × ResponseRegion
  | 0, region => ([], region)
  | count + 1, region =>
    let (handled, region) := handleResponse handlers region (beyond count)
    let (later, region) := processLoop handlers beyond count region
    (handled :: later, region)

/-- `locked` is whether `shm_lock` succeeds. -/
def processResponses (connected locked : Bool) (handlers : Handlers) (region : ResponseRegion)
    (beyond : Nat → Nat → UInt8) : List Handled × ResponseRegion :=
  if !connected || !locked then ([], region)
  else processLoop handlers beyond region.queue.count.toNat region

/-- Every byte that is read lies in the slot of the response, and its payload has the size of the
    slot's. -/
def Handled.Inside (handled : Handled) : Prop :=
  (∀ address ∈ handled.reads, responseSize * handled.readIndex.toNat ≤ address ∧
    address < responseSize * (handled.readIndex.toNat + 1)) ∧
  handled.response.payload.length ≤ payloadSize

theorem count_handleResponse (handlers : Handlers) {region : ResponseRegion} (beyond : Nat → UInt8)
    {count : Nat} (counted : region.queue.count.toNat = count + 1) :
    (handleResponse handlers region beyond).2.queue.count.toNat = count := by
  have positive : (1 : UInt32) ≤ region.queue.count := by
    rw [UInt32.le_iff_toNat_le, UInt32.toNat_one]
    omega
  change (region.queue.count - 1).toNat = count
  rw [UInt32.toNat_sub_of_le _ _ positive, UInt32.toNat_one, counted, Nat.add_sub_cancel]

/-- The copy is longer than a slot. -/
theorem handleResponse_outside (handlers : Handlers) (region : ResponseRegion)
    (beyond : Nat → UInt8) : ¬ (handleResponse handlers region beyond).1.Inside := by
  intro inside
  set offset := (region.queue.readIndex * UInt32.ofNat responseSize).toNat
  have reads : (handleResponse handlers region beyond).1.reads =
      (List.range responseBufferSize).map fun index => offset + index := by
    change (Tracked.readRange _ _ _).reads ++ [] = _
    rw [List.append_nil]
    rfl
  have read (index : Nat) (within : index < responseBufferSize) :
      offset + index ∈ (handleResponse handlers region beyond).1.reads := by
    rw [reads]
    exact List.mem_map_of_mem (List.mem_range.mpr within)
  have first := inside.1 _ (read 0 (by decide))
  have last := inside.1 _ (read 284 (by decide))
  have next : responseSize * ((handleResponse handlers region beyond).1.readIndex.toNat + 1) =
      responseSize * (handleResponse handlers region beyond).1.readIndex.toNat + 265 :=
    Nat.mul_succ _ _
  omega

/-- What `process_responses` reads stays inside the slots exactly when it handles no response. -/
theorem inside_iff_nothingHandled (connected locked : Bool) (handlers : Handlers)
    (region : ResponseRegion) (beyond : Nat → Nat → UInt8) :
    (∀ handled ∈ (processResponses connected locked handlers region beyond).1, handled.Inside) ↔
      connected = false ∨ locked = false ∨ region.queue.count = 0 := by
  unfold processResponses
  by_cases early : (!connected || !locked) = true
  · rw [if_pos early]
    have stays : connected = false ∨ locked = false := by simpa using early
    simp only [List.not_mem_nil, false_implies, implies_true, true_iff]
    rcases stays with away | unlocked
    · exact .inl away
    · exact .inr (.inl unlocked)
  · rw [if_neg early]
    have enters : connected = true ∧ locked = true := by simpa using early
    simp only [enters.1, enters.2, Bool.true_eq_false, false_or]
    cases counted : region.queue.count.toNat with
    | zero =>
      have empty : region.queue.count = 0 := UInt32.toNat_inj.mp counted
      simp [processLoop, empty]
    | succ count =>
      have some : region.queue.count ≠ 0 := by
        intro none
        rw [none, UInt32.toNat_zero] at counted
        cases counted
      simp only [some, iff_false]
      intro all
      exact handleResponse_outside handlers region (beyond count) (all _ List.mem_cons_self)

/-- One response in a queue of one slot, from a daemon that leaves the rest of the slot empty. -/
def oneResponse : ResponseRegion :=
  ⟨⟨1, 0, 0, 1⟩, Memory.write (fun _ => 0) 0
    (bytes32 1 ++ [RouteResponseType.serviceAvailable.value] ++ bytes32 4 ++ [0x12, 0x34, 0, 1])⟩

theorem oneResponse_overread : ¬ ∀ connected locked handlers (region : ResponseRegion) beyond,
    region.queue.readIndex < region.queue.capacity → region.queue.count ≤ region.queue.capacity →
    ∀ handled ∈ (processResponses connected locked handlers region beyond).1, handled.Inside := by
  intro all
  have inside := all true true {} oneResponse (fun _ _ => 0) (by decide) (by decide) _
    List.mem_cons_self
  exact handleResponse_outside {} oneResponse (fun _ => 0) inside

end Msomeip.Shm
