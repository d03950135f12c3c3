import Msomeip.Runtime.Runtime
import Msomeip.Tp.Arrivals
import Msomeip.Tp.Mixing

namespace Msomeip.Runtime

variable {Handler : Type}

/-- A message that reassembly has given to the rest of a receive function, and when the segments
    arrived that it was built from. -/
structure Passed where
  message : Message
  arrivals : List TimePoint
deriving DecidableEq

/-- A runtime, when the data arrived that its reassembler holds, and the time. -/
structure Receiving (Handler : Type) where
  runtime : Runtime Handler
  arrivedAt : RequestId → UInt32 → TimePoint := fun _ _ => 0
  clock : TimePoint

namespace Receiving

/-- `Runtime::init` gives the reassembler its timeout, and nothing calls its `cleanup_expired`. -/
def create (clientId : ClientId) (serviceDiscovery : Option Sd.ServiceDiscovery)
    (clock : TimePoint) : Receiving Handler :=
  { runtime := { clientId := clientId, serviceDiscovery := serviceDiscovery }, clock := clock }

def timed (receiving : Receiving Handler) : Tp.Timed :=
  ⟨receiving.runtime.tpReassembler, receiving.arrivedAt⟩

inductive Action (Handler : Type)
  | onUdpMessageReceived (message : Message) (arrival : Arrival)
  | onTcpMessageReceived (message : Message) (arrival : Arrival)
  | registerServiceHandler (service : ServiceId) (instance' : InstanceId)
      (handler : Option Handler)
  | unregisterServiceHandler (service : ServiceId) (instance' : InstanceId)

def passed (receiving : Receiving Handler) (message : Message) (now : TimePoint) : List Passed :=
  if message.isTpMessage then
    (receiving.runtime.reassembled message now).1.toList.map
      (⟨·, (receiving.timed.addSegment message now).arrivals message.getRequestId⟩)
  else []

def received (receiving : Receiving Handler) (message : Message) (now : TimePoint)
    (runtime : Runtime Handler) : Option (Receiving Handler × List Passed) :=
  if receiving.clock ≤ now then
    some ({ runtime := runtime, arrivedAt := receiving.timed.recorded message now, clock := now },
      receiving.passed message now)
  else none

/-- Time does not go back. -/
def step : Runs.Step (Receiving Handler) (Action Handler) Passed := fun receiving action =>
  match action with
  | .onUdpMessageReceived message arrival => receiving.received message arrival.now
      (receiving.runtime.onUdpMessageReceived message arrival).1
  | .onTcpMessageReceived message arrival => receiving.received message arrival.now
      (receiving.runtime.onTcpMessageReceived message arrival).1
  | .registerServiceHandler service instance' handler =>
    some ({ receiving with runtime :=
      receiving.runtime.registerServiceHandler service instance' handler }, [])
  | .unregisterServiceHandler service instance' =>
    some ({ receiving with runtime :=
      receiving.runtime.unregisterServiceHandler service instance' }, [])

def Action.message : Action Handler → Option (Message × TimePoint)
  | .onUdpMessageReceived message arrival | .onTcpMessageReceived message arrival =>
    some (message, arrival.now)
  | .registerServiceHandler .. | .unregisterServiceHandler .. => none

/-- Every message passed on was built from segments that arrived within the timeout of the first
    of them, and so would be every message whose segments are stored. -/
structure Fresh (passed : List Passed) (receiving : Receiving Handler) : Prop where
  built : ∀ entry ∈ passed,
    Tp.Timed.Within receiving.runtime.tpReassembler.timeout entry.arrivals
  stored : receiving.timed.Fresh

/-- A segment that joins stored segments of its request id arrives within the timeout of each. -/
def Prompt (receiving : Receiving Handler) (action : Action Handler) : Prop :=
  ∀ received ∈ action.message, receiving.timed.Prompt received.1 received.2

/-- What a step can do to the reassembler. -/
inductive Moves (receiving next : Receiving Handler) :
    Option (Message × TimePoint) → List Passed → Prop
  | unchanged : next.timed = receiving.timed → next.clock = receiving.clock →
      Moves receiving next none []
  | kept {message : Message} {now : TimePoint} : receiving.clock ≤ now →
      next.timed = receiving.timed.addSegment message now → next.clock = now →
      Moves receiving next (some (message, now)) []
  | built {message whole : Message} {now : TimePoint} : receiving.clock ≤ now →
      next.timed = (receiving.timed.addSegment message now).reassemble message.getRequestId →
      next.clock = now →
      Moves receiving next (some (message, now))
        [⟨whole, (receiving.timed.addSegment message now).arrivals message.getRequestId⟩]

theorem tpReassembler_processSd (runtime : Runtime Handler) (message : Message)
    (arrival : Arrival) :
    (runtime.processSd message arrival).1.tpReassembler = runtime.tpReassembler := by
  unfold processSd
  split <;> rfl

theorem tpReassembler_udp (runtime : Runtime Handler) (message : Message) (arrival : Arrival) :
    (runtime.onUdpMessageReceived message arrival).1.tpReassembler =
      (runtime.reassembled message arrival.now).2.tpReassembler := by
  unfold onUdpMessageReceived
  split
  · rename_i same
    rw [same]
  · rename_i same
    rw [same]
    split
    · exact tpReassembler_processSd _ _ _
    · rfl

theorem tpReassembler_tcp (runtime : Runtime Handler) (message : Message) (arrival : Arrival) :
    (runtime.onTcpMessageReceived message arrival).1.tpReassembler =
      (runtime.reassembled message arrival.now).2.tpReassembler := by
  unfold onTcpMessageReceived
  split
  · rename_i same
    rw [same]
  · rename_i same
    rw [same]

theorem exists_reassembled {reassembler : Tp.TpReassembler} {message : Message} {now : TimePoint}
    (complete : (reassembler.addSegment message now).1 = true) : ∃ whole,
      ((reassembler.addSegment message now).2.reassemble message.getRequestId).1 = some whole := by
  cases parsed : Tp.TpReassembler.parseSegment message with
  | none =>
    rw [Tp.TpReassembler.addSegment_rejected now parsed] at complete
    cases complete
  | some accepted =>
    rw [Tp.TpReassembler.addSegment_accepted parsed] at complete ⊢
    have stored := Maps.lookup_insert reassembler.buffers message.getRequestId
      message.getRequestId
      ((reassembler.openBuffer message now).store accepted.1 accepted.2)
    rw [if_pos rfl] at stored
    exact ⟨_, Tp.TpReassembler.reassemble_eq_some.mpr ⟨_, stored, complete, rfl⟩⟩

theorem reassembled_incomplete {runtime : Runtime Handler} {message : Message} {now : TimePoint}
    (segmented : message.isTpMessage = true)
    (incomplete : (runtime.tpReassembler.addSegment message now).1 = false) :
    runtime.reassembled message now =
      (none, { runtime with
        tpReassembler := (runtime.tpReassembler.addSegment message now).2 }) := by
  simp [reassembled, segmented, incomplete]

theorem reassembled_complete {runtime : Runtime Handler} {message : Message} {now : TimePoint}
    (segmented : message.isTpMessage = true)
    (complete : (runtime.tpReassembler.addSegment message now).1 = true) :
    runtime.reassembled message now =
      (((runtime.tpReassembler.addSegment message now).2.reassemble message.getRequestId).1,
        { runtime with
          tpReassembler := ((runtime.tpReassembler.addSegment message now).2.reassemble
            message.getRequestId).2 }) := by
  simp [reassembled, segmented, complete]

theorem moves_of_received {receiving next : Receiving Handler} {message : Message}
    {now : TimePoint} {runtime : Runtime Handler} {emitted : List Passed}
    (left : runtime.tpReassembler = (receiving.runtime.reassembled message now).2.tpReassembler)
    (stepped : receiving.received message now runtime = some (next, emitted)) :
    Moves receiving next (some (message, now)) emitted := by
  unfold received at stepped
  split at stepped
  · rename_i later
    obtain ⟨rfl, rfl⟩ := Prod.mk.inj (Option.some.inj stepped)
    unfold passed
    split
    · rename_i segmented
      cases complete : (receiving.runtime.tpReassembler.addSegment message now).1 with
      | false =>
        have same := reassembled_incomplete segmented complete
        rw [same] at left ⊢
        apply Moves.kept later _ rfl
        rw [timed, left]
        rfl
      | true =>
        have same := reassembled_complete segmented complete
        obtain ⟨whole, built⟩ := exists_reassembled complete
        rw [same] at left ⊢
        rw [built]
        apply Moves.built later _ rfl
        rw [timed, left]
        rfl
    · rename_i plain
      have other := Bool.eq_false_iff.mpr plain
      rw [reassembled_plain _ now other] at left
      have ignored : Tp.TpReassembler.parseSegment message = none := by
        simp [Tp.TpReassembler.parseSegment, other]
      apply Moves.kept later _ rfl
      rw [Tp.Timed.addSegment_rejected now ignored, timed, left]
      simp [timed, Tp.Timed.recorded, ignored]
  · cases stepped

theorem moves_of_step {receiving next : Receiving Handler} {action : Action Handler}
    {emitted : List Passed} (stepped : step receiving action = some (next, emitted)) :
    Moves receiving next action.message emitted := by
  cases action with
  | onUdpMessageReceived message arrival =>
    exact moves_of_received (tpReassembler_udp _ message arrival) stepped
  | onTcpMessageReceived message arrival =>
    exact moves_of_received (tpReassembler_tcp _ message arrival) stepped
  | registerServiceHandler service instance' handler =>
    obtain ⟨rfl, rfl⟩ := Prod.mk.inj (Option.some.inj stepped)
    exact .unchanged rfl rfl
  | unregisterServiceHandler service instance' =>
    obtain ⟨rfl, rfl⟩ := Prod.mk.inj (Option.some.inj stepped)
    exact .unchanged rfl rfl

/-- No stored segment is from the future, and the timeout is that of `Runtime::init`. -/
structure Settled (receiving : Receiving Handler) : Prop where
  past : receiving.timed.Past receiving.clock
  timeout : receiving.timed.reassembler.timeout = Tp.defaultReassemblyTimeoutMs

theorem Moves.settled {receiving next : Receiving Handler}
    {received : Option (Message × TimePoint)} {emitted : List Passed}
    (moves : Moves receiving next received emitted) (settled : receiving.Settled) :
    next.Settled := by
  cases moves with
  | unchanged same clock =>
    constructor
    · rw [same, clock]
      exact settled.past
    · rw [same]
      exact settled.timeout
  | @kept message now later same clock =>
    constructor
    · rw [same, clock]
      exact (settled.past.later later).addSegment message
    · rw [same, Tp.Timed.timeout_addSegment]
      exact settled.timeout
  | @built message whole now later same clock =>
    constructor
    · rw [same, clock]
      exact ((settled.past.later later).addSegment message).reassemble _
    · rw [same, Tp.Timed.timeout_reassemble, Tp.Timed.timeout_addSegment]
      exact settled.timeout

theorem settled_run {clientId : ClientId} {serviceDiscovery : Option Sd.ServiceDiscovery}
    {clock : TimePoint} {actions : List (Action Handler)} {passed : List Passed}
    {receiving : Receiving Handler}
    (run : Runs.Run step (create clientId serviceDiscovery clock) actions passed receiving) :
    receiving.Settled := by
  apply run.invariant fun _ _ receiving => receiving.Settled
  · constructor
    · intro requestId offset stored
      obtain ⟨buffer, found, -⟩ := Tp.Timed.mem_offsets.mp stored
      simp [create, timed] at found
    · rfl
  · intro _ _ _ _ _ _ settled _ stepped
    exact (moves_of_step stepped).settled settled

theorem Moves.timeout {receiving next : Receiving Handler}
    {received : Option (Message × TimePoint)} {emitted : List Passed}
    (moves : Moves receiving next received emitted) :
    next.timed.reassembler.timeout = receiving.timed.reassembler.timeout := by
  cases moves with
  | unchanged same _ => rw [same]
  | kept _ same _ => rw [same, Tp.Timed.timeout_addSegment]
  | built _ same _ => rw [same, Tp.Timed.timeout_reassemble, Tp.Timed.timeout_addSegment]

theorem Moves.fresh {passed emitted : List Passed} {receiving next : Receiving Handler}
    {received : Option (Message × TimePoint)} (moves : Moves receiving next received emitted)
    (fresh : Fresh passed receiving) (settled : receiving.Settled)
    (prompt : ∀ segment ∈ received, receiving.timed.Prompt segment.1 segment.2) :
    Fresh (passed ++ emitted) next := by
  have positive : 0 ≤ receiving.timed.reassembler.timeout := by
    rw [settled.timeout]
    decide
  have same : next.runtime.tpReassembler.timeout = receiving.runtime.tpReassembler.timeout :=
    moves.timeout
  have earlier : ∀ entry ∈ passed,
      Tp.Timed.Within next.runtime.tpReassembler.timeout entry.arrivals := by
    rw [same]
    exact fresh.built
  cases moves with
  | unchanged timed _ =>
    rw [List.append_nil]
    exact ⟨earlier, timed ▸ fresh.stored⟩
  | @kept message now later timed _ =>
    have after := fresh.stored.addSegment (settled.past.later later) positive (prompt _ rfl)
    rw [List.append_nil]
    exact ⟨earlier, timed ▸ after⟩
  | @built message whole now later timed _ =>
    have after := fresh.stored.addSegment (settled.past.later later) positive (prompt _ rfl)
    constructor
    · intro entry member
      rcases List.mem_append.mp member with old | new
      · exact earlier entry old
      · obtain rfl := List.mem_singleton.mp new
        have within := after message.getRequestId
        rw [Tp.Timed.timeout_addSegment] at within
        rw [same]
        exact within
    · exact timed ▸ after.reassemble message.getRequestId

theorem Moves.prompt {passed emitted : List Passed} {receiving next : Receiving Handler}
    {received : Option (Message × TimePoint)} (moves : Moves receiving next received emitted)
    (fresh : Fresh (passed ++ emitted) next) :
    ∀ segment ∈ received, receiving.timed.Prompt segment.1 segment.2 := by
  intro segment taken
  have same : next.runtime.tpReassembler.timeout = receiving.runtime.tpReassembler.timeout :=
    moves.timeout
  cases moves with
  | unchanged _ _ => cases taken
  | @kept message now _ timed _ =>
    obtain rfl := Option.some.inj taken
    apply Tp.Timed.prompt_of_within
    have within := fresh.stored message.getRequestId
    rwa [timed, Tp.Timed.timeout_addSegment] at within
  | @built message whole now _ _ _ =>
    obtain rfl := Option.some.inj taken
    apply Tp.Timed.prompt_of_within
    have within := fresh.built _ (List.mem_append_right _ (List.mem_singleton_self _))
    rwa [same] at within

theorem fresh_run {clientId : ClientId} {serviceDiscovery : Option Sd.ServiceDiscovery}
    {clock : TimePoint} {actions : List (Action Handler)} {passed : List Passed}
    {receiving : Receiving Handler} (guarded : Runs.Guarded step Prompt
      (create clientId serviceDiscovery clock) actions passed receiving) :
    Fresh passed receiving := by
  have both : Fresh passed receiving ∧ receiving.Settled := by
    apply guarded.invariant fun _ passed receiving => Fresh passed receiving ∧ receiving.Settled
    · apply And.intro _ (settled_run .nil)
      constructor
      · exact List.forall_mem_nil _
      · intro requestId
        simp [Tp.Timed.within_arrivals, Tp.Timed.mem_offsets, create, timed]
    · intro actions passed receiving action next emitted held prompt stepped
      obtain ⟨fresh, settled⟩ := held
      have moves := moves_of_step stepped
      exact ⟨moves.fresh fresh settled prompt, moves.settled settled⟩
  exact both.1

/-- Nothing stale is ever stored or passed on exactly along the runs in which every segment that
    joins stored ones arrives within the timeout of these: nobody discards them. -/
theorem alwaysFresh_iff_prompt {clientId : ClientId}
    {serviceDiscovery : Option Sd.ServiceDiscovery} {clock : TimePoint}
    {actions : List (Action Handler)} {passed : List Passed} {receiving : Receiving Handler}
    (run : Runs.Run step (create clientId serviceDiscovery clock) actions passed receiving) :
    Runs.Always step (create clientId serviceDiscovery clock)
        (fun _ passed receiving => Fresh passed receiving) actions ↔
      Runs.Guarded step Prompt (create clientId serviceDiscovery clock) actions passed
        receiving := by
  apply Runs.always_iff_guarded _ _ run
  · exact fun actions passed receiving guarded => fresh_run guarded
  · intro actions passed receiving action next emitted _ stepped fresh
    exact (moves_of_step stepped).prompt fresh

instance (receiving : Receiving Handler) (action : Action Handler) :
    Decidable (receiving.Prompt action) :=
  inferInstanceAs (Decidable (∀ received ∈ action.message, _))

def arriving (now : TimePoint) : Arrival where
  now := now
  beyond := fun _ => 0
  moments := fun _ => { now := now, accepted := true }

/-- The first part of a notification over UDP, and the end of one, some time later, over TCP. -/
def segmented (gap : TimePoint) : List (Action Unit) :=
  [.onUdpMessageReceived (Tp.Traced.tpNotification 0x1111 0x0001 0 true [0xAA]) (arriving 0),
    .onTcpMessageReceived (Tp.Traced.tpNotification 0x1111 0x0001 1 false []) (arriving gap)]

def whole (gap : TimePoint) : Passed where
  message := (Message.createNotification 0x1111 0xFFFF 0x0001).setPayload [0xAA]
  arrivals := [0, gap]

theorem segmented_fresh : Runs.Always step (create 1 none 0)
    (fun _ passed receiving => Fresh passed receiving) (segmented 2000000000) := by
  have run : ∃ receiving, Runs.Guarded step Prompt (create 1 none 0) (segmented 2000000000)
      [whole 2000000000] receiving := Runs.exists_guarded (by decide +kernel)
  obtain ⟨receiving, guarded⟩ := run
  exact (alwaysFresh_iff_prompt guarded.run).mpr guarded

/-- After ten seconds the first part still meets the end of another message. -/
theorem segmented_stale : ¬ ∀ (clientId : ClientId) serviceDiscovery clock
    (actions : List (Action Unit)) passed receiving,
    Runs.Run step (create clientId serviceDiscovery clock) actions passed receiving →
      Fresh passed receiving := by
  intro all
  have stale : ∃ receiving, Runs.Run step (create 1 none 0) (segmented 10000000000)
      [whole 10000000000] receiving := Runs.exists_guarded (by decide +kernel)
  obtain ⟨receiving, run⟩ := stale
  have within := (all _ _ _ _ _ _ run).built _ (List.mem_singleton_self _)
  have timeout : receiving.runtime.tpReassembler.timeout = Tp.defaultReassemblyTimeoutMs :=
    (settled_run run).timeout
  rw [timeout] at within
  have gap := within 0 (by simp [whole]) 10000000000 (by simp [whole])
  revert gap
  decide

end Receiving
end Msomeip.Runtime
