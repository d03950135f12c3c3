import Msomeip.Library.Ring
import Msomeip.Library.Runs
import Msomeip.Shm.Commands

namespace Msomeip.Shm

variable {Agent : Type} [DecidableEq Agent]

/-- What the thread that holds the lock of the shared memory does next. -/
inductive Holding (Agent : Type)
  | checking (agent : Agent) (call : Call)
  | writing (agent : Agent) (call : Call) (sequence : UInt32)
  | advancing (agent : Agent) (call : Call) (sequence : UInt32)
  | counting (agent : Agent) (call : Call) (sequence : UInt32)
  | unlocking (agent : Agent) (call : Call) (sequence : UInt32)
  | popChecking
  | popAdvancing (slot : List UInt8)
  | popCounting (slot : List UInt8)
  | popUnlocking (slot : List UInt8)

/-- One region, the agents attached to it, and the holder of its lock. -/
structure Attached (Agent : Type) where
  region : Region
  agents : Agent → ShmAgent
  holder : Option (Holding Agent) := none

inductive QueueAction (Agent : Type)
  | number (agent : Agent)
  | refuse (agent : Agent) (call : Call)
  | lock (agent : Agent) (call : Call)
  | lockPop
  | proceed

inductive QueueEffect (Agent : Type)
  | refused (agent : Agent) (call : Call)
  | accepted (agent : Agent) (call : Call) (command : Command)
  | popped (slot : List UInt8)

namespace Region

/-- What the consumer does with the queue, apart from reading a slot. -/
def popAdvance (region : Region) : Region :=
  { region with queue := { region.queue with
      readIndex := (region.queue.readIndex + 1) % region.queue.capacity } }

def popCount (region : Region) : Region :=
  { region with queue := { region.queue with count := region.queue.count - 1 } }

end Region

namespace Attached

def setAgent (state : Attached Agent) (agent : Agent) (value : ShmAgent) : Attached Agent :=
  { state with agents := Function.update state.agents agent value }

def proceed (state : Attached Agent) : Holding Agent → Attached Agent × List (QueueEffect Agent)
  | .checking agent call =>
    if state.region.isFull then ({ state with holder := none }, [.refused agent call])
    else
      let sequence := (state.agents agent).sequence
      ({ state.setAgent agent (state.agents agent).number with
          holder := some (.writing agent call sequence) }, [])
  | .writing agent call sequence =>
    ({ state with
        region := state.region.write (state.agents agent) sequence call.request
        holder := some (.advancing agent call sequence) }, [])
  | .advancing agent call sequence =>
    ({ state with region := state.region.advance, holder := some (.counting agent call sequence) },
      [])
  | .counting agent call sequence =>
    ({ state with
        region := state.region.increment, holder := some (.unlocking agent call sequence) }, [])
  | .unlocking agent call sequence =>
    ({ state with holder := none },
      [.accepted agent call (commandOf (state.agents agent) sequence call.request)])
  | .popChecking =>
    if state.region.queue.count = 0 then ({ state with holder := none }, [])
    else
      let slot := state.region.slot state.region.queue.readIndex.toNat
      ({ state with holder := some (.popAdvancing slot) }, [])
  | .popAdvancing slot =>
    ({ state with region := state.region.popAdvance, holder := some (.popCounting slot) }, [])
  | .popCounting slot =>
    ({ state with region := state.region.popCount, holder := some (.popUnlocking slot) }, [])
  | .popUnlocking slot => ({ state with holder := none }, [.popped slot])

/-- The steps of the callers and of the consumer. `lookup_subscribers` draws a number of its own
    before it calls `send_command`; `shm_lock` may fail at any time. -/
def step : Runs.Step (Attached Agent) (QueueAction Agent) (QueueEffect Agent) := fun state action =>
  match action with
  | .number agent => some (state.setAgent agent (state.agents agent).number, [])
  | .refuse agent call => some (state, [.refused agent call])
  | .lock agent call =>
    match state.holder with
    | some _ => none
    | none =>
      if (state.agents agent).connected then
        some ({ state with holder := some (.checking agent call) }, [])
      else none
  | .lockPop =>
    match state.holder with
    | some _ => none
    | none => some ({ state with holder := some .popChecking }, [])
  | .proceed =>
    match state.holder with
    | some holding => some (state.proceed holding)
    | none => none

end Attached

/-- The commands whose `send_command` returned true, in order. -/
def accepted (effects : List (QueueEffect Agent)) : List Command :=
  effects.filterMap fun
    | .accepted _ _ command => some command
    | _ => none

/-- What the pops read, in order. -/
def popped (effects : List (QueueEffect Agent)) : List (List UInt8) :=
  effects.filterMap fun
    | .popped slot => some slot
    | _ => none

/-- A queue that a run starts with. -/
structure CommandQueue.Fresh (queue : CommandQueue) : Prop where
  positive : 1 ≤ queue.capacity.toNat
  fits : commandSize * queue.capacity.toNat < 2 ^ 32
  empty : queue.count = 0
  read : queue.readIndex.toNat < queue.capacity.toNat
  write : queue.writeIndex = queue.readIndex

namespace Region

/-- The commands in the slots in use. -/
def pending (region : Region) (count : Nat) : List (Option Command) :=
  Ring.contents (fun index => decode (region.slot index)) region.queue.capacity.toNat
    region.queue.readIndex.toNat count

/-- The commands stand in the slots from the read index on, `used` slots lie before the write
    index, and `counted` of them are counted. -/
structure Holds (region : Region) (commands : List Command) (used counted : Nat) : Prop where
  fits : commandSize * region.queue.capacity.toNat < 2 ^ 32
  read : region.queue.readIndex.toNat < region.queue.capacity.toNat
  room : commands.length ≤ region.queue.capacity.toNat
  slots : region.pending commands.length = commands.map some
  tail : region.queue.writeIndex.toNat =
    (region.queue.readIndex.toNat + used) % region.queue.capacity.toNat
  count : region.queue.count.toNat = counted

theorem Holds.small {region : Region} {commands : List Command} {used counted : Nat}
    (holds : region.Holds commands used counted) : region.queue.capacity.toNat < 2 ^ 31 := by
  have fits := holds.fits
  unfold commandSize payloadSize at fits
  omega

theorem Holds.tail_lt {region : Region} {commands : List Command} {used counted : Nat}
    (holds : region.Holds commands used counted) :
    region.queue.writeIndex.toNat < region.queue.capacity.toNat := by
  rw [holds.tail]
  exact Nat.mod_lt _ (Nat.lt_of_le_of_lt (Nat.zero_le _) holds.read)

/-- The offset of the slot at the write index does not wrap. -/
theorem Holds.offset {region : Region} {commands : List Command} {used counted : Nat}
    (holds : region.Holds commands used counted) :
    (region.queue.writeIndex * UInt32.ofNat commandSize).toNat =
      commandSize * region.queue.writeIndex.toNat := by
  have fits := holds.fits
  have inside := holds.tail_lt
  have size : (UInt32.ofNat commandSize).toNat = commandSize := by decide
  have below : commandSize * region.queue.writeIndex.toNat < 2 ^ 32 :=
    Nat.lt_of_le_of_lt (Nat.mul_le_mul_left _ (Nat.le_of_lt inside)) fits
  rw [UInt32.toNat_mul, size, Nat.mul_comm]
  exact Nat.mod_eq_of_lt below

theorem slot_write {region : Region} {commands : List Command} {used counted index : Nat}
    (holds : region.Holds commands used counted) (agent : ShmAgent) (sequence : UInt32)
    {request : Request} (fits : request.2.length ≤ payloadSize)
    (other : index ≠ region.queue.writeIndex.toNat) :
    (region.write agent sequence request).slot index = region.slot index := by
  unfold slot write
  simp only [holds.offset]
  apply readAt_writeCommand fits
  rcases Nat.lt_or_gt_of_ne other with before | after
  · have next := Nat.mul_le_mul_left commandSize (Nat.succ_le_of_lt before)
    rw [Nat.mul_succ] at next
    exact .inl next
  · have next := Nat.mul_le_mul_left commandSize (Nat.succ_le_of_lt after)
    rw [Nat.mul_succ] at next
    exact .inr next

theorem Holds.write {region : Region} {commands : List Command}
    (holds : region.Holds commands commands.length commands.length) (agent : ShmAgent)
    (sequence : UInt32) {request : Request} (fits : request.2.length ≤ payloadSize)
    (room : commands.length < region.queue.capacity.toNat) :
    (region.write agent sequence request).Holds
      (commands ++ [commandOf agent sequence request]) commands.length commands.length := by
  refine ⟨holds.fits, holds.read, ?_, ?_, holds.tail, holds.count⟩
  · rw [List.length_append, List.length_singleton]
    exact room
  · have earlier : (region.write agent sequence request).pending commands.length =
        region.pending commands.length := by
      apply Ring.contents_congr
      intro index used
      have other : (region.queue.readIndex.toNat + index) % region.queue.capacity.toNat ≠
          region.queue.writeIndex.toNat := by
        rw [holds.tail]
        exact Ring.fresh room used
      exact congrArg decode (slot_write holds agent sequence fits other)
    have last : decode ((region.write agent sequence request).slot
        region.queue.writeIndex.toNat) = some (commandOf agent sequence request) := by
      unfold slot Region.write
      simp only [holds.offset]
      exact decode_writeCommand _ _ agent sequence fits
    rw [List.length_append, List.length_singleton, List.map_append, ← holds.slots, ← earlier,
      pending, Ring.contents_push]
    change _ ++ [decode ((region.write agent sequence request).slot
      ((region.queue.readIndex.toNat + commands.length) % region.queue.capacity.toNat))] = _
    rw [← holds.tail, last]
    rfl

theorem Holds.advance {region : Region} {commands : List Command} {used counted : Nat}
    (holds : region.Holds commands used counted) :
    region.advance.Holds commands (used + 1) counted := by
  have small := holds.small
  have inside := holds.tail_lt
  refine ⟨holds.fits, holds.read, holds.room, holds.slots, ?_, holds.count⟩
  have sum : (region.queue.writeIndex + 1).toNat = region.queue.writeIndex.toNat + 1 := by
    rw [UInt32.toNat_add, UInt32.toNat_one]
    omega
  change ((region.queue.writeIndex + 1) % region.queue.capacity).toNat = _
  rw [UInt32.toNat_mod, sum, holds.tail, Ring.advance]
  rfl

theorem Holds.increment {region : Region} {commands : List Command} {used counted : Nat}
    (holds : region.Holds commands used counted) (room : counted < region.queue.capacity.toNat) :
    region.increment.Holds commands used (counted + 1) := by
  have small := holds.small
  have count := holds.count
  refine ⟨holds.fits, holds.read, holds.room, holds.slots, holds.tail, ?_⟩
  change (region.queue.count + 1).toNat = _
  rw [UInt32.toNat_add, UInt32.toNat_one]
  omega

theorem Holds.first {region : Region} {command : Command} {rest : List Command}
    {used counted : Nat} (holds : region.Holds (command :: rest) used counted) :
    decode (region.slot region.queue.readIndex.toNat) = some command ∧
      Ring.contents (fun index => decode (region.slot index)) region.queue.capacity.toNat
        ((region.queue.readIndex.toNat + 1) % region.queue.capacity.toNat) rest.length =
          rest.map some := by
  have slots := holds.slots
  rw [pending, List.length_cons, Ring.contents_pop _ holds.read, List.map_cons] at slots
  exact List.cons.inj slots

theorem Holds.popAdvance {region : Region} {command : Command} {rest : List Command}
    {used counted : Nat} (holds : region.Holds (command :: rest) (used + 1) counted) :
    (region.popAdvance).Holds rest used counted := by
  have small := holds.small
  have inside := holds.read
  have room := holds.room
  rw [List.length_cons] at room
  have sum : (region.queue.readIndex + 1).toNat = region.queue.readIndex.toNat + 1 := by
    rw [UInt32.toNat_add, UInt32.toNat_one]
    omega
  have index : ((region.queue.readIndex + 1) % region.queue.capacity).toNat =
      (region.queue.readIndex.toNat + 1) % region.queue.capacity.toNat := by
    rw [UInt32.toNat_mod, sum]
  refine ⟨holds.fits, ?_, Nat.le_of_succ_le room, ?_, ?_, holds.count⟩
  · change ((region.queue.readIndex + 1) % region.queue.capacity).toNat < _
    rw [index]
    exact Nat.mod_lt _ (by omega)
  · rw [← holds.first.2, ← index]
    rfl
  · change region.queue.writeIndex.toNat =
      (((region.queue.readIndex + 1) % region.queue.capacity).toNat + used) %
        region.queue.capacity.toNat
    rw [index, holds.tail, Nat.mod_add_mod, Nat.add_assoc, Nat.add_comm 1]

theorem Holds.popCount {region : Region} {commands : List Command} {used counted : Nat}
    (holds : region.Holds commands used (counted + 1)) :
    (region.popCount).Holds commands used counted := by
  have count := holds.count
  refine ⟨holds.fits, holds.read, holds.room, holds.slots, holds.tail, ?_⟩
  have positive : (1 : UInt32) ≤ region.queue.count := by
    rw [UInt32.le_iff_toNat_le, UInt32.toNat_one]
    omega
  change (region.queue.count - 1).toNat = _
  rw [UInt32.toNat_sub_of_le _ _ positive, UInt32.toNat_one]
  omega

theorem isFull_iff {region : Region} :
    region.isFull = true ↔ region.queue.capacity.toNat ≤ region.queue.count.toNat := by
  rw [isFull, decide_eq_true_iff, ge_iff_le, UInt32.le_iff_toNat_le]

end Region
/-- The queue at every point of the critical sections: `undelivered` are the commands accepted
    and not yet popped. -/
def Holding.Consistent (agents : Agent → ShmAgent) (region : Region)
    (undelivered : List Command) : Option (Holding Agent) → Prop
  | none | some (.checking ..) | some .popChecking =>
    region.Holds undelivered undelivered.length undelivered.length
  | some (.writing ..) => region.Holds undelivered undelivered.length undelivered.length ∧
      undelivered.length < region.queue.capacity.toNat
  | some (.advancing agent call sequence) =>
    region.Holds (undelivered ++ [commandOf (agents agent) sequence call.request])
      undelivered.length undelivered.length
  | some (.counting agent call sequence) =>
    region.Holds (undelivered ++ [commandOf (agents agent) sequence call.request])
      (undelivered.length + 1) undelivered.length
  | some (.unlocking agent call sequence) =>
    region.Holds (undelivered ++ [commandOf (agents agent) sequence call.request])
      (undelivered.length + 1) (undelivered.length + 1)
  | some (.popAdvancing slot) => ∃ command rest, undelivered = command :: rest ∧
      decode slot = some command ∧
      region.Holds undelivered undelivered.length undelivered.length
  | some (.popCounting slot) => ∃ command rest, undelivered = command :: rest ∧
      decode slot = some command ∧ region.Holds rest rest.length (rest.length + 1)
  | some (.popUnlocking slot) => ∃ command rest, undelivered = command :: rest ∧
      decode slot = some command ∧ region.Holds rest rest.length rest.length

namespace Attached

/-- What is accepted is what is popped and what is still in the queue. -/
def Delivers (effects : List (QueueEffect Agent)) (state : Attached Agent) : Prop :=
  ∃ undelivered, (accepted effects).map some = (popped effects).map decode ++ undelivered.map some ∧
    Holding.Consistent state.agents state.region undelivered state.holder

theorem commandOf_setAgent (state : Attached Agent) (agent other : Agent) (sequence : UInt32)
    (request : Request) :
    commandOf ((state.setAgent agent (state.agents agent).number).agents other) sequence request =
      commandOf (state.agents other) sequence request := by
  by_cases same : other = agent
  · subst same
    simp only [setAgent, Function.update_self]
    rfl
  · simp only [setAgent, Function.update_of_ne same]

theorem consistent_number {state : Attached Agent} {undelivered : List Command} (agent : Agent)
    (consistent : Holding.Consistent state.agents state.region undelivered state.holder) :
    Holding.Consistent (state.setAgent agent (state.agents agent).number).agents state.region
      undelivered state.holder := by
  cases held : state.holder with
  | none =>
    rw [held] at consistent
    exact consistent
  | some holding =>
    rw [held] at consistent
    cases holding with
    | advancing | counting | unlocking =>
      simp only [Holding.Consistent, commandOf_setAgent]
      exact consistent
    | _ => exact consistent

omit [DecidableEq Agent] in
theorem accepted_append (front back : List (QueueEffect Agent)) :
    accepted (front ++ back) = accepted front ++ accepted back := List.filterMap_append

omit [DecidableEq Agent] in
theorem popped_append (front back : List (QueueEffect Agent)) :
    popped (front ++ back) = popped front ++ popped back := List.filterMap_append

omit [DecidableEq Agent] in
theorem Delivers.of_quiet {effects emitted : List (QueueEffect Agent)} {next : Attached Agent}
    {undelivered : List Command}
    (order : (accepted effects).map some = (popped effects).map decode ++ undelivered.map some)
    (quiet : accepted emitted = [] ∧ popped emitted = [])
    (consistent : Holding.Consistent next.agents next.region undelivered next.holder) :
    Delivers (effects ++ emitted) next := by
  refine ⟨undelivered, ?_, consistent⟩
  rw [accepted_append, popped_append, quiet.1, quiet.2, List.append_nil, List.append_nil]
  exact order

theorem delivers_proceed {effects : List (QueueEffect Agent)} {state : Attached Agent}
    {holding : Holding Agent} (delivers : Delivers effects state)
    (held : state.holder = some holding) :
    Delivers (effects ++ (state.proceed holding).2) (state.proceed holding).1 := by
  obtain ⟨undelivered, order, consistent⟩ := delivers
  rw [held] at consistent
  cases holding with
  | checking agent call =>
    simp only [proceed]
    split
    · exact .of_quiet order ⟨rfl, rfl⟩ consistent
    · rename_i room
      apply Delivers.of_quiet order ⟨rfl, rfl⟩
      rw [Region.isFull_iff, consistent.count] at room
      exact ⟨consistent, Nat.not_le.mp room⟩
  | writing agent call sequence =>
    apply Delivers.of_quiet order ⟨rfl, rfl⟩
    exact consistent.1.write (state.agents agent) sequence call.payload_fits consistent.2
  | advancing agent call sequence =>
    exact .of_quiet order ⟨rfl, rfl⟩ consistent.advance
  | counting agent call sequence =>
    apply Delivers.of_quiet order ⟨rfl, rfl⟩
    apply Region.Holds.increment consistent
    have room := consistent.room
    rw [List.length_append, List.length_singleton] at room
    exact room
  | unlocking agent call sequence =>
    refine ⟨undelivered ++ [commandOf (state.agents agent) sequence call.request], ?_, ?_⟩
    · rw [accepted_append, popped_append, List.map_append, order]
      simp [proceed, accepted, popped]
    · change Region.Holds _ _ (undelivered ++ [_]).length (undelivered ++ [_]).length
      rw [List.length_append, List.length_singleton]
      exact consistent
  | popChecking =>
    simp only [proceed]
    split
    · exact .of_quiet order ⟨rfl, rfl⟩ consistent
    · rename_i some
      have count := consistent.count
      cases undelivered with
      | nil => exact (some (UInt32.toNat_inj.mp count)).elim
      | cons command rest =>
        have first := consistent.first.1
        exact .of_quiet order ⟨rfl, rfl⟩ ⟨command, rest, rfl, first, consistent⟩
  | popAdvancing slot =>
    obtain ⟨command, rest, rfl, first, holds⟩ := consistent
    exact .of_quiet order ⟨rfl, rfl⟩ ⟨command, rest, rfl, first, holds.popAdvance⟩
  | popCounting slot =>
    obtain ⟨command, rest, rfl, first, holds⟩ := consistent
    exact .of_quiet order ⟨rfl, rfl⟩ ⟨command, rest, rfl, first, holds.popCount⟩
  | popUnlocking slot =>
    obtain ⟨command, rest, rfl, first, holds⟩ := consistent
    refine ⟨rest, ?_, holds⟩
    rw [accepted_append, popped_append, List.map_append, order]
    simp [proceed, accepted, popped, first]

theorem delivers_step {effects emitted : List (QueueEffect Agent)} {state next : Attached Agent}
    {action : QueueAction Agent} (delivers : Delivers effects state)
    (stepped : step state action = some (next, emitted)) :
    Delivers (effects ++ emitted) next := by
  obtain ⟨undelivered, order, consistent⟩ := id delivers
  unfold step at stepped
  cases action with
  | number agent =>
    obtain ⟨rfl, rfl⟩ := Prod.mk.inj (Option.some.inj stepped)
    exact .of_quiet order ⟨rfl, rfl⟩ (consistent_number agent consistent)
  | refuse agent call =>
    obtain ⟨rfl, rfl⟩ := Prod.mk.inj (Option.some.inj stepped)
    exact .of_quiet order ⟨rfl, rfl⟩ consistent
  | lock agent call =>
    simp only at stepped
    split at stepped
    · cases stepped
    · rename_i free
      split at stepped
      · obtain ⟨rfl, rfl⟩ := Prod.mk.inj (Option.some.inj stepped)
        rw [free] at consistent
        exact .of_quiet order ⟨rfl, rfl⟩ consistent
      · cases stepped
  | lockPop =>
    simp only at stepped
    split at stepped
    · cases stepped
    · rename_i free
      obtain ⟨rfl, rfl⟩ := Prod.mk.inj (Option.some.inj stepped)
      rw [free] at consistent
      exact .of_quiet order ⟨rfl, rfl⟩ consistent
  | proceed =>
    simp only at stepped
    split at stepped
    · rename_i holding held
      obtain ⟨rfl, rfl⟩ := Prod.mk.inj (Option.some.inj stepped)
      exact delivers_proceed delivers held
    · cases stepped

theorem capacity_step {state next : Attached Agent} {action : QueueAction Agent}
    {emitted : List (QueueEffect Agent)} (stepped : step state action = some (next, emitted)) :
    next.region.queue.capacity = state.region.queue.capacity := by
  unfold step at stepped
  cases action with
  | proceed =>
    simp only at stepped
    split at stepped
    · rename_i holding _
      obtain ⟨rfl, -⟩ := Prod.mk.inj (Option.some.inj stepped)
      cases holding with
      | checking | popChecking =>
        dsimp only
        split <;> rfl
      | _ => rfl
    · cases stepped
  | _ =>
    simp only at stepped
    repeat' split at stepped
    all_goals
      cases stepped
      try rfl

/-- A run in which the lock is not released: its holder makes no step. -/
theorem waiting_run {state reached : Attached Agent} {actions : List (QueueAction Agent)}
    {effects : List (QueueEffect Agent)} {holding : Holding Agent}
    (run : Runs.Run step state actions effects reached) (held : state.holder = some holding)
    (waits : ∀ action ∈ actions, action ≠ .proceed) :
    reached.region = state.region ∧ reached.holder = some holding := by
  induction run with
  | nil => exact ⟨rfl, held⟩
  | @snoc _ _ _ _ _ action _ _ stepped ih =>
    obtain ⟨region, holder⟩ := ih fun action member => waits action (by simp [member])
    have waiting := waits action (by simp)
    unfold step at stepped
    cases action with
    | proceed => exact (waiting rfl).elim
    | number agent =>
      obtain ⟨rfl, -⟩ := Prod.mk.inj (Option.some.inj stepped)
      exact ⟨region, holder⟩
    | refuse agent call =>
      obtain ⟨rfl, -⟩ := Prod.mk.inj (Option.some.inj stepped)
      exact ⟨region, holder⟩
    | lock | lockPop =>
      simp only [holder] at stepped
      cases stepped

/-- A `send_command` that returns false, before the lock or under it, leaves the region alone. -/
def RefusedUnchanged (state : Attached Agent) : Prop :=
  (∀ agent call next emitted, step state (.refuse agent call) = some (next, emitted) →
    next.region = state.region) ∧
  ∀ agent call locked entered waiting effects checked next emitted,
    step state (.lock agent call) = some (locked, entered) →
    Runs.Run step locked waiting effects checked → (∀ action ∈ waiting, action ≠ .proceed) →
    step checked .proceed = some (next, emitted) →
    .refused agent call ∈ emitted → next.region = state.region

theorem refused_unchanged (state : Attached Agent) : RefusedUnchanged state := by
  constructor
  · intro agent call next emitted stepped
    obtain ⟨rfl, -⟩ := Prod.mk.inj (Option.some.inj stepped)
    rfl
  · intro agent call locked entered waiting effects checked next emitted locks run waits stepped
      refused
    have taken : locked.region = state.region ∧ locked.holder = some (.checking agent call) := by
      simp only [step] at locks
      repeat' split at locks
      all_goals cases locks
      exact ⟨rfl, rfl⟩
    obtain ⟨region, holder⟩ := waiting_run run taken.2 waits
    simp only [step, holder, proceed] at stepped
    split at stepped
    · obtain ⟨rfl, -⟩ := Prod.mk.inj (Option.some.inj stepped)
      exact region.trans taken.1
    · obtain ⟨-, rfl⟩ := Prod.mk.inj (Option.some.inj stepped)
      cases refused

/-- Where no other thread comes between, the critical section is what `send_command` does as a
    whole. -/
theorem sendCommand_run {state : Attached Agent} {agent : Agent} (free : state.holder = none)
    (connected : (state.agents agent).connected = true) (call : Call) :
    let sent := sendCommand state.region (state.agents agent) true call.request
    ∃ effects, Runs.Run step state
      (.lock agent call :: List.replicate (if sent.1 then 5 else 1) .proceed) effects
      { state.setAgent agent sent.2.2 with region := sent.2.1 } := by
  obtain ⟨region, agents, holder⟩ := state
  obtain rfl : holder = none := free
  have locked : step ⟨region, agents, none⟩ (.lock agent call) =
      some (⟨region, agents, some (.checking agent call)⟩, []) := by
    change (if (agents agent).connected = true then _ else _) = _
    rw [if_pos connected]
  cases full : region.isFull with
  | true =>
    have unsent : sendCommand region (agents agent) true call.request =
        (false, region, agents agent) := by
      simp only [sendCommand, full, if_true, ite_self]
    have checked : step ⟨region, agents, some (.checking agent call)⟩ .proceed =
        some (⟨region, agents, none⟩, [.refused agent call]) := by
      simp only [step, proceed, full, if_true]
    simp only [unsent, setAgent, Function.update_eq_self]
    exact ⟨_, (Runs.Guarded.head trivial locked).append (.head trivial checked)⟩
  | false =>
    have sent : sendCommand region (agents agent) true call.request =
        (true, ((region.write (agents agent) (agents agent).sequence call.request).advance).increment,
          (agents agent).number) := by
      have attached : (agents agent).connected = true := connected
      simp [sendCommand, full, attached]
    let sequence := (agents agent).sequence
    let numbered := Function.update agents agent (agents agent).number
    let written := region.write (numbered agent) sequence call.request
    have checked : step ⟨region, agents, some (.checking agent call)⟩ .proceed =
        some (⟨region, numbered, some (.writing agent call sequence)⟩, []) := by
      simp only [step, proceed, full]
      rfl
    have same : written = region.write (agents agent) sequence call.request := by
      simp only [written, numbered, Function.update_self]
      rfl
    have rest : Runs.Run step ⟨region, numbered, some (.writing agent call sequence)⟩
        [.proceed, .proceed, .proceed, .proceed] _
        ⟨written.advance.increment, numbered, none⟩ :=
      (Runs.Guarded.head trivial rfl).append ((Runs.Guarded.head trivial rfl).append
        ((Runs.Guarded.head trivial rfl).append (.head trivial rfl)))
    rw [same] at rest
    simp only [sent]
    exact ⟨_, (Runs.Guarded.head trivial locked).append
      ((Runs.Guarded.head trivial checked).append rest)⟩

/-- What the queue is for: whoever attaches to the region and however the calls interleave, what is
    popped is what was accepted, in order, and the rest stands in the queue. -/
structure Fifo (capacity : Nat) (effects : List (QueueEffect Agent)) (state : Attached Agent) :
    Prop where
  order : (popped effects).map decode <+: (accepted effects).map some
  rest : state.holder = none → (accepted effects).map some =
    (popped effects).map decode ++ state.region.pending state.region.queue.count.toNat
  bounded : state.holder = none → state.region.queue.count.toNat ≤ capacity
  tail : state.holder = none → state.region.queue.writeIndex.toNat =
    (state.region.queue.readIndex.toNat + state.region.queue.count.toNat) % capacity
  refused : RefusedUnchanged state

theorem delivers_run {region : Region} (fresh : region.queue.Fresh) {agents : Agent → ShmAgent}
    {actions : List (QueueAction Agent)} {effects : List (QueueEffect Agent)}
    {state : Attached Agent}
    (run : Runs.Run step { region := region, agents := agents } actions effects state) :
    Delivers effects state ∧ state.region.queue.capacity = region.queue.capacity := by
  apply run.invariant fun _ effects state =>
    Delivers effects state ∧ state.region.queue.capacity = region.queue.capacity
  · have count : region.queue.count.toNat = 0 := by rw [fresh.empty, UInt32.toNat_zero]
    have tail : region.queue.writeIndex.toNat =
        (region.queue.readIndex.toNat + 0) % region.queue.capacity.toNat := by
      rw [fresh.write, Nat.add_zero, Nat.mod_eq_of_lt fresh.read]
    exact ⟨⟨[], rfl, fresh.fits, fresh.read, Nat.zero_le _, rfl, tail, count⟩, rfl⟩
  · intro _ effects state action next emitted both _ stepped
    exact ⟨delivers_step both.1 stepped, (capacity_step stepped).trans both.2⟩

theorem commandQueue_fifo {region : Region} (fresh : region.queue.Fresh)
    {agents : Agent → ShmAgent} {actions : List (QueueAction Agent)}
    {effects : List (QueueEffect Agent)} {state : Attached Agent}
    (run : Runs.Run step { region := region, agents := agents } actions effects state) :
    Fifo region.queue.capacity.toNat effects state := by
  obtain ⟨⟨undelivered, order, consistent⟩, same⟩ := delivers_run fresh run
  have free (unheld : state.holder = none) :
      state.region.Holds undelivered undelivered.length undelivered.length := by
    rw [unheld] at consistent
    exact consistent
  constructor
  case order => exact ⟨_, order.symm⟩
  case rest =>
    intro unheld
    have holds := free unheld
    rw [order, holds.count, holds.slots]
  case bounded =>
    intro unheld
    have holds := free unheld
    rw [holds.count, ← same]
    exact holds.room
  case tail =>
    intro unheld
    have holds := free unheld
    rw [holds.tail, holds.count, same]
  case refused => exact refused_unchanged state

/-- A queue of one slot that starts at that slot. -/
def oneSlot : Region := ⟨⟨0, 0, 0, 1⟩, fun _ => 0xEE⟩

/-- Two agents send a heartbeat each; there is room for one of them, which is popped before the
    other agent looks up subscribers. -/
def turns : List (QueueAction Bool) :=
  [.lock true (.heartbeat 7), .number false] ++ List.replicate 5 .proceed ++
    [.lock false (.heartbeat 8), .proceed, .lockPop] ++ List.replicate 4 .proceed ++
    [.lock false (.lookupSubscribers 0x1234 0x0001 0x0007)] ++ List.replicate 5 .proceed

theorem turns_fifo : ∃ effects state, Runs.Run step
    { region := oneSlot, agents := fun _ => { connected := true } } turns effects state ∧
      state.holder = none ∧ Fifo 1 effects state := by
  have ends : (Runs.execute step (fun _ _ => True)
      { region := oneSlot, agents := fun _ => { connected := true } } turns).map
        (fun reached => reached.1.holder.isNone) = some true := by
    decide +kernel
  obtain ⟨⟨state, effects⟩, found, free⟩ := Option.map_eq_some_iff.mp ends
  have run := Runs.guarded_of_execute found
  exact ⟨effects, state, run, Option.isNone_iff_eq_none.mp free,
    commandQueue_fifo ⟨by decide, by decide, rfl, by decide, rfl⟩ run⟩

end Attached
end Msomeip.Shm
