import Mathlib.Logic.Function.Basic
import Mathlib.Order.BooleanAlgebra.Set
import Msomeip.Library.Runs

namespace Locks

open Function (update)

/-- What a thread has still to do. -/
inductive Event (Mutex Work Item : Type*)
  | lock (mutex : Mutex)
  | work (work : Work)
  | deliver (item : Item)
  | unlock (mutex : Mutex)

/-- Operations of threads on a shared state. A work may need a mutex, and it leaves items for its
    thread to deliver; an item that calls back may start operations of its own. -/
structure System (Shared Thread Mutex Work Item Operation : Type*) where
  run : Work → Shared → Shared × List Item
  needs : Work → Option Mutex
  callsBack : Item → Bool
  events : Operation → List (Event Mutex Work Item)
  starts : Thread → Operation → Bool
  reenters : Operation → Bool

structure State (Shared Thread Mutex Work Item : Type*) where
  shared : Shared
  owner : Mutex → Option Thread
  todo : Thread → List (Event Mutex Work Item)

inductive Action (Thread Operation : Type*)
  | call (thread : Thread) (operation : Operation)
  | next (thread : Thread)

variable {Shared Thread Mutex Work Item Operation : Type*}

def Action.thread : Action Thread Operation → Thread
  | .call thread _ => thread
  | .next thread => thread

def under (mutex : Mutex) (events : List (Event Mutex Work Item)) :
    List (Event Mutex Work Item) :=
  .lock mutex :: (events ++ [.unlock mutex])

/-- A work on its own, under the mutex that it needs. -/
def critical (needs : Work → Option Mutex) (work : Work) : List (Event Mutex Work Item) :=
  match needs work with
  | some mutex => under mutex [.work work]
  | none => [.work work]

namespace State

def idle (shared : Shared) : State Shared Thread Mutex Work Item where
  shared := shared
  owner := fun _ => none
  todo := fun _ => []

def held (state : State Shared Thread Mutex Work Item) (thread : Thread) : Set Mutex :=
  { mutex | state.owner mutex = some thread }

theorem mem_held {state : State Shared Thread Mutex Work Item} {thread : Thread} {mutex : Mutex} :
    mutex ∈ state.held thread ↔ state.owner mutex = some thread := Iff.rfl

def continues [DecidableEq Thread] (state : State Shared Thread Mutex Work Item) (thread : Thread)
    (events : List (Event Mutex Work Item)) : State Shared Thread Mutex Work Item :=
  { state with todo := update state.todo thread events }

def owned [DecidableEq Mutex] (state : State Shared Thread Mutex Work Item) (mutex : Mutex)
    (thread : Option Thread) : State Shared Thread Mutex Work Item :=
  { state with owner := update state.owner mutex thread }

@[simp] theorem continues_todo [DecidableEq Thread] (state : State Shared Thread Mutex Work Item)
    (thread : Thread) (events : List (Event Mutex Work Item)) :
    (state.continues thread events).todo thread = events := by
  simp [continues]

theorem continues_other [DecidableEq Thread] {state : State Shared Thread Mutex Work Item}
    {thread other : Thread} {events : List (Event Mutex Work Item)} (differs : other ≠ thread) :
    (state.continues thread events).todo other = state.todo other := by
  simp [continues, differs]

theorem held_lock [DecidableEq Mutex] (state : State Shared Thread Mutex Work Item)
    (mutex : Mutex) (thread : Thread) :
    (state.owned mutex (some thread)).held thread = insert mutex (state.held thread) := by
  ext other
  by_cases same : other = mutex
  · subst other
    simp [mem_held, owned]
  · simp [mem_held, owned, same]

theorem held_lock_other [DecidableEq Mutex] {state : State Shared Thread Mutex Work Item}
    {mutex : Mutex} {thread other : Thread} (free : state.owner mutex = none)
    (differs : other ≠ thread) :
    (state.owned mutex (some thread)).held other = state.held other := by
  ext candidate
  by_cases same : candidate = mutex
  · subst candidate
    simp [mem_held, owned, free, Ne.symm differs]
  · simp [mem_held, owned, same]

theorem held_unlock [DecidableEq Mutex] (state : State Shared Thread Mutex Work Item)
    (mutex : Mutex) (thread : Thread) :
    (state.owned mutex none).held thread = state.held thread \ {mutex} := by
  ext other
  by_cases same : other = mutex
  · subst other
    simp [mem_held, owned]
  · simp [mem_held, owned, same]

theorem held_unlock_other [DecidableEq Mutex] {state : State Shared Thread Mutex Work Item}
    {mutex : Mutex} {thread other : Thread} (owner : state.owner mutex = some thread)
    (differs : other ≠ thread) :
    (state.owned mutex none).held other = state.held other := by
  rw [held_unlock]
  apply Set.sdiff_singleton_eq_self
  intro member
  rw [mem_held, owner] at member
  exact differs (Option.some.inj member).symm

end State

namespace System

variable (system : System Shared Thread Mutex Work Item Operation)

def applied (work : Work) (state : State Shared Thread Mutex Work Item) :
    State Shared Thread Mutex Work Item :=
  { state with shared := (system.run work state.shared).1 }

def runAll : List Work → Shared → Shared × List Item
  | [], shared => (shared, [])
  | work :: works, shared =>
    ((runAll works (system.run work shared).1).1,
      (system.run work shared).2 ++ (runAll works (system.run work shared).1).2)

/-- The thread may call the operation where it is idle, and where it is being called back. -/
def mayCall (thread : Thread) (operation : Operation) : List (Event Mutex Work Item) → Bool
  | [] => system.starts thread operation
  | .deliver item :: _ => system.callsBack item && system.reenters operation
  | _ => false

variable (spared : Set Mutex)

/-- What a thread that holds `held` has to do, until it holds `after`, makes it acquire no mutex
    that it holds and release none that it does not hold. A work that needs a mutex runs under it;
    the others, and whatever calls back, run under spared mutexes only. -/
def Disciplined : Set Mutex → List (Event Mutex Work Item) → Set Mutex → Prop
  | held, [], after => held = after
  | held, .lock mutex :: rest, after => mutex ∉ held ∧ Disciplined (insert mutex held) rest after
  | held, .work work :: rest, after =>
    (match system.needs work with
      | some mutex => mutex ∈ held
      | none => held ⊆ spared) ∧ Disciplined held rest after
  | held, .deliver item :: rest, after =>
    (system.callsBack item = true → held ⊆ spared) ∧ Disciplined held rest after
  | held, .unlock mutex :: rest, after =>
    mutex ∈ held ∧ Disciplined (held \ {mutex}) rest after

/-- No work that needs a mutex leaves a callback. -/
def Outside (state : State Shared Thread Mutex Work Item) : Action Thread Operation → Prop
  | .call _ _ => True
  | .next thread => ∀ work rest, state.todo thread = .work work :: rest →
      system.needs work ≠ none →
      ∀ item ∈ (system.run work state.shared).2, system.callsBack item = false

def Orderly (state : State Shared Thread Mutex Work Item) : Prop :=
  ∀ thread, system.Disciplined spared (state.held thread) (state.todo thread) ∅

variable {system spared} {held between after : Set Mutex}
  {first second : List (Event Mutex Work Item)}

theorem Disciplined.append (before : system.Disciplined spared held first between)
    (later : system.Disciplined spared between second after) :
    system.Disciplined spared held (first ++ second) after := by
  induction first generalizing held with
  | nil =>
    have same : held = between := before
    rwa [same]
  | cons event rest ih =>
    cases event with
    | lock mutex => exact ⟨before.1, ih before.2⟩
    | work work => exact ⟨before.1, ih before.2⟩
    | deliver item => exact ⟨before.1, ih before.2⟩
    | unlock mutex => exact ⟨before.1, ih before.2⟩

theorem Disciplined.flatMap {Part : Type*} {events : Part → List (Event Mutex Work Item)}
    {parts : List Part}
    (each : ∀ part ∈ parts, system.Disciplined spared held (events part) held) :
    system.Disciplined spared held (parts.flatMap events) held := by
  induction parts with
  | nil => exact rfl
  | cons part rest ih =>
    have head := each part List.mem_cons_self
    have tail := ih fun other member => each other (List.mem_cons_of_mem _ member)
    exact head.append tail

theorem disciplined_deliver {items : List Item}
    (outside : ∀ item ∈ items, system.callsBack item = true → held ⊆ spared) :
    system.Disciplined spared held (items.map .deliver) held := by
  induction items with
  | nil => exact rfl
  | cons item rest ih =>
    have tail := ih fun other member => outside other (List.mem_cons_of_mem _ member)
    exact ⟨outside item List.mem_cons_self, tail⟩

theorem disciplined_under {mutex : Mutex} {events : List (Event Mutex Work Item)}
    (free : mutex ∉ held) (inside : system.Disciplined spared (insert mutex held) events
      (insert mutex held)) : system.Disciplined spared held (under mutex events) held := by
  apply And.intro free
  apply inside.append
  apply And.intro (Set.mem_insert mutex held)
  exact Set.insert_sdiff_self_of_notMem free

theorem disciplined_critical {work : Work}
    (free : ∀ mutex, system.needs work = some mutex → mutex ∉ held)
    (within : system.needs work = none → held ⊆ spared) :
    system.Disciplined spared held (critical system.needs work) held := by
  unfold critical
  split
  · rename_i mutex needs
    have inside : system.Disciplined spared (insert mutex held) [.work work]
        (insert mutex held) := by
      simp [Disciplined, needs]
    exact disciplined_under (free mutex needs) inside
  · rename_i needs
    simp [Disciplined, needs, within needs]

theorem orderly_idle (shared : Shared) :
    system.Orderly spared (.idle shared : State Shared Thread Mutex Work Item) := by
  intro thread
  have nothing : (State.idle shared : State Shared Thread Mutex Work Item).held thread = ∅ := by
    ext mutex
    simp [State.mem_held, State.idle]
  exact nothing

variable {state : State Shared Thread Mutex Work Item}

variable (system) in
/-- What the operations of a system must keep to: also one that starts where the spared mutexes
    are held. -/
structure Keeps (spared : Set Mutex) : Prop where
  started : ∀ thread operation, system.starts thread operation = true →
    system.Disciplined spared ∅ (system.events operation) ∅
  reentered : ∀ operation, system.reenters operation = true → ∀ held, held ⊆ spared →
    system.Disciplined spared held (system.events operation) held

theorem Orderly.called (orderly : system.Orderly spared state) (keeps : system.Keeps spared)
    {thread : Thread} {operation : Operation}
    (allowed : system.mayCall thread operation (state.todo thread) = true) :
    system.Disciplined spared (state.held thread) (system.events operation ++ state.todo thread)
      ∅ := by
  have before := orderly thread
  cases todo : state.todo thread with
  | nil =>
    rw [todo] at before allowed
    have nothing : state.held thread = ∅ := before
    rw [List.append_nil, nothing]
    exact keeps.started thread operation allowed
  | cons event rest =>
    rw [todo] at before allowed
    cases event with
    | deliver item =>
      obtain ⟨callsBack, reenters⟩ := Bool.and_eq_true_iff.mp allowed
      have within := before.1 callsBack
      exact (keeps.reentered operation reenters _ within).append before
    | lock mutex => cases allowed
    | work work => cases allowed
    | unlock mutex => cases allowed

/-- An orderly thread calls back holding spared mutexes only. -/
theorem Orderly.callback (orderly : system.Orderly spared state) {thread : Thread} {item : Item}
    {rest : List (Event Mutex Work Item)} (todo : state.todo thread = .deliver item :: rest)
    (callsBack : system.callsBack item = true) : state.held thread ⊆ spared := by
  have before := orderly thread
  rw [todo] at before
  exact before.1 callsBack

theorem Orderly.acquires (orderly : system.Orderly spared state) {thread : Thread} {mutex : Mutex}
    {rest : List (Event Mutex Work Item)} (todo : state.todo thread = .lock mutex :: rest) :
    state.owner mutex ≠ some thread := by
  have before := orderly thread
  rw [todo] at before
  exact before.1

theorem Orderly.works (orderly : system.Orderly spared state) {thread : Thread} {work : Work}
    {rest : List (Event Mutex Work Item)} (todo : state.todo thread = .work work :: rest)
    {mutex : Mutex} (needs : system.needs work = some mutex) :
    state.owner mutex = some thread := by
  have before := orderly thread
  rw [todo] at before
  have inside := before.1
  rw [needs] at inside
  exact inside

variable (system) [DecidableEq Thread] [DecidableEq Mutex]

/-- A thread waits for a mutex that is not free, also for one that it owns itself. -/
def step : Runs.Step (State Shared Thread Mutex Work Item) (Action Thread Operation) Item :=
  fun state action =>
    match action with
    | .call thread operation =>
      if system.mayCall thread operation (state.todo thread) then
        some (state.continues thread (system.events operation ++ state.todo thread), [])
      else none
    | .next thread =>
      match state.todo thread with
      | [] => none
      | .lock mutex :: rest =>
        if state.owner mutex = none then
          some ((state.owned mutex (some thread)).continues thread rest, [])
        else none
      | .work work :: rest =>
        some ((system.applied work state).continues thread
          ((system.run work state.shared).2.map Event.deliver ++ rest), [])
      | .deliver item :: rest => some (state.continues thread rest, [item])
      | .unlock mutex :: rest =>
        if state.owner mutex = some thread then
          some ((state.owned mutex none).continues thread rest, [])
        else none

/-- What a step can do. -/
inductive Moves (state : State Shared Thread Mutex Work Item) :
    Action Thread Operation → State Shared Thread Mutex Work Item → Prop
  | called {thread : Thread} {operation : Operation} :
      system.mayCall thread operation (state.todo thread) = true →
      Moves state (.call thread operation)
        (state.continues thread (system.events operation ++ state.todo thread))
  | locked {thread : Thread} {mutex : Mutex} {rest : List (Event Mutex Work Item)} :
      state.todo thread = .lock mutex :: rest → state.owner mutex = none →
      Moves state (.next thread) ((state.owned mutex (some thread)).continues thread rest)
  | worked {thread : Thread} {work : Work} {rest : List (Event Mutex Work Item)} :
      state.todo thread = .work work :: rest →
      Moves state (.next thread)
        ((system.applied work state).continues thread
          ((system.run work state.shared).2.map Event.deliver ++ rest))
  | delivered {thread : Thread} {item : Item} {rest : List (Event Mutex Work Item)} :
      state.todo thread = .deliver item :: rest →
      Moves state (.next thread) (state.continues thread rest)
  | unlocked {thread : Thread} {mutex : Mutex} {rest : List (Event Mutex Work Item)} :
      state.todo thread = .unlock mutex :: rest → state.owner mutex = some thread →
      Moves state (.next thread) ((state.owned mutex none).continues thread rest)

variable {system} {final : State Shared Thread Mutex Work Item}
  {action : Action Thread Operation}

theorem moves_of_step {emitted : List Item}
    (stepped : system.step state action = some (final, emitted)) :
    system.Moves state action final := by
  cases action with
  | call thread operation =>
    simp only [step] at stepped
    split at stepped
    · rename_i allowed
      obtain ⟨rfl, -⟩ := Prod.mk.inj (Option.some.inj stepped)
      exact .called allowed
    · cases stepped
  | next thread =>
    simp only [step] at stepped
    split at stepped
    · cases stepped
    · rename_i mutex rest todo
      split at stepped
      · rename_i free
        obtain ⟨rfl, -⟩ := Prod.mk.inj (Option.some.inj stepped)
        exact .locked todo free
      · cases stepped
    · rename_i work rest todo
      obtain ⟨rfl, -⟩ := Prod.mk.inj (Option.some.inj stepped)
      exact .worked todo
    · rename_i item rest todo
      obtain ⟨rfl, -⟩ := Prod.mk.inj (Option.some.inj stepped)
      exact .delivered todo
    · rename_i mutex rest todo
      split at stepped
      · rename_i owner
        obtain ⟨rfl, -⟩ := Prod.mk.inj (Option.some.inj stepped)
        exact .unlocked todo owner
      · cases stepped

theorem Moves.other (moves : system.Moves state action final) {other : Thread}
    (differs : other ≠ action.thread) :
    final.todo other = state.todo other ∧ final.held other = state.held other := by
  cases moves with
  | called _ => exact ⟨State.continues_other differs, rfl⟩
  | locked todo free => exact ⟨State.continues_other differs, State.held_lock_other free differs⟩
  | worked todo => exact ⟨State.continues_other differs, rfl⟩
  | delivered todo => exact ⟨State.continues_other differs, rfl⟩
  | unlocked todo owner =>
    exact ⟨State.continues_other differs, State.held_unlock_other owner differs⟩

/-- Where the operations are disciplined, the threads are, until a work calls back under the mutex
    that it needs. -/
theorem Orderly.step (orderly : system.Orderly spared state) (keeps : system.Keeps spared)
    (outside : system.Outside state action) (moves : system.Moves state action final) :
    system.Orderly spared final := by
  intro other
  by_cases same : other = action.thread
  · subst other
    have before := orderly action.thread
    cases moves with
    | called allowed =>
      rw [Action.thread, State.continues_todo]
      exact orderly.called keeps allowed
    | @locked thread mutex rest todo free =>
      rw [Action.thread, todo] at before
      rw [Action.thread, State.continues_todo]
      have held := State.held_lock state mutex thread
      exact held ▸ before.2
    | @worked thread work rest todo =>
      rw [Action.thread, todo] at before
      rw [Action.thread, State.continues_todo]
      apply Disciplined.append _ before.2
      apply disciplined_deliver
      intro item member callsBack
      have where' := before.1
      cases needs : system.needs work with
      | none =>
        rw [needs] at where'
        exact where'
      | some mutex =>
        have silent := outside work rest todo (by simp [needs]) item member
        rw [silent] at callsBack
        cases callsBack
    | delivered todo =>
      rw [Action.thread, todo] at before
      rw [Action.thread, State.continues_todo]
      exact before.2
    | @unlocked thread mutex rest todo owner =>
      rw [Action.thread, todo] at before
      rw [Action.thread, State.continues_todo]
      have held := State.held_unlock state mutex thread
      exact held ▸ before.2
  · obtain ⟨todo, held⟩ := moves.other same
    rw [todo, held]
    exact orderly other

theorem orderly_run {shared : Shared} {actions : List (Action Thread Operation)}
    {items : List Item} (keeps : system.Keeps spared)
    (guarded : Runs.Guarded system.step system.Outside (.idle shared) actions items state) :
    system.Orderly spared state := by
  apply guarded.invariant fun _ _ state => system.Orderly spared state
  · exact orderly_idle shared
  · intro _ _ state action final _ orderly outside stepped
    exact orderly.step keeps outside (moves_of_step stepped)

variable (system) in
/-- The thread gets from one state to the other without a step of another thread. -/
def Alone (thread : Thread) (start : State Shared Thread Mutex Work Item) (items : List Item)
    (final : State Shared Thread Mutex Work Item) : Prop :=
  ∃ count, Runs.Run system.step start (List.replicate count (.next thread)) items final

theorem Alone.head {thread : Thread} {items : List Item}
    (stepped : system.step state (.next thread) = some (final, items)) :
    system.Alone thread state items final :=
  ⟨1, Runs.Guarded.head trivial stepped⟩

theorem Alone.trans {thread : Thread} {middle : State Shared Thread Mutex Work Item}
    {items later : List Item} (first : system.Alone thread state items middle)
    (second : system.Alone thread middle later final) :
    system.Alone thread state (items ++ later) final := by
  obtain ⟨count, before⟩ := first
  obtain ⟨more, after⟩ := second
  refine ⟨count + more, ?_⟩
  rw [List.replicate_add]
  exact before.append after

variable (system) in
theorem deliver_alone (state : State Shared Thread Mutex Work Item) (thread : Thread)
    (items : List Item) (rest : List (Event Mutex Work Item)) :
    system.Alone thread (state.continues thread (items.map .deliver ++ rest)) items
      (state.continues thread rest) := by
  induction items with
  | nil => exact ⟨0, .nil⟩
  | cons item others ih =>
    have delivered : system.step
        (state.continues thread ((item :: others).map .deliver ++ rest)) (.next thread) =
          some (state.continues thread (others.map .deliver ++ rest), [item]) := by
      simp [step, State.continues]
    exact (Alone.head delivered).trans ih

variable (system) in
theorem work_alone (state : State Shared Thread Mutex Work Item) (thread : Thread) (work : Work)
    (rest : List (Event Mutex Work Item)) :
    system.Alone thread (state.continues thread (.work work :: rest))
      (system.run work state.shared).2 ((system.applied work state).continues thread rest) := by
  have worked : system.step (state.continues thread (.work work :: rest)) (.next thread) =
      some ((system.applied work state).continues thread
        ((system.run work state.shared).2.map Event.deliver ++ rest), []) := by
    simp [step, State.continues, applied]
  exact (Alone.head worked).trans (deliver_alone system _ _ _ _)

variable (system) in
/-- A work that finds its mutex free, and no other thread in its way, does what it says. -/
theorem critical_alone (state : State Shared Thread Mutex Work Item) (thread : Thread)
    (work : Work) (rest : List (Event Mutex Work Item))
    (free : ∀ mutex, system.needs work = some mutex → state.owner mutex = none) :
    system.Alone thread (state.continues thread (critical system.needs work ++ rest))
      (system.run work state.shared).2 ((system.applied work state).continues thread rest) := by
  unfold critical
  split
  · rename_i mutex needs
    have idle := free mutex needs
    have restored : update (update state.owner mutex (some thread)) mutex none = state.owner := by
      rw [Function.update_idem, ← idle, Function.update_eq_self]
    have locked : system.step
        (state.continues thread (.lock mutex :: .work work :: .unlock mutex :: rest))
        (.next thread) = some ((state.owned mutex (some thread)).continues thread
          (.work work :: .unlock mutex :: rest), []) := by
      simp [step, State.continues, State.owned, idle]
    have worked : system.Alone thread ((state.owned mutex (some thread)).continues thread
        (.work work :: .unlock mutex :: rest)) (system.run work state.shared).2
          ((system.applied work (state.owned mutex (some thread))).continues thread
            (.unlock mutex :: rest)) := work_alone system _ _ _ _
    have unlocked : system.step ((system.applied work (state.owned mutex (some thread))).continues
        thread (.unlock mutex :: rest)) (.next thread) =
          some ((system.applied work state).continues thread rest, []) := by
      simp [step, State.continues, State.owned, applied, restored]
    have whole := (Alone.head locked).trans (worked.trans (Alone.head unlocked))
    rwa [List.nil_append, List.append_nil] at whole
  · exact work_alone system state thread work rest

variable (system) in
/-- Where all mutexes are free, works one after another do what they say. -/
theorem criticals_alone (state : State Shared Thread Mutex Work Item) (thread : Thread)
    (works : List Work) (rest : List (Event Mutex Work Item))
    (free : ∀ mutex, state.owner mutex = none) :
    system.Alone thread
      (state.continues thread (works.flatMap (critical system.needs) ++ rest))
      (system.runAll works state.shared).2
      ({ state with shared := (system.runAll works state.shared).1 }.continues thread rest) := by
  induction works generalizing state with
  | nil => exact ⟨0, .nil⟩
  | cons work others ih =>
    have first := critical_alone system state thread work
      (others.flatMap (critical system.needs) ++ rest) fun mutex _ => free mutex
    rw [List.flatMap_cons, List.append_assoc]
    exact first.trans (ih (system.applied work state) free)

end System
end Locks
