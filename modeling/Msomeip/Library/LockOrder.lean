import Mathlib.Algebra.Order.BigOperators.Group.Finset
import Mathlib.Algebra.Order.Monoid.Prod
import Mathlib.Data.Prod.Lex
import Mathlib.Data.Set.Finite.Lattice
import Mathlib.Order.Preorder.Finite
import Msomeip.Library.Locks

namespace Locks

variable {Shared Thread Mutex Work Item Operation Rank : Type*}

namespace Event

def isWork : Event Mutex Work Item → Bool
  | .work _ => true
  | _ => false

/-- The same, with its mutexes and its items as they are named in a larger system. -/
def embed {Named Wrapped : Type*} (name : Mutex → Named) (wrap : Item → Wrapped) :
    Event Mutex Work Item → Event Named Work Wrapped
  | .lock mutex => .lock (name mutex)
  | .work task => .work task
  | .deliver item => .deliver (wrap item)
  | .unlock mutex => .unlock (name mutex)

end Event

theorem map_under {Named Wrapped : Type*} (name : Mutex → Named) (wrap : Item → Wrapped)
    (mutex : Mutex) (events : List (Event Mutex Work Item)) :
    (under mutex events).map (.embed name wrap) =
      under (name mutex) (events.map (.embed name wrap)) := by
  simp [under, Event.embed]

def acquired (events : List (Event Mutex Work Item)) : Set Mutex :=
  { mutex | .lock mutex ∈ events }

section Rank

variable [Preorder Rank] (rank : Mutex → Rank)

/-- What a thread that holds `held` has to do, until it holds `after`, makes it acquire only
    mutexes that outrank all that it holds. -/
def Ascending : Set Mutex → List (Event Mutex Work Item) → Set Mutex → Prop
  | held, [], after => held = after
  | held, .lock mutex :: rest, after =>
    (∀ other ∈ held, rank other < rank mutex) ∧ Ascending (insert mutex held) rest after
  | held, .work _ :: rest, after => Ascending held rest after
  | held, .deliver _ :: rest, after => Ascending held rest after
  | held, .unlock mutex :: rest, after => mutex ∈ held ∧ Ascending (held \ {mutex}) rest after

variable {rank} {held between after below : Set Mutex}
  {events first second : List (Event Mutex Work Item)}

theorem Ascending.append (before : Ascending rank held first between)
    (later : Ascending rank between second after) :
    Ascending rank held (first ++ second) after := by
  induction first generalizing held with
  | nil =>
    have same : held = between := before
    rwa [same]
  | cons event rest ih =>
    cases event with
    | lock mutex => exact ⟨before.1, ih before.2⟩
    | work work => exact ih before
    | deliver item => exact ih before
    | unlock mutex => exact ⟨before.1, ih before.2⟩

theorem Ascending.flatMap {Part : Type*} {parts : List Part}
    {events : Part → List (Event Mutex Work Item)}
    (each : ∀ part ∈ parts, Ascending rank held (events part) held) :
    Ascending rank held (parts.flatMap events) held := by
  induction parts with
  | nil => exact rfl
  | cons part rest ih =>
    have head := each part List.mem_cons_self
    have tail := ih fun other member => each other (List.mem_cons_of_mem _ member)
    exact head.append tail

theorem ascending_deliver (items : List Item) :
    Ascending rank held (items.map (@Event.deliver Mutex Work Item)) held := by
  induction items with
  | nil => exact rfl
  | cons item rest ih => exact ih

theorem ascending_under {mutex : Mutex} (outranks : ∀ other ∈ held, rank other < rank mutex)
    (inside : Ascending rank (insert mutex held) events (insert mutex held)) :
    Ascending rank held (under mutex events) held := by
  have free : mutex ∉ held := fun member => lt_irrefl _ (outranks mutex member)
  apply And.intro outranks
  apply inside.append
  apply And.intro (Set.mem_insert mutex held)
  exact Set.insert_sdiff_self_of_notMem free

/-- It may also start above mutexes that are held already, if all it acquires outrank them. -/
theorem Ascending.above (ascending : Ascending rank held events after)
    (now : ∀ mutex ∈ held, ∀ other ∈ below, rank other < rank mutex)
    (later : ∀ mutex ∈ acquired events, ∀ other ∈ below, rank other < rank mutex) :
    Ascending rank (below ∪ held) events (below ∪ after) := by
  induction events generalizing held with
  | nil =>
    have same : held = after := ascending
    rw [same]
    exact rfl
  | cons event rest ih =>
    have tail : ∀ mutex ∈ acquired rest, ∀ other ∈ below, rank other < rank mutex := by
      intro mutex member
      exact later mutex (List.mem_cons_of_mem _ member)
    cases event with
    | lock mutex =>
      have first : ∀ other ∈ below, rank other < rank mutex := later mutex List.mem_cons_self
      constructor
      · rintro other (member | member)
        · exact first other member
        · exact ascending.1 other member
      · rw [← Set.union_insert]
        apply ih ascending.2 _ tail
        rintro inner (rfl | member)
        · exact first
        · exact now inner member
    | work work => exact ih ascending now tail
    | deliver item => exact ih ascending now tail
    | unlock mutex =>
      have apart : mutex ∉ below := fun member =>
        lt_irrefl _ (now mutex ascending.1 mutex member)
      refine ⟨Or.inr ascending.1, ?_⟩
      rw [Set.union_sdiff_distrib, Set.sdiff_singleton_eq_self apart]
      exact ih ascending.2 (fun inner member => now inner member.1) tail

variable (rank) in
/-- All that is acquired ranks `level` or higher. -/
def Above (level : Rank) (events : List (Event Mutex Work Item)) : Prop :=
  ∀ held, (∀ other ∈ held, rank other < level) → Ascending rank held events held

variable {level higher : Rank}

theorem above_nil : Above rank level ([] : List (Event Mutex Work Item)) := fun _ _ => rfl

theorem above_deliver (items : List Item) :
    Above rank level (items.map (@Event.deliver Mutex Work Item)) := fun _ _ => ascending_deliver items

theorem above_work (work : Work) :
    Above rank level [(.work work : Event Mutex Work Item)] := fun _ _ => rfl

theorem Above.append (before : Above rank level first) (later : Above rank level second) :
    Above rank level (first ++ second) := fun held lower =>
  (before held lower).append (later held lower)

theorem Above.flatMap {Part : Type*} {parts : List Part}
    {events : Part → List (Event Mutex Work Item)}
    (each : ∀ part ∈ parts, Above rank level (events part)) :
    Above rank level (parts.flatMap events) := fun held lower =>
  Ascending.flatMap fun part member => each part member held lower

theorem Above.mono (above : Above rank higher events) (lower : level ≤ higher) :
    Above rank level events := fun held all =>
  above held fun other member => lt_of_lt_of_le (all other member) lower

theorem above_under {mutex : Mutex} (enough : level ≤ rank mutex) (next : rank mutex < higher)
    (inside : Above rank higher events) : Above rank level (under mutex events) := by
  intro held lower
  have outranks : ∀ other ∈ held, rank other < rank mutex := fun other member =>
    lt_of_lt_of_le (lower other member) enough
  apply ascending_under outranks
  apply inside
  rintro other (rfl | member)
  · exact next
  · exact lt_trans (outranks other member) next

end Rank

namespace State

/-- The threads that are not done. -/
def busy (state : State Shared Thread Mutex Work Item) : Set Thread :=
  { thread | state.todo thread ≠ [] }

/-- No thread has anything left to do, and no mutex is held. -/
def AtRest (state : State Shared Thread Mutex Work Item) : Prop :=
  (∀ thread, state.todo thread = []) ∧ ∀ mutex, state.owner mutex = none

end State

namespace System

variable [DecidableEq Thread] [DecidableEq Mutex] [Preorder Rank]
  (system : System Shared Thread Mutex Work Item Operation) (rank : Mutex → Rank)

/-- All that a call acquires outranks what its thread holds. -/
def Outranks (state : State Shared Thread Mutex Work Item) : Action Thread Operation → Prop
  | .call thread operation => ∀ mutex ∈ acquired (system.events operation),
      ∀ other ∈ state.held thread, rank other < rank mutex
  | .next _ => True

def Climbing (state : State Shared Thread Mutex Work Item) : Prop :=
  ∀ thread, Ascending rank (state.held thread) (state.todo thread) ∅

variable {system rank} {state final : State Shared Thread Mutex Work Item}
  {action : Action Thread Operation}

omit [DecidableEq Thread] [DecidableEq Mutex] in
theorem climbing_idle (shared : Shared) :
    Climbing rank (.idle shared : State Shared Thread Mutex Work Item) := by
  intro thread
  have nothing : (State.idle shared : State Shared Thread Mutex Work Item).held thread = ∅ := by
    ext mutex
    simp [State.mem_held, State.idle]
  exact nothing

theorem Climbing.step (climbing : Climbing rank state)
    (ordered : ∀ operation, Ascending rank ∅ (system.events operation) ∅)
    (outranks : system.Outranks rank state action) (moves : system.Moves state action final) :
    Climbing rank final := by
  intro other
  by_cases same : other = action.thread
  · subst other
    have before := climbing action.thread
    cases moves with
    | @called thread operation allowed =>
      rw [Action.thread, State.continues_todo]
      apply Ascending.append _ before
      have whole := (ordered operation).above (by simp) outranks
      rwa [Set.union_empty] at whole
    | @locked thread mutex rest todo free =>
      rw [Action.thread, todo] at before
      rw [Action.thread, State.continues_todo]
      have held := State.held_lock state mutex thread
      exact held ▸ before.2
    | worked todo =>
      rw [Action.thread, todo] at before
      rw [Action.thread, State.continues_todo]
      exact (ascending_deliver _).append before
    | delivered todo =>
      rw [Action.thread, todo] at before
      rw [Action.thread, State.continues_todo]
      exact before
    | @unlocked thread mutex rest todo owner =>
      rw [Action.thread, todo] at before
      rw [Action.thread, State.continues_todo]
      have held := State.held_unlock state mutex thread
      exact held ▸ before.2
  · obtain ⟨todo, held⟩ := moves.other same
    rw [todo, held]
    exact climbing other

omit [DecidableEq Thread] [DecidableEq Mutex] in
theorem outranks_next {thread : Thread} : system.Outranks rank state (.next thread) := True.intro

omit [DecidableEq Thread] [DecidableEq Mutex] in
/-- A thread that does nothing for the library may call anything. -/
theorem Climbing.outranks (climbing : Climbing rank state) {thread : Thread}
    (idle : state.todo thread = []) (operation : Operation) :
    system.Outranks rank state (.call thread operation) := by
  have nothing := climbing thread
  rw [idle] at nothing
  have held : state.held thread = ∅ := nothing
  intro mutex _ other member
  rw [held] at member
  exact member.elim

theorem Moves.busy (moves : system.Moves state action final) :
    final.busy ⊆ insert action.thread state.busy := by
  intro other busy
  by_cases same : other = action.thread
  · exact Or.inl same
  · have before := (moves.other same).1
    exact Or.inr (before ▸ busy : state.todo other ≠ [])

theorem climbing_run {shared : Shared} {actions : List (Action Thread Operation)}
    {items : List Item} (ordered : ∀ operation, Ascending rank ∅ (system.events operation) ∅)
    (guarded : Runs.Guarded system.step (system.Outranks rank) (.idle shared) actions items
      state) : Climbing rank state ∧ state.busy.Finite := by
  apply guarded.invariant fun _ _ state => Climbing rank state ∧ state.busy.Finite
  · refine ⟨climbing_idle shared, ?_⟩
    simp [State.busy, State.idle]
  · intro _ _ state action final _ before outranks stepped
    have moves := moves_of_step stepped
    exact ⟨before.1.step ordered outranks moves, (before.2.insert _).subset moves.busy⟩

/-- The thread cannot take its next step. -/
def Waits (state : State Shared Thread Mutex Work Item) (thread : Thread) (mutex : Mutex) : Prop :=
  (∃ rest, state.todo thread = .lock mutex :: rest) ∧ state.owner mutex ≠ none

theorem Climbing.moves_or_waits (climbing : Climbing rank state) {thread : Thread}
    (busy : thread ∈ state.busy) :
    (∃ final items, system.step state (.next thread) = some (final, items)) ∨
      ∃ mutex, Waits state thread mutex := by
  have before := climbing thread
  rcases todo : state.todo thread with _ | ⟨event, rest⟩
  · exact (busy todo).elim
  · rw [todo] at before
    cases event with
    | lock mutex =>
      by_cases free : state.owner mutex = none
      · left
        simp [System.step, todo, free]
      · exact Or.inr ⟨mutex, ⟨rest, todo⟩, free⟩
    | work work =>
      left
      simp [System.step, todo]
    | deliver item =>
      left
      simp [System.step, todo]
    | unlock mutex =>
      left
      have owner : state.owner mutex = some thread := before.1
      simp [System.step, todo, owner]

omit [DecidableEq Thread] [DecidableEq Mutex] in
/-- Who owns the mutex is not done, and what it waits for outranks the mutex. -/
theorem Climbing.owner (climbing : Climbing rank state) {thread : Thread} {mutex : Mutex}
    (owner : state.owner mutex = some thread) : thread ∈ state.busy ∧
      ∀ wanted, Waits state thread wanted → rank mutex < rank wanted := by
  have before := climbing thread
  constructor
  · intro done
    rw [done] at before
    have nothing : state.held thread = ∅ := before
    have held : mutex ∈ state.held thread := owner
    rw [nothing] at held
    exact held
  · rintro wanted ⟨⟨rest, todo⟩, -⟩
    rw [todo] at before
    exact before.1 mutex owner

/-- Not all threads wait: the one whose wanted mutex has the highest rank would wait for a thread
    that wants a mutex of a higher rank. -/
theorem Climbing.progress (climbing : Climbing rank state) (finite : state.busy.Finite)
    (some_busy : state.busy.Nonempty) :
    ∃ thread ∈ state.busy, ∃ final items, system.step state (.next thread) = some (final, items) := by
  by_contra stuck
  have waits : ∀ thread ∈ state.busy, ∃ mutex, Waits state thread mutex := by
    intro thread busy
    have movable : ¬ ∃ final items, system.step state (.next thread) = some (final, items) :=
      fun moves => stuck ⟨thread, busy, moves⟩
    exact (climbing.moves_or_waits busy).resolve_left movable
  have wanting : Nonempty Mutex := by
    obtain ⟨thread, busy⟩ := some_busy
    obtain ⟨mutex, -⟩ := waits thread busy
    exact ⟨mutex⟩
  choose! wanted waiting using waits
  obtain ⟨top, busy, highest⟩ :=
    finite.exists_maximalFor (fun thread => rank (wanted thread)) _ some_busy
  obtain ⟨-, taken⟩ := waiting top busy
  obtain ⟨holder, owner⟩ := Option.ne_none_iff_exists'.mp taken
  obtain ⟨holding, above⟩ := climbing.owner owner
  have higher := above (wanted holder) (waiting holder holding)
  exact not_le_of_gt higher (highest holding (le_of_lt higher))

/-- A work may leave any number of items, so the works count first. -/
def load (events : List (Event Mutex Work Item)) : ℕ ×ₗ ℕ :=
  toLex (events.countP Event.isWork, events.length)

omit [DecidableEq Mutex] in
theorem load_tail_lt (event : Event Mutex Work Item) (rest : List (Event Mutex Work Item)) :
    load rest < load (event :: rest) := by
  rw [load, load, Prod.Lex.toLex_lt_toLex, List.countP_cons, List.length_cons]
  split <;> simp

omit [DecidableEq Mutex] in
theorem load_work_lt (work : Work) (items : List Item) (rest : List (Event Mutex Work Item)) :
    load (items.map .deliver ++ rest) < load (.work work :: rest) := by
  have silent : (items.map (@Event.deliver Mutex Work Item)).countP
      Event.isWork = 0 := by
    simp [List.countP_eq_zero, Event.isWork]
  rw [load, load, Prod.Lex.toLex_lt_toLex, List.countP_append, silent, List.countP_cons]
  simp [Event.isWork]

theorem Moves.load {thread : Thread} (moves : system.Moves state (.next thread) final) :
    System.load (final.todo thread) < System.load (state.todo thread) := by
  cases moves with
  | locked todo free =>
    rw [State.continues_todo, todo]
    exact load_tail_lt _ _
  | worked todo =>
    rw [State.continues_todo, todo]
    exact load_work_lt _ _ _
  | delivered todo =>
    rw [State.continues_todo, todo]
    exact load_tail_lt _ _
  | unlocked todo owner =>
    rw [State.continues_todo, todo]
    exact load_tail_lt _ _

def remaining (threads : Finset Thread) (state : State Shared Thread Mutex Work Item) : ℕ ×ₗ ℕ :=
  ∑ thread ∈ threads, load (state.todo thread)

theorem Moves.remaining {threads : Finset Thread} {thread : Thread} (member : thread ∈ threads)
    (moves : system.Moves state (.next thread) final) :
    System.remaining threads final < System.remaining threads state := by
  apply Finset.sum_lt_sum
  · intro other _
    by_cases same : other = thread
    · rw [same]
      exact le_of_lt moves.load
    · rw [(moves.other same).1]
  · exact ⟨thread, member, moves.load⟩

/-- With no further calls the threads can all finish. -/
theorem Climbing.drains (climbing : Climbing rank state)
    (ordered : ∀ operation, Ascending rank ∅ (system.events operation) ∅) {threads : Finset Thread}
    (within : state.busy ⊆ threads) :
    ∃ (schedule : List Thread) (items : List Item) (final : State Shared Thread Mutex Work Item),
      Runs.Run system.step state (schedule.map .next) items final ∧ final.AtRest := by
  induction left : remaining threads state using WellFoundedLT.induction generalizing state with
  | ind _ ih =>
    subst left
    rcases state.busy.eq_empty_or_nonempty with none_busy | some_busy
    · have done : ∀ thread, state.todo thread = [] := by
        intro thread
        by_contra busy
        have member : thread ∈ state.busy := busy
        rw [none_busy] at member
        exact member
      refine ⟨[], [], state, .nil, done, ?_⟩
      intro mutex
      by_contra taken
      obtain ⟨holder, owner⟩ := Option.ne_none_iff_exists'.mp taken
      exact (climbing.owner owner).1 (done holder)
    · have finite := threads.finite_toSet.subset within
      have progress : state.busy.Finite → state.busy.Nonempty → ∃ thread ∈ state.busy,
          ∃ final items, system.step state (.next thread) = some (final, items) := climbing.progress
      obtain ⟨thread, busy, next, first, stepped⟩ :=
        progress finite some_busy
      have moves := moves_of_step stepped
      have fewer := moves.remaining (within busy)
      have still : next.busy ⊆ threads := by
        intro other member
        rcases moves.busy member with rfl | before
        · exact within busy
        · exact within before
      have after := climbing.step ordered outranks_next moves
      obtain ⟨schedule, items, final, run, rest⟩ := ih _ fewer after still rfl
      refine ⟨thread :: schedule, first ++ items, final, ?_, rest⟩
      exact (Runs.Guarded.head trivial stepped).append run

/-- No deadlock: where calls are made in order of rank, whatever was called can be finished. -/
theorem drains_of_run {shared : Shared} {actions : List (Action Thread Operation)}
    {items : List Item} (ordered : ∀ operation, Ascending rank ∅ (system.events operation) ∅)
    (guarded : Runs.Guarded system.step (system.Outranks rank) (.idle shared) actions items
      state) :
    ∃ (schedule : List Thread) (later : List Item) (final : State Shared Thread Mutex Work Item),
      Runs.Run system.step state (schedule.map .next) later final ∧ final.AtRest := by
  obtain ⟨climbing, finite⟩ := climbing_run ordered guarded
  have within : state.busy ⊆ finite.toFinset := by simp
  exact climbing.drains ordered within

end System
end Locks
