import Msomeip.Transport.StopThreads

namespace Msomeip.Transport.TcpTransport.StopThreads

/-- The thread's next step is to acquire the mutex. -/
def ReceiveThread.Locks (thread : ReceiveThread) : Prop :=
  thread = .starting ∨ thread = .closing

/-- `stop` holds the mutex while it waits for a thread whose next step is to acquire it. -/
def State.Deadlocked (state : State) : Prop :=
  ∃ id remaining, state.stop = .joining id remaining ∧ state.connectionsMutex = some .stop ∧
    (state.threads id).Locks

/-- When `stop` gets the mutex, no connection is left whose thread it would join. -/
def NoneJoinable (state : State) : Action → Prop
  | .stopLock => ∀ connection ∈ state.connections, connection.joinable = false
  | _ => True

instance decidableNoneJoinable (state : State) (action : Action) :
    Decidable (NoneJoinable state action) :=
  match action with
  | .stopLock => inferInstanceAs
      (Decidable (∀ connection ∈ state.connections, connection.joinable = false))
  | .threadLock _ | .threadUnlock _ | .threadBreak _ | .stopCall | .stopVisit | .stopJoined
  | .stopUnlock => inferInstanceAs (Decidable True)

/-- `stop` joins no thread. -/
def State.Spared (state : State) : Prop :=
  (∀ remaining, state.stop = .iterating remaining →
    ∀ connection ∈ remaining, connection.joinable = false) ∧
  ∀ id remaining, state.stop ≠ .joining id remaining

theorem spared_step {state final : State} {action : Action} (spared : state.Spared)
    (met : NoneJoinable state action) (moves : Moves state action final) : final.Spared := by
  obtain ⟨visited, notJoining⟩ := spared
  cases moves with
  | called _ => exact ⟨by simp, by simp⟩
  | locked _ _ =>
    refine ⟨?_, by simp⟩
    intro remaining iterating
    obtain rfl := Stop.iterating.inj iterating
    exact met
  | @joins connection remaining iterating joinable =>
    have other := visited _ iterating connection List.mem_cons_self
    rw [joinable] at other
    cases other
  | @passes connection remaining iterating _ =>
    refine ⟨?_, by simp⟩
    intro rest same
    obtain rfl := Stop.iterating.inj same
    intro other member
    exact visited _ iterating other (List.mem_cons_of_mem _ member)
  | joined joining _ => exact (notJoining _ _ joining).elim
  | unlocked _ => exact ⟨by simp, by simp⟩
  | _ => exact ⟨visited, notJoining⟩

theorem spared_run {connections : List Connection} {actions : List Action} {outputs : List Unit}
    {state : State}
    (guarded : Runs.Guarded step NoneJoinable (opened connections) actions outputs state) :
    state.Spared := by
  apply guarded.kept State.Spared
  · exact ⟨by simp [opened], by simp [opened]⟩
  · intro state action final spared met stepped
    exact spared_step spared met (moves_of_next stepped)

def ReceiveThread.Inside (thread : ReceiveThread) : Prop :=
  thread = .looking ∨ thread = .erasing

def Stop.Inside : Stop → Prop
  | .iterating _ | .joining _ _ => True
  | _ => False

/-- Whoever is inside a critical section holds the mutex, and a thread that can be joined has not
    finished. -/
structure State.Live (state : State) : Prop where
  threadHolds : ∀ id, (state.threads id).Inside →
    state.connectionsMutex = some (.receiveThread id)
  stopHolds : state.stop.Inside → state.connectionsMutex = some .stop
  running : ∀ connection ∈ state.connections, connection.joinable = true →
    state.threads connection.id ≠ .finished

theorem live_opened (connections : List Connection) : (opened connections).Live where
  threadHolds := by
    intro id inside
    simp only [opened] at inside
    split at inside
    · rcases inside with looking | erasing
      · cases looking
      · cases erasing
    · rcases inside with looking | erasing
      · cases looking
      · cases erasing
  stopHolds := fun inside => inside.elim
  running := by
    intro connection member _
    have listed : connection.id ∈ connections.map Connection.id := List.mem_map_of_mem member
    simp only [opened, listed, if_true]
    decide

namespace State.Live

variable {state : State} {id : UInt32} {thread : ReceiveThread}

/-- A thread goes in where the mutex is free. -/
theorem enter (live : state.Live) (free : state.connectionsMutex = none)
    (inside : thread.Inside) : (state.moved (some (.receiveThread id)) id thread).Live where
  threadHolds := by
    intro other otherInside
    by_cases same : other = id
    · rw [same]
      rfl
    · rw [moved_other same] at otherInside
      have held := live.threadHolds other otherInside
      rw [free] at held
      cases held
  stopHolds := by
    intro stopInside
    have held := live.stopHolds stopInside
    rw [free] at held
    cases held
  running := by
    intro connection member joinable
    by_cases same : connection.id = id
    · rw [same, moved_self]
      rcases inside with rfl | rfl <;> decide
    · rw [moved_other same]
      exact live.running connection member joinable

theorem leave (live : state.Live) (inside : (state.threads id).Inside) (outside : ¬ thread.Inside)
    {connections : List Connection} (kept : connections ⊆ state.connections)
    (gone : thread = .finished → ∀ connection ∈ connections, connection.id ≠ id) :
    ({ state.moved none id thread with connections } : State).Live where
  threadHolds := by
    intro other otherInside
    have placed : ((state.moved none id thread).threads other).Inside := otherInside
    by_cases same : other = id
    · rw [same, moved_self] at placed
      exact (outside placed).elim
    · rw [moved_other same] at placed
      have held := live.threadHolds id inside
      rw [live.threadHolds other placed] at held
      exact (same (Process.receiveThread.inj (Option.some.inj held))).elim
  stopHolds := by
    intro stopInside
    have held := live.stopHolds stopInside
    rw [live.threadHolds id inside] at held
    cases held
  running := by
    intro connection member joinable
    by_cases same : connection.id = id
    · show (state.moved none id thread).threads connection.id ≠ .finished
      rw [same, moved_self]
      intro finished
      exact gone finished connection member same
    · show (state.moved none id thread).threads connection.id ≠ .finished
      rw [moved_other same]
      exact live.running connection (kept member) joinable

theorem stay (live : state.Live) (outside : ¬ thread.Inside) (unfinished : thread ≠ .finished) :
    (state.moved state.connectionsMutex id thread).Live where
  threadHolds := by
    intro other inside
    by_cases same : other = id
    · rw [same, moved_self] at inside
      exact (outside inside).elim
    · rw [moved_other same] at inside
      exact live.threadHolds other inside
  stopHolds := live.stopHolds
  running := by
    intro connection member joinable
    by_cases same : connection.id = id
    · rw [same, moved_self]
      exact unfinished
    · rw [moved_other same]
      exact live.running connection member joinable

theorem iterate (live : state.Live) (inside : state.stop.Inside) (stop : Stop) :
    ({ state with stop } : State).Live :=
  ⟨live.threadHolds, fun _ => live.stopHolds inside, live.running⟩

theorem joined (live : state.Live) (id : UInt32) :
    ({ state with connections := state.connections.map (Connection.joined id) } : State).Live := by
  refine ⟨live.threadHolds, live.stopHolds, ?_⟩
  intro connection member joinable
  obtain ⟨before, listed, rfl⟩ := List.mem_map.mp member
  unfold Connection.joined at joinable ⊢
  split at joinable
  · cases joinable
  · rename_i differs
    rw [if_neg differs]
    exact live.running before listed joinable

theorem step {final : State} {action : Action} (live : state.Live)
    (moves : Moves state action final) : final.Live := by
  cases moves with
  | look free _ => exact live.enter free (.inl rfl)
  | erase free _ => exact live.enter free (.inr rfl)
  | found looking _ =>
    have inside : (state.threads _).Inside := .inl looking
    exact live.leave inside (by simp [ReceiveThread.Inside]) (List.Subset.refl _) (by simp)
  | missing looking absent =>
    have inside : (state.threads _).Inside := .inl looking
    apply live.leave inside (by simp [ReceiveThread.Inside]) (List.Subset.refl _)
    intro _ connection member same
    exact absent (same ▸ List.mem_map_of_mem member)
  | erased erasing =>
    have inside : (state.threads _).Inside := .inr erasing
    apply live.leave inside (by simp [ReceiveThread.Inside]) (List.filter_subset_self _)
    intro _ connection member same
    simpa [same] using List.of_mem_filter member
  | broken receiving => exact live.stay (by simp [ReceiveThread.Inside]) (by decide)
  | called notCalled =>
    exact ⟨live.threadHolds, fun inside => inside.elim, live.running⟩
  | locked entering free =>
    refine ⟨?_, fun _ => rfl, live.running⟩
    intro id inside
    have held := live.threadHolds id inside
    rw [free] at held
    cases held
  | joins iterating _ => exact live.iterate (by rw [iterating]; trivial) _
  | passes iterating _ => exact live.iterate (by rw [iterating]; trivial) _
  | @joined id remaining joining _ =>
    exact (live.iterate (by rw [joining]; trivial) (.iterating remaining)).joined id
  | unlocked iterating =>
    have held : state.connectionsMutex = some .stop := live.stopHolds (by rw [iterating]; trivial)
    refine ⟨?_, fun inside => inside.elim, by simp⟩
    intro id inside
    have other := live.threadHolds id inside
    rw [held] at other
    cases other

end State.Live

theorem live_run {meets : State → Action → Prop} {connections : List Connection}
    {actions : List Action} {outputs : List Unit} {state : State}
    (guarded : Runs.Guarded step meets (opened connections) actions outputs state) :
    state.Live := by
  apply guarded.kept State.Live (live_opened connections)
  intro state action final live _ stepped
  exact live.step (moves_of_next stepped)

/-- `stop` reaches the first connection whose thread it joins. -/
theorem visit_reaches {state : State} {remaining : List Connection}
    (iterating : state.stop = .iterating remaining)
    (some' : ∃ connection ∈ remaining, connection.joinable = true) :
    ∃ connection ∈ remaining, connection.joinable = true ∧ ∃ rest actions outputs,
      Runs.Run step state actions outputs { state with stop := .joining connection.id rest } := by
  induction remaining generalizing state with
  | nil =>
    obtain ⟨_, member, _⟩ := some'
    cases member
  | cons first rest ih =>
    by_cases joinable : first.joinable = true
    · have visited : state.next .stopVisit =
          some { state with stop := .joining first.id rest } := by
        simp only [State.next, iterating, joinable, if_true]
      exact ⟨first, List.mem_cons_self, joinable, rest, _, _,
        .head trivial (Runs.silent_of_next visited)⟩
    · have visited : state.next .stopVisit = some { state with stop := .iterating rest } := by
        simp only [State.next, iterating, joinable, Bool.false_eq_true, if_false]
      obtain ⟨connection, listed, joins⟩ := some'
      have later : ∃ connection ∈ rest, connection.joinable = true := by
        rcases List.mem_cons.mp listed with rfl | tail
        · exact (joinable joins).elim
        · exact ⟨connection, tail, joins⟩
      obtain ⟨found, member, joins, remaining, _, _, run⟩ :=
        @ih { state with stop := .iterating rest } rfl later
      exact ⟨found, List.mem_cons_of_mem _ member, joins, remaining, _, _,
        (Runs.Guarded.head trivial (Runs.silent_of_next visited)).append run⟩

theorem deadlock_reachable {state final : State} (live : state.Live)
    (moves : Moves state .stopLock final)
    (some' : ∃ connection ∈ state.connections, connection.joinable = true) :
    ∃ actions outputs reached, Runs.Run step final actions outputs reached ∧
      reached.Deadlocked := by
  cases moves with
  | locked entering free =>
    have iterating : (State.mk (some .stop) state.connections state.threads
        (.iterating state.connections)).stop = .iterating state.connections := rfl
    obtain ⟨connection, member, joins, rest, actions, outputs, run⟩ := visit_reaches iterating some'
    have unfinished := live.running connection member joins
    have outside : ¬ (state.threads connection.id).Inside := by
      intro inside
      have held := live.threadHolds connection.id inside
      rw [free] at held
      cases held
    cases position : state.threads connection.id with
    | starting => exact ⟨_, _, _, run, connection.id, rest, rfl, rfl, .inl position⟩
    | closing => exact ⟨_, _, _, run, connection.id, rest, rfl, rfl, .inr position⟩
    | receiving =>
      have breaks : (State.mk (some .stop) state.connections state.threads
          (.joining connection.id rest)).next (.threadBreak connection.id) =
            some ((State.mk (some .stop) state.connections state.threads
              (.joining connection.id rest)).moved (some .stop) connection.id .closing) := by
        simp only [State.next, position]
      exact ⟨_, _, _, run.append (.head trivial (Runs.silent_of_next breaks)), connection.id, rest,
        rfl, rfl, .inr (State.moved_self _ _ _ _)⟩
    | looking => exact (outside (.inl position)).elim
    | erasing => exact (outside (.inr position)).elim
    | finished => exact (unfinished position).elim

theorem deadlocked_step {state final : State} {action : Action} (live : state.Live)
    (deadlocked : state.Deadlocked) (moves : Moves state action final) : final.Deadlocked := by
  obtain ⟨id, remaining, joining, held, locks⟩ := deadlocked
  have elsewhere : ∀ other, ¬ (state.threads other).Inside := by
    intro other inside
    have holds := live.threadHolds other inside
    rw [held] at holds
    cases holds
  cases moves with
  | look free _ | erase free _ =>
    rw [held] at free
    cases free
  | found looking _ => exact (elsewhere _ (.inl looking)).elim
  | missing looking _ => exact (elsewhere _ (.inl looking)).elim
  | erased erasing => exact (elsewhere _ (.inr erasing)).elim
  | @broken other receiving =>
    have differs : id ≠ other := by
      intro same
      rw [ReceiveThread.Locks, same, receiving] at locks
      simp at locks
    exact ⟨id, remaining, joining, held, by rwa [State.moved_other differs]⟩
  | @joined other rest joining' finished =>
    rw [joining] at joining'
    obtain ⟨rfl, -⟩ := Stop.joining.inj joining'
    rw [ReceiveThread.Locks, finished] at locks
    simp at locks
  | called before | locked before _ | joins before _ | passes before _ | unlocked before =>
    rw [joining] at before
    cases before

/-- A deadlock is for ever: `stop` does not return. -/
theorem deadlocked_forever {connections : List Connection} {actions later : List Action}
    {outputs emitted : List Unit} {state reached : State}
    (before : Runs.Run step (opened connections) actions outputs state)
    (deadlocked : state.Deadlocked) (run : Runs.Run step state later emitted reached) :
    reached.Deadlocked := by
  have kept : reached.Live ∧ reached.Deadlocked := by
    apply run.kept (fun state => state.Live ∧ state.Deadlocked) ⟨live_run before, deadlocked⟩
    intro state action final both _ stepped
    have moves := moves_of_next stepped
    exact ⟨both.1.step moves, deadlocked_step both.1 both.2 moves⟩
  exact kept.2

theorem spared_after {state reached : State} {actions : List Action} {outputs : List Unit}
    (spared : state.Spared) (past : state.stop ≠ .notCalled ∧ state.stop ≠ .entering)
    (run : Runs.Run step state actions outputs reached) : reached.Spared := by
  have kept : reached.Spared ∧ reached.stop ≠ .notCalled ∧ reached.stop ≠ .entering := by
    apply run.kept (fun state => state.Spared ∧ state.stop ≠ .notCalled ∧ state.stop ≠ .entering)
    · exact ⟨spared, past⟩
    · intro state action final before _ stepped
      obtain ⟨spared, notCalled, notEntering⟩ := before
      have moves := moves_of_next stepped
      have met : NoneJoinable state action := by
        cases moves with
        | locked entering _ => exact (notEntering entering).elim
        | _ => trivial
      refine ⟨spared_step spared met moves, ?_⟩
      cases moves with
      | called before => exact (notCalled before).elim
      | locked entering _ => exact (notEntering entering).elim
      | joins | passes | joined | unlocked => exact ⟨by simp, by simp⟩
      | _ => exact ⟨notCalled, notEntering⟩
  exact kept.1

/-- No deadlock is reached while `stop` finds no thread to join when it gets the mutex, and where
    it finds one, a deadlock can follow. -/
theorem stop_deadlock_free {connections : List Connection} {actions : List Action}
    {outputs : List Unit} {state : State}
    (guarded : Runs.Guarded step NoneJoinable (opened connections) actions outputs state) :
    ¬ state.Deadlocked ∧ ∀ final, state.next .stopLock = some final →
      ((∀ connection ∈ state.connections, connection.joinable = false) ↔
        ∀ later emitted reached, Runs.Run step final later emitted reached →
          ¬ reached.Deadlocked) := by
  have free : ∀ {reached : State}, reached.Spared → ¬ reached.Deadlocked := by
    intro reached spared deadlocked
    obtain ⟨id, remaining, joining, -, -⟩ := deadlocked
    exact spared.2 id remaining joining
  have spared := spared_run guarded
  refine ⟨free spared, ?_⟩
  intro final stepped
  have moves := moves_of_next stepped
  constructor
  · intro none' later emitted reached run
    have past : final.stop ≠ .notCalled ∧ final.stop ≠ .entering := by
      cases moves with
      | locked _ _ => exact ⟨by simp, by simp⟩
    have met : NoneJoinable state .stopLock := none'
    exact free (spared_after (spared_step spared met moves) past run)
  · intro never connection member
    by_contra joinable
    have listed : ∃ connection ∈ state.connections, connection.joinable = true :=
      ⟨connection, member, by simpa using joinable⟩
    obtain ⟨later, emitted, reached, run, deadlocked⟩ :=
      deadlock_reachable (live_run guarded) moves listed
    exact never later emitted reached run deadlocked

/-- The peer has closed the connection, and its thread is done, before `stop` gets the mutex. -/
theorem closedFirst_free : ∃ state, (∃ outputs, Runs.Guarded step NoneJoinable
    (opened [⟨1, true⟩]) [.threadLock 1, .threadUnlock 1, .stopCall, .threadBreak 1,
      .threadLock 1, .threadUnlock 1, .stopLock] outputs state) ∧ ¬ state.Deadlocked := by
  obtain ⟨state, guarded⟩ := Runs.exists_guarded (by decide :
    (Runs.execute step NoneJoinable (opened [⟨1, true⟩]) [.threadLock 1, .threadUnlock 1, .stopCall,
      .threadBreak 1, .threadLock 1, .threadUnlock 1, .stopLock]).map Prod.snd = some [])
  exact ⟨state, ⟨_, guarded⟩, (stop_deadlock_free guarded).1⟩

/-- `stop` joins the thread of the only connection, whose way out leads through the mutex. -/
theorem openConnection_deadlocks : ¬ ∀ (connections : List Connection) (actions : List Action)
    (outputs : List Unit) (state : State),
    Runs.Run step (opened connections) actions outputs state → ¬ state.Deadlocked := by
  intro safe
  have run := ((((((Runs.Guarded.nil.snoc trivial rfl).snoc trivial rfl).snoc trivial rfl).snoc
    trivial rfl).snoc trivial rfl).snoc trivial rfl :
    Runs.Run step (opened [⟨1, true⟩]) [.threadLock 1, .threadUnlock 1, .stopCall, .stopLock,
      .stopVisit, .threadBreak 1] _ _)
  exact safe _ _ _ _ run ⟨1, [], rfl, rfl, .inr (by decide)⟩

end Msomeip.Transport.TcpTransport.StopThreads
