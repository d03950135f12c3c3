import Mathlib.Logic.Function.Basic
import Msomeip.Library.Runs

namespace Msomeip.Transport.TcpTransport.StopThreads

open Function (update)

inductive Process
  | stop
  | receiveThread (id : UInt32)
deriving DecidableEq, Repr

/-- Where a receive thread is. It acquires the mutex to find its connection, and again in
    `close_connection` once it has left its loop, which may be at any time. -/
inductive ReceiveThread
  | starting
  | looking
  | receiving
  | closing
  | erasing
  | finished
deriving DecidableEq, Repr

structure Connection where
  id : UInt32
  joinable : Bool
deriving DecidableEq, Repr

def Connection.joined (id : UInt32) (connection : Connection) : Connection :=
  if connection.id = id then { connection with joinable := false } else connection

/-- Where `stop` is; it keeps the mutex from `iterating` on until it has finished. -/
inductive Stop
  | notCalled
  | entering
  | iterating (remaining : List Connection)
  | joining (id : UInt32) (remaining : List Connection)
  | finished
deriving DecidableEq, Repr

structure State where
  connectionsMutex : Option Process := none
  connections : List Connection
  threads : UInt32 → ReceiveThread
  stop : Stop := .notCalled

/-- The open connections in the order of their iteration, with their threads just started. -/
def opened (connections : List Connection) : State where
  connections := connections
  threads := fun id => if id ∈ connections.map Connection.id then .starting else .finished

inductive Action
  | threadLock (id : UInt32)
  | threadUnlock (id : UInt32)
  | threadBreak (id : UInt32)
  | stopCall
  | stopLock
  | stopVisit
  | stopJoined
  | stopUnlock
deriving DecidableEq, Repr

namespace State

/-- The mutex and one thread change. -/
def moved (state : State) (mutex : Option Process) (id : UInt32) (thread : ReceiveThread) :
    State :=
  { state with connectionsMutex := mutex, threads := update state.threads id thread }

@[simp] theorem moved_self (state : State) (mutex : Option Process) (id : UInt32)
    (thread : ReceiveThread) : (state.moved mutex id thread).threads id = thread := by
  simp [moved]

theorem moved_other {state : State} {mutex : Option Process} {id other : UInt32}
    {thread : ReceiveThread} (differs : other ≠ id) :
    (state.moved mutex id thread).threads other = state.threads other := by
  simp [moved, differs]

def next (state : State) : Action → Option State
  | .threadLock id =>
    if state.connectionsMutex = none then
      match state.threads id with
      | .starting => some (state.moved (some (.receiveThread id)) id .looking)
      | .closing => some (state.moved (some (.receiveThread id)) id .erasing)
      | _ => none
    else none
  | .threadUnlock id =>
    match state.threads id with
    | .looking =>
      if id ∈ state.connections.map Connection.id then some (state.moved none id .receiving)
      else some (state.moved none id .finished)
    | .erasing =>
      let connections := state.connections.filter fun connection => connection.id ≠ id
      some { state.moved none id .finished with connections }
    | _ => none
  | .threadBreak id =>
    match state.threads id with
    | .receiving => some (state.moved state.connectionsMutex id .closing)
    | _ => none
  | .stopCall =>
    match state.stop with
    | .notCalled => some { state with stop := .entering }
    | _ => none
  | .stopLock =>
    match state.stop with
    | .entering =>
      if state.connectionsMutex = none then
        some { state with
          connectionsMutex := some .stop, stop := .iterating state.connections }
      else none
    | _ => none
  | .stopVisit =>
    match state.stop with
    | .iterating (connection :: remaining) =>
      if connection.joinable then some { state with stop := .joining connection.id remaining }
      else some { state with stop := .iterating remaining }
    | _ => none
  | .stopJoined =>
    match state.stop with
    | .joining id remaining =>
      if state.threads id = .finished then
        let connections := state.connections.map (Connection.joined id)
        some { state with stop := .iterating remaining, connections }
      else none
    | _ => none
  | .stopUnlock =>
    match state.stop with
    | .iterating [] =>
      some { state with connectionsMutex := none, connections := [], stop := .finished }
    | _ => none

end State

/-- What a step can do. -/
inductive Moves (state : State) : Action → State → Prop
  | look {id : UInt32} : state.connectionsMutex = none → state.threads id = .starting →
      Moves state (.threadLock id) (state.moved (some (.receiveThread id)) id .looking)
  | erase {id : UInt32} : state.connectionsMutex = none → state.threads id = .closing →
      Moves state (.threadLock id) (state.moved (some (.receiveThread id)) id .erasing)
  | found {id : UInt32} : state.threads id = .looking →
      id ∈ state.connections.map Connection.id →
      Moves state (.threadUnlock id) (state.moved none id .receiving)
  | missing {id : UInt32} : state.threads id = .looking →
      id ∉ state.connections.map Connection.id →
      Moves state (.threadUnlock id) (state.moved none id .finished)
  | erased {id : UInt32} : state.threads id = .erasing →
      Moves state (.threadUnlock id) { state.moved none id .finished with
        connections := state.connections.filter fun connection => connection.id ≠ id }
  | broken {id : UInt32} : state.threads id = .receiving →
      Moves state (.threadBreak id) (state.moved state.connectionsMutex id .closing)
  | called : state.stop = .notCalled → Moves state .stopCall { state with stop := .entering }
  | locked : state.stop = .entering → state.connectionsMutex = none →
      Moves state .stopLock { state with
        connectionsMutex := some .stop, stop := .iterating state.connections }
  | joins {connection : Connection} {remaining : List Connection} :
      state.stop = .iterating (connection :: remaining) → connection.joinable = true →
      Moves state .stopVisit { state with stop := .joining connection.id remaining }
  | passes {connection : Connection} {remaining : List Connection} :
      state.stop = .iterating (connection :: remaining) → connection.joinable = false →
      Moves state .stopVisit { state with stop := .iterating remaining }
  | joined {id : UInt32} {remaining : List Connection} :
      state.stop = .joining id remaining → state.threads id = .finished →
      Moves state .stopJoined { state with
        stop := .iterating remaining, connections := state.connections.map (Connection.joined id) }
  | unlocked : state.stop = .iterating [] →
      Moves state .stopUnlock { state with
        connectionsMutex := none, connections := [], stop := .finished }

theorem moves_of_next {state final : State} {action : Action}
    (stepped : state.next action = some final) : Moves state action final := by
  cases action with
  | threadLock id =>
    simp only [State.next] at stepped
    split at stepped
    · rename_i free
      split at stepped
      · rename_i starting
        obtain rfl := Option.some.inj stepped
        exact .look free starting
      · rename_i closing
        obtain rfl := Option.some.inj stepped
        exact .erase free closing
      · cases stepped
    · cases stepped
  | threadUnlock id =>
    simp only [State.next] at stepped
    split at stepped
    · rename_i looking
      split at stepped
      · rename_i present
        obtain rfl := Option.some.inj stepped
        exact .found looking present
      · rename_i absent
        obtain rfl := Option.some.inj stepped
        exact .missing looking absent
    · rename_i erasing
      obtain rfl := Option.some.inj stepped
      exact .erased erasing
    · cases stepped
  | threadBreak id =>
    simp only [State.next] at stepped
    split at stepped
    · rename_i receiving
      obtain rfl := Option.some.inj stepped
      exact .broken receiving
    · cases stepped
  | stopCall =>
    simp only [State.next] at stepped
    split at stepped
    · rename_i notCalled
      obtain rfl := Option.some.inj stepped
      exact .called notCalled
    · cases stepped
  | stopLock =>
    simp only [State.next] at stepped
    split at stepped
    · rename_i entering
      split at stepped
      · rename_i free
        obtain rfl := Option.some.inj stepped
        exact .locked entering free
      · cases stepped
    · cases stepped
  | stopVisit =>
    simp only [State.next] at stepped
    split at stepped
    · rename_i connection remaining iterating
      split at stepped
      · rename_i joinable
        obtain rfl := Option.some.inj stepped
        exact .joins iterating joinable
      · rename_i other
        obtain rfl := Option.some.inj stepped
        exact .passes iterating (Bool.not_eq_true _ ▸ other)
    · cases stepped
  | stopJoined =>
    simp only [State.next] at stepped
    split at stepped
    · rename_i id remaining joining
      split at stepped
      · rename_i finished
        obtain rfl := Option.some.inj stepped
        exact .joined joining finished
      · cases stepped
    · cases stepped
  | stopUnlock =>
    simp only [State.next] at stepped
    split at stepped
    · rename_i iterating
      obtain rfl := Option.some.inj stepped
      exact .unlocked iterating
    · cases stepped

abbrev step : Runs.Step State Action Unit := Runs.silent State.next

end Msomeip.Transport.TcpTransport.StopThreads
