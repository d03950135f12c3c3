import Msomeip.Library.Maps
import Msomeip.Library.Runs

namespace Msomeip.Transport.TcpTransport.EndpointMap

open Std

/-- An address and a port. -/
abbrev Remote := String × UInt16

instance ordRemote : Ord Remote := lexOrd

/-- Of a connection what the endpoint map depends on, and whether `connect` opened it. -/
structure Connection where
  remoteAddress : String
  remotePort : UInt16
  opened : Bool
deriving DecidableEq, Repr

def Connection.endpoint (connection : Connection) : Remote :=
  (connection.remoteAddress, connection.remotePort)

abbrev Connections := ExtTreeMap UInt32 Connection
abbrev EndpointToConnection := ExtTreeMap Remote UInt32

/-- The calls in progress are kept by the point they have reached: a `connect` opens a socket, then
    inserts the connection, then stores its endpoint, and `close_connection` erases the mapping
    after it has erased the connection. -/
structure State where
  nextConnectionId : UInt32 := 1
  connections : Connections := ∅
  endpointToConnection : EndpointToConnection := ∅
  opening : List Remote := []
  inserting : List (Remote × UInt32) := []
  storing : List (Remote × UInt32) := []
  accepting : List (Remote × UInt32) := []
  erasing : List (Remote × UInt32) := []

inductive Action
  | connectCheck (endpoint : Remote)
  | connectFail (endpoint : Remote)
  | connectId (endpoint : Remote)
  | connectInsert (endpoint : Remote) (id : UInt32)
  | connectStore (endpoint : Remote) (id : UInt32)
  | acceptId (endpoint : Remote)
  | acceptInsert (endpoint : Remote) (id : UInt32)
  | closeErase (id : UInt32)
  | closeUnmap (endpoint : Remote) (id : UInt32)
deriving DecidableEq, Repr

namespace State

def next (state : State) : Action → Option State
  | .connectCheck endpoint =>
    match state.endpointToConnection[endpoint]? with
    | some id =>
      match state.connections[id]? with
      | some _ => some state
      | none => some { state with
          endpointToConnection := state.endpointToConnection.erase endpoint,
          opening := endpoint :: state.opening }
    | none => some { state with opening := endpoint :: state.opening }
  | .connectFail endpoint =>
    if endpoint ∈ state.opening then
      some { state with opening := state.opening.erase endpoint }
    else none
  | .connectId endpoint =>
    if endpoint ∈ state.opening then
      some { state with
        nextConnectionId := state.nextConnectionId + 1,
        opening := state.opening.erase endpoint,
        inserting := (endpoint, state.nextConnectionId) :: state.inserting }
    else none
  | .connectInsert endpoint id =>
    if (endpoint, id) ∈ state.inserting then
      some { state with
        connections := state.connections.insert id ⟨endpoint.1, endpoint.2, true⟩,
        inserting := state.inserting.erase (endpoint, id),
        storing := (endpoint, id) :: state.storing }
    else none
  | .connectStore endpoint id =>
    if (endpoint, id) ∈ state.storing then
      some { state with
        endpointToConnection := state.endpointToConnection.insert endpoint id,
        storing := state.storing.erase (endpoint, id) }
    else none
  | .acceptId endpoint =>
    some { state with
      nextConnectionId := state.nextConnectionId + 1,
      accepting := (endpoint, state.nextConnectionId) :: state.accepting }
  | .acceptInsert endpoint id =>
    if (endpoint, id) ∈ state.accepting then
      some { state with
        connections := state.connections.insert id ⟨endpoint.1, endpoint.2, false⟩,
        accepting := state.accepting.erase (endpoint, id) }
    else none
  | .closeErase id =>
    match state.connections[id]? with
    | some connection => some { state with
        connections := state.connections.erase id,
        erasing := (connection.endpoint, id) :: state.erasing }
    | none => some state
  | .closeUnmap endpoint id =>
    if (endpoint, id) ∈ state.erasing then
      some { state with
        endpointToConnection := state.endpointToConnection.erase endpoint,
        erasing := state.erasing.erase (endpoint, id) }
    else none

def mapped (state : State) (endpoint : Remote) : Option UInt32 :=
  state.endpointToConnection[endpoint]?

def connected (state : State) (id : UInt32) : Bool := (state.connections[id]?).isSome

/-- No call is in progress. -/
def Quiet (state : State) : Prop :=
  state.opening = [] ∧ state.inserting = [] ∧ state.storing = [] ∧ state.accepting = [] ∧
    state.erasing = []

end State

abbrev step : Runs.Step State Action Unit := Runs.silent State.next

end Msomeip.Transport.TcpTransport.EndpointMap
