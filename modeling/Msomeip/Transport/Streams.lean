import Msomeip.Message.Codec
import Msomeip.Transport.EndpointMap
import Msomeip.Transport.TcpFraming

namespace Msomeip.Transport.TcpTransport

open Framing

namespace Streams

open EndpointMap

/-- A `send_to` of a message, and what its two writes accept; a `send_to_endpoint` names the
    endpoint. -/
structure Send where
  id : UInt32
  endpoint : Option Remote
  message : Message
  lengthAccepted : Option Nat
  dataAccepted : Option Nat
deriving DecidableEq

/-- A transport with what its `connect` calls have returned so far. -/
structure Node where
  table : EndpointMap.State := {}
  returned : List (Remote × UInt32) := []

inductive Action
  | table (action : EndpointMap.Action)
  | send (send : Send)

/-- A `send_to`, and whether the connection was there. -/
structure Sent where
  send : Send
  connected : Bool
deriving DecidableEq

def Sent.call (sent : Sent) : SendTo :=
  ⟨sent.connected, sent.send.message.serialize, sent.send.lengthAccepted, sent.send.dataAccepted⟩

def Sent.taken (sent : Sent) : Bool := (sendTo sent.call).1

/-- What a `connect` returns that ends with the step. -/
def Node.returns (node : Node) : EndpointMap.Action → List (Remote × UInt32)
  | .connectCheck endpoint =>
    match node.table.mapped endpoint with
    | some id => if node.table.connected id then [(endpoint, id)] else []
    | none => []
  | .connectStore endpoint id => [(endpoint, id)]
  | _ => []

def Node.attempt (node : Node) (send : Send) : Sent := ⟨send, node.table.connected send.id⟩

/-- `send_to_endpoint` sends on a connection that `connect` has returned, where that is not 0. -/
def step : Runs.Step Node Action Sent := fun node action =>
  match action with
  | .table action =>
    (node.table.next action).map fun table => (⟨table, node.returns action ++ node.returned⟩, [])
  | .send send =>
    if send.endpoint.all fun endpoint => node.returned.contains (endpoint, send.id) then
      if send.endpoint.isSome ∧ send.id = 0 then some (node, []) else some (node, [node.attempt send])
    else none

/-- A connection id is given out. -/
def assigns : EndpointMap.Action → Bool
  | .connectId _ | .acceptId _ => true
  | _ => false

/-- The counter of the connection ids has not come around, and a message that is sent is one that the
    other end takes, whole on the connection or not there at all. -/
def Orderly (node : Node) : Action → Prop
  | .table action => assigns action = true → node.table.nextConnectionId ≠ 0
  | .send send => send.message.protocolVersion = someipProtocolVersion ∧
      send.message.serialize.length ≤ maxMessageSize ∧
      ((node.attempt send).call.Whole ∨ (node.attempt send).call.Silent)

instance decidableOrderly (node : Node) : ∀ action, Decidable (Orderly node action)
  | .table _ => inferInstanceAs (Decidable (_ → _))
  | .send _ => inferInstanceAs (Decidable (_ ∧ _ ∧ (_ ∨ _)))

/-- The connection id under which a connection is inserted. -/
def Action.inserts : Action → Option UInt32
  | .table (.connectInsert _ id) | .table (.acceptInsert _ id) => some id
  | _ => none

/-- Of the endpoints that are mapped, about to be stored or returned, each was dialled. -/
structure Dialled (actions : List Action) (node : Node) : Prop where
  storing : ∀ endpoint id, (endpoint, id) ∈ node.table.storing →
    .table (.connectInsert endpoint id) ∈ actions
  mapped : ∀ endpoint id, node.table.mapped endpoint = some id →
    .table (.connectInsert endpoint id) ∈ actions
  returned : ∀ endpoint id, (endpoint, id) ∈ node.returned →
    .table (.connectInsert endpoint id) ∈ actions

variable {actions : List Action} {node : Node} {table : EndpointMap.State}
  {action : EndpointMap.Action} {endpoint : Remote} {id : UInt32}

/-- What a step stores, and what it maps. -/
theorem storing_next {state : EndpointMap.State} (stepped : state.next action = some table)
    (member : (endpoint, id) ∈ table.storing) :
    (endpoint, id) ∈ state.storing ∨ action = .connectInsert endpoint id := by
  cases action with
  | connectInsert other inserted =>
    simp only [EndpointMap.State.next] at stepped
    split at stepped
    · cases stepped
      rcases List.mem_cons.mp member with same | before
      · obtain ⟨rfl, rfl⟩ := Prod.mk.inj same
        exact .inr rfl
      · exact .inl before
    · cases stepped
  | connectStore other stored =>
    simp only [EndpointMap.State.next] at stepped
    split at stepped
    · cases stepped
      exact .inl (List.mem_of_mem_erase member)
    · cases stepped
  | connectCheck other =>
    simp only [EndpointMap.State.next] at stepped
    split at stepped
    · split at stepped <;> cases stepped <;> exact .inl member
    · cases stepped
      exact .inl member
  | acceptId other =>
    cases stepped
    exact .inl member
  | _ =>
    simp only [EndpointMap.State.next] at stepped
    split at stepped <;> cases stepped <;> exact .inl member

theorem mapped_next {state : EndpointMap.State} (stepped : state.next action = some table)
    (mapped : table.mapped endpoint = some id) :
    state.mapped endpoint = some id ∨ (endpoint, id) ∈ state.storing := by
  have erased : ∀ other : Remote, (state.endpointToConnection.erase other)[endpoint]? = some id →
      state.mapped endpoint = some id := fun other found => (Maps.lookup_erase_some.mp found).2
  cases action with
  | connectStore other stored =>
    simp only [EndpointMap.State.next] at stepped
    split at stepped
    · rename_i waiting
      cases stepped
      simp only [EndpointMap.State.mapped, Maps.lookup_insert] at mapped
      split at mapped
      · rename_i same
        cases mapped
        exact .inr (same ▸ waiting)
      · exact .inl mapped
    · cases stepped
  | connectCheck other =>
    simp only [EndpointMap.State.next] at stepped
    split at stepped
    · split at stepped
      · cases stepped
        exact .inl mapped
      · cases stepped
        exact .inl (erased _ mapped)
    · cases stepped
      exact .inl mapped
  | closeUnmap other closed =>
    simp only [EndpointMap.State.next] at stepped
    split at stepped
    · cases stepped
      exact .inl (erased _ mapped)
    · cases stepped
  | acceptId other =>
    cases stepped
    exact .inl mapped
  | _ =>
    simp only [EndpointMap.State.next] at stepped
    split at stepped <;> cases stepped <;> exact .inl mapped

theorem returns_mapped (stepped : node.table.next action = some table)
    (returned : (endpoint, id) ∈ node.returns action) :
    node.table.mapped endpoint = some id ∨ (endpoint, id) ∈ node.table.storing := by
  unfold Node.returns at returned
  split at returned
  · split at returned
    · rename_i found
      split at returned
      · obtain ⟨rfl, rfl⟩ := Prod.mk.inj (List.mem_singleton.mp returned)
        exact .inl found
      · cases returned
    · cases returned
  · obtain ⟨rfl, rfl⟩ := Prod.mk.inj (List.mem_singleton.mp returned)
    simp only [EndpointMap.State.next] at stepped
    split at stepped
    · rename_i waiting
      exact .inr waiting
    · cases stepped
  · cases returned

theorem Dialled.mono (dialled : Dialled actions node) (later : List Action) :
    Dialled (actions ++ later) node where
  storing endpoint id member := List.mem_append_left _ (dialled.storing endpoint id member)
  mapped endpoint id found := List.mem_append_left _ (dialled.mapped endpoint id found)
  returned endpoint id member := List.mem_append_left _ (dialled.returned endpoint id member)

theorem Dialled.table_step (dialled : Dialled actions node)
    (stepped : node.table.next action = some table) :
    Dialled (actions ++ [.table action]) ⟨table, node.returns action ++ node.returned⟩ := by
  have before := dialled.mono [.table action]
  have known : ∀ endpoint id,
      node.table.mapped endpoint = some id ∨ (endpoint, id) ∈ node.table.storing →
        Action.table (.connectInsert endpoint id) ∈ actions ++ [.table action] :=
    fun endpoint id reason => reason.elim (before.mapped endpoint id) (before.storing endpoint id)
  constructor
  · intro endpoint id member
    rcases storing_next stepped member with waiting | rfl
    · exact before.storing endpoint id waiting
    · simp
  · intro endpoint id found
    exact known endpoint id (mapped_next stepped found)
  · intro endpoint id member
    rcases List.mem_append.mp member with new | old
    · exact known endpoint id (returns_mapped stepped new)
    · exact before.returned endpoint id old

/-- The ids that are assigned to connections not yet inserted. -/
def Node.assigned (node : Node) : List UInt32 :=
  node.table.inserting.map Prod.snd ++ node.table.accepting.map Prod.snd

/-- No id was given twice, and unless it has come around the counter is above all of them. -/
structure Distinct (actions : List Action) (node : Node) : Prop where
  once : (node.assigned ++ actions.filterMap Action.inserts).Nodup
  below : node.table.nextConnectionId = 0 ∨
    ∀ id ∈ node.assigned ++ actions.filterMap Action.inserts, id < node.table.nextConnectionId

/-- A step gives out the next id or none; an id that is inserted was assigned. -/
theorem assigned_next (stepped : node.table.next action = some table)
    (returned : List (Remote × UInt32)) :
    ((Node.assigned ⟨table, returned⟩ ++ (Action.inserts (.table action)).toList).Perm node.assigned ∧
        table.nextConnectionId = node.table.nextConnectionId) ∨
      ((Node.assigned ⟨table, returned⟩ ++ (Action.inserts (.table action)).toList).Perm
          (node.table.nextConnectionId :: node.assigned) ∧
        table.nextConnectionId = node.table.nextConnectionId + 1 ∧
        (Orderly node (.table action) → node.table.nextConnectionId ≠ 0)) := by
  cases action with
  | connectId endpoint =>
    simp only [EndpointMap.State.next] at stepped
    split at stepped
    · cases stepped
      exact .inr ⟨by simp [Node.assigned, Action.inserts], rfl, fun orderly => orderly rfl⟩
    · cases stepped
  | acceptId endpoint =>
    cases stepped
    refine .inr ⟨?_, rfl, fun orderly => orderly rfl⟩
    simp only [Node.assigned, Action.inserts, Option.toList_none, List.append_nil, List.map_cons]
    exact List.perm_middle
  | connectInsert endpoint id =>
    simp only [EndpointMap.State.next] at stepped
    split at stepped
    · rename_i waiting
      cases stepped
      have taken := (List.perm_cons_erase waiting).map Prod.snd
      refine .inl ⟨?_, rfl⟩
      simp only [Node.assigned, Action.inserts, Option.toList_some]
      exact (List.perm_append_singleton _ _).trans ((taken.append_right _).symm)
    · cases stepped
  | acceptInsert endpoint id =>
    simp only [EndpointMap.State.next] at stepped
    split at stepped
    · rename_i waiting
      cases stepped
      have taken := (List.perm_cons_erase waiting).map Prod.snd
      refine .inl ⟨?_, rfl⟩
      simp only [Node.assigned, Action.inserts, Option.toList_some]
      rw [List.append_assoc]
      exact ((List.perm_append_singleton _ _).trans taken.symm).append_left _
    · cases stepped
  | connectCheck endpoint =>
    simp only [EndpointMap.State.next] at stepped
    split at stepped
    · split at stepped <;> cases stepped <;>
        exact .inl ⟨by simp [Node.assigned, Action.inserts], rfl⟩
    · cases stepped
      exact .inl ⟨by simp [Node.assigned, Action.inserts], rfl⟩
  | _ =>
    simp only [EndpointMap.State.next] at stepped
    split at stepped <;> cases stepped <;>
      exact .inl ⟨by simp [Node.assigned, Action.inserts], rfl⟩

theorem lt_succ_of_ne {id : UInt32} (around : id + 1 ≠ 0) : id < id + 1 := by
  rw [UInt32.lt_iff_toNat_lt]
  rw [ne_eq, ← UInt32.toNat_inj] at around
  have one : (1 : UInt32).toNat = 1 := rfl
  have zero : (0 : UInt32).toNat = 0 := rfl
  rw [UInt32.toNat_add, one, zero] at around
  rw [UInt32.toNat_add, one]
  have bound := id.toNat_lt
  omega

theorem Distinct.table_step (distinct : Distinct actions node)
    (orderly : Orderly node (Action.table action)) (stepped : node.table.next action = some table)
    (returned : List (Remote × UInt32)) :
    Distinct (actions ++ [Action.table action]) ⟨table, returned⟩ := by
  have all : (Node.assigned ⟨table, returned⟩ ++
      (actions ++ [Action.table action]).filterMap Action.inserts).Perm
      ((Node.assigned ⟨table, returned⟩ ++ (Action.inserts (.table action)).toList) ++
        actions.filterMap Action.inserts) := by
    have last : [Action.table action].filterMap Action.inserts =
        (Action.inserts (.table action)).toList := by
      cases inserted : Action.inserts (.table action) <;> simp [inserted]
    rw [List.filterMap_append, last, List.append_assoc]
    exact List.perm_append_comm.append_left _
  rcases assigned_next stepped returned with ⟨same, counter⟩ | ⟨more, counter, counts⟩
  · have kept := all.trans (same.append_right _)
    refine ⟨kept.nodup_iff.mpr distinct.once, ?_⟩
    rw [counter]
    exact distinct.below.imp id fun below id member => below id (kept.mem_iff.mp member)
  · have added := all.trans (more.append_right _)
    have below := distinct.below.resolve_left (counts orderly)
    constructor
    · refine added.nodup_iff.mpr (List.nodup_cons.mpr ⟨?_, distinct.once⟩)
      intro member
      exact (UInt32.lt_irrefl _ (below _ member)).elim
    · rw [counter]
      by_cases around : node.table.nextConnectionId + 1 = 0
      · exact .inl around
      · refine .inr fun id member => ?_
        have last := lt_succ_of_ne around
        rcases List.mem_cons.mp (added.mem_iff.mp member) with rfl | old
        · exact last
        · exact UInt32.lt_trans (below id old) last

/-- The calls on a connection. -/
def calls (id : UInt32) (sents : List Sent) : List SendTo :=
  (sents.filter fun sent => sent.send.id = id).map Sent.call

/-- The messages that were taken for a connection. -/
def takenFor (id : UInt32) (sents : List Sent) : List Message :=
  (sents.filter fun sent => sent.send.id = id ∧ sent.taken).map fun sent => sent.send.message

/-- What `Orderly` asks of a call. -/
def Sent.Clean (sent : Sent) : Prop :=
  sent.send.message.protocolVersion = someipProtocolVersion ∧
    sent.send.message.serialize.length ≤ maxMessageSize ∧ (sent.call.Whole ∨ sent.call.Silent)

theorem deserialize_clean {sent : Sent} (clean : sent.Clean) :
    Message.deserialize sent.send.message.serialize = some sent.send.message.received := by
  have fits := clean.2.1
  rw [Message.serialize_length] at fits
  have limit : maxMessageSize = 4096 := rfl
  exact Message.deserialize_serialize _ clean.1 (by omega)

theorem delivered_takenFor {sents : List Sent} (clean : ∀ sent ∈ sents, sent.Clean)
    (id : UInt32) : (delivered (calls id sents)).filterMap Message.deserialize =
      (takenFor id sents).map Message.received := by
  induction sents with
  | nil => rfl
  | cons sent rest ih =>
    obtain ⟨first, later⟩ := List.forall_mem_cons.mp clean
    have tail := ih later
    by_cases here : sent.send.id = id
    · have split : calls id (sent :: rest) = [sent.call] ++ calls id rest := by
        simp [calls, here]
      rw [split, delivered_append, List.filterMap_append, tail]
      cases taken : sent.taken with
      | false => simp [delivered, takenFor, here, taken, show (sendTo sent.call).1 = false from taken]
      | true =>
        have read := deserialize_clean first
        simp [delivered, takenFor, here, taken, show (sendTo sent.call).1 = true from taken,
          show sent.call.data = sent.send.message.serialize from rfl, read]
    · have same : calls id (sent :: rest) = calls id rest := by simp [calls, here]
      rw [same, tail]
      simp [takenFor, here]

/-- However the bytes arrive, the receive thread at the other end of a connection hands over the
    messages that were taken for it, in order. -/
theorem received_takenFor {sents : List Sent} (clean : ∀ sent ∈ sents, sent.Clean) (id : UInt32)
    (chunk : Nat → Nat) (receiveBuffer : Nat → UInt8) :
    Connection.connectionReceiveThread chunk { receiveBuffer := receiveBuffer }
      ⟨stream (calls id sents), 0⟩ = (takenFor id sents).map Message.received := by
  have members : ∀ call ∈ calls id sents, ∃ sent ∈ sents, sent.call = call := by
    intro call member
    obtain ⟨sent, inside, same⟩ := List.mem_map.mp member
    exact ⟨sent, List.mem_of_mem_filter inside, same⟩
  have sized : Sized (calls id sents) := by
    intro call member
    obtain ⟨sent, inside, rfl⟩ := members call member
    refine ⟨?_, (clean sent inside).2.1⟩
    apply List.ne_nil_of_length_pos
    rw [Sent.call, Message.serialize_length]
    exact Nat.add_pos_left (by decide) _
  have undamaged : ∀ call ∈ calls id sents, call.Whole ∨ call.Silent := by
    intro call member
    obtain ⟨sent, inside, rfl⟩ := members call member
    exact (clean sent inside).2.2
  have read := parse_stream_append sized undamaged []
  have empty : parse maxMessageSize [] = [] := parse_none rfl
  rw [List.append_nil, empty, List.append_nil] at read
  rw [Connection.connectionReceiveThread, receiveLoop_eq, read]
  exact delivered_takenFor clean id

/-- Over any interleaving of connects, accepts, closes and orderly sends on one transport: no
    connection id is used twice; what `send_to_endpoint` sends goes to a connection that was opened
    to the endpoint; and the other end of every connection gets the messages that were taken for it,
    in order and however the bytes arrive. -/
theorem endpoint_streams {sents : List Sent}
    (guarded : Runs.Guarded step Orderly {} actions sents node) :
    (actions.filterMap Action.inserts).Nodup ∧
    (∀ sent ∈ sents, ∀ endpoint ∈ sent.send.endpoint,
      .table (.connectInsert endpoint sent.send.id) ∈ actions) ∧
    ∀ (id : UInt32) (chunk : Nat → Nat) (receiveBuffer : Nat → UInt8),
      Connection.connectionReceiveThread chunk { receiveBuffer := receiveBuffer }
        ⟨stream (calls id sents), 0⟩ = (takenFor id sents).map Message.received := by
  have all : Dialled actions node ∧ Distinct actions node ∧ (∀ sent ∈ sents, sent.Clean) ∧
      ∀ sent ∈ sents, ∀ endpoint ∈ sent.send.endpoint,
        Action.table (.connectInsert endpoint sent.send.id) ∈ actions := by
    apply guarded.invariant fun actions sents node =>
      Dialled actions node ∧ Distinct actions node ∧ (∀ sent ∈ sents, sent.Clean) ∧
        ∀ sent ∈ sents, ∀ endpoint ∈ sent.send.endpoint,
          Action.table (.connectInsert endpoint sent.send.id) ∈ actions
    · refine ⟨⟨by simp, by simp [EndpointMap.State.mapped], by simp⟩, ⟨?_, .inr ?_⟩, by simp, by simp⟩
      · simp [Node.assigned]
      · simp [Node.assigned]
    · intro actions sents node action next emitted before orderly stepped
      obtain ⟨dialled, distinct, clean, routed⟩ := before
      cases action with
      | table action =>
        obtain ⟨table, moved, same⟩ := Option.map_eq_some_iff.mp stepped
        obtain ⟨rfl, rfl⟩ := Prod.mk.inj same
        rw [List.append_nil]
        refine ⟨dialled.table_step moved, distinct.table_step orderly moved _, clean, ?_⟩
        intro sent member endpoint via
        exact List.mem_append_left _ (routed sent member endpoint via)
      | send send =>
        have same : (actions ++ [Action.send send]).filterMap Action.inserts =
            actions.filterMap Action.inserts := by
          rw [List.filterMap_append]
          exact List.append_nil _
        have later : Distinct (actions ++ [.send send]) node := by
          constructor
          · rw [same]
            exact distinct.once
          · rw [same]
            exact distinct.below
        have kept : ∀ sent ∈ sents, ∀ endpoint ∈ sent.send.endpoint,
            Action.table (.connectInsert endpoint sent.send.id) ∈ actions ++ [.send send] :=
          fun sent member endpoint via => List.mem_append_left _ (routed sent member endpoint via)
        simp only [step] at stepped
        split at stepped
        · rename_i known
          split at stepped
          · cases stepped
            rw [List.append_nil]
            exact ⟨dialled.mono _, later, clean, kept⟩
          · cases stepped
            refine ⟨dialled.mono _, later, ?_, ?_⟩
            · exact List.forall_mem_append.mpr ⟨clean, List.forall_mem_singleton.mpr orderly⟩
            · refine List.forall_mem_append.mpr ⟨kept, List.forall_mem_singleton.mpr ?_⟩
              intro endpoint via
              have given : (endpoint, send.id) ∈ node.returned :=
                List.contains_iff_mem.mp ((Option.all_eq_true _ _).mp known endpoint via)
              exact (dialled.mono _).returned endpoint send.id given
        · cases stepped
  exact ⟨(List.nodup_append.mp all.2.1.once).2.1, all.2.2.2, received_takenFor all.2.2.1⟩

/-- A `send_to_endpoint` opens a connection and sends a request on it. -/
def firstSend (request : Message) : List Action :=
  [.table (.connectCheck ("10.0.0.2", 30509)), .table (.connectId ("10.0.0.2", 30509)),
    .table (.connectInsert ("10.0.0.2", 30509) 1), .table (.connectStore ("10.0.0.2", 30509) 1),
    .send ⟨1, some ("10.0.0.2", 30509), request, some 4, some 17⟩]

theorem firstSend_received :
    let request := (Message.createRequest 0x1234 0x0001 0x0001 1 true).setPayload [0x2A]
    Connection.connectionReceiveThread (fun _ => 3) { receiveBuffer := fun _ => 0 }
      ⟨stream [⟨true, request.serialize, some 4, some 17⟩], 0⟩ = [request.received] := by
  intro request
  have run : ∃ node, Runs.Guarded step Orderly {} (firstSend request)
      [⟨⟨1, some ("10.0.0.2", 30509), request, some 4, some 17⟩, true⟩] node :=
    Runs.exists_guarded (by decide +kernel)
  obtain ⟨node, guarded⟩ := run
  exact (endpoint_streams guarded).2.2 1 (fun _ => 3) fun _ => 0

end Streams

end Msomeip.Transport.TcpTransport
