import Msomeip.Transport.EndpointMap

namespace Msomeip.Transport.TcpTransport.EndpointMap

open Std

/-- The connection is there, and `connect` opened it to the endpoint. -/
def Opened (connections : Connections) (id : UInt32) (endpoint : Remote) : Prop :=
  connections[id]? = some ⟨endpoint.1, endpoint.2, true⟩

/-- Calls to one endpoint keep apart where the map depends on it: a connection id is not used again
    before its connection is closed, `connect` stores no endpoint while a connection to it is being
    closed, and a connection is closed only after its own `connect` has stored it, while its
    endpoint is not mapped to another that is being closed, and while every other that `connect`
    opened to its endpoint has still to be stored. -/
def Apart (state : State) : Action → Prop
  | .connectInsert _ id =>
    state.connections[id]? = none ∧ ∀ endpoint, (endpoint, id) ∉ state.erasing
  | .acceptInsert _ id => state.connections[id]? = none
  | .connectStore endpoint _ => ∀ id, (endpoint, id) ∉ state.erasing
  | .closeErase id => ∀ connection, state.connections[id]? = some connection →
    (connection.endpoint, id) ∉ state.storing ∧
    (∀ other, (connection.endpoint, other) ∈ state.erasing →
      state.endpointToConnection[connection.endpoint]? ≠ some other) ∧
    ∀ other, other ≠ id → Opened state.connections other connection.endpoint →
      (connection.endpoint, other) ∈ state.storing
  | _ => True

theorem opened_insert {connections : Connections} {id other : UInt32} {endpoint remote : Remote}
    {opened : Bool} :
    Opened (connections.insert id ⟨endpoint.1, endpoint.2, opened⟩) other remote ↔
      if id = other then opened = true ∧ endpoint = remote else Opened connections other remote := by
  rw [Opened, Maps.lookup_insert]
  split
  · rw [Option.some.injEq, Connection.mk.injEq, Prod.ext_iff]
    constructor
    · intro same
      exact ⟨same.2.2, same.1, same.2.1⟩
    · intro same
      exact ⟨same.2.1, same.2.2, same.1⟩
  · rfl

theorem opened_erase {connections : Connections} {id other : UInt32} {remote : Remote} :
    Opened (connections.erase id) other remote ↔ id ≠ other ∧ Opened connections other remote :=
  Maps.lookup_erase_some

theorem Opened.ne {connections : Connections} {id other : UInt32} {remote : Remote}
    (live : Opened connections other remote) (absent : connections[id]? = none) : id ≠ other := by
  intro same
  rw [Opened, ← same, absent] at live
  cases live

theorem Opened.endpoint_eq {connections : Connections} {id : UInt32} {remote : Remote}
    {connection : Connection} (live : Opened connections id remote)
    (found : connections[id]? = some connection) : remote = connection.endpoint := by
  obtain rfl := Option.some.inj (found.symm.trans live)
  rfl

/-- Every connection that `connect` opened is being stored, or its endpoint is mapped to one that
    it opened; and a mapping for whose endpoint a close is in progress is the closed one's. -/
structure Consistent (connections : Connections) (endpointToConnection : EndpointToConnection)
    (storing erasing : List (Remote × UInt32)) : Prop where
  once : storing.Nodup
  stored : ∀ endpoint id, (endpoint, id) ∈ storing → Opened connections id endpoint
  mapped : ∀ endpoint id, endpointToConnection[endpoint]? = some id →
    (endpoint, id) ∉ storing ∧ (Opened connections id endpoint ∨ (endpoint, id) ∈ erasing)
  alone : ∀ endpoint closed id, (endpoint, closed) ∈ erasing → Opened connections id endpoint →
    (endpoint, id) ∈ storing
  own : ∀ endpoint closed id, (endpoint, closed) ∈ erasing →
    endpointToConnection[endpoint]? = some id → id = closed
  covered : ∀ endpoint id, Opened connections id endpoint → (endpoint, id) ∈ storing ∨
    ∃ mapped, endpointToConnection[endpoint]? = some mapped ∧ Opened connections mapped endpoint

namespace Consistent

variable {connections : Connections} {endpointToConnection : EndpointToConnection}
  {storing erasing : List (Remote × UInt32)} {endpoint : Remote} {id : UInt32}

theorem stale (consistent : Consistent connections endpointToConnection storing erasing)
    (found : endpointToConnection[endpoint]? = some id) (closed : connections[id]? = none) :
    Consistent connections (endpointToConnection.erase endpoint) storing erasing where
  once := consistent.once
  stored := consistent.stored
  alone := consistent.alone
  mapped := fun remote other entry =>
    consistent.mapped remote other (Maps.lookup_erase_some.mp entry).2
  own := fun remote erased other pending entry =>
    consistent.own remote erased other pending (Maps.lookup_erase_some.mp entry).2
  covered := by
    intro remote other live
    rcases consistent.covered remote other live with pending | ⟨mapped, entry, alive⟩
    · exact .inl pending
    · refine .inr ⟨mapped, Maps.lookup_erase_some.mpr ⟨?_, entry⟩, alive⟩
      intro same
      rw [← same] at entry
      exact alive.ne closed (Option.some.inj (found.symm.trans entry))

/-- The connection of a `connect` call is inserted under a new id. -/
theorem insert (consistent : Consistent connections endpointToConnection storing erasing)
    (unused : connections[id]? = none) (fresh : ∀ endpoint, (endpoint, id) ∉ erasing) :
    Consistent (connections.insert id ⟨endpoint.1, endpoint.2, true⟩) endpointToConnection
      ((endpoint, id) :: storing) erasing := by
  have kept : ∀ {other remote}, Opened connections other remote →
      Opened (connections.insert id ⟨endpoint.1, endpoint.2, true⟩) other remote := by
    intro other remote live
    rw [opened_insert, if_neg (live.ne unused)]
    exact live
  constructor
  case once =>
    refine List.nodup_cons.mpr ⟨?_, consistent.once⟩
    intro pending
    exact (consistent.stored endpoint id pending).ne unused rfl
  case stored =>
    intro remote other pending
    rcases List.mem_cons.mp pending with same | before
    · obtain ⟨rfl, rfl⟩ := Prod.mk.inj same
      rw [opened_insert, if_pos rfl]
      exact ⟨rfl, rfl⟩
    · exact kept (consistent.stored remote other before)
  case mapped =>
    intro remote other entry
    obtain ⟨notStoring, live⟩ := consistent.mapped remote other entry
    refine ⟨?_, live.imp_left kept⟩
    intro pending
    rcases List.mem_cons.mp pending with same | before
    · obtain ⟨rfl, rfl⟩ := Prod.mk.inj same
      rcases live with live | closing
      · exact live.ne unused rfl
      · exact fresh _ closing
    · exact notStoring before
  case alone =>
    intro remote closed other pending live
    rw [opened_insert] at live
    split at live
    · rename_i same
      obtain ⟨-, rfl⟩ := live
      exact same ▸ List.mem_cons_self
    · exact List.mem_cons_of_mem _ (consistent.alone remote closed other pending live)
  case own => exact consistent.own
  case covered =>
    intro remote other live
    rw [opened_insert] at live
    split at live
    · rename_i same
      obtain ⟨-, rfl⟩ := live
      exact .inl (same ▸ List.mem_cons_self)
    · rcases consistent.covered remote other live with pending | ⟨mapped, entry, alive⟩
      · exact .inl (List.mem_cons_of_mem _ pending)
      · exact .inr ⟨mapped, entry, kept alive⟩

theorem accept (consistent : Consistent connections endpointToConnection storing erasing)
    (unused : connections[id]? = none) :
    Consistent (connections.insert id ⟨endpoint.1, endpoint.2, false⟩) endpointToConnection
      storing erasing := by
  have same : ∀ {other remote}, Opened (connections.insert id ⟨endpoint.1, endpoint.2, false⟩)
      other remote ↔ Opened connections other remote := by
    intro other remote
    rw [opened_insert]
    split
    · rename_i same
      simp [← same, Opened, unused]
    · rfl
  constructor
  case once => exact consistent.once
  case stored => exact fun remote other pending => same.mpr (consistent.stored remote other pending)
  case mapped =>
    intro remote other entry
    rw [same]
    exact consistent.mapped remote other entry
  case alone =>
    intro remote closed other pending live
    exact consistent.alone remote closed other pending (same.mp live)
  case own => exact consistent.own
  case covered =>
    intro remote other live
    simp only [same] at live ⊢
    exact consistent.covered remote other live

theorem store (consistent : Consistent connections endpointToConnection storing erasing)
    (pending : (endpoint, id) ∈ storing) (apart : ∀ id, (endpoint, id) ∉ erasing) :
    Consistent connections (endpointToConnection.insert endpoint id)
      (storing.erase (endpoint, id)) erasing where
  once := consistent.once.erase _
  stored := fun remote other before =>
    consistent.stored remote other (List.mem_of_mem_erase before)
  mapped := by
    intro remote other entry
    rw [Maps.lookup_insert] at entry
    split at entry
    · rename_i same
      obtain rfl := Option.some.inj entry
      rw [← same]
      exact ⟨consistent.once.not_mem_erase, .inl (consistent.stored endpoint id pending)⟩
    · obtain ⟨notStoring, live⟩ := consistent.mapped remote other entry
      exact ⟨fun before => notStoring (List.mem_of_mem_erase before), live⟩
  alone := by
    intro remote closed other closing live
    have before := consistent.alone remote closed other closing live
    refine (List.mem_erase_of_ne ?_).mpr before
    intro same
    obtain ⟨rfl, -⟩ := Prod.mk.inj same
    exact apart closed closing
  own := by
    intro remote closed other closing entry
    rw [Maps.lookup_insert] at entry
    split at entry
    · rename_i same
      exact (apart closed (same ▸ closing)).elim
    · exact consistent.own remote closed other closing entry
  covered := by
    intro remote other live
    by_cases same : endpoint = remote
    · refine .inr ⟨id, ?_, same ▸ consistent.stored endpoint id pending⟩
      rw [Maps.lookup_insert, if_pos same]
    · rcases consistent.covered remote other live with before | ⟨mapped, entry, alive⟩
      · refine .inl ((List.mem_erase_of_ne ?_).mpr before)
        intro both
        exact same (Prod.mk.inj both).1.symm
      · refine .inr ⟨mapped, ?_, alive⟩
        rw [Maps.lookup_insert, if_neg same]
        exact entry

theorem erase {connection : Connection}
    (consistent : Consistent connections endpointToConnection storing erasing)
    (found : connections[id]? = some connection)
    (stored : (connection.endpoint, id) ∉ storing)
    (unclaimed : ∀ other, (connection.endpoint, other) ∈ erasing →
      endpointToConnection[connection.endpoint]? ≠ some other)
    (others : ∀ other, other ≠ id → Opened connections other connection.endpoint →
      (connection.endpoint, other) ∈ storing) :
    Consistent (connections.erase id) endpointToConnection storing
      ((connection.endpoint, id) :: erasing) := by
  constructor
  case once => exact consistent.once
  case stored =>
    intro remote other pending
    have live := consistent.stored remote other pending
    refine opened_erase.mpr ⟨?_, live⟩
    intro same
    rw [← same] at live pending
    exact stored (live.endpoint_eq found ▸ pending)
  case mapped =>
    intro remote other entry
    obtain ⟨notStoring, live⟩ := consistent.mapped remote other entry
    refine ⟨notStoring, ?_⟩
    rcases live with live | closing
    · by_cases same : id = other
      · rw [← same] at live ⊢
        exact .inr (live.endpoint_eq found ▸ List.mem_cons_self)
      · exact .inl (opened_erase.mpr ⟨same, live⟩)
    · exact .inr (List.mem_cons_of_mem _ closing)
  case alone =>
    intro remote closed other closing live
    obtain ⟨differs, live⟩ := opened_erase.mp live
    rcases List.mem_cons.mp closing with same | before
    · obtain ⟨rfl, -⟩ := Prod.mk.inj same
      exact others other (Ne.symm differs) live
    · exact consistent.alone remote closed other before live
  case own =>
    intro remote closed other closing entry
    rcases List.mem_cons.mp closing with same | before
    · obtain ⟨rfl, rfl⟩ := Prod.mk.inj same
      obtain ⟨notStoring, live⟩ := consistent.mapped _ other entry
      rcases live with live | pending
      · by_contra differs
        exact notStoring (others other differs live)
      · exact (unclaimed other pending entry).elim
    · exact consistent.own remote closed other before entry
  case covered =>
    intro remote other live
    obtain ⟨differs, live⟩ := opened_erase.mp live
    by_cases same : remote = connection.endpoint
    · exact .inl (same ▸ others other (Ne.symm differs) (same ▸ live))
    · rcases consistent.covered remote other live with pending | ⟨mapped, entry, alive⟩
      · exact .inl pending
      · refine .inr ⟨mapped, entry, opened_erase.mpr ⟨?_, alive⟩⟩
        intro both
        rw [← both] at alive
        exact same (alive.endpoint_eq found)

theorem unmap {closed : UInt32}
    (consistent : Consistent connections endpointToConnection storing erasing)
    (pending : (endpoint, closed) ∈ erasing) :
    Consistent connections (endpointToConnection.erase endpoint) storing
      (erasing.erase (endpoint, closed)) where
  once := consistent.once
  stored := consistent.stored
  mapped := by
    intro remote other entry
    obtain ⟨differs, entry⟩ := Maps.lookup_erase_some.mp entry
    obtain ⟨notStoring, live⟩ := consistent.mapped remote other entry
    refine ⟨notStoring, live.imp_right fun closing => (List.mem_erase_of_ne ?_).mpr closing⟩
    intro same
    exact differs (Prod.mk.inj same).1.symm
  alone := fun remote other id closing =>
    consistent.alone remote other id (List.mem_of_mem_erase closing)
  own := fun remote other id closing entry =>
    consistent.own remote other id (List.mem_of_mem_erase closing)
      (Maps.lookup_erase_some.mp entry).2
  covered := by
    intro remote other live
    by_cases same : endpoint = remote
    · exact .inl (consistent.alone remote closed other (same ▸ pending) live)
    · rcases consistent.covered remote other live with pending | ⟨mapped, entry, alive⟩
      · exact .inl pending
      · exact .inr ⟨mapped, Maps.lookup_erase_some.mpr ⟨same, entry⟩, alive⟩

end Consistent

def State.Consistent (state : State) : Prop :=
  EndpointMap.Consistent state.connections state.endpointToConnection state.storing state.erasing

theorem consistent_step {state final : State} {action : Action} (consistent : state.Consistent)
    (apart : Apart state action) (stepped : state.next action = some final) :
    final.Consistent := by
  cases action with
  | connectCheck endpoint =>
    simp only [State.next] at stepped
    split at stepped
    · rename_i id found
      split at stepped
      · obtain rfl := Option.some.inj stepped
        exact consistent
      · rename_i closed
        obtain rfl := Option.some.inj stepped
        exact Consistent.stale consistent found closed
    · obtain rfl := Option.some.inj stepped
      exact consistent
  | connectFail endpoint =>
    obtain ⟨-, moved⟩ := Option.ite_none_right_eq_some.mp stepped
    obtain rfl := Option.some.inj moved
    exact consistent
  | connectId endpoint =>
    obtain ⟨-, moved⟩ := Option.ite_none_right_eq_some.mp stepped
    obtain rfl := Option.some.inj moved
    exact consistent
  | connectInsert endpoint id =>
    obtain ⟨-, moved⟩ := Option.ite_none_right_eq_some.mp stepped
    obtain rfl := Option.some.inj moved
    exact Consistent.insert consistent apart.1 apart.2
  | connectStore endpoint id =>
    obtain ⟨pending, moved⟩ := Option.ite_none_right_eq_some.mp stepped
    obtain rfl := Option.some.inj moved
    exact Consistent.store consistent pending apart
  | acceptId endpoint =>
    obtain rfl := Option.some.inj stepped
    exact consistent
  | acceptInsert endpoint id =>
    obtain ⟨-, moved⟩ := Option.ite_none_right_eq_some.mp stepped
    obtain rfl := Option.some.inj moved
    exact Consistent.accept consistent apart
  | closeErase id =>
    simp only [State.next] at stepped
    split at stepped
    · rename_i connection found
      obtain rfl := Option.some.inj stepped
      obtain ⟨stored, unclaimed, others⟩ := apart connection found
      exact Consistent.erase consistent found stored unclaimed others
    · obtain rfl := Option.some.inj stepped
      exact consistent
  | closeUnmap endpoint id =>
    obtain ⟨pending, moved⟩ := Option.ite_none_right_eq_some.mp stepped
    obtain rfl := Option.some.inj moved
    exact Consistent.unmap consistent pending

theorem consistent_run {actions : List Action} {outputs : List Unit} {state : State}
    (guarded : Runs.Guarded step Apart {} actions outputs state) : state.Consistent := by
  apply guarded.kept State.Consistent
  · exact {
      once := List.nodup_nil
      stored := by simp
      mapped := by simp
      alone := by simp
      own := by simp
      covered := by simp [Opened] }
  · intro state action final consistent apart stepped
    exact consistent_step consistent apart stepped

/-- In a run whose calls keep apart, the endpoint of every connection that `connect` opened is
    mapped to one that it opened whenever no call is in progress, and a close erases no mapping but
    its own. -/
theorem endpointMap_consistent {actions : List Action} {outputs : List Unit} {state : State}
    (guarded : Runs.Guarded step Apart {} actions outputs state) :
    (state.Quiet → ∀ id endpoint, Opened state.connections id endpoint →
      ∃ mapped, state.endpointToConnection[endpoint]? = some mapped ∧
        Opened state.connections mapped endpoint) ∧
    ∀ endpoint id final, state.next (.closeUnmap endpoint id) = some final →
      ∀ other, state.endpointToConnection[endpoint]? = some other → other = id := by
  have consistent := consistent_run guarded
  constructor
  · intro quiet id endpoint live
    rcases consistent.covered endpoint id live with pending | covered
    · rw [quiet.2.2.1] at pending
      cases pending
    · exact covered
  · intro endpoint id final stepped other entry
    obtain ⟨pending, -⟩ := Option.ite_none_right_eq_some.mp stepped
    exact consistent.own endpoint id other pending entry

/-- What a `close_connection` call does when nothing comes between its two steps. -/
def State.closed (state : State) (endpoint : Remote) (id : UInt32) : State :=
  { state with
    connections := state.connections.erase id,
    endpointToConnection := state.endpointToConnection.erase endpoint }

theorem close_run {meets : State → Action → Prop} {state : State} {connection : Connection}
    {id : UInt32} (found : state.connections[id]? = some connection)
    (first : meets state (.closeErase id))
    (second : ∀ state, meets state (.closeUnmap connection.endpoint id)) :
    Runs.Guarded step meets state [.closeErase id, .closeUnmap connection.endpoint id] []
      (state.closed connection.endpoint id) := by
  have erased : state.next (.closeErase id) = some { state with
      connections := state.connections.erase id,
      erasing := (connection.endpoint, id) :: state.erasing } := by
    simp only [State.next, found]
  have unmapped : State.next { state with
      connections := state.connections.erase id,
      erasing := (connection.endpoint, id) :: state.erasing }
      (.closeUnmap connection.endpoint id) = some (state.closed connection.endpoint id) := by
    simp only [State.next, State.closed, List.mem_cons_self, if_true, List.erase_cons_head]
  exact (Runs.Guarded.nil.snoc first (Runs.silent_of_next erased)).snoc (second _)
    (Runs.silent_of_next unmapped)

/-- Where two connections to one endpoint are open, a close of one of them leaves the other without
    a mapping. -/
theorem close_unmaps {state : State} {connection : Connection} {id other : UInt32}
    (found : state.connections[id]? = some connection) (differs : other ≠ id)
    (live : Opened state.connections other connection.endpoint) :
    Runs.Run step state [.closeErase id, .closeUnmap connection.endpoint id] []
      (state.closed connection.endpoint id) ∧
    Opened (state.closed connection.endpoint id).connections other connection.endpoint ∧
    (state.closed connection.endpoint id).endpointToConnection[connection.endpoint]? = none := by
  refine ⟨close_run found trivial fun _ => trivial, ?_, ?_⟩
  · exact opened_erase.mpr ⟨Ne.symm differs, live⟩
  · rw [State.closed, Maps.lookup_erase, if_pos rfl]

/-- Where an endpoint is stored while another connection to it is being closed, the close erases
    the new mapping. -/
theorem store_unmapped {state : State} {endpoint : Remote} {id closed : UInt32}
    (storing : (endpoint, id) ∈ state.storing) (closing : (endpoint, closed) ∈ state.erasing) :
    ∃ final last, state.next (.connectStore endpoint id) = some final ∧
      final.next (.closeUnmap endpoint closed) = some last ∧
      final.endpointToConnection[endpoint]? = some id ∧
      last.endpointToConnection[endpoint]? = none := by
  refine ⟨_, _, if_pos storing, if_pos closing, ?_, ?_⟩
  · rw [Maps.lookup_insert, if_pos rfl]
  · rw [Maps.lookup_erase, if_pos rfl]

def remote : Remote := ("10.0.0.1", 30509)

/-- A peer is connected to while a connection is accepted. -/
def acceptedMeanwhile : List Action :=
  [.connectCheck remote, .connectId remote, .acceptId ("10.0.0.2", 40000),
    .acceptInsert ("10.0.0.2", 40000) 2, .connectInsert remote 1, .connectStore remote 1]

theorem acceptedMeanwhile_guarded : ∃ state outputs,
    Runs.Guarded step Apart {} acceptedMeanwhile outputs state ∧ state.Quiet ∧
      Opened state.connections 1 remote ∧
      state.connections[(2 : UInt32)]? = some ⟨"10.0.0.2", 40000, false⟩ ∧
      ∀ other, other ≠ 2 → ¬ Opened state.connections other ("10.0.0.2", 40000) := by
  have guarded : Runs.Guarded step Apart {} acceptedMeanwhile _ _ :=
    (((((Runs.Guarded.nil.snoc trivial rfl).snoc trivial rfl).snoc trivial rfl).snoc
      (by exact rfl) rfl).snoc ⟨rfl, by simp⟩ rfl).snoc (by simp [Apart]) rfl
  refine ⟨_, _, guarded, ⟨rfl, rfl, rfl, rfl, rfl⟩, rfl, rfl, ?_⟩
  intro other differs live
  rw [opened_insert] at live
  split at live
  · simp [remote] at live
  · rw [opened_insert, if_neg (Ne.symm differs)] at live
    cases live

/-- The accepted connection is closed again, and the one that `connect` opened stays mapped. -/
theorem acceptedMeanwhile_mapped : ∃ state outputs,
    Runs.Guarded step Apart {} (acceptedMeanwhile ++
      [.closeErase 2, .closeUnmap ("10.0.0.2", 40000) 2]) outputs state ∧
    ∃ mapped, state.endpointToConnection[remote]? = some mapped ∧
      Opened state.connections mapped remote := by
  obtain ⟨state, outputs, guarded, quiet, live, found, alone⟩ := acceptedMeanwhile_guarded
  obtain ⟨-, -, storing, -, erasing⟩ := id quiet
  have apart : Apart state (.closeErase 2) := by
    intro connection found'
    obtain rfl := Option.some.inj (found.symm.trans found')
    exact ⟨by simp [storing], by simp [erasing], fun other differs live =>
      (alone other differs live).elim⟩
  have all := guarded.append (close_run found apart fun _ => trivial)
  exact ⟨_, _, all, (endpointMap_consistent all).1 quiet 1 remote
    (opened_erase.mpr ⟨by decide, live⟩)⟩

/-- Two calls connect to one endpoint at once. -/
def connectedTwice : List Action :=
  [.connectCheck remote, .connectCheck remote, .connectId remote, .connectId remote,
    .connectInsert remote 1, .connectInsert remote 2, .connectStore remote 1,
    .connectStore remote 2]

theorem connectedTwice_run : ∃ state outputs, Runs.Run step {} connectedTwice outputs state ∧
    state.Quiet ∧ Opened state.connections 1 remote ∧
    state.connections[(2 : UInt32)]? = some ⟨remote.1, remote.2, true⟩ := by
  have run := ((((((((Runs.Guarded.nil.snoc trivial rfl).snoc trivial rfl).snoc trivial rfl).snoc
    trivial rfl).snoc trivial rfl).snoc trivial rfl).snoc trivial rfl).snoc trivial rfl :
    Runs.Run step {} connectedTwice _ _)
  exact ⟨_, _, run, ⟨rfl, rfl, rfl, rfl, rfl⟩, rfl, rfl⟩

theorem connectedTwice_unmapped : ¬ ∀ (actions : List Action) (outputs : List Unit)
    (state : State), Runs.Run step {} actions outputs state →
    (state.Quiet → ∀ id endpoint, Opened state.connections id endpoint →
      ∃ mapped, state.endpointToConnection[endpoint]? = some mapped ∧
        Opened state.connections mapped endpoint) ∧
    ∀ endpoint id final, state.next (.closeUnmap endpoint id) = some final →
      ∀ other, state.endpointToConnection[endpoint]? = some other → other = id := by
  intro inStep
  obtain ⟨state, outputs, run, quiet, first, second⟩ := connectedTwice_run
  obtain ⟨closed, live, unmapped⟩ := close_unmaps second (by decide) first
  obtain ⟨mapped, entry, -⟩ := (inStep _ _ _ (run.append closed)).1 quiet 1 _ live
  rw [unmapped] at entry
  cases entry

end Msomeip.Transport.TcpTransport.EndpointMap
