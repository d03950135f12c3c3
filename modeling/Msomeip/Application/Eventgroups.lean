import Mathlib.Data.Set.Basic
import Msomeip.Application.EventTable

namespace Msomeip

namespace EventSource

/-- The endpoints that a notification of the event is sent to. -/
def destinations (source : EventSource) (event : EventId) (payload : PayloadData) :
    Set (String × UInt16 × Bool) :=
  {destination | ∃ call ∈ source.notifyEvent event payload,
    (call.address, call.port, call.reliable) = destination}

theorem destinations_found {source : EventSource} {event : EventId} {config : EventConfig}
    (found : source.eventConfigs[event]? = some config) (payload : PayloadData) :
    source.destinations event payload =
      {destination | ∃ endpoint ∈ source.serviceDiscovery.subscribers config.key,
        (endpoint.address, endpoint.port, decide (endpoint.protocol = .tcp)) = destination} := by
  ext destination
  simp [destinations, notifyEvent_found found, EventConfig.notification]

theorem destinations_eq_empty {source : EventSource} {event : EventId} {config : EventConfig}
    (found : source.eventConfigs[event]? = some config) (payload : PayloadData) :
    source.destinations event payload = ∅ ↔
      source.serviceDiscovery.subscribers config.key = [] := by
  rw [destinations_found found, List.eq_nil_iff_forall_not_mem, Set.eq_empty_iff_forall_notMem]
  constructor
  · intro none endpoint member
    exact none _ ⟨endpoint, member, rfl⟩
  · intro none destination sent
    obtain ⟨endpoint, member, -⟩ := sent
    exact none endpoint member

end EventSource

namespace EventTable

open EventSource

/-- The event that a call offers or stops, and the eventgroup in which it does so. -/
def operated (table : EventTable) : Action → Option (EventId × Sd.EventgroupKey)
  | .offerEvent config _ | .offerField config _ => some (config.eventId, config.key)
  | .stopOfferEvent service instance' event =>
    table.eventConfigs[event]?.map fun config =>
      (event, service, instance', config.eventgroupId)
  | .notifyEvent .. | .setFieldValue .. | .subscribeEvent .. | .unsubscribeEvent ..
  | .discovery _ => none

/-- The event is offered, and the call offers or stops another one of its eventgroup. -/
def Beside (table : EventTable) (action : Action) (event : EventId) (config : EventConfig) :
    Prop :=
  table.eventConfigs[event]? = some config ∧
    ∃ other, table.operated action = some (other, config.key) ∧ event ≠ other

def Undisturbed (table : EventTable) (action : Action) (next : EventTable) : Prop :=
  ∀ event config payload, table.Beside action event config →
    next.destinations event payload = table.destinations event payload

def NoSubscribers (table : EventTable) (action : Action) : Prop :=
  ∀ event config, table.Beside action event config →
    table.serviceDiscovery.subscribers config.key = []

/-- The eventgroup that the action is about has no subscriber. -/
def Unused (table : EventTable) (action : Action) : Prop :=
  ∀ operated ∈ table.operated action, table.serviceDiscovery.subscribers operated.2 = []

instance (table : EventTable) (action : Action) : Decidable (table.Unused action) :=
  Option.decidableForallMem (table.operated action)

theorem Unused.noSubscribers {table : EventTable} {action : Action}
    (unused : table.Unused action) : table.NoSubscribers action := by
  intro event config beside
  obtain ⟨-, other, operates, -⟩ := beside
  exact unused _ operates

theorem subscribers_offerEventgroup (sd : Sd.ServiceDiscovery) (key : Sd.EventgroupKey)
    (endpoints : List Endpoint) (indeterminate : MajorVersion) :
    (sd.offerEventgroup key.1 key.2.1 key.2.2 endpoints indeterminate).subscribers key = [] := by
  rw [Sd.ServiceDiscovery.subscribers_eq, Sd.ServiceDiscovery.offerEventgroup, Maps.lookup_insert,
    if_pos rfl]
  rfl

theorem subscribers_stopOfferEventgroup (sd : Sd.ServiceDiscovery) (key : Sd.EventgroupKey) :
    (sd.stopOfferEventgroup key.1 key.2.1 key.2.2).subscribers key = [] := by
  rw [Sd.ServiceDiscovery.subscribers_eq, Sd.ServiceDiscovery.stopOfferEventgroup,
    Maps.lookup_erase, if_pos rfl]
  rfl

/-- Offering or stopping an event drops the subscribers of its eventgroup, and keeps the
    configurations of all other events. -/
theorem perform_operated {table : EventTable} {action : Action} {other : EventId}
    {key : Sd.EventgroupKey} (operates : table.operated action = some (other, key)) :
    (table.perform action).1.serviceDiscovery.subscribers key = [] ∧
      ∀ event, event ≠ other →
        (table.perform action).1.eventConfigs[event]? = table.eventConfigs[event]? := by
  cases action with
  | offerEvent config indeterminate =>
    obtain ⟨rfl, rfl⟩ := Prod.mk.inj (Option.some.inj operates)
    have kept : ∀ event, event ≠ config.eventId →
        (table.offerEvent config indeterminate).eventConfigs[event]? =
          table.eventConfigs[event]? := by
      intro event different
      exact (eventConfigs_offerEvent ..).trans (if_neg different.symm)
    exact ⟨subscribers_offerEventgroup _ config.key [] indeterminate, kept⟩
  | offerField config indeterminate =>
    obtain ⟨rfl, rfl⟩ := Prod.mk.inj (Option.some.inj operates)
    have kept : ∀ event, event ≠ config.eventId →
        (table.offerField config indeterminate).eventConfigs[event]? =
          table.eventConfigs[event]? := by
      intro event different
      exact (eventConfigs_offerEvent ..).trans (if_neg different.symm)
    exact ⟨subscribers_offerEventgroup _ config.key [] indeterminate, kept⟩
  | stopOfferEvent service instance' event =>
    obtain ⟨config, found, same⟩ := Option.map_eq_some_iff.mp operates
    obtain ⟨rfl, rfl⟩ := Prod.mk.inj same
    have dropped : (table.stopOfferEvent service instance' event).serviceDiscovery =
        table.serviceDiscovery.stopOfferEventgroup service instance' config.eventgroupId := by
      simp only [EventTable.stopOfferEvent, EventSource.stopOfferEvent, found]
    have kept : ∀ other, other ≠ event →
        (table.stopOfferEvent service instance' event).eventConfigs[other]? =
          table.eventConfigs[other]? := by
      intro other different
      exact (eventConfigs_stopOfferEvent ..).trans (if_neg different.symm)
    apply And.intro _ kept
    change (table.stopOfferEvent service instance' event).serviceDiscovery.subscribers _ = []
    rw [dropped]
    exact subscribers_stopOfferEventgroup _ (service, instance', config.eventgroupId)
  | _ => cases operates

theorem destinations_beside {table : EventTable} {action : Action} {event : EventId}
    {config : EventConfig} (beside : table.Beside action event config) (payload : PayloadData) :
    (table.perform action).1.destinations event payload = ∅ := by
  obtain ⟨found, other, operates, different⟩ := beside
  obtain ⟨dropped, kept⟩ := perform_operated operates
  have stays := (kept event different).trans found
  exact (destinations_eq_empty stays payload).mpr dropped

theorem undisturbed_step (table : EventTable) (action : Action) :
    table.Undisturbed action (table.perform action).1 ↔ table.NoSubscribers action := by
  constructor
  · intro undisturbed event config beside
    have same := undisturbed event config [] beside
    rw [destinations_beside beside] at same
    exact (destinations_eq_empty beside.1 []).mp same.symm
  · intro unused event config payload beside
    rw [destinations_beside beside]
    exact ((destinations_eq_empty beside.1 payload).mpr (unused event config beside)).symm

/-- Events of one eventgroup leave the notifications of each other alone along a run exactly when
    none of them is offered or stopped while the eventgroup has subscribers. -/
theorem undisturbed_iff_noSubscribers {config : Sd.Config} {actions : List Action}
    {calls : List SendCall} {table : EventTable}
    (run : Runs.Run step (create config) actions calls table) :
    Runs.EachStep step (create config) Undisturbed actions ↔
      Runs.Guarded step NoSubscribers (create config) actions calls table := by
  apply Runs.eachStep_iff_guarded _ run
  intro front calls table action next emitted _ stepped
  rw [(step_some stepped).1]
  exact undisturbed_step table action

def speedEvent : EventConfig := ⟨0x1234, 0x0001, 0x0001, 0x0007⟩
def doorEvent : EventConfig := ⟨0x1234, 0x0001, 0x0002, 0x0007⟩

def subscribed : Action :=
  .discovery (Sd.ServiceDiscovery.subscribing 3 [Sd.ServiceDiscovery.client 1000 .udp])

def offeredFirst : List Action :=
  [.discovery (.offerService Sd.ServiceDiscovery.temperatureConfig 0), .offerEvent speedEvent 0,
    .offerEvent doorEvent 0, subscribed, .notifyEvent 0x0001 [0x2A]]

theorem offeredFirst_undisturbed : Runs.EachStep step (create {}) Undisturbed offeredFirst := by
  have run : ∃ table, Runs.Guarded step Unused (create {}) offeredFirst
      [speedEvent.notification 0x0001 [0x2A] ⟨"10.0.0.2", 1000, .udp⟩] table :=
    Runs.exists_guarded (by decide +kernel)
  obtain ⟨table, guarded⟩ := run
  have unused := guarded.mono fun _ _ => Unused.noSubscribers
  exact (undisturbed_iff_noSubscribers unused.run).mpr unused

def offeredLast : List Action :=
  [.discovery (.offerService Sd.ServiceDiscovery.temperatureConfig 0), .offerEvent speedEvent 0,
    subscribed]

theorem offeredLast_disturbed : ¬ ∀ config actions calls table,
    Runs.Run step (create config) actions calls table →
      Runs.EachStep step (create config) Undisturbed actions := by
  intro all
  obtain ⟨calls, run⟩ := run_performAll (create {}) offeredLast
  let table := performAll (create {}) offeredLast
  have stepped : step table (.offerEvent doorEvent 0) =
      some (table.perform (.offerEvent doorEvent 0)) := rfl
  have each := all _ _ _ _ (run.snoc trivial stepped)
  have undisturbed := each _ _ (List.prefix_refl _) _ _ _ _ run stepped
  have found : table.eventConfigs[(0x0001 : EventId)]? = some speedEvent := by decide +kernel
  have beside : table.Beside (.offerEvent doorEvent 0) 0x0001 speedEvent :=
    ⟨found, 0x0002, rfl, by decide⟩
  have unused := (undisturbed_step table (.offerEvent doorEvent 0)).mp undisturbed _ _ beside
  have joined : table.serviceDiscovery.subscribers speedEvent.key = [⟨"10.0.0.2", 1000, .udp⟩] := by
    decide +kernel
  rw [joined] at unused
  cases unused

end EventTable
end Msomeip
