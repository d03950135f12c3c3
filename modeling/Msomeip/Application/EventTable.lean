import Msomeip.Application.Events

namespace Msomeip

open Std

/-- The getter, the setter and the subscribers of a field are stored and never read. -/
structure FieldInfo where
  value : PayloadData := []
deriving DecidableEq, Repr

/-- What `Application` knows of events and of fields. -/
structure EventTable extends EventSource where
  fields : ExtTreeMap EventId FieldInfo := ∅

namespace EventTable

def create (config : Sd.Config) : EventTable :=
  { serviceDiscovery := Sd.ServiceDiscovery.create config }

def offerEvent (table : EventTable) (config : EventConfig) (indeterminate : MajorVersion) :
    EventTable :=
  { table with toEventSource := table.toEventSource.offerEvent config indeterminate }

def stopOfferEvent (table : EventTable) (service : ServiceId) (instance' : InstanceId)
    (event : EventId) : EventTable :=
  { table with toEventSource := table.toEventSource.stopOfferEvent service instance' event }

def offerField (table : EventTable) (config : EventConfig) (indeterminate : MajorVersion) :
    EventTable :=
  offerEvent { table with fields := table.fields.insert config.eventId {} } config indeterminate

def setFieldValue (table : EventTable) (field : EventId) (value : PayloadData) :
    EventTable × List SendCall :=
  let fields :=
    match table.fields[field]? with
    | none => table.fields
    | some info => table.fields.insert field { info with value := value }
  ({ table with fields := fields }, table.notifyEvent field value)

/-- `routed` is what the agent of the shared memory answers, and false where there is none. -/
def subscribeEvent (table : EventTable) (service : ServiceId) (instance' : InstanceId)
    (eventgroup : EventgroupId) (event : EventId) (majorVersion : MajorVersion) (routed : Bool)
    (now : TimePoint) : EventTable :=
  { table with
    eventConfigs := table.eventConfigs.insert event ⟨service, instance', event, eventgroup⟩
    serviceDiscovery :=
      if routed then table.serviceDiscovery
      else table.serviceDiscovery.subscribeEventgroup service instance' eventgroup majorVersion now }

def unsubscribeEvent (table : EventTable) (service : ServiceId) (instance' : InstanceId)
    (eventgroup : EventgroupId) : EventTable :=
  { table with
    serviceDiscovery := table.serviceDiscovery.unsubscribeEventgroup service instance' eventgroup }

inductive Action
  | offerEvent (config : EventConfig) (indeterminate : MajorVersion)
  | stopOfferEvent (service : ServiceId) (instance' : InstanceId) (event : EventId)
  | notifyEvent (event : EventId) (payload : PayloadData)
  | offerField (config : EventConfig) (indeterminate : MajorVersion)
  | setFieldValue (field : EventId) (value : PayloadData)
  | subscribeEvent (service : ServiceId) (instance' : InstanceId) (eventgroup : EventgroupId)
      (event : EventId) (majorVersion : MajorVersion) (routed : Bool) (now : TimePoint)
  | unsubscribeEvent (service : ServiceId) (instance' : InstanceId) (eventgroup : EventgroupId)
  | discovery (action : Sd.Action)

def perform (table : EventTable) : Action → EventTable × List SendCall
  | .offerEvent config indeterminate => (table.offerEvent config indeterminate, [])
  | .stopOfferEvent service instance' event => (table.stopOfferEvent service instance' event, [])
  | .notifyEvent event payload => (table, table.notifyEvent event payload)
  | .offerField config indeterminate => (table.offerField config indeterminate, [])
  | .setFieldValue field value => table.setFieldValue field value
  | .subscribeEvent service instance' eventgroup event majorVersion routed now =>
    (table.subscribeEvent service instance' eventgroup event majorVersion routed now, [])
  | .unsubscribeEvent service instance' eventgroup =>
    (table.unsubscribeEvent service instance' eventgroup, [])
  | .discovery action =>
    ({ table with serviceDiscovery := (table.serviceDiscovery.perform action).1 }, [])

/-- The calls of an application for events, and whatever its service discovery does meanwhile. -/
def step : Runs.Step EventTable Action SendCall := fun table action => some (table.perform action)

theorem step_some {table next : EventTable} {action : Action} {calls : List SendCall}
    (stepped : step table action = some (next, calls)) :
    next = (table.perform action).1 ∧ calls = (table.perform action).2 := by
  obtain ⟨rfl, rfl⟩ := Prod.mk.inj (Option.some.inj stepped)
  exact ⟨rfl, rfl⟩

def performAll (table : EventTable) (actions : List Action) : EventTable :=
  actions.foldl (fun table action => (table.perform action).1) table

theorem run_performAll (table : EventTable) (actions : List Action) :
    ∃ calls, Runs.Run step table actions calls (table.performAll actions) := by
  induction actions generalizing table with
  | nil => exact ⟨[], .nil⟩
  | cons action actions ih =>
    obtain ⟨calls, run⟩ := ih (table.perform action).1
    exact ⟨_, (Runs.Guarded.head trivial rfl).append run⟩

end EventTable

namespace EventSource

theorem notifyEvent_found {source : EventSource} {event : EventId} {config : EventConfig}
    (found : source.eventConfigs[event]? = some config) (payload : PayloadData) :
    source.notifyEvent event payload =
      (source.serviceDiscovery.subscribers config.key).map (config.notification event payload) := by
  simp only [notifyEvent, found]
  rfl

theorem eventConfigs_offerEvent (source : EventSource) (config : EventConfig)
    (indeterminate : MajorVersion) (event : EventId) :
    (source.offerEvent config indeterminate).eventConfigs[event]? =
      if config.eventId = event then some config else source.eventConfigs[event]? :=
  Maps.lookup_insert ..

theorem eventConfigs_stopOfferEvent (source : EventSource) (service : ServiceId)
    (instance' : InstanceId) (stopped event : EventId) :
    (source.stopOfferEvent service instance' stopped).eventConfigs[event]? =
      if stopped = event then none else source.eventConfigs[event]? := by
  unfold stopOfferEvent
  cases found : source.eventConfigs[stopped]? with
  | none =>
    by_cases same : stopped = event
    · rw [if_pos same, ← same]
      exact found
    · rw [if_neg same]
  | some config => exact Maps.lookup_erase ..

end EventSource
end Msomeip
