import Msomeip.Runtime.Runtime
import Msomeip.Sd.Subscriptions

namespace Msomeip

open Std

/-- The arguments of a call of `Runtime::send_message`. -/
structure SendCall where
  message : Message
  address : String
  port : UInt16
  reliable : Bool
deriving DecidableEq, Repr

/-- What `Application` knows of events: its `event_configs_`, and the service discovery of its
    runtime. -/
structure EventSource where
  eventConfigs : ExtTreeMap EventId EventConfig := ∅
  serviceDiscovery : Sd.ServiceDiscovery

namespace EventSource

/-- `indeterminate` is what `offer_eventgroup` leaves in the major version it never sets. -/
def offerEvent (source : EventSource) (config : EventConfig) (indeterminate : MajorVersion) :
    EventSource :=
  { eventConfigs := source.eventConfigs.insert config.eventId config
    serviceDiscovery := source.serviceDiscovery.offerEventgroup config.serviceId
      config.instanceId config.eventgroupId [] indeterminate }

def stopOfferEvent (source : EventSource) (service : ServiceId) (instance' : InstanceId)
    (event : EventId) : EventSource :=
  match source.eventConfigs[event]? with
  | none => source
  | some config =>
    { eventConfigs := source.eventConfigs.erase event
      serviceDiscovery := source.serviceDiscovery.stopOfferEventgroup service instance'
        config.eventgroupId }

def notifyEvent (source : EventSource) (event : EventId) (payload : PayloadData) : List SendCall :=
  match source.eventConfigs[event]? with
  | none => []
  | some config =>
    let message :=
      (Message.createNotification config.serviceId config.instanceId event).setPayload payload
    (source.serviceDiscovery.getSubscribers config.serviceId config.instanceId
        config.eventgroupId).map fun endpoint =>
      ⟨message, endpoint.address, endpoint.port, endpoint.protocol == .tcp⟩

end EventSource

def EventConfig.key (config : EventConfig) : Sd.EventgroupKey :=
  (config.serviceId, config.instanceId, config.eventgroupId)

/-- The notification of the event, for one endpoint. -/
def EventConfig.notification (config : EventConfig) (event : EventId) (payload : PayloadData)
    (endpoint : Endpoint) : SendCall :=
  ⟨(Message.createNotification config.serviceId config.instanceId event).setPayload payload,
    endpoint.address, endpoint.port, endpoint.protocol = .tcp⟩

namespace Sd.ServiceDiscovery

open EventSource

/-- Subscribers are the endpoints of the accepted entries, once each and in the order they came,
    and a notification goes to each of them. -/
theorem subscribers_exact {config : Config} {actions : List Action} {records : List Record}
    {sd : ServiceDiscovery} (run : Runs.Run journal (create config) actions records sd)
    (service : ServiceId) (instance' : InstanceId) (eventgroup : EventgroupId) :
    let arrived := (Record.arrivals (service, instance', eventgroup) records).eraseDups
    sd.getSubscribers service instance' eventgroup = arrived ∧ arrived.Nodup ∧
      ∀ (source : EventSource) (event : EventId) (configured : EventConfig)
        (payload : PayloadData), source.serviceDiscovery = sd →
        source.eventConfigs[event]? = some configured →
        configured.key = (service, instance', eventgroup) →
        source.notifyEvent event payload =
          arrived.map (configured.notification event payload) := by
  intro arrived
  have listed : sd.getSubscribers service instance' eventgroup = arrived :=
    subscribers_run run (service, instance', eventgroup)
  refine ⟨listed, Distinct.nodup_eraseDups _, ?_⟩
  intro source event configured payload same found keyed
  obtain ⟨rfl, rfl, rfl⟩ : configured.serviceId = service ∧ configured.instanceId = instance' ∧
      configured.eventgroupId = eventgroup := by
    simpa [EventConfig.key] using keyed
  simp only [notifyEvent, found, same, listed]
  rfl

def twoClients : List Action :=
  [.offerService temperatureConfig 0, subscribing 3 [client 1000 .udp, client 2000 .tcp],
    subscribing 3 [client 1000 .udp]]

def temperatureEvent (sd : ServiceDiscovery) : EventSource where
  eventConfigs := (∅ : ExtTreeMap EventId EventConfig).insert 0x0001
    ⟨0x1234, 0x0001, 0x0001, 0x0007⟩
  serviceDiscovery := sd

theorem twoClients_notified : ∃ sd : ServiceDiscovery,
    ((temperatureEvent sd).notifyEvent 0x0001 [0x2A]).map
        (fun call => (call.address, call.port, call.reliable)) =
      [("10.0.0.2", 1000, false), ("10.0.0.2", 2000, true)] := by
  have records : (Runs.execute journal (fun _ _ => True) (create {}) twoClients).map Prod.snd =
      some [.subscribe (0x1234, 0x0001, 0x0007) 3
          [⟨"10.0.0.2", 1000, .udp⟩, ⟨"10.0.0.2", 2000, .tcp⟩] true,
        .subscribe (0x1234, 0x0001, 0x0007) 3 [⟨"10.0.0.2", 1000, .udp⟩] true] := by
    decide +kernel
  obtain ⟨sd, run⟩ := Runs.exists_guarded records
  have notified := (subscribers_exact run 0x1234 0x0001 0x0007).2.2 (temperatureEvent sd) 0x0001
    ⟨0x1234, 0x0001, 0x0001, 0x0007⟩ [0x2A] rfl Std.ExtTreeMap.getElem?_insert_self rfl
  refine ⟨sd, ?_⟩
  rw [notified]
  decide +kernel

end Sd.ServiceDiscovery
end Msomeip
