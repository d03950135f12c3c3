import Msomeip.Sd.ServiceDiscovery

namespace Msomeip.Sd

/-- The public operations, the handlers of received entries, and what the worker thread does. -/
inductive Action
  | init (localAddress : String) (udpPort : UInt16) (tcpPort : Option UInt16)
  | setServiceAvailableHandler (present : Bool)
  | setSubscriptionHandler (present : Bool)
  | setSendMessageCallback (present : Bool)
  | offerService (config : ServiceConfig) (now : TimePoint)
  | stopOfferService (service : ServiceId) (instance' : InstanceId)
  | findService (service : ServiceId) (instance' : InstanceId) (now : TimePoint)
  | stopFindService (service : ServiceId) (instance' : InstanceId)
  | subscribeEventgroup (service : ServiceId) (instance' : InstanceId)
      (eventgroup : EventgroupId) (majorVersion : MajorVersion) (now : TimePoint)
  | unsubscribeEventgroup (service : ServiceId) (instance' : InstanceId)
      (eventgroup : EventgroupId)
  | offerEventgroup (service : ServiceId) (instance' : InstanceId) (eventgroup : EventgroupId)
      (endpoints : List Endpoint) (indeterminate : MajorVersion)
  | stopOfferEventgroup (service : ServiceId) (instance' : InstanceId) (eventgroup : EventgroupId)
  | handle (call : HandlerCall) (moment : Moment)
  | checkTtlExpiration (now : TimePoint)
  | sendPeriodicOffers
  | retryPendingSubscriptions

namespace ServiceDiscovery

def perform (sd : ServiceDiscovery) : Action → ServiceDiscovery × List Effect
  | .init localAddress udpPort tcpPort => (sd.init localAddress udpPort tcpPort, [])
  | .setServiceAvailableHandler present => ({ sd with availabilityHandler := present }, [])
  | .setSubscriptionHandler present => ({ sd with subscriptionHandler := present }, [])
  | .setSendMessageCallback present => ({ sd with sendMessageCallback := present }, [])
  | .offerService config now => sd.offerService config now
  | .stopOfferService service instance' => sd.stopOfferService service instance'
  | .findService service instance' now => sd.findService service instance' now
  | .stopFindService service instance' => (sd.stopFindService service instance', [])
  | .subscribeEventgroup service instance' eventgroup majorVersion now =>
    (sd.subscribeEventgroup service instance' eventgroup majorVersion now, [])
  | .unsubscribeEventgroup service instance' eventgroup =>
    (sd.unsubscribeEventgroup service instance' eventgroup, [])
  | .offerEventgroup service instance' eventgroup endpoints indeterminate =>
    (sd.offerEventgroup service instance' eventgroup endpoints indeterminate, [])
  | .stopOfferEventgroup service instance' eventgroup =>
    (sd.stopOfferEventgroup service instance' eventgroup, [])
  | .handle call moment =>
    ((sd.handle call moment).1, .invoked call :: (sd.handle call moment).2)
  | .checkTtlExpiration now => sd.checkTtlExpiration now
  | .sendPeriodicOffers => (sd, sd.sendPeriodicOffers)
  | .retryPendingSubscriptions => (sd, sd.retryPendingSubscriptions)

def step : Runs.Step ServiceDiscovery Action Effect := fun sd action => some (sd.perform action)

theorem step_some {sd next : ServiceDiscovery} {action : Action} {emitted : List Effect}
    (stepped : step sd action = some (next, emitted)) :
    next = (sd.perform action).1 ∧ emitted = (sd.perform action).2 := by
  obtain ⟨rfl, rfl⟩ := Prod.mk.inj (Option.some.inj stepped)
  exact ⟨rfl, rfl⟩

def handleAll (sd : ServiceDiscovery) :
    List (HandlerCall × Moment) → ServiceDiscovery × List Effect
  | [] => (sd, [])
  | (call, moment) :: rest =>
    let (next, emitted) := sd.perform (.handle call moment)
    let (final, later) := handleAll next rest
    (final, emitted ++ later)

def handlersOf (message : Message) (beyond : Nat → UInt8) (moments : Nat → Moment) :
    List (HandlerCall × Moment) :=
  (parseSdMessage message beyond).val.mapIdx fun index call => (call, moments index)

def processSdMessage (sd : ServiceDiscovery) (message : Message) (beyond : Nat → UInt8)
    (moments : Nat → Moment) : ServiceDiscovery × List Effect :=
  sd.handleAll (handlersOf message beyond moments)

theorem handleAll_run (sd : ServiceDiscovery) (handlers : List (HandlerCall × Moment)) :
    Runs.Run step sd (handlers.map fun (call, moment) => .handle call moment)
      (sd.handleAll handlers).2 (sd.handleAll handlers).1 := by
  induction handlers generalizing sd with
  | nil => exact .nil
  | cons handler rest ih =>
    obtain ⟨call, moment⟩ := handler
    exact (Runs.Guarded.head True.intro rfl).append (ih (sd.perform (.handle call moment)).1)

/-- A received message is a run of the handlers of its entries. -/
theorem processSdMessage_run (sd : ServiceDiscovery) (message : Message) (beyond : Nat → UInt8)
    (moments : Nat → Moment) :
    Runs.Run step sd
      ((handlersOf message beyond moments).map fun (call, moment) => .handle call moment)
      (sd.processSdMessage message beyond moments).2 (sd.processSdMessage message beyond moments).1 :=
  sd.handleAll_run _

end ServiceDiscovery
end Msomeip.Sd
