import Msomeip.Library.Locks
import Msomeip.Sd.Actions

namespace Msomeip.Sd

namespace Callbacks

/-- The mutexes of a `ServiceDiscovery`, and of each application that of its event
    configurations. -/
inductive Mutex
  | services
  | subscriptions
  | cv
  | eventConfigs (application : Nat)
deriving DecidableEq

inductive Thread
  | worker
  | other (id : Nat)
deriving DecidableEq

/-- What is done at a time: an operation under its mutex, `update_service_info`, what
    `handle_offer_service` does after it, and what a getter does. -/
inductive Work
  | perform (action : Action)
  | updateServiceInfo (info : ServiceInfo)
  | notify (entry : ServiceEntry)
  | read

def Work.run : Work → ServiceDiscovery → ServiceDiscovery × List Effect
  | .perform (.handle call moment), sd => sd.handle call moment
  | .perform action, sd => sd.perform action
  | .updateServiceInfo info, sd => (sd.updateServiceInfo info, [])
  | .notify entry, sd =>
    (sd, if sd.availabilityHandler && entry.ttl > 0 then
      [.available entry.serviceId entry.instanceId true] else [])
  | .read, sd => (sd, [])

def mutexOf : Action → Option Mutex
  | .init .. | .setServiceAvailableHandler _ | .setSubscriptionHandler _
  | .setSendMessageCallback _ | .handle (.offerService _ _) _ => none
  | .subscribeEventgroup .. | .unsubscribeEventgroup .. | .retryPendingSubscriptions
  | .handle (.subscribeEventgroupAck _) _ => some .subscriptions
  | .offerService .. | .stopOfferService .. | .findService .. | .stopFindService ..
  | .offerEventgroup .. | .stopOfferEventgroup .. | .checkTtlExpiration _ | .sendPeriodicOffers
  | .handle (.findService _) _ | .handle (.subscribeEventgroup _ _) _ => some .services

def Work.mutex : Work → Option Mutex
  | .perform action => mutexOf action
  | .updateServiceInfo _ | .read => some .services
  | .notify _ => none

/-- The availability handler and the subscription handler. -/
def callsBack : Effect → Bool
  | .available .. | .asked _ => true
  | .invoked _ | .sent .. => false

abbrev Event := Locks.Event Mutex Work Effect

def works : Action → List Work
  | .handle (.offerService entry options) moment =>
    [.updateServiceInfo (ServiceDiscovery.offeredInfo entry options moment.now), .notify entry]
  | action => [.perform action]

def invocation : Action → List Effect
  | .handle call _ => [.invoked call]
  | _ => []

def eventsOf (action : Action) : List Event :=
  (invocation action).map .deliver ++ (works action).flatMap (Locks.critical Work.mutex)

/-- The public operations, one turn of the loop of the worker thread, and `notify_event` of an
    application with the configuration that it finds; nothing is kept of `start` and `stop` but
    that they take none of the mutexes. -/
inductive Operation
  | perform (action : Action)
  | getDiscoveredServices
  | getServiceInfo (service : ServiceId) (instance' : InstanceId)
  | getServiceEndpoints (service : ServiceId) (instance' : InstanceId)
  | getSubscribers (service : ServiceId) (instance' : InstanceId) (eventgroup : EventgroupId)
  | processSdMessage (message : Message) (beyond : Nat → UInt8) (moments : Nat → Moment)
  | start
  | stop
  | notifyEvent (application : Nat) (config : Option (ServiceId × InstanceId × EventgroupId))
  | workerThread (now : TimePoint) (offersDue : Bool)

def isPublic : Action → Bool
  | .handle .. | .checkTtlExpiration _ | .sendPeriodicOffers | .retryPendingSubscriptions => false
  | _ => true

namespace Operation

def events : Operation → List Event
  | .perform action => eventsOf action
  | .getDiscoveredServices | .getServiceInfo .. | .getServiceEndpoints .. | .getSubscribers .. =>
    Locks.critical Work.mutex .read
  | .processSdMessage message beyond moments =>
    (ServiceDiscovery.handlersOf message beyond moments).flatMap fun handler =>
      eventsOf (.handle handler.1 handler.2)
  | .start | .stop => []
  | .notifyEvent application config =>
    Locks.under (.eventConfigs application)
      (config.toList.flatMap fun _ => Locks.critical Work.mutex .read)
  | .workerThread now offersDue =>
    Locks.under .cv ((.checkTtlExpiration now ::
      ((if offersDue then [Action.sendPeriodicOffers] else []) ++
        [.retryPendingSubscriptions])).flatMap eventsOf)

/-- What user code may call, from a thread of its own or out of a handler. -/
def reenters : Operation → Bool
  | .perform action => isPublic action
  | .workerThread .. => false
  | _ => true

def starts : Thread → Operation → Bool
  | .worker, .workerThread .. => true
  | .worker, _ => false
  | .other _, operation => operation.reenters

end Operation

def system : Locks.System ServiceDiscovery Thread Mutex Work Effect Operation where
  run := Work.run
  needs := Work.mutex
  callsBack := callsBack
  events := Operation.events
  starts := Operation.starts
  reenters := Operation.reenters

abbrev State := Locks.State ServiceDiscovery Thread Mutex Work Effect

def create (config : Config) : State := .idle (ServiceDiscovery.create config)

theorem perform_works (sd : ServiceDiscovery) (action : Action) : sd.perform action =
    ((system.runAll (works action) sd).1,
      invocation action ++ (system.runAll (works action) sd).2) := by
  have alone : ∀ work, system.runAll [work] sd = work.run sd := by
    intro work
    simp [Locks.System.runAll, system]
  cases action with
  | handle call moment =>
    cases call with
    | offerService entry options =>
      simp [works, Locks.System.runAll, system, Work.run, invocation, ServiceDiscovery.perform,
        ServiceDiscovery.handle, ServiceDiscovery.handleOfferService,
        ServiceDiscovery.updateServiceInfo]
    | findService entry | subscribeEventgroup entry options | subscribeEventgroupAck entry =>
      simp only [works, alone]
      rfl
  | _ =>
    simp only [works, alone]
    rfl

/-- A thread that finds the mutexes free and meets no other performs an action as a whole. -/
theorem perform_alone (state : State) (thread : Thread) (action : Action) (rest : List Event)
    (free : ∀ mutex, state.owner mutex = none) :
    system.Alone thread (state.continues thread (eventsOf action ++ rest))
      (state.shared.perform action).2
      ({ state with shared := (state.shared.perform action).1 }.continues thread rest) := by
  have invoked := Locks.System.deliver_alone system state thread (invocation action)
    ((works action).flatMap (Locks.critical Work.mutex) ++ rest)
  have worked := Locks.System.criticals_alone system state thread (works action) rest free
  rw [eventsOf, List.append_assoc, perform_works]
  exact invoked.trans worked

end Callbacks
end Msomeip.Sd
