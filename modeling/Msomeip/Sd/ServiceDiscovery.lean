import Msomeip.Library.Maps
import Msomeip.Library.Runs
import Msomeip.Sd.Parser

namespace Msomeip.Sd

open Std

structure ServiceInfo where
  serviceId : ServiceId
  instanceId : InstanceId
  majorVersion : MajorVersion
  minorVersion : MinorVersion
  ttl : UInt32
  lastUpdate : TimePoint
  endpoints : List Endpoint := []
  isOffered : Bool := false
  isLocal : Bool := false
deriving DecidableEq, Repr

/-- `operator[]` of the map value-initializes a new entry: every field starts as zero. -/
structure EventgroupInfo where
  serviceId : ServiceId := 0
  instanceId : InstanceId := 0
  eventgroupId : EventgroupId := 0
  majorVersion : MajorVersion := 0
  endpoints : List Endpoint := []
  subscribers : List Endpoint := []
deriving DecidableEq, Repr

structure PendingSubscription where
  serviceId : ServiceId
  instanceId : InstanceId
  eventgroupId : EventgroupId
  timestamp : TimePoint
  retryCount : UInt8 := 0
deriving DecidableEq, Repr

structure Config where
  multicastAddress : String := "224.244.224.245"
  port : UInt16 := someipSdPort
  repetitionMax : UInt8 := 3
  ttlFactorSubscriptions : Milliseconds := 10

/-- The callbacks live outside: of each only whether it is set is kept. -/
structure ServiceDiscovery where
  config : Config := {}
  localAddress : String := ""
  localUdpPort : UInt16 := 0
  localTcpPort : Option UInt16 := none
  localServices : ExtTreeMap (ServiceId × InstanceId) ServiceInfo := ∅
  discoveredServices : ExtTreeMap (ServiceId × InstanceId) ServiceInfo := ∅
  eventgroups : ExtTreeMap (ServiceId × InstanceId × EventgroupId) EventgroupInfo := ∅
  pendingSubscriptions : List PendingSubscription := []
  findRequests : ExtTreeMap (ServiceId × InstanceId) TimePoint := ∅
  availabilityHandler : Bool := false
  subscriptionHandler : Bool := false
  sendMessageCallback : Bool := false

/-- What a `ServiceDiscovery` does to the outside; a message comes with the entry it was built
    from. -/
inductive Effect
  | invoked (call : HandlerCall)
  | sent (entry : ServiceEntry) (message : Message) (address : String) (port : UInt16)
  | available (service : ServiceId) (instance' : InstanceId) (isAvailable : Bool)
  | asked (subscription : SubscriptionInfo)
deriving DecidableEq, Repr

/-- What a handler gets from the outside: the time and the answer of the subscription handler. -/
structure Moment where
  now : TimePoint
  accepted : Bool

namespace ServiceDiscovery

def create (config : Config) : ServiceDiscovery := { config := config }

def init (sd : ServiceDiscovery) (localAddress : String) (udpPort : UInt16)
    (tcpPort : Option UInt16) : ServiceDiscovery :=
  { sd with localAddress := localAddress, localUdpPort := udpPort, localTcpPort := tcpPort }

def sdMessage (method : MethodId) (entry : ServiceEntry) : Message :=
  { (Message.createNotification someipSdServiceId someipSdInstanceId method).setPayload
      entry.serialize with interfaceVersion := 1, returnCode := .eOk }

def send (sd : ServiceDiscovery) (method : MethodId) (entry : ServiceEntry) : List Effect :=
  if sd.sendMessageCallback then
    [.sent entry (sdMessage method entry) sd.config.multicastAddress sd.config.port]
  else []

def sendFindService (sd : ServiceDiscovery) (service : ServiceId) (instance' : InstanceId) :
    List Effect :=
  sd.send someipSdMethodFindService (.createFindService service instance')

def sendOfferService (sd : ServiceDiscovery) (info : ServiceInfo) : List Effect :=
  sd.send someipSdMethodOfferService
    (.createOfferService info.serviceId info.instanceId info.majorVersion info.minorVersion info.ttl)

def sendSubscribeEventgroup (sd : ServiceDiscovery) (sub : PendingSubscription) : List Effect :=
  let majorVersion :=
    match sd.eventgroups[(sub.serviceId, sub.instanceId, sub.eventgroupId)]? with
    | some eventgroup => eventgroup.majorVersion
    | none => 0xFF
  sd.send someipSdMethodSubscribeEventgroup
    (.createSubscribeEventgroup sub.serviceId sub.instanceId sub.eventgroupId majorVersion
      (UInt32.ofInt (sd.config.ttlFactorSubscriptions.tdiv 1000)))

/-- The major version in the table of the eventgroups that are offered here. -/
def tableVersion (sd : ServiceDiscovery) (key : ServiceId × InstanceId × EventgroupId) :
    MajorVersion :=
  match sd.eventgroups[key]? with
  | some eventgroup => eventgroup.majorVersion
  | none => 0xFF

def sendSubscribeEventgroupAck (sd : ServiceDiscovery) (service : ServiceInfo)
    (eventgroup : EventgroupId) : List Effect :=
  sd.send someipSdMethodSubscribeEventgroupAck
    (.createSubscribeEventgroupAck service.serviceId service.instanceId eventgroup
      service.majorVersion service.ttl)

def sendSubscribeEventgroupNack (sd : ServiceDiscovery) (service : ServiceInfo)
    (eventgroup : EventgroupId) : List Effect :=
  sd.send someipSdMethodSubscribeEventgroupNack
    (.createSubscribeEventgroupNack service.serviceId service.instanceId eventgroup)

def localEndpoints (sd : ServiceDiscovery) (config : ServiceConfig) : List Endpoint :=
  (if config.unreliable then [⟨sd.localAddress, config.unreliablePort, .udp⟩] else []) ++
    (if config.reliable && sd.localTcpPort.isSome then
      [⟨sd.localAddress, config.reliablePort, .tcp⟩] else [])

/-- The random initial delay, spent under the lock, is left out. -/
def offerService (sd : ServiceDiscovery) (config : ServiceConfig) (now : TimePoint) :
    ServiceDiscovery × List Effect :=
  let info : ServiceInfo :=
    { serviceId := config.serviceId, instanceId := config.instanceId,
      majorVersion := config.majorVersion, minorVersion := config.minorVersion,
      ttl := UInt32.ofInt config.ttl, isOffered := true, isLocal := true, lastUpdate := now,
      endpoints := sd.localEndpoints config }
  ({ sd with localServices := sd.localServices.insert (config.serviceId, config.instanceId) info },
    sd.sendOfferService info)

def stopOfferService (sd : ServiceDiscovery) (service : ServiceId) (instance' : InstanceId) :
    ServiceDiscovery × List Effect :=
  match sd.localServices[(service, instance')]? with
  | none => (sd, [])
  | some info =>
    ({ sd with localServices := sd.localServices.erase (service, instance') },
      sd.sendOfferService { info with isOffered := false, ttl := 0 })

def findService (sd : ServiceDiscovery) (service : ServiceId) (instance' : InstanceId)
    (now : TimePoint) : ServiceDiscovery × List Effect :=
  ({ sd with findRequests := sd.findRequests.insert (service, instance') now },
    sd.sendFindService service instance')

def stopFindService (sd : ServiceDiscovery) (service : ServiceId) (instance' : InstanceId) :
    ServiceDiscovery :=
  { sd with findRequests := sd.findRequests.erase (service, instance') }

def PendingSubscription.isFor (sub : PendingSubscription) (service : ServiceId)
    (instance' : InstanceId) (eventgroup : EventgroupId) : Bool :=
  sub.serviceId == service && sub.instanceId == instance' && sub.eventgroupId == eventgroup

/-- The major version is not kept. -/
def subscribeEventgroup (sd : ServiceDiscovery) (service : ServiceId) (instance' : InstanceId)
    (eventgroup : EventgroupId) (_majorVersion : MajorVersion) (now : TimePoint) :
    ServiceDiscovery :=
  { sd with
    pendingSubscriptions := sd.pendingSubscriptions ++
      [{ serviceId := service, instanceId := instance', eventgroupId := eventgroup,
         timestamp := now, retryCount := 0 }] }

def unsubscribeEventgroup (sd : ServiceDiscovery) (service : ServiceId) (instance' : InstanceId)
    (eventgroup : EventgroupId) : ServiceDiscovery :=
  { sd with
    pendingSubscriptions := sd.pendingSubscriptions.filter fun sub =>
      !PendingSubscription.isFor sub service instance' eventgroup }

/-- The major version of the new record is never set: `indeterminate` is what memory held. -/
def offerEventgroup (sd : ServiceDiscovery) (service : ServiceId) (instance' : InstanceId)
    (eventgroup : EventgroupId) (endpoints : List Endpoint) (indeterminate : MajorVersion) :
    ServiceDiscovery :=
  { sd with
    eventgroups := sd.eventgroups.insert (service, instance', eventgroup)
      { serviceId := service, instanceId := instance', eventgroupId := eventgroup,
        majorVersion := indeterminate, endpoints := endpoints } }

def stopOfferEventgroup (sd : ServiceDiscovery) (service : ServiceId) (instance' : InstanceId)
    (eventgroup : EventgroupId) : ServiceDiscovery :=
  { sd with eventgroups := sd.eventgroups.erase (service, instance', eventgroup) }

def getDiscoveredServices (sd : ServiceDiscovery) : List ServiceInfo :=
  sd.discoveredServices.values

/-- All endpoints that a service discovery has recorded: those of services that it has discovered,
    and those of subscribers. -/
def recordedEndpoints (sd : ServiceDiscovery) : List Endpoint :=
  sd.getDiscoveredServices.flatMap (·.endpoints) ++ sd.eventgroups.values.flatMap (·.subscribers)

def getServiceInfo (sd : ServiceDiscovery) (service : ServiceId) (instance' : InstanceId) :
    Option ServiceInfo :=
  sd.discoveredServices[(service, instance')]?

def getServiceEndpoints (sd : ServiceDiscovery) (service : ServiceId) (instance' : InstanceId) :
    List Endpoint :=
  match sd.discoveredServices[(service, instance')]? with
  | some info => info.endpoints
  | none => []

def getSubscribers (sd : ServiceDiscovery) (service : ServiceId) (instance' : InstanceId)
    (eventgroup : EventgroupId) : List Endpoint :=
  match sd.eventgroups[(service, instance', eventgroup)]? with
  | some info => info.subscribers
  | none => []

def updateServiceInfo (sd : ServiceDiscovery) (info : ServiceInfo) : ServiceDiscovery :=
  { sd with
    discoveredServices := sd.discoveredServices.insert (info.serviceId, info.instanceId) info }

def handleFindService (sd : ServiceDiscovery) (entry : ServiceEntry) : List Effect :=
  sd.localServices.values.flatMap fun info =>
    if info.isOffered && info.serviceId == entry.serviceId &&
      (entry.instanceId == 0xFFFF || info.instanceId == entry.instanceId) then
      sd.sendOfferService info
    else []

def offeredInfo (entry : ServiceEntry) (options : List SdOption) (now : TimePoint) : ServiceInfo :=
  { serviceId := entry.serviceId, instanceId := entry.instanceId,
    majorVersion := entry.majorVersion, minorVersion := entry.minorVersion, ttl := entry.ttl,
    lastUpdate := now, isOffered := entry.ttl > 0, endpoints := options.filterMap SdOption.endpoint }

def handleOfferService (sd : ServiceDiscovery) (entry : ServiceEntry) (options : List SdOption)
    (now : TimePoint) : ServiceDiscovery × List Effect :=
  (sd.updateServiceInfo (offeredInfo entry options now),
    if sd.availabilityHandler && entry.ttl > 0 then
      [.available entry.serviceId entry.instanceId true]
    else [])

def addSubscriber (subscribers : List Endpoint) (endpoint : Endpoint) : List Endpoint :=
  if endpoint ∈ subscribers then subscribers else subscribers ++ [endpoint]

def addSubscribers (sd : ServiceDiscovery) (subscription : SubscriptionInfo) : ServiceDiscovery :=
  let key := (subscription.serviceId, subscription.instanceId, subscription.eventgroupId)
  let info := sd.eventgroups[key]?.getD {}
  { sd with
    eventgroups := sd.eventgroups.insert key
      { info with
        serviceId := subscription.serviceId, instanceId := subscription.instanceId
        eventgroupId := subscription.eventgroupId, majorVersion := subscription.majorVersion
        subscribers := subscription.endpoints.foldl addSubscriber info.subscribers } }

def handleSubscribeEventgroup (sd : ServiceDiscovery) (entry : ServiceEntry)
    (options : List SdOption) (accepts : Bool) : ServiceDiscovery × List Effect :=
  match sd.localServices[(entry.serviceId, entry.instanceId)]? with
  | none => (sd, [])
  | some service =>
    let subscription : SubscriptionInfo :=
      { serviceId := entry.serviceId, instanceId := entry.instanceId,
        eventgroupId := entry.eventgroupId, majorVersion := entry.majorVersion, ttl := entry.ttl,
        endpoints := options.filterMap SdOption.endpoint }
    let accepted := !sd.subscriptionHandler || accepts
    let asked := if sd.subscriptionHandler then [Effect.asked subscription] else []
    if accepted then
      (sd.addSubscribers subscription,
        asked ++ sd.sendSubscribeEventgroupAck service entry.eventgroupId)
    else (sd, asked ++ sd.sendSubscribeEventgroupNack service entry.eventgroupId)

/-- Only the eventgroups can change. -/
theorem handleSubscribeEventgroup_frame (sd : ServiceDiscovery) (entry : ServiceEntry)
    (options : List SdOption) (accepts : Bool) :
    (sd.handleSubscribeEventgroup entry options accepts).1 =
      { sd with
        eventgroups := (sd.handleSubscribeEventgroup entry options accepts).1.eventgroups } := by
  unfold handleSubscribeEventgroup
  split
  · rfl
  · simp only
    split <;> rfl

def handleSubscribeEventgroupAck (sd : ServiceDiscovery) (entry : ServiceEntry) :
    ServiceDiscovery :=
  { sd with
    pendingSubscriptions := sd.pendingSubscriptions.filter fun sub =>
      !PendingSubscription.isFor sub entry.serviceId entry.instanceId entry.eventgroupId }

def handle (sd : ServiceDiscovery) (call : HandlerCall) (moment : Moment) :
    ServiceDiscovery × List Effect :=
  match call with
  | .findService entry => (sd, sd.handleFindService entry)
  | .offerService entry options => sd.handleOfferService entry options moment.now
  | .subscribeEventgroup entry options =>
    sd.handleSubscribeEventgroup entry options moment.accepted
  | .subscribeEventgroupAck entry => (sd.handleSubscribeEventgroupAck entry, [])

def expired (info : ServiceInfo) (now : TimePoint) : Bool :=
  (now - info.lastUpdate).tdiv 1000000000 > (info.ttl.toNat : Int)

def checkTtlExpiration (sd : ServiceDiscovery) (now : TimePoint) :
    ServiceDiscovery × List Effect :=
  ({ sd with discoveredServices := sd.discoveredServices.filter fun _ info => !expired info now },
    if sd.availabilityHandler then
      (sd.discoveredServices.values.filter (expired · now)).map fun info =>
        .available info.serviceId info.instanceId false
    else [])

def sendPeriodicOffers (sd : ServiceDiscovery) : List Effect :=
  sd.localServices.values.flatMap fun info => if info.isOffered then sd.sendOfferService info else []

/-- The retry count is compared but never raised. -/
def retryPendingSubscriptions (sd : ServiceDiscovery) : List Effect :=
  sd.pendingSubscriptions.flatMap fun sub =>
    if sub.retryCount < sd.config.repetitionMax then sd.sendSubscribeEventgroup sub else []

end ServiceDiscovery
end Msomeip.Sd
