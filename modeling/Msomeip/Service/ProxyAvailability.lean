import Msomeip.Sd.LiveOffers
import Msomeip.Service.ServiceProxy

namespace Msomeip

def ServiceProxy.onServiceAvailable (proxy : ServiceProxy) (service : ServiceId)
    (instance' : InstanceId) (isAvailable : Bool) : ServiceProxy :=
  if service == proxy.serviceId && instance' == proxy.instanceId then
    { proxy with available := isAvailable }
  else proxy

/-- The service discovery of a runtime, and a proxy on an application of that runtime;
    `initialised` says that the availability handler of the application is that of the proxy. -/
structure ProxyClient where
  serviceDiscovery : Sd.ServiceDiscovery
  proxy : ServiceProxy
  initialised : Bool := false

namespace ProxyClient

/-- What `Runtime::init` sets up: it sets no handler of the service discovery. -/
def create (config : Sd.Config) (address : String) (udpPort : UInt16) (tcpPort : Option UInt16)
    (service : ServiceId) (instance' : InstanceId) : ProxyClient :=
  { serviceDiscovery := (Sd.ServiceDiscovery.create config).init address udpPort tcpPort
    proxy := { serviceId := service, instanceId := instance' } }

/-- `Application::on_service_available`. -/
def onServiceAvailable (client : ProxyClient) (service : ServiceId) (instance' : InstanceId)
    (isAvailable : Bool) : ProxyClient :=
  if client.initialised then
    { client with proxy := client.proxy.onServiceAvailable service instance' isAvailable }
  else client

def deliver (client : ProxyClient) : Sd.Effect → ProxyClient
  | .available service instance' isAvailable =>
    client.onServiceAvailable service instance' isAvailable
  | .invoked _ | .sent .. | .asked _ => client

def discover (client : ProxyClient) (action : Sd.Action) : ProxyClient :=
  (client.serviceDiscovery.perform action).2.foldl deliver
    { client with serviceDiscovery := (client.serviceDiscovery.perform action).1 }

inductive Action
  | initProxy
  | processOffer (entry : Sd.ServiceEntry) (options : List Sd.SdOption)
      (moment : Sd.Moment)
  | checkTtlExpiration (now : TimePoint)

def next (client : ProxyClient) : Action → Option ProxyClient
  | .initProxy => some { client with initialised := true }
  | .processOffer entry options moment =>
    some (client.discover (.handle (.offerService entry options) moment))
  | .checkTtlExpiration now => some (client.discover (.checkTtlExpiration now))

def step : Runs.Step ProxyClient Action Unit := Runs.silent next

def service (client : ProxyClient) : ServiceId × InstanceId :=
  (client.proxy.serviceId, client.proxy.instanceId)

/-- The proxy has its service for available exactly when it is discovered, and then does not refuse
    a call. -/
structure Sees (client : ProxyClient) : Prop where
  available : client.proxy.available = true ↔
    client.service ∈ client.serviceDiscovery.discoveredServices
  called : client.service ∈ client.serviceDiscovery.discoveredServices →
    ∀ (Handler : Type) (app : Application Handler) method payload,
      client.proxy.callMethod app method payload ≠ none

/-- The service is not discovered while there is a proxy that could see it. -/
def Undiscovered (client : ProxyClient) : Action → Prop
  | .initProxy => client.service ∉ client.serviceDiscovery.discoveredServices
  | .processOffer entry _ _ =>
    client.initialised = true → (entry.serviceId, entry.instanceId) ≠ client.service
  | .checkTtlExpiration _ => True

/-- Nobody tells the proxy: the service discovery of the runtime has no handler. -/
structure Unlinked (service : ServiceId × InstanceId) (client : ProxyClient) : Prop where
  handler : client.serviceDiscovery.availabilityHandler = false
  unavailable : client.proxy.available = false
  same : client.service = service

theorem Unlinked.processOffer {service : ServiceId × InstanceId} {client : ProxyClient}
    (unlinked : client.Unlinked service) (entry : Sd.ServiceEntry) (options : List Sd.SdOption)
    (moment : Sd.Moment) : client.discover (.handle (.offerService entry options) moment) =
      { client with serviceDiscovery := (client.serviceDiscovery.perform
          (.handle (.offerService entry options) moment)).1 } := by
  have effects : (client.serviceDiscovery.perform (.handle (.offerService entry options) moment)).2 =
      [.invoked (.offerService entry options)] := by
    simp [Sd.ServiceDiscovery.perform, Sd.ServiceDiscovery.handle,
      Sd.ServiceDiscovery.handleOfferService, unlinked.handler]
  rw [discover, effects]
  rfl

theorem Unlinked.checkTtlExpiration {service : ServiceId × InstanceId} {client : ProxyClient}
    (unlinked : client.Unlinked service) (now : TimePoint) :
    client.discover (.checkTtlExpiration now) =
      { client with serviceDiscovery :=
          (client.serviceDiscovery.perform (.checkTtlExpiration now)).1 } := by
  have effects : (client.serviceDiscovery.perform (.checkTtlExpiration now)).2 = [] := by
    simp [Sd.ServiceDiscovery.perform, Sd.ServiceDiscovery.checkTtlExpiration, unlinked.handler]
  rw [discover, effects]
  rfl

theorem unlinked_next {service : ServiceId × InstanceId} {client after : ProxyClient}
    {action : Action} (unlinked : client.Unlinked service)
    (moved : next client action = some after) : after.Unlinked service := by
  cases action with
  | initProxy =>
    obtain rfl := Option.some.inj moved
    exact ⟨unlinked.handler, unlinked.unavailable, unlinked.same⟩
  | processOffer entry options moment =>
    obtain rfl := Option.some.inj moved
    rw [unlinked.processOffer]
    exact ⟨unlinked.handler, unlinked.unavailable, unlinked.same⟩
  | checkTtlExpiration now =>
    obtain rfl := Option.some.inj moved
    rw [unlinked.checkTtlExpiration]
    exact ⟨unlinked.handler, unlinked.unavailable, unlinked.same⟩

theorem sees_iff_undiscovered {service : ServiceId × InstanceId} {client : ProxyClient}
    (unlinked : client.Unlinked service) :
    client.Sees ↔ client.service ∉ client.serviceDiscovery.discoveredServices := by
  constructor
  · intro sees discovered
    have available := sees.available.mpr discovered
    rw [unlinked.unavailable] at available
    cases available
  · intro absent
    constructor
    · simp [unlinked.unavailable, absent]
    · exact fun discovered => absurd discovered absent

theorem undiscovered_next {service : ServiceId × InstanceId} {client after : ProxyClient}
    {action : Action} (unlinked : client.Unlinked service)
    (hidden : client.initialised = true →
      client.service ∉ client.serviceDiscovery.discoveredServices)
    (moved : next client action = some after) :
    client.Undiscovered action ↔ (after.initialised = true →
      after.service ∉ after.serviceDiscovery.discoveredServices) := by
  cases action with
  | initProxy =>
    obtain rfl := Option.some.inj moved
    simp only [Undiscovered, forall_const]
    rfl
  | processOffer entry options moment =>
    obtain rfl := Option.some.inj moved
    rw [unlinked.processOffer]
    constructor
    · intro other shown found
      rcases Sd.ServiceDiscovery.discovered_perform found with before | offered
      · exact hidden shown before
      · simp only [Sd.Action.offerFor] at offered
        split at offered
        · rename_i same
          exact other shown same
        · cases offered
    · intro absent shown same
      have stored := client.serviceDiscovery.offer_discovered entry options moment
      rw [same] at stored
      exact absent shown stored
  | checkTtlExpiration now =>
    obtain rfl := Option.some.inj moved
    rw [unlinked.checkTtlExpiration]
    apply iff_of_true trivial
    intro shown found
    rcases Sd.ServiceDiscovery.discovered_perform found with before | offered
    · exact hidden shown before
    · cases offered

theorem unlinked_create (config : Sd.Config) (address : String) (udpPort : UInt16)
    (tcpPort : Option UInt16) (service : ServiceId) (instance' : InstanceId) :
    (create config address udpPort tcpPort service instance').Unlinked (service, instance') :=
  ⟨rfl, rfl, rfl⟩

theorem unlinked_run {config : Sd.Config} {address : String} {udpPort : UInt16}
    {tcpPort : Option UInt16} {service : ServiceId} {instance' : InstanceId}
    {actions : List Action} {outputs : List Unit} {client : ProxyClient}
    (run : Runs.Run step (create config address udpPort tcpPort service instance') actions outputs
      client) : client.Unlinked (service, instance') := by
  apply Runs.Guarded.kept run
  · exact unlinked_create config address udpPort tcpPort service instance'
  · intro before action after unlinked _ moved
    exact unlinked_next unlinked moved

theorem undiscovered_run {config : Sd.Config} {address : String} {udpPort : UInt16}
    {tcpPort : Option UInt16} {service : ServiceId} {instance' : InstanceId}
    {actions : List Action} {outputs : List Unit} {client : ProxyClient}
    (guarded : Runs.Guarded step Undiscovered
      (create config address udpPort tcpPort service instance') actions outputs client) :
    client.initialised = true → client.service ∉ client.serviceDiscovery.discoveredServices := by
  have both : client.Unlinked (service, instance') ∧ (client.initialised = true →
      client.service ∉ client.serviceDiscovery.discoveredServices) := by
    apply guarded.kept fun client => client.Unlinked (service, instance') ∧
      (client.initialised = true →
        client.service ∉ client.serviceDiscovery.discoveredServices)
    · apply And.intro (unlinked_create config address udpPort tcpPort service instance')
      intro shown
      cases shown
    · intro before action after held hidden moved
      have unlinked := unlinked_next held.1 moved
      exact ⟨unlinked, (undiscovered_next held.1 held.2 moved).mp hidden⟩
  exact both.2

/-- An initialised proxy sees what the service discovery of its runtime has discovered exactly
    along the runs in which its service is never discovered: `Runtime::init` sets no
    availability handler. -/
theorem alwaysSees_iff_undiscovered {config : Sd.Config} {address : String} {udpPort : UInt16}
    {tcpPort : Option UInt16} {service : ServiceId} {instance' : InstanceId}
    {actions : List Action} {outputs : List Unit} {client : ProxyClient}
    (run : Runs.Run step (create config address udpPort tcpPort service instance') actions outputs
      client) :
    Runs.Always step (create config address udpPort tcpPort service instance')
        (fun _ _ client => client.initialised = true → client.Sees) actions ↔
      Runs.Guarded step Undiscovered (create config address udpPort tcpPort service instance')
        actions outputs client := by
  apply Runs.always_iff_guarded _ _ run
  · intro actions outputs client guarded shown
    exact (sees_iff_undiscovered (unlinked_run guarded.run)).mpr (undiscovered_run guarded shown)
  · intro actions outputs client action after emitted guarded stepped sees
    have moved := Runs.silent_some stepped
    have unlinked := unlinked_run guarded.run
    rw [undiscovered_next unlinked (undiscovered_run guarded) moved]
    intro shown
    exact (sees_iff_undiscovered (unlinked_next unlinked moved)).mp (sees shown)

instance (client : ProxyClient) : (action : Action) → Decidable (client.Undiscovered action)
  | .initProxy => inferInstanceAs (Decidable (client.service ∉ _))
  | .processOffer entry _ _ => inferInstanceAs (Decidable
      (client.initialised = true → (entry.serviceId, entry.instanceId) ≠ client.service))
  | .checkTtlExpiration _ => .isTrue trivial

def started : ProxyClient := create {} "10.0.0.1" 30509 none 0x1234 0x0001

def processed (service : ServiceId) : Action :=
  .processOffer (.createOfferService service 0x0001 1 0 3) [] { now := 0, accepted := true }

def offeredOther : List Action :=
  [processed 0x1234, .checkTtlExpiration 4000000000, .initProxy, processed 0x5678]

theorem offeredOther_seen : Runs.Always step started
    (fun _ _ client => client.initialised = true → client.Sees) offeredOther := by
  have run : ∃ client, Runs.Guarded step Undiscovered started offeredOther [] client :=
    Runs.exists_guarded (by decide +kernel)
  obtain ⟨client, guarded⟩ := run
  exact (alwaysSees_iff_undiscovered guarded.run).mpr guarded

/-- The proxy refuses every call of a service that an offer has made discovered. -/
theorem offered_unseen : ¬ ∀ config address udpPort tcpPort service instance' actions outputs
    client, Runs.Run step (create config address udpPort tcpPort service instance') actions outputs
      client → client.initialised = true → client.Sees := by
  intro all
  have initialised : step started .initProxy = some ({ started with initialised := true }, []) :=
    rfl
  have offered : step { started with initialised := true } (processed 0x1234) =
      some (ProxyClient.discover { started with initialised := true } (.handle (.offerService
        (.createOfferService 0x1234 0x0001 1 0 3) []) { now := 0, accepted := true }), []) := rfl
  have first : Runs.Run step started [.initProxy] [] { started with initialised := true } :=
    Runs.Guarded.head trivial initialised
  have run := first.snoc trivial offered
  have sees := all {} "10.0.0.1" 30509 none 0x1234 0x0001 _ _ _ run rfl
  have absent := (sees_iff_undiscovered (unlinked_run run)).mp sees
  apply absent
  exact Sd.ServiceDiscovery.offer_discovered _ _ _ _

end ProxyClient
end Msomeip
