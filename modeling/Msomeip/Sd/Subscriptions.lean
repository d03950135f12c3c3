import Msomeip.Library.Distinct
import Msomeip.Sd.Actions

namespace Msomeip.Sd

abbrev EventgroupKey := ServiceId × InstanceId × EventgroupId

/-- What can happen to subscriptions: a SUBSCRIBE_EVENTGROUP entry is handled, the list of an
    eventgroup is dropped, an offered service is withdrawn. -/
inductive Record
  | subscribe (key : EventgroupKey) (ttl : UInt32) (endpoints : List Endpoint) (accepted : Bool)
  | reset (key : EventgroupKey)
  | withdrawn (service : ServiceId) (instance' : InstanceId)
deriving DecidableEq, Repr

namespace Record

/-- The endpoints of the accepted entries for the key, since its list was dropped last. -/
def collect (key : EventgroupKey) (endpoints : List Endpoint) : Record → List Endpoint
  | .subscribe other _ arrived true => if other = key then endpoints ++ arrived else endpoints
  | .reset other => if other = key then [] else endpoints
  | .subscribe _ _ _ false | .withdrawn .. => endpoints

def arrivals (key : EventgroupKey) (records : List Record) : List Endpoint :=
  records.foldl (collect key) []

theorem arrivals_append (key : EventgroupKey) (records later : List Record) :
    arrivals key (records ++ later) = later.foldl (collect key) (arrivals key records) :=
  List.foldl_append

/-- What the record does to the stored list. -/
def store (key : EventgroupKey) (subscribers : List Endpoint) : Record → List Endpoint
  | .subscribe other _ arrived true =>
    if other = key then arrived.foldl ServiceDiscovery.addSubscriber subscribers else subscribers
  | .reset other => if other = key then [] else subscribers
  | .subscribe _ _ _ false | .withdrawn .. => subscribers

theorem store_eraseDups (key : EventgroupKey) (endpoints : List Endpoint) (record : Record) :
    record.store key endpoints.eraseDups = (record.collect key endpoints).eraseDups := by
  cases record with
  | subscribe other ttl arrived accepted =>
    cases accepted with
    | false => rfl
    | true =>
      simp only [store, collect]
      split
      · exact Distinct.foldl_add endpoints arrived
      · rfl
  | reset other =>
    simp only [store, collect]
    split
    · rfl
    · rfl
  | withdrawn service instance' => rfl

theorem foldl_store (key : EventgroupKey) (endpoints : List Endpoint) (records : List Record) :
    records.foldl (store key) endpoints.eraseDups =
      (records.foldl (collect key) endpoints).eraseDups := by
  induction records generalizing endpoints with
  | nil => rfl
  | cons record records ih => rw [List.foldl_cons, store_eraseDups, ih, List.foldl_cons]

end Record

namespace ServiceDiscovery

def subscribers (sd : ServiceDiscovery) (key : EventgroupKey) : List Endpoint :=
  sd.getSubscribers key.1 key.2.1 key.2.2

def accepts (sd : ServiceDiscovery) (entry : ServiceEntry) (moment : Moment) : Bool :=
  (sd.localServices[(entry.serviceId, entry.instanceId)]?).isSome &&
    (!sd.subscriptionHandler || moment.accepted)

def noted (sd : ServiceDiscovery) : Action → List Record
  | .handle (.subscribeEventgroup entry options) moment =>
    [.subscribe (entry.serviceId, entry.instanceId, entry.eventgroupId) entry.ttl
      (options.filterMap SdOption.endpoint) (sd.accepts entry moment)]
  | .offerEventgroup service instance' eventgroup _ _ => [.reset (service, instance', eventgroup)]
  | .stopOfferEventgroup service instance' eventgroup =>
    [.reset (service, instance', eventgroup)]
  | .stopOfferService service instance' =>
    if (sd.localServices[(service, instance')]?).isSome then [.withdrawn service instance'] else []
  | _ => []

/-- The operations, with what they mean for subscriptions noted instead of their effects. -/
def journal : Runs.Step ServiceDiscovery Action Record := Runs.observed step noted

/-- Every run of a `ServiceDiscovery` has its journal. -/
theorem exists_journal {config : Config} {actions : List Action} {effects : List Effect}
    {sd : ServiceDiscovery} (run : Runs.Run step (create config) actions effects sd) :
    ∃ records, Runs.Run journal (create config) actions records sd :=
  Runs.exists_observed noted run

theorem journal_some {sd next : ServiceDiscovery} {action : Action} {records : List Record}
    (stepped : journal sd action = some (next, records)) :
    next = (sd.perform action).1 ∧ records = sd.noted action := by
  obtain ⟨rfl, rfl⟩ := Prod.mk.inj (Option.some.inj stepped)
  exact ⟨rfl, rfl⟩

theorem subscribers_eq (sd : ServiceDiscovery) (key : EventgroupKey) :
    sd.subscribers key = (sd.eventgroups[key]?.getD {}).subscribers := by
  unfold subscribers getSubscribers
  cases sd.eventgroups[key]? <;> rfl

theorem subscribers_addSubscribers (sd : ServiceDiscovery) (subscription : SubscriptionInfo)
    (key : EventgroupKey) : (sd.addSubscribers subscription).subscribers key =
      if (subscription.serviceId, subscription.instanceId, subscription.eventgroupId) = key then
        subscription.endpoints.foldl addSubscriber (sd.subscribers key)
      else sd.subscribers key := by
  rw [subscribers_eq, subscribers_eq, addSubscribers, Maps.lookup_insert]
  split
  · rename_i same
    subst same
    rfl
  · rfl

theorem subscribers_handleSubscribeEventgroup (sd : ServiceDiscovery) (entry : ServiceEntry)
    (options : List SdOption) (moment : Moment) (key : EventgroupKey) :
    (sd.handleSubscribeEventgroup entry options moment.accepted).1.subscribers key =
      (Record.subscribe (entry.serviceId, entry.instanceId, entry.eventgroupId) entry.ttl
        (options.filterMap SdOption.endpoint) (sd.accepts entry moment)).store key
          (sd.subscribers key) := by
  unfold handleSubscribeEventgroup accepts
  cases sd.localServices[(entry.serviceId, entry.instanceId)]? with
  | none => rfl
  | some service =>
    simp only [Option.isSome_some, Bool.true_and]
    cases !sd.subscriptionHandler || moment.accepted with
    | false => rfl
    | true => exact sd.subscribers_addSubscribers _ key

/-- The noted records say all that a step does to the lists of subscribers. -/
theorem subscribers_perform (sd : ServiceDiscovery) (action : Action) (key : EventgroupKey) :
    (sd.perform action).1.subscribers key =
      (sd.noted action).foldl (Record.store key) (sd.subscribers key) := by
  cases action with
  | offerEventgroup service instance' eventgroup endpoints indeterminate =>
    rw [subscribers_eq, subscribers_eq]
    simp only [perform, offerEventgroup, Maps.lookup_insert, noted, List.foldl_cons,
      List.foldl_nil, Record.store]
    split <;> rfl
  | stopOfferEventgroup service instance' eventgroup =>
    rw [subscribers_eq, subscribers_eq]
    simp only [perform, stopOfferEventgroup, Maps.lookup_erase, noted, List.foldl_cons,
      List.foldl_nil, Record.store]
    split <;> rfl
  | stopOfferService service instance' =>
    simp only [perform, stopOfferService, noted]
    cases sd.localServices[(service, instance')]? <;> rfl
  | handle call moment =>
    cases call with
    | subscribeEventgroup entry options =>
      exact sd.subscribers_handleSubscribeEventgroup entry options moment key
    | _ => rfl
  | _ => rfl

theorem subscribers_run {config : Config} {actions : List Action} {records : List Record}
    {sd : ServiceDiscovery} (run : Runs.Run journal (create config) actions records sd)
    (key : EventgroupKey) : sd.subscribers key = (Record.arrivals key records).eraseDups := by
  apply run.invariant fun _ records sd => sd.subscribers key = (Record.arrivals key records).eraseDups
  · rw [subscribers_eq]
    rfl
  · intro actions records sd action next emitted listed _ stepped
    obtain ⟨rfl, rfl⟩ := journal_some stepped
    rw [subscribers_perform, listed, Record.foldl_store, Record.arrivals_append]

def temperatureConfig : ServiceConfig :=
  { serviceId := 0x1234, instanceId := 0x0001, majorVersion := 1, minorVersion := 0, ttl := 3,
    reliable := false, unreliable := true, unreliablePort := 30509 }

def client (port : UInt16) (protocol : IpProtocol) : SdOption :=
  .ipv4Endpoint ⟨⟨10, 0, 0, 2⟩, port, protocol⟩

def subscribing (ttl : UInt32) (options : List SdOption) : Action :=
  .handle (.subscribeEventgroup (.createSubscribeEventgroup 0x1234 0x0001 0x0007 1 ttl) options)
    ⟨0, true⟩

end ServiceDiscovery
end Msomeip.Sd
