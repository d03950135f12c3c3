import Msomeip.Application.EventTable
import Msomeip.Service.ServiceProxy
import Msomeip.Service.ServiceSkeleton

namespace Msomeip

namespace ServiceSkeleton

def serviceConfig (skeleton : ServiceSkeleton) : ServiceConfig :=
  { serviceId := skeleton.serviceId, instanceId := skeleton.instanceId, majorVersion := 1,
    minorVersion := 0, unreliable := true, reliable := false }

/-- The events and the fields that `offer` goes through. -/
def registered (skeleton : ServiceSkeleton) : List EventConfig :=
  skeleton.events.values ++ skeleton.fields.values

end ServiceSkeleton

/-- The skeletons and the proxies that share an application, and the events that each skeleton
    offers: those it has offered and not stopped since. -/
structure EventServices where
  table : EventTable
  skeletons : List ServiceSkeleton := []
  proxies : List ServiceProxy := []
  offered : List (Nat × EventConfig) := []

namespace EventServices

/-- Every call of a skeleton or a proxy on its application is an action of its own, so that the
    calls of different threads may come between those of one `offer` or `stop_offer`. -/
inductive Action
  | constructSkeleton (service : ServiceId) (instance' : InstanceId)
  | constructProxy (service : ServiceId) (instance' : InstanceId)
  | registerEvent (index : Nat) (event : EventId) (eventgroup : EventgroupId)
  | registerField (index : Nat) (field : FieldId) (eventgroup : EventgroupId)
      (getter : Option PayloadData) (setter : Option (PayloadData → Bool))
  | offerService (index : Nat) (now : TimePoint)
  | offerEvent (index : Nat) (config : EventConfig) (indeterminate : MajorVersion)
  | stopOfferService (index : Nat)
  | stopOfferEvent (index : Nat) (event : EventId)
  | notifyEvent (index : Nat) (event : EventId) (payload : PayloadData)
  | subscribeEvent (index : Nat) (event : EventId) (eventgroup : EventgroupId) (routed : Bool)
      (now : TimePoint)
  | unsubscribeEvent (index : Nat) (event : EventId) (eventgroup : EventgroupId)
  | discovery (action : Sd.Action)

def create (config : Sd.Config) : EventServices := { table := EventTable.create config }

def isOffer (index : Nat) (event : EventId) (offer : Nat × EventConfig) : Bool :=
  offer.1 == index && offer.2.eventId == event

def withdraw (services : EventServices) (index : Nat) (event : EventId) :
    List (Nat × EventConfig) :=
  services.offered.filter fun offer => !isOffer index event offer

def apply (services : EventServices) (action : EventTable.Action) :
    EventServices × List SendCall :=
  ({ services with table := (services.table.perform action).1 }, (services.table.perform action).2)

def register (services : EventServices) (index : Nat)
    (change : ServiceSkeleton → ServiceSkeleton) : EventServices :=
  { services with skeletons := services.skeletons.modify index change }

/-- What an action does, of a skeleton or a proxy where it is one of theirs; there is no such step
    for an event that the skeleton has not registered. -/
def step : Runs.Step EventServices Action SendCall := fun services action =>
  match action with
  | .constructSkeleton service instance' =>
    let skeleton : ServiceSkeleton := { serviceId := service, instanceId := instance' }
    some ({ services with skeletons := services.skeletons ++ [skeleton] }, [])
  | .constructProxy service instance' =>
    let proxy : ServiceProxy := { serviceId := service, instanceId := instance' }
    some ({ services with proxies := services.proxies ++ [proxy] }, [])
  | .registerEvent index event eventgroup =>
    some (services.register index fun skeleton => skeleton.registerEvent event eventgroup, [])
  | .registerField index field eventgroup getter setter =>
    some (services.register index fun skeleton =>
      skeleton.registerField field eventgroup getter setter, [])
  | .offerService index now =>
    services.skeletons[index]?.map fun skeleton =>
      services.apply (.discovery (.offerService skeleton.serviceConfig now))
  | .offerEvent index config indeterminate =>
    services.skeletons[index]?.bind fun skeleton =>
      if config ∈ skeleton.registered then
        let (next, calls) := services.apply (.offerEvent config indeterminate)
        some ({ next with
          offered := services.withdraw index config.eventId ++ [(index, config)] }, calls)
      else none
  | .stopOfferService index =>
    services.skeletons[index]?.map fun skeleton =>
      services.apply (.discovery (.stopOfferService skeleton.serviceId skeleton.instanceId))
  | .stopOfferEvent index event =>
    services.skeletons[index]?.bind fun skeleton =>
      if event ∈ skeleton.events ∨ event ∈ skeleton.fields then
        let (next, calls) :=
          services.apply (.stopOfferEvent skeleton.serviceId skeleton.instanceId event)
        some ({ next with offered := services.withdraw index event }, calls)
      else none
  | .notifyEvent index event payload =>
    services.skeletons[index]?.map fun _ => services.apply (.notifyEvent event payload)
  | .subscribeEvent index event eventgroup routed now =>
    services.proxies[index]?.map fun proxy =>
      services.apply
        (.subscribeEvent proxy.serviceId proxy.instanceId eventgroup event 1 routed now)
  | .unsubscribeEvent index _ eventgroup =>
    services.proxies[index]?.map fun proxy =>
      services.apply (.unsubscribeEvent proxy.serviceId proxy.instanceId eventgroup)
  | .discovery action => some (services.apply (.discovery action))

end EventServices

namespace ServiceSkeleton

/-- `offer`, as the calls it makes. -/
def offer (skeleton : ServiceSkeleton) (index : Nat) (now : TimePoint)
    (indeterminate : MajorVersion) : List EventServices.Action :=
  .offerService index now ::
    skeleton.registered.map fun config => .offerEvent index config indeterminate

def stopOffer (skeleton : ServiceSkeleton) (index : Nat) : List EventServices.Action :=
  .stopOfferService index ::
    (skeleton.events.keys ++ skeleton.fields.keys).map fun event => .stopOfferEvent index event

end ServiceSkeleton

namespace EventServices

def Offers (services : EventServices) (index : Nat) (event : EventId) : Prop :=
  ∃ offer ∈ services.offered, offer.1 = index ∧ offer.2.eventId = event

theorem mem_withdraw {services : EventServices} {index : Nat} {event : EventId}
    {offer : Nat × EventConfig} : offer ∈ services.withdraw index event ↔
      offer ∈ services.offered ∧ ¬ (offer.1 = index ∧ offer.2.eventId = event) := by
  simp [withdraw, isOffer, List.mem_filter, imp_iff_not_or]

theorem offers_withdraw {services : EventServices} {index : Nat} {event other : EventId} :
    (∃ offer ∈ services.withdraw index event, offer.1 = index ∧ offer.2.eventId = other) ↔
      services.Offers index other ∧ other ≠ event := by
  constructor
  · intro found
    obtain ⟨offer, kept, mine, rfl⟩ := found
    obtain ⟨member, differs⟩ := mem_withdraw.mp kept
    exact ⟨⟨offer, member, mine, rfl⟩, fun same => differs ⟨mine, same⟩⟩
  · intro found
    obtain ⟨⟨offer, member, mine, rfl⟩, differs⟩ := found
    have kept : offer ∈ services.withdraw index event :=
      mem_withdraw.mpr ⟨member, fun both => differs both.2⟩
    exact ⟨offer, kept, mine, rfl⟩

theorem offerEvents_run {services : EventServices} {index : Nat} {skeleton : ServiceSkeleton}
    (found : services.skeletons[index]? = some skeleton) (indeterminate : MajorVersion)
    (configs : List EventConfig) (registered : ∀ config ∈ configs, config ∈ skeleton.registered) :
    ∃ calls next, Runs.Run step services
        (configs.map fun config => .offerEvent index config indeterminate) calls next ∧
      next.skeletons = services.skeletons ∧
      ∀ event, next.Offers index event ↔
        services.Offers index event ∨ ∃ config ∈ configs, config.eventId = event := by
  induction configs generalizing services with
  | nil => exact ⟨[], services, .nil, rfl, by simp⟩
  | cons config configs ih =>
    obtain ⟨known, others⟩ := List.forall_mem_cons.mp registered
    let middle : EventServices := { services with
      table := services.table.offerEvent config indeterminate
      offered := services.withdraw index config.eventId ++ [(index, config)] }
    have stepped : step services (.offerEvent index config indeterminate) = some (middle, []) := by
      simp only [step, found, Option.bind_some, if_pos known]
      rfl
    have offers : ∀ event, middle.Offers index event ↔
        services.Offers index event ∨ config.eventId = event := by
      intro event
      have added : middle.Offers index event ↔
          (services.Offers index event ∧ event ≠ config.eventId) ∨ config.eventId = event := by
        simp only [Offers, middle, List.mem_append, or_and_right, exists_or, List.mem_singleton,
          exists_eq_left, true_and]
        exact or_congr_left offers_withdraw
      rw [added]
      by_cases same : config.eventId = event
      · simp [same]
      · simp [same, Ne.symm same]
    obtain ⟨calls, next, run, skeletons, after⟩ := @ih middle found others
    refine ⟨_, next, (Runs.Guarded.head trivial stepped).append run, skeletons, ?_⟩
    intro event
    rw [after, offers, List.exists_mem_cons_iff, or_assoc]

/-- `offer` can always be called, and then the skeleton offers everything it registered. -/
theorem offer_run {services : EventServices} {index : Nat} {skeleton : ServiceSkeleton}
    (found : services.skeletons[index]? = some skeleton) (now : TimePoint)
    (indeterminate : MajorVersion) : ∃ calls next,
      Runs.Run step services (skeleton.offer index now indeterminate) calls next ∧
        next.skeletons = services.skeletons ∧
        ∀ config ∈ skeleton.registered, next.Offers index config.eventId := by
  let middle := (services.apply (.discovery (.offerService skeleton.serviceConfig now))).1
  have stepped : step services (.offerService index now) = some (middle, []) := by
    simp only [step, found, Option.map_some]
    rfl
  obtain ⟨calls, next, run, skeletons, after⟩ :=
    @offerEvents_run middle index skeleton found indeterminate skeleton.registered fun _ known => known
  refine ⟨_, next, (Runs.Guarded.head trivial stepped).append run, skeletons, ?_⟩
  intro config registered
  exact (after _).mpr (.inr ⟨config, registered, rfl⟩)

theorem stopEvents_run {services : EventServices} {index : Nat} {skeleton : ServiceSkeleton}
    (found : services.skeletons[index]? = some skeleton) (events : List EventId)
    (registered : ∀ event ∈ events, event ∈ skeleton.events ∨ event ∈ skeleton.fields) :
    ∃ calls next, Runs.Run step services (events.map fun event => .stopOfferEvent index event)
        calls next ∧
      ∀ event, next.Offers index event ↔ services.Offers index event ∧ event ∉ events := by
  induction events generalizing services with
  | nil => exact ⟨[], services, .nil, by simp⟩
  | cons event events ih =>
    obtain ⟨known, others⟩ := List.forall_mem_cons.mp registered
    let middle : EventServices := { services with
      table := services.table.stopOfferEvent skeleton.serviceId skeleton.instanceId event
      offered := services.withdraw index event }
    have stepped : step services (.stopOfferEvent index event) = some (middle, []) := by
      simp only [step, found, Option.bind_some, if_pos known]
      rfl
    have offers : ∀ other, middle.Offers index other ↔
        services.Offers index other ∧ other ≠ event := by
      intro other
      exact offers_withdraw
    obtain ⟨calls, next, run, after⟩ := @ih middle found others
    refine ⟨_, next, (Runs.Guarded.head trivial stepped).append run, ?_⟩
    intro other
    rw [after, offers, List.mem_cons, not_or, and_assoc]

/-- `stop_offer` can always be called, and then the skeleton offers nothing that it registered. -/
theorem stopOffer_run {services : EventServices} {index : Nat} {skeleton : ServiceSkeleton}
    (found : services.skeletons[index]? = some skeleton) : ∃ calls next,
      Runs.Run step services (skeleton.stopOffer index) calls next ∧
        ∀ event, event ∈ skeleton.events ∨ event ∈ skeleton.fields →
          ¬ next.Offers index event := by
  let middle := (services.apply
    (.discovery (.stopOfferService skeleton.serviceId skeleton.instanceId))).1
  have stepped : step services (.stopOfferService index) = some (middle, []) := by
    simp only [step, found, Option.map_some]
    rfl
  have listed : ∀ event, event ∈ skeleton.events.keys ++ skeleton.fields.keys ↔
      event ∈ skeleton.events ∨ event ∈ skeleton.fields := by
    intro event
    rw [List.mem_append, Std.ExtTreeMap.mem_keys, Std.ExtTreeMap.mem_keys]
  obtain ⟨calls, next, run, after⟩ := @stopEvents_run middle index skeleton found
    (skeleton.events.keys ++ skeleton.fields.keys) fun event => (listed event).mp
  refine ⟨_, next, (Runs.Guarded.head trivial stepped).append run, ?_⟩
  intro event registered offers
  exact ((after event).mp offers).2 ((listed event).mpr registered)

end EventServices
end Msomeip
