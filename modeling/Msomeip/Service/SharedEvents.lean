import Msomeip.Service.Offers

namespace Msomeip

open EventSource

namespace ServiceSkeleton

/-- The event as the skeleton's own: of its service and its instance. -/
def ownEvent (skeleton : ServiceSkeleton) (config : EventConfig) : EventConfig :=
  { config with serviceId := skeleton.serviceId, instanceId := skeleton.instanceId }

def Own (skeleton : ServiceSkeleton) : Prop :=
  ∀ config ∈ skeleton.registered, skeleton.ownEvent config = config

theorem Own.registerEvent {skeleton : ServiceSkeleton} (own : skeleton.Own) (event : EventId)
    (eventgroup : EventgroupId) : (skeleton.registerEvent event eventgroup).Own := by
  intro config member
  rcases List.mem_append.mp member with inEvents | inFields
  · obtain ⟨key, stored⟩ := Maps.mem_values.mp inEvents
    simp only [ServiceSkeleton.registerEvent, Maps.lookup_insert] at stored
    split at stored
    · obtain rfl := Option.some.inj stored
      rfl
    · exact own config (List.mem_append_left _ (Maps.mem_values.mpr ⟨key, stored⟩))
  · exact own config (List.mem_append_right _ inFields)

theorem Own.registerField {skeleton : ServiceSkeleton} (own : skeleton.Own) (field : FieldId)
    (eventgroup : EventgroupId) (getter : Option PayloadData)
    (setter : Option (PayloadData → Bool)) :
    (skeleton.registerField field eventgroup getter setter).Own := by
  intro config member
  rcases List.mem_append.mp member with inEvents | inFields
  · exact own config (List.mem_append_left _ inEvents)
  · obtain ⟨key, stored⟩ := Maps.mem_values.mp inFields
    simp only [ServiceSkeleton.registerField, Maps.lookup_insert] at stored
    split at stored
    · obtain rfl := Option.some.inj stored
      rfl
    · exact own config (List.mem_append_right _ (Maps.mem_values.mpr ⟨key, stored⟩))

end ServiceSkeleton

namespace EventServices

/-- A notification of an event that a skeleton offers goes out under its own service id, to the
    subscribers of its own service, instance and eventgroup and to nobody else. -/
def Apart (services : EventServices) : Prop :=
  ∀ offer ∈ services.offered, ∃ skeleton, services.skeletons[offer.1]? = some skeleton ∧
    ∀ payload, step services (.notifyEvent offer.1 offer.2.eventId payload) =
      some (services,
        (services.table.serviceDiscovery.getSubscribers skeleton.serviceId skeleton.instanceId
          offer.2.eventgroupId).map
            ((skeleton.ownEvent offer.2).notification offer.2.eventId payload))

/-- No call takes the entry of an event away from a skeleton that offers it. -/
def KeepsEntries (services : EventServices) : Action → Prop
  | .offerEvent index config _ => ∀ offer ∈ services.offered,
      offer.2.eventId = config.eventId → offer.1 = index ∨ offer.2.key = config.key
  | .stopOfferEvent index event => ∀ offer ∈ services.offered,
      offer.2.eventId = event → offer.1 = index
  | .subscribeEvent index event eventgroup _ _ => ∀ proxy ∈ services.proxies[index]?,
      ∀ offer ∈ services.offered, offer.2.eventId = event →
        offer.2.key = (proxy.serviceId, proxy.instanceId, eventgroup)
  | _ => True

instance (services : EventServices) : (action : Action) → Decidable (services.KeepsEntries action)
  | .offerEvent index config _ => inferInstanceAs (Decidable (∀ offer ∈ services.offered,
      offer.2.eventId = config.eventId → offer.1 = index ∨ offer.2.key = config.key))
  | .stopOfferEvent index event => inferInstanceAs (Decidable (∀ offer ∈ services.offered,
      offer.2.eventId = event → offer.1 = index))
  | .subscribeEvent index event eventgroup _ _ =>
    inferInstanceAs (Decidable (∀ proxy ∈ services.proxies[index]?,
      ∀ offer ∈ services.offered, offer.2.eventId = event →
        offer.2.key = (proxy.serviceId, proxy.instanceId, eventgroup)))
  | .constructSkeleton .. | .constructProxy .. | .registerEvent .. | .registerField ..
  | .offerService .. | .stopOfferService .. | .notifyEvent .. | .unsubscribeEvent ..
  | .discovery _ => .isTrue trivial

/-- The entry of every offered event is stored, as that of the skeleton that offers it. -/
structure Stored (services : EventServices) : Prop where
  own : ∀ skeleton ∈ services.skeletons, skeleton.Own
  owner : ∀ offer ∈ services.offered, ∃ skeleton, services.skeletons[offer.1]? = some skeleton ∧
    skeleton.ownEvent offer.2 = offer.2
  entry : ∀ offer ∈ services.offered, ∃ config,
    services.table.eventConfigs[offer.2.eventId]? = some config ∧ config.key = offer.2.key

theorem step_notifyEvent {services : EventServices} {index : Nat} {skeleton : ServiceSkeleton}
    (found : services.skeletons[index]? = some skeleton) (event : EventId) (payload : PayloadData) :
    step services (.notifyEvent index event payload) =
      some (services, services.table.notifyEvent event payload) := by
  simp only [step, found, Option.map_some]
  rfl

theorem Stored.apart {services : EventServices} (stored : services.Stored) : services.Apart := by
  intro offer member
  obtain ⟨skeleton, found, same⟩ := stored.owner offer member
  obtain ⟨config, entry, keyed⟩ := stored.entry offer member
  refine ⟨skeleton, found, ?_⟩
  intro payload
  have sent : services.table.notifyEvent offer.2.eventId payload =
      (services.table.serviceDiscovery.subscribers offer.2.key).map
        (offer.2.notification offer.2.eventId payload) := by
    obtain ⟨service, instance', eventgroup⟩ : config.serviceId = offer.2.serviceId ∧
        config.instanceId = offer.2.instanceId ∧
        config.eventgroupId = offer.2.eventgroupId := by
      simpa [EventConfig.key] using keyed
    rw [notifyEvent_found entry, keyed]
    apply List.map_congr_left
    intro endpoint _
    simp only [EventConfig.notification, service, instance']
  rw [step_notifyEvent found, sent, same]
  have service : skeleton.serviceId = offer.2.serviceId := congrArg EventConfig.serviceId same
  have instance' : skeleton.instanceId = offer.2.instanceId := congrArg EventConfig.instanceId same
  rw [service, instance']
  rfl

theorem Stored.of_same {before after : EventServices} (stored : before.Stored)
    (skeletons : after.skeletons = before.skeletons) (offered : after.offered = before.offered)
    (configs : after.table.eventConfigs = before.table.eventConfigs) : after.Stored := by
  constructor
  · rw [skeletons]
    exact stored.own
  · rw [skeletons, offered]
    exact stored.owner
  · rw [offered, configs]
    exact stored.entry

theorem Stored.constructSkeleton {services : EventServices} (stored : services.Stored)
    (service : ServiceId) (instance' : InstanceId) :
    Stored { services with
      skeletons := services.skeletons ++ [{ serviceId := service, instanceId := instance' }] } := by
  constructor
  · intro skeleton member
    rcases List.mem_append.mp member with old | new
    · exact stored.own skeleton old
    · obtain rfl := List.mem_singleton.mp new
      intro config none
      simp [ServiceSkeleton.registered, Maps.mem_values] at none
  · intro offer member
    obtain ⟨skeleton, found, same⟩ := stored.owner offer member
    have below := (List.getElem?_eq_some_iff.mp found).1
    exact ⟨skeleton, by rwa [List.getElem?_append_left below], same⟩
  · exact stored.entry

theorem Stored.register {services : EventServices} (stored : services.Stored) (index : Nat)
    {change : ServiceSkeleton → ServiceSkeleton}
    (own : ∀ skeleton : ServiceSkeleton, skeleton.Own → (change skeleton).Own)
    (same : ∀ skeleton config,
      (change skeleton).ownEvent config = ServiceSkeleton.ownEvent skeleton config) :
    (services.register index change).Stored := by
  constructor
  · intro skeleton member
    obtain ⟨position, found⟩ := List.mem_iff_getElem?.mp member
    simp only [EventServices.register, List.getElem?_modify] at found
    obtain ⟨former, before, rfl⟩ := Option.map_eq_some_iff.mp found
    have known := stored.own former (List.mem_of_getElem? before)
    split
    · exact own former known
    · exact known
  · intro offer member
    obtain ⟨skeleton, found, mine⟩ := stored.owner offer member
    simp only [EventServices.register, List.getElem?_modify, found]
    refine ⟨_, rfl, ?_⟩
    split
    · rw [same, mine]
    · exact mine
  · exact stored.entry

theorem Stored.offerEvent {services : EventServices} (stored : services.Stored) {index : Nat}
    {config : EventConfig} (indeterminate : MajorVersion) {skeleton : ServiceSkeleton}
    (found : services.skeletons[index]? = some skeleton) (registered : config ∈ skeleton.registered)
    (keeps : services.KeepsEntries (.offerEvent index config indeterminate)) :
    Stored { services with
      table := services.table.offerEvent config indeterminate
      offered := services.withdraw index config.eventId ++ [(index, config)] } := by
  constructor
  · exact stored.own
  · intro offer member
    rcases List.mem_append.mp member with old | new
    · exact stored.owner offer (mem_withdraw.mp old).1
    · obtain rfl := List.mem_singleton.mp new
      exact ⟨skeleton, found, stored.own skeleton (List.mem_of_getElem? found) config registered⟩
  · intro offer member
    change ∃ entry, (services.table.offerEvent config indeterminate).eventConfigs[_]? =
      some entry ∧ _
    rw [EventTable.offerEvent, eventConfigs_offerEvent]
    rcases List.mem_append.mp member with old | new
    · obtain ⟨inside, others⟩ := mem_withdraw.mp old
      by_cases same : config.eventId = offer.2.eventId
      · rw [if_pos same]
        rcases keeps offer inside same.symm with mine | shared
        · exact absurd ⟨mine, same.symm⟩ others
        · exact ⟨config, rfl, shared.symm⟩
      · rw [if_neg same]
        exact stored.entry offer inside
    · obtain rfl := List.mem_singleton.mp new
      exact ⟨config, if_pos rfl, rfl⟩

theorem Stored.stopOfferEvent {services : EventServices} (stored : services.Stored) {index : Nat}
    {event : EventId} (service : ServiceId) (instance' : InstanceId)
    (keeps : services.KeepsEntries (.stopOfferEvent index event)) :
    Stored { services with
      table := services.table.stopOfferEvent service instance' event
      offered := services.withdraw index event } := by
  constructor
  · exact stored.own
  · intro offer member
    exact stored.owner offer (mem_withdraw.mp member).1
  · intro offer member
    obtain ⟨inside, others⟩ := mem_withdraw.mp member
    have differs : event ≠ offer.2.eventId := by
      intro same
      exact others ⟨keeps offer inside same.symm, same.symm⟩
    obtain ⟨config, entry, keyed⟩ := stored.entry offer inside
    refine ⟨config, ?_, keyed⟩
    exact (eventConfigs_stopOfferEvent ..).trans ((if_neg differs).trans entry)

theorem Stored.subscribeEvent {services : EventServices} (stored : services.Stored) {index : Nat}
    {event : EventId} {eventgroup : EventgroupId} {routed : Bool} {now : TimePoint}
    {proxy : ServiceProxy} (found : services.proxies[index]? = some proxy)
    (keeps : services.KeepsEntries (.subscribeEvent index event eventgroup routed now)) :
    Stored { services with
      table := services.table.subscribeEvent proxy.serviceId proxy.instanceId eventgroup event 1
        routed now } := by
  constructor
  · exact stored.own
  · exact stored.owner
  · intro offer member
    simp only [EventTable.subscribeEvent, Maps.lookup_insert]
    by_cases same : event = offer.2.eventId
    · rw [if_pos same]
      exact ⟨_, rfl, (keeps proxy found offer member same.symm).symm⟩
    · rw [if_neg same]
      exact stored.entry offer member

theorem stored_step {services next : EventServices} {action : Action} {calls : List SendCall}
    (stored : services.Stored) (keeps : services.KeepsEntries action)
    (stepped : step services action = some (next, calls)) : next.Stored := by
  cases action with
  | constructSkeleton service instance' =>
    obtain ⟨rfl, -⟩ := Prod.mk.inj (Option.some.inj stepped)
    exact stored.constructSkeleton service instance'
  | constructProxy service instance' =>
    obtain ⟨rfl, -⟩ := Prod.mk.inj (Option.some.inj stepped)
    exact stored.of_same rfl rfl rfl
  | registerEvent index event eventgroup =>
    obtain ⟨rfl, -⟩ := Prod.mk.inj (Option.some.inj stepped)
    exact stored.register index (fun _ own => own.registerEvent event eventgroup) fun _ _ => rfl
  | registerField index field eventgroup getter setter =>
    obtain ⟨rfl, -⟩ := Prod.mk.inj (Option.some.inj stepped)
    exact stored.register index (fun _ own => own.registerField field eventgroup getter setter)
      fun _ _ => rfl
  | offerEvent index config indeterminate =>
    obtain ⟨skeleton, found, offers⟩ := Option.bind_eq_some_iff.mp stepped
    split at offers
    · rename_i registered
      obtain ⟨rfl, -⟩ := Prod.mk.inj (Option.some.inj offers)
      exact stored.offerEvent indeterminate found registered keeps
    · cases offers
  | stopOfferEvent index event =>
    obtain ⟨skeleton, found, stops⟩ := Option.bind_eq_some_iff.mp stepped
    split at stops
    · obtain ⟨rfl, -⟩ := Prod.mk.inj (Option.some.inj stops)
      exact stored.stopOfferEvent skeleton.serviceId skeleton.instanceId keeps
    · cases stops
  | subscribeEvent index event eventgroup routed now =>
    obtain ⟨proxy, found, subscribed⟩ := Option.map_eq_some_iff.mp stepped
    obtain ⟨rfl, -⟩ := Prod.mk.inj subscribed
    exact stored.subscribeEvent found keeps
  | offerService | stopOfferService | notifyEvent | unsubscribeEvent =>
    obtain ⟨_, _, called⟩ := Option.map_eq_some_iff.mp stepped
    obtain ⟨rfl, -⟩ := Prod.mk.inj called
    exact stored.of_same rfl rfl rfl
  | discovery action =>
    obtain ⟨rfl, -⟩ := Prod.mk.inj (Option.some.inj stepped)
    exact stored.of_same rfl rfl rfl

/-- As long as no call takes the entry of an event away from a skeleton that offers it, the
    services of one application keep their events apart. -/
theorem apart_of_keepsEntries {config : Sd.Config} {actions : List Action}
    {calls : List SendCall} {services : EventServices}
    (guarded : Runs.Guarded step KeepsEntries (create config) actions calls services) :
    Runs.Always step (create config) (fun _ _ services => services.Apart) actions := by
  have kept : ∀ actions calls services,
      Runs.Guarded step KeepsEntries (create config) actions calls services → services.Apart := by
    intro actions calls services guarded
    have stored : services.Stored := by
      apply guarded.invariant fun _ _ services => services.Stored
      · constructor <;> simp [create]
      · intro actions calls services action next emitted before keeps stepped
        exact stored_step before keeps stepped
    exact stored.apart
  exact Runs.always_of_guarded kept guarded

def speedService : ServiceSkeleton :=
  ServiceSkeleton.registerEvent { serviceId := 0x1234, instanceId := 0x0001 } 0x0001 0x0007

def doorService (event : EventId) : ServiceSkeleton :=
  ServiceSkeleton.registerEvent { serviceId := 0x5678, instanceId := 0x0001 } event 0x0008

/-- Two services of one application, the second with the given event; a client subscribes to the
    first. -/
def twoServices (event : EventId) : List Action :=
  List.flatten
    [[.constructSkeleton 0x1234 0x0001, .registerEvent 0 0x0001 0x0007,
      .constructSkeleton 0x5678 0x0001, .registerEvent 1 event 0x0008],
    speedService.offer 0 0 0, (doorService event).offer 1 0 0,
    [.discovery (Sd.ServiceDiscovery.subscribing 3 [Sd.ServiceDiscovery.client 1000 .udp]),
      .notifyEvent 0 0x0001 [0x2A]]]

theorem differentEvents_apart : Runs.Always step (create {}) (fun _ _ services => services.Apart)
    (twoServices 0x0002) := by
  have run : ∃ services, Runs.Guarded step KeepsEntries (create {}) (twoServices 0x0002)
      [EventConfig.notification ⟨0x1234, 0x0001, 0x0001, 0x0007⟩ 0x0001 [0x2A]
        ⟨"10.0.0.2", 1000, .udp⟩] services :=
    Runs.exists_guarded (by decide +kernel)
  obtain ⟨services, guarded⟩ := run
  exact apart_of_keepsEntries guarded

theorem sameEvent_mixed : ¬ ∀ config actions calls services,
    Runs.Run step (create config) actions calls services →
      Runs.Always step (create config) (fun _ _ services => services.Apart) actions := by
  intro all
  have runs : (Runs.execute step (fun _ _ => True) (create {}) (twoServices 0x0001)).isSome := by
    decide +kernel
  obtain ⟨⟨services, calls⟩, executed⟩ := Option.isSome_iff_exists.mp runs
  have run := Runs.guarded_of_execute executed
  have apart := all _ _ _ _ run _ (List.prefix_refl _) _ _ run
  have offered : (Runs.execute step (fun _ _ => True) (create {}) (twoServices 0x0001)).map
      (fun reached => reached.1.offered) =
        some [(0, ⟨0x1234, 0x0001, 0x0001, 0x0007⟩), (1, ⟨0x5678, 0x0001, 0x0001, 0x0008⟩)] := by
    decide +kernel
  have owners : (Runs.execute step (fun _ _ => True) (create {}) (twoServices 0x0001)).map
      (fun reached => reached.1.skeletons.map fun skeleton =>
        (skeleton.serviceId, skeleton.instanceId)) =
        some [(0x1234, 0x0001), (0x5678, 0x0001)] := by
    decide +kernel
  have sent : (Runs.execute step (fun _ _ => True) (create {}) (twoServices 0x0001)).map
      (fun reached => (reached.1.table.notifyEvent 0x0001 [0x2A],
        (reached.1.table.serviceDiscovery.getSubscribers 0x1234 0x0001 0x0007).length)) =
        some ([], 1) := by
    decide +kernel
  rw [executed, Option.map_some, Option.some.injEq] at offered owners sent
  have first : ((0, ⟨0x1234, 0x0001, 0x0001, 0x0007⟩) : Nat × EventConfig) ∈ services.offered := by
    rw [offered]
    exact List.mem_cons_self ..
  obtain ⟨skeleton, found, notified⟩ := apart _ first
  have owner := congrArg (fun owners => owners[0]?) owners
  simp only [List.getElem?_map, found, Option.map_some, List.getElem?_cons_zero,
    Option.some.injEq, Prod.mk.injEq] at owner
  have same := (step_notifyEvent found 0x0001 [0x2A]).symm.trans (notified [0x2A])
  have none := (Prod.mk.inj (Option.some.inj same)).2
  rw [owner.1, owner.2, (Prod.mk.inj sent).1] at none
  have length := congrArg List.length none
  rw [List.length_map, (Prod.mk.inj sent).2] at length
  cases length

end EventServices
end Msomeip
