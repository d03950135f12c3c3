import Msomeip.Library.Signals
import Msomeip.Sd.Actions

namespace Msomeip.Sd

abbrev ServiceKey := ServiceId × InstanceId

def ServiceInfo.key (info : ServiceInfo) : ServiceKey := (info.serviceId, info.instanceId)

/-- A `ServiceDiscovery` with its availability handler set, and the services whose offers have
    been stored and not yet notified: one entry for each call of `handle_offer_service` that has
    still to call the handler. -/
structure Notifying where
  sd : ServiceDiscovery
  pending : List ServiceKey := []

namespace Notifying

def create (config : Config) : Notifying :=
  { sd := { ServiceDiscovery.create config with availabilityHandler := true } }

inductive Action
  | storeOffer (entry : ServiceEntry) (options : List SdOption) (now : TimePoint)
  | notifyOffer (key : ServiceKey)
  | checkTtlExpiration (now : TimePoint)

def notification : Effect → Option (Signal ServiceKey)
  | .available service instance' isAvailable => some ⟨(service, instance'), isAvailable⟩
  | .invoked _ | .sent .. | .asked _ => none

def offerKey (entry : ServiceEntry) : ServiceKey := (entry.serviceId, entry.instanceId)

/-- `handle_offer_service` up to `update_service_info`, and its call of the handler; the sweep
    calls the handler under the lock. -/
def step : Runs.Step Notifying Action (Signal ServiceKey) := fun view action =>
  match action with
  | .storeOffer entry options now =>
    some ({ sd := view.sd.updateServiceInfo (ServiceDiscovery.offeredInfo entry options now)
            pending := if view.sd.availabilityHandler && entry.ttl > 0 then
              view.pending ++ [offerKey entry] else view.pending }, [])
  | .notifyOffer key =>
    if key ∈ view.pending then some ({ view with pending := view.pending.erase key }, [⟨key, true⟩])
    else none
  | .checkTtlExpiration now =>
    some ({ view with sd := (view.sd.checkTtlExpiration now).1 },
      (view.sd.checkTtlExpiration now).2.filterMap notification)

/-- An offer whose handler is called at once is what `handle_offer_service` does. -/
theorem handleOfferService_run (sd : ServiceDiscovery) (entry : ServiceEntry)
    (options : List SdOption) (now : TimePoint) :
    Runs.Run step { sd := sd }
      (.storeOffer entry options now ::
        if sd.availabilityHandler && entry.ttl > 0 then [.notifyOffer (offerKey entry)] else [])
      ((sd.handleOfferService entry options now).2.filterMap notification)
      { sd := (sd.handleOfferService entry options now).1 } := by
  cases notifies : sd.availabilityHandler && entry.ttl > 0 with
  | false =>
    have stored : step { sd := sd } (.storeOffer entry options now) =
        some ({ sd := (sd.handleOfferService entry options now).1 }, []) := by
      simp only [step, notifies]
      rfl
    simp only [ServiceDiscovery.handleOfferService, notifies]
    exact Runs.Guarded.head trivial stored
  | true =>
    have stored : step { sd := sd } (.storeOffer entry options now) =
        some ({ sd := (sd.handleOfferService entry options now).1
                pending := [offerKey entry] }, []) := by
      simp only [step, notifies]
      rfl
    have notified : step { sd := (sd.handleOfferService entry options now).1
                           pending := [offerKey entry] } (.notifyOffer (offerKey entry)) =
        some ({ sd := (sd.handleOfferService entry options now).1 },
          [⟨offerKey entry, true⟩]) := by
      simp [step]
    simp only [ServiceDiscovery.handleOfferService, notifies]
    exact (Runs.Guarded.head trivial stored).append (Runs.Guarded.head trivial notified)

/-- Where no offer is being processed, the last notification for a service says whether it is
    discovered; and none says that a service has gone that was not there. -/
def Agrees (notifications : List (Signal ServiceKey)) (view : Notifying) : Prop :=
  (view.pending = [] → ∀ key,
    Signal.last key notifications = some true ↔ key ∈ view.sd.discoveredServices) ∧
      Signal.Grounded notifications

/-- An offer with TTL 0 is stored only for a discovered service, and no service expires between
    the storing of an offer and its notification. -/
def Timely (view : Notifying) : Action → Prop
  | .storeOffer entry _ _ => entry.ttl = 0 → offerKey entry ∈ view.sd.discoveredServices
  | .notifyOffer _ => True
  | .checkTtlExpiration now => ∀ key ∈ view.pending, ∀ info ∈ view.sd.discoveredServices[key]?,
      ServiceDiscovery.expired info now = false

/-- The handler of a stored service has been called, or is about to be. -/
structure Matched (notifications : List (Signal ServiceKey)) (view : Notifying) : Prop where
  handler : view.sd.availabilityHandler = true
  keyed : ∀ (key : ServiceKey) (info : ServiceInfo),
    view.sd.discoveredServices[key]? = some info → info.key = key
  told : ∀ key ∈ view.sd.discoveredServices,
    Signal.last key notifications = some true ∨ key ∈ view.pending
  live : ∀ key, Signal.last key notifications = some true → key ∈ view.sd.discoveredServices
  waiting : ∀ key ∈ view.pending, key ∈ view.sd.discoveredServices
  grounded : Signal.Grounded notifications

theorem Matched.agrees {notifications : List (Signal ServiceKey)} {view : Notifying}
    (matched : Matched notifications view) : Agrees notifications view := by
  apply And.intro _ matched.grounded
  intro idle key
  constructor
  · exact matched.live key
  · intro discovered
    rcases matched.told key discovered with told | awaited
    · exact told
    · rw [idle] at awaited
      cases awaited

theorem mem_updateServiceInfo {sd : ServiceDiscovery} {info : ServiceInfo} {key : ServiceKey} :
    key ∈ (sd.updateServiceInfo info).discoveredServices ↔
      info.key = key ∨ key ∈ sd.discoveredServices := by
  simp [ServiceDiscovery.updateServiceInfo, ServiceInfo.key, Std.ExtTreeMap.mem_insert]

theorem Matched.storeOffer {notifications : List (Signal ServiceKey)} {view : Notifying}
    (matched : Matched notifications view) {entry : ServiceEntry} {options : List SdOption}
    {now : TimePoint} (timely : view.Timely (.storeOffer entry options now)) :
    Matched notifications
      { sd := view.sd.updateServiceInfo (ServiceDiscovery.offeredInfo entry options now)
        pending := if view.sd.availabilityHandler && entry.ttl > 0 then
          view.pending ++ [offerKey entry] else view.pending } := by
  have handled := matched.handler
  have subset : ∀ key ∈ view.pending, key ∈
      (if view.sd.availabilityHandler && entry.ttl > 0 then view.pending ++ [offerKey entry]
        else view.pending) := by
    intro key member
    split
    · exact List.mem_append_left _ member
    · exact member
  constructor
  · exact handled
  · intro key info found
    simp only [ServiceDiscovery.updateServiceInfo, Maps.lookup_insert] at found
    split at found
    · rename_i same
      obtain rfl := Option.some.inj found
      exact same
    · exact matched.keyed key info found
  · intro key discovered
    have before : key ∈ view.sd.discoveredServices →
        Signal.last key notifications = some true ∨ key ∈
          (if view.sd.availabilityHandler && entry.ttl > 0 then view.pending ++ [offerKey entry]
            else view.pending) := by
      intro known
      exact (matched.told key known).imp_right (subset key)
    rcases mem_updateServiceInfo.mp discovered with rfl | known
    · by_cases zero : entry.ttl = 0
      · exact before (timely zero)
      · have positive : entry.ttl > 0 := UInt32.pos_iff_ne_zero.mpr zero
        simp only [handled, positive]
        exact .inr (List.mem_append_right _ (List.mem_singleton_self _))
    · exact before known
  · intro key told
    exact mem_updateServiceInfo.mpr (.inr (matched.live key told))
  · intro key awaited
    apply mem_updateServiceInfo.mpr
    split at awaited
    · rcases List.mem_append.mp awaited with old | new
      · exact .inr (matched.waiting key old)
      · exact .inl (List.mem_singleton.mp new).symm
    · exact .inr (matched.waiting key awaited)
  · exact matched.grounded

theorem Matched.notifyOffer {notifications : List (Signal ServiceKey)} {view : Notifying}
    (matched : Matched notifications view) {key : ServiceKey} (awaited : key ∈ view.pending) :
    Matched (notifications ++ [⟨key, true⟩]) { view with pending := view.pending.erase key } := by
  constructor
  · exact matched.handler
  · exact matched.keyed
  · intro other discovered
    rw [Signal.last_snoc]
    by_cases same : key = other
    · exact .inl (if_pos same)
    · rw [if_neg same]
      exact (matched.told other discovered).imp_right fun member =>
        (List.mem_erase_of_ne (Ne.symm same)).mpr member
  · intro other told
    rw [Signal.last_snoc] at told
    split at told
    · rename_i same
      exact same ▸ matched.waiting key awaited
    · exact matched.live other told
  · intro other member
    exact matched.waiting other (List.mem_of_mem_erase member)
  · exact matched.grounded.snoc fun down => absurd down (by simp)

/-- The services that a sweep takes away. -/
def expiring (sd : ServiceDiscovery) (now : TimePoint) : List ServiceKey :=
  (sd.discoveredServices.values.filter (ServiceDiscovery.expired · now)).map ServiceInfo.key

theorem notifications_checkTtlExpiration {sd : ServiceDiscovery}
    (handler : sd.availabilityHandler = true) (now : TimePoint) :
    (sd.checkTtlExpiration now).2.filterMap notification =
      (expiring sd now).map Signal.down := by
  simp only [ServiceDiscovery.checkTtlExpiration, handler, if_true, List.filterMap_map, expiring,
    List.map_map]
  exact congrFun List.filterMap_eq_map _

theorem discovered_checkTtlExpiration (sd : ServiceDiscovery) (now : TimePoint)
    (key : ServiceKey) : (sd.checkTtlExpiration now).1.discoveredServices[key]? =
      sd.discoveredServices[key]?.filter fun info => !ServiceDiscovery.expired info now :=
  Std.ExtTreeMap.getElem?_filter'

theorem Matched.mem_expiring {notifications : List (Signal ServiceKey)} {view : Notifying}
    (matched : Matched notifications view) {now : TimePoint} {key : ServiceKey} :
    key ∈ expiring view.sd now ↔ ∃ info, view.sd.discoveredServices[key]? = some info ∧
      ServiceDiscovery.expired info now = true := by
  simp only [expiring, List.mem_map, List.mem_filter, Maps.mem_values]
  constructor
  · intro member
    obtain ⟨info, ⟨⟨stored, found⟩, old⟩, rfl⟩ := member
    obtain rfl := matched.keyed stored info found
    exact ⟨info, found, old⟩
  · intro member
    obtain ⟨info, found, old⟩ := member
    exact ⟨info, ⟨⟨key, found⟩, old⟩, matched.keyed key info found⟩

theorem Matched.mem_checkTtlExpiration {notifications : List (Signal ServiceKey)}
    {view : Notifying} (matched : Matched notifications view) {now : TimePoint}
    {key : ServiceKey} : key ∈ (view.sd.checkTtlExpiration now).1.discoveredServices ↔
      key ∈ view.sd.discoveredServices ∧ key ∉ expiring view.sd now := by
  rw [matched.mem_expiring, Std.ExtTreeMap.mem_iff_isSome_getElem?,
    Std.ExtTreeMap.mem_iff_isSome_getElem?, discovered_checkTtlExpiration]
  cases view.sd.discoveredServices[key]? with
  | none => simp
  | some info => simp [Option.filter_some]

theorem Matched.checkTtlExpiration {notifications : List (Signal ServiceKey)} {view : Notifying}
    (matched : Matched notifications view) {now : TimePoint}
    (timely : view.Timely (.checkTtlExpiration now)) :
    Matched (notifications ++ (view.sd.checkTtlExpiration now).2.filterMap notification)
      { view with sd := (view.sd.checkTtlExpiration now).1 } := by
  rw [notifications_checkTtlExpiration matched.handler]
  have known : ∀ key ∈ expiring view.sd now, key ∈ view.sd.discoveredServices := by
    intro key member
    obtain ⟨info, found, -⟩ := matched.mem_expiring.mp member
    exact Std.ExtTreeMap.mem_iff_isSome_getElem?.mpr (Option.isSome_of_eq_some found)
  have spared : ∀ key ∈ view.pending, key ∉ expiring view.sd now := by
    intro key awaited member
    obtain ⟨info, found, old⟩ := matched.mem_expiring.mp member
    rw [timely key awaited info found] at old
    cases old
  constructor
  · exact matched.handler
  · intro key info found
    rw [discovered_checkTtlExpiration] at found
    exact matched.keyed key info (Option.eq_some_of_filter_eq_some found)
  · intro key discovered
    obtain ⟨before, stays⟩ := matched.mem_checkTtlExpiration.mp discovered
    rw [Signal.last_downs, if_neg stays]
    exact matched.told key before
  · intro key told
    rw [Signal.last_downs] at told
    split at told
    · cases told
    · rename_i stays
      exact matched.mem_checkTtlExpiration.mpr ⟨matched.live key told, stays⟩
  · intro key awaited
    exact matched.mem_checkTtlExpiration.mpr ⟨matched.waiting key awaited, spared key awaited⟩
  · apply matched.grounded.downs
    · have distinct := Maps.nodup_values matched.keyed
      exact distinct.sublist (List.Sublist.map _ List.filter_sublist)
    · intro key member
      rcases matched.told key (known key member) with told | awaited
      · exact told
      · exact absurd member (spared key awaited)

theorem matched_step {notifications emitted : List (Signal ServiceKey)} {view next : Notifying}
    {action : Action} (matched : Matched notifications view) (timely : view.Timely action)
    (stepped : step view action = some (next, emitted)) :
    Matched (notifications ++ emitted) next := by
  cases action with
  | storeOffer entry options now =>
    obtain ⟨rfl, rfl⟩ := Prod.mk.inj (Option.some.inj stepped)
    rw [List.append_nil]
    exact matched.storeOffer timely
  | notifyOffer key =>
    simp only [step] at stepped
    split at stepped
    · rename_i awaited
      obtain ⟨rfl, rfl⟩ := Prod.mk.inj (Option.some.inj stepped)
      exact matched.notifyOffer awaited
    · cases stepped
  | checkTtlExpiration now =>
    obtain ⟨rfl, rfl⟩ := Prod.mk.inj (Option.some.inj stepped)
    exact matched.checkTtlExpiration timely

/-- Notifications and discovery agree along every run in which TTL 0 is offered only for
    discovered services and no service expires while its notification is outstanding. -/
theorem agrees_of_timely {config : Config} {actions : List Action}
    {notifications : List (Signal ServiceKey)} {view : Notifying}
    (guarded : Runs.Guarded step Timely (create config) actions notifications view) :
    Runs.Always step (create config) (fun _ notifications view => Agrees notifications view)
      actions := by
  have kept : ∀ actions notifications view,
      Runs.Guarded step Timely (create config) actions notifications view →
        Agrees notifications view := by
    intro actions notifications view guarded
    have matched : Matched notifications view := by
      apply guarded.invariant fun _ notifications view => Matched notifications view
      · constructor <;>
          simp [create, ServiceDiscovery.create, Signal.last, Signal.Grounded, Runs.latest]
      · intro actions notifications view action next emitted before timely stepped
        exact matched_step before timely stepped
    exact matched.agrees
  exact Runs.always_of_guarded kept guarded

instance (view : Notifying) : (action : Action) → Decidable (view.Timely action)
  | .storeOffer entry _ _ => inferInstanceAs (Decidable (entry.ttl = 0 → _ ∈ _))
  | .notifyOffer _ => .isTrue trivial
  | .checkTtlExpiration now => List.decidableBAll
      (fun key => ∀ info ∈ view.sd.discoveredServices[key]?,
        ServiceDiscovery.expired info now = false) view.pending

def offer (ttl : UInt32) (now : TimePoint) : Action :=
  .storeOffer (.createOfferService 0x1234 0x0001 1 0 ttl) [] now

def stopped : List Action :=
  [offer 3 0, .notifyOffer (0x1234, 0x0001), .checkTtlExpiration 1000000000, offer 0 2000000000,
    .checkTtlExpiration 9000000000]

theorem stopped_agrees : Runs.Always step (create {})
    (fun _ notifications view => Agrees notifications view) stopped := by
  have run : ∃ view, Runs.Guarded step Timely (create {}) stopped
      [⟨(0x1234, 0x0001), true⟩, ⟨(0x1234, 0x0001), false⟩] view :=
    Runs.exists_guarded (by decide +kernel)
  obtain ⟨view, guarded⟩ := run
  exact agrees_of_timely guarded

/-- A stop offer for an unknown service makes it discovered, and nobody is told. -/
theorem unknownStopped_disagrees : ¬ ∀ config actions notifications view,
    Runs.Run step (create config) actions notifications view → Agrees notifications view := by
  intro all
  have stepped : step (create {}) (offer 0 0) =
      some ({ sd := (create {}).sd.updateServiceInfo
                (ServiceDiscovery.offeredInfo (.createOfferService 0x1234 0x0001 1 0 0) [] 0) },
        []) := rfl
  have agrees := all _ _ _ _ (Runs.Guarded.head trivial stepped)
  have told := (agrees.1 rfl (0x1234, 0x0001)).mpr (mem_updateServiceInfo.mpr (.inl rfl))
  cases told

end Notifying
end Msomeip.Sd
