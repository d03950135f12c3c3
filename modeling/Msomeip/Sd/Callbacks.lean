import Msomeip.Sd.CallbackLocks
import Msomeip.Sd.LiveOffers

namespace Msomeip.Sd.Callbacks

/-- A handler of the user runs without the mutex of the registry, and no thread waits for a mutex
    that it has itself. -/
structure Unlocked (state : State) : Prop where
  handlers : ∀ thread effect rest, state.todo thread = .deliver effect :: rest →
    callsBack effect = true → state.owner .services ≠ some thread
  acquires : ∀ thread mutex rest, state.todo thread = .lock mutex :: rest →
    state.owner mutex ≠ some thread

/-- A sweep finds no expired service, or no availability handler; a subscription is for a service
    that is not local, or there is no subscription handler. -/
def Work.Quiet (sd : ServiceDiscovery) : Work → Prop
  | .perform (.checkTtlExpiration now) => sd.availabilityHandler = true →
    ∀ info ∈ sd.discoveredServices.values, ServiceDiscovery.expired info now = false
  | .perform (.handle (.subscribeEventgroup entry _) _) => sd.subscriptionHandler = true →
    (entry.serviceId, entry.instanceId) ∉ sd.localServices
  | _ => True

def QuietNext (sd : ServiceDiscovery) : List Event → Prop
  | .work work :: _ => work.Quiet sd
  | _ => True

def Quiet (state : State) : Locks.Action Thread Operation → Prop
  | .call _ _ => True
  | .next thread => QuietNext state.shared (state.todo thread)

/-- None of the effects calls a handler of the user. -/
def Silent (effects : List Effect) : Prop := ∀ effect ∈ effects, callsBack effect = false

theorem silent_nil : Silent [] := by simp [Silent]

theorem silent_send (sd : ServiceDiscovery) (method : MethodId) (entry : ServiceEntry) :
    Silent (sd.send method entry) := by
  rw [ServiceDiscovery.send]
  split
  · simp [Silent, callsBack]
  · exact silent_nil

theorem silent_each {Source : Type} (sources : List Source) (chosen : Source → Prop)
    [DecidablePred chosen] {emit : Source → List Effect} (silent : ∀ source, Silent (emit source)) :
    Silent (sources.flatMap fun source => if chosen source then emit source else []) := by
  intro effect member
  obtain ⟨source, -, emitted⟩ := List.mem_flatMap.mp member
  split at emitted
  · exact silent source effect emitted
  · cases emitted

theorem silent_subscribe {sd : ServiceDiscovery} {entry : ServiceEntry}
    (quiet : sd.subscriptionHandler = true →
      (entry.serviceId, entry.instanceId) ∉ sd.localServices) (options : List SdOption)
    (accepts : Bool) : Silent (sd.handleSubscribeEventgroup entry options accepts).2 := by
  unfold ServiceDiscovery.handleSubscribeEventgroup
  split
  · exact silent_nil
  · rename_i service found
    have unhandled : sd.subscriptionHandler = false := by
      by_contra handled
      have absent := quiet (Bool.not_eq_false _ ▸ handled)
      rw [Std.ExtTreeMap.mem_iff_isSome_getElem?, found] at absent
      exact absent rfl
    simp only [unhandled, Bool.not_false, Bool.true_or, if_true]
    exact silent_send sd _ _

theorem silent_sweep {sd : ServiceDiscovery} {now : TimePoint}
    (quiet : sd.availabilityHandler = true →
      ∀ info ∈ sd.discoveredServices.values, ServiceDiscovery.expired info now = false) :
    Silent (sd.checkTtlExpiration now).2 := by
  simp only [ServiceDiscovery.checkTtlExpiration]
  split
  · rename_i handled
    have none : sd.discoveredServices.values.filter (ServiceDiscovery.expired · now) = [] := by
      apply List.filter_eq_nil_iff.mpr
      intro info member
      simp [quiet handled info member]
    rw [none]
    exact silent_nil
  · exact silent_nil

theorem silent_stopOfferService (sd : ServiceDiscovery) (service : ServiceId)
    (instance' : InstanceId) : Silent (sd.stopOfferService service instance').2 := by
  unfold ServiceDiscovery.stopOfferService
  split
  · exact silent_nil
  · exact silent_send sd _ _

theorem silent_run {sd : ServiceDiscovery} {work : Work} (quiet : work.Quiet sd)
    (needs : work.mutex ≠ none) : Silent (work.run sd).2 := by
  cases work with
  | updateServiceInfo info => exact silent_nil
  | notify entry => exact absurd rfl needs
  | read => exact silent_nil
  | perform action =>
    cases action with
    | handle call moment =>
      cases call with
      | findService entry => exact silent_each _ _ fun info => silent_send sd _ _
      | offerService entry options => exact absurd rfl needs
      | subscribeEventgroup entry options => exact silent_subscribe quiet options moment.accepted
      | subscribeEventgroupAck entry => exact silent_nil
    | offerService config now => exact silent_send sd _ _
    | stopOfferService service instance' => exact silent_stopOfferService sd service instance'
    | findService service instance' now => exact silent_send sd _ _
    | checkTtlExpiration now => exact silent_sweep quiet
    | sendPeriodicOffers => exact silent_each _ _ fun info => silent_send sd _ _
    | retryPendingSubscriptions =>
      exact silent_each _ _ fun sub => silent_send sd _ _
    | _ => exact silent_nil

theorem callback_subscribe {sd : ServiceDiscovery} {entry : ServiceEntry}
    (handled : sd.subscriptionHandler = true)
    (present : (entry.serviceId, entry.instanceId) ∈ sd.localServices) (options : List SdOption)
    (accepts : Bool) : ∃ effect rest,
      (sd.handleSubscribeEventgroup entry options accepts).2 = effect :: rest ∧
        callsBack effect = true := by
  obtain ⟨service, found⟩ := Option.isSome_iff_exists.mp
    (Std.ExtTreeMap.mem_iff_isSome_getElem?.mp present)
  cases accepts with
  | true =>
    simp [ServiceDiscovery.handleSubscribeEventgroup, found, handled, callsBack]
  | false =>
    simp [ServiceDiscovery.handleSubscribeEventgroup, found, handled, callsBack]

theorem callback_sweep {sd : ServiceDiscovery} {now : TimePoint} {info : ServiceInfo}
    (handled : sd.availabilityHandler = true) (stored : info ∈ sd.discoveredServices.values)
    (old : ServiceDiscovery.expired info now = true) : ∃ effect rest,
      (sd.checkTtlExpiration now).2 = effect :: rest ∧ callsBack effect = true := by
  have member : info ∈ sd.discoveredServices.values.filter (ServiceDiscovery.expired · now) :=
    List.mem_filter.mpr ⟨stored, old⟩
  obtain ⟨first, others, same⟩ := List.exists_cons_of_ne_nil (List.ne_nil_of_mem member)
  simp [ServiceDiscovery.checkTtlExpiration, handled, same, callsBack]

/-- A work that is not quiet calls back at once, under the mutex of the registry. -/
theorem callback_first {sd : ServiceDiscovery} {work : Work} (loud : ¬ work.Quiet sd) :
    work.mutex = some .services ∧ ∃ effect rest, (work.run sd).2 = effect :: rest ∧
      callsBack effect = true := by
  unfold Work.Quiet at loud
  split at loud
  · rename_i now
    push Not at loud
    obtain ⟨handled, info, stored, old⟩ := loud
    exact ⟨rfl, callback_sweep handled stored (Bool.not_eq_false _ ▸ old)⟩
  · rename_i entry options moment
    push Not at loud
    obtain ⟨handled, present⟩ := loud
    exact ⟨rfl, callback_subscribe handled present options moment.accepted⟩
  · exact absurd trivial loud

def spared : Set Mutex := {.cv}

theorem disciplined_alone {work : Work} {held : Set Mutex} (within : held ⊆ spared) :
    system.Disciplined spared held (Locks.critical Work.mutex work) held := by
  apply Locks.System.disciplined_critical
  · intro mutex needs member
    obtain rfl : mutex = .cv := within member
    cases work with
    | perform action =>
      change mutexOf action = some .cv at needs
      unfold mutexOf at needs
      split at needs <;> cases needs
    | updateServiceInfo info => cases needs
    | notify entry => cases needs
    | read => cases needs
  · exact fun _ => within

theorem disciplined_eventsOf (action : Action) {held : Set Mutex} (within : held ⊆ spared) :
    system.Disciplined spared held (eventsOf action) held := by
  have invoked : system.Disciplined spared held ((invocation action).map .deliver) held :=
    Locks.System.disciplined_deliver fun _ _ _ => within
  have worked : system.Disciplined spared held
      ((works action).flatMap (Locks.critical Work.mutex)) held :=
    Locks.System.Disciplined.flatMap fun _ _ => disciplined_alone within
  exact invoked.append worked

theorem disciplined_notifyEvent (application : Nat)
    (config : Option (ServiceId × InstanceId × EventgroupId)) {held : Set Mutex}
    (within : held ⊆ spared) :
    system.Disciplined spared held (Operation.notifyEvent application config).events held := by
  apply Locks.System.disciplined_under
  · intro member
    cases within member
  · apply Locks.System.Disciplined.flatMap
    intro _ _
    apply Locks.System.disciplined_critical
    · intro mutex needs
      obtain rfl : Mutex.services = mutex := Option.some.inj needs
      intro member
      rcases member with same | owned
      · cases same
      · cases within owned
    · intro needs
      cases needs

theorem disciplined_reenters {operation : Operation} (allowed : operation.reenters = true)
    {held : Set Mutex} (within : held ⊆ spared) :
    system.Disciplined spared held operation.events held := by
  cases operation with
  | perform action => exact disciplined_eventsOf action within
  | processSdMessage message beyond moments =>
    exact Locks.System.Disciplined.flatMap fun _ _ => disciplined_eventsOf _ within
  | start => exact rfl
  | stop => exact rfl
  | notifyEvent application config => exact disciplined_notifyEvent application config within
  | workerThread now offersDue => cases allowed
  | getDiscoveredServices | getServiceInfo _ _ | getServiceEndpoints _ _ | getSubscribers _ _ _ =>
    have read : system.Disciplined spared held (Locks.critical Work.mutex .read) held :=
      disciplined_alone within
    exact read

theorem disciplined_workerThread (now : TimePoint) (offersDue : Bool) :
    system.Disciplined spared ∅ (Operation.workerThread now offersDue).events ∅ := by
  apply Locks.System.disciplined_under (Set.notMem_empty _)
  apply Locks.System.Disciplined.flatMap
  intro action _
  apply disciplined_eventsOf
  simp [spared]

/-- A handler that is called holding `cv_mutex_` at most can call whatever it likes. -/
theorem keeps_system : system.Keeps spared where
  reentered := fun _ allowed _ within => disciplined_reenters allowed within
  started := by
    intro thread operation allowed
    cases thread with
    | worker =>
      cases operation with
      | workerThread now offersDue => exact disciplined_workerThread now offersDue
      | _ => cases allowed
    | other id => exact disciplined_reenters allowed (Set.empty_subset _)

theorem outside_of_quiet {state : State} {action : Locks.Action Thread Operation}
    (quiet : Quiet state action) : system.Outside state action := by
  cases action with
  | call thread operation => trivial
  | next thread =>
    intro work rest todo needs
    simp only [Quiet, todo, QuietNext] at quiet
    exact silent_run quiet needs

theorem orderly_of_quiet {config : Config} {actions : List (Locks.Action Thread Operation)}
    {effects : List Effect} {state : State}
    (guarded : Runs.Guarded system.step Quiet (create config) actions effects state) :
    system.Orderly spared state :=
  Locks.System.orderly_run keeps_system (guarded.mono fun _ _ => outside_of_quiet)

theorem unlocked_of_orderly {state : State} (orderly : system.Orderly spared state) :
    Unlocked state := by
  constructor
  · intro thread effect rest todo called owned
    have holds : Mutex.services ∈ state.held thread := owned
    cases orderly.callback todo called holds
  · intro thread mutex rest todo
    exact orderly.acquires todo

theorem quiet_of_unlocked {state next : State} {action : Locks.Action Thread Operation}
    {emitted : List Effect} (orderly : system.Orderly spared state)
    (stepped : system.step state action = some (next, emitted)) (unlocked : Unlocked next) :
    Quiet state action := by
  cases action with
  | call thread operation => trivial
  | next thread =>
    change QuietNext state.shared (state.todo thread)
    unfold QuietNext
    split
    · rename_i work rest todo
      by_contra loud
      obtain ⟨needs, effect, others, emits, called⟩ := callback_first loud
      have owned := orderly.works todo needs
      have worked : next = (system.applied work state).continues thread
          ((work.run state.shared).2.map Locks.Event.deliver ++ rest) := by
        simp only [Locks.System.step, todo, Option.some.injEq, Prod.mk.injEq] at stepped
        exact stepped.1.symm
      have waits : next.todo thread =
          .deliver effect :: (others.map Locks.Event.deliver ++ rest) := by
        rw [worked, Locks.State.continues_todo, emits]
        rfl
      apply unlocked.handlers thread effect _ waits called
      rw [worked]
      exact owned
    · trivial

/-- In every run with any number of threads, the handlers of the user run without the mutex of the
    registry and no thread waits for itself, exactly as long as no sweep expires a service with an
    availability handler set and no subscription of a local service meets a subscription
    handler. -/
theorem alwaysUnlocked_iff_quiet {config : Config}
    {actions : List (Locks.Action Thread Operation)} {effects : List Effect} {state : State}
    (run : Runs.Run system.step (create config) actions effects state) :
    Runs.Always system.step (create config) (fun _ _ state => Unlocked state) actions ↔
      Runs.Guarded system.step Quiet (create config) actions effects state := by
  apply Runs.always_iff_guarded _ _ run
  · intro actions effects state guarded
    exact unlocked_of_orderly (orderly_of_quiet guarded)
  · intro actions effects state action next emitted guarded stepped unlocked
    exact quiet_of_unlocked (orderly_of_quiet guarded) stepped unlocked

instance decidableWorkQuiet (sd : ServiceDiscovery) : (work : Work) → Decidable (work.Quiet sd)
  | .perform (.checkTtlExpiration now) => inferInstanceAs (Decidable
      (_ = true → ∀ info ∈ sd.discoveredServices.values, ServiceDiscovery.expired info now = _))
  | .perform (.handle (.subscribeEventgroup entry _) _) => inferInstanceAs (Decidable
      (_ = true → (entry.serviceId, entry.instanceId) ∉ sd.localServices))
  | .perform (.handle (.findService _) _) | .perform (.handle (.offerService _ _) _)
  | .perform (.handle (.subscribeEventgroupAck _) _) | .perform (.init ..)
  | .perform (.setServiceAvailableHandler _) | .perform (.setSubscriptionHandler _)
  | .perform (.setSendMessageCallback _) | .perform (.offerService ..)
  | .perform (.stopOfferService ..) | .perform (.findService ..) | .perform (.stopFindService ..)
  | .perform (.subscribeEventgroup ..) | .perform (.unsubscribeEventgroup ..)
  | .perform (.offerEventgroup ..) | .perform (.stopOfferEventgroup ..)
  | .perform .sendPeriodicOffers | .perform .retryPendingSubscriptions
  | .updateServiceInfo _ | .notify _ | .read => .isTrue trivial

instance decidableQuietNext (sd : ServiceDiscovery) : (events : List Event) →
    Decidable (QuietNext sd events)
  | .work work :: _ => decidableWorkQuiet sd work
  | [] | .lock _ :: _ | .deliver _ :: _ | .unlock _ :: _ => .isTrue trivial

instance decidableQuiet (state : State) : (action : Locks.Action Thread Operation) →
    Decidable (Quiet state action)
  | .call _ _ => .isTrue trivial
  | .next thread => decidableQuietNext state.shared (state.todo thread)

/-- A thread calls an operation and goes on for some steps. -/
def calling (thread : Thread) (operation : Operation) (count : Nat) :
    List (Locks.Action Thread Operation) :=
  .call thread operation :: List.replicate count (.next thread)

def offered : List (Locks.Action Thread Operation) :=
  calling (.other 0) (.perform (.setServiceAvailableHandler true)) 1 ++
    calling (.other 0) (.processSdMessage (ServiceDiscovery.offerWithTtl 3) (fun _ => 0)
      fun _ => { now := 0, accepted := true }) 5

def reentered : List (Locks.Action Thread Operation) :=
  List.flatten [offered, calling (.other 0) (.getServiceInfo 0x1234 0x0001) 3,
    calling (.other 0) (.notifyEvent 1 (some (0x1234, 0x0001, 0x0007))) 6,
    calling .worker (.workerThread 1000000000 true) 11]

/-- The availability handler of an offer asks for the service and notifies an event, and then the
    worker thread finds nothing expired. -/
theorem reentered_unlocked : Runs.Always system.step (create {})
    (fun _ _ state => Unlocked state) reentered := by
  have whole : (Runs.execute system.step Quiet (create {}) reentered).isSome := by
    decide +kernel
  obtain ⟨⟨state, effects⟩, executed⟩ := Option.isSome_iff_exists.mp whole
  have guarded := Runs.guarded_of_execute executed
  exact (alwaysUnlocked_iff_quiet guarded.run).mpr guarded

def awaited : List Event → Option Mutex
  | .lock mutex :: _ => some mutex
  | _ => none

theorem exists_lock {events : List Event} {mutex : Mutex} (waits : awaited events = some mutex) :
    ∃ rest, events = .lock mutex :: rest := by
  unfold awaited at waits
  split at waits
  · rename_i rest
    obtain rfl := Option.some.inj waits
    exact ⟨rest, rfl⟩
  · cases waits

def sweeping : List (Locks.Action Thread Operation) :=
  List.flatten [offered, calling .worker (.workerThread 4000000000 false) 3,
    calling .worker (.getServiceInfo 0x1234 0x0001) 0]

/-- The availability handler of a sweep asks for the service, and the worker thread waits for the
    mutex that it has. -/
theorem sweeping_hangs : ¬ ∀ config actions effects state,
    Runs.Run system.step (create config) actions effects state → Unlocked state := by
  intro all
  have executed : (Runs.execute system.step (fun _ _ => True) (create {}) sweeping).map
      (fun reached => (awaited (reached.1.todo .worker), reached.1.owner .services)) =
        some (some .services, some .worker) := by
    decide +kernel
  obtain ⟨⟨state, effects⟩, found, facts⟩ := Option.map_eq_some_iff.mp executed
  obtain ⟨waits, owned⟩ := Prod.mk.inj facts
  obtain ⟨rest, todo⟩ := exists_lock waits
  have unlocked := all {} sweeping effects state (Runs.guarded_of_execute found)
  exact unlocked.acquires .worker .services rest todo owned

end Msomeip.Sd.Callbacks
