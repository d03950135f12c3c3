import Msomeip.Sd.SubscribeRequests
import Msomeip.Service.EventDelivery
import Msomeip.Shm.Commands

namespace Msomeip

/-- A pending record of service discovery, with the event of a proxy whose `subscribe_event` put it
    there, if one did. -/
structure OwnedSubscription where
  owner : Option (Nat × EventId)
  sub : Sd.PendingSubscription
deriving DecidableEq, Repr

namespace OwnedSubscription

def key (owned : OwnedSubscription) : Sd.EventgroupKey := owned.sub.key

/-- What a call on service discovery leaves, where a record it adds is its owner's. -/
def after (owner : Option (Nat × EventId)) (pending : List OwnedSubscription) :
    Sd.Action → List OwnedSubscription
  | .subscribeEventgroup service instance' eventgroup _ now =>
    pending ++
      [{ owner := owner
         sub := { serviceId := service, instanceId := instance', eventgroupId := eventgroup,
                  timestamp := now, retryCount := 0 } }]
  | .unsubscribeEventgroup service instance' eventgroup =>
    pending.filter fun owned => owned.key ≠ (service, instance', eventgroup)
  | .handle (.subscribeEventgroupAck entry) _ =>
    pending.filter fun owned =>
      owned.key ≠ (entry.serviceId, entry.instanceId, entry.eventgroupId)
  | _ => pending

theorem sub_filter {pending : List OwnedSubscription} {subs : List Sd.PendingSubscription}
    (tracks : pending.map sub = subs) (key : Sd.EventgroupKey) :
    (pending.filter fun owned => owned.key ≠ key).map sub =
      subs.filter fun sub => sub.key ≠ key := by
  subst tracks
  have mapped := @List.filter_map _ _ sub (fun sub => decide (sub.key ≠ key)) pending
  exact mapped.symm

theorem sub_after {pending : List OwnedSubscription} {sd : Sd.ServiceDiscovery}
    (tracks : pending.map sub = sd.pendingSubscriptions) (owner : Option (Nat × EventId))
    (action : Sd.Action) :
    (after owner pending action).map sub = (sd.perform action).1.pendingSubscriptions := by
  rw [Sd.ServiceDiscovery.pendingSubscriptions_perform]
  cases action with
  | subscribeEventgroup service instance' eventgroup majorVersion now =>
    rw [after, List.map_append, tracks]
    rfl
  | unsubscribeEventgroup service instance' eventgroup => exact sub_filter tracks _
  | handle call moment =>
    cases call with
    | subscribeEventgroupAck entry => exact sub_filter tracks _
    | _ => exact tracks
  | _ => exact tracks

end OwnedSubscription

namespace EventProxy

variable {Handler : Type}

def key (proxy : EventProxy Handler) (eventgroup : EventgroupId) : Sd.EventgroupKey :=
  (proxy.serviceId, proxy.instanceId, eventgroup)

def subscribeCall (proxy : EventProxy Handler) (eventgroup : EventgroupId) : Shm.Call :=
  .subscribe proxy.serviceId proxy.instanceId eventgroup 1

def unsubscribeCall (proxy : EventProxy Handler) (eventgroup : EventgroupId) : Shm.Call :=
  .unsubscribe proxy.serviceId proxy.instanceId eventgroup

/-- The proxy has a handler for the event, set for the eventgroup. -/
def Listens (proxy : EventProxy Handler) (event : EventId) (eventgroup : EventgroupId) : Prop :=
  ∃ handler, proxy.eventHandlers[event]? = some (eventgroup, some handler)

end EventProxy

/-- A client of events whose pending records know the calls they come from. -/
structure EventSubscriber (Handler : Type) where
  client : EventClient Handler
  pending : List OwnedSubscription
  tracks : pending.map OwnedSubscription.sub =
    client.events.serviceDiscovery.pendingSubscriptions

namespace EventSubscriber

variable {Handler : Type}

inductive Action (Handler : Type)
  | construct (service : ServiceId) (instance' : InstanceId)
  | subscribeEvent (index : Nat) (event : EventId) (eventgroup : EventgroupId)
      (handler : Option Handler) (link : Option Shm.Link) (now : TimePoint)
  | unsubscribeEvent (index : Nat) (event : EventId) (eventgroup : EventgroupId)
      (link : Option Shm.Link)
  | application (action : Application.Action Handler)
  | discovery (action : Sd.Action)

def create (clientId : ClientId) (config : Sd.Config) : EventSubscriber Handler :=
  ⟨.create clientId config, [], rfl⟩

theorem tracks_subscribeEvent (subscriber : EventSubscriber Handler) (owner : Nat × EventId)
    (action : Sd.Action) (routed : Bool) :
    (if routed then subscriber.pending
      else OwnedSubscription.after owner subscriber.pending action).map OwnedSubscription.sub =
    (if routed then subscriber.client.events.serviceDiscovery
      else (subscriber.client.events.serviceDiscovery.perform action).1).pendingSubscriptions := by
  cases routed with
  | true => exact subscriber.tracks
  | false => exact OwnedSubscription.sub_after subscriber.tracks owner action

/-- Service discovery is asked where the agent did not take the command. -/
def subscribeEvent (subscriber : EventSubscriber Handler) (index : Nat)
    (proxy : EventProxy Handler) (event : EventId) (eventgroup : EventgroupId)
    (handler : Option Handler) (link : Option Shm.Link) (now : TimePoint) :
    EventSubscriber Handler :=
  let routed := Shm.accepts link (proxy.subscribeCall eventgroup)
  let asked : Sd.Action := .subscribeEventgroup proxy.serviceId proxy.instanceId eventgroup 1 now
  { client := subscriber.client.subscribeEvent index proxy event eventgroup handler routed now
    pending := if routed then subscriber.pending
      else OwnedSubscription.after (some (index, event)) subscriber.pending asked
    tracks := subscriber.tracks_subscribeEvent (index, event) asked routed }

/-- What the agent answers is not looked at. -/
def unsubscribeEvent (subscriber : EventSubscriber Handler) (index : Nat)
    (proxy : EventProxy Handler) (event : EventId) (eventgroup : EventgroupId) :
    EventSubscriber Handler :=
  let asked : Sd.Action := .unsubscribeEventgroup proxy.serviceId proxy.instanceId eventgroup
  { client := subscriber.client.unsubscribeEvent index proxy event eventgroup
    pending := OwnedSubscription.after none subscriber.pending asked
    tracks := OwnedSubscription.sub_after subscriber.tracks none asked }

theorem step_application_events {client next : EventClient Handler}
    {action : Application.Action Handler} {effects : List (EventClient.Effect Handler)}
    (stepped : EventClient.step client (.application action) = some (next, effects)) :
    next.events = client.events := by
  cases action with
  | handleMessage message network =>
    obtain ⟨rfl, -⟩ := Prod.mk.inj (Option.some.inj stepped)
    rfl
  | _ =>
    simp only [EventClient.step] at stepped
    obtain ⟨_, -, same⟩ := Option.map_eq_some_iff.mp stepped
    obtain ⟨rfl, -⟩ := Prod.mk.inj same
    rfl

theorem tracks_application {subscriber : EventSubscriber Handler} {next : EventClient Handler}
    {action : Application.Action Handler} {effects : List (EventClient.Effect Handler)}
    (stepped : EventClient.step subscriber.client (.application action) = some (next, effects)) :
    subscriber.pending.map OwnedSubscription.sub =
      next.events.serviceDiscovery.pendingSubscriptions := by
  rw [step_application_events stepped]
  exact subscriber.tracks

def construct (subscriber : EventSubscriber Handler) (service : ServiceId)
    (instance' : InstanceId) : EventSubscriber Handler :=
  let proxy : EventProxy Handler := { serviceId := service, instanceId := instance' }
  { subscriber with
    client := { subscriber.client with proxies := subscriber.client.proxies ++ [proxy] } }

def application (subscriber : EventSubscriber Handler) (action : Application.Action Handler) :
    Option (EventSubscriber Handler) :=
  (EventClient.step subscriber.client (.application action)).attach.map fun stepped =>
    ⟨stepped.1.1, subscriber.pending, tracks_application stepped.2⟩

/-- Whatever else service discovery is asked to do, receives, or does by itself. -/
def discovery (subscriber : EventSubscriber Handler) (action : Sd.Action) :
    EventSubscriber Handler :=
  let events := subscriber.client.events
  let sd := (events.serviceDiscovery.perform action).1
  { client := { subscriber.client with events := { events with serviceDiscovery := sd } }
    pending := OwnedSubscription.after none subscriber.pending action
    tracks := OwnedSubscription.sub_after subscriber.tracks none action }

def next (subscriber : EventSubscriber Handler) :
    Action Handler → Option (EventSubscriber Handler)
  | .construct service instance' => some (subscriber.construct service instance')
  | .subscribeEvent index event eventgroup handler link now =>
    (subscriber.client.proxies[index]?).map fun proxy =>
      subscriber.subscribeEvent index proxy event eventgroup handler link now
  | .unsubscribeEvent index event eventgroup _ =>
    (subscriber.client.proxies[index]?).map fun proxy =>
      subscriber.unsubscribeEvent index proxy event eventgroup
  | .application action => subscriber.application action
  | .discovery action => some (subscriber.discovery action)

/-- The commands that a step puts into the shared memory. -/
def commands (subscriber : EventSubscriber Handler) : Action Handler → List Shm.Call
  | .subscribeEvent index _ eventgroup _ link _ =>
    match subscriber.client.proxies[index]? with
    | none => []
    | some proxy => Shm.sent link (proxy.subscribeCall eventgroup)
  | .unsubscribeEvent index _ eventgroup link =>
    match subscriber.client.proxies[index]? with
    | none => []
    | some proxy => Shm.sent link (proxy.unsubscribeCall eventgroup)
  | _ => []

def step : Runs.Step (EventSubscriber Handler) (Action Handler) Shm.Call :=
  fun subscriber action =>
    (subscriber.next action).map fun next => (next, subscriber.commands action)

/-- The pending records that the calls of `subscribe_event` for the event have put there. -/
def requests (subscriber : EventSubscriber Handler) (index : Nat) (event : EventId)
    (key : Sd.EventgroupKey) : List OwnedSubscription :=
  subscriber.pending.filter fun owned => owned.owner = some (index, event) ∧ owned.key = key

/-- To unsubscribe an event takes nothing away from the other events of the eventgroup that have a
    handler: their records stay pending, and the agent is not told to unsubscribe. -/
def OthersKept (before : EventSubscriber Handler) (action : Action Handler)
    (after : EventSubscriber Handler) : Prop :=
  match action with
  | .unsubscribeEvent index event eventgroup _ =>
    ∀ proxy, after.client.proxies[index]? = some proxy →
      ∀ other, other ≠ event → proxy.Listens other eventgroup →
        after.requests index other (proxy.key eventgroup) =
          before.requests index other (proxy.key eventgroup) ∧
        proxy.unsubscribeCall eventgroup ∉ before.commands action
  | _ => True

/-- Where an unsubscribed event shares its eventgroup with others that have a handler, there is
    nothing to take away from them: the agent takes no command, and no pending record is theirs. -/
def Undisturbed (subscriber : EventSubscriber Handler) : Action Handler → Prop
  | .unsubscribeEvent index event eventgroup link =>
    ∀ proxy, subscriber.client.proxies[index]? = some proxy →
      ∀ other, other ≠ event → proxy.Listens other eventgroup →
        (∀ shared ∈ link, ¬ shared.Open) ∧
          ∀ owned ∈ subscriber.pending, owned.owner = some (index, other) →
            owned.key ≠ proxy.key eventgroup
  | _ => True

/-- To unsubscribe takes every record of the eventgroup away, whosever it is, and no other one. -/
theorem requests_unsubscribeEvent (subscriber : EventSubscriber Handler) (index owner : Nat)
    (proxy : EventProxy Handler) (event other : EventId) (eventgroup : EventgroupId)
    (key : Sd.EventgroupKey) :
    (subscriber.unsubscribeEvent index proxy event eventgroup).requests owner other key =
      if key = proxy.key eventgroup then [] else subscriber.requests owner other key := by
  have left : (subscriber.unsubscribeEvent index proxy event eventgroup).pending =
      subscriber.pending.filter fun owned => owned.key ≠ proxy.key eventgroup := rfl
  rw [requests, left, List.filter_filter]
  by_cases same : key = proxy.key eventgroup
  · rw [if_pos same, List.filter_eq_nil_iff]
    intro owned _
    simp [same]
  · rw [if_neg same, requests]
    apply List.filter_congr
    intro owned _
    by_cases keyed : owned.key = key
    · simp [keyed, same]
    · simp [keyed]

theorem requests_eq_nil {subscriber : EventSubscriber Handler} {index : Nat} {event : EventId}
    {key : Sd.EventgroupKey} : subscriber.requests index event key = [] ↔
      ∀ owned ∈ subscriber.pending, owned.owner = some (index, event) → owned.key ≠ key := by
  simp [requests, List.filter_eq_nil_iff]

theorem proxies_unsubscribeEvent {subscriber : EventSubscriber Handler} {index : Nat}
    {proxy : EventProxy Handler} (found : subscriber.client.proxies[index]? = some proxy)
    (event : EventId) (eventgroup : EventgroupId) :
    (subscriber.unsubscribeEvent index proxy event eventgroup).client.proxies[index]? =
      some { proxy with eventHandlers := proxy.eventHandlers.erase event } :=
  List.getElem?_set_self (List.getElem?_eq_some_iff.mp found).1

theorem listens_erase (proxy : EventProxy Handler) {event other : EventId}
    (different : other ≠ event) (eventgroup : EventgroupId) :
    EventProxy.Listens { proxy with eventHandlers := proxy.eventHandlers.erase event } other
      eventgroup ↔ proxy.Listens other eventgroup := by
  unfold EventProxy.Listens
  simp only [Maps.lookup_erase, different.symm, if_false]

theorem commands_unsubscribeEvent {subscriber : EventSubscriber Handler} {index : Nat}
    {proxy : EventProxy Handler} (found : subscriber.client.proxies[index]? = some proxy)
    (event : EventId) (eventgroup : EventgroupId) (link : Option Shm.Link) :
    subscriber.commands (.unsubscribeEvent index event eventgroup link) =
      Shm.sent link (proxy.unsubscribeCall eventgroup) := by
  simp only [commands, found]

theorem othersKept_iff {before after : EventSubscriber Handler} {action : Action Handler}
    (moved : before.next action = some after) :
    before.OthersKept action after ↔ before.Undisturbed action := by
  cases action with
  | unsubscribeEvent index event eventgroup link =>
    obtain ⟨proxy, found, rfl⟩ := Option.map_eq_some_iff.mp moved
    have erased := proxies_unsubscribeEvent found event eventgroup
    have taken (other : EventId) := requests_unsubscribeEvent before index index proxy event other
      eventgroup (proxy.key eventgroup)
    simp only [if_true] at taken
    have told : proxy.unsubscribeCall eventgroup ∉
        before.commands (.unsubscribeEvent index event eventgroup link) ↔
          ∀ shared ∈ link, ¬ shared.Open := by
      rw [commands_unsubscribeEvent found, Shm.mem_sent, not_exists]
      simp only [not_and]
    constructor
    · intro kept _ same other different listens
      obtain rfl := Option.some.inj (found.symm.trans same)
      obtain ⟨requests, silent⟩ := kept _ erased other different
        ((listens_erase proxy different eventgroup).mpr listens)
      exact ⟨told.mp silent, requests_eq_nil.mp (requests.symm.trans (taken other))⟩
    · intro undisturbed _ same other different listens
      obtain rfl := Option.some.inj (erased.symm.trans same)
      obtain ⟨closed, absent⟩ := undisturbed proxy found other different
        ((listens_erase proxy different eventgroup).mp listens)
      exact ⟨(taken other).trans (requests_eq_nil.mpr absent).symm, told.mpr closed⟩
  | _ => exact Iff.rfl

/-- Along a run, the other events of an eventgroup keep their subscriptions exactly as long as
    there is nothing to take away from them. -/
theorem unsubscribeEvent_keepsOthers_iff {clientId : ClientId} {config : Sd.Config}
    {actions : List (Action Handler)} {calls : List Shm.Call}
    {subscriber : EventSubscriber Handler}
    (run : Runs.Run step (create clientId config) actions calls subscriber) :
    Runs.EachStep step (create clientId config) OthersKept actions ↔
      Runs.Guarded step Undisturbed (create clientId config) actions calls subscriber := by
  apply Runs.eachStep_iff_guarded _ run
  intro _ _ before action after _ _ stepped
  obtain ⟨_, moved, same⟩ := Option.map_eq_some_iff.mp stepped
  obtain ⟨rfl, -⟩ := Prod.mk.inj same
  exact othersKept_iff moved

/-- Two events of one eventgroup are subscribed, and the first one is taken back. -/
def twoEvents (between : List (Action Nat)) : List (Action Nat) :=
  [.construct 0x1234 0x0001, .subscribeEvent 0 0x8001 0x0007 (some 5) none 0,
    .subscribeEvent 0 0x8002 0x0007 (some 6) none 0] ++ between ++
  [.unsubscribeEvent 0 0x8001 0x0007 none]

def acknowledged : List (Action Nat) :=
  [.discovery (.handle (.subscribeEventgroupAck
    (Sd.ServiceEntry.createSubscribeEventgroupAck 0x1234 0x0001 0x0007 1 3)) ⟨1, true⟩)]

theorem acknowledged_kept : ∃ calls subscriber,
    Runs.Run step (create 0x0100 {}) (twoEvents acknowledged) calls subscriber ∧
      Runs.EachStep step (create 0x0100 {}) OthersKept (twoEvents acknowledged) := by
  have guarded := (((((Runs.Guarded.nil.snoc trivial rfl).snoc trivial rfl).snoc trivial rfl).snoc
    trivial rfl).snoc (fun _ _ _ _ _ => ⟨nofun, nofun⟩) rfl :
    Runs.Guarded step Undisturbed (create 0x0100 {}) (twoEvents acknowledged) _ _)
  exact ⟨_, _, guarded.run, (unsubscribeEvent_keepsOthers_iff guarded.run).mpr guarded⟩

theorem pending_dropped : ¬ ∀ clientId config actions calls subscriber,
    Runs.Run step (create clientId config : EventSubscriber Nat) actions calls subscriber →
      Runs.EachStep step (create clientId config) OthersKept actions := by
  intro all
  have run := ((((Runs.Guarded.nil.snoc trivial rfl).snoc trivial rfl).snoc trivial rfl) :
    Runs.Run step (create 0x0100 {}) ((twoEvents []).take 3) _ _)
  have whole := (run.snoc trivial rfl : Runs.Run step (create 0x0100 {}) (twoEvents []) _ _)
  have kept := all _ _ _ _ _ whole _ _ (List.prefix_refl _) _ _ _ _ run rfl
  have undisturbed := (othersKept_iff (by rfl)).mp kept
  obtain ⟨-, absent⟩ := undisturbed _ rfl 0x8002 (by decide) ⟨6, rfl⟩
  exact absent ⟨some (0, 0x8002), ⟨0x1234, 0x0001, 0x0007, 0, 0⟩⟩ (by decide) rfl rfl

end EventSubscriber
end Msomeip
