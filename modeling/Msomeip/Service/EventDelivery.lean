import Msomeip.Application.EventTable
import Msomeip.Message.Codec
import Msomeip.Service.Server
import Msomeip.Service.ServiceProxy

namespace Msomeip

open Std

namespace EventSource

/-- The message that `notify_event` builds, for an event that is offered. -/
def notification (source : EventSource) (event : EventId) (payload : PayloadData) :
    Option Message :=
  (source.eventConfigs[event]?).map fun config =>
    (Message.createNotification config.serviceId config.instanceId event).setPayload payload

theorem notifyEvent_notification {source : EventSource} {event : EventId} {payload : PayloadData}
    {call : SendCall} (member : call ∈ source.notifyEvent event payload) :
    source.notification event payload = some call.message := by
  unfold notifyEvent at member
  unfold notification
  cases found : source.eventConfigs[event]? with
  | none =>
    rw [found] at member
    cases member
  | some config =>
    rw [found] at member
    obtain ⟨endpoint, -, rfl⟩ := List.mem_map.mp member
    rfl

theorem eventBit_stays (event : EventId) : (event ||| 0x8000) &&& 0x8000 = 0x8000 := by
  apply UInt16.toBitVec_inj.mp
  rw [UInt16.toBitVec_and, UInt16.toBitVec_or, BitVec.and_or_distrib_right]
  ext bit inside
  simp

/-- What arrives of a notification: the id has the event bit, and the payload is as long as a
    length of 32 bits can say. -/
theorem notification_arrives {source : EventSource} {event : EventId} {payload : PayloadData}
    {message : Message} (built : source.notification event payload = some message) :
    ∃ arrived, Message.deserialize message.serialize = some arrived ∧
      arrived.methodId = event ||| 0x8000 ∧ arrived.isEvent ∧
      arrived.messageType = .notification ∧
      arrived.payloadData = payload.take (payload.length % 2 ^ 32) := by
  obtain ⟨config, -, rfl⟩ := Option.map_eq_some_iff.mp built
  set message := (Message.createNotification config.serviceId config.instanceId event).setPayload
    payload
  have parsed := Message.deserialize_serialize_append message []
  have accepted : message.protocolVersion = someipProtocolVersion ∧
      message.payloadData.length % 2 ^ 32 ≤ (message.payloadData ++ []).length := by
    rw [List.append_nil]
    exact ⟨rfl, Nat.mod_le _ _⟩
  rw [if_pos accepted, List.append_nil, List.append_nil] at parsed
  have marked : message.isEvent := by
    change ((event ||| 0x8000) &&& 0x8000 != 0) = true
    rw [eventBit_stays]
    rfl
  exact ⟨_, parsed, rfl, marked, rfl, rfl⟩

end EventSource

/-- What an application calls for an event: a proxy that subscribed, or a handler of the user. -/
inductive EventCallback (Handler : Type)
  | proxy (index : Nat)
  | other (handler : Handler)
deriving DecidableEq, Repr

structure EventProxy (Handler : Type) extends ServiceProxy where
  eventHandlers : ExtTreeMap EventId (EventgroupId × Option Handler) := ∅

def EventProxy.onEventReceived {Handler : Type} (proxy : EventProxy Handler) (message : Message) :
    List (Handler × Message) :=
  match proxy.eventHandlers[message.methodId]? with
  | some (_, some handler) => [(handler, message)]
  | _ => []

/-- An application, what it knows of events, and the proxies that share it. -/
structure EventClient (Handler : Type) where
  app : Application (EventCallback Handler)
  events : EventTable
  proxies : List (EventProxy Handler) := []

namespace EventClient

variable {Handler : Type}

inductive Effect (Handler : Type)
  | application (effect : Application.Effect (EventCallback Handler))
  | invoked (handler : Handler) (message : Message)
deriving DecidableEq, Repr

inductive Action (Handler : Type)
  | construct (service : ServiceId) (instance' : InstanceId)
  | subscribeEvent (index : Nat) (event : EventId) (eventgroup : EventgroupId)
      (handler : Option Handler) (routed : Bool) (now : TimePoint)
  | unsubscribeEvent (index : Nat) (event : EventId) (eventgroup : EventgroupId)
  | application (action : Application.Action Handler)

def create (clientId : ClientId) (config : Sd.Config) : EventClient Handler :=
  { app := Application.create clientId, events := EventTable.create config }

/-- The proxy's handler is put into its own table, and the proxy into the application's. -/
def subscribeEvent (client : EventClient Handler) (index : Nat) (proxy : EventProxy Handler)
    (event : EventId) (eventgroup : EventgroupId) (handler : Option Handler) (routed : Bool)
    (now : TimePoint) : EventClient Handler :=
  { app := { client.app with
      eventHandlers := client.app.eventHandlers.insert event (some (.proxy index)) }
    events := client.events.subscribeEvent proxy.serviceId proxy.instanceId eventgroup event 1
      routed now
    proxies := client.proxies.set index { proxy with
      eventHandlers := proxy.eventHandlers.insert event (eventgroup, handler) } }

/-- The application keeps the proxy in its table. -/
def unsubscribeEvent (client : EventClient Handler) (index : Nat) (proxy : EventProxy Handler)
    (event : EventId) (eventgroup : EventgroupId) : EventClient Handler :=
  { client with
    events := client.events.unsubscribeEvent proxy.serviceId proxy.instanceId eventgroup
    proxies := client.proxies.set index { proxy with
      eventHandlers := proxy.eventHandlers.erase event } }

def follow (client : EventClient Handler) :
    Application.Effect (EventCallback Handler) → List (Effect Handler)
  | .invoked (.other handler) message => [.invoked handler message]
  | .invoked (.proxy index) message =>
    match client.proxies[index]? with
    | none => []
    | some proxy => (proxy.onEventReceived message).map fun (handler, message) =>
        .invoked handler message
  | effect => [.application effect]

def handleMessage (client : EventClient Handler) (message : Message)
    (network : Application.Network) : EventClient Handler × List (Effect Handler) :=
  let (app, effects) := client.app.handleMessage message network
  ({ client with app := app }, effects.flatMap client.follow)

def step : Runs.Step (EventClient Handler) (Action Handler) (Effect Handler) :=
  fun client action =>
  match action with
  | .construct service instance' =>
    let proxy : EventProxy Handler := { serviceId := service, instanceId := instance' }
    some ({ client with proxies := client.proxies ++ [proxy] }, [])
  | .subscribeEvent index event eventgroup handler routed now =>
    match client.proxies[index]? with
    | none => none
    | some proxy =>
      some (client.subscribeEvent index proxy event eventgroup handler routed now, [])
  | .unsubscribeEvent index event eventgroup =>
    match client.proxies[index]? with
    | none => none
    | some proxy => some (client.unsubscribeEvent index proxy event eventgroup, [])
  | .application (.handleMessage message network) => some (client.handleMessage message network)
  | .application action =>
    (Application.step client.app (action.map .other)).map fun (app, effects) =>
      ({ client with app := app }, effects.flatMap client.follow)

/-- The handler that was set last for an event, and the proxy it was set on, if any. -/
structure Standing (Handler : Type) where
  owner : Option Nat := none
  handler : Option Handler := none
deriving DecidableEq, Repr

/-- To unsubscribe a proxy takes back what was set on that proxy. -/
def Standing.after (event : EventId) (standing : Standing Handler) :
    Action Handler → Standing Handler
  | .application (.setEventHandler set handler) =>
    if set = event then ⟨none, handler⟩ else standing
  | .subscribeEvent index subscribed _ handler _ _ =>
    if subscribed = event then ⟨some index, handler⟩ else standing
  | .unsubscribeEvent index unsubscribed _ =>
    if unsubscribed = event ∧ standing.owner = some index then { standing with handler := none }
    else standing
  | _ => standing

def standing (event : EventId) (actions : List (Action Handler)) : Standing Handler :=
  actions.foldl (Standing.after event) {}

def latestHandler (event : EventId) (actions : List (Action Handler)) : Option Handler :=
  (standing event actions).handler

/-- The tables lead from an id to the handler that stands for it. -/
def Serves (client : EventClient Handler) (event : EventId) (standing : Standing Handler) : Prop :=
  match standing.owner with
  | none => (client.app.eventHandlers[event]?).join = standing.handler.map .other
  | some index => client.app.eventHandlers[event]? = some (some (.proxy index)) ∧
      ∃ proxy, client.proxies[index]? = some proxy ∧
        (proxy.eventHandlers[event]?).bind Prod.snd = standing.handler

theorem Serves.of_app {client next : EventClient Handler} {event : EventId}
    {standing : Standing Handler} (serves : client.Serves event standing)
    (app : next.app.eventHandlers[event]? = client.app.eventHandlers[event]?)
    (proxies : ∀ (index : Nat) (proxy : EventProxy Handler), client.proxies[index]? = some proxy →
      standing.owner = some index → ∃ after, next.proxies[index]? = some after ∧
        after.eventHandlers[event]? = proxy.eventHandlers[event]?) :
    next.Serves event standing := by
  unfold Serves at serves ⊢
  cases owned : standing.owner with
  | none =>
    simp only [owned] at serves ⊢
    rw [app]
    exact serves
  | some index =>
    simp only [owned] at serves ⊢
    obtain ⟨callback, proxy, found, handler⟩ := serves
    obtain ⟨after, there, same⟩ := proxies index proxy found owned
    exact ⟨app.trans callback, after, there, same ▸ handler⟩

theorem exists_set_proxy {proxies : List (EventProxy Handler)} {index other : Nat}
    {proxy after before : EventProxy Handler} {event : EventId}
    (found : proxies[index]? = some proxy) (there : proxies[other]? = some before)
    (same : index = other → after.eventHandlers[event]? = proxy.eventHandlers[event]?) :
    ∃ kept, (proxies.set index after)[other]? = some kept ∧
      kept.eventHandlers[event]? = before.eventHandlers[event]? := by
  obtain ⟨inside, -⟩ := List.getElem?_eq_some_iff.mp found
  rw [List.getElem?_set]
  by_cases own : index = other
  · rw [if_pos own, if_pos inside]
    subst own
    obtain rfl := Option.some.inj (found.symm.trans there)
    exact ⟨after, rfl, same rfl⟩
  · rw [if_neg own]
    exact ⟨before, there, rfl⟩

theorem serves_subscribe {client : EventClient Handler} {event subscribed : EventId}
    {standing : Standing Handler} (serves : client.Serves event standing) {index : Nat}
    {proxy : EventProxy Handler} (found : client.proxies[index]? = some proxy)
    (eventgroup : EventgroupId) (handler : Option Handler) (routed : Bool) (now : TimePoint) :
    (client.subscribeEvent index proxy subscribed eventgroup handler routed now).Serves event
      (standing.after event (.subscribeEvent index subscribed eventgroup handler routed now)) := by
  obtain ⟨inside, -⟩ := List.getElem?_eq_some_iff.mp found
  rw [Standing.after]
  by_cases same : subscribed = event
  · rw [if_pos same]
    subst same
    refine ⟨Std.ExtTreeMap.getElem?_insert_self, { proxy with
      eventHandlers := proxy.eventHandlers.insert subscribed (eventgroup, handler) }, ?_, ?_⟩
    · exact List.getElem?_set_self inside
    · simp
  · rw [if_neg same]
    apply serves.of_app
    · simp only [subscribeEvent, Maps.lookup_insert, same, if_false]
    · intro other before there _
      apply exists_set_proxy found there
      intro _
      simp only [Maps.lookup_insert, same, if_false]

theorem serves_unsubscribe {client : EventClient Handler} {event unsubscribed : EventId}
    {standing : Standing Handler} (serves : client.Serves event standing) {index : Nat}
    {proxy : EventProxy Handler} (found : client.proxies[index]? = some proxy)
    (eventgroup : EventgroupId) :
    (client.unsubscribeEvent index proxy unsubscribed eventgroup).Serves event
      (standing.after event (.unsubscribeEvent index unsubscribed eventgroup)) := by
  obtain ⟨inside, -⟩ := List.getElem?_eq_some_iff.mp found
  rw [Standing.after]
  by_cases taken : unsubscribed = event ∧ standing.owner = some index
  · rw [if_pos taken]
    obtain ⟨rfl, owned⟩ := taken
    unfold Serves at serves ⊢
    simp only [owned] at serves ⊢
    refine ⟨serves.1, { proxy with
      eventHandlers := proxy.eventHandlers.erase unsubscribed }, ?_, ?_⟩
    · exact List.getElem?_set_self inside
    · simp
  · rw [if_neg taken]
    apply serves.of_app
    · rfl
    · intro other before there owned
      apply exists_set_proxy found there
      intro own
      subst own
      have different : ¬ unsubscribed = event := fun same => taken ⟨same, owned⟩
      simp only [Maps.lookup_erase, different, if_false]

theorem serves_application {client next : EventClient Handler} {event : EventId}
    {standing : Standing Handler} (serves : client.Serves event standing)
    {action : Application.Action Handler} {app : Application (EventCallback Handler)}
    {effects : List (Application.Effect (EventCallback Handler))}
    (stepped : Application.step client.app (action.map .other) = some (app, effects))
    (same : next = { client with app := app }) :
    next.Serves event (standing.after event (.application action)) := by
  subst same
  have table := Application.step_eventHandlers stepped
  cases action with
  | setEventHandler set handler =>
    have looked : app.eventHandlers[event]? =
        if set = event then some (handler.map .other) else client.app.eventHandlers[event]? := by
      rw [table]
      exact Maps.lookup_insert ..
    rw [Standing.after]
    by_cases same : set = event
    · rw [if_pos same] at looked ⊢
      change (app.eventHandlers[event]?).join = handler.map .other
      rw [looked]
      rfl
    · rw [if_neg same] at looked ⊢
      exact serves.of_app looked fun index proxy found _ => ⟨proxy, found, rfl⟩
  | _ =>
    exact serves.of_app (congrArg (·[event]?) table) fun index proxy found _ => ⟨proxy, found, rfl⟩

theorem serves_step {client next : EventClient Handler} {event : EventId}
    {standing : Standing Handler} {action : Action Handler} {emitted : List (Effect Handler)}
    (serves : client.Serves event standing)
    (stepped : step client action = some (next, emitted)) :
    next.Serves event (standing.after event action) := by
  cases action with
  | construct service instance' =>
    obtain ⟨rfl, -⟩ := Prod.mk.inj (Option.some.inj stepped)
    apply serves.of_app
    · rfl
    · intro index proxy found _
      have inside := (List.getElem?_eq_some_iff.mp found).1
      exact ⟨proxy, (List.getElem?_append_left inside).trans found, rfl⟩
  | subscribeEvent index subscribed eventgroup handler routed now =>
    simp only [step] at stepped
    split at stepped
    · cases stepped
    · rename_i proxy found
      obtain ⟨rfl, -⟩ := Prod.mk.inj (Option.some.inj stepped)
      exact serves_subscribe serves found eventgroup handler routed now
  | unsubscribeEvent index unsubscribed eventgroup =>
    simp only [step] at stepped
    split at stepped
    · cases stepped
    · rename_i proxy found
      obtain ⟨rfl, -⟩ := Prod.mk.inj (Option.some.inj stepped)
      exact serves_unsubscribe serves found eventgroup
  | application action =>
    cases action with
    | handleMessage message network =>
      obtain ⟨rfl, -⟩ := Prod.mk.inj (Option.some.inj stepped)
      have whole : Application.step client.app
          (Application.Action.map .other (.handleMessage message network)) =
            some (client.app.handleMessage message network) := rfl
      exact serves_application serves whole rfl
    | _ =>
      simp only [step] at stepped
      obtain ⟨⟨app, effects⟩, whole, same⟩ := Option.map_eq_some_iff.mp stepped
      obtain ⟨rfl, -⟩ := Prod.mk.inj same
      exact serves_application serves whole rfl

theorem serves_run {clientId : ClientId} {config : Sd.Config} {actions : List (Action Handler)}
    {effects : List (Effect Handler)} {client : EventClient Handler}
    (run : Runs.Run step (create clientId config) actions effects client) (event : EventId) :
    client.Serves event (standing event actions) := by
  apply run.invariant fun actions _ client => client.Serves event (standing event actions)
  · simp [Serves, standing, create, Application.create]
  · intro actions _ client action next _ serves _ stepped
    rw [standing, List.foldl_append]
    exact serves_step serves stepped

/-- A notification invokes the handler that stands for its id, and nothing else. -/
theorem handleMessage_notification {client : EventClient Handler} {standing : Standing Handler}
    {message : Message} (serves : client.Serves message.methodId standing)
    (kind : message.messageType = .notification) (event : message.isEvent) (network) :
    (client.handleMessage message network).2 = standing.handler.toList.map (.invoked · message) := by
  have request : message.isResponseType = false := by rw [Message.isResponseType, kind]; rfl
  unfold Serves at serves
  simp only [handleMessage, Application.handleMessage, request, event, if_true,
    Bool.false_eq_true, if_false]
  cases owned : standing.owner with
  | none =>
    simp only [owned] at serves
    rcases looked : client.app.eventHandlers[message.methodId]? with _ | _ | callback
    · rw [looked] at serves
      rw [Option.map_eq_none_iff.mp serves.symm]
      rfl
    · rw [looked] at serves
      rw [Option.map_eq_none_iff.mp serves.symm]
      rfl
    · rw [looked] at serves
      obtain ⟨handler, set, rfl⟩ := Option.map_eq_some_iff.mp serves.symm
      rw [set]
      rfl
  | some index =>
    simp only [owned] at serves
    obtain ⟨callback, proxy, found, handler⟩ := serves
    rw [callback, ← handler]
    simp only [List.flatMap_cons, List.flatMap_nil, List.append_nil, follow, found,
      EventProxy.onEventReceived]
    rcases proxy.eventHandlers[message.methodId]? with _ | ⟨eventgroup, _ | stored⟩ <;> rfl

/-- Exactly the expected handler is invoked, if there is one, with the payload that was sent. -/
def Delivered (expected : Option Handler) (payload : PayloadData) (effects : List (Effect Handler)) :
    Prop :=
  match expected with
  | none => effects = []
  | some handler =>
    ∃ message, effects = [.invoked handler message] ∧ message.payloadData = payload

theorem delivered_iff (expected found : Option Handler) (payload : PayloadData)
    (message : Message) :
    Delivered expected payload (found.toList.map (.invoked · message)) ↔
      found = expected ∧ (expected = none ∨ message.payloadData = payload) := by
  rcases found with _ | found <;> rcases expected with _ | expected <;>
    simp [Delivered, and_comm, eq_comm]

theorem taken_whole_iff (payload : PayloadData) :
    payload.take (payload.length % 2 ^ 32) = payload ↔ payload.length < 2 ^ 32 := by
  rw [List.take_eq_self_iff]
  constructor
  · intro whole
    have room : payload.length % 2 ^ 32 < 2 ^ 32 := Nat.mod_lt _ (by decide)
    exact whole.trans_lt room
  · intro short
    rw [Nat.mod_eq_of_lt short]

/-- What `notify_event` builds for an event goes to the handler that stands for the id with the
    event bit. -/
theorem handleMessage_built {clientId : ClientId} {config : Sd.Config}
    {actions : List (Action Handler)} {effects : List (Effect Handler)}
    {client : EventClient Handler}
    (run : Runs.Run step (create clientId config) actions effects client)
    {source : EventSource} {event : EventId} {payload : PayloadData} {message : Message}
    (built : source.notification event payload = some message) (network : Application.Network) :
    ∃ arrived, Message.deserialize message.serialize = some arrived ∧
      arrived.payloadData = payload.take (payload.length % 2 ^ 32) ∧
      (client.handleMessage arrived network).2 =
        (latestHandler (event ||| 0x8000) actions).toList.map (.invoked · arrived) := by
  obtain ⟨arrived, parsed, methodId, marked, kind, carried⟩ :=
    EventSource.notification_arrives built
  have serves := serves_run run arrived.methodId
  have emitted := handleMessage_notification serves kind marked network
  rw [methodId] at emitted
  exact ⟨arrived, parsed, carried, emitted⟩

/-- A notification reaches the handler set for its event exactly where no other one is set for the
    id with the event bit. -/
theorem notification_delivered_iff {clientId : ClientId} {config : Sd.Config}
    {actions : List (Action Handler)} {effects : List (Effect Handler)}
    {client : EventClient Handler}
    (run : Runs.Run step (create clientId config) actions effects client)
    {source : EventSource} {event : EventId} {payload : PayloadData} {message : Message}
    (built : source.notification event payload = some message) (network : Application.Network) :
    (∃ arrived, Message.deserialize message.serialize = some arrived ∧
      Delivered (latestHandler event actions) payload
        (client.handleMessage arrived network).2) ↔
      latestHandler (event ||| 0x8000) actions = latestHandler event actions ∧
        (latestHandler event actions = none ∨ payload.length < 2 ^ 32) := by
  obtain ⟨arrived, parsed, carried, emitted⟩ := handleMessage_built run built network
  have reached := delivered_iff (latestHandler event actions)
    (latestHandler (event ||| 0x8000) actions) payload arrived
  rw [← emitted, carried, taken_whole_iff] at reached
  rw [← reached]
  constructor
  · rintro ⟨other, same, delivered⟩
    obtain rfl := Option.some.inj (parsed.symm.trans same)
    exact delivered
  · intro delivered
    exact ⟨arrived, parsed, delivered⟩

def offering (event : EventId) : EventSource :=
  ({ serviceDiscovery := Sd.ServiceDiscovery.create {} } : EventSource).offerEvent
    ⟨0x1234, 0x0001, event, 0x0007⟩ 1

theorem offering_notification (event : EventId) (payload : PayloadData) :
    (offering event).notification event payload =
      some ((Message.createNotification 0x1234 0x0001 event).setPayload payload) := by
  simp [offering, EventSource.offerEvent, EventSource.notification]

theorem markedEvent_delivered : ∃ effects, ∃ client : EventClient Nat,
    Runs.Run step (create 0x0100 {}) [.construct 0x1234 0x0001,
        .subscribeEvent 0 0x8001 0x0007 (some 5) false 0] effects client ∧
      ∀ network, ∃ arrived,
        Message.deserialize ((Message.createNotification 0x1234 0x0001 0x8001).setPayload
          [0x2A]).serialize = some arrived ∧
        Delivered (some 5) [0x2A] (client.handleMessage arrived network).2 := by
  have run := ((Runs.Guarded.nil.snoc trivial rfl).snoc trivial rfl :
    Runs.Run step (create 0x0100 {}) [.construct 0x1234 0x0001,
      .subscribeEvent 0 0x8001 0x0007 (some 5) false 0] _ _)
  refine ⟨_, _, run, fun network => ?_⟩
  exact (notification_delivered_iff run (offering_notification 0x8001 [0x2A]) network).mpr
    ⟨rfl, .inr (by decide)⟩

theorem plainEvent_dropped : ¬ ∀ (clientId : ClientId) (config : Sd.Config)
    (actions : List (Action Nat)) (effects : List (Effect Nat)) (client : EventClient Nat),
    Runs.Run step (create clientId config) actions effects client →
    ∀ (source : EventSource) (event : EventId) (payload : PayloadData) (message : Message),
      source.notification event payload = some message →
      ∀ network, ∃ arrived, Message.deserialize message.serialize = some arrived ∧
        Delivered (latestHandler event actions) payload
          (client.handleMessage arrived network).2 := by
  intro all
  have run := (Runs.Guarded.nil.snoc trivial rfl :
    Runs.Run step (create 0x0100 {}) [.application (.setEventHandler 0x0001 (some 5))] _ _)
  have built := offering_notification 0x0001 [0x2A]
  let network : Application.Network := ⟨[], fun _ _ => true⟩
  obtain ⟨arrived, parsed, delivered⟩ := all _ _ _ _ _ run _ _ _ _ built network
  obtain ⟨other, same, -, emitted⟩ := handleMessage_built run built network
  obtain rfl := Option.some.inj (parsed.symm.trans same)
  obtain ⟨message, invoked, -⟩ := delivered
  cases emitted.symm.trans invoked

end EventClient
end Msomeip
