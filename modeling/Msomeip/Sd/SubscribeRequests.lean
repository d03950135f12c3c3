import Msomeip.Sd.SentEntries

namespace Msomeip.Sd

/-- A call of `subscribe_eventgroup` that has been neither acknowledged nor unsubscribed: what was
    asked, how many entries have been sent on its behalf, and how many ticks of the worker have
    found it while there was a callback to send with. -/
structure Request where
  serviceId : ServiceId
  instanceId : InstanceId
  eventgroupId : EventgroupId
  majorVersion : MajorVersion
  sent : Nat := 0
  ticks : Nat := 0
deriving DecidableEq, Repr

def Request.key (request : Request) : EventgroupKey :=
  (request.serviceId, request.instanceId, request.eventgroupId)

structure Request.Asked (request : Request) (entry : ServiceEntry) : Prop where
  serviceId : entry.serviceId = request.serviceId
  instanceId : entry.instanceId = request.instanceId
  eventgroupId : entry.eventgroupId = request.eventgroupId
  majorVersion : entry.majorVersion = request.majorVersion

def PendingSubscription.key (sub : PendingSubscription) : EventgroupKey :=
  (sub.serviceId, sub.instanceId, sub.eventgroupId)

namespace ServiceDiscovery

def subscribeEntry (sd : ServiceDiscovery) (sub : PendingSubscription) : ServiceEntry :=
  .createSubscribeEventgroup sub.serviceId sub.instanceId sub.eventgroupId (sd.tableVersion sub.key)
    (UInt32.ofInt (sd.config.ttlFactorSubscriptions.tdiv 1000))

def retry (sd : ServiceDiscovery) (sub : PendingSubscription) : List Effect :=
  if sub.retryCount < sd.config.repetitionMax then sd.sendSubscribeEventgroup sub else []

theorem retryPendingSubscriptions_eq (sd : ServiceDiscovery) :
    sd.retryPendingSubscriptions = sd.pendingSubscriptions.flatMap sd.retry := rfl

theorem sendSubscribeEventgroup_eq (sd : ServiceDiscovery) (sub : PendingSubscription) :
    sd.sendSubscribeEventgroup sub =
      sd.send someipSdMethodSubscribeEventgroup (sd.subscribeEntry sub) := rfl

/-- A tick finds the subscriptions and has something to send with. -/
def Ticks (sd : ServiceDiscovery) : Action → Prop
  | .retryPendingSubscriptions => sd.sendMessageCallback = true
  | _ => False

theorem isFor_eq (sub : PendingSubscription) (service : ServiceId) (instance' : InstanceId)
    (eventgroup : EventgroupId) :
    (!PendingSubscription.isFor sub service instance' eventgroup) =
      decide (sub.key ≠ (service, instance', eventgroup)) := by
  unfold PendingSubscription.isFor PendingSubscription.key
  simp only [ne_eq, Prod.mk.injEq, Bool.and_assoc]
  by_cases first : sub.serviceId = service <;> by_cases second : sub.instanceId = instance' <;>
    by_cases third : sub.eventgroupId = eventgroup <;> simp [first, second, third]

def pendingAfter (sd : ServiceDiscovery) : Action → List PendingSubscription
  | .subscribeEventgroup service instance' eventgroup _ now =>
    sd.pendingSubscriptions ++
      [{ serviceId := service, instanceId := instance', eventgroupId := eventgroup,
         timestamp := now, retryCount := 0 }]
  | .unsubscribeEventgroup service instance' eventgroup =>
    sd.pendingSubscriptions.filter fun sub => sub.key ≠ (service, instance', eventgroup)
  | .handle (.subscribeEventgroupAck entry) _ =>
    sd.pendingSubscriptions.filter fun sub =>
      sub.key ≠ (entry.serviceId, entry.instanceId, entry.eventgroupId)
  | _ => sd.pendingSubscriptions

theorem pendingSubscriptions_perform (sd : ServiceDiscovery) (action : Action) :
    (sd.perform action).1.pendingSubscriptions = sd.pendingAfter action := by
  cases action with
  | unsubscribeEventgroup service instance' eventgroup =>
    exact List.filter_congr fun sub _ => isFor_eq sub service instance' eventgroup
  | stopOfferService service instance' =>
    change (sd.stopOfferService service instance').1.pendingSubscriptions = _
    unfold stopOfferService
    split <;> rfl
  | handle call moment =>
    cases call with
    | subscribeEventgroup entry options =>
      have frame := congrArg pendingSubscriptions
        (sd.handleSubscribeEventgroup_frame entry options moment.accepted)
      exact frame
    | subscribeEventgroupAck entry => exact List.filter_congr fun sub _ => isFor_eq sub _ _ _
    | _ => rfl
  | _ => rfl

end ServiceDiscovery

/-- A `ServiceDiscovery`, and the calls of `subscribe_eventgroup` that wait for an answer. -/
structure Subscriber where
  sd : ServiceDiscovery
  requests : List Request := []

namespace Subscriber

/-- What is sent for a pending record is sent on behalf of the call that put it there. -/
def charge (sd : ServiceDiscovery) (request : Request) (sub : PendingSubscription) : Request :=
  { request with
    sent := request.sent + (sd.retry sub).length
    ticks := request.ticks + if sd.sendMessageCallback then 1 else 0 }

def waiting (subscriber : Subscriber) : Action → List Request
  | .subscribeEventgroup service instance' eventgroup majorVersion _ =>
    subscriber.requests ++
      [{ serviceId := service, instanceId := instance', eventgroupId := eventgroup,
         majorVersion := majorVersion }]
  | .unsubscribeEventgroup service instance' eventgroup =>
    subscriber.requests.filter fun request => request.key ≠ (service, instance', eventgroup)
  | .handle (.subscribeEventgroupAck entry) _ =>
    subscriber.requests.filter fun request =>
      request.key ≠ (entry.serviceId, entry.instanceId, entry.eventgroupId)
  | .retryPendingSubscriptions =>
    List.zipWith (charge subscriber.sd) subscriber.requests subscriber.sd.pendingSubscriptions
  | _ => subscriber.requests

def perform (subscriber : Subscriber) (action : Action) : Subscriber :=
  ⟨(subscriber.sd.perform action).1, subscriber.waiting action⟩

def step : Runs.Step Subscriber Action Effect := fun subscriber action =>
  some (subscriber.perform action, (subscriber.sd.perform action).2)

def start (config : Config) : Subscriber := ⟨.create config, []⟩

theorem step_some {subscriber next : Subscriber} {action : Action} {emitted : List Effect}
    (stepped : step subscriber action = some (next, emitted)) :
    next = subscriber.perform action := (Prod.mk.inj (Option.some.inj stepped)).1.symm

/-- Every run of a `ServiceDiscovery` is one of its calls that wait. -/
theorem exists_run {config : Config} {actions : List Action} {effects : List Effect}
    {sd : ServiceDiscovery}
    (run : Runs.Run ServiceDiscovery.step (.create config) actions effects sd) :
    ∃ requests, Runs.Run step (start config) actions effects ⟨sd, requests⟩ := by
  induction run with
  | nil => exact ⟨[], .nil⟩
  | @snoc _ _ _ sd next action _ _ stepped ih =>
    obtain ⟨requests, before⟩ := ih
    obtain ⟨rfl, rfl⟩ := ServiceDiscovery.step_some stepped
    exact ⟨_, before.snoc True.intro rfl⟩

/-- The pending records are those of the calls that wait, in order, and none has been counted
    up. -/
structure Tracks (subscriber : Subscriber) : Prop where
  keys : subscriber.requests.map Request.key =
    subscriber.sd.pendingSubscriptions.map PendingSubscription.key
  uncounted : ∀ sub ∈ subscriber.sd.pendingSubscriptions, sub.retryCount = 0

theorem Tracks.filter {requests : List Request} {pending : List PendingSubscription}
    (keys : requests.map Request.key = pending.map PendingSubscription.key)
    (key : EventgroupKey) :
    (requests.filter fun request => request.key ≠ key).map Request.key =
      (pending.filter fun sub => sub.key ≠ key).map PendingSubscription.key := by
  have left := @List.filter_map _ _ Request.key (fun other => decide (other ≠ key)) requests
  have right := @List.filter_map _ _ PendingSubscription.key (fun other => decide (other ≠ key))
    pending
  exact left.symm.trans ((congrArg _ keys).trans right)

theorem charge_eq {subscriber : Subscriber} (tracks : subscriber.Tracks) :
    List.zipWith (charge subscriber.sd) subscriber.requests subscriber.sd.pendingSubscriptions =
      subscriber.requests.map fun request =>
        { request with
          sent := request.sent +
            if subscriber.sd.sendMessageCallback ∧ 0 < subscriber.sd.config.repetitionMax then 1
            else 0
          ticks := request.ticks + if subscriber.sd.sendMessageCallback then 1 else 0 } := by
  obtain ⟨sd, requests⟩ := subscriber
  obtain ⟨keys, uncounted⟩ := tracks
  dsimp only at keys uncounted ⊢
  have length := congrArg List.length keys
  rw [List.length_map, List.length_map] at length
  clear keys
  generalize sd.pendingSubscriptions = pending at uncounted length
  induction requests generalizing pending with
  | nil => rfl
  | cons request requests ih =>
    cases pending with
    | nil => cases length
    | cons sub pending =>
      obtain ⟨first, later⟩ := List.forall_mem_cons.mp uncounted
      have rest := ih pending later (Nat.succ.inj length)
      have charged : (sd.retry sub).length =
          if sd.sendMessageCallback ∧ 0 < sd.config.repetitionMax then 1 else 0 := by
        rw [ServiceDiscovery.retry, first, ServiceDiscovery.sendSubscribeEventgroup_eq,
          ServiceDiscovery.send]
        by_cases left : 0 < sd.config.repetitionMax
        · cases sd.sendMessageCallback <;> simp [left]
        · simp [left]
      rw [List.zipWith_cons_cons, List.map_cons, rest, charge, charged]

theorem tracks_step {subscriber : Subscriber} (tracks : subscriber.Tracks) (action : Action) :
    (subscriber.perform action).Tracks := by
  have after := subscriber.sd.pendingSubscriptions_perform action
  have settled (key : EventgroupKey) (sub : PendingSubscription)
      (member : sub ∈ subscriber.sd.pendingSubscriptions.filter fun sub => sub.key ≠ key) :
      sub.retryCount = 0 := tracks.uncounted sub (List.mem_of_mem_filter member)
  constructor
  · change (subscriber.waiting action).map Request.key =
      (subscriber.sd.perform action).1.pendingSubscriptions.map PendingSubscription.key
    rw [after]
    cases action with
    | subscribeEventgroup service instance' eventgroup majorVersion now =>
      rw [waiting, ServiceDiscovery.pendingAfter, List.map_append, List.map_append, tracks.keys]
      rfl
    | unsubscribeEventgroup service instance' eventgroup => exact Tracks.filter tracks.keys _
    | handle call moment =>
      cases call with
      | subscribeEventgroupAck entry => exact Tracks.filter tracks.keys _
      | _ => exact tracks.keys
    | retryPendingSubscriptions =>
      rw [waiting, charge_eq tracks, List.map_map]
      exact tracks.keys
    | _ => exact tracks.keys
  · change ∀ sub ∈ (subscriber.sd.perform action).1.pendingSubscriptions, sub.retryCount = 0
    rw [after]
    cases action with
    | subscribeEventgroup service instance' eventgroup majorVersion now =>
      exact List.forall_mem_append.mpr ⟨tracks.uncounted, List.forall_mem_singleton.mpr rfl⟩
    | unsubscribeEventgroup service instance' eventgroup => exact settled _
    | handle call moment =>
      cases call with
      | subscribeEventgroupAck entry => exact settled _
      | _ => exact tracks.uncounted
    | _ => exact tracks.uncounted

theorem tracks_run {config : Config} {actions : List Action} {effects : List Effect}
    {subscriber : Subscriber} (run : Runs.Run step (start config) actions effects subscriber) :
    subscriber.Tracks := by
  apply run.invariant fun _ _ subscriber => subscriber.Tracks
  · exact ⟨rfl, nofun⟩
  · intro _ _ subscriber action next _ tracks _ stepped
    rw [step_some stepped]
    exact tracks_step tracks action

/-- The SUBSCRIBE_EVENTGROUP entries that a step sends, before the wire and behind it, say what
    one of the waiting calls asked. -/
def SendsAsked (subscriber : Subscriber) (action : Action) : Prop :=
  ∀ entry message address port,
    .sent entry message address port ∈ (subscriber.sd.perform action).2 →
      entry.type = .subscribeEventgroup →
        ∃ request ∈ subscriber.requests, request.Asked entry ∧
          ∃ wire, wireEntry message = some wire ∧ request.Asked wire

/-- A tick that sends finds, for every call that waits, one that waits for the same eventgroup with
    the major version of the table. -/
def AsksTable (subscriber : Subscriber) (action : Action) : Prop :=
  subscriber.sd.Ticks action → 0 < subscriber.sd.config.repetitionMax →
    ∀ request ∈ subscriber.requests, ∃ other ∈ subscriber.requests, other.key = request.key ∧
      other.majorVersion = subscriber.sd.tableVersion request.key

theorem asked_truncated {request : Request} {entry : ServiceEntry} (asked : request.Asked entry) :
    request.Asked entry.truncated :=
  ⟨asked.serviceId, asked.instanceId, asked.eventgroupId, asked.majorVersion⟩

/-- The entry for a pending record says what a call asked exactly when the table does. -/
theorem asked_subscribeEntry (sd : ServiceDiscovery) (sub : PendingSubscription)
    (request : Request) : request.Asked (sd.subscribeEntry sub) ↔
      request.key = sub.key ∧ request.majorVersion = sd.tableVersion sub.key := by
  have eventgroup : (sd.subscribeEntry sub).eventgroupId = sub.eventgroupId :=
    ServiceEntry.createSubscribeEventgroup_eventgroupId _ _ _ _ _
  constructor
  · intro asked
    have third := eventgroup.symm.trans asked.eventgroupId
    have same : sub.key = request.key :=
      Prod.ext asked.serviceId (Prod.ext asked.instanceId third)
    exact ⟨same.symm, asked.majorVersion.symm⟩
  · intro ⟨same, version⟩
    obtain ⟨first, rest⟩ := Prod.mk.inj same
    obtain ⟨second, third⟩ := Prod.mk.inj rest
    exact ⟨first.symm, second.symm, eventgroup.trans third.symm, version.symm⟩

/-- Only a tick sends SUBSCRIBE_EVENTGROUP entries. -/
theorem sent_subscribeEventgroup {sd : ServiceDiscovery} {action : Action} {entry : ServiceEntry}
    {message : Message} {address : String} {port : UInt16}
    (sent : .sent entry message address port ∈ (sd.perform action).2)
    (type : entry.type = .subscribeEventgroup) :
    ∃ sub ∈ sd.pendingSubscriptions, sd.Ticks action ∧ sub.retryCount < sd.config.repetitionMax ∧
      entry = sd.subscribeEntry sub ∧ wireEntry message = some entry.truncated := by
  obtain ⟨sends, wire⟩ := ServiceDiscovery.perform_sends sent
  cases sends with
  | retry pending left =>
    change _ ∈ sd.retryPendingSubscriptions at sent
    rw [ServiceDiscovery.retryPendingSubscriptions_eq, List.mem_flatMap] at sent
    obtain ⟨sub, waits, found⟩ := sent
    rw [ServiceDiscovery.retry] at found
    split at found
    · rename_i some
      rw [ServiceDiscovery.sendSubscribeEventgroup_eq] at found
      have same := (ServiceDiscovery.mem_send found).1
      have callback : sd.sendMessageCallback = true := by
        unfold ServiceDiscovery.send at found
        split at found
        · assumption
        · cases found
      exact ⟨sub, waits, callback, some, same, wire⟩
    · cases found
  | _ => cases type

theorem sendsAsked_iff {subscriber : Subscriber} (tracks : subscriber.Tracks) (action : Action) :
    subscriber.SendsAsked action ↔ subscriber.AsksTable action := by
  constructor
  · intro asks ticks some request waits
    cases action with
    | retryPendingSubscriptions =>
      have held : request.key ∈ subscriber.sd.pendingSubscriptions.map PendingSubscription.key :=
        tracks.keys ▸ List.mem_map_of_mem waits
      obtain ⟨sub, pending, same⟩ := List.mem_map.mp held
      have left : sub.retryCount < subscriber.sd.config.repetitionMax :=
        tracks.uncounted sub pending ▸ some
      have sent : .sent (subscriber.sd.subscribeEntry sub)
          (ServiceDiscovery.sdMessage someipSdMethodSubscribeEventgroup
            (subscriber.sd.subscribeEntry sub))
          subscriber.sd.config.multicastAddress subscriber.sd.config.port ∈
            (subscriber.sd.perform .retryPendingSubscriptions).2 := by
        have callback : subscriber.sd.sendMessageCallback = true := ticks
        change _ ∈ subscriber.sd.retryPendingSubscriptions
        rw [ServiceDiscovery.retryPendingSubscriptions_eq, List.mem_flatMap]
        refine ⟨sub, pending, ?_⟩
        rw [ServiceDiscovery.retry, if_pos left, ServiceDiscovery.sendSubscribeEventgroup_eq,
          ServiceDiscovery.send, if_pos callback]
        exact List.mem_singleton_self _
      obtain ⟨other, also, asked, -⟩ := asks _ _ _ _ sent rfl
      rw [asked_subscribeEntry, same] at asked
      exact ⟨other, also, asked⟩
    | _ => exact ticks.elim
  · intro table entry message address port sent type
    obtain ⟨sub, pending, ticks, left, rfl, wire⟩ := sent_subscribeEventgroup sent type
    have some : 0 < subscriber.sd.config.repetitionMax := tracks.uncounted sub pending ▸ left
    have held : sub.key ∈ subscriber.requests.map Request.key :=
      tracks.keys ▸ List.mem_map_of_mem pending
    obtain ⟨request, waits, same⟩ := List.mem_map.mp held
    obtain ⟨other, also, key, version⟩ := table ticks some request waits
    rw [same] at key version
    have asked := (asked_subscribeEntry subscriber.sd sub other).mpr ⟨key, version⟩
    exact ⟨other, also, asked, _, wire, asked_truncated asked⟩

/-- Along a run, the entries say what was asked exactly as long as the ticks find the major
    versions that were asked in the table. -/
theorem sendsAsked_run {config : Config} {actions : List Action} {effects : List Effect}
    {subscriber : Subscriber} (run : Runs.Run step (start config) actions effects subscriber) :
    Runs.EachStep step (start config) (fun before action _ => before.SendsAsked action) actions ↔
      Runs.Guarded step AsksTable (start config) actions effects subscriber := by
  apply Runs.eachStep_iff_guarded _ run
  intro front _ before action next _ reached _
  exact sendsAsked_iff (tracks_run reached) action

/-- A call with the version that stands for one that is not in the table. -/
def anyVersion : List Action :=
  [.setSendMessageCallback true, .subscribeEventgroup 0x1234 0x0001 0x0007 0xFF 0,
    .retryPendingSubscriptions]

theorem anyVersion_asked : ∃ effects subscriber,
    Runs.Run step (start {}) anyVersion effects subscriber ∧
      Runs.EachStep step (start {}) (fun before action _ => before.SendsAsked action)
        anyVersion := by
  have guarded := (((Runs.Guarded.nil.snoc nofun rfl).snoc nofun rfl).snoc (by
    intro _ _ request waits
    refine ⟨request, waits, rfl, ?_⟩
    rw [List.mem_singleton.mp waits]
    decide +kernel) rfl : Runs.Guarded step AsksTable (start {}) anyVersion _ _)
  exact ⟨_, _, guarded.run, (sendsAsked_run guarded.run).mpr guarded⟩

def notOffered : List Action :=
  [.setSendMessageCallback true, .subscribeEventgroup 0x1234 0x0001 0x0007 1 0]

theorem notOffered_unasked : ¬ ∀ config actions effects subscriber action,
    Runs.Run step (start config) actions effects subscriber →
      subscriber.SendsAsked action := by
  intro all
  have run := ((Runs.Guarded.nil.snoc trivial rfl).snoc trivial rfl :
    Runs.Run step (start {}) notOffered _ _)
  have asks := all {} notOffered _ _ .retryPendingSubscriptions run
  have table := (sendsAsked_iff (tracks_run run) _).mp asks rfl (by decide) _
    (List.mem_singleton_self _)
  obtain ⟨other, also, -, version⟩ := table
  rw [List.mem_singleton.mp also] at version
  exact absurd version (by decide +kernel)

end Subscriber
end Msomeip.Sd
