import Msomeip.Sd.SentEntries

namespace Msomeip

def ServiceConfig.offer (config : ServiceConfig) : Sd.ServiceEntry :=
  .createOfferService config.serviceId config.instanceId config.majorVersion config.minorVersion
    (UInt32.ofInt config.ttl)

namespace Sd

/-- A call of `offer_service` or `stop_offer_service` for the key: what it offers, if anything. -/
def Action.callFor (key : ServiceId × InstanceId) : Action → Option (Option ServiceConfig)
  | .offerService config _ =>
    if (config.serviceId, config.instanceId) = key then some (some config) else none
  | .stopOfferService service instance' => if (service, instance') = key then some none else none
  | _ => none

/-- The latest of the calls for the key, where it is an offer. -/
def latestCall (actions : List Action) (key : ServiceId × InstanceId) : Option ServiceConfig :=
  (Runs.latest (Action.callFor key) actions).join

theorem callFor_key {key : ServiceId × InstanceId} {action : Action} {config : ServiceConfig}
    (called : action.callFor key = some (some config)) :
    (config.serviceId, config.instanceId) = key := by
  unfold Action.callFor at called
  split at called
  · split at called
    · cases called
      assumption
    · cases called
  · split at called <;> cases called
  · cases called

theorem latestCall_snoc (actions : List Action) (action : Action)
    (key : ServiceId × InstanceId) : latestCall (actions ++ [action]) key =
      match action.callFor key with
      | some call => call
      | none => latestCall actions key := by
  rw [latestCall, Runs.latest_snoc]
  cases action.callFor key <;> rfl

theorem latestCall_key {actions : List Action} {key : ServiceId × InstanceId}
    {config : ServiceConfig} (latest : latestCall actions key = some config) :
    (config.serviceId, config.instanceId) = key := by
  induction actions using List.reverseRecOn with
  | nil => cases latest
  | append_singleton actions action ih =>
    rw [latestCall_snoc] at latest
    cases called : action.callFor key with
    | none =>
      rw [called] at latest
      exact ih latest
    | some call =>
      rw [called] at latest
      exact callFor_key (called.trans (congrArg some latest))

namespace ServiceDiscovery

/-- The registry holds what the latest calls offer. -/
def Registered (actions : List Action) (sd : ServiceDiscovery) : Prop :=
  ∀ key : ServiceId × InstanceId, (sd.localServices[key]?).map ServiceInfo.offer =
    (latestCall actions key).map ServiceConfig.offer

theorem localServices_handleSubscribeEventgroup (sd : ServiceDiscovery) (entry : ServiceEntry)
    (options : List SdOption) (accepts : Bool) :
    (sd.handleSubscribeEventgroup entry options accepts).1.localServices = sd.localServices := by
  rw [handleSubscribeEventgroup_frame]

theorem localServices_perform (sd : ServiceDiscovery) (action : Action)
    (key : ServiceId × InstanceId) :
    ((sd.perform action).1.localServices[key]?).map ServiceInfo.offer =
      match action.callFor key with
      | some call => call.map ServiceConfig.offer
      | none => (sd.localServices[key]?).map ServiceInfo.offer := by
  cases action with
  | offerService config now =>
    simp only [perform, offerService, Maps.lookup_insert, Action.callFor]
    split <;> rfl
  | stopOfferService service instance' =>
    simp only [perform, stopOfferService, Action.callFor]
    by_cases same : (service, instance') = key
    · subst same
      cases found : sd.localServices[(service, instance')]? with
      | none => simp [found]
      | some info => simp
    · cases sd.localServices[(service, instance')]? with
      | none => simp [same]
      | some info => simp [Maps.lookup_erase, same]
  | handle call moment =>
    cases call with
    | subscribeEventgroup entry options =>
      simp only [perform, handle, localServices_handleSubscribeEventgroup, Action.callFor]
    | _ => rfl
  | _ => rfl

theorem registered_run {config : Config} {actions : List Action} {effects : List Effect}
    {sd : ServiceDiscovery} (run : Runs.Run step (create config) actions effects sd) :
    Registered actions sd := by
  apply run.invariant fun actions _ sd => Registered actions sd
  · intro key
    simp [create, latestCall, Runs.latest]
  · intro actions effects sd action next emitted registered _ stepped
    obtain ⟨rfl, rfl⟩ := step_some stepped
    intro key
    rw [localServices_perform, latestCall_snoc]
    cases action.callFor key with
    | none => exact registered key
    | some call => rfl

/-- The OFFER entry is the one of the latest call for its service, as a receiver reads it. -/
def OffersLatest (actions : List Action) (entry : ServiceEntry) (message : Message) : Prop :=
  ∃ config wire, latestCall actions (entry.serviceId, entry.instanceId) = some config ∧
    wireEntry message = some wire ∧ wire.type = .offerService ∧
    wire.serviceId = entry.serviceId ∧ wire.instanceId = entry.instanceId ∧
    wire.majorVersion = config.majorVersion ∧ wire.minorVersion = config.minorVersion ∧
    (wire.ttl.toNat : Int) = config.ttl % 2 ^ 24

/-- Exactly one entry is sent, the withdrawal of the service: an OFFER with TTL 0. -/
def WithdrawsOnce (service : ServiceId) (instance' : InstanceId) (emitted : List Effect) : Prop :=
  ∃ entry message address port wire, emitted = [.sent entry message address port] ∧
    wireEntry message = some wire ∧ wire.type = .offerService ∧ wire.serviceId = service ∧
    wire.instanceId = instance' ∧ wire.ttl = 0

theorem offersLatest_of_offer {actions : List Action} {key : ServiceId × InstanceId}
    {config : ServiceConfig} {message : Message}
    (latest : latestCall actions key = some config)
    (wire : wireEntry message = some config.offer.truncated) :
    OffersLatest actions config.offer message := by
  have keyed : (config.serviceId, config.instanceId) = key := latestCall_key latest
  refine ⟨config, _, ?_, wire, rfl, rfl, rfl, rfl, rfl, truncated_ofInt config.ttl⟩
  exact (congrArg (latestCall actions) keyed).trans latest

theorem registered_offer {actions : List Action} {sd : ServiceDiscovery}
    {key : ServiceId × InstanceId} {info : ServiceInfo} (registered : Registered actions sd)
    (found : sd.localServices[key]? = some info) :
    ∃ config, latestCall actions key = some config ∧ info.offer = config.offer := by
  have same := registered key
  rw [found] at same
  obtain ⟨config, latest, offer⟩ := Option.map_eq_some_iff.mp same.symm
  exact ⟨config, latest, offer.symm⟩

theorem sends_latest {actions : List Action} {sd : ServiceDiscovery} {action : Action}
    {entry : ServiceEntry} {message : Message} (registered : Registered actions sd)
    (sends : Sends sd action entry) (wire : wireEntry message = some entry.truncated)
    (noStop : ∀ service instance', action ≠ .stopOfferService service instance')
    (offer : entry.type = .offerService) :
    OffersLatest (actions ++ [action]) entry message := by
  have stored : ∀ {key : ServiceId × InstanceId} {info : ServiceInfo},
      sd.localServices[key]? = some info → action.callFor key = none → entry = info.offer →
        OffersLatest (actions ++ [action]) entry message := by
    intro key info found uncalled same
    obtain ⟨config, latest, equal⟩ := registered_offer registered found
    have later : latestCall (actions ++ [action]) key = some config := by
      rw [latestCall_snoc, uncalled, latest]
    rw [same, equal] at wire ⊢
    exact offersLatest_of_offer later wire
  cases sends with
  | offer config now =>
    have latest : latestCall (actions ++ [.offerService config now])
        (config.serviceId, config.instanceId) = some config := by
      simp [latestCall_snoc, Action.callFor]
    exact offersLatest_of_offer latest wire
  | stopOffer found => exact (noStop _ _ rfl).elim
  | found present => exact stored present rfl rfl
  | periodic present => exact stored present rfl rfl
  | find => cases offer
  | ack => cases offer
  | nack => cases offer
  | retry => cases offer

/-- Offers follow the calls: an OFFER entry is that of the latest call for its service, and a
    withdrawal is sent once for a service that is offered, and never for another. -/
theorem offers_follow_calls {config : Config} {actions : List Action} {effects : List Effect}
    {sd : ServiceDiscovery} (run : Runs.Run step (create config) actions effects sd) :
    (∀ action entry message address port,
      (∀ service instance', action ≠ .stopOfferService service instance') →
      .sent entry message address port ∈ (sd.perform action).2 → entry.type = .offerService →
        OffersLatest (actions ++ [action]) entry message) ∧
    ∀ service instance', sd.sendMessageCallback = true →
      match latestCall actions (service, instance') with
      | some _ => WithdrawsOnce service instance'
          (sd.perform (.stopOfferService service instance')).2
      | none => (sd.perform (.stopOfferService service instance')).2 = [] := by
  have registered := registered_run run
  constructor
  · intro action entry message address port noStop sent offer
    obtain ⟨sends, wire⟩ := perform_sends sent
    exact sends_latest registered sends wire noStop offer
  · intro service instance' callback
    have same := registered (service, instance')
    cases latest : latestCall actions (service, instance') with
    | none =>
      rw [latest] at same
      have absent : sd.localServices[(service, instance')]? = none := Option.map_eq_none_iff.mp same
      simp [perform, stopOfferService, absent]
    | some called =>
      rw [latest] at same
      obtain ⟨info, found, offer⟩ := Option.map_eq_some_iff.mp same
      obtain ⟨rfl, rfl⟩ := Prod.mk.inj (latestCall_key latest)
      have sent : (sd.perform (.stopOfferService called.serviceId called.instanceId)).2 =
          sd.send someipSdMethodOfferService { info with ttl := 0 }.offer := by
        simp only [perform, stopOfferService, found]
        rfl
      rw [send, if_pos callback] at sent
      have wire := wireEntry_sdMessage someipSdMethodOfferService { info with ttl := 0 }.offer
      exact ⟨_, _, _, _, _, sent, wire, rfl, congrArg ServiceEntry.serviceId offer,
        congrArg ServiceEntry.instanceId offer, rfl⟩

def offerings : List Action := [.setSendMessageCallback true, .offerService temperatureConfig 0]

theorem offerings_withdrawn : ∃ effects sd, Runs.Run step (create {}) offerings effects sd ∧
    WithdrawsOnce 0x1234 0x0001 (sd.perform (.stopOfferService 0x1234 0x0001)).2 ∧
    (sd.perform (.stopOfferService 0x1234 0x0002)).2 = [] := by
  have run := ((Runs.Guarded.nil.snoc trivial rfl).snoc trivial rfl :
    Runs.Run step (create {}) offerings _ _)
  have stops := (offers_follow_calls run).2
  exact ⟨_, _, run, stops 0x1234 0x0001 rfl, stops 0x1234 0x0002 rfl⟩

end ServiceDiscovery
end Sd
end Msomeip
