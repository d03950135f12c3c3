import Msomeip.Sd.SenderParser
import Msomeip.Sd.Subscriptions

namespace Msomeip.Sd

/-- The entry a receiver of the message gets from `ServiceEntry::deserialize`. -/
def wireEntry (message : Message) : Option ServiceEntry :=
  (ServiceEntry.deserialize (Tracked.buffer message.payloadData fun _ => 0) 0
    message.payloadData.length).val

theorem wireEntry_sdMessage (method : MethodId) (entry : ServiceEntry) :
    wireEntry (ServiceDiscovery.sdMessage method entry) = some entry.truncated :=
  ServiceEntry.deserialize_serialize_truncated (Tracked.buffer_holds _ _) le_rfl

theorem truncated_ofInt (ttl : Int) : ((UInt32.ofInt ttl % 0x1000000).toNat : Int) = ttl % 2 ^ 24 := by
  have low : (UInt32.ofInt ttl).toNat = (ttl % 2 ^ 32).toNat := by
    rw [UInt32.ofInt, UInt32.toNat_ofNat']
    omega
  rw [UInt32.toNat_mod, low]
  show ((ttl % 2 ^ 32).toNat % 2 ^ 24 : Nat) = ttl % 2 ^ 24
  omega

def ServiceInfo.offer (info : ServiceInfo) : ServiceEntry :=
  .createOfferService info.serviceId info.instanceId info.majorVersion info.minorVersion info.ttl

namespace ServiceDiscovery

/-- The entries an action can send, and the state they are made from. -/
inductive Sends (sd : ServiceDiscovery) : Action → ServiceEntry → Prop
  | offer (config : ServiceConfig) (now : TimePoint) :
      Sends sd (.offerService config now) (.createOfferService config.serviceId config.instanceId
        config.majorVersion config.minorVersion (UInt32.ofInt config.ttl))
  | stopOffer {service : ServiceId} {instance' : InstanceId} {info : ServiceInfo} :
      sd.localServices[(service, instance')]? = some info →
      Sends sd (.stopOfferService service instance') { info with ttl := 0 }.offer
  | find (service : ServiceId) (instance' : InstanceId) (now : TimePoint) :
      Sends sd (.findService service instance' now) (.createFindService service instance')
  | found {entry : ServiceEntry} {moment : Moment} {key : ServiceId × InstanceId}
      {info : ServiceInfo} :
      sd.localServices[key]? = some info →
      Sends sd (.handle (.findService entry) moment) info.offer
  | ack {entry : ServiceEntry} {options : List SdOption} {moment : Moment} {service : ServiceInfo} :
      sd.localServices[(entry.serviceId, entry.instanceId)]? = some service →
      sd.accepts entry moment = true →
      Sends sd (.handle (.subscribeEventgroup entry options) moment)
        (.createSubscribeEventgroupAck service.serviceId service.instanceId entry.eventgroupId
          service.majorVersion service.ttl)
  | nack {entry : ServiceEntry} {options : List SdOption} {moment : Moment}
      {service : ServiceInfo} :
      sd.localServices[(entry.serviceId, entry.instanceId)]? = some service →
      sd.accepts entry moment = false →
      Sends sd (.handle (.subscribeEventgroup entry options) moment)
        (.createSubscribeEventgroupNack service.serviceId service.instanceId entry.eventgroupId)
  | periodic {key : ServiceId × InstanceId} {info : ServiceInfo} :
      sd.localServices[key]? = some info → Sends sd .sendPeriodicOffers info.offer
  | retry {sub : PendingSubscription} {majorVersion : MajorVersion} :
      sub ∈ sd.pendingSubscriptions → sub.retryCount < sd.config.repetitionMax →
      Sends sd .retryPendingSubscriptions
        (.createSubscribeEventgroup sub.serviceId sub.instanceId sub.eventgroupId majorVersion
          (UInt32.ofInt (sd.config.ttlFactorSubscriptions.tdiv 1000)))

theorem mem_send {sd : ServiceDiscovery} {method : MethodId} {entry sent : ServiceEntry}
    {message : Message} {address : String} {port : UInt16}
    (member : .sent sent message address port ∈ sd.send method entry) :
    sent = entry ∧ message = sdMessage method entry := by
  unfold send at member
  split at member
  · obtain ⟨rfl, rfl, -, -⟩ := Effect.sent.inj (List.mem_singleton.mp member)
    exact ⟨rfl, rfl⟩
  · cases member

theorem mem_offers {sd : ServiceDiscovery} {chosen : ServiceInfo → Bool} {entry : ServiceEntry}
    {message : Message} {address : String} {port : UInt16}
    (member : .sent entry message address port ∈ sd.localServices.values.flatMap fun info =>
      if chosen info then sd.sendOfferService info else []) :
    ∃ (key : ServiceId × InstanceId) (info : ServiceInfo),
      sd.localServices[key]? = some info ∧ entry = info.offer := by
  obtain ⟨info, stored, sent⟩ := List.mem_flatMap.mp member
  split at sent
  · obtain ⟨key, found⟩ := Maps.mem_values.mp stored
    exact ⟨key, info, found, (mem_send sent).1⟩
  · cases sent

theorem handleSubscribeEventgroup_sends {sd : ServiceDiscovery} {entry sent : ServiceEntry}
    {options : List SdOption} {moment : Moment} {message : Message} {address : String}
    {port : UInt16} (member : .sent sent message address port ∈
      (sd.handleSubscribeEventgroup entry options moment.accepted).2) :
    Sends sd (.handle (.subscribeEventgroup entry options) moment) sent := by
  have unasked : ∀ subscription, .sent sent message address port ∉
      (if sd.subscriptionHandler then [Effect.asked subscription] else []) := by
    intro subscription
    split <;> simp
  unfold handleSubscribeEventgroup at member
  cases found : sd.localServices[(entry.serviceId, entry.instanceId)]? with
  | none =>
    rw [found] at member
    cases member
  | some service =>
    simp only [found] at member
    cases accepted : !sd.subscriptionHandler || moment.accepted with
    | true =>
      rw [accepted, if_pos rfl] at member
      rcases List.mem_append.mp member with asked | answered
      · exact (unasked _ asked).elim
      · rw [(mem_send answered).1]
        exact .ack found (by simp [accepts, found, accepted])
    | false =>
      rw [accepted, if_neg Bool.false_ne_true] at member
      rcases List.mem_append.mp member with asked | answered
      · exact (unasked _ asked).elim
      · rw [(mem_send answered).1]
        exact .nack found (by simp [accepts, accepted])

theorem perform_sends {sd : ServiceDiscovery} {action : Action} {entry : ServiceEntry}
    {message : Message} {address : String} {port : UInt16}
    (member : .sent entry message address port ∈ (sd.perform action).2) :
    Sends sd action entry ∧ wireEntry message = some entry.truncated := by
  obtain ⟨method, rfl⟩ := sd.perform_bare action _ member
  refine ⟨?_, wireEntry_sdMessage method entry⟩
  cases action with
  | offerService config now =>
    rw [(mem_send member).1]
    exact .offer config now
  | stopOfferService service instance' =>
    simp only [perform, stopOfferService] at member
    split at member
    · cases member
    · rename_i info found
      rw [(mem_send member).1]
      exact .stopOffer found
  | findService service instance' now =>
    rw [(mem_send member).1]
    exact .find service instance' now
  | handle call moment =>
    have differs : ∀ message, Effect.sent entry message address port ≠ .invoked call := by
      intro message same
      cases same
    have later := (List.mem_cons.mp member).resolve_left (differs _)
    cases call with
    | findService asked =>
      obtain ⟨key, info, found, rfl⟩ := mem_offers later
      exact .found found
    | offerService offered options =>
      simp only [handle, handleOfferService] at later
      split at later
      · cases List.mem_singleton.mp later
      · cases later
    | subscribeEventgroup subscribed options => exact handleSubscribeEventgroup_sends later
    | subscribeEventgroupAck acknowledged => cases later
  | checkTtlExpiration now =>
    simp only [perform, checkTtlExpiration] at member
    split at member
    · obtain ⟨info, -, other⟩ := List.mem_map.mp member
      cases other
    · cases member
  | sendPeriodicOffers =>
    obtain ⟨key, info, found, rfl⟩ := mem_offers member
    exact .periodic found
  | retryPendingSubscriptions =>
    obtain ⟨sub, pending, sent⟩ := List.mem_flatMap.mp member
    split at sent
    · rename_i left
      rw [(mem_send sent).1]
      exact .retry pending left
    · cases sent
  | _ => cases member

end ServiceDiscovery
end Msomeip.Sd
