import Msomeip.Sd.Subscriptions

namespace Msomeip.Sd

namespace Record

/-- The TTL of a SUBSCRIBE_EVENTGROUP entry for the key that carries the endpoint. -/
def ttlFor (key : EventgroupKey) (endpoint : Endpoint) : Record → Option UInt32
  | .subscribe other ttl arrived _ =>
    if other = key ∧ endpoint ∈ arrived then some ttl else none
  | .reset _ | .withdrawn .. => none

/-- An accepted entry that carries the endpoint, or the withdrawal of the service. -/
def standing (key : EventgroupKey) (endpoint : Endpoint) : Record → Option Bool
  | .subscribe other _ arrived true =>
    if other = key ∧ endpoint ∈ arrived then some true else none
  | .withdrawn service instance' =>
    if service = key.1 ∧ instance' = key.2.1 then some false else none
  | .subscribe _ _ _ false | .reset _ => none

/-- The endpoint may be a subscriber: the last entry that carried it was no stop, and the service
    has not been withdrawn since one was accepted. -/
structure Current (key : EventgroupKey) (endpoint : Endpoint) (records : List Record) : Prop where
  subscribed : ∃ ttl, Runs.latest (ttlFor key endpoint) records = some ttl ∧ 0 < ttl
  offered : Runs.latest (standing key endpoint) records = some true

theorem Current.snoc {key : EventgroupKey} {endpoint : Endpoint} {records : List Record}
    {record : Record} (current : Current key endpoint records)
    (ttl : ∀ ttl, record.ttlFor key endpoint = some ttl → 0 < ttl)
    (stays : record.standing key endpoint ≠ some false) :
    Current key endpoint (records ++ [record]) := by
  constructor
  · rw [Runs.latest_snoc]
    cases carried : record.ttlFor key endpoint with
    | none => exact current.subscribed
    | some latest => exact ⟨latest, rfl, ttl latest carried⟩
  · rw [Runs.latest_snoc]
    cases mark : record.standing key endpoint with
    | none => exact current.offered
    | some accepted =>
      cases accepted with
      | false => exact (stays mark).elim
      | true => rfl

theorem current_accepted {key : EventgroupKey} {endpoint : Endpoint} {ttl : UInt32}
    {arrived : List Endpoint} (records : List Record) (member : endpoint ∈ arrived)
    (positive : 0 < ttl) : Current key endpoint (records ++ [.subscribe key ttl arrived true]) := by
  constructor
  · rw [Runs.latest_snoc]
    simp [ttlFor, member, positive]
  · rw [Runs.latest_snoc]
    simp [standing, member]

theorem mem_store_subscribe {key other : EventgroupKey} {endpoint : Endpoint} {ttl : UInt32}
    {arrived subscribers : List Endpoint} {accepted : Bool} :
    endpoint ∈ (Record.subscribe other ttl arrived accepted).store key subscribers ↔
      endpoint ∈ subscribers ∨ accepted = true ∧ other = key ∧ endpoint ∈ arrived := by
  cases accepted with
  | false => simp [store]
  | true =>
    simp only [store, true_and]
    split
    · rename_i same
      rw [show ServiceDiscovery.addSubscriber = Distinct.add from rfl, Distinct.mem_foldl_add]
      simp [same]
    · rename_i different
      simp [different]

theorem mem_store_reset {key other : EventgroupKey} {endpoint : Endpoint}
    {subscribers : List Endpoint}
    (listed : endpoint ∈ (Record.reset other).store key subscribers) :
    endpoint ∈ subscribers := by
  simp only [store] at listed
  split at listed
  · cases listed
  · exact listed

end Record

namespace ServiceDiscovery

open Record

/-- Whoever is listed may still be a subscriber. -/
def CurrentOnly (records : List Record) (sd : ServiceDiscovery) : Prop :=
  ∀ (service : ServiceId) (instance' : InstanceId) (eventgroup : EventgroupId),
    ∀ endpoint ∈ sd.getSubscribers service instance' eventgroup,
      Current (service, instance', eventgroup) endpoint records

/-- The step stops no subscription: no entry with TTL 0 carries a subscriber or is accepted with an
    endpoint, and no service with subscribers is withdrawn. -/
def StopsNone (sd : ServiceDiscovery) : Action → Prop
  | .handle (.subscribeEventgroup entry options) moment => entry.ttl = 0 →
    ∀ endpoint ∈ options.filterMap SdOption.endpoint, sd.accepts entry moment = false ∧
      endpoint ∉ sd.getSubscribers entry.serviceId entry.instanceId entry.eventgroupId
  | .stopOfferService service instance' => (sd.localServices[(service, instance')]?).isSome →
    ∀ eventgroup, sd.getSubscribers service instance' eventgroup = []
  | _ => True

theorem currentOnly_iff {records : List Record} {sd : ServiceDiscovery} :
    CurrentOnly records sd ↔ ∀ key, ∀ endpoint ∈ sd.subscribers key, Current key endpoint records :=
  ⟨fun current key => current key.1 key.2.1 key.2.2,
    fun current service instance' eventgroup => current (service, instance', eventgroup)⟩

theorem current_subscribe {records : List Record} {sd : ServiceDiscovery} {entry : ServiceEntry}
    {options : List SdOption} {moment : Moment} {key : EventgroupKey} {endpoint : Endpoint}
    (current : ∀ endpoint ∈ sd.subscribers key, Current key endpoint records)
    (stops : sd.StopsNone (.handle (.subscribeEventgroup entry options) moment))
    (listed : endpoint ∈ (Record.subscribe (entry.serviceId, entry.instanceId, entry.eventgroupId)
      entry.ttl (options.filterMap SdOption.endpoint) (sd.accepts entry moment)).store key
        (sd.subscribers key)) :
    Current key endpoint
      (records ++ sd.noted (.handle (.subscribeEventgroup entry options) moment)) := by
  simp only [noted]
  rw [mem_store_subscribe] at listed
  have positive : (entry.serviceId, entry.instanceId, entry.eventgroupId) = key →
      endpoint ∈ options.filterMap SdOption.endpoint → 0 < entry.ttl := by
    intro same member
    apply UInt32.pos_iff_ne_zero.mpr
    intro zero
    obtain ⟨rejected, absent⟩ := stops zero endpoint member
    rcases listed with known | ⟨accepted, -, -⟩
    · subst same
      exact absent known
    · rw [rejected] at accepted
      cases accepted
  rcases listed with known | ⟨accepted, same, member⟩
  · apply (current endpoint known).snoc
    · intro ttl carried
      simp only [ttlFor] at carried
      split at carried
      · rename_i carries
        exact Option.some.inj carried ▸ positive carries.1 carries.2
      · cases carried
    · cases sd.accepts entry moment with
      | false =>
        intro standing
        cases standing
      | true =>
        simp only [standing]
        split <;> simp
  · rw [accepted, same]
    exact current_accepted records member (positive same member)

theorem current_withdrawn {records : List Record} {sd : ServiceDiscovery} {service : ServiceId}
    {instance' : InstanceId} {key : EventgroupKey} {endpoint : Endpoint}
    (current : ∀ endpoint ∈ sd.subscribers key, Current key endpoint records)
    (unlisted : ∀ eventgroup, sd.getSubscribers service instance' eventgroup = [])
    (listed : endpoint ∈ sd.subscribers key) :
    Current key endpoint (records ++ [.withdrawn service instance']) := by
  apply (current endpoint listed).snoc
  · exact nofun
  · simp only [standing]
    split
    · rename_i same
      obtain ⟨rfl, rfl⟩ := same
      have empty : sd.subscribers key = [] := unlisted key.2.2
      rw [empty] at listed
      cases listed
    · exact nofun

theorem currentOnly_step {records : List Record} {sd : ServiceDiscovery} {action : Action}
    (currentOnly : CurrentOnly records sd) (stops : sd.StopsNone action) :
    CurrentOnly (records ++ sd.noted action) (sd.perform action).1 := by
  rw [currentOnly_iff] at currentOnly ⊢
  intro key endpoint listed
  rw [subscribers_perform] at listed
  have reset : ∀ other, endpoint ∈ (Record.reset other).store key (sd.subscribers key) →
      Current key endpoint (records ++ [.reset other]) := by
    intro other kept
    apply (currentOnly key endpoint (mem_store_reset kept)).snoc
    · exact nofun
    · exact nofun
  have unnoted : sd.noted action = [] → Current key endpoint (records ++ sd.noted action) := by
    intro nothing
    rw [nothing] at listed ⊢
    rw [List.append_nil]
    exact currentOnly key endpoint listed
  cases action with
  | offerEventgroup => exact reset _ listed
  | stopOfferEventgroup => exact reset _ listed
  | stopOfferService service instance' =>
    cases offered : (sd.localServices[(service, instance')]?).isSome with
    | false => exact unnoted (by simp [noted, offered])
    | true =>
      simp only [noted, offered, if_true] at listed ⊢
      exact current_withdrawn (currentOnly key) (stops offered) listed
  | handle call moment =>
    cases call with
    | subscribeEventgroup entry options => exact current_subscribe (currentOnly key) stops listed
    | _ => exact unnoted rfl
  | _ => exact unnoted rfl

theorem currentOnly_run {config : Config} {actions : List Action} {records : List Record}
    {sd : ServiceDiscovery}
    (guarded : Runs.Guarded journal StopsNone (create config) actions records sd) :
    CurrentOnly records sd := by
  apply guarded.invariant fun _ records sd => CurrentOnly records sd
  · intro service instance' eventgroup endpoint listed
    simp [create, getSubscribers] at listed
  · intro actions records sd action next emitted currentOnly stops stepped
    obtain ⟨rfl, rfl⟩ := journal_some stepped
    exact currentOnly_step currentOnly stops

theorem stopsNone_of_currentOnly {records : List Record} {sd : ServiceDiscovery} {action : Action}
    (currentOnly : CurrentOnly (records ++ sd.noted action) (sd.perform action).1) :
    sd.StopsNone action := by
  rw [currentOnly_iff] at currentOnly
  unfold StopsNone
  split
  · rename_i entry options moment
    intro zero endpoint member
    have stopped : endpoint ∉ (sd.perform
        (.handle (.subscribeEventgroup entry options) moment)).1.subscribers
          (entry.serviceId, entry.instanceId, entry.eventgroupId) := by
      intro listed
      obtain ⟨ttl, latest, positive⟩ := (currentOnly _ endpoint listed).subscribed
      rw [noted, Runs.latest_snoc] at latest
      simp only [ttlFor, member, and_self, if_true, Option.some_or, Option.some.injEq] at latest
      rw [← latest, zero] at positive
      exact UInt32.lt_irrefl _ positive
    rw [subscribers_perform, noted, List.foldl_cons, List.foldl_nil, mem_store_subscribe,
      not_or] at stopped
    refine ⟨?_, stopped.1⟩
    simpa [member] using stopped.2
  · rename_i service instance'
    intro offered eventgroup
    apply List.eq_nil_iff_forall_not_mem.mpr
    intro endpoint listed
    have kept : endpoint ∈ (sd.perform (.stopOfferService service instance')).1.subscribers
        (service, instance', eventgroup) := by
      rw [subscribers_perform, noted, if_pos offered]
      exact listed
    have latest := (currentOnly _ endpoint kept).offered
    rw [noted, if_pos offered, Runs.latest_snoc] at latest
    simp [standing] at latest
  · trivial

/-- Whoever is listed may still be a subscriber, in every state of a run, exactly when no step of it
    stops a subscription. -/
theorem currentOnly_iff_stopsNone {config : Config} {actions : List Action}
    {records : List Record} {sd : ServiceDiscovery}
    (run : Runs.Run journal (create config) actions records sd) :
    Runs.Always journal (create config) (fun _ records sd => CurrentOnly records sd) actions ↔
      Runs.Guarded journal StopsNone (create config) actions records sd := by
  apply Runs.always_iff_guarded _ _ run
  · exact fun actions records sd guarded => currentOnly_run guarded
  · intro actions records sd action next emitted _ stepped current
    obtain ⟨rfl, rfl⟩ := journal_some stepped
    exact stopsNone_of_currentOnly current

def subscribed : List Action :=
  [.offerService temperatureConfig 0, subscribing 3 [client 1000 .udp]]

theorem subscribed_current : Runs.Always journal (create {})
    (fun _ records sd => CurrentOnly records sd) subscribed := by
  have offers : (create {}).StopsNone (.offerService temperatureConfig 0) := trivial
  have subscribes : ((create {}).perform (.offerService temperatureConfig 0)).1.StopsNone
      (subscribing 3 [client 1000 .udp]) := by
    intro stop
    cases stop
  have guarded := ((Runs.Guarded.nil.snoc offers rfl).snoc subscribes rfl :
    Runs.Guarded journal StopsNone (create {}) subscribed _ _)
  exact (currentOnly_iff_stopsNone guarded.run).mpr guarded

theorem stopped_listed : ¬ ∀ config actions records sd,
    Runs.Run journal (create config) actions records sd → CurrentOnly records sd := by
  intro all
  have executed : (Runs.execute journal (fun _ _ => True) (create {})
      (subscribed ++ [subscribing 0 [client 1000 .udp]])).map Prod.snd =
      some [.subscribe (0x1234, 0x0001, 0x0007) 3 [⟨"10.0.0.2", 1000, .udp⟩] true,
        .subscribe (0x1234, 0x0001, 0x0007) 0 [⟨"10.0.0.2", 1000, .udp⟩] true] := by
    decide +kernel
  obtain ⟨sd, run⟩ := Runs.exists_guarded executed
  have listed : (⟨"10.0.0.2", 1000, .udp⟩ : Endpoint) ∈ sd.subscribers (0x1234, 0x0001, 0x0007) := by
    rw [subscribers_run run]
    decide +kernel
  obtain ⟨ttl, latest, positive⟩ := (all _ _ _ _ run _ _ _ _ listed).subscribed
  have stop : Runs.latest (ttlFor (0x1234, 0x0001, 0x0007) ⟨"10.0.0.2", 1000, .udp⟩)
      [.subscribe (0x1234, 0x0001, 0x0007) 3 [⟨"10.0.0.2", 1000, .udp⟩] true,
        .subscribe (0x1234, 0x0001, 0x0007) 0 [⟨"10.0.0.2", 1000, .udp⟩] true] = some 0 := by
    decide +kernel
  rw [stop] at latest
  cases latest
  cases positive

end ServiceDiscovery
end Msomeip.Sd
