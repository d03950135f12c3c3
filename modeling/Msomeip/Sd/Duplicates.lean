import Mathlib.Data.List.Forall2
import Msomeip.Sd.DiscoveryLeases
import Msomeip.Sd.Subscriptions

namespace Msomeip.Sd.ServiceDiscovery

open Std

abbrev Handling := HandlerCall × Moment

/-- The offer for the service that is handled, if any. -/
def offered (key : ServiceId × InstanceId) : Handling → Option ServiceInfo
  | (.offerService entry options, moment) =>
    if (entry.serviceId, entry.instanceId) = key then some (offeredInfo entry options moment.now)
    else none
  | _ => none

def requested (entry : ServiceEntry) (options : List SdOption) : SubscriptionInfo :=
  { serviceId := entry.serviceId, instanceId := entry.instanceId,
    eventgroupId := entry.eventgroupId, majorVersion := entry.majorVersion, ttl := entry.ttl,
    endpoints := options.filterMap SdOption.endpoint }

/-- The accepted subscription to the eventgroup that is handled, if any. -/
def joining (sd : ServiceDiscovery) (key : EventgroupKey) : Handling → Option SubscriptionInfo
  | (.subscribeEventgroup entry options, moment) =>
    if (entry.serviceId, entry.instanceId, entry.eventgroupId) = key then
      bif sd.accepts entry moment then some (requested entry options) else none
    else none
  | _ => none

def acknowledged (sub : PendingSubscription) : Handling → Bool
  | (.subscribeEventgroupAck entry, _) =>
    PendingSubscription.isFor sub entry.serviceId entry.instanceId entry.eventgroupId
  | _ => false

/-- What an accepted subscription makes of the record of its eventgroup. -/
def join (record : Option EventgroupInfo) (subscription : SubscriptionInfo) :
    Option EventgroupInfo :=
  some { record.getD {} with
    serviceId := subscription.serviceId, instanceId := subscription.instanceId
    eventgroupId := subscription.eventgroupId, majorVersion := subscription.majorVersion
    subscribers := subscription.endpoints.foldl addSubscriber (record.getD {}).subscribers }

/-- The two differ at most in the tables that received entries write. -/
def Receives (before after : ServiceDiscovery) : Prop :=
  after = { before with
    discoveredServices := after.discoveredServices, eventgroups := after.eventgroups
    pendingSubscriptions := after.pendingSubscriptions }

variable {sd before after : ServiceDiscovery} {handling : Handling}
  {handlings again : List Handling}

theorem Receives.trans {later : ServiceDiscovery} (first : Receives before after)
    (second : Receives after later) : Receives before later := by
  rw [Receives] at first second ⊢
  rw [second, first]

theorem Receives.symm (receives : Receives before after) : Receives after before := by
  rw [Receives] at receives ⊢
  rw [receives]

theorem receives_handle (sd : ServiceDiscovery) (call : HandlerCall) (moment : Moment) :
    Receives sd (sd.handle call moment).1 := by
  cases call with
  | subscribeEventgroup entry options =>
    simp only [Receives, handle]
    rw [handleSubscribeEventgroup_frame]
  | _ => rfl

theorem Receives.effects (receives : Receives before after) (call : HandlerCall)
    (moment : Moment) : (after.handle call moment).2 = (before.handle call moment).2 := by
  rw [receives]
  cases call with
  | subscribeEventgroup entry options =>
    simp only [handle, handleSubscribeEventgroup]
    cases before.localServices[(entry.serviceId, entry.instanceId)]? with
    | none => rfl
    | some service =>
      simp only
      split <;> rfl
  | _ => rfl

theorem Receives.joining (receives : Receives before after) (key : EventgroupKey) :
    after.joining key = before.joining key := by
  rw [receives]
  rfl

theorem discovered_handle (sd : ServiceDiscovery) (call : HandlerCall) (moment : Moment)
    (key : ServiceId × InstanceId) : (sd.handle call moment).1.discoveredServices[key]? =
      (offered key (call, moment)).or sd.discoveredServices[key]? := by
  cases call with
  | offerService entry options =>
    simp only [handle, handleOfferService, updateServiceInfo, Maps.lookup_insert, offered]
    by_cases same : (entry.serviceId, entry.instanceId) = key
    · rw [if_pos same]
      exact if_pos same
    · rw [if_neg same]
      exact if_neg same
  | subscribeEventgroup entry options =>
    simp only [handle, discovered_handleSubscribeEventgroup]
    rfl
  | _ => rfl

theorem eventgroups_handle (sd : ServiceDiscovery) (call : HandlerCall) (moment : Moment)
    (key : EventgroupKey) : (sd.handle call moment).1.eventgroups[key]? =
      (sd.joining key (call, moment)).elim sd.eventgroups[key]? (join sd.eventgroups[key]?) := by
  cases call with
  | subscribeEventgroup entry options =>
    simp only [handle, handleSubscribeEventgroup, joining, accepts]
    cases sd.localServices[(entry.serviceId, entry.instanceId)]? with
    | none => simp
    | some service =>
      simp only [Option.isSome_some, Bool.true_and]
      cases !sd.subscriptionHandler || moment.accepted with
      | false => simp
      | true =>
        simp only [if_true, cond_true, addSubscribers, Maps.lookup_insert]
        by_cases same : (entry.serviceId, entry.instanceId, entry.eventgroupId) = key
        · subst same
          simp [join, requested]
        · simp [same]
  | _ => rfl

theorem pending_handle (sd : ServiceDiscovery) (call : HandlerCall) (moment : Moment) :
    (sd.handle call moment).1.pendingSubscriptions =
      sd.pendingSubscriptions.filter fun sub => !acknowledged sub (call, moment) := by
  cases call with
  | subscribeEventgroupAck entry => rfl
  | subscribeEventgroup entry options =>
    simp only [handle]
    rw [handleSubscribeEventgroup_frame]
    simp [acknowledged]
  | _ => simp [handle, handleOfferService, updateServiceInfo, acknowledged]

/-- What is handled, in order, against the tables as a whole. -/
structure Handled (sd : ServiceDiscovery) (handlings : List Handling) (after : ServiceDiscovery) :
    Prop where
  receives : Receives sd after
  discovered : ∀ key : ServiceId × InstanceId, after.discoveredServices[key]? =
    (Runs.latest (offered key) handlings).or sd.discoveredServices[key]?
  eventgroups : ∀ key : EventgroupKey, after.eventgroups[key]? =
    (handlings.filterMap (sd.joining key)).foldl join sd.eventgroups[key]?
  pending : after.pendingSubscriptions = sd.pendingSubscriptions.filter fun sub =>
    !handlings.any (acknowledged sub)

theorem latest_cons {Item : Type} (item : Handling → Option Item) (handlings : List Handling) :
    Runs.latest item (handling :: handlings) = (Runs.latest item handlings).or (item handling) := by
  rw [Runs.latest, Runs.latest, List.filterMap_cons]
  cases item handling with
  | none => simp
  | some found => simp [List.getLast?_cons, Option.or_some]

theorem handled_all (sd : ServiceDiscovery) (handlings : List Handling) :
    Handled sd handlings (sd.handleAll handlings).1 := by
  induction handlings generalizing sd with
  | nil => exact ⟨rfl, fun _ => rfl, fun _ => rfl, by simp [handleAll]⟩
  | cons handling rest ih =>
    obtain ⟨call, moment⟩ := handling
    have first := receives_handle sd call moment
    obtain ⟨receives, discovered, eventgroups, pending⟩ := ih (sd.handle call moment).1
    refine ⟨first.trans receives, ?_, ?_, ?_⟩
    · intro key
      have later := discovered key
      rw [discovered_handle, ← Option.or_assoc, ← latest_cons] at later
      exact later
    · intro key
      have later := eventgroups key
      rw [eventgroups_handle, first.joining] at later
      refine later.trans ?_
      rw [List.filterMap_cons]
      cases sd.joining key (call, moment) <;> rfl
    · refine pending.trans ?_
      rw [pending_handle, List.filter_filter]
      congr 1
      funext sub
      rw [List.any_cons, Bool.not_or, Bool.and_comm]

theorem Receives.effects_all (receives : Receives before after) :
    (after.handleAll handlings).2 = (before.handleAll handlings).2 := by
  induction handlings generalizing before after with
  | nil => rfl
  | cons handling rest ih =>
    obtain ⟨call, moment⟩ := handling
    have same : Receives (before.handle call moment).1 (after.handle call moment).1 :=
      ((receives_handle before call moment).symm.trans receives).trans
        (receives_handle after call moment)
    have first : (after.perform (.handle call moment)).2 = (before.perform (.handle call moment)).2 :=
      congrArg (List.cons (Effect.invoked call)) (receives.effects call moment)
    have later := ih same
    exact congrArg₂ (· ++ ·) first later

theorem Handled.unique {other : ServiceDiscovery} (first : Receives sd after)
    (second : Receives sd other)
    (discovered : ∀ key : ServiceId × InstanceId,
      after.discoveredServices[key]? = other.discoveredServices[key]?)
    (eventgroups : ∀ key : EventgroupKey, after.eventgroups[key]? = other.eventgroups[key]?)
    (pending : after.pendingSubscriptions = other.pendingSubscriptions) : after = other := by
  rw [first, second, pending, ExtTreeMap.ext_getElem? discovered, ExtTreeMap.ext_getElem? eventgroups]

/-- Accepted subscriptions as a whole: the last sets the version, all add their endpoints. -/
theorem foldl_join (subscriptions : List SubscriptionInfo) (last : SubscriptionInfo)
    (record : Option EventgroupInfo) :
    (subscriptions ++ [last]).foldl join record = some { record.getD {} with
      serviceId := last.serviceId, instanceId := last.instanceId
      eventgroupId := last.eventgroupId, majorVersion := last.majorVersion
      subscribers := ((subscriptions ++ [last]).flatMap SubscriptionInfo.endpoints).foldl
        addSubscriber (record.getD {}).subscribers } := by
  induction subscriptions using List.reverseRecOn generalizing last with
  | nil => simp [join]
  | append_singleton front middle ih =>
    rw [List.foldl_concat, ih, List.flatMap_append, List.foldl_append, join]
    simp

theorem foldl_addSubscriber_again (subscribers endpoints : List Endpoint) :
    endpoints.foldl addSubscriber (endpoints.foldl addSubscriber subscribers) =
      endpoints.foldl addSubscriber subscribers := by
  have known : ∀ endpoint ∈ endpoints, endpoint ∈ endpoints.foldl addSubscriber subscribers :=
    fun endpoint member => Distinct.mem_foldl_add.mpr (.inr member)
  generalize endpoints.foldl addSubscriber subscribers = full at known ⊢
  induction endpoints with
  | nil => rfl
  | cons endpoint rest ih =>
    have first : addSubscriber full endpoint = full := if_pos (known endpoint List.mem_cons_self)
    rw [List.foldl_cons, first]
    exact ih fun other member => known other (List.mem_cons_of_mem _ member)

theorem foldl_join_again (subscriptions : List SubscriptionInfo) (record : Option EventgroupInfo) :
    subscriptions.foldl join (subscriptions.foldl join record) = subscriptions.foldl join record := by
  rcases List.eq_nil_or_concat subscriptions with rfl | ⟨front, last, rfl⟩
  · rfl
  · rw [List.concat_eq_append, foldl_join, foldl_join]
    simp only [Option.getD_some, foldl_addSubscriber_again]

/-- The same entry, and the same answer of the subscription handler to it. -/
def Same (first second : Handling) : Prop :=
  first.1 = second.1 ∧ first.2.accepted = second.2.accepted

theorem offered_isSome {first second : Handling} (same : Same first second)
    (key : ServiceId × InstanceId) : (offered key first).isSome = (offered key second).isSome := by
  obtain ⟨call, moment⟩ := first
  obtain ⟨other, later⟩ := second
  obtain ⟨rfl, -⟩ := same
  cases call with
  | offerService entry options =>
    simp only [offered]
    split <;> rfl
  | _ => rfl

theorem joining_same {first second : Handling} (same : Same first second)
    (key : EventgroupKey) : sd.joining key first = sd.joining key second := by
  obtain ⟨call, moment⟩ := first
  obtain ⟨other, later⟩ := second
  obtain ⟨rfl, accepted⟩ := same
  cases call with
  | subscribeEventgroup entry options =>
    simp only at accepted
    simp only [joining, accepts, accepted]
  | _ => rfl

theorem acknowledged_same {first second : Handling} (same : Same first second)
    (sub : PendingSubscription) : acknowledged sub first = acknowledged sub second := by
  obtain ⟨call, moment⟩ := first
  obtain ⟨other, later⟩ := second
  obtain ⟨rfl, -⟩ := same
  cases call <;> rfl

/-- What has been handled before is absorbed when it is handled again. -/
theorem handleAll_absorbs (same : List.Forall₂ Same handlings again) :
    (sd.handleAll handlings).1.handleAll again = sd.handleAll again := by
  have first := handled_all sd handlings
  have second := handled_all (sd.handleAll handlings).1 again
  have once := handled_all sd again
  have offers : ∀ key, (Runs.latest (offered key) handlings).isSome =
      (Runs.latest (offered key) again).isSome := by
    intro key
    clear first second once
    induction same with
    | nil => rfl
    | cons head _ ih => simp only [latest_cons, Option.isSome_or, ih, offered_isSome head]
  have subscriptions : ∀ key, handlings.filterMap (sd.joining key) =
      again.filterMap (sd.joining key) := by
    intro key
    clear first second once offers
    induction same with
    | nil => rfl
    | cons head _ ih => simp only [List.filterMap_cons, ih, joining_same head]
  have acknowledgements : ∀ sub, handlings.any (acknowledged sub) =
      again.any (acknowledged sub) := by
    intro sub
    clear first second once offers subscriptions
    induction same with
    | nil => rfl
    | cons head _ ih => simp only [List.any_cons, ih, acknowledged_same head]
  refine Prod.ext ?_ first.receives.effects_all
  apply Handled.unique (first.receives.trans second.receives) once.receives
  · intro key
    rw [second.discovered, first.discovered, once.discovered]
    have stored := offers key
    cases latest : Runs.latest (offered key) again with
    | some info => rfl
    | none =>
      rw [latest, Option.isSome_none, Option.isSome_eq_false_iff, Option.isNone_iff_eq_none] at stored
      rw [stored]
      rfl
  · intro key
    rw [second.eventgroups, first.eventgroups, once.eventgroups, first.receives.joining,
      subscriptions, foldl_join_again]
  · rw [second.pending, first.pending, once.pending, List.filter_filter]
    congr 1
    funext sub
    rw [acknowledgements, Bool.and_self]

theorem same_mapIdx (calls : List HandlerCall) {first second : Nat → Moment}
    (answers : ∀ index, (first index).accepted = (second index).accepted) :
    List.Forall₂ Same (calls.mapIdx fun index call => (call, first index))
      (calls.mapIdx fun index call => (call, second index)) := by
  induction calls generalizing first second with
  | nil => exact .nil
  | cons call rest ih =>
    rw [List.mapIdx_cons, List.mapIdx_cons]
    exact .cons ⟨rfl, answers 0⟩ (ih fun index => answers (index + 1))

end Msomeip.Sd.ServiceDiscovery
