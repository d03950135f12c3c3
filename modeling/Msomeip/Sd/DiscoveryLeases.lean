import Mathlib.Data.Int.Order.Basic
import Msomeip.Library.Leases
import Msomeip.Sd.LiveOffers

namespace Msomeip.Sd

/-- When a sweep takes the offer for expired: one second after its TTL. -/
def ServiceInfo.ends (info : ServiceInfo) : Int :=
  info.lastUpdate + ((info.ttl.toNat + 1) * 1000000000 : Int)

/-- The operation neither replaces the discovered service nor drops it. -/
def Action.Spares (info : ServiceInfo) : Action → Prop
  | .handle (.offerService entry _) _ =>
    (entry.serviceId, entry.instanceId) ≠ (info.serviceId, info.instanceId)
  | .checkTtlExpiration now => ServiceDiscovery.expired info now = false
  | _ => True

namespace ServiceDiscovery

theorem seconds_lt_iff (start now : Int) (seconds : Nat) :
    (seconds : Int) < (now - start).tdiv 1000000000 ↔
      start + (seconds + 1) * 1000000000 ≤ now := by
  rcases Int.le_total 0 (now - start) with past | future
  · rw [Int.tdiv_eq_ediv_of_nonneg past]
    omega
  · have opposite : (now - start).tdiv 1000000000 = -(start - now).tdiv 1000000000 := by
      rw [← Int.neg_tdiv, Int.neg_sub]
    have back : 0 ≤ (start - now).tdiv 1000000000 := Int.tdiv_nonneg (by omega) (by decide)
    omega

theorem expired_iff (info : ServiceInfo) (now : Int) :
    expired info now = true ↔ info.ends ≤ now := by
  simp only [expired, gt_iff_lt, decide_eq_true_eq]
  exact seconds_lt_iff info.lastUpdate now info.ttl.toNat

/-- What an operation does to the discovered service with the key. -/
def leaseChange (key : ServiceId × InstanceId) :
    Action → Option (Leases.Change ServiceInfo Int)
  | .handle (.offerService entry options) moment =>
    if (entry.serviceId, entry.instanceId) = key then
      some (.grant (offeredInfo entry options moment.now))
    else none
  | .checkTtlExpiration now => some (.sweep now)
  | _ => none

theorem lookup_perform (sd : ServiceDiscovery) (action : Action) (key : ServiceId × InstanceId) :
    (sd.perform action).1.discoveredServices[key]? =
      match leaseChange key action with
      | some change => change.apply ServiceInfo.ends sd.discoveredServices[key]?
      | none => sd.discoveredServices[key]? := by
  cases action with
  | stopOfferService service instance' =>
    simp only [perform, stopOfferService, leaseChange]
    split <;> rfl
  | checkTtlExpiration now =>
    have spared : (fun info => !expired info now) = fun info : ServiceInfo => now < info.ends := by
      funext info
      rw [Bool.eq_iff_iff, Bool.not_eq_true', ← Bool.not_eq_true, expired_iff]
      simp
    have kept : (sd.checkTtlExpiration now).1.discoveredServices[key]? =
        sd.discoveredServices[key]?.filter fun info => !expired info now :=
      Std.ExtTreeMap.getElem?_filter'
    rw [spared] at kept
    exact kept
  | handle call moment =>
    cases call with
    | offerService entry options =>
      simp only [perform, handle, handleOfferService, updateServiceInfo, Maps.lookup_insert,
        leaseChange]
      by_cases same : (entry.serviceId, entry.instanceId) = key
      · rw [if_pos same]
        exact if_pos same
      · rw [if_neg same]
        exact if_neg same
    | subscribeEventgroup entry options =>
      simp only [perform, handle, discovered_handleSubscribeEventgroup, leaseChange]
    | _ => rfl
  | _ => rfl

/-- The table of discovered services is one of leases: an offer grants, a sweep drops. -/
theorem discovered_held {config : Config} {actions : List Action} {effects : List Effect}
    {sd : ServiceDiscovery} (run : Runs.Run step (create config) actions effects sd)
    (key : ServiceId × InstanceId) : sd.discoveredServices[key]? =
      Leases.held ServiceInfo.ends (actions.filterMap (leaseChange key)) := by
  apply run.invariant fun actions _ sd => sd.discoveredServices[key]? =
    Leases.held ServiceInfo.ends (actions.filterMap (leaseChange key))
  · exact Std.ExtTreeMap.getElem?_empty
  · intro actions _ sd action next _ held _ stepped
    obtain ⟨rfl, rfl⟩ := step_some stepped
    rw [lookup_perform, List.filterMap_append, held]
    cases changes : leaseChange key action with
    | none => simp [changes]
    | some change => simp [changes, Leases.held_snoc]

/-- What is known of a service comes from an offer for it that no other has followed and no sweep
    has found expired. -/
def Discovers (actions : List Action) (info : ServiceInfo) : Prop :=
  ∃ before entry options moment after,
    actions = before ++ .handle (.offerService entry options) moment :: after ∧
      info = offeredInfo entry options moment.now ∧ ∀ action ∈ after, action.Spares info

theorem spares_iff {info : ServiceInfo} {key : ServiceId × InstanceId}
    (keyed : (info.serviceId, info.instanceId) = key) (action : Action) :
    action.Spares info ↔
      ∀ change ∈ leaseChange key action, Leases.Spares ServiceInfo.ends info change := by
  subst keyed
  cases action with
  | checkTtlExpiration now =>
    simp only [Action.Spares, leaseChange, Option.mem_some_iff, forall_eq', Leases.Spares,
      Leases.Change.sweep.injEq, exists_eq_left']
    rw [← Bool.not_eq_true, expired_iff, not_le]
  | handle call moment =>
    cases call with
    | offerService entry options =>
      simp only [Action.Spares, leaseChange]
      split
      · rename_i same
        simp [same, Leases.Spares]
      · rename_i differs
        simp [differs]
    | _ => simp [Action.Spares, leaseChange]
  | _ => simp [Action.Spares, leaseChange]

theorem leaseChange_grant {key : ServiceId × InstanceId} {action : Action} {info : ServiceInfo}
    (granted : leaseChange key action = some (.grant info)) :
    ∃ entry options moment, action = .handle (.offerService entry options) moment ∧
      (entry.serviceId, entry.instanceId) = key ∧ info = offeredInfo entry options moment.now := by
  unfold leaseChange at granted
  split at granted
  · split at granted
    · rename_i same
      cases granted
      exact ⟨_, _, _, rfl, same, rfl⟩
    · cases granted
  · cases granted
  · cases granted

theorem held_iff_discovers {actions : List Action} {key : ServiceId × InstanceId}
    {info : ServiceInfo} :
    Leases.held ServiceInfo.ends (actions.filterMap (leaseChange key)) = some info ↔
      (info.serviceId, info.instanceId) = key ∧ Discovers actions info := by
  rw [Leases.held_iff]
  constructor
  · rintro ⟨before, after, split, spared⟩
    obtain ⟨front, back, rfl, -, found⟩ := List.filterMap_eq_append_iff.mp split
    obtain ⟨between, action, rest, rfl, -, granted, rfl⟩ := List.filterMap_eq_cons_iff.mp found
    obtain ⟨entry, options, moment, rfl, same, rfl⟩ := leaseChange_grant granted
    refine ⟨same, front ++ between, entry, options, moment, rest, by simp, rfl, ?_⟩
    intro action member
    apply (spares_iff same action).mpr
    intro change changes
    exact spared change (List.mem_filterMap.mpr ⟨action, member, changes⟩)
  · rintro ⟨same, before, entry, options, moment, after, rfl, rfl, spared⟩
    have granted : leaseChange key (.handle (.offerService entry options) moment) =
        some (.grant (offeredInfo entry options moment.now)) := if_pos same
    refine ⟨before.filterMap (leaseChange key), after.filterMap (leaseChange key), ?_, ?_⟩
    · rw [List.filterMap_append, List.filterMap_cons, granted]
    · intro change member
      obtain ⟨action, inside, changes⟩ := List.mem_filterMap.mp member
      exact (spares_iff same action).mp (spared action inside) change changes

theorem keyed_run {config : Config} {actions : List Action} {effects : List Effect}
    {sd : ServiceDiscovery} (run : Runs.Run step (create config) actions effects sd)
    {key : ServiceId × InstanceId} {info : ServiceInfo}
    (found : sd.discoveredServices[key]? = some info) :
    (info.serviceId, info.instanceId) = key := by
  rw [discovered_held run] at found
  exact (held_iff_discovers.mp found).1

/-- The lookups of discovered services, after any run, as the received offers and the sweeps in it
    determine them. -/
theorem discovery_exact {config : Config} {actions : List Action} {effects : List Effect}
    {sd : ServiceDiscovery} (run : Runs.Run step (create config) actions effects sd) :
    (∀ service instance' info, sd.getServiceInfo service instance' = some info ↔
      (info.serviceId, info.instanceId) = (service, instance') ∧ Discovers actions info) ∧
    (∀ info, info ∈ sd.getDiscoveredServices ↔ Discovers actions info) ∧
    (sd.getDiscoveredServices.map fun info => (info.serviceId, info.instanceId)).Nodup := by
  have exact : ∀ (key : ServiceId × InstanceId) (info : ServiceInfo),
      sd.discoveredServices[key]? = some info ↔
        (info.serviceId, info.instanceId) = key ∧ Discovers actions info := by
    intro key info
    rw [discovered_held run]
    exact held_iff_discovers
  refine ⟨fun service instance' => exact (service, instance'), ?_, ?_⟩
  · intro info
    rw [getDiscoveredServices, Maps.mem_values]
    constructor
    · rintro ⟨key, found⟩
      exact ((exact key info).mp found).2
    · intro discovers
      exact ⟨_, (exact _ info).mpr ⟨rfl, discovers⟩⟩
  · exact Maps.nodup_values fun key info found => keyed_run run found

/-- An offer for three seconds, and a sweep a nanosecond before the fourth second is over. -/
def offerAndSweep : List Action :=
  [.handle (.offerService (.createOfferService 0x1234 0x0001 1 0 3) [offerEndpoint]) ⟨0, true⟩,
    .checkTtlExpiration 3999999999]

theorem offerAndSweep_discovered : ∃ effects sd,
    Runs.Run step (create {}) offerAndSweep effects sd ∧ sd.getServiceInfo 0x1234 0x0001 =
      some (offeredInfo (.createOfferService 0x1234 0x0001 1 0 3) [offerEndpoint] 0) := by
  have run : Runs.Run step (create {}) offerAndSweep _ _ := .snoc (.snoc .nil trivial rfl) trivial rfl
  refine ⟨_, _, run, ((discovery_exact run).1 _ _ _).mpr ⟨rfl, [], _, _, _, _, rfl, rfl, ?_⟩⟩
  intro action member
  rw [List.mem_singleton.mp member]
  rfl

end ServiceDiscovery
end Msomeip.Sd
