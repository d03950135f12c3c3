import Msomeip.Sd.Actions
import Msomeip.Sd.ParserDecode

namespace Msomeip.Sd

def Action.offerFor (key : ServiceId × InstanceId) : Action → Option ServiceEntry
  | .handle (.offerService entry _) _ =>
    if (entry.serviceId, entry.instanceId) = key then some entry else none
  | _ => none

def latestOffer (actions : List Action) (key : ServiceId × InstanceId) : Option ServiceEntry :=
  (actions.filterMap (Action.offerFor key)).getLast?

def Action.NoStopOffer : Action → Prop
  | .handle (.offerService entry _) _ => 0 < entry.ttl
  | _ => True

namespace ServiceDiscovery

/-- What can be looked up was offered last with a positive TTL. -/
def LiveOnly (actions : List Action) (sd : ServiceDiscovery) : Prop :=
  ∀ service instance', sd.getServiceInfo service instance' ≠ none ∨
      sd.getServiceEndpoints service instance' ≠ [] →
    ∃ entry, latestOffer actions (service, instance') = some entry ∧ 0 < entry.ttl

theorem latestOffer_snoc (actions : List Action) (action : Action) (key : ServiceId × InstanceId) :
    latestOffer (actions ++ [action]) key =
      (action.offerFor key).or (latestOffer actions key) :=
  Runs.latest_snoc (Action.offerFor key) actions action

theorem liveOnly_iff {actions : List Action} {sd : ServiceDiscovery} :
    LiveOnly actions sd ↔ ∀ key ∈ sd.discoveredServices,
      ∃ entry, latestOffer actions key = some entry ∧ 0 < entry.ttl := by
  constructor
  · intro live key found
    have present := Std.ExtTreeMap.mem_iff_isSome_getElem?.mp found
    have visible : sd.getServiceInfo key.1 key.2 ≠ none := by
      intro absent
      rw [getServiceInfo] at absent
      rw [absent] at present
      cases present
    exact live key.1 key.2 (.inl visible)
  · intro live service instance' visible
    apply live (service, instance')
    by_contra absent
    have none : sd.discoveredServices[(service, instance')]? = none :=
      Std.ExtTreeMap.getElem?_eq_none absent
    simp [getServiceInfo, getServiceEndpoints, none] at visible

theorem discovered_handleSubscribeEventgroup (sd : ServiceDiscovery) (entry : ServiceEntry)
    (options : List SdOption) (accepts : Bool) :
    (sd.handleSubscribeEventgroup entry options accepts).1.discoveredServices =
      sd.discoveredServices := by
  rw [handleSubscribeEventgroup_frame]

theorem discovered_perform {sd : ServiceDiscovery} {action : Action}
    {key : ServiceId × InstanceId} (found : key ∈ (sd.perform action).1.discoveredServices) :
    key ∈ sd.discoveredServices ∨ (action.offerFor key).isSome := by
  cases action with
  | stopOfferService service instance' =>
    simp only [perform, stopOfferService] at found
    split at found <;> exact .inl found
  | checkTtlExpiration now => exact .inl (Std.ExtTreeMap.mem_of_mem_filter found)
  | handle call moment =>
    cases call with
    | offerService entry options =>
      simp only [perform, handle, handleOfferService, updateServiceInfo, Std.ExtTreeMap.mem_insert,
        Std.LawfulEqCmp.compare_eq_iff_eq] at found
      rcases found with same | found
      · exact .inr (by simp [Action.offerFor, ← same, offeredInfo])
      · exact .inl found
    | subscribeEventgroup entry options =>
      simp only [perform, handle, discovered_handleSubscribeEventgroup] at found
      exact .inl found
    | _ => exact .inl found
  | _ => exact .inl found

theorem offer_discovered (sd : ServiceDiscovery) (entry : ServiceEntry) (options : List SdOption)
    (moment : Moment) : (entry.serviceId, entry.instanceId) ∈
      (sd.perform (.handle (.offerService entry options) moment)).1.discoveredServices := by
  simp [perform, handle, handleOfferService, updateServiceInfo, offeredInfo]

theorem liveOnly_step {actions : List Action} {sd : ServiceDiscovery} {action : Action}
    (live : LiveOnly actions sd) (offers : action.NoStopOffer) :
    LiveOnly (actions ++ [action]) (sd.perform action).1 := by
  rw [liveOnly_iff] at live ⊢
  intro key found
  rw [latestOffer_snoc]
  cases offered : action.offerFor key with
  | some entry =>
    have positive : 0 < entry.ttl := by
      unfold Action.offerFor at offered
      split at offered
      · split at offered
        · cases offered
          exact offers
        · cases offered
      · cases offered
    exact ⟨entry, rfl, positive⟩
  | none =>
    rcases discovered_perform found with found | offer
    · exact live key found
    · simp [offered] at offer

theorem liveOnly_run {config : Config} {actions : List Action} {effects : List Effect}
    {sd : ServiceDiscovery}
    (guarded : Runs.Guarded step (fun _ action => action.NoStopOffer) (create config) actions
      effects sd) : LiveOnly actions sd := by
  apply guarded.invariant (fun actions _ sd => LiveOnly actions sd)
  · rw [liveOnly_iff]
    intro key found
    exact (Std.ExtTreeMap.not_mem_empty found).elim
  · intro actions _ sd action next emitted live offers stepped
    obtain ⟨rfl, rfl⟩ := Prod.mk.inj (Option.some.inj stepped)
    exact liveOnly_step live offers

theorem noStopOffer_of_live {actions : List Action} {sd : ServiceDiscovery} {action : Action}
    (live : LiveOnly (actions ++ [action]) (sd.perform action).1) : action.NoStopOffer := by
  unfold Action.NoStopOffer
  split
  · rename_i entry options moment
    have discovered := offer_discovered sd entry options moment
    obtain ⟨latest, found, positive⟩ := liveOnly_iff.mp live _ discovered
    rw [latestOffer_snoc] at found
    simp only [Action.offerFor, if_true, Option.some_or, Option.some.injEq] at found
    rwa [found]
  · trivial

/-- Lookups show live offers only, in every state of a run, exactly when no stop offer is processed
    in it. -/
theorem liveOnly_iff_noStopOffer {config : Config} {actions : List Action} {effects : List Effect}
    {sd : ServiceDiscovery} (run : Runs.Run step (create config) actions effects sd) :
    Runs.Always step (create config) (fun actions _ sd => LiveOnly actions sd) actions ↔
      ∀ action ∈ actions, action.NoStopOffer := by
  rw [← run.guarded_iff]
  apply Runs.always_iff_guarded _ _ run
  · exact fun actions effects sd guarded => liveOnly_run guarded
  · intro actions effects sd action next emitted _ stepped live
    obtain ⟨rfl, rfl⟩ := Prod.mk.inj (Option.some.inj stepped)
    exact noStopOffer_of_live live

def offerWithTtl (ttl : UInt32) : Message :=
  { payload := some (.ofData (encodeSdPayload 0xC0 0 0 0
      [.createOfferService 0x1234 0x0001 1 0 ttl] [offerEndpoint] [])) }

def received (message : Message) : List Action :=
  (handlersOf message (fun _ => 0) fun _ => ⟨0, true⟩).map fun (call, moment) => .handle call moment

theorem offer_liveOnly : Runs.Always step (create {}) (fun actions _ sd => LiveOnly actions sd)
    (received (offerWithTtl 3)) := by
  apply (liveOnly_iff_noStopOffer (processSdMessage_run (create {}) (offerWithTtl 3) _ _)).mpr
  have one : (parseSdMessage (offerWithTtl 3) fun _ => 0).val =
      [.offerService (.createOfferService 0x1234 0x0001 1 0 3) [offerEndpoint]] := by
    decide +kernel
  simp [handlersOf, one, Action.NoStopOffer, ServiceEntry.createOfferService]

theorem stopOffer_discovered : ¬ ∀ config actions effects sd,
    Runs.Run step (create config) actions effects sd → LiveOnly actions sd := by
  intro all
  have live := all {} _ _ _
    (processSdMessage_run (create {}) (offerWithTtl 0) (fun _ => 0) fun _ => ⟨0, true⟩)
  obtain ⟨entry, found, positive⟩ := live 0x1234 0x0001 (.inl (by decide +kernel))
  have stop : latestOffer (received (offerWithTtl 0)) (0x1234, 0x0001) =
      some (.createOfferService 0x1234 0x0001 1 0 0) := by decide +kernel
  rw [received] at stop
  rw [stop] at found
  cases found
  revert positive
  decide

end ServiceDiscovery
end Msomeip.Sd
