import Msomeip.Sd.Actions
import Msomeip.Sd.ParserDecode

namespace Msomeip.Sd

/-- A peer that processes the message calls one handler, the one for the entry. -/
def PeerHandles (message : Message) (entry : ServiceEntry) : Prop :=
  ∀ beyond, ∃ call options,
    (parseSdMessage message beyond).val = [call] ∧ call.Serves options entry

/-- A sent message carries the entry its sender built and nothing else. -/
def Effect.Bare : Effect → Prop
  | .sent entry message _ _ => ∃ method, message = ServiceDiscovery.sdMessage method entry
  | _ => True

/-- The method ids of the messages that are sent. -/
def sdMethods : List MethodId :=
  [someipSdMethodFindService, someipSdMethodOfferService, someipSdMethodSubscribeEventgroup,
    someipSdMethodSubscribeEventgroupAck, someipSdMethodSubscribeEventgroupNack]

def Effect.Made : Effect → Prop
  | .sent entry message _ _ => ∃ method ∈ sdMethods, message = ServiceDiscovery.sdMessage method entry
  | _ => True

theorem Effect.Made.bare {effect : Effect} (made : effect.Made) : effect.Bare := by
  cases effect with
  | sent entry message address port =>
    obtain ⟨method, -, same⟩ := made
    exact ⟨method, same⟩
  | _ => trivial

namespace ServiceDiscovery

theorem send_made (sd : ServiceDiscovery) {method : MethodId} (known : method ∈ sdMethods)
    (entry : ServiceEntry) : ∀ effect ∈ sd.send method entry, effect.Made := by
  have made (address : String) (port : UInt16) :
      (Effect.sent entry (sdMessage method entry) address port).Made := ⟨method, known, rfl⟩
  unfold send
  split
  · exact List.forall_mem_singleton.mpr (made _ _)
  · exact List.forall_mem_nil _

theorem flatMap_made {α : Type} (emit : α → List Effect) (sources : List α)
    (made : ∀ source, ∀ effect ∈ emit source, effect.Made) :
    ∀ effect ∈ sources.flatMap emit, effect.Made := by
  intro effect member
  obtain ⟨source, -, emitted⟩ := List.mem_flatMap.mp member
  exact made source effect emitted

theorem guarded_made {condition : Prop} [Decidable condition] {emitted : List Effect}
    (made : ∀ effect ∈ emitted, effect.Made) :
    ∀ effect ∈ (if condition then emitted else []), effect.Made := by
  split
  · exact made
  · exact List.forall_mem_nil _

theorem handleSubscribeEventgroup_made (sd : ServiceDiscovery) (entry : ServiceEntry)
    (options : List SdOption) (accepts : Bool) :
    ∀ effect ∈ (sd.handleSubscribeEventgroup entry options accepts).2, effect.Made := by
  have asked (subscription : SubscriptionInfo) :
      ∀ effect ∈ (if sd.subscriptionHandler then [Effect.asked subscription] else []),
        effect.Made :=
    guarded_made (List.forall_mem_singleton.mpr trivial)
  unfold handleSubscribeEventgroup
  split
  · exact List.forall_mem_nil _
  · simp only
    split
    · exact List.forall_mem_append.mpr ⟨asked _, sd.send_made (by decide) _⟩
    · exact List.forall_mem_append.mpr ⟨asked _, sd.send_made (by decide) _⟩

theorem handle_made (sd : ServiceDiscovery) (call : HandlerCall) (moment : Moment) :
    ∀ effect ∈ (sd.handle call moment).2, effect.Made := by
  cases call with
  | findService entry => exact flatMap_made _ _ fun info => guarded_made (sd.send_made (by decide) _)
  | offerService entry options => exact guarded_made (List.forall_mem_singleton.mpr trivial)
  | subscribeEventgroup entry options =>
    exact sd.handleSubscribeEventgroup_made entry options moment.accepted
  | subscribeEventgroupAck entry => exact List.forall_mem_nil _

theorem perform_made (sd : ServiceDiscovery) (action : Action) :
    ∀ effect ∈ (sd.perform action).2, effect.Made := by
  cases action with
  | offerService config now => exact sd.send_made (by decide) _
  | findService service instance' now => exact sd.send_made (by decide) _
  | stopOfferService service instance' =>
    simp only [perform, stopOfferService]
    split
    · exact List.forall_mem_nil _
    · exact sd.send_made (by decide) _
  | handle call moment =>
    exact List.forall_mem_cons.mpr ⟨trivial, sd.handle_made call moment⟩
  | checkTtlExpiration now =>
    apply guarded_made
    intro effect member
    obtain ⟨info, -, rfl⟩ := List.mem_map.mp member
    trivial
  | sendPeriodicOffers => exact flatMap_made _ _ fun info => guarded_made (sd.send_made (by decide) _)
  | retryPendingSubscriptions => exact flatMap_made _ _ fun sub => guarded_made (sd.send_made (by decide) _)
  | _ => exact List.forall_mem_nil _

theorem perform_bare (sd : ServiceDiscovery) (action : Action) :
    ∀ effect ∈ (sd.perform action).2, effect.Bare :=
  fun effect member => (sd.perform_made action effect member).bare

theorem run_made {config : Config} {actions : List Action} {effects : List Effect}
    {sd : ServiceDiscovery} (run : Runs.Run step (create config) actions effects sd) :
    ∀ effect ∈ effects, effect.Made := by
  apply run.invariant (fun _ effects _ => ∀ effect ∈ effects, effect.Made)
  · exact List.forall_mem_nil _
  · intro actions effects sd action next emitted made _ stepped
    obtain ⟨rfl, rfl⟩ := Prod.mk.inj (Option.some.inj stepped)
    exact List.forall_mem_append.mpr ⟨made, sd.perform_made action⟩

end ServiceDiscovery

theorem parseSdMessage_short {message : Message} {payload : Payload}
    (carries : message.payload = some payload)
    (short : payload.size < sdHeaderSize + ServiceEntry.entrySize) (beyond : Nat → UInt8) :
    (parseSdMessage message beyond).val = [] := by
  have noEntry (entriesEnd : Nat) : parseEntries (Tracked.buffer payload.data beyond) payload.size
      entriesEnd sdHeaderSize = pure [] := by
    rw [parseEntries, if_neg (by omega)]
  simp only [parseSdMessage, carries, noEntry, Tracked.val_ite, Tracked.val_bind, Tracked.val_pure,
    List.filterMap_nil, ite_self]

theorem Effect.Bare.unread {entry : ServiceEntry} {message : Message} {address : String}
    {port : UInt16} (bare : (Effect.sent entry message address port).Bare) (beyond : Nat → UInt8) :
    (parseSdMessage message beyond).val = [] := by
  obtain ⟨method, rfl⟩ := bare
  exact parseSdMessage_short rfl (by simp [sdHeaderSize]) beyond

namespace ServiceDiscovery

/-- No message that is sent reaches a handler of a peer, and no peer changes. -/
theorem sent_unread {config : Config} {actions : List Action} {effects : List Effect}
    {sd : ServiceDiscovery} (run : Runs.Run step (create config) actions effects sd)
    {entry : ServiceEntry} {message : Message} {address : String} {port : UInt16}
    (sent : .sent entry message address port ∈ effects) :
    ¬ PeerHandles message entry ∧
      ∀ peer beyond moments, processSdMessage peer message beyond moments = (peer, []) := by
  have unread := (run_made run _ sent).bare.unread
  have unhandled : ¬ PeerHandles message entry := by
    intro handles
    obtain ⟨call, options, one, -⟩ := handles fun _ => 0
    rw [unread] at one
    cases one
  have unchanged (peer : ServiceDiscovery) (beyond : Nat → UInt8) (moments : Nat → Moment) :
      processSdMessage peer message beyond moments = (peer, []) := by
    simp [processSdMessage, handlersOf, unread, handleAll]
  exact ⟨unhandled, unchanged⟩

def offeredConfig : ServiceConfig :=
  { serviceId := 0x1234, instanceId := 0x0001, majorVersion := 1, minorVersion := 0, ttl := 3,
    reliable := false, unreliable := true, unreliablePort := 30509 }

def offering : List Action := [.setSendMessageCallback true, .offerService offeredConfig 0]

def initialOffer : Effect :=
  let entry := ServiceEntry.createOfferService 0x1234 0x0001 1 0 3
  .sent entry (sdMessage someipSdMethodOfferService entry) "224.244.224.245" 30490

theorem offering_run : ∃ sd, Runs.Run step (create {}) offering [initialOffer] sd :=
  Runs.exists_guarded (by decide +kernel)

theorem initialOffer_unread : ¬ PeerHandles (sdMessage someipSdMethodOfferService
    (.createOfferService 0x1234 0x0001 1 0 3)) (.createOfferService 0x1234 0x0001 1 0 3) := by
  obtain ⟨sd, run⟩ := offering_run
  exact (sent_unread run (List.mem_singleton_self initialOffer)).1

theorem initialOffer_unhandled : ¬ ∀ config actions effects sd,
    Runs.Run step (create config) actions effects sd → ∀ entry message address port,
      .sent entry message address port ∈ effects → PeerHandles message entry := by
  intro all
  obtain ⟨sd, run⟩ := offering_run
  obtain ⟨call, options, one, -⟩ :=
    all _ _ _ _ run _ _ _ _ (List.mem_singleton_self initialOffer) fun _ => 0
  have none : (parseSdMessage (sdMessage someipSdMethodOfferService
      (.createOfferService 0x1234 0x0001 1 0 3)) fun _ => 0).val = [] := by decide +kernel
  rw [none] at one
  cases one

end ServiceDiscovery
end Msomeip.Sd
