import Msomeip.Sd.OfferCalls

namespace Msomeip.Sd.ServiceDiscovery

/-- The steps whose entries take something back: a stop-offer, or the refusal of a subscription. -/
def withdraws (sd : ServiceDiscovery) : Action → Bool
  | .stopOfferService .. => true
  | .handle (.subscribeEventgroup entry _) moment => !sd.accepts entry moment
  | _ => false

/-- Of the entries that a step sends, other than FIND, a receiver reads a TTL of 0 exactly from
    those that take something back. -/
def TtlLaw (sd : ServiceDiscovery) (action : Action) : Prop :=
  ∀ entry message address port, .sent entry message address port ∈ (sd.perform action).2 →
    entry.type ≠ .findService →
      ∃ wire, wireEntry message = some wire ∧ (wire.ttl = 0 ↔ sd.withdraws action = true)

/-- The TTL that the step brings in is not 0 in the 24 bits of the wire. -/
def KeepsTtl (sd : ServiceDiscovery) : Action → Prop
  | .offerService config _ => config.ttl % 2 ^ 24 ≠ 0
  | .retryPendingSubscriptions =>
    (∃ sub ∈ sd.pendingSubscriptions, sub.retryCount < sd.config.repetitionMax) →
      sd.config.ttlFactorSubscriptions.tdiv 1000 % 2 ^ 24 ≠ 0
  | _ => True

def LiveTtl (sd : ServiceDiscovery) : Prop :=
  ∀ (key : ServiceId × InstanceId) (info : ServiceInfo), sd.localServices[key]? = some info →
    info.ttl % 0x1000000 ≠ 0

theorem truncated_eq_zero {ttl : Int} : UInt32.ofInt ttl % 0x1000000 = 0 ↔ ttl % 2 ^ 24 = 0 := by
  rw [← UInt32.toNat_inj, ← truncated_ofInt ttl]
  exact Int.natCast_eq_zero.symm

theorem callFor_offer {key : ServiceId × InstanceId} {action : Action} {config : ServiceConfig}
    (called : action.callFor key = some (some config)) :
    ∃ now, action = .offerService config now := by
  unfold Action.callFor at called
  split at called
  · split at called
    · cases called
      exact ⟨_, rfl⟩
    · cases called
  · split at called <;> cases called
  · cases called

theorem liveTtl_step {sd : ServiceDiscovery} {action : Action} (live : sd.LiveTtl)
    (keeps : sd.KeepsTtl action) : (sd.perform action).1.LiveTtl := by
  intro key info found
  have same := localServices_perform sd action key
  rw [found] at same
  cases called : action.callFor key with
  | none =>
    rw [called] at same
    obtain ⟨before, stored, offer⟩ := Option.map_eq_some_iff.mp same.symm
    have ttl : before.ttl = info.ttl := congrArg ServiceEntry.ttl offer
    exact ttl ▸ live key before stored
  | some call =>
    rw [called] at same
    obtain ⟨config, rfl, offer⟩ := Option.map_eq_some_iff.mp same.symm
    obtain ⟨now, rfl⟩ := callFor_offer called
    have ttl : UInt32.ofInt config.ttl = info.ttl := congrArg ServiceEntry.ttl offer
    exact ttl ▸ truncated_eq_zero.not.mpr keeps

theorem liveTtl_run {config : Config} {actions : List Action} {effects : List Effect}
    {sd : ServiceDiscovery}
    (guarded : Runs.Guarded step KeepsTtl (create config) actions effects sd) : sd.LiveTtl := by
  apply guarded.invariant fun _ _ sd => sd.LiveTtl
  · intro key info found
    simp [create] at found
  · intro actions effects sd action next emitted live keeps stepped
    obtain ⟨rfl, rfl⟩ := step_some stepped
    exact liveTtl_step live keeps

theorem ttlLaw_of_keeps {sd : ServiceDiscovery} {action : Action} (live : sd.LiveTtl)
    (keeps : sd.KeepsTtl action) : sd.TtlLaw action := by
  intro entry message address port sent noFind
  obtain ⟨sends, wire⟩ := perform_sends sent
  refine ⟨entry.truncated, wire, ?_⟩
  cases sends with
  | offer config now => exact iff_of_false (truncated_eq_zero.not.mpr keeps) Bool.false_ne_true
  | stopOffer found => exact iff_of_true rfl rfl
  | find => exact (noFind rfl).elim
  | found present => exact iff_of_false (live _ _ present) Bool.false_ne_true
  | periodic present => exact iff_of_false (live _ _ present) Bool.false_ne_true
  | ack present accepted => exact iff_of_false (live _ _ present) (by simp [withdraws, accepted])
  | nack present refused => exact iff_of_true rfl (by simp [withdraws, refused])
  | retry pending left =>
    exact iff_of_false (truncated_eq_zero.not.mpr (keeps ⟨_, pending, left⟩)) Bool.false_ne_true

theorem sent_send {sd : ServiceDiscovery} (callback : sd.sendMessageCallback = true)
    (method : MethodId) (entry : ServiceEntry) :
    .sent entry (sdMessage method entry) sd.config.multicastAddress sd.config.port ∈
      sd.send method entry := by
  rw [send, if_pos callback]
  exact List.mem_singleton_self _

theorem not_ttlLaw {sd : ServiceDiscovery} {action : Action} {entry : ServiceEntry}
    {method : MethodId} {address : String} {port : UInt16}
    (sent : .sent entry (sdMessage method entry) address port ∈ (sd.perform action).2)
    (noFind : entry.type ≠ .findService) (stays : sd.withdraws action = false)
    (zero : entry.ttl % 0x1000000 = 0) : ¬ sd.TtlLaw action := by
  intro law
  obtain ⟨wire, read, exact'⟩ := law _ _ _ _ sent noFind
  rw [wireEntry_sdMessage] at read
  obtain rfl := Option.some.inj read
  have taken := exact'.mp zero
  rw [stays] at taken
  cases taken

theorem keeps_of_ttlLaw {sd : ServiceDiscovery} {action : Action}
    (callback : sd.sendMessageCallback = true) (law : sd.TtlLaw action) : sd.KeepsTtl action := by
  unfold KeepsTtl
  split
  · rename_i config now
    intro zero
    have sent : .sent config.offer (sdMessage someipSdMethodOfferService config.offer)
        sd.config.multicastAddress sd.config.port ∈ (sd.perform (.offerService config now)).2 :=
      sent_send callback someipSdMethodOfferService config.offer
    exact not_ttlLaw sent nofun rfl (truncated_eq_zero.mpr zero) law
  · intro retried zero
    obtain ⟨sub, pending, left⟩ := retried
    obtain ⟨entry, sends, ttl⟩ : ∃ entry, sd.sendSubscribeEventgroup sub =
        sd.send someipSdMethodSubscribeEventgroup entry ∧
          entry.ttl = UInt32.ofInt (sd.config.ttlFactorSubscriptions.tdiv 1000) ∧
          entry.type ≠ .findService := ⟨_, rfl, rfl, nofun⟩
    have sent : .sent entry (sdMessage someipSdMethodSubscribeEventgroup entry)
        sd.config.multicastAddress sd.config.port ∈
          (sd.perform .retryPendingSubscriptions).2 := by
      apply List.mem_flatMap.mpr
      refine ⟨sub, pending, ?_⟩
      rw [if_pos left, sends]
      exact sent_send callback _ entry
    exact not_ttlLaw sent ttl.2 rfl (ttl.1 ▸ truncated_eq_zero.mpr zero) law
  · trivial

/-- In a run whose steps keep the TTLs the law holds of every step, and the first step that does not
    breaks it, where a callback is set. -/
theorem ttlLaw_run {config : Config} {actions : List Action} {effects : List Effect}
    {sd : ServiceDiscovery}
    (guarded : Runs.Guarded step KeepsTtl (create config) actions effects sd) (action : Action) :
    (sd.KeepsTtl action → sd.TtlLaw action) ∧
      (sd.sendMessageCallback = true → sd.TtlLaw action → sd.KeepsTtl action) :=
  ⟨ttlLaw_of_keeps (liveTtl_run guarded), keeps_of_ttlLaw⟩

def pendingSubscription : List Action :=
  [.setSendMessageCallback true, .subscribeEventgroup 0x1234 0x0001 0x0007 1 0]

theorem pendingSubscription_kept :
    ∃ sd, (∃ effects, Runs.Guarded step KeepsTtl (create { ttlFactorSubscriptions := 3000 })
      pendingSubscription effects sd) ∧ sd.TtlLaw .retryPendingSubscriptions := by
  have guarded := ((Runs.Guarded.nil.snoc trivial rfl).snoc trivial rfl :
    Runs.Guarded step KeepsTtl (create { ttlFactorSubscriptions := 3000 }) pendingSubscription _ _)
  refine ⟨_, ⟨_, guarded⟩, (ttlLaw_run guarded .retryPendingSubscriptions).1 ?_⟩
  intro _
  decide

theorem pendingSubscription_stopped : ¬ ∀ config actions effects sd action,
    0 < config.ttlFactorSubscriptions →
    (∀ service now, .offerService service now ∈ actions ++ [action] → 0 < service.ttl) →
    Runs.Run step (create config) actions effects sd → sd.TtlLaw action := by
  intro all
  have run := ((Runs.Guarded.nil.snoc trivial rfl).snoc trivial rfl :
    Runs.Run step (create {}) pendingSubscription _ _)
  have law := all {} pendingSubscription _ _ .retryPendingSubscriptions (by decide)
    (by simp [pendingSubscription]) run
  have sent : .sent (.createSubscribeEventgroup 0x1234 0x0001 0x0007 0xFF 0)
      (sdMessage someipSdMethodSubscribeEventgroup
        (.createSubscribeEventgroup 0x1234 0x0001 0x0007 0xFF 0))
      "224.244.224.245" 30490 ∈
        (((create {}).perform (.setSendMessageCallback true)).1.perform
          (.subscribeEventgroup 0x1234 0x0001 0x0007 1 0)).1.retryPendingSubscriptions := by
    decide +kernel
  exact not_ttlLaw sent (by decide) rfl (by decide) law

end Msomeip.Sd.ServiceDiscovery
