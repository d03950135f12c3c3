import Msomeip.Sd.OfferRounds

namespace Msomeip.Sd.Worker

open ServiceDiscovery

/-- The offer for the service that the event stores, if any. -/
def Event.offer (key : ServiceId × InstanceId) : Event → Option ServiceInfo
  | .call (.handle (.offerService entry options) moment) =>
    if (entry.serviceId, entry.instanceId) = key then some (offeredInfo entry options moment.now)
    else none
  | _ => none

/-- The offer for the service that was stored last. -/
def latestOffer (key : ServiceId × InstanceId) (ticks : List Tick) : Option ServiceInfo :=
  Runs.latest (fun tick => tick.event.offer key) ticks

theorem latestOffer_snoc (key : ServiceId × InstanceId) (ticks : List Tick) (tick : Tick) :
    latestOffer key (ticks ++ [tick]) = (tick.event.offer key).or (latestOffer key ticks) :=
  Runs.latest_snoc _ ticks tick

variable {worker final : Worker} {event : Event} {now delta : Int}
  {reports emitted : List (Int × Report)} {key : ServiceId × InstanceId} {info : ServiceInfo}

/-- A call from outside grants or leaves what is discovered. -/
theorem leaseChange_outside {action : Action} (outside : action.byWorker = false) :
    leaseChange key action = ((Event.call action).offer key).map Leases.Change.grant := by
  cases action with
  | checkTtlExpiration now => cases outside
  | handle call moment =>
    cases call with
    | offerService entry options =>
      simp only [leaseChange, Event.offer]
      split <;> rfl
    | _ => rfl
  | _ => rfl

/-- What is discovered after a step was stored by it, or was there before and the sweep, if it was
    one, spared it. -/
theorem discovered_moves (moves : Moves worker now event final emitted)
    (found : final.discovery.discoveredServices[key]? = some info) :
    event.offer key = some info ∨ event.offer key = none ∧
      worker.discovery.discoveredServices[key]? = some info ∧
      (final.sweptAt = worker.sweptAt ∨ final.sweptAt = now ∧
        ∃ reading ∈ worker.turn.reading, reading < info.ends) := by
  cases moves with
  | @swept reading sweeping =>
    rw [lookup_perform] at found
    obtain ⟨before, spared⟩ := Option.filter_eq_some_iff.mp found
    have alive : reading < info.ends := by simpa using spared
    exact .inr ⟨rfl, before, .inr ⟨rfl, reading, by rw [sweeping]; rfl, alive⟩⟩
  | @called action mutex outside read =>
    rw [lookup_perform, leaseChange_outside outside] at found
    cases offer : (Event.call action).offer key with
    | none =>
      rw [offer] at found
      exact .inr ⟨rfl, found, .inl rfl⟩
    | some other =>
      rw [offer] at found
      exact .inl found
  | _ => exact .inr ⟨rfl, found, .inl rfl⟩

/-- What was discovered still is, unless the step stores another offer for it or sweeps it away. -/
theorem moves_discovered (moves : Moves worker now event final emitted)
    (read : ∀ reading ∈ worker.turn.reading, reading ≤ now)
    (before : worker.discovery.discoveredServices[key]? = some info) (alive : now < info.ends)
    (same : event.offer key = none) :
    final.discovery.discoveredServices[key]? = some info := by
  cases moves with
  | @swept reading sweeping =>
    have earlier : reading < info.ends :=
      Int.lt_of_le_of_lt (read reading (by rw [sweeping]; rfl)) alive
    rw [lookup_perform, before]
    simp [leaseChange, Leases.Change.apply, earlier]
  | @called action mutex outside _ =>
    rw [lookup_perform, leaseChange_outside outside, same]
    exact before
  | _ => exact before

theorem moves_stored (moves : Moves worker now event final emitted)
    (stored : event.offer key = some info) :
    final.discovery.discoveredServices[key]? = some info := by
  cases moves with
  | @called action mutex outside read =>
    rw [lookup_perform, leaseChange_outside outside, stored]
    rfl
  | _ => cases stored

theorem sweptAt_moves (moves : Moves worker now event final emitted) :
    final.clock = worker.clock ∧ (final.sweptAt = worker.sweptAt ∨ final.sweptAt = now) := by
  cases moves with
  | swept sweeping => exact ⟨rfl, .inr rfl⟩
  | _ => exact ⟨rfl, .inl rfl⟩

theorem reading_next : worker.next.reading = none := by
  unfold next
  split <;> rfl

/-- What the thread is about to work with it has read from the clock just now or before the step,
    and before a step that does not sweep. -/
theorem reading_moves (moves : Moves worker now event final emitted) {reading : Int}
    (member : reading ∈ final.turn.reading) : reading = now ∨
      reading ∈ worker.turn.reading ∧ final.sweptAt = worker.sweptAt := by
  cases moves with
  | runs running => exact .inr ⟨member, rfl⟩
  | stopped => exact .inr ⟨member, rfl⟩
  | locked free => exact .inr ⟨member, rfl⟩
  | entered free => exact .inr ⟨member, rfl⟩
  | called mutex outside read => exact .inr ⟨member, rfl⟩
  | read expiring => exact .inl (Option.some.inj member).symm
  | found offering due => exact .inl (Option.some.inj member).symm
  | armed starting =>
    rw [reading_next] at member
    cases member
  | retried retrying =>
    rw [reading_next] at member
    cases member
  | _ => cases member

/-- The reading of the clock is that of the stored offer. -/
theorem reading_offer (stored : event.offer key = some info) :
    info.lastUpdate ∈ event.reading := by
  unfold Event.offer at stored
  split at stored
  · split at stored
    · cases stored
      rfl
    · cases stored
  · cases stored

theorem lastUpdate_lt_ends (info : ServiceInfo) : info.lastUpdate < info.ends := by
  have positive : 0 < ((info.ttl.toNat : Int) + 1) * 1000000000 := by omega
  exact Int.lt_add_of_pos_right info.lastUpdate positive

/-- The table holds the offers that were stored last, each at least until it ends and, `delta` being
    how late the thread may be, not much longer. -/
structure Fresh (delta : Int) (ticks : List Tick) (worker : Worker) : Prop where
  past : worker.sweptAt ≤ worker.clock
  prompt : worker.clock ≤ worker.sweptAt + delta
  read : ∀ reading ∈ worker.turn.reading, worker.sweptAt ≤ reading ∧ reading ≤ worker.clock
  fresh : ∀ (key : ServiceId × InstanceId) info,
    worker.discovery.discoveredServices[key]? = some info → worker.sweptAt < info.ends + delta
  latest : ∀ (key : ServiceId × InstanceId) info,
    worker.discovery.discoveredServices[key]? = some info → latestOffer key ticks = some info
  kept : ∀ (key : ServiceId × InstanceId) info, latestOffer key ticks = some info →
    worker.clock < info.ends → worker.discovery.discoveredServices[key]? = some info

theorem Fresh.step {ticks : List Tick} {tick : Tick} (fresh : Fresh delta ticks worker)
    (timely : Timely delta worker tick)
    (stepped : step worker tick = some (final, emitted)) :
    Fresh delta (ticks ++ [tick]) final := by
  obtain ⟨swept, -, read⟩ := timely
  obtain ⟨later, moves⟩ := moves_of_step stepped
  obtain ⟨clock, sweptAt⟩ := sweptAt_moves moves
  have past := fresh.past
  have known : ∀ reading ∈ worker.turn.reading, worker.sweptAt ≤ reading ∧ reading ≤ tick.now :=
    fun reading member => ⟨(fresh.read reading member).1, (fresh.read reading member).2.trans later⟩
  simp only at clock sweptAt
  constructor
  · omega
  · omega
  · intro reading member
    rcases reading_moves moves member with rfl | ⟨before, same⟩
    · omega
    · have earlier := known reading before
      simp only at same
      omega
  · intro key info found
    rcases discovered_moves moves found with
      stored | ⟨-, before, unswept | ⟨now, reading, member, spared⟩⟩
    · have reading : tick.now ≤ info.lastUpdate + delta := read _ (reading_offer stored)
      have early : tick.now < info.ends + delta :=
        Int.lt_of_le_of_lt reading (Int.add_lt_add_right (lastUpdate_lt_ends info) delta)
      omega
    · have earlier := fresh.fresh key info before
      simp only at unswept
      omega
    · have since := known reading member
      omega
  · intro key info found
    rw [latestOffer_snoc]
    rcases discovered_moves moves found with stored | ⟨none, before, -⟩
    · rw [stored, Option.some_or]
    · rw [none, Option.none_or]
      exact fresh.latest key info before
  · intro key info latest alive
    rw [latestOffer_snoc] at latest
    rw [clock] at alive
    cases stored : tick.event.offer key with
    | some other =>
      rw [stored, Option.some_or] at latest
      obtain rfl := Option.some.inj latest
      exact moves_stored moves stored
    | none =>
      rw [stored, Option.none_or] at latest
      have before := fresh.kept key info latest (Int.lt_of_le_of_lt later alive)
      exact moves_discovered moves (fun reading member => (known reading member).2) before alive
        stored

/-- An offer for three seconds arrives before the first turn of the thread. -/
def offerArrives : List Tick :=
  [⟨0, .work⟩, ⟨0, .lock⟩, ⟨0, .call (.handle (.offerService
    (.createOfferService 0x1234 0x0001 1 0 3) [offerEndpoint]) ⟨0, true⟩)⟩] ++ turnAt 50000000

end Msomeip.Sd.Worker
