import Mathlib.Algebra.Order.Ring.Int
import Msomeip.Library.Polling
import Msomeip.Sd.OfferCalls
import Msomeip.Sd.Worker

namespace Msomeip.Sd

namespace ServiceDiscovery

/-- An OFFER for the service is among the effects. -/
def Announces (info : ServiceInfo) (effects : List Effect) : Prop :=
  ∃ message address port, .sent info.offer message address port ∈ effects

variable {sd : ServiceDiscovery} {action : Action} {key : ServiceId × InstanceId}
  {info : ServiceInfo}

theorem announces_offer (sends : sd.sendMessageCallback = true) :
    Announces info (sd.sendOfferService info) := by
  have sent : sd.sendOfferService info = [.sent info.offer
      (sdMessage someipSdMethodOfferService info.offer) sd.config.multicastAddress
      sd.config.port] := if_pos sends
  rw [sent]
  exact ⟨_, _, _, List.mem_singleton_self _⟩

theorem announces_periodic (sends : sd.sendMessageCallback = true)
    (found : sd.localServices[key]? = some info) (offered : info.isOffered = true) :
    Announces info sd.sendPeriodicOffers := by
  have announced : Announces info (sd.sendOfferService info) := announces_offer sends
  obtain ⟨message, address, port, member⟩ := announced
  refine ⟨message, address, port, List.mem_flatMap.mpr ⟨info, Maps.mem_values.mpr ⟨key, found⟩, ?_⟩⟩
  rw [if_pos offered]
  exact member

/-- A service gets into the registry by a call that announces it. -/
theorem local_perform (sends : sd.sendMessageCallback = true)
    (found : (sd.perform action).1.localServices[key]? = some info) :
    sd.localServices[key]? = some info ∨
      info.isOffered = true ∧ Announces info (sd.perform action).2 := by
  cases action with
  | offerService config now =>
    simp only [perform, offerService, Maps.lookup_insert] at found
    split at found
    · obtain rfl := Option.some.inj found
      exact .inr ⟨rfl, announces_offer sends⟩
    · exact .inl found
  | stopOfferService service instance' =>
    simp only [perform, stopOfferService] at found
    split at found
    · exact .inl found
    · exact .inl (Maps.lookup_erase_some.mp found).2
  | handle call moment =>
    cases call with
    | subscribeEventgroup entry options =>
      simp only [perform, handle, localServices_handleSubscribeEventgroup] at found
      exact .inl found
    | _ => exact .inl found
  | _ => exact .inl found

theorem callback_perform (sends : sd.sendMessageCallback = true)
    (kept : action ≠ .setSendMessageCallback false) :
    (sd.perform action).1.sendMessageCallback = true := by
  cases action with
  | setSendMessageCallback present =>
    cases present with
    | false => exact (kept rfl).elim
    | true => rfl
  | stopOfferService service instance' =>
    simp only [perform, stopOfferService]
    split <;> exact sends
  | handle call moment =>
    cases call with
    | subscribeEventgroup entry options =>
      simp only [perform, handle]
      rw [handleSubscribeEventgroup_frame]
      exact sends
    | _ => exact sends
  | _ => exact sends

end ServiceDiscovery

/-- A round of periodic offers: when the thread read the clock and found it due, and when it was
    sent. -/
structure Round where
  decided : Int
  sent : Int
deriving DecidableEq, Repr

def Report.roundAt (time : Int) : Report → Option Round
  | .round reading => some ⟨reading, time⟩
  | .did _ => none

namespace Worker

open Polling

def rounds (reports : List (Int × Report)) : List Round :=
  reports.filterMap fun (time, report) => report.roundAt time

/-- The times at which the rounds were found due. -/
def decisions (reports : List (Int × Report)) : List Int := (rounds reports).map Round.decided

theorem rounds_append (front back : List (Int × Report)) :
    rounds (front ++ back) = rounds front ++ rounds back := List.filterMap_append

theorem rounds_at (now : Int) (effects : List Effect) : rounds (at' now effects) = [] := by
  simp [rounds, at', Report.roundAt]

/-- The thread has read the clock since it was started, and has not ended. -/
def Turn.Armed : Turn → Prop
  | .ended | .starting => False
  | _ => True

/-- The decisions so far keep the cyclic delay, and so does the next one; a round is sent before the
    clock is read for the next. -/
structure Regular (start : Int) (reports : List (Int × Report)) (worker : Worker) : Prop where
  apart : (decisions reports).IsChain fun earlier later => earlier + worker.delay ≤ later
  ordered : (rounds reports).IsChain fun earlier later => earlier.sent ≤ later.decided
  past : ∀ round ∈ rounds reports, round.decided ≤ round.sent ∧ round.sent ≤ worker.clock
  counted : start + (rounds reports).length • worker.delay ≤ worker.clock
  armed : Turn.Armed worker.turn →
    Paced worker.delay start (decisions reports) worker.nextOfferTime
  due : ∀ reading, worker.turn = .announcing reading → worker.nextOfferTime ≤ reading ∧
    reading ≤ worker.clock ∧ ∀ round ∈ rounds reports, round.sent ≤ reading

variable {worker final : Worker} {event : Event} {reports emitted : List (Int × Report)}
  {start now : Int}

theorem Regular.later (regular : Regular start reports worker)
    (later : worker.clock ≤ now) : Regular start reports { worker with clock := now } where
  apart := regular.apart
  ordered := regular.ordered
  past round member := by
    obtain ⟨decided, sent⟩ := regular.past round member
    exact ⟨decided, sent.trans later⟩
  counted := regular.counted.trans later
  armed := regular.armed
  due reading turn := by
    obtain ⟨due, before, after⟩ := regular.due reading turn
    exact ⟨due, before.trans later, after⟩

/-- A step without a round that does not set the timer. -/
theorem Regular.quiet (regular : Regular start reports worker) (silent : rounds emitted = [])
    (delay : final.cyclicOfferDelay = worker.cyclicOfferDelay) (clock : final.clock = worker.clock)
    (armed : Turn.Armed final.turn → Turn.Armed worker.turn)
    (next : final.nextOfferTime = worker.nextOfferTime)
    (due : ∀ reading, final.turn = .announcing reading → worker.turn = .announcing reading ∨
      reading = worker.clock ∧ worker.nextOfferTime ≤ reading) :
    Regular start (reports ++ emitted) final := by
  have same : rounds (reports ++ emitted) = rounds reports := by
    rw [rounds_append, silent, List.append_nil]
  have decided : decisions (reports ++ emitted) = decisions reports := by
    rw [decisions, decisions, same]
  have period : final.delay = worker.delay := by rw [Worker.delay, Worker.delay, delay]
  constructor
  · rw [decided, period]
    exact regular.apart
  · rw [same]
    exact regular.ordered
  · rw [same, clock]
    exact regular.past
  · rw [same, period, clock]
    exact regular.counted
  · intro turn
    rw [decided, period, next]
    exact regular.armed (armed turn)
  · intro reading turn
    rw [same, next, clock]
    rcases due reading turn with before | ⟨rfl, due⟩
    · exact regular.due reading before
    · exact ⟨due, le_rfl, fun round member => (regular.past round member).2⟩

/-- The round that was found due at its reading of the clock is sent. -/
theorem Regular.fire (regular : Regular start reports worker) (clock : worker.clock = now)
    {reading : Int} (turn : worker.turn = .announcing reading)
    (noted : rounds emitted = [⟨reading, now⟩])
    (delay : final.cyclicOfferDelay = worker.cyclicOfferDelay) (same : final.clock = worker.clock)
    (next : final.nextOfferTime = reading + worker.delay) (passed : final.turn = .retrying) :
    Regular start (reports ++ emitted) final := by
  have grown : rounds (reports ++ emitted) = rounds reports ++ [⟨reading, now⟩] := by
    rw [rounds_append, noted]
  have decided : decisions (reports ++ emitted) = decisions reports ++ [reading] := by
    rw [decisions, grown, List.map_append]
    rfl
  have period : final.delay = worker.delay := by rw [Worker.delay, Worker.delay, delay]
  have paced := regular.armed (by rw [turn]; trivial)
  obtain ⟨due, before, after⟩ := regular.due reading turn
  have fired := paced.fire due
  constructor
  · rw [decided, period]
    exact fired.apart
  · rw [grown]
    apply regular.ordered.append (List.isChain_singleton _)
    intro last found first same
    obtain rfl := Option.some.inj same
    exact after last (List.mem_of_getLast? found)
  · rw [grown, same]
    intro round member
    rcases List.mem_append.mp member with earlier | last
    · exact regular.past round earlier
    · obtain rfl := List.mem_singleton.mp last
      exact ⟨before.trans clock.le, clock.ge⟩
  · have counted := paced.counted
    rw [decisions, List.length_map] at counted
    rw [grown, period, same, List.length_append, List.length_singleton]
    exact counted.trans (due.trans before)
  · intro _
    rw [decided, period, next]
    exact fired
  · intro other announcing
    rw [passed] at announcing
    cases announcing

theorem next_ne_announcing (reading : Int) : worker.next ≠ .announcing reading := by
  unfold next
  split <;> simp

theorem Regular.moves (regular : Regular start reports worker) (clock : worker.clock = now)
    (moves : Moves worker now event final emitted) : Regular start (reports ++ emitted) final := by
  cases moves with
  | armed starting =>
    rw [List.append_nil]
    refine ⟨regular.apart, regular.ordered, regular.past, regular.counted, fun _ => ?_, ?_⟩
    · have counted := regular.counted
      rw [clock] at counted
      have before : ∀ last ∈ (decisions reports).getLast?, last ≤ now := by
        intro last found
        obtain ⟨round, member, rfl⟩ := List.mem_map.mp (List.mem_of_getLast? found)
        obtain ⟨decided, sent⟩ := regular.past round member
        exact decided.trans (sent.trans clock.le)
      rw [← List.length_map (f := Round.decided)] at counted
      exact Paced.rearm regular.apart before counted
    · intro reading announcing
      exact (next_ne_announcing reading announcing).elim
  | offered announcing =>
    refine regular.fire clock announcing ?_ rfl rfl rfl rfl
    exact congrArg (List.cons _) (rounds_at _ _)
  | found offering due =>
    refine regular.quiet rfl rfl rfl (fun _ => by rw [offering]; trivial) rfl ?_
    intro reading announcing
    cases announcing
    exact .inr ⟨clock.symm, due⟩
  | retried retrying =>
    exact regular.quiet (rounds_at _ _) rfl rfl (fun _ => by rw [retrying]; trivial) rfl
      fun reading announcing => (next_ne_announcing reading announcing).elim
  | swept sweeping =>
    exact regular.quiet (rounds_at _ _) rfl rfl (fun _ => by rw [sweeping]; trivial) rfl (by simp)
  | woke waiting running =>
    exact regular.quiet rfl rfl rfl (fun _ => by rw [waiting]; trivial) rfl (by simp)
  | read expiring =>
    exact regular.quiet rfl rfl rfl (fun _ => by rw [expiring]; trivial) rfl (by simp)
  | passed offering early =>
    exact regular.quiet rfl rfl rfl (fun _ => by rw [offering]; trivial) rfl (by simp)
  | started ended =>
    exact regular.quiet rfl rfl rfl (fun armed => armed.elim) rfl (by simp)
  | left waiting halted =>
    exact regular.quiet rfl rfl rfl (fun armed => armed.elim) rfl (by simp)
  | runs running => exact regular.quiet rfl rfl rfl id rfl fun _ turn => .inl turn
  | stopped => exact regular.quiet rfl rfl rfl id rfl fun _ turn => .inl turn
  | locked free => exact regular.quiet rfl rfl rfl id rfl fun _ turn => .inl turn
  | entered free => exact regular.quiet rfl rfl rfl id rfl fun _ turn => .inl turn
  | called mutex outside read =>
    exact regular.quiet (rounds_at _ _) rfl rfl id rfl fun _ turn => .inl turn

theorem delay_moves (moves : Moves worker now event final emitted) :
    final.cyclicOfferDelay = worker.cyclicOfferDelay := by
  cases moves <;> rfl

theorem delay_run {discovery : ServiceDiscovery} {cyclicOfferDelay : Int}
    {ticks : List Tick}
    (run : Runs.Run step (launch discovery cyclicOfferDelay start) ticks reports worker) :
    worker.cyclicOfferDelay = cyclicOfferDelay := by
  apply run.invariant fun _ _ worker => worker.cyclicOfferDelay = cyclicOfferDelay
  · rfl
  · intro _ _ worker tick final emitted same _ stepped
    exact (delay_moves (moves_of_step stepped).2).trans same

/-- However the worker thread is scheduled, stopped and started anew, and however long it waits for
    `services_mutex_`: it finds two rounds of periodic offers due at least the cyclic delay apart,
    sends each after that and before it looks at the clock for the next, and so many rounds take at
    least as many delays. -/
theorem rounds_apart {discovery : ServiceDiscovery} {cyclicOfferDelay : Int}
    {ticks : List Tick}
    (run : Runs.Run step (launch discovery cyclicOfferDelay start) ticks reports worker) :
    (decisions reports).IsChain
        (fun earlier later => earlier + cyclicOfferDelay * 1000000 ≤ later) ∧
      (rounds reports).IsChain (fun earlier later => earlier.sent ≤ later.decided) ∧
      (∀ round ∈ rounds reports, round.decided ≤ round.sent) ∧
      start + (rounds reports).length * (cyclicOfferDelay * 1000000) ≤ worker.clock := by
  have regular : Regular start reports worker := by
    apply run.invariant fun _ reports worker => Regular start reports worker
    · exact ⟨.nil, .nil, by simp [rounds], by simp [rounds, launch], fun turn => turn.elim,
        by simp [launch]⟩
    · intro _ _ worker tick final emitted regular _ stepped
      obtain ⟨later, moves⟩ := moves_of_step stepped
      exact (regular.later later).moves rfl moves
  have same : worker.delay = cyclicOfferDelay * 1000000 := by rw [delay, delay_run run]
  have counted := regular.counted
  rw [nsmul_eq_mul, same] at counted
  exact ⟨same ▸ regular.apart, regular.ordered, fun round member => (regular.past round member).1,
    counted⟩

/-- A turn of the loop in which the periodic offers are not due. -/
def turnAt (now : Int) : List Tick := List.replicate 6 ⟨now, .work⟩

/-- A turn of the loop with a round, for which `services_mutex_` is waited for until the later
    time. -/
def roundAt (now later : Int) : List Tick :=
  List.replicate 5 ⟨now, .work⟩ ++ [⟨now, .lock⟩, ⟨later, .call (.stopFindService 0 0)⟩] ++
    List.replicate 3 ⟨later, .work⟩

/-- The thread starts at 0 and comes by about every 60 ms, with a cyclic delay of 100 ms; it sends
    the first round 50 ms after it found it due. -/
def twoRounds : List Tick :=
  ⟨0, .work⟩ :: turnAt 60000000 ++ roundAt 120000000 170000000 ++ roundAt 230000000 230000000

theorem twoRounds_apart : ∃ worker,
    Runs.Run step (launch (ServiceDiscovery.create {}) 100 0) twoRounds
      [(170000000, .round 120000000), (230000000, .round 230000000)] worker ∧
    List.IsChain (fun earlier later : Int => earlier + 100 * 1000000 ≤ later)
      [120000000, 230000000] ∧
    List.IsChain (fun earlier later : Round => earlier.sent ≤ later.decided)
      [⟨120000000, 170000000⟩, ⟨230000000, 230000000⟩] ∧
    0 + 2 * (100 * 1000000) ≤ worker.clock := by
  have run : ∃ worker, Runs.Run step (launch (ServiceDiscovery.create {}) 100 0) twoRounds
      [(170000000, .round 120000000), (230000000, .round 230000000)] worker :=
    Runs.exists_guarded (by decide +kernel)
  obtain ⟨worker, run⟩ := run
  obtain ⟨apart, ordered, -, counted⟩ := rounds_apart run
  exact ⟨worker, run, apart, ordered, counted⟩

/-- The thread has swept and has got past its periodic offers, sent or found not due, at least every
    `delta`, and an operation is done no later than that after it has read the clock. -/
def Timely (delta : Int) (worker : Worker) (tick : Tick) : Prop :=
  tick.now ≤ worker.sweptAt + delta ∧ tick.now ≤ worker.offeredAt + delta ∧
    ∀ reading ∈ tick.event.reading, tick.now ≤ reading + delta

instance decidableTimely (delta : Int) (worker : Worker) (tick : Tick) :
    Decidable (Timely delta worker tick) :=
  inferInstanceAs (Decidable (_ ∧ _ ∧ ∀ reading ∈ tick.event.reading, _))

/-- Neither is the thread stopped nor the sending turned off. -/
def Event.serves : Event → Bool
  | .stop | .call (.setSendMessageCallback false) => false
  | _ => true

/-- An OFFER for the service was sent then. -/
def Sent (reports : List (Int × Report)) (time : Int) (info : ServiceInfo) : Prop :=
  ∃ message address port, (time, .did (.sent info.offer message address port)) ∈ reports

theorem Sent.append {time : Int} {info : ServiceInfo} (sent : Sent reports time info) :
    Sent (reports ++ emitted) time info := by
  obtain ⟨message, address, port, member⟩ := sent
  exact ⟨message, address, port, List.mem_append_left _ member⟩

theorem sent_of_announces {info : ServiceInfo} {effects : List Effect}
    (announces : ServiceDiscovery.Announces info effects) (included : at' now effects ⊆ emitted) :
    Sent (reports ++ emitted) now info := by
  obtain ⟨message, address, port, member⟩ := announces
  have noted : (now, .did (.sent info.offer message address port)) ∈ at' now effects :=
    List.mem_map.mpr ⟨_, member, rfl⟩
  exact ⟨message, address, port, List.mem_append_right _ (included noted)⟩

/-- A sent OFFER is followed by a round in time: while the thread has not read the clock yet, it
    has been sent since the start; then the next round is due at most a delay after it, and the
    thread was not late for that when it last got past its periodic offers. -/
structure Covers (delta : Int) (worker : Worker) (time : Int) : Prop where
  starting : worker.turn = .starting → worker.offeredAt ≤ time
  armed : worker.turn ≠ .starting → worker.nextOfferTime ≤ time + worker.delay + delta
  early : worker.offeredAt ≤ time ∨ worker.offeredAt < worker.nextOfferTime

structure Serving (delta : Int) (reports : List (Int × Report)) (worker : Worker) :
    Prop where
  sends : worker.discovery.sendMessageCallback = true
  running : worker.running = true
  alive : worker.turn ≠ .ended
  past : worker.offeredAt ≤ worker.clock
  prompt : worker.clock ≤ worker.offeredAt + delta
  soon : worker.turn ≠ .starting → worker.nextOfferTime ≤ worker.clock + worker.delay
  read : ∀ reading ∈ worker.turn.reading, reading ≤ worker.clock
  announced : ∀ (key : ServiceId × InstanceId) info,
    worker.discovery.localServices[key]? = some info →
      info.isOffered = true ∧ ∃ time, Sent reports time info ∧ Covers delta worker time

variable {delta : Int}

theorem Serving.later (serving : Serving delta reports worker)
    (later : worker.clock ≤ now) (timely : now ≤ worker.offeredAt + delta) :
    Serving delta reports { worker with clock := now } where
  sends := serving.sends
  running := serving.running
  alive := serving.alive
  past := serving.past.trans later
  prompt := timely
  soon turn := by
    have soon := serving.soon turn
    exact soon.trans (Int.add_le_add_right later _)
  read reading member := (serving.read reading member).trans later
  announced key info found := by
    obtain ⟨offered, time, sent, covers⟩ := serving.announced key info found
    exact ⟨offered, time, sent, covers.starting, covers.armed, covers.early⟩

/-- What was announced before stays covered where the timer and the thread go on as they are. -/
theorem Serving.still (serving : Serving delta reports worker)
    (next : final.nextOfferTime = worker.nextOfferTime) (delay : final.delay = worker.delay)
    (offeredAt : final.offeredAt = worker.offeredAt)
    (turn : final.turn = .starting ↔ worker.turn = .starting)
    {key : ServiceId × InstanceId} {info : ServiceInfo}
    (found : worker.discovery.localServices[key]? = some info) :
    info.isOffered = true ∧
      ∃ time, Sent (reports ++ emitted) time info ∧ Covers delta final time := by
  obtain ⟨offered, time, sent, covers⟩ := serving.announced key info found
  refine ⟨offered, time, sent.append, ?_, ?_, ?_⟩
  · rw [turn, offeredAt]
    exact covers.starting
  · rw [ne_eq, turn, next, delay]
    exact covers.armed
  · rw [offeredAt, next]
    exact covers.early

/-- `services_mutex_` is locked or unlocked. -/
theorem Serving.relocked (serving : Serving delta reports worker) (mutex : Option Holder) :
    Serving delta (reports ++ []) { worker with servicesMutex := mutex } := by
  refine ⟨serving.sends, serving.running, serving.alive, serving.past, serving.prompt, serving.soon,
    serving.read, ?_⟩
  intro key info found
  exact serving.still (by rfl) (by rfl) (by rfl) (by rfl) found

/-- A step of the thread that neither announces nor sets the timer. -/
theorem Serving.goes (serving : Serving delta reports worker) {turn : Turn}
    (began : worker.turn ≠ .starting) (goes : turn ≠ .starting) (alive : turn ≠ .ended)
    (read : ∀ reading ∈ turn.reading, reading ≤ worker.clock)
    (discovery : final.discovery.sendMessageCallback = worker.discovery.sendMessageCallback ∧
      final.discovery.localServices = worker.discovery.localServices)
    (same : { final with discovery := worker.discovery, servicesMutex := worker.servicesMutex,
                         sweptAt := worker.sweptAt } = { worker with turn := turn }) :
    Serving delta (reports ++ emitted) final := by
  obtain ⟨sd, cyclicOfferDelay, running, _, nextOfferTime, mutex, clock, sweptAt, offeredAt⟩ := final
  simp only [Worker.mk.injEq] at same
  obtain ⟨-, rfl, rfl, rfl, rfl, -, rfl, -, rfl⟩ := same
  obtain ⟨callback, services⟩ := discovery
  refine ⟨callback.trans serving.sends, serving.running, alive, serving.past, serving.prompt,
    fun _ => serving.soon began, read, ?_⟩
  intro key info found
  rw [services] at found
  exact serving.still (by rfl) (by rfl) (by rfl) (by simp [began, goes]) found

theorem Serving.moves (serving : Serving delta reports worker) (clock : worker.clock = now)
    (nonneg : 0 ≤ delta) (serves : event.serves = true)
    (moves : Moves worker now event final emitted) : Serving delta (reports ++ emitted) final := by
  obtain ⟨sends, running, alive, past, prompt, soon, read, announced⟩ := id serving
  have goes : worker.next = .waiting := if_pos running
  cases moves with
  | runs _ =>
    rw [List.append_nil]
    exact serving
  | stopped => cases serves
  | started ended => exact (alive ended).elim
  | left waiting halted =>
    rw [running] at halted
    cases halted
  | locked free => exact serving.relocked (some .caller)
  | entered free => exact serving.relocked (some .thread)
  | armed starting =>
    rw [goes, List.append_nil]
    refine ⟨sends, running, by simp, past, prompt, fun _ => ?_, by simp [Turn.reading], ?_⟩
    · exact Int.add_le_add_right clock.ge _
    · intro key info found
      obtain ⟨offered, time, sent, covers⟩ := announced key info found
      have since := covers.starting starting
      refine ⟨offered, time, sent, by simp, fun _ => ?_, .inl since⟩
      simp only [delay] at since ⊢
      omega
  | woke waiting _ =>
    exact serving.goes (by simp [waiting]) (by simp) (by simp) (by simp [Turn.reading]) ⟨rfl, rfl⟩ rfl
  | read expiring =>
    exact serving.goes (by simp [expiring]) (by simp) (by simp) (by simp [Turn.reading, clock])
      ⟨rfl, rfl⟩ rfl
  | swept sweeping =>
    exact serving.goes (by simp [sweeping]) (by simp) (by simp) (by simp [Turn.reading]) ⟨rfl, rfl⟩ rfl
  | found offering due =>
    exact serving.goes (by simp [offering]) (by simp) (by simp) (by simp [Turn.reading, clock])
      ⟨rfl, rfl⟩ rfl
  | retried retrying =>
    rw [goes]
    exact serving.goes (by simp [retrying]) (by simp) (by simp) (by simp [Turn.reading]) ⟨rfl, rfl⟩ rfl
  | passed offering early =>
    have still : worker.turn ≠ .starting := by simp [offering]
    refine ⟨sends, running, by simp, clock.ge, ?_, fun _ => soon still, by simp [Turn.reading], ?_⟩
    · simp only
      omega
    · intro key info found
      obtain ⟨offered, time, sent, covers⟩ := announced key info found
      exact ⟨offered, time, sent.append, by simp, fun _ => covers.armed still, .inr early⟩
  | offered announcing =>
    have before := read _ (by rw [announcing]; rfl)
    refine ⟨sends, running, by simp, clock.ge, ?_, fun _ => ?_, by simp [Turn.reading], ?_⟩
    · simp only
      omega
    · exact Int.add_le_add_right before _
    · intro key info found
      have offered := (announced key info found).1
      refine ⟨offered, now, ?_, by simp, fun _ => ?_, .inl le_rfl⟩
      · apply sent_of_announces (ServiceDiscovery.announces_periodic sends found offered)
        exact List.subset_cons_self _ _
      · simp only [delay]
        omega
  | @called action mutex outside _ =>
    have kept : action ≠ .setSendMessageCallback false := by
      rintro rfl
      cases serves
    refine ⟨ServiceDiscovery.callback_perform sends kept, running, alive, past, prompt, soon, read, ?_⟩
    intro key info found
    rcases ServiceDiscovery.local_perform sends found with before | ⟨offered, announces⟩
    · exact serving.still (by rfl) (by rfl) (by rfl) (by rfl) before
    · refine ⟨offered, now, sent_of_announces announces (List.Subset.refl _), ?_, ?_, ?_⟩
      · intro _
        exact past.trans clock.le
      · intro turn
        have due := soon turn
        simp only [delay] at due ⊢
        omega
      · exact .inl (past.trans clock.le)

/-- A service is offered before the thread reads the clock, and the thread comes by after 50 ms. -/
def offeredEarly : List Tick :=
  [⟨0, .lock⟩, ⟨0, .call (.offerService ServiceDiscovery.temperatureConfig 0)⟩, ⟨0, .work⟩] ++
    turnAt 50000000

end Worker
end Msomeip.Sd
