import Msomeip.Sd.DiscoveryLeases

namespace Msomeip.Sd

/-- The reading of the clock that the operation works with, where it takes one. -/
def Action.reading : Action → Option Int
  | .offerService _ now | .findService _ _ now | .subscribeEventgroup _ _ _ _ now => some now
  | .handle _ moment => some moment.now
  | _ => none

/-- Only the worker thread does this. -/
def Action.byWorker : Action → Bool
  | .checkTtlExpiration _ | .sendPeriodicOffers | .retryPendingSubscriptions => true
  | _ => false

/-- What holds `services_mutex_` while it works; `offer_service` even sleeps then. -/
def Action.locksServices : Action → Bool
  | .offerService .. | .stopOfferService .. | .findService .. | .stopFindService ..
  | .offerEventgroup .. | .stopOfferEventgroup .. => true
  | .handle (.findService _) _ | .handle (.offerService ..) _
  | .handle (.subscribeEventgroup ..) _ => true
  | _ => false

/-- Where `worker_thread` is: not there, before its first look at the clock, in `wait_for`, in
    `check_ttl_expiration` before and after its look at the clock, before the look at the clock for
    the periodic offers, in `send_periodic_offers`, before the retries. -/
inductive Turn
  | ended | starting | waiting
  | expiring
  | sweeping (reading : Int)
  | offering
  | announcing (reading : Int)
  | retrying
deriving DecidableEq, Repr

/-- The reading of the clock that the thread is about to work with. -/
def Turn.reading : Turn → Option Int
  | .sweeping reading | .announcing reading => some reading
  | _ => none

/-- Who holds `services_mutex_`: the worker thread, or some caller of an operation. -/
inductive Holder
  | thread | caller
deriving DecidableEq, Repr

/-- A `ServiceDiscovery` with its worker thread. The delay is in milliseconds, times are in
    nanoseconds: `clock` is that of the last step, `sweptAt` and `offeredAt` say when the thread last
    had swept and had got past the periodic offers. -/
structure Worker where
  discovery : ServiceDiscovery
  cyclicOfferDelay : Int
  running : Bool
  turn : Turn
  nextOfferTime : Int
  servicesMutex : Option Holder
  clock : Int
  sweptAt : Int
  offeredAt : Int

/-- What is seen of a step: an effect, or that the worker thread sends the periodic offers, for which
    it has read the clock before. -/
inductive Report
  | did (effect : Effect)
  | round (reading : Int)
deriving DecidableEq, Repr

namespace Worker

/-- A caller locks `services_mutex_` first where its operation needs it, and unlocks it when that is
    done. -/
inductive Event
  | start
  | stop
  | work
  | lock
  | call (action : Action)

/-- The reading of the clock that an operation from outside works with. -/
def Event.reading : Event → Option Int
  | .call action => action.reading
  | _ => none

/-- A step, and the time at which it is done. -/
structure Tick where
  now : Int
  event : Event

def delay (worker : Worker) : Int := worker.cyclicOfferDelay * 1000000

def at' (now : Int) (effects : List Effect) : List (Int × Report) :=
  effects.map fun effect => (now, .did effect)

/-- The loop condition. -/
def next (worker : Worker) : Turn := if worker.running then .waiting else .ended

/-- The thread does what it wants to do under `services_mutex_`: it waits for it, locks it, and
    unlocks it when it is done. -/
def underLock (worker : Worker) (done : Worker × List (Int × Report)) :
    Option (Worker × List (Int × Report)) :=
  match worker.servicesMutex with
  | some .caller => none
  | none => some ({ worker with servicesMutex := some .thread }, [])
  | some .thread => some ({ done.1 with servicesMutex := none }, done.2)

/-- The next part of `worker_thread`. -/
def work (worker : Worker) (now : Int) : Option (Worker × List (Int × Report)) :=
  match worker.turn with
  | .ended => none
  | .starting =>
    some ({ worker with nextOfferTime := now + worker.delay, turn := worker.next }, [])
  | .waiting =>
    if worker.running then some ({ worker with turn := .expiring }, [])
    else some ({ worker with turn := .ended }, [])
  | .expiring => some ({ worker with turn := .sweeping now }, [])
  | .sweeping reading =>
    let (discovery, effects) := worker.discovery.perform (.checkTtlExpiration reading)
    worker.underLock ({ worker with discovery := discovery, turn := .offering, sweptAt := now },
      at' now effects)
  | .offering =>
    if worker.nextOfferTime ≤ now then some ({ worker with turn := .announcing now }, [])
    else some ({ worker with turn := .retrying, offeredAt := now }, [])
  | .announcing reading =>
    let (discovery, effects) := worker.discovery.perform .sendPeriodicOffers
    worker.underLock ({ worker with discovery := discovery, nextOfferTime := reading + worker.delay,
                                    turn := .retrying, offeredAt := now },
      (now, .round reading) :: at' now effects)
  | .retrying =>
    let (discovery, effects) := worker.discovery.perform .retryPendingSubscriptions
    some ({ worker with discovery := discovery, turn := worker.next }, at' now effects)

/-- A thread that is started anew while the last one has not ended is left out: that would end the
    process. -/
def start (worker : Worker) : Option (Worker × List (Int × Report)) :=
  if worker.running then some (worker, [])
  else if worker.turn = .ended then some ({ worker with running := true, turn := .starting }, [])
  else none

/-- An operation that needs `services_mutex_` ends by unlocking it. -/
def call (worker : Worker) (now : Int) (action : Action) :
    Option (Worker × List (Int × Report)) :=
  let (discovery, effects) := worker.discovery.perform action
  if action.locksServices then
    if worker.servicesMutex = some .caller then
      some ({ worker with discovery := discovery, servicesMutex := none }, at' now effects)
    else none
  else some ({ worker with discovery := discovery }, at' now effects)

def perform (worker : Worker) (tick : Tick) : Option (Worker × List (Int × Report)) :=
  match tick.event with
  | .start => worker.start
  | .stop => some ({ worker with running := false }, [])
  | .work => worker.work tick.now
  | .lock =>
    if worker.servicesMutex = none then some ({ worker with servicesMutex := some .caller }, [])
    else none
  | .call action =>
    if action.byWorker then none
    else if ∀ reading ∈ action.reading, reading ≤ tick.now then worker.call tick.now action
    else none

/-- The clock never goes back; an operation has read it before it is done. -/
def step : Runs.Step Worker Tick (Int × Report) := fun worker tick =>
  if worker.clock ≤ tick.now then { worker with clock := tick.now }.perform tick else none

/-- What an event can do at a time. -/
inductive Moves (worker : Worker) (now : Int) : Event → Worker → List (Int × Report) → Prop
  | runs (running : worker.running = true) : Moves worker now .start worker []
  | started (ended : worker.turn = .ended) :
      Moves worker now .start { worker with running := true, turn := .starting } []
  | stopped : Moves worker now .stop { worker with running := false } []
  | locked (free : worker.servicesMutex = none) :
      Moves worker now .lock { worker with servicesMutex := some .caller } []
  | entered (free : worker.servicesMutex = none) :
      Moves worker now .work { worker with servicesMutex := some .thread } []
  | armed (starting : worker.turn = .starting) :
      Moves worker now .work
        { worker with nextOfferTime := now + worker.delay, turn := worker.next } []
  | woke (waiting : worker.turn = .waiting) (running : worker.running = true) :
      Moves worker now .work { worker with turn := .expiring } []
  | left (waiting : worker.turn = .waiting) (halted : worker.running = false) :
      Moves worker now .work { worker with turn := .ended } []
  | read (expiring : worker.turn = .expiring) :
      Moves worker now .work { worker with turn := .sweeping now } []
  | swept {reading : Int} (sweeping : worker.turn = .sweeping reading) :
      Moves worker now .work
        { worker with discovery := (worker.discovery.perform (.checkTtlExpiration reading)).1,
                      turn := .offering, sweptAt := now, servicesMutex := none }
        (at' now (worker.discovery.perform (.checkTtlExpiration reading)).2)
  | found (offering : worker.turn = .offering) (due : worker.nextOfferTime ≤ now) :
      Moves worker now .work { worker with turn := .announcing now } []
  | passed (offering : worker.turn = .offering) (early : now < worker.nextOfferTime) :
      Moves worker now .work { worker with turn := .retrying, offeredAt := now } []
  | offered {reading : Int} (announcing : worker.turn = .announcing reading) :
      Moves worker now .work
        { worker with nextOfferTime := reading + worker.delay, turn := .retrying,
                      offeredAt := now, servicesMutex := none }
        ((now, .round reading) :: at' now worker.discovery.sendPeriodicOffers)
  | retried (retrying : worker.turn = .retrying) :
      Moves worker now .work { worker with turn := worker.next }
        (at' now worker.discovery.retryPendingSubscriptions)
  | called {action : Action} (mutex : Option Holder) (outside : action.byWorker = false)
      (read : ∀ reading ∈ action.reading, reading ≤ now) :
      Moves worker now (.call action)
        { worker with discovery := (worker.discovery.perform action).1, servicesMutex := mutex }
        (at' now (worker.discovery.perform action).2)

variable {worker final : Worker} {now : Int} {tick : Tick} {emitted : List (Int × Report)}

theorem moves_of_underLock {done : Worker × List (Int × Report)}
    (does : Moves worker now .work { done.1 with servicesMutex := none } done.2)
    (worked : worker.underLock done = some (final, emitted)) :
    Moves worker now .work final emitted := by
  unfold underLock at worked
  split at worked
  · cases worked
  · rename_i free
    cases worked
    exact .entered free
  · cases worked
    exact does

theorem moves_of_work (worked : worker.work now = some (final, emitted)) :
    Moves worker now .work final emitted := by
  cases turn : worker.turn with
  | ended =>
    simp only [work, turn] at worked
    cases worked
  | starting =>
    simp only [work, turn] at worked
    cases worked
    exact .armed turn
  | waiting =>
    simp only [work, turn] at worked
    split at worked
    · rename_i running
      cases worked
      exact .woke turn running
    · rename_i halted
      cases worked
      exact .left turn (Bool.eq_false_iff.mpr halted)
  | expiring =>
    simp only [work, turn] at worked
    cases worked
    exact .read turn
  | sweeping reading =>
    simp only [work, turn] at worked
    exact moves_of_underLock (.swept turn) worked
  | offering =>
    simp only [work, turn] at worked
    split at worked
    · rename_i due
      cases worked
      exact .found turn due
    · rename_i early
      cases worked
      exact .passed turn (Int.not_le.mp early)
  | announcing reading =>
    simp only [work, turn] at worked
    exact moves_of_underLock (.offered turn) worked
  | retrying =>
    simp only [work, turn] at worked
    cases worked
    exact .retried turn

theorem moves_of_call {action : Action} (outside : action.byWorker = false)
    (read : ∀ reading ∈ action.reading, reading ≤ now)
    (called : worker.call now action = some (final, emitted)) :
    Moves worker now (.call action) final emitted := by
  unfold call at called
  dsimp only at called
  split at called
  · split at called
    · cases called
      exact .called none outside read
    · cases called
  · cases called
    exact .called worker.servicesMutex outside read

theorem moves_of_perform (performed : worker.perform tick = some (final, emitted)) :
    Moves worker tick.now tick.event final emitted := by
  unfold perform at performed
  split at performed
  · rename_i event
    rw [event]
    unfold start at performed
    split at performed
    · rename_i running
      cases performed
      exact .runs running
    · split at performed
      · rename_i ended
        cases performed
        exact .started ended
      · cases performed
  · rename_i event
    rw [event]
    cases performed
    exact .stopped
  · rename_i event
    rw [event]
    exact moves_of_work performed
  · rename_i event
    rw [event]
    split at performed
    · rename_i free
      cases performed
      exact .locked free
    · cases performed
  · rename_i action event
    rw [event]
    split at performed
    · cases performed
    · rename_i outside
      split at performed
      · rename_i read
        exact moves_of_call (Bool.eq_false_iff.mpr outside) read performed
      · cases performed

theorem moves_of_step (stepped : step worker tick = some (final, emitted)) :
    worker.clock ≤ tick.now ∧
      Moves { worker with clock := tick.now } tick.now tick.event final emitted := by
  unfold step at stepped
  split at stepped
  · rename_i later
    exact ⟨later, moves_of_perform stepped⟩
  · cases stepped

/-- A `ServiceDiscovery` whose `start()` is called at the time. -/
def launch (discovery : ServiceDiscovery) (cyclicOfferDelay : Int) (now : Int) :
    Worker :=
  { discovery := discovery, cyclicOfferDelay := cyclicOfferDelay, running := true,
    turn := .starting, nextOfferTime := now, servicesMutex := none, clock := now, sweptAt := now,
    offeredAt := now }

end Worker
end Msomeip.Sd
