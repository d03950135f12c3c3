import Msomeip.Application.Completion

namespace Msomeip.Application

variable {Handler : Type}

/-- Every unfinished request is still found under its own request id. -/
def NoneLost (effects : List (Effect Handler)) (app : Application Handler) : Prop :=
  ∀ promise requestId, .requested promise requestId ∈ effects → ¬ app.promises.Satisfied promise →
    ∃ request, app.pendingRequests[requestId]? = some request ∧ request.promise = promise

/-- The next request id is not that of an unfinished request when a request is started. -/
def StartsFree (app : Application Handler) (action : Action Handler) : Prop :=
  action.Starts → ∀ request ∈ app.pendingRequests[app.nextRequestId]?,
    app.promises.Satisfied request.promise

instance (app : Application Handler) (action : Action Handler) : Decidable (StartsFree app action) :=
  inferInstanceAs (Decidable (action.Starts → ∀ request ∈ app.pendingRequests[app.nextRequestId]?,
    app.promises.Satisfied request.promise))

structure Numbered (effects : List (Effect Handler)) (app : Application Handler) : Prop where
  below : ∀ promise requestId, .requested promise requestId ∈ effects → promise < app.promises.next
  owned : ∀ (requestId : RequestId) (request : PendingRequest),
    app.pendingRequests[requestId]? = some request → .requested request.promise requestId ∈ effects

theorem Quiet.requested_iff {before after : Application Handler}
    {emitted effects : List (Effect Handler)} (quiet : Quiet before after emitted)
    {promise : Nat} {requestId : RequestId} :
    .requested promise requestId ∈ effects ++ emitted ↔ .requested promise requestId ∈ effects := by
  simp [quiet.requested promise requestId]

theorem numbered_step {effects emitted : List (Effect Handler)} {app next : Application Handler}
    {action : Action Handler} (numbered : Numbered effects app)
    (stepped : step app action = some (next, emitted)) : Numbered (effects ++ emitted) next := by
  rcases step_cases stepped with ⟨-, -, message, reliable, timeout, now, -, same⟩ | ⟨-, quiet⟩
  · obtain ⟨rfl, rfl⟩ := Prod.mk.inj same
    constructor
    · intro promise requestId member
      simp only [List.mem_append, List.mem_singleton, Effect.requested.injEq] at member
      change promise < app.promises.next + 1
      rcases member with old | ⟨rfl, -⟩
      · exact Nat.lt_succ_of_lt (numbered.below _ _ old)
      · exact Nat.lt_succ_self _
    · intro requestId request found
      simp only [Maps.lookup_insert] at found
      split at found
      · rename_i same
        obtain rfl := Option.some.inj found
        simp [same]
      · exact List.mem_append_left _ (numbered.owned requestId request found)
  · constructor
    · intro promise requestId member
      rw [quiet.settles.next]
      exact numbered.below _ _ (quiet.requested_iff.mp member)
    · intro requestId request found
      exact List.mem_append_left _ (numbered.owned _ _ (quiet.settles.only _ _ found))

/-- A request whose future has no result yet is found under its request id. -/
def Held (app : Application Handler) (promise : Nat) (requestId : RequestId) : Prop :=
  ¬ app.promises.Satisfied promise →
    ∃ request, app.pendingRequests[requestId]? = some request ∧ request.promise = promise

/-- A step loses no request but one whose id the next request takes over. -/
theorem Held.step {app next : Application Handler} {action : Action Handler}
    {emitted : List (Effect Handler)} {promise : Nat} {requestId : RequestId}
    (held : Held app promise requestId) (free : StartsFree app action)
    (stepped : step app action = some (next, emitted)) : Held next promise requestId := by
  intro unfinished
  rcases step_cases stepped with
    ⟨starts, -, message, reliable, timeout, now, nextId, same⟩ | ⟨-, quiet⟩
  · obtain ⟨rfl, rfl⟩ := Prod.mk.inj same
    obtain ⟨request, found, rfl⟩ := held unfinished
    have other : message.getRequestId ≠ requestId := by
      intro reused
      rw [← reused, nextId] at found
      exact unfinished (free starts request found)
    refine ⟨request, ?_, rfl⟩
    simp only [Maps.lookup_insert]
    rw [if_neg other]
    exact found
  · have before : ¬ app.promises.Satisfied promise :=
      fun satisfied => unfinished (quiet.settles.kept promise satisfied)
    obtain ⟨request, found, rfl⟩ := held before
    rcases quiet.settles.stored requestId request found with found | satisfied
    · exact ⟨request, found, rfl⟩
    · exact absurd satisfied unfinished

theorem held_sendBegin (app : Application Handler) (message : Message) (reliable : Bool)
    (timeout : Milliseconds) (now : TimePoint) :
    Held (app.sendBegin message reliable timeout now).1 app.promises.next message.getRequestId := by
  intro _
  exact ⟨_, Std.ExtTreeMap.getElem?_insert_self, rfl⟩

theorem noneLost_step {effects emitted : List (Effect Handler)} {app next : Application Handler}
    {action : Action Handler} (kept : NoneLost effects app) (free : StartsFree app action)
    (stepped : step app action = some (next, emitted)) : NoneLost (effects ++ emitted) next := by
  have earlier : ∀ promise requestId, .requested promise requestId ∈ effects →
      Held next promise requestId := fun promise requestId member =>
    Held.step (kept promise requestId member) free stepped
  intro promise requestId member
  rcases step_cases stepped with ⟨-, -, message, reliable, timeout, now, -, same⟩ | ⟨-, quiet⟩
  · obtain ⟨rfl, rfl⟩ := Prod.mk.inj same
    rcases List.mem_append.mp member with old | new
    · exact earlier promise requestId old
    · obtain ⟨rfl, rfl⟩ := Effect.requested.inj (List.mem_singleton.mp new)
      exact held_sendBegin app message reliable timeout now
  · exact earlier promise requestId (quiet.requested_iff.mp member)

theorem startsFree_of_noneLost {effects emitted : List (Effect Handler)}
    {app next : Application Handler} {action : Action Handler} (numbered : Numbered effects app)
    (stepped : step app action = some (next, emitted)) (kept : NoneLost (effects ++ emitted) next) :
    StartsFree app action := by
  intro starts request found
  rcases step_cases stepped with
    ⟨-, -, message, reliable, timeout, now, nextId, same⟩ | ⟨quiet, -⟩
  · obtain ⟨rfl, rfl⟩ := Prod.mk.inj same
    by_contra unfinished
    have owned := numbered.owned _ request found
    obtain ⟨stored, lookup, replaced⟩ := kept request.promise app.nextRequestId
      (List.mem_append_left _ owned) unfinished
    rw [← nextId, Maps.lookup_insert, if_pos rfl] at lookup
    obtain rfl := Option.some.inj lookup
    change app.promises.next = request.promise at replaced
    have below := numbered.below _ _ owned
    omega
  · exact absurd starts quiet

theorem numbered_run {clientId : ClientId} {actions : List (Action Handler)}
    {effects : List (Effect Handler)} {app : Application Handler}
    (run : Runs.Run step (create clientId) actions effects app) : Numbered effects app := by
  apply run.invariant (fun _ effects app => Numbered effects app)
  · constructor
    · simp
    · simp [create]
  · intro actions effects app action next emitted numbered _ stepped
    exact numbered_step numbered stepped

/-- No request is lost along a run exactly when none is started under the id of an unfinished
    one. -/
theorem noneLost_iff_startsFree {clientId : ClientId} {actions : List (Action Handler)}
    {effects : List (Effect Handler)} {app : Application Handler}
    (run : Runs.Run step (create clientId) actions effects app) :
    Runs.Always step (create clientId) (fun _ effects app => NoneLost effects app) actions ↔
      Runs.Guarded step StartsFree (create clientId) actions effects app := by
  apply Runs.always_iff_guarded _ _ run
  · intro actions effects app guarded
    apply guarded.invariant (fun _ effects app => NoneLost effects app)
    · simp [NoneLost]
    · intro actions effects app action next emitted kept free stepped
      exact noneLost_step kept free stepped
  · intro actions effects app action next emitted guarded stepped kept
    exact startsFree_of_noneLost (numbered_run guarded.run) stepped kept

def reachable : Network := ⟨[⟨"127.0.0.1", 30509, .udp⟩], fun _ _ => true⟩

def unanswered : List (Action Unit) :=
  [.sendBegin 0x1234 0x0001 0x0001 [] false 5000 0, .sendFinish reachable]

/-- Of two requests the first is answered. -/
def firstAnswered : List (Action Unit) :=
  unanswered ++ unanswered ++ [.handleMessage firstResponse reachable]

theorem firstAnswered_noneLost : Runs.Always step (create 0x0001)
    (fun _ effects app => NoneLost effects app) firstAnswered := by
  have runs : (Runs.execute step StartsFree (create 0x0001) firstAnswered).isSome := by
    decide +kernel
  obtain ⟨_, executed⟩ := Option.isSome_iff_exists.mp runs
  have guarded := Runs.guarded_of_execute executed
  exact (noneLost_iff_startsFree guarded.run).mpr guarded

theorem unanswered_run (app : Application Unit) (idle : app.sending = none) :
    ∃ effects next, Runs.Run step app unanswered effects next ∧ next.sending = none ∧
      next.clientId = app.clientId ∧ next.sessionId = app.sessionId + 1 ∧
      next.promises = app.promises.create ∧
      next.pendingRequests[app.nextRequestId]? = some ⟨app.promises.next, 0, 5000⟩ ∧
      .requested app.promises.next app.nextRequestId ∈ effects := by
  let message := app.request 0x1234 0x0001 0x0001 [] false
  let begun := (app.sendBegin message false 5000 0).1
  let frames := (sendVia message false reachable.outcome 0 reachable.endpoints).2
  have first : step app (.sendBegin 0x1234 0x0001 0x0001 [] false 5000 0) =
      some (begun, [.requested app.promises.next app.nextRequestId]) := by
    simp only [step, idle]
    rfl
  have second : step begun (.sendFinish reachable) =
      some ({ begun with sending := none }, frames.map .sent) := rfl
  refine ⟨_, _, (Runs.Guarded.head trivial first).append (Runs.Guarded.head trivial second), rfl,
    rfl, rfl, rfl, ?_, by simp⟩
  exact Std.ExtTreeMap.getElem?_insert_self

theorem unanswered_runs (count : Nat) : ∃ effects app,
    Runs.Run step (create 0x0001) (List.replicate count unanswered).flatten effects app ∧
      app.sending = none ∧ app.clientId = 0x0001 ∧ app.sessionId = 1 + UInt16.ofNat count ∧
      app.promises = ⟨count, fun _ => none⟩ ∧
      (0 < count → .requested 0 0x00010001 ∈ effects) := by
  induction count with
  | zero => exact ⟨[], _, .nil, rfl, rfl, rfl, rfl, by simp⟩
  | succ count ih =>
    obtain ⟨effects, app, run, idle, client, session, promises, first⟩ := ih
    obtain ⟨emitted, next, more, idle', client', session', promises', -, requested⟩ :=
      unanswered_run app idle
    refine ⟨effects ++ emitted, next, ?_, idle', client'.trans client, ?_, ?_, fun _ => ?_⟩
    · rw [List.replicate_succ', List.flatten_append]
      simpa using run.append more
    · rw [session', session, UInt16.ofNat_add, UInt16.add_assoc]
      rfl
    · rw [promises', promises]
      rfl
    · cases count with
      | zero =>
        have firstId : app.nextRequestId = 0x00010001 := by
          rw [nextRequestId, client, session]
          decide
        rw [firstId, promises] at requested
        exact List.mem_append_right _ requested
      | succ count => exact List.mem_append_left _ (first (Nat.succ_pos _))

/-- After 65536 unanswered requests the session counter has come round to the id of the first. -/
theorem wrapped_lost : ¬ ∀ clientId (actions : List (Action Unit)) effects app,
    Runs.Run step (create clientId) actions effects app → NoneLost effects app := by
  intro all
  obtain ⟨effects, app, run, idle, client, session, promises, first⟩ := unanswered_runs 65536
  obtain ⟨emitted, next, more, -, -, -, promises', replaced, -⟩ := unanswered_run app idle
  have wrapped : app.nextRequestId = 0x00010001 := by
    rw [nextRequestId, client, session]
    decide
  have unfinished : ¬ next.promises.Satisfied 0 := by
    rw [promises', promises]
    decide
  obtain ⟨request, found, mine⟩ := all _ _ _ _ (run.append more) 0 0x00010001
    (List.mem_append_left _ (first (by decide))) unfinished
  rw [← wrapped, replaced] at found
  obtain rfl := Option.some.inj found
  rw [promises] at mine
  exact absurd mine (by decide)

end Msomeip.Application
