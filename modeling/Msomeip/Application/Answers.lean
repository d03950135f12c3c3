import Msomeip.Application.Completion

namespace Msomeip

/-- The message that completed a future, and the request that the future was returned for. -/
structure Completion where
  request : Message
  answer : Message
deriving DecidableEq, Repr

def Completion.Own (completion : Completion) : Prop :=
  completion.answer.serviceId = completion.request.serviceId ∧
    completion.answer.methodId = completion.request.methodId ∧
    completion.answer.clientId = completion.request.clientId ∧
    completion.answer.sessionId = completion.request.sessionId

instance (completion : Completion) : Decidable completion.Own :=
  inferInstanceAs (Decidable (_ ∧ _ ∧ _ ∧ _))

/-- An application, with the request of every future it has returned. -/
structure Asked (Handler : Type) where
  app : Application Handler
  request : Nat → Message := fun _ => {}

namespace Asked

variable {Handler : Type}

open Application

def create (clientId : ClientId) : Asked Handler := { app := Application.create clientId }

def record (asked : Asked Handler) : Application.Action Handler → Nat → Message
  | .sendBegin service instance' method payload reliable _ _ =>
    Function.update asked.request asked.app.promises.next
      (asked.app.request service instance' method payload reliable)
  | _ => asked.request

def completion (asked : Asked Handler) : Application.Effect Handler → Option Completion
  | .completed promise answer => some ⟨asked.request promise, answer⟩
  | _ => none

def step : Runs.Step (Asked Handler) (Application.Action Handler) Completion := fun asked action =>
  (Application.step asked.app action).map fun (next, emitted) =>
    ({ app := next, request := asked.record action }, emitted.filterMap asked.completion)

/-- The entries that come before the first one whose future has a result, where a loop ends. -/
def completing (app : Application Handler) (entries : List (RequestId × PendingRequest)) :
    List (RequestId × PendingRequest) :=
  entries.takeWhile fun entry => !decide (app.promises.Satisfied entry.2.promise)

/-- The ids of the request are all zero, as in the message that `stop` and a timeout make. -/
def Blank (message : Message) : Prop :=
  message.serviceId = 0 ∧ message.methodId = 0 ∧ message.clientId = 0 ∧ message.sessionId = 0

instance (message : Message) : Decidable (Blank message) :=
  inferInstanceAs (Decidable (_ ∧ _ ∧ _ ∧ _))

/-- A response belongs to the method of the waiting request with its id, and where the loops of a
    timeout or of `stop` go, whatever the order, no waiting request with ids of its own comes first. -/
def AnswersOwn (asked : Asked Handler) : Application.Action Handler → Prop
  | .handleMessage message _ => message.isResponseType = true →
      ∀ pending ∈ asked.app.pendingRequests[message.getRequestId]?,
        ¬ asked.app.promises.Satisfied pending.promise →
          message.serviceId = (asked.request pending.promise).serviceId ∧
            message.methodId = (asked.request pending.promise).methodId
  | .cleanupExpiredRequests now traversal =>
      ∀ entry ∈ completing asked.app (asked.app.expired now traversal),
        Blank (asked.request entry.2.promise)
  | .stop traversal => asked.app.running = true →
      ∀ entry ∈ completing asked.app (traversal.entries asked.app.pendingRequests),
        Blank (asked.request entry.2.promise)
  | _ => True

/-- A pending request has the id under which it is stored, and the request that is being sent has
    its own future. -/
structure Recorded (asked : Asked Handler) : Prop where
  stored : ∀ (requestId : RequestId) (pending : PendingRequest),
    asked.app.pendingRequests[requestId]? = some pending →
      pending.promise < asked.app.promises.next ∧
        (asked.request pending.promise).getRequestId = requestId
  sending : ∀ sending ∈ asked.app.sending,
    sending.promise < asked.app.promises.next ∧
      asked.request sending.promise = sending.message

theorem takeWhile_congr {Item : Type} {first second : Item → Bool} {items : List Item}
    (same : ∀ item ∈ items, first item = second item) :
    items.takeWhile first = items.takeWhile second := by
  induction items with
  | nil => rfl
  | cons item items ih =>
    obtain ⟨head, tail⟩ := List.forall_mem_cons.mp same
    rw [List.takeWhile_cons, List.takeWhile_cons, head, ih tail]

theorem completeEach_completing {asked : Asked Handler} {app : Application Handler}
    {message : Message} {eraseDone : Bool} {entries : List (RequestId × PendingRequest)}
    (distinct : entries.Pairwise fun first second => first.2.promise ≠ second.2.promise) :
    (app.completeEach message eraseDone entries).2.2.filterMap asked.completion =
      (completing app entries).map fun entry => ⟨asked.request entry.2.promise, message⟩ := by
  induction entries generalizing app with
  | nil => rfl
  | cons entry rest ih =>
    obtain ⟨different, others⟩ := List.pairwise_cons.mp distinct
    simp only [completeEach, completing, List.takeWhile_cons]
    cases set : app.promises.setValue entry.2.promise message with
    | none =>
      have satisfied := Promises.setValue_eq_none.mp set
      simp [satisfied, completion]
    | some promises =>
      obtain ⟨free, -, after⟩ := Promises.setValue_some set
      have later : ∀ other ∈ rest, (!decide (promises.Satisfied other.2.promise)) =
          !decide (app.promises.Satisfied other.2.promise) := by
        intro other member
        have apart := (different other member).symm
        simp [after, apart]
      simp only [free, decide_false, Bool.not_false, if_true, List.map_cons]
      rw [List.filterMap_cons, completion, ih others, completing, takeWhile_congr later]

theorem Recorded.distinct {asked : Asked Handler} (recorded : asked.Recorded)
    (traversal : Traversal) : (traversal.entries asked.app.pendingRequests).Pairwise
      fun first second => first.2.promise ≠ second.2.promise := by
  apply Maps.Traversal.pairwise_entries PendingRequest.promise
  intro requestId otherId pending other found otherFound same
  have key := (recorded.stored requestId pending found).2
  have otherKey := (recorded.stored otherId other otherFound).2
  rw [same] at key
  exact key.symm.trans otherKey

theorem own_blank (request : Message) (code : ReturnCode) :
    Completion.Own ⟨request,
        Message.createErrorResponse (Message.createRequest 0 0 0 0 false) code⟩ ↔
      Blank request := by
  simp only [Completion.Own, Blank, eq_comm]
  rfl

theorem completions_sent (asked : Asked Handler) (frames : List Transport.Frame) :
    (frames.map Application.Effect.sent).filterMap asked.completion = [] := by
  simp [List.filterMap_map, completion]

theorem record_of_not_starts {asked : Asked Handler} {action : Application.Action Handler}
    (quiet : ¬ action.Starts) : asked.record action = asked.request := by
  cases action with
  | sendBegin => exact absurd trivial quiet
  | _ => rfl

theorem recorded_step {asked next : Asked Handler} {action : Application.Action Handler}
    {completions : List Completion} (recorded : asked.Recorded)
    (stepped : step asked action = some (next, completions)) : next.Recorded := by
  obtain ⟨⟨app, effects⟩, called, same⟩ := Option.map_eq_some_iff.mp stepped
  obtain ⟨rfl, -⟩ := Prod.mk.inj same
  cases action with
  | sendBegin service instance' method payload reliable timeout now =>
    simp only [Application.step] at called
    split at called
    · cases called
    · obtain ⟨rfl, -⟩ := Prod.mk.inj (Option.some.inj called)
      have others : ∀ promise, promise < asked.app.promises.next →
          asked.record (.sendBegin service instance' method payload reliable timeout now) promise =
            asked.request promise := by
        intro promise below
        exact Function.update_of_ne (by omega) _ _
      have own : asked.record (.sendBegin service instance' method payload reliable timeout now)
          asked.app.promises.next =
            asked.app.request service instance' method payload reliable := Function.update_self ..
      constructor
      · intro requestId pending found
        simp only [Maps.lookup_insert] at found
        split at found
        · rename_i identified
          obtain rfl := Option.some.inj found
          exact ⟨Nat.lt_succ_self _, (congrArg Message.getRequestId own).trans identified⟩
        · obtain ⟨below, identified⟩ := recorded.stored requestId pending found
          have same := congrArg Message.getRequestId (others _ below)
          exact ⟨Nat.lt_succ_of_lt below, same.trans identified⟩
      · intro sending current
        obtain rfl := Option.some.inj current
        exact ⟨Nat.lt_succ_self _, own⟩
  | _ =>
    rcases step_cases called with ⟨starts, -⟩ | ⟨quietly, quiet⟩
    · exact starts.elim
    · rw [record_of_not_starts quietly]
      constructor
      · intro requestId pending found
        rw [quiet.settles.next]
        exact recorded.stored requestId pending (quiet.settles.only _ _ found)
      · intro sending current
        rw [quiet.settles.next]
        rcases quiet.sending with kept | ended
        · exact recorded.sending sending (kept ▸ current)
        · rw [ended] at current
          cases current

theorem completions_sendFinish {asked : Asked Handler} (recorded : asked.Recorded)
    {sending : Sending} (current : asked.app.sending = some sending) (network : Network) :
    ∀ completion ∈ (asked.app.sendFinish sending network).2.filterMap asked.completion,
      completion.Own := by
  obtain ⟨-, mine⟩ := recorded.sending sending current
  simp only [sendFinish]
  split
  · rw [completions_sent]
    exact List.forall_mem_nil _
  · split
    · rw [List.filterMap_append, completions_sent]
      exact List.forall_mem_nil _
    · rw [List.filterMap_append, completions_sent]
      intro completion member
      obtain rfl := List.mem_singleton.mp member
      rw [mine]
      exact ⟨rfl, rfl, rfl, rfl⟩

theorem completions_handleMessage {asked : Asked Handler} (recorded : asked.Recorded)
    (message : Message) (network : Network) :
    (∀ completion ∈ (asked.app.handleMessage message network).2.filterMap asked.completion,
        completion.Own) ↔ asked.AnswersOwn (.handleMessage message network) := by
  unfold handleMessage
  by_cases response : message.isResponseType = true
  · rw [if_pos response, handleResponse]
    simp only [AnswersOwn, response, forall_const]
    cases found : asked.app.pendingRequests[message.getRequestId]? with
    | none => simp
    | some pending =>
      have identified := (recorded.stored _ pending found).2
      obtain ⟨client, session⟩ := Message.getRequestId_inj.mp identified
      rw [completeEach_completing (List.pairwise_singleton ..)]
      by_cases satisfied : asked.app.promises.Satisfied pending.promise
      · simp [completing, satisfied]
      · simp [completing, satisfied, Completion.Own, client, session]
  · rw [if_neg response]
    apply iff_of_true _ fun isResponse => absurd isResponse response
    repeat' split
    all_goals simp [completion]

theorem completions_dummy {asked : Asked Handler} {app : Application Handler}
    (same : app.promises = asked.app.promises) (code : ReturnCode) (eraseDone : Bool)
    {entries : List (RequestId × PendingRequest)}
    (distinct : entries.Pairwise fun first second => first.2.promise ≠ second.2.promise) :
    (∀ completion ∈ (app.completeEach
        (Message.createErrorResponse (Message.createRequest 0 0 0 0 false) code) eraseDone
        entries).2.2.filterMap asked.completion, completion.Own) ↔
      ∀ entry ∈ completing asked.app entries, Blank (asked.request entry.2.promise) := by
  rw [completeEach_completing distinct, List.forall_mem_map, completing, same]
  simp only [own_blank]
  rfl

theorem completions_stop {asked : Asked Handler} (recorded : asked.Recorded)
    (traversal : Traversal) :
    (∀ completion ∈ (asked.app.stop traversal).2.filterMap asked.completion, completion.Own) ↔
      asked.AnswersOwn (.stop traversal) := by
  simp only [stop, AnswersOwn]
  cases running : asked.app.running with
  | false => simp
  | true =>
    have all := completions_dummy (rfl : { asked.app with running := false }.promises = _) .eNotOk
      false (recorded.distinct traversal)
    simp only [Bool.not_true, Bool.false_eq_true, if_false, forall_const]
    rw [← all]
    split
    · rfl
    · rfl

/-- A step completes futures with answers to their own requests exactly when it meets the
    condition. -/
theorem own_step {asked next : Asked Handler} {action : Application.Action Handler}
    {completions : List Completion} (recorded : asked.Recorded)
    (stepped : step asked action = some (next, completions)) :
    (∀ completion ∈ completions, completion.Own) ↔ asked.AnswersOwn action := by
  obtain ⟨⟨app, effects⟩, called, same⟩ := Option.map_eq_some_iff.mp stepped
  obtain ⟨-, rfl⟩ := Prod.mk.inj same
  cases action with
  | handleMessage message network =>
    obtain ⟨-, rfl⟩ := Prod.mk.inj (Option.some.inj called)
    exact completions_handleMessage recorded message network
  | cleanupExpiredRequests now traversal =>
    obtain ⟨-, rfl⟩ := Prod.mk.inj (Option.some.inj called)
    exact completions_dummy rfl _ true ((recorded.distinct traversal).filter _)
  | stop traversal =>
    obtain ⟨-, rfl⟩ := Prod.mk.inj (Option.some.inj called)
    exact completions_stop recorded traversal
  | sendFinish network =>
    simp only [Application.step] at called
    split at called
    · rename_i sending current
      obtain ⟨-, rfl⟩ := Prod.mk.inj (Option.some.inj called)
      exact iff_of_true (completions_sendFinish recorded current network) trivial
    · cases called
  | sendBegin | sendRequestNoReturn =>
    simp only [Application.step] at called
    split at called
    · cases called
    · obtain ⟨-, rfl⟩ := Prod.mk.inj (Option.some.inj called)
      simp [AnswersOwn, completion]
  | start | registerMethodHandler | unregisterMethodHandler | setEventHandler =>
    obtain ⟨-, rfl⟩ := Prod.mk.inj (Option.some.inj called)
    exact iff_of_true (List.forall_mem_nil _) trivial

theorem recorded_run {clientId : ClientId} {actions : List (Application.Action Handler)}
    {completions : List Completion} {asked : Asked Handler}
    (run : Runs.Run step (create clientId) actions completions asked) : asked.Recorded := by
  apply run.invariant fun _ _ asked => asked.Recorded
  · constructor <;> simp [create, Application.create]
  · intro actions completions asked action next emitted recorded _ stepped
    exact recorded_step recorded stepped

/-- Every run of an application is one in which its requests are recorded. -/
theorem exists_completions {clientId : ClientId} {actions : List (Application.Action Handler)}
    {effects : List (Application.Effect Handler)} {app : Application Handler}
    (run : Runs.Run Application.step (Application.create clientId) actions effects app) :
    ∃ completions asked, Runs.Run step (create clientId) actions completions asked ∧
      asked.app = app := by
  induction run with
  | nil => exact ⟨[], _, .nil, rfl⟩
  | @snoc _ _ emitted _ next action _ _ stepped ih =>
    obtain ⟨completions, asked, before, rfl⟩ := ih
    have called : step asked action = some
        ({ app := next, request := asked.record action }, emitted.filterMap asked.completion) := by
      rw [step, stepped, Option.map_some]
    exact ⟨_, _, before.snoc trivial called, rfl⟩

/-- Along a run, whatever the orders of its loops, all futures are completed with answers to their
    own requests exactly when every response is one to the request it completes, and no request is
    waiting where a timeout or `stop` comes by, unless its ids are all zero or the loop ends before
    it. -/
theorem own_iff_answersOwn {clientId : ClientId} {actions : List (Application.Action Handler)}
    {completions : List Completion} {asked : Asked Handler}
    (run : Runs.Run step (create clientId) actions completions asked) :
    Runs.Always step (create clientId)
        (fun _ completions _ => ∀ completion ∈ completions, completion.Own) actions ↔
      Runs.Guarded step AnswersOwn (create clientId) actions completions asked := by
  apply Runs.always_iff_guarded _ _ run
  · intro actions completions asked guarded
    have kept : asked.Recorded ∧ ∀ completion ∈ completions, completion.Own := by
      apply guarded.invariant fun _ completions asked =>
        asked.Recorded ∧ ∀ completion ∈ completions, completion.Own
      · exact ⟨recorded_run .nil, List.forall_mem_nil _⟩
      · intro actions completions asked action next emitted holds answers stepped
        obtain ⟨recorded, earlier⟩ := holds
        have own := (own_step recorded stepped).mpr answers
        exact ⟨recorded_step recorded stepped, List.forall_mem_append.mpr ⟨earlier, own⟩⟩
    exact kept.2
  · intro actions completions asked action next emitted guarded stepped own
    have emittedOwn := (List.forall_mem_append.mp own).2
    exact (own_step (recorded_run guarded.run) stepped).mp emittedOwn

instance (asked : Asked Handler) :
    (action : Application.Action Handler) → Decidable (asked.AnswersOwn action)
  | .handleMessage message _ => inferInstanceAs (Decidable (message.isResponseType = true →
      ∀ pending ∈ asked.app.pendingRequests[message.getRequestId]?, _ → _ ∧ _))
  | .cleanupExpiredRequests now traversal => inferInstanceAs (Decidable (∀ entry ∈
      completing asked.app (asked.app.expired now traversal), Blank _))
  | .stop traversal => inferInstanceAs (Decidable (asked.app.running = true →
      ∀ entry ∈ completing asked.app (traversal.entries asked.app.pendingRequests), Blank _))
  | .start | .sendBegin .. | .sendFinish .. | .sendRequestNoReturn .. | .registerMethodHandler ..
  | .unregisterMethodHandler .. | .setEventHandler .. => .isTrue trivial

def firstRequest : Message :=
  (Application.create 0x0001 : Application Unit).request 0x1234 0x0001 0x0001 [] false

theorem answered_own : Runs.Always step (create 0x0001)
    (fun _ completions _ => ∀ completion ∈ completions, completion.Own)
    (Application.answered ⟨[⟨"127.0.0.1", 30509, .udp⟩], fun _ _ => true⟩) := by
  have run : ∃ asked, Runs.Guarded step AnswersOwn (create 0x0001)
      (Application.answered ⟨[⟨"127.0.0.1", 30509, .udp⟩], fun _ _ => true⟩)
      [⟨firstRequest, Application.firstResponse⟩] asked := Runs.exists_guarded (by decide +kernel)
  obtain ⟨asked, guarded⟩ := run
  exact (own_iff_answersOwn guarded.run).mpr guarded

/-- Of two requests the first reaches nobody and the second waits when the application is
    stopped. -/
def stopping (traversal : Application.Traversal) : List (Application.Action Unit) :=
  [.start, .sendBegin 0x1234 0x0001 0x0001 [] false 5000 0, .sendFinish ⟨[], fun _ _ => true⟩,
    .sendBegin 0x1234 0x0001 0x0001 [] false 5000 0,
    .sendFinish ⟨[⟨"127.0.0.1", 30509, .udp⟩], fun _ _ => true⟩, .stop traversal]

-- Whether the loop of `stop` comes to the second one depends on the order of the map.
example : (Runs.execute step AnswersOwn (create 0x0001) (stopping .ascending)).isSome = true ∧
    (Runs.execute step AnswersOwn (create 0x0001) (stopping .descending)).isSome = false := by
  decide +kernel

def timingOut : List (Application.Action Unit) :=
  [.sendBegin 0x1234 0x0001 0x0001 [] false 5000 0,
    .sendFinish ⟨[⟨"127.0.0.1", 30509, .udp⟩], fun _ _ => true⟩,
    .cleanupExpiredRequests 6000000000 .ascending]

theorem timingOut_foreign : ¬ ∀ clientId (actions : List (Application.Action Unit)) completions
    asked, Runs.Run step (create clientId) actions completions asked →
      ∀ completion ∈ completions, completion.Own := by
  intro all
  have run : ∃ asked, Runs.Run step (create 0x0001) timingOut
      [⟨firstRequest,
        Message.createErrorResponse (Message.createRequest 0 0 0 0 false) .eTimeout⟩] asked :=
    Runs.exists_guarded (by decide +kernel)
  obtain ⟨asked, run⟩ := run
  have own := all _ _ _ _ run _ (List.mem_singleton_self _)
  revert own
  decide

end Asked
end Msomeip
