import Msomeip.Application.Steps

namespace Msomeip.Application

variable {Handler : Type}

/-- No promise was set a second time, and no pending request has a promise that is set. -/
def CompletedOnce (effects : List (Effect Handler)) (app : Application Handler) : Prop :=
  (∀ promise, .futureError promise ∉ effects) ∧
    ∀ (requestId : RequestId) (request : PendingRequest),
      app.pendingRequests[requestId]? = some request → ¬ app.promises.Satisfied request.promise

def Network.Takes (network : Network) (sending : Sending) : Prop :=
  ∃ entry ∈ network.endpoints.zipIdx, matchesProtocol entry.1 sending.reliable = true ∧
    (Runtime.sendMessage sending.message entry.1.address entry.1.port sending.reliable
      (network.outcome entry.2)).1 = true

def SendSucceeds (app : Application Handler) : Action Handler → Prop
  | .sendFinish network => ∀ sending ∈ app.sending, network.Takes sending
  | _ => True

/-- Every pending request has an unset promise of its own, and the request that is being sent is
    pending until its promise is set. -/
structure Clean (app : Application Handler) : Prop where
  unset : ∀ promise, app.promises.Satisfied promise → promise < app.promises.next
  free : ∀ (requestId : RequestId) (request : PendingRequest),
    app.pendingRequests[requestId]? = some request → ¬ app.promises.Satisfied request.promise
  below : ∀ (requestId : RequestId) (request : PendingRequest),
    app.pendingRequests[requestId]? = some request → request.promise < app.promises.next
  own : ∀ (requestId otherId : RequestId) (request other : PendingRequest),
    app.pendingRequests[requestId]? = some request →
      app.pendingRequests[otherId]? = some other → request.promise = other.promise →
        requestId = otherId
  inFlight : ∀ sending ∈ app.sending, sending.promise < app.promises.next ∧
    (app.promises.Satisfied sending.promise ∨
      ∃ request, app.pendingRequests[sending.message.getRequestId]? = some request ∧
        request.promise = sending.promise)

theorem sendVia_iff {message : Message} {reliable : Bool} {outcome : Nat → Nat → Bool}
    {index : Nat} {endpoints : List Endpoint} :
    (sendVia message reliable outcome index endpoints).1 = true ↔
      ∃ entry ∈ endpoints.zipIdx index, matchesProtocol entry.1 reliable = true ∧
        (Runtime.sendMessage message entry.1.address entry.1.port reliable
          (outcome entry.2)).1 = true := by
  induction endpoints generalizing index with
  | nil => simp [sendVia]
  | cons endpoint rest ih =>
    simp only [List.zipIdx_cons, List.mem_cons, exists_eq_or_imp]
    by_cases matching : matchesProtocol endpoint reliable = true
    · by_cases sent : (Runtime.sendMessage message endpoint.address endpoint.port reliable
        (outcome index)).1 = true
      · simp [sendVia, matching, sent]
      · simp [sendVia, matching, sent, ih]
    · simp [sendVia, matching, ih]

theorem sendFinish_sent (app : Application Handler) {sending : Sending} {network : Network}
    (sent : (sendVia sending.message sending.reliable network.outcome 0 network.endpoints).1 = true) :
    app.sendFinish sending network = ({ app with sending := none },
      (sendVia sending.message sending.reliable network.outcome 0 network.endpoints).2.map .sent) := by
  simp [sendFinish, sent]

/-- What the loops do to requests whose promises are different and unset. -/
structure Completes (before : Application Handler) (entries : List (RequestId × PendingRequest))
    (eraseDone : Bool) (result : Bool × Application Handler × List (Effect Handler)) : Prop where
  finished : result.1 = true
  silent : ∀ promise, .futureError promise ∉ result.2.2
  satisfied : ∀ promise, result.2.1.promises.Satisfied promise ↔
    before.promises.Satisfied promise ∨ ∃ entry ∈ entries, entry.2.promise = promise
  erased : eraseDone = true → ∀ requestId ∈ result.2.1.pendingRequests,
    requestId ∈ before.pendingRequests ∧ ∀ entry ∈ entries, entry.1 ≠ requestId

theorem completeEach_completes (app : Application Handler) (message : Message) (eraseDone : Bool)
    {entries : List (RequestId × PendingRequest)}
    (distinct : entries.Pairwise fun first second => first.2.promise ≠ second.2.promise)
    (free : ∀ entry ∈ entries, ¬ app.promises.Satisfied entry.2.promise) :
    Completes app entries eraseDone (app.completeEach message eraseDone entries) := by
  induction entries generalizing app with
  | nil =>
    exact ⟨rfl, by simp [completeEach], by simp [completeEach], fun _ requestId member =>
      ⟨member, by simp⟩⟩
  | cons entry rest ih =>
    obtain ⟨requestId, request⟩ := entry
    obtain ⟨headDistinct, restDistinct⟩ := List.pairwise_cons.mp distinct
    obtain ⟨headFree, restFree⟩ := List.forall_mem_cons.mp free
    cases set : app.promises.setValue request.promise message with
    | none => exact absurd (Promises.setValue_eq_none.mp set) headFree
    | some promises =>
      have satisfied := (Promises.setValue_some set).2.2
      have later := @ih { app with
        promises := promises
        pendingRequests :=
          if eraseDone then app.pendingRequests.erase requestId else app.pendingRequests }
        restDistinct fun entry member known => by
          rcases (satisfied _).mp known with same | known
          · exact headDistinct entry member same.symm
          · exact restFree entry member known
      simp only [completeEach, set]
      constructor
      · exact later.finished
      · intro promise member
        rcases List.mem_cons.mp member with same | member
        · cases same
        · exact later.silent promise member
      · intro promise
        rw [later.satisfied]
        simp only [satisfied, List.mem_cons, exists_eq_or_imp]
        tauto
      · intro erase id member
        obtain ⟨inside, others⟩ := later.erased erase id member
        simp only [erase, if_true, Std.ExtTreeMap.mem_erase] at inside
        have different : requestId ≠ id := by simpa using inside.1
        exact ⟨inside.2, List.forall_mem_cons.mpr ⟨different, others⟩⟩

theorem Clean.of_settles {before after : Application Handler} (clean : Clean before)
    (settles : Settles before after)
    (sending : after.sending = before.sending ∨ after.sending = none)
    (unset : ∀ promise, after.promises.Satisfied promise → promise < after.promises.next)
    (free : ∀ (requestId : RequestId) (request : PendingRequest),
      after.pendingRequests[requestId]? = some request →
        ¬ after.promises.Satisfied request.promise) : Clean after where
  unset := unset
  free := free
  below requestId request found := by
    rw [settles.next]
    exact clean.below requestId request (settles.only _ _ found)
  own requestId otherId request other found otherFound :=
    clean.own _ _ _ _ (settles.only _ _ found) (settles.only _ _ otherFound)
  inFlight current member := by
    rcases sending with same | none
    · rw [same] at member
      obtain ⟨below, pending⟩ := clean.inFlight current member
      rw [← settles.next] at below
      apply And.intro below
      rcases pending with known | ⟨request, found, mine⟩
      · exact .inl (settles.kept _ known)
      · rcases settles.stored _ request found with found | known
        · exact .inr ⟨request, found, mine⟩
        · exact .inl (mine ▸ known)
    · rw [none] at member
      cases member

theorem Clean.distinct {app : Application Handler} (clean : Clean app) (traversal : Traversal) :
    (traversal.entries app.pendingRequests).Pairwise fun first second =>
      first.2.promise ≠ second.2.promise :=
  Maps.Traversal.pairwise_entries PendingRequest.promise clean.own

/-- Completing requests sets only promises that were handed out. -/
theorem Clean.unset_completes {app : Application Handler} (clean : Clean app)
    {entries : List (RequestId × PendingRequest)} {eraseDone : Bool}
    {result : Bool × Application Handler × List (Effect Handler)}
    (completes : Completes app entries eraseDone result)
    (entriesOf : ∀ entry ∈ entries, app.pendingRequests[entry.1]? = some entry.2) (promise : Nat)
    (known : result.2.1.promises.Satisfied promise) : promise < app.promises.next := by
  rcases (completes.satisfied promise).mp known with known | ⟨entry, member, rfl⟩
  · exact clean.unset promise known
  · exact clean.below _ _ (entriesOf entry member)

theorem Clean.completeEach {app : Application Handler} (clean : Clean app) (message : Message)
    {entries : List (RequestId × PendingRequest)}
    (entriesOf : ∀ entry ∈ entries, app.pendingRequests[entry.1]? = some entry.2)
    (distinct : entries.Pairwise fun first second => first.2.promise ≠ second.2.promise) :
    Clean (app.completeEach message true entries).2.1 ∧
      ∀ promise, .futureError promise ∉ (app.completeEach message true entries).2.2 := by
  have quiet : Quiet app (app.completeEach message true entries).2.1
      (app.completeEach message true entries).2.2 := completeEach_quiet entriesOf
  have completes := completeEach_completes app message true distinct fun entry member =>
    clean.free _ _ (entriesOf entry member)
  have kept : Clean (app.completeEach message true entries).2.1 := by
    apply clean.of_settles quiet.settles quiet.sending
    · rw [quiet.settles.next]
      exact clean.unset_completes completes entriesOf
    · intro requestId request found known
      have before := quiet.settles.only _ _ found
      have stored := Std.ExtTreeMap.mem_iff_isSome_getElem?.mpr (Option.isSome_of_eq_some found)
      have erased := (completes.erased rfl requestId stored).2
      rcases (completes.satisfied _).mp known with known | ⟨entry, member, same⟩
      · exact clean.free _ _ before known
      · exact erased entry member (clean.own _ _ _ _ (entriesOf entry member) before same)
  exact ⟨kept, completes.silent⟩

theorem Clean.of_same {before after : Application Handler} (clean : Clean before)
    (promises : after.promises = before.promises)
    (pending : after.pendingRequests = before.pendingRequests)
    (sending : after.sending = before.sending ∨ after.sending = none) : Clean after := by
  apply clean.of_settles (.of_same promises pending) sending
  · rw [promises]
    exact clean.unset
  · rw [promises, pending]
    exact clean.free

theorem Clean.stop {app : Application Handler} (clean : Clean app) (traversal : Traversal) :
    Clean (app.stop traversal).1 ∧ ∀ promise, .futureError promise ∉ (app.stop traversal).2 := by
  have quiet := app.stop_quiet traversal
  cases running : app.running with
  | false => simpa [Application.stop, running] using clean
  | true =>
    have halted : Clean { app with running := false } := clean.of_same rfl rfl (.inl rfl)
    have completes := completeEach_completes { app with running := false }
      (Message.createErrorResponse (Message.createRequest 0 0 0 0 false) .eNotOk) false
      (halted.distinct traversal)
      fun _ member => halted.free _ _ (Maps.Traversal.mem_entries.mp member)
    simp only [Application.stop, running, completes.finished] at quiet ⊢
    apply And.intro _ completes.silent
    apply clean.of_settles quiet.settles quiet.sending
    · rw [quiet.settles.next]
      exact halted.unset_completes completes fun _ member => Maps.Traversal.mem_entries.mp member
    · intro requestId request found
      simp at found

theorem Clean.sendBegin {app : Application Handler} (clean : Clean app) (message : Message)
    (reliable : Bool) (timeout : Milliseconds) (now : TimePoint) :
    Clean (app.sendBegin message reliable timeout now).1 := by
  have lookup (requestId : RequestId) (request : PendingRequest)
      (found : (app.sendBegin message reliable timeout now).1.pendingRequests[requestId]? =
        some request) :
      (message.getRequestId = requestId ∧ request.promise = app.promises.next) ∨
        app.pendingRequests[requestId]? = some request := by
    simp only [Application.sendBegin, Maps.lookup_insert] at found
    split at found
    · rename_i same
      obtain rfl := Option.some.inj found
      exact .inl ⟨same, rfl⟩
    · exact .inr found
  constructor
  · intro promise known
    exact Nat.lt_succ_of_lt (clean.unset promise known)
  · intro requestId request found known
    rcases lookup requestId request found with ⟨-, fresh⟩ | old
    · exact absurd (clean.unset _ known) (by omega)
    · exact clean.free _ _ old known
  · intro requestId request found
    rcases lookup requestId request found with ⟨-, fresh⟩ | old
    · exact fresh ▸ Nat.lt_succ_self _
    · exact Nat.lt_succ_of_lt (clean.below _ _ old)
  · intro requestId otherId request other found otherFound same
    rcases lookup requestId request found with ⟨here, fresh⟩ | old <;>
      rcases lookup otherId other otherFound with ⟨there, otherFresh⟩ | otherOld
    · exact here.symm.trans there
    · have below := clean.below _ _ otherOld
      omega
    · have below := clean.below _ _ old
      omega
    · exact clean.own _ _ _ _ old otherOld same
  · intro sending member
    obtain rfl := Option.some.inj member
    exact ⟨Nat.lt_succ_self _, .inr ⟨_, Std.ExtTreeMap.getElem?_insert_self, rfl⟩⟩

theorem Clean.handleMessage {app : Application Handler} (clean : Clean app) (message : Message)
    (network : Network) : Clean (app.handleMessage message network).1 ∧
      ∀ promise, .futureError promise ∉ (app.handleMessage message network).2 := by
  unfold Application.handleMessage
  split
  · unfold handleResponse
    cases found : app.pendingRequests[message.getRequestId]? with
    | none => exact ⟨clean, by simp⟩
    | some request => exact clean.completeEach message (by simpa using found) (by simp)
  all_goals
    repeat' split
    all_goals exact ⟨clean, by simp⟩

theorem clean_step {app next : Application Handler} {action : Action Handler}
    {emitted : List (Effect Handler)} (clean : Clean app) (succeeds : SendSucceeds app action)
    (stepped : step app action = some (next, emitted)) :
    Clean next ∧ ∀ promise, .futureError promise ∉ emitted := by
  cases action with
  | sendBegin service instance' method payload reliable timeout now =>
    simp only [step] at stepped
    split at stepped
    · cases stepped
    · obtain ⟨rfl, rfl⟩ := Prod.mk.inj (Option.some.inj stepped)
      exact ⟨clean.sendBegin _ reliable timeout now, by simp⟩
  | sendFinish network =>
    simp only [step] at stepped
    split at stepped
    · rename_i sending current
      rw [sendFinish_sent app (sendVia_iff.mpr (succeeds sending current))] at stepped
      obtain ⟨rfl, rfl⟩ := Prod.mk.inj (Option.some.inj stepped)
      exact ⟨clean.of_same rfl rfl (.inr rfl), by simp⟩
    · cases stepped
  | sendRequestNoReturn service instance' method payload reliable network =>
    simp only [step] at stepped
    split at stepped
    · cases stepped
    · obtain ⟨rfl, rfl⟩ := Prod.mk.inj (Option.some.inj stepped)
      exact ⟨clean.of_same rfl rfl (.inl rfl), by simp⟩
  | stop traversal =>
    obtain ⟨rfl, rfl⟩ := Prod.mk.inj (Option.some.inj stepped)
    exact clean.stop traversal
  | handleMessage message network =>
    obtain ⟨rfl, rfl⟩ := Prod.mk.inj (Option.some.inj stepped)
    exact clean.handleMessage message network
  | cleanupExpiredRequests now traversal =>
    obtain ⟨rfl, rfl⟩ := Prod.mk.inj (Option.some.inj stepped)
    exact clean.completeEach _ (fun _ member => mem_expired member)
      ((clean.distinct traversal).filter _)
  | _ =>
    obtain ⟨rfl, rfl⟩ := Prod.mk.inj (Option.some.inj stepped)
    exact ⟨clean.of_same rfl rfl (.inl rfl), by simp⟩

theorem sendFinish_failed {app : Application Handler} (clean : Clean app) {sending : Sending}
    (current : sending ∈ app.sending) {network : Network} (effects : List (Effect Handler))
    (failed : (sendVia sending.message sending.reliable network.outcome 0 network.endpoints).1 = false) :
    ¬ CompletedOnce (effects ++ (app.sendFinish sending network).2)
      (app.sendFinish sending network).1 := by
  intro once
  cases set : app.promises.setValue sending.promise
      (sending.message.createErrorResponse .eNotReachable) with
  | none =>
    apply once.1 sending.promise
    simp [sendFinish, failed, set]
  | some promises =>
    have after : (app.sendFinish sending network).1 =
        { app with sending := none, promises := promises } := by
      simp [sendFinish, failed, set]
    have free := once.2
    rw [after] at free
    obtain ⟨unset, -, satisfied⟩ := Promises.setValue_some set
    rcases (clean.inFlight sending current).2 with known | ⟨request, found, mine⟩
    · exact unset known
    · exact free sending.message.getRequestId request found ((satisfied _).mpr (.inl mine))

theorem sendSucceeds_of_completedOnce {app next : Application Handler} {action : Action Handler}
    {effects emitted : List (Effect Handler)} (clean : Clean app)
    (stepped : step app action = some (next, emitted))
    (once : CompletedOnce (effects ++ emitted) next) : SendSucceeds app action := by
  cases action with
  | sendFinish network =>
    intro sending current
    have same := current
    rw [Option.mem_def] at same
    simp only [step, same, Option.some.injEq] at stepped
    by_contra failed
    rw [Network.Takes, ← sendVia_iff, Bool.not_eq_true] at failed
    apply sendFinish_failed clean current effects failed
    rwa [stepped]
  | _ => trivial

theorem clean_run {clientId : ClientId} {actions : List (Action Handler)}
    {effects : List (Effect Handler)} {app : Application Handler}
    (guarded : Runs.Guarded step SendSucceeds (create clientId) actions effects app) :
    Clean app ∧ ∀ promise, .futureError promise ∉ effects := by
  apply guarded.invariant
    (fun _ effects app => Clean app ∧ ∀ promise, .futureError promise ∉ effects)
  · have idle : Clean (create clientId : Application Handler) := by
      constructor <;> simp [create, Promises.Satisfied]
    exact ⟨idle, fun _ => List.not_mem_nil⟩
  · intro actions effects app action next emitted before succeeds stepped
    obtain ⟨clean, silent⟩ := before
    obtain ⟨cleanNext, silentStep⟩ := clean_step clean succeeds stepped
    exact ⟨cleanNext, fun promise => List.not_mem_append (silent promise) (silentStep promise)⟩

/-- Every request is completed at most once along a run exactly when every send in it succeeds. -/
theorem completedOnce_iff_sendSucceeds {clientId : ClientId} {actions : List (Action Handler)}
    {effects : List (Effect Handler)} {app : Application Handler}
    (run : Runs.Run step (create clientId) actions effects app) :
    Runs.Always step (create clientId) (fun _ effects app => CompletedOnce effects app) actions ↔
      Runs.Guarded step SendSucceeds (create clientId) actions effects app := by
  apply Runs.always_iff_guarded _ _ run
  · intro actions effects app guarded
    obtain ⟨clean, silent⟩ := clean_run guarded
    exact ⟨silent, clean.free⟩
  · intro actions effects app action next emitted guarded stepped once
    exact sendSucceeds_of_completedOnce (clean_run guarded).1 stepped once

instance (network : Network) (sending : Sending) : Decidable (network.Takes sending) :=
  inferInstanceAs (Decidable (∃ entry ∈ network.endpoints.zipIdx, _ ∧ _))

instance (app : Application Handler) : (action : Action Handler) → Decidable (SendSucceeds app action)
  | .sendFinish network => inferInstanceAs (Decidable (∀ sending ∈ app.sending, network.Takes sending))
  | .sendBegin .. | .start | .stop .. | .sendRequestNoReturn .. | .handleMessage ..
  | .cleanupExpiredRequests .. | .registerMethodHandler .. | .unregisterMethodHandler ..
  | .setEventHandler .. => .isTrue trivial

def firstResponse : Message :=
  { serviceId := 0x1234, methodId := 0x0001, clientId := 0x0001, sessionId := 0x0001
    messageType := .response }

def answered (network : Network) : List (Action Unit) :=
  [.sendBegin 0x1234 0x0001 0x0001 [] false 5000 0, .sendFinish network,
    .handleMessage firstResponse ⟨[], fun _ _ => false⟩]

theorem answered_completedOnce : Runs.Always step (create 0x0001)
    (fun _ effects app => CompletedOnce effects app)
    (answered ⟨[⟨"127.0.0.1", 30509, .udp⟩], fun _ _ => true⟩) := by
  have run : ∃ app, Runs.Guarded step SendSucceeds (create 0x0001)
      (answered ⟨[⟨"127.0.0.1", 30509, .udp⟩], fun _ _ => true⟩)
      [.requested 0 0x00010001,
        .sent ⟨((create 0x0001 : Application Unit).request 0x1234 0x0001 0x0001 [] false).serialize,
          "127.0.0.1", 30509, false⟩,
        .completed 0 firstResponse] app :=
    Runs.exists_guarded (by decide +kernel)
  obtain ⟨app, guarded⟩ := run
  exact (completedOnce_iff_sendSucceeds guarded.run).mpr guarded

theorem unreachable_completedTwice : ¬ ∀ clientId (actions : List (Action Unit)) effects app,
    Runs.Run step (create clientId) actions effects app → CompletedOnce effects app := by
  intro all
  have run : ∃ app, Runs.Run step (create 0x0001) (answered ⟨[], fun _ _ => false⟩)
      [.requested 0 0x00010001,
        .completed 0 (Message.createErrorResponse
          ((create 0x0001 : Application Unit).request 0x1234 0x0001 0x0001 [] false) .eNotReachable),
        .futureError 0] app :=
    Runs.exists_guarded (by decide +kernel)
  obtain ⟨app, run⟩ := run
  exact (all _ _ _ _ run).1 0 (by simp)

end Msomeip.Application
