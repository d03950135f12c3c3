import Msomeip.Application.Application

namespace Msomeip.Application

variable {Handler : Type}

/-- The step hands out no future, and drops from the pending requests only satisfied ones. -/
structure Settles (before after : Application Handler) : Prop where
  next : after.promises.next = before.promises.next
  kept : ∀ promise, before.promises.Satisfied promise → after.promises.Satisfied promise
  stored : ∀ (requestId : RequestId) (request : PendingRequest),
    before.pendingRequests[requestId]? = some request →
      after.pendingRequests[requestId]? = some request ∨ after.promises.Satisfied request.promise
  only : ∀ (requestId : RequestId) (request : PendingRequest),
    after.pendingRequests[requestId]? = some request →
      before.pendingRequests[requestId]? = some request

theorem Settles.of_same {before after : Application Handler}
    (promises : after.promises = before.promises)
    (pending : after.pendingRequests = before.pendingRequests) : Settles before after := by
  constructor
  · rw [promises]
  · intro promise satisfied
    rwa [promises]
  · intro requestId request found
    exact .inl (by rwa [pending])
  · intro requestId request found
    rwa [pending] at found

theorem Settles.trans {first second third : Application Handler} (former : Settles first second)
    (latter : Settles second third) : Settles first third where
  next := latter.next.trans former.next
  kept promise satisfied := latter.kept promise (former.kept promise satisfied)
  stored requestId request found := by
    rcases former.stored requestId request found with found | satisfied
    · exact latter.stored requestId request found
    · exact .inr (latter.kept _ satisfied)
  only requestId request found := former.only _ _ (latter.only _ _ found)

theorem setValue_settles {app : Application Handler} {promises : Promises Message}
    {promise : Nat} {message : Message}
    (set : app.promises.setValue promise message = some promises) :
    Settles app { app with promises := promises } := by
  obtain ⟨-, next, satisfied⟩ := Promises.setValue_some set
  exact ⟨next, fun other known => (satisfied other).mpr (.inr known),
    fun _ _ found => .inl found, fun _ _ found => found⟩

theorem erase_settles {app : Application Handler} {requestId : RequestId}
    (done : ∀ request, app.pendingRequests[requestId]? = some request →
      app.promises.Satisfied request.promise) :
    Settles app { app with pendingRequests := app.pendingRequests.erase requestId } := by
  constructor
  · rfl
  · exact fun _ known => known
  · intro other request found
    by_cases same : requestId = other
    · subst same
      exact .inr (done request found)
    · exact .inl (by simp [Maps.lookup_erase, same, found])
  · intro other request found
    simp only [Maps.lookup_erase] at found
    split at found
    · cases found
    · exact found

theorem completeEach_settles {message : Message} {eraseDone : Bool} {app : Application Handler}
    {entries : List (RequestId × PendingRequest)}
    (entriesOf : ∀ entry ∈ entries, ∀ request,
      app.pendingRequests[entry.1]? = some request → request = entry.2) :
    Settles app (app.completeEach message eraseDone entries).2.1 := by
  induction entries generalizing app with
  | nil => exact .of_same rfl rfl
  | cons entry rest ih =>
    obtain ⟨requestId, request⟩ := entry
    simp only [completeEach]
    cases set : app.promises.setValue request.promise message with
    | none => exact .of_same rfl rfl
    | some promises =>
      have satisfied := (Promises.setValue_some set).2.2
      have middle : Settles app
          { app with
            promises := promises
            pendingRequests :=
              if eraseDone then app.pendingRequests.erase requestId else app.pendingRequests } := by
        apply (setValue_settles set).trans
        cases eraseDone with
        | false => exact .of_same rfl rfl
        | true =>
          apply erase_settles
          intro stored found
          obtain rfl := entriesOf _ (List.mem_cons_self ..) stored found
          exact (satisfied _).mpr (.inl rfl)
      apply middle.trans
      apply ih
      intro entry member stored found
      exact entriesOf entry (List.mem_cons_of_mem _ member) stored (middle.only _ _ found)

theorem clear_settles {app : Application Handler}
    (done : ∀ (requestId : RequestId) (request : PendingRequest),
      app.pendingRequests[requestId]? = some request → app.promises.Satisfied request.promise) :
    Settles app { app with pendingRequests := ∅ } :=
  ⟨rfl, fun _ known => known, fun requestId request found => .inr (done requestId request found),
    fun _ _ found => by simp at found⟩

theorem completeEach_finished {message : Message} {eraseDone : Bool} {app : Application Handler}
    {entries : List (RequestId × PendingRequest)}
    (finished : (app.completeEach message eraseDone entries).1 = true) :
    (∀ promise, app.promises.Satisfied promise →
        (app.completeEach message eraseDone entries).2.1.promises.Satisfied promise) ∧
      ∀ entry ∈ entries,
        (app.completeEach message eraseDone entries).2.1.promises.Satisfied entry.2.promise := by
  induction entries generalizing app with
  | nil => exact ⟨fun _ known => known, by simp⟩
  | cons entry rest ih =>
    simp only [completeEach] at finished ⊢
    cases set : app.promises.setValue entry.2.promise message with
    | none => simp [set] at finished
    | some promises =>
      simp only [set] at finished ⊢
      have satisfied := (Promises.setValue_some set).2.2
      obtain ⟨kept, later⟩ := ih finished
      have head := kept _ ((satisfied entry.2.promise).mpr (.inl rfl))
      exact ⟨fun promise known => kept _ ((satisfied promise).mpr (.inr known)),
        List.forall_mem_cons.mpr ⟨head, later⟩⟩

theorem completeEach_sending (message : Message) (eraseDone : Bool) (app : Application Handler)
    (entries : List (RequestId × PendingRequest)) :
    (app.completeEach message eraseDone entries).2.1.sending = app.sending := by
  induction entries generalizing app with
  | nil => rfl
  | cons entry rest ih =>
    simp only [completeEach]
    split
    · rfl
    · exact ih _

theorem completeEach_effects {message : Message} {eraseDone : Bool} {app : Application Handler}
    {entries : List (RequestId × PendingRequest)} {effect : Effect Handler}
    (member : effect ∈ (app.completeEach message eraseDone entries).2.2) :
    ∀ promise requestId, effect ≠ .requested promise requestId := by
  induction entries generalizing app with
  | nil => cases member
  | cons entry rest ih =>
    simp only [completeEach] at member
    split at member
    · obtain rfl := List.mem_singleton.mp member
      simp
    · rcases List.mem_cons.mp member with rfl | later
      · simp
      · exact ih later

theorem mem_expired {app : Application Handler} {now : TimePoint} {traversal : Traversal}
    {entry : RequestId × PendingRequest} (member : entry ∈ app.expired now traversal) :
    app.pendingRequests[entry.1]? = some entry.2 :=
  Maps.Traversal.mem_entries.mp (List.mem_of_mem_filter member)

/-- What a step that starts no request does. -/
structure Quiet (before after : Application Handler) (emitted : List (Effect Handler)) : Prop where
  settles : Settles before after
  sending : after.sending = before.sending ∨ after.sending = none
  requested : ∀ promise requestId, .requested promise requestId ∉ emitted

theorem completeEach_quiet {message : Message} {eraseDone : Bool} {app : Application Handler}
    {entries : List (RequestId × PendingRequest)}
    (entriesOf : ∀ entry ∈ entries, app.pendingRequests[entry.1]? = some entry.2) :
    Quiet app (app.completeEach message eraseDone entries).2.1
      (app.completeEach message eraseDone entries).2.2 where
  settles := completeEach_settles fun entry member _ found =>
    Option.some.inj (found.symm.trans (entriesOf entry member))
  sending := .inl (completeEach_sending ..)
  requested promise requestId member := completeEach_effects member promise requestId rfl

theorem Quiet.of_same {before after : Application Handler} {emitted : List (Effect Handler)}
    (promises : after.promises = before.promises)
    (pending : after.pendingRequests = before.pendingRequests)
    (sending : after.sending = before.sending ∨ after.sending = none)
    (requested : ∀ promise requestId, .requested promise requestId ∉ emitted) :
    Quiet before after emitted :=
  ⟨.of_same promises pending, sending, requested⟩

theorem sendFinish_quiet (app : Application Handler) (sending : Sending) (network : Network) :
    Quiet app (app.sendFinish sending network).1 (app.sendFinish sending network).2 := by
  simp only [sendFinish]
  split
  · exact .of_same rfl rfl (.inr rfl) (by simp)
  · split
    · exact .of_same rfl rfl (.inr rfl) (by simp)
    · rename_i promises set
      have idle : Settles app { app with sending := none } := .of_same rfl rfl
      exact ⟨idle.trans (setValue_settles set), .inr rfl, by simp⟩

theorem handleMessage_quiet (app : Application Handler) (message : Message) (network : Network) :
    Quiet app (app.handleMessage message network).1 (app.handleMessage message network).2 := by
  unfold handleMessage
  split
  · unfold handleResponse
    cases found : app.pendingRequests[message.getRequestId]? with
    | none => exact .of_same rfl rfl (.inl rfl) (by simp)
    | some request =>
      exact completeEach_quiet (by simpa using found)
  all_goals
    repeat' split
    all_goals exact .of_same rfl rfl (.inl rfl) (by simp)

theorem stop_quiet (app : Application Handler) (traversal : Traversal) :
    Quiet app (app.stop traversal).1 (app.stop traversal).2 := by
  simp only [stop]
  split
  · exact .of_same rfl rfl (.inl rfl) (by simp)
  · generalize Message.createErrorResponse _ _ = message
    have halted : Settles app { app with running := false } := .of_same rfl rfl
    have loop : Quiet { app with running := false }
        ({ app with running := false }.completeEach message false
          (traversal.entries app.pendingRequests)).2.1
        ({ app with running := false }.completeEach message false
          (traversal.entries app.pendingRequests)).2.2 :=
      completeEach_quiet fun _ member => Maps.Traversal.mem_entries.mp member
    split
    · rename_i finished
      have done := (completeEach_finished finished).2
      have cleared := clear_settles fun requestId request found =>
        done (requestId, request) (Maps.Traversal.mem_entries.mpr
          (loop.settles.only requestId request found))
      exact ⟨(halted.trans loop.settles).trans cleared, loop.sending, loop.requested⟩
    · exact ⟨halted.trans loop.settles, loop.sending, loop.requested⟩

theorem step_cases {app next : Application Handler} {action : Action Handler}
    {emitted : List (Effect Handler)} (stepped : step app action = some (next, emitted)) :
    (action.Starts ∧ app.sending = none ∧ ∃ message reliable timeout now,
      message.getRequestId = app.nextRequestId ∧
        (next, emitted) = app.sendBegin message reliable timeout now) ∨
    (¬ action.Starts ∧ Quiet app next emitted) := by
  cases action with
  | sendBegin service instance' method payload reliable timeout now =>
    left
    simp only [step] at stepped
    split at stepped
    · cases stepped
    · rename_i idle
      exact ⟨trivial, idle, app.request service instance' method payload reliable, reliable, timeout,
        now, rfl, (Option.some.inj stepped).symm⟩
  | start =>
    obtain ⟨rfl, rfl⟩ := Prod.mk.inj (Option.some.inj stepped)
    exact .inr ⟨id, .of_same rfl rfl (.inl rfl) (by simp)⟩
  | stop traversal =>
    obtain ⟨rfl, rfl⟩ := Prod.mk.inj (Option.some.inj stepped)
    exact .inr ⟨id, app.stop_quiet traversal⟩
  | sendFinish network =>
    simp only [step] at stepped
    split at stepped
    · obtain ⟨rfl, rfl⟩ := Prod.mk.inj (Option.some.inj stepped)
      exact .inr ⟨id, app.sendFinish_quiet _ network⟩
    · cases stepped
  | sendRequestNoReturn service instance' method payload reliable network =>
    simp only [step] at stepped
    split at stepped
    · cases stepped
    · obtain ⟨rfl, rfl⟩ := Prod.mk.inj (Option.some.inj stepped)
      exact .inr ⟨id, .of_same rfl rfl (.inl rfl) (by simp)⟩
  | handleMessage message network =>
    obtain ⟨rfl, rfl⟩ := Prod.mk.inj (Option.some.inj stepped)
    exact .inr ⟨id, app.handleMessage_quiet message network⟩
  | cleanupExpiredRequests now traversal =>
    obtain ⟨rfl, rfl⟩ := Prod.mk.inj (Option.some.inj stepped)
    exact .inr ⟨id, completeEach_quiet fun _ member => mem_expired member⟩
  | registerMethodHandler method handler =>
    obtain ⟨rfl, rfl⟩ := Prod.mk.inj (Option.some.inj stepped)
    exact .inr ⟨id, .of_same rfl rfl (.inl rfl) (by simp)⟩
  | unregisterMethodHandler method =>
    obtain ⟨rfl, rfl⟩ := Prod.mk.inj (Option.some.inj stepped)
    exact .inr ⟨id, .of_same rfl rfl (.inl rfl) (by simp)⟩
  | setEventHandler event handler =>
    obtain ⟨rfl, rfl⟩ := Prod.mk.inj (Option.some.inj stepped)
    exact .inr ⟨id, .of_same rfl rfl (.inl rfl) (by simp)⟩

end Msomeip.Application
