import Msomeip.Application.Completion
import Msomeip.Service.ServiceProxy

namespace Msomeip.ServiceProxy

open Application

variable {Handler : Type}

/-- What `call_method` returns; `completion` is what the future of its request holds when the wait
    is over, `none` after a timeout. -/
def callResult (proxy : ServiceProxy) (completion : Option Message) : Option PayloadData :=
  if !proxy.available then none
  else
    match completion with
    | none => none
    | some response => response.payload.map Payload.data

/-- What `set_field` makes of it. -/
def setFieldResult (proxy : ServiceProxy) (completion : Option Message) : Bool :=
  (proxy.callResult completion).isSome

/-- The server has answered, and the answer is a success. -/
def Success (message : Message) : Prop :=
  message.messageType = .response ∧ message.returnCode = .eOk

instance (message : Message) : Decidable (Success message) := inferInstanceAs (Decidable (_ ∧ _))

/-- A value is returned for a success only, and a field counts as set after a success only. -/
structure Truthful (proxy : ServiceProxy) (message : Message) : Prop where
  value : ∀ data, proxy.callResult (some message) = some data →
    Success message ∧ data = message.payloadData
  set : proxy.setFieldResult (some message) = true → Success message

theorem callResult_eq_some {proxy : ServiceProxy} {message : Message} {data : PayloadData} :
    proxy.callResult (some message) = some data ↔
      proxy.available = true ∧ ∃ payload, message.payload = some payload ∧ payload.data = data := by
  unfold callResult
  cases proxy.available <;> simp [Option.map_eq_some_iff]

/-- Exactly the messages that a proxy does not misjudge: nothing is looked at but the payload. -/
theorem truthful_iff (proxy : ServiceProxy) (message : Message) :
    Truthful proxy message ↔
      proxy.available = false ∨ message.payload = none ∨ Success message := by
  constructor
  · intro truthful
    cases available : proxy.available with
    | false => exact .inl rfl
    | true =>
      cases present : message.payload with
      | none => exact .inr (.inl rfl)
      | some payload =>
        have returned := callResult_eq_some.mpr ⟨available, payload, present, rfl⟩
        exact .inr (.inr (truthful.value _ returned).1)
  · intro fine
    have success (data : PayloadData) (returned : proxy.callResult (some message) = some data) :
        Success message := by
      obtain ⟨available, payload, present, -⟩ := callResult_eq_some.mp returned
      rcases fine with away | none | success
      · rw [available] at away
        cases away
      · rw [present] at none
        cases none
      · exact success
    constructor
    · intro data returned
      obtain ⟨-, payload, present, same⟩ := callResult_eq_some.mp returned
      refine ⟨success data returned, ?_⟩
      rw [← same, Message.payloadData, present]
    · intro set
      obtain ⟨data, returned⟩ := Option.isSome_iff_exists.mp set
      exact success data returned

/-- No proxy misjudges what completes the futures. -/
def AllTruthful (effects : List (Effect Handler)) : Prop :=
  ∀ promise message, .completed promise message ∈ effects →
    ∀ proxy : ServiceProxy, Truthful proxy message

theorem truthful_all_iff (message : Message) :
    (∀ proxy : ServiceProxy, Truthful proxy message) ↔
      message.payload = none ∨ Success message := by
  constructor
  · intro all
    have waiting := (truthful_iff ⟨0, 0, true⟩ message).mp (all ⟨0, 0, true⟩)
    simpa using waiting
  · intro fine proxy
    exact (truthful_iff proxy message).mpr (.inr fine)

/-- The errors that the application makes itself all come with an empty payload. -/
theorem errorResponse_misjudged (request : Message) (code : ReturnCode) :
    ¬ ∀ proxy : ServiceProxy, Truthful proxy (request.createErrorResponse code) := by
  rw [truthful_all_iff]
  rintro (absent | ⟨response, -⟩)
  · cases absent
  · cases response

/-- The loop over these requests completes none: there is none, or it ends at the first. -/
def Blocked (app : Application Handler) (entries : List (RequestId × PendingRequest)) : Prop :=
  ∀ entry ∈ entries.head?, app.promises.Satisfied entry.2.promise

theorem completed_completeEach {app : Application Handler} {message : Message} {eraseDone : Bool}
    {entries : List (RequestId × PendingRequest)} {promise : Nat} {completed : Message}
    (member : .completed promise completed ∈ (app.completeEach message eraseDone entries).2.2) :
    completed = message := by
  induction entries generalizing app with
  | nil => cases member
  | cons entry rest ih =>
    simp only [completeEach] at member
    split at member
    · simp at member
    · rcases List.mem_cons.mp member with same | later
      · cases same
        rfl
      · exact ih later

theorem completeEach_blocked {app : Application Handler} {message : Message} {eraseDone : Bool}
    {entries : List (RequestId × PendingRequest)} :
    (∀ promise completed,
        .completed promise completed ∉ (app.completeEach message eraseDone entries).2.2) ↔
      Blocked app entries := by
  cases entries with
  | nil => simp [Blocked, completeEach]
  | cons entry rest =>
    simp only [Blocked, completeEach, List.head?_cons, Option.mem_some_iff, forall_eq']
    cases set : app.promises.setValue entry.2.promise message with
    | none =>
      have satisfied := Promises.setValue_eq_none.mp set
      simp [satisfied]
    | some promises =>
      have open' := (Promises.setValue_some set).1
      simp only [open', iff_false]
      intro none
      exact none _ _ List.mem_cons_self

/-- Nothing that the step completes is misjudged: a request is handed to the transport, nothing is
    open when the application stops, nothing open has expired, and an answer to an open request is
    a success. -/
def Succeeds (app : Application Handler) : Action Handler → Prop
  | .sendFinish network => ∀ sending ∈ app.sending,
      network.Takes sending ∨ app.promises.Satisfied sending.promise
  | .stop traversal => app.running = true → Blocked app (traversal.entries app.pendingRequests)
  | .cleanupExpiredRequests now traversal => Blocked app (app.expired now traversal)
  | .handleMessage message _ => message.isResponseType = true →
      ∀ request ∈ app.pendingRequests[message.getRequestId]?,
        app.promises.Satisfied request.promise ∨ message.payload = none ∨ Success message
  | _ => True

/-- A step that completes futures with one error of the application's own only. -/
theorem allTruthful_errors {effects : List (Effect Handler)} {request : Message} {code : ReturnCode}
    (own : ∀ promise completed, .completed promise completed ∈ effects →
      completed = request.createErrorResponse code) :
    AllTruthful effects ↔ ∀ promise completed, .completed promise completed ∉ effects := by
  constructor
  · intro truthful promise completed member
    have misjudged := truthful promise completed member
    rw [own promise completed member] at misjudged
    exact errorResponse_misjudged request code misjudged
  · intro none promise completed member
    exact (none promise completed member).elim

theorem completeEach_truthful {app : Application Handler} {request : Message} {code : ReturnCode}
    {eraseDone : Bool} {entries : List (RequestId × PendingRequest)} :
    AllTruthful (app.completeEach (request.createErrorResponse code) eraseDone entries).2.2 ↔
      Blocked app entries := by
  rw [allTruthful_errors fun _ _ => completed_completeEach]
  exact completeEach_blocked

theorem sendFinish_truthful (app : Application Handler) (sending : Sending) (network : Network) :
    AllTruthful (app.sendFinish sending network).2 ↔
      network.Takes sending ∨ app.promises.Satisfied sending.promise := by
  have own (promise : Nat) (completed : Message)
      (member : .completed promise completed ∈ (app.sendFinish sending network).2) :
      completed = sending.message.createErrorResponse .eNotReachable := by
    simp only [sendFinish] at member
    split at member
    · simp at member
    · split at member <;> simp at member
      exact member.2
  rw [allTruthful_errors own, Network.Takes, ← sendVia_iff]
  cases taken : (sendVia sending.message sending.reliable network.outcome 0 network.endpoints).1 with
  | true => simp [sendFinish, taken]
  | false =>
    cases set : app.promises.setValue sending.promise
        (sending.message.createErrorResponse .eNotReachable) with
    | none =>
      have satisfied := Promises.setValue_eq_none.mp set
      simp [sendFinish, taken, set, satisfied]
    | some promises =>
      have open' := (Promises.setValue_some set).1
      simp [sendFinish, taken, set, open']

theorem handleResponse_truthful (app : Application Handler) (message : Message) :
    AllTruthful (app.handleResponse message).2 ↔
      ∀ request ∈ app.pendingRequests[message.getRequestId]?,
        app.promises.Satisfied request.promise ∨ message.payload = none ∨ Success message := by
  unfold handleResponse
  cases app.pendingRequests[message.getRequestId]? with
  | none => simp [AllTruthful]
  | some request =>
    simp only [Option.mem_some_iff, forall_eq', completeEach]
    cases set : app.promises.setValue request.promise message with
    | none =>
      have satisfied := Promises.setValue_eq_none.mp set
      simp [AllTruthful, satisfied]
    | some promises =>
      have open' := (Promises.setValue_some set).1
      have only : AllTruthful ([.completed request.promise message] : List (Effect Handler)) ↔
          ∀ proxy : ServiceProxy, Truthful proxy message := by
        simp [AllTruthful]
      simp only [open', false_or]
      exact only.trans (truthful_all_iff message)

theorem handleMessage_truthful (app : Application Handler) (message : Message) (network : Network) :
    AllTruthful (app.handleMessage message network).2 ↔
      Succeeds app (.handleMessage message network) := by
  unfold handleMessage Succeeds
  by_cases response : message.isResponseType = true
  · rw [if_pos response, handleResponse_truthful]
    simp only [response, true_implies]
  · rw [if_neg response]
    refine iff_of_true ?_ fun responds => (response responds).elim
    intro promise completed member
    split at member
    · split at member <;> simp at member
    · split at member
      · split at member <;> simp at member
      · cases member

theorem stop_truthful (app : Application Handler) (traversal : Traversal) :
    AllTruthful (app.stop traversal).2 ↔ Succeeds app (.stop traversal) := by
  cases running : app.running with
  | false => simp [stop, Succeeds, AllTruthful, running]
  | true =>
    have looped : (app.stop traversal).2 = ({ app with running := false }.completeEach
        (Message.createErrorResponse (Message.createRequest 0 0 0 0 false) .eNotOk) false
        (traversal.entries app.pendingRequests)).2.2 := by
      simp only [stop, running, Bool.not_true, Bool.false_eq_true, if_false]
      split <;> rfl
    rw [looped, completeEach_truthful]
    simp [Succeeds, running, Blocked]

theorem step_truthful {app next : Application Handler} {action : Action Handler}
    {emitted : List (Effect Handler)} (stepped : step app action = some (next, emitted)) :
    AllTruthful emitted ↔ Succeeds app action := by
  cases action with
  | sendFinish network =>
    simp only [step] at stepped
    split at stepped
    · rename_i sending current
      have emits : (app.sendFinish sending network).2 = emitted :=
        congrArg Prod.snd (Option.some.inj stepped)
      rw [← emits, sendFinish_truthful]
      simp only [Succeeds, current, Option.mem_some_iff, forall_eq']
    · cases stepped
  | stop traversal =>
    have emits : (app.stop traversal).2 = emitted := congrArg Prod.snd (Option.some.inj stepped)
    rw [← emits]
    exact stop_truthful app traversal
  | cleanupExpiredRequests now traversal =>
    have emits : (app.cleanupExpiredRequests now traversal).2 = emitted :=
      congrArg Prod.snd (Option.some.inj stepped)
    rw [← emits]
    exact completeEach_truthful
  | handleMessage message network =>
    have emits : (app.handleMessage message network).2 = emitted :=
      congrArg Prod.snd (Option.some.inj stepped)
    rw [← emits]
    exact handleMessage_truthful app message network
  | sendBegin service instance' method payload reliable timeout now =>
    simp only [step] at stepped
    split at stepped
    · cases stepped
    · obtain ⟨-, rfl⟩ := Prod.mk.inj (Option.some.inj stepped)
      simp [AllTruthful, Succeeds]
  | sendRequestNoReturn service instance' method payload reliable network =>
    simp only [step] at stepped
    split at stepped
    · cases stepped
    · obtain ⟨-, rfl⟩ := Prod.mk.inj (Option.some.inj stepped)
      simp [AllTruthful, Succeeds]
  | _ =>
    obtain ⟨-, rfl⟩ := Prod.mk.inj (Option.some.inj stepped)
    simp [AllTruthful, Succeeds]

theorem allTruthful_append {first second : List (Effect Handler)} :
    AllTruthful (first ++ second) ↔ AllTruthful first ∧ AllTruthful second := by
  simp only [AllTruthful, List.mem_append, or_imp, forall_and]

/-- What a proxy makes of a message is right exactly where the message is a success or brings no
    payload, and along a run of the application that is so for all requests exactly when every
    step of the run succeeds. -/
theorem results_truthful_iff {clientId : ClientId} {actions : List (Action Handler)}
    {effects : List (Effect Handler)} {app : Application Handler}
    (run : Runs.Run step (create clientId) actions effects app) :
    (∀ (proxy : ServiceProxy) (message : Message), Truthful proxy message ↔
      proxy.available = false ∨ message.payload = none ∨ Success message) ∧
    (Runs.Always step (create clientId) (fun _ effects _ => AllTruthful effects) actions ↔
      Runs.Guarded step Succeeds (create clientId) actions effects app) := by
  refine ⟨truthful_iff, Runs.always_iff_guarded ?_ ?_ run⟩
  · intro actions effects app guarded
    apply guarded.invariant (fun _ effects _ => AllTruthful effects)
    · intro promise message member
      cases member
    · intro _ effects _ _ _ emitted before succeeds stepped
      exact allTruthful_append.mpr ⟨before, (step_truthful stepped).mpr succeeds⟩
  · intro actions effects app action next emitted _ stepped truthful
    exact (step_truthful stepped).mp (allTruthful_append.mp truthful).2

instance (app : Application Handler) (entries : List (RequestId × PendingRequest)) :
    Decidable (Blocked app entries) :=
  Option.decidableForallMem entries.head?

instance (app : Application Handler) : (action : Action Handler) → Decidable (Succeeds app action)
  | .sendFinish network => inferInstanceAs (Decidable (∀ sending ∈ app.sending,
      network.Takes sending ∨ app.promises.Satisfied sending.promise))
  | .stop _ => inferInstanceAs (Decidable (app.running = true → Blocked app _))
  | .cleanupExpiredRequests .. => inferInstanceAs (Decidable (Blocked app _))
  | .handleMessage message _ => inferInstanceAs (Decidable (message.isResponseType = true →
      ∀ request ∈ app.pendingRequests[message.getRequestId]?,
        app.promises.Satisfied request.promise ∨ message.payload = none ∨ Success message))
  | .sendBegin .. | .start | .sendRequestNoReturn .. | .registerMethodHandler ..
  | .unregisterMethodHandler .. | .setEventHandler .. => .isTrue trivial

/-- A request for the setter of field 1, and the answer to it where there is one. -/
def setting (network : Network) (answers : List Message) : List (Action Unit) :=
  [.sendBegin 0x1234 0x0001 (setterId 0x0001) [0x2A] false 5000 0, .sendFinish network] ++
    answers.map fun answer => .handleMessage answer ⟨[], fun _ _ => false⟩

def reachable : Network := ⟨[⟨"127.0.0.1", 30509, .udp⟩], fun _ _ => true⟩

def accepted : Message :=
  { serviceId := 0x1234, methodId := setterId 0x0001, clientId := 0x0001, sessionId := 0x0001
    messageType := .response, payload := some {} }

theorem accepted_truthful : Runs.Always step (create 0x0001)
    (fun _ effects _ => AllTruthful effects) (setting reachable [accepted]) := by
  have executed : (Runs.execute step Succeeds (create 0x0001)
      (setting reachable [accepted])).isSome := by
    decide +kernel
  obtain ⟨⟨app, effects⟩, found⟩ := Option.isSome_iff_exists.mp executed
  have guarded := Runs.guarded_of_execute found
  exact (results_truthful_iff guarded.run).2.mpr guarded

/-- What completes the request where the service has no endpoints. -/
def notReachable : Message :=
  Message.createErrorResponse
    ((create 0x0001 : Application Unit).request 0x1234 0x0001 (setterId 0x0001) [0x2A] false)
    .eNotReachable

/-- A field of a service that is not reachable counts as set. -/
theorem notReachable_countsAsSet : ∃ effects app,
    Runs.Run step (create 0x0001) (setting ⟨[], fun _ _ => false⟩ []) effects app ∧
      .completed 0 notReachable ∈ effects ∧
      ServiceProxy.callResult ⟨0x1234, 0x0001, true⟩ (some notReachable) = some [] ∧
      ServiceProxy.setFieldResult ⟨0x1234, 0x0001, true⟩ (some notReachable) = true ∧
      ¬ Success notReachable ∧ ¬ AllTruthful effects := by
  have executed : (Runs.execute step (fun _ _ => True) (create 0x0001)
      (setting ⟨[], fun _ _ => false⟩ [])).map Prod.snd =
        some [.requested 0 0x00010001, .completed 0 notReachable] := by
    decide +kernel
  obtain ⟨app, run⟩ := Runs.exists_guarded executed
  have completed : .completed 0 notReachable ∈
      ([.requested 0 0x00010001, .completed 0 notReachable] : List (Effect Unit)) := by
    simp
  refine ⟨_, app, run, completed, rfl, rfl, by decide, ?_⟩
  intro truthful
  exact errorResponse_misjudged _ _ (truthful 0 _ completed)

end Msomeip.ServiceProxy
