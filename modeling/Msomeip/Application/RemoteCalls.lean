import Msomeip.Application.Deliveries

namespace Msomeip

open Transport

namespace Application

variable {Handler : Type}

/-- What the loops over pending requests leave alone. -/
structure SameIds (before after : Application Handler) : Prop where
  client : after.clientId = before.clientId
  session : after.sessionId = before.sessionId

theorem completeEach_ids (app : Application Handler) (message : Message) (eraseDone : Bool)
    (entries : List (RequestId × PendingRequest)) :
    SameIds app (app.completeEach message eraseDone entries).2.1 := by
  induction entries generalizing app with
  | nil => exact ⟨rfl, rfl⟩
  | cons entry rest ih =>
    simp only [completeEach]
    split
    · exact ⟨rfl, rfl⟩
    · rename_i promises set
      obtain ⟨client, session⟩ := ih { app with
        promises := promises
        pendingRequests :=
          if eraseDone then app.pendingRequests.erase entry.1 else app.pendingRequests }
      exact ⟨client, session⟩

theorem stop_ids (app : Application Handler) (traversal : Traversal) :
    SameIds app (app.stop traversal).1 := by
  simp only [stop]
  split
  · exact ⟨rfl, rfl⟩
  · obtain ⟨client, session⟩ := { app with running := false }.completeEach_ids
      (Message.createErrorResponse (Message.createRequest 0 0 0 0 false) .eNotOk) false
      (traversal.entries app.pendingRequests)
    split
    · exact ⟨client, session⟩
    · exact ⟨client, session⟩

theorem sendFinish_ids (app : Application Handler) (sending : Sending) (network : Network) :
    SameIds app (app.sendFinish sending network).1 := by
  simp only [sendFinish]
  split
  · exact ⟨rfl, rfl⟩
  · split
    · exact ⟨rfl, rfl⟩
    · exact ⟨rfl, rfl⟩

theorem handleMessage_ids (app : Application Handler) (message : Message) (network : Network) :
    SameIds app (app.handleMessage message network).1 := by
  unfold handleMessage
  split
  · unfold handleResponse
    split
    · exact ⟨rfl, rfl⟩
    · exact completeEach_ids _ _ _ _
  · repeat' split
    all_goals exact ⟨rfl, rfl⟩

/-- Only a response completes futures, and only one that is pending under its id. -/
theorem handleMessage_completed {app : Application Handler} {message answer : Message}
    {network : Network} {promise : Nat} :
    .completed promise answer ∈ (app.handleMessage message network).2 →
      answer = message ∧ message.isResponseType = true ∧
        ∃ pending, app.pendingRequests[message.getRequestId]? = some pending ∧
          pending.promise = promise := by
  unfold handleMessage
  split
  · rename_i response
    unfold handleResponse
    split
    · exact fun member => absurd member List.not_mem_nil
    · rename_i pending found
      simp only [completeEach]
      split
      · simp
      · intro member
        obtain ⟨rfl, rfl⟩ := Effect.completed.inj (List.mem_singleton.mp member)
        exact ⟨rfl, response, pending, found, rfl⟩
  · repeat' split
    all_goals simp

theorem answer_request {app : Application MethodHandler} {request : Message} {answer : Answer}
    (answered : app.answer request = some answer) : request.isRequestType = true := by
  unfold Application.answer at answered
  split at answered
  · cases answered
  · split at answered
    · cases answered
    · split at answered
      · rename_i isRequest
        exact isRequest
      · cases answered

end Application

namespace Responder

/-- The requests that a peer has numbered, with a future or without one. -/
def requestOf : PeerReport → Option Message
  | .asked _ request | .told request => some request
  | _ => none

/-- A call numbers one request with the ids of the application, or none. -/
inductive Numbers (app next : Application Application.MethodHandler) : List Message → Prop
  | none : Application.SameIds app next → Numbers app next []
  | one {request : Message} : next.clientId = app.clientId →
      next.sessionId = app.sessionId + 1 → request.clientId = app.clientId →
      request.sessionId = app.sessionId →
      request.messageType = .request ∨ request.messageType = .requestNoReturn →
      Numbers app next [request]

theorem call_numbers {app next : Application Application.MethodHandler}
    {action : Application.Action Application.MethodHandler}
    {effects : List (Application.Effect Application.MethodHandler)}
    (stepped : Application.step app action = some (next, effects)) :
    Numbers app next ((callReports app action).filterMap requestOf) := by
  cases action with
  | sendBegin service instance' method payload reliable timeout now =>
    simp only [Application.step] at stepped
    split at stepped
    · cases stepped
    · obtain ⟨rfl, -⟩ := Prod.mk.inj (Option.some.inj stepped)
      exact .one rfl rfl rfl rfl (Or.inl rfl)
  | sendRequestNoReturn service instance' method payload reliable network =>
    simp only [Application.step] at stepped
    split at stepped
    · cases stepped
    · obtain ⟨rfl, -⟩ := Prod.mk.inj (Option.some.inj stepped)
      exact .one rfl rfl rfl rfl (Or.inr rfl)
  | sendFinish network =>
    simp only [Application.step] at stepped
    split at stepped
    · rename_i sending current
      obtain ⟨rfl, -⟩ := Prod.mk.inj (Option.some.inj stepped)
      have nothing : (callReports app (.sendFinish network)).filterMap requestOf = [] := by
        simp [callReports, current, requestOf]
      rw [nothing]
      exact .none (app.sendFinish_ids sending network)
    · cases stepped
  | stop traversal =>
    obtain ⟨rfl, -⟩ := Prod.mk.inj (Option.some.inj stepped)
    exact .none (app.stop_ids traversal)
  | handleMessage message network =>
    obtain ⟨rfl, -⟩ := Prod.mk.inj (Option.some.inj stepped)
    exact .none (app.handleMessage_ids message network)
  | cleanupExpiredRequests now traversal =>
    obtain ⟨rfl, -⟩ := Prod.mk.inj (Option.some.inj stepped)
    exact .none (app.completeEach_ids _ _ _)
  | start | registerMethodHandler method handler | unregisterMethodHandler method
  | setEventHandler event handler =>
    obtain ⟨rfl, -⟩ := Prod.mk.inj (Option.some.inj stepped)
    exact .none ⟨rfl, rfl⟩

theorem call_pending {app next : Application Application.MethodHandler}
    {action : Application.Action Application.MethodHandler}
    {effects : List (Application.Effect Application.MethodHandler)}
    (stepped : Application.step app action = some (next, effects)) {requestId : RequestId}
    {pending : PendingRequest} (found : next.pendingRequests[requestId]? = some pending) :
    app.pendingRequests[requestId]? = some pending ∨
      ∃ request, .asked pending.promise request ∈ callReports app action ∧
        request.getRequestId = requestId := by
  rcases Application.step_cases stepped with ⟨starts, -, -⟩ | ⟨-, quiet⟩
  · cases action with
    | sendBegin service instance' method payload reliable timeout now =>
      simp only [Application.step] at stepped
      split at stepped
      · cases stepped
      · obtain ⟨rfl, -⟩ := Prod.mk.inj (Option.some.inj stepped)
        rw [Maps.lookup_insert] at found
        split at found
        · rename_i same
          obtain rfl := Option.some.inj found
          exact Or.inr ⟨_, List.mem_singleton_self _, same⟩
        · exact Or.inl found
    | _ => exact starts.elim
  · exact Or.inl (quiet.settles.only _ _ found)

end Responder

namespace Peers

variable {Peer : Type} [DecidableEq Peer]

/-- What is sent by hand is a notification. -/
def Notifies (_ : Peer) : PeerCommand → Prop
  | .sendMessage message _ _ _ _ => message.messageType = .notification
  | _ => True

instance (peer : Peer) : (command : PeerCommand) → Decidable (Notifies peer command)
  | .sendMessage .. => inferInstanceAs (Decidable (_ = _))
  | .call _ | .registerServiceHandler .. | .unregisterServiceHandler .. | .discover _ =>
    .isTrue trivial

/-- The requests of a peer, in the order in which it numbered them. -/
def numbered (reports : List (Peer × PeerReport)) (peer : Peer) : List Message :=
  (reports.filter (·.1 == peer)).filterMap fun report => Responder.requestOf report.2

/-- The message is a notification, a request of the peer, or the answer that it gave to one. -/
def Origin (reports : List (Peer × PeerReport)) (peer : Peer) (message : Message) : Prop :=
  message.messageType = .notification ∨ message ∈ numbered reports peer ∨
    ∃ request answer, (peer, .answered request answer) ∈ reports ∧
      message = answer.response request

/-- The message arrived as a peer made it. -/
def Arrived (reports : List (Peer × PeerReport)) (message : Message) : Prop :=
  ∃ source original, (source, .outgoing original) ∈ reports ∧ message = original.received

def Caused (reports : List (Peer × PeerReport)) : Peer × PeerReport → Prop
  | (_, .asked _ request) | (_, .told request) =>
    request.messageType = .request ∨ request.messageType = .requestNoReturn
  | (peer, .outgoing message) => Origin reports peer message
  | (_, .handed _ _) => True
  | (_, .answered request _) => request.isRequestType = true ∧ Arrived reports request
  | (peer, .completed promise message) =>
    message.isResponseType = true ∧ Arrived reports message ∧
      ∃ request, (peer, .asked promise request) ∈ reports ∧
        request.getRequestId = message.getRequestId

structure Counting (clientIds : Peer → ClientId) (reports : List (Peer × PeerReport)) (peer : Peer)
    (responder : Responder) : Prop where
  quiescent : Quiescent responder
  client : responder.app.clientId = clientIds peer
  next : responder.app.sessionId = UInt16.ofNat (1 + (numbered reports peer).length)
  ids : ∀ (index : Nat) request, (numbered reports peer)[index]? = some request →
    request.clientId = clientIds peer ∧ request.sessionId = UInt16.ofNat (1 + index)
  sending : ∀ sending ∈ responder.app.sending,
    (peer, .asked sending.promise sending.message) ∈ reports
  pending : ∀ (requestId : RequestId) (pending : PendingRequest),
    responder.app.pendingRequests[requestId]? = some pending →
      ∃ request, (peer, .asked pending.promise request) ∈ reports ∧
        request.getRequestId = requestId

theorem numbered_append (reports later : List (Peer × PeerReport)) (peer : Peer) :
    numbered (reports ++ later) peer = numbered reports peer ++ numbered later peer := by
  simp [numbered]

theorem numbered_own (own : List PeerReport) (peer : Peer) :
    numbered (own.map (peer, ·)) peer = own.filterMap Responder.requestOf := by
  have all : (own.map (peer, ·)).filter (·.1 == peer) = own.map (peer, ·) := by
    simp [List.filter_eq_self]
  rw [numbered, all, List.filterMap_map]
  rfl

theorem numbered_other (own : List PeerReport) {peer other : Peer} (differs : other ≠ peer) :
    numbered (own.map (other, ·)) peer = [] := by
  simp [numbered, List.filter_map, differs]

theorem mem_numbered {reports : List (Peer × PeerReport)} {peer : Peer} {request : Message}
    {report : PeerReport} (member : (peer, report) ∈ reports)
    (asks : Responder.requestOf report = some request) : request ∈ numbered reports peer := by
  apply List.mem_filterMap.mpr
  exact ⟨(peer, report), List.mem_filter.mpr ⟨member, by simp⟩, asks⟩

theorem Origin.later {reports : List (Peer × PeerReport)} {peer : Peer} {message : Message}
    (origin : Origin reports peer message) (later : List (Peer × PeerReport)) :
    Origin (reports ++ later) peer message := by
  rcases origin with notification | made | ⟨request, answer, answered, same⟩
  · exact Or.inl notification
  · right
    left
    rw [numbered_append]
    exact List.mem_append_left _ made
  · exact Or.inr (Or.inr ⟨request, answer, List.mem_append_left _ answered, same⟩)

omit [DecidableEq Peer] in
theorem Arrived.later {reports : List (Peer × PeerReport)} {message : Message}
    (arrived : Arrived reports message) (later : List (Peer × PeerReport)) :
    Arrived (reports ++ later) message := by
  obtain ⟨source, original, made, same⟩ := arrived
  exact ⟨source, original, List.mem_append_left _ made, same⟩

theorem Caused.later {reports : List (Peer × PeerReport)} {report : Peer × PeerReport}
    (caused : Caused reports report) (later : List (Peer × PeerReport)) :
    Caused (reports ++ later) report := by
  obtain ⟨peer, report⟩ := report
  cases report with
  | asked promise request => exact caused
  | told request => exact caused
  | outgoing message => exact Origin.later caused later
  | handed reliable message => exact True.intro
  | answered request answer => exact ⟨caused.1, caused.2.later later⟩
  | completed promise message =>
    obtain ⟨response, arrived, request, asked, same⟩ := caused
    exact ⟨response, arrived.later later, request, List.mem_append_left _ asked, same⟩

/-- What others report is no request of this peer. -/
theorem Counting.others {clientIds : Peer → ClientId} {reports : List (Peer × PeerReport)}
    {peer other : Peer} {responder : Responder} (counting : Counting clientIds reports peer responder)
    (differs : other ≠ peer) (own : List PeerReport) :
    Counting clientIds (reports ++ own.map (other, ·)) peer responder := by
  have same : numbered (reports ++ own.map (other, ·)) peer = numbered reports peer := by
    rw [numbered_append, numbered_other own differs, List.append_nil]
  constructor
  · exact counting.quiescent
  · exact counting.client
  · rw [same]
    exact counting.next
  · rw [same]
    exact counting.ids
  · exact fun sending current => List.mem_append_left _ (counting.sending sending current)
  · intro requestId pending found
    obtain ⟨request, asked, id⟩ := counting.pending requestId pending found
    exact ⟨request, List.mem_append_left _ asked, id⟩

/-- One more turn of the peer itself, which numbers one request at most. -/
theorem Counting.turn {clientIds : Peer → ClientId} {reports : List (Peer × PeerReport)}
    {peer : Peer} {responder next : Responder} (counting : Counting clientIds reports peer responder)
    {own : List PeerReport} (quiescent : Quiescent next)
    (numbers : Responder.Numbers responder.app next.app (own.filterMap Responder.requestOf))
    (sending : ∀ sending ∈ next.app.sending, responder.app.sending = some sending ∨
      .asked sending.promise sending.message ∈ own)
    (pending : ∀ (requestId : RequestId) (pending : PendingRequest),
      next.app.pendingRequests[requestId]? = some pending →
        responder.app.pendingRequests[requestId]? = some pending ∨
          ∃ request, .asked pending.promise request ∈ own ∧ request.getRequestId = requestId) :
    Counting clientIds (reports ++ own.map (peer, ·)) peer next := by
  have extended : numbered (reports ++ own.map (peer, ·)) peer =
      numbered reports peer ++ own.filterMap Responder.requestOf := by
    rw [numbered_append, numbered_own]
  have kept_sending : ∀ sending ∈ next.app.sending,
      (peer, .asked sending.promise sending.message) ∈ reports ++ own.map (peer, ·) := by
    intro current member
    rcases sending current member with before | asked
    · exact List.mem_append_left _ (counting.sending current before)
    · exact mem_reported asked
  have kept_pending : ∀ (requestId : RequestId) (pending : PendingRequest),
      next.app.pendingRequests[requestId]? = some pending →
        ∃ request, (peer, .asked pending.promise request) ∈ reports ++ own.map (peer, ·) ∧
          request.getRequestId = requestId := by
    intro requestId entry found
    rcases pending requestId entry found with before | ⟨request, asked, same⟩
    · obtain ⟨request, asked, same⟩ := counting.pending requestId entry before
      exact ⟨request, List.mem_append_left _ asked, same⟩
    · exact ⟨request, mem_reported asked, same⟩
  generalize own.filterMap Responder.requestOf = requests at numbers extended
  cases numbers with
  | none same =>
    rw [List.append_nil] at extended
    refine ⟨quiescent, same.client.trans counting.client, ?_, ?_, kept_sending, kept_pending⟩
    · rw [extended, same.session]
      exact counting.next
    · rw [extended]
      exact counting.ids
  | @one request client session own_client own_session type =>
    refine ⟨quiescent, client.trans counting.client, ?_, ?_, kept_sending, kept_pending⟩
    · rw [extended, session, counting.next, List.length_append, List.length_singleton,
        ← Nat.add_assoc, UInt16.ofNat_add _ 1]
      rfl
    · intro index other found
      rw [extended] at found
      rcases Nat.lt_or_ge index (numbered reports peer).length with inside | beyond
      · rw [List.getElem?_append_left inside] at found
        exact counting.ids index other found
      · rw [List.getElem?_append_right beyond, List.getElem?_singleton] at found
        split at found
        · rename_i last
          obtain rfl := Option.some.inj found
          have place : index = (numbered reports peer).length := by omega
          rw [place]
          exact ⟨own_client.trans counting.client, own_session.trans counting.next⟩
        · cases found

theorem caused_call {clientIds : Peer → ClientId} {reports : List (Peer × PeerReport)} {peer : Peer}
    {responder : Responder} (counting : Counting clientIds reports peer responder)
    {action : Application.Action Application.MethodHandler}
    {next : Application Application.MethodHandler}
    (numbers : Responder.Numbers responder.app next
      ((Responder.callReports responder.app action).filterMap Responder.requestOf)) :
    ∀ report ∈ Responder.callReports responder.app action,
      Caused (reports ++ (Responder.callReports responder.app action).map (peer, ·))
        (peer, report) := by
  have typed : ∀ report ∈ Responder.callReports responder.app action, ∀ request,
      Responder.requestOf report = some request →
        request.messageType = .request ∨ request.messageType = .requestNoReturn := by
    intro report reported request asks
    have member := List.mem_filterMap.mpr ⟨report, reported, asks⟩
    generalize (Responder.callReports responder.app action).filterMap Responder.requestOf =
      requests at numbers member
    cases numbers with
    | none same => cases member
    | one client session own_client own_session type =>
      obtain rfl := List.mem_singleton.mp member
      exact type
  intro report reported
  cases report with
  | asked promise request => exact typed _ reported request rfl
  | told request => exact typed _ reported request rfl
  | outgoing message =>
    right
    left
    rcases Responder.callReports_outgoing reported with ⟨sending, current, rfl⟩ | told
    · exact mem_numbered (List.mem_append_left _ (counting.sending sending current)) rfl
    · exact mem_numbered (mem_reported told) rfl
  | handed reliable message => exact True.intro
  | answered request answer =>
    cases action <;> simp [Responder.callReports] at reported
  | completed promise message =>
    cases action <;> simp [Responder.callReports] at reported

theorem requests_handle {responder : Responder} {message : Message} {reliable : Bool}
    {network : Application.Network} :
    (responder.handle message reliable network).2.2.filterMap Responder.requestOf = [] := by
  rw [List.filterMap_eq_nil_iff]
  intro report reported
  rcases reports_handle reported with rfl | ⟨promise, answer, rfl, -⟩ | ⟨answer, -, rfl | rfl⟩
  all_goals rfl

theorem caused_invariant (clientIds : Peer → ClientId) :
    (protocol Peer).Invariant Notifies Carried (Counting clientIds) Caused := by
  refine ⟨⟨?_, ?_, ?_⟩, ?_, ?_⟩
  · exact fun _ later _ carried => carried.later later
  · exact fun _ later _ caused => caused.later later
  · exact fun _ _ _ later _ differs counting => counting.others differs later
  · intro reports peer responder command result counting allowed acted
    have acts := Responder.acts_of_act acted
    have frames := fun frame (member : frame ∈ result.2.1) => acts.frames member
    cases acts with
    | @called action app effects calls stepped =>
      have numbers := Responder.call_numbers stepped
      have plain := fun message (outgoing : .outgoing message ∈
        Responder.callReports responder.app action) => counting.quiescent.outgoing outgoing
      refine ⟨?_, carried_of_outgoing frames plain, caused_call counting numbers⟩
      apply counting.turn (counting.quiescent.call stepped) numbers
      · exact fun sending current => Responder.call_sending stepped current
      · exact fun requestId pending found => Responder.call_pending stepped found
    | @sent message _ _ _ _ =>
      have notification : message.messageType = .notification := allowed
      refine ⟨?_, carried_of_outgoing frames ?_, ?_⟩
      · exact counting.turn counting.quiescent (.none ⟨rfl, rfl⟩)
          (fun _ current => Or.inl current) fun _ _ found => Or.inl found
      · intro message outgoing
        obtain rfl := PeerReport.outgoing.inj (List.mem_singleton.mp outgoing)
        simp [Message.isTpMessage, notification]
        decide
      · intro report reported
        rw [List.mem_singleton.mp reported]
        exact Or.inl notification
    | changed same =>
      refine ⟨?_, by simp, by simp⟩
      exact counting.turn (counting.quiescent.change same) (.none ⟨rfl, rfl⟩)
        (fun _ current => Or.inl current) fun _ _ found => Or.inl found
  · intro reports peer responder frame input counting carried
    obtain ⟨source, original, made, plain, sent⟩ := carried
    have receives := Responder.receives counting.quiescent.unfinished plain sent input
    change Network.Protocol.Leaves _ _ _ _ _ (responder.receive frame input)
    generalize responder.receive frame input = result at receives ⊢
    cases receives with
    | nothing unfinished =>
      have quiet : Quiescent { responder with runtime := _ } :=
        ⟨unfinished, counting.quiescent.sending⟩
      refine ⟨?_, by simp, by simp⟩
      exact counting.turn quiet (.none ⟨rfl, rfl⟩) (fun _ current => Or.inl current)
        fun _ _ found => Or.inl found
    | @handed runtime unfinished short fits =>
      have quiet : Quiescent { responder with runtime := runtime } :=
        ⟨unfinished, counting.quiescent.sending⟩
      have arrived : ∀ later, Arrived (reports ++ later) original.received := fun later =>
        ⟨source, original, List.mem_append_left _ made, rfl⟩
      refine ⟨?_, carried_handle, ?_⟩
      · apply counting.turn (quiet.handle _ _ _)
        · rw [requests_handle]
          exact .none (responder.app.handleMessage_ids original.received input.network)
        · intro sending current
          rcases Responder.handleMessage_sending responder.app original.received input.network
            with same | ended
          · exact Or.inl (same ▸ current)
          · exact absurd (ended.symm.trans current) (by simp)
        · intro requestId pending found
          exact Or.inl ((responder.app.handleMessage_quiet original.received
            input.network).settles.only _ _ found)
      · intro report reported
        rcases reports_handle reported with rfl | ⟨promise, answer, rfl, completed⟩ |
          ⟨answer, answered, rfl | rfl⟩
        · exact True.intro
        · obtain ⟨rfl, response, pending, found, rfl⟩ :=
            Application.handleMessage_completed completed
          obtain ⟨request, asked, same⟩ := counting.pending _ pending found
          exact ⟨response, arrived _, request, List.mem_append_left _ asked, same⟩
        · exact ⟨Application.answer_request answered, arrived _⟩
        · refine Or.inr (Or.inr ⟨original.received, answer, mem_reported ?_, rfl⟩)
          apply List.mem_cons_of_mem
          apply List.mem_append_right
          exact List.mem_flatMap.mpr ⟨answer, Option.mem_toList.mpr answered, by simp⟩

theorem counting_create (clientIds : Peer → ClientId) (peer : Peer) :
    Counting clientIds [] peer (Responder.create (clientIds peer)) := by
  refine ⟨quiescent_create _, rfl, rfl, ?_, ?_, ?_⟩
  · intro index request found
    cases found
  · intro sending current
    cases current
  · intro requestId pending found
    simp [Responder.create, Application.create] at found

/-- A message that is a request or a response tells where it comes from. -/
theorem Origin.of_request {reports : List (Peer × PeerReport)} {peer : Peer} {message : Message}
    (origin : Origin reports peer message) (isRequest : message.isRequestType = true) :
    message ∈ numbered reports peer := by
  rcases origin with notification | made | ⟨request, answer, -, rfl⟩
  · rw [Message.isRequestType, notification] at isRequest
    exact absurd isRequest (by decide)
  · exact made
  · cases answer <;> cases isRequest

theorem Origin.of_response {reports : List (Peer × PeerReport)} {peer : Peer} {message : Message}
    (origin : Origin reports peer message) (isResponse : message.isResponseType = true)
    (requests : ∀ request ∈ numbered reports peer,
      request.messageType = .request ∨ request.messageType = .requestNoReturn) :
    ∃ request answer, (peer, .answered request answer) ∈ reports ∧
      message = answer.response request := by
  rcases origin with notification | made | answered
  · rw [Message.isResponseType, notification] at isResponse
    exact absurd isResponse (by decide)
  · rcases requests message made with type | type
    · rw [Message.isResponseType, type] at isResponse
      exact absurd isResponse (by decide)
    · rw [Message.isResponseType, type] at isResponse
      exact absurd isResponse (by decide)
  · exact answered

/-- Peers with different client ids, and with no more requests than there are session ids, never
    give two requests the same request id. -/
theorem numbered_unique {clientIds : Peer → ClientId} (apart : Function.Injective clientIds)
    {reports : List (Peer × PeerReport)} {state : State Peer}
    (counting : ∀ peer, Counting clientIds reports peer (state.locals peer))
    (few : ∀ peer, (numbered reports peer).length ≤ 2 ^ 16) {peer other : Peer}
    {request second : Message} (first : request ∈ numbered reports peer)
    (later : second ∈ numbered reports other) (same : request.getRequestId = second.getRequestId) :
    request = second := by
  obtain ⟨client, session⟩ := Message.getRequestId_inj.mp same
  obtain ⟨index, found⟩ := List.getElem?_of_mem first
  obtain ⟨place, foundSecond⟩ := List.getElem?_of_mem later
  have ids := (counting peer).ids index request found
  have secondIds := (counting other).ids place second foundSecond
  obtain rfl : peer = other := apart (by rw [← ids.1, ← secondIds.1, client])
  have wrapped : (UInt16.ofNat (1 + index)).toNat = (UInt16.ofNat (1 + place)).toNat := by
    rw [← ids.2, ← secondIds.2, session]
  have inside := (List.getElem?_eq_some_iff.mp found).1
  have insideSecond := (List.getElem?_eq_some_iff.mp foundSecond).1
  have bound := few peer
  rw [UInt16.toNat_ofNat', UInt16.toNat_ofNat'] at wrapped
  have equal : index = place := by omega
  rw [equal] at found
  exact Option.some.inj (found.symm.trans foundSecond)

/-- One peer asks the other, whose method handler answers with the payload; the endpoint is known. -/
def askAndAnswer : List (Network.Action (Fin 2) PeerCommand PeerInput Frame) :=
  let request : Message :=
    { Message.createRequest 0x1234 0xFFFF 0x0001 1 false with sessionId := 1 }.setPayload [0x2A]
  let response := (Message.createResponse request.received).setPayload [0x2A]
  let reachable : Application.Network := ⟨[⟨"10.0.0.2", 30509, .udp⟩], fun _ _ => true⟩
  [.act answerer (.registerServiceHandler 0x1234 0xFFFF),
    .act asker (.registerServiceHandler 0x1234 0xFFFF),
    .act answerer (.call (.registerMethodHandler 0x0001
      (some fun question => some (.respond question.payloadData)))),
    .act asker (.call (.sendBegin 0x1234 0xFFFF 0x0001 [0x2A] false 5000 0)),
    .act asker (.call (.sendFinish reachable)),
    .arrive answerer ⟨request.serialize, "10.0.0.2", 30509, false⟩ ⟨quietInput.arrival, reachable⟩,
    .arrive asker ⟨response.serialize, "10.0.0.2", 30509, false⟩ quietInput]

end Peers
end Msomeip
