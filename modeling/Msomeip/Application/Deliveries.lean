import Msomeip.Application.Peers

namespace Msomeip

open Transport

namespace Responder

/-- The request that is being sent was already, or the call has numbered it. -/
theorem call_sending {app next : Application Application.MethodHandler}
    {action : Application.Action Application.MethodHandler}
    {effects : List (Application.Effect Application.MethodHandler)}
    (stepped : Application.step app action = some (next, effects)) {sending : Sending}
    (current : next.sending = some sending) :
    app.sending = some sending ∨
      .asked sending.promise sending.message ∈ callReports app action := by
  rcases Application.step_cases stepped with ⟨starts, -, -⟩ | ⟨-, quiet⟩
  · cases action with
    | sendBegin service instance' method payload reliable timeout now =>
      simp only [Application.step] at stepped
      split at stepped
      · cases stepped
      · obtain ⟨rfl, -⟩ := Prod.mk.inj (Option.some.inj stepped)
        obtain rfl := Option.some.inj current
        exact Or.inr (List.mem_singleton_self _)
    | _ => exact starts.elim
  · rcases quiet.sending with kept | ended
    · exact Or.inl (kept ▸ current)
    · rw [ended] at current
      cases current

/-- A request that the application makes is no segment. -/
theorem callReports_plain {app : Application Application.MethodHandler}
    {action : Application.Action Application.MethodHandler} {request : Message}
    (made : .told request ∈ callReports app action ∨
      ∃ promise, .asked promise request ∈ callReports app action) :
    request.isTpMessage = false := by
  cases action with
  | sendBegin service instance' method payload reliable timeout now =>
    rcases made with told | ⟨promise, asked⟩
    · simp [callReports] at told
    · obtain ⟨-, rfl⟩ := PeerReport.asked.inj (List.mem_singleton.mp asked)
      rfl
  | sendRequestNoReturn service instance' method payload reliable network =>
    rcases made with told | ⟨promise, asked⟩
    · simp only [callReports, List.mem_cons, PeerReport.told.injEq, reduceCtorEq, or_false,
        List.not_mem_nil] at told
      rw [told]
      rfl
    · simp [callReports] at asked
  | sendFinish network => simp [callReports] at made
  | _ => simp [callReports] at made

theorem callReports_outgoing {app : Application Application.MethodHandler}
    {action : Application.Action Application.MethodHandler} {message : Message}
    (outgoing : .outgoing message ∈ callReports app action) :
    (∃ sending, app.sending = some sending ∧ message = sending.message) ∨
      .told message ∈ callReports app action := by
  cases action with
  | sendFinish network =>
    obtain ⟨sending, current, same⟩ := List.mem_map.mp outgoing
    exact Or.inl ⟨sending, Option.mem_toList.mp current, (PeerReport.outgoing.inj same).symm⟩
  | sendRequestNoReturn service instance' method payload reliable network =>
    right
    simp only [callReports, List.mem_cons, reduceCtorEq, PeerReport.outgoing.injEq, false_or,
      List.not_mem_nil, or_false] at outgoing
    rw [outgoing]
    exact List.mem_cons_self
  | sendBegin service instance' method payload reliable timeout now =>
    simp [callReports] at outgoing
  | _ => cases outgoing

theorem handleMessage_sending {Handler : Type} (app : Application Handler) (message : Message)
    (network : Application.Network) :
    (app.handleMessage message network).1.sending = app.sending ∨
      (app.handleMessage message network).1.sending = none :=
  (app.handleMessage_quiet message network).sending

theorem response_plain (answer : Answer) (request : Message) :
    (answer.response request).isTpMessage = false := by
  cases answer <;> rfl

end Responder

namespace Peers

variable {Peer : Type}

/-- Nobody makes segments by hand. -/
def Plain (_ : Peer) : PeerCommand → Prop
  | .sendMessage message _ _ _ _ => message.isTpMessage = false
  | _ => True

instance (peer : Peer) : (command : PeerCommand) → Decidable (Plain peer command)
  | .sendMessage .. => inferInstanceAs (Decidable (_ = false))
  | .call _ | .registerServiceHandler .. | .unregisterServiceHandler .. | .discover _ =>
    .isTrue trivial

/-- The frame carries a message that a peer made, or a segment of it. -/
def Carried (reports : List (Peer × PeerReport)) (frame : Frame) : Prop :=
  ∃ source original, (source, .outgoing original) ∈ reports ∧ original.isTpMessage = false ∧
    Runtime.IsFrameOf original frame

/-- The message is what arrives of one that a peer made, and that fits one frame. -/
def Delivered (reports : List (Peer × PeerReport)) (reliable : Bool) (message : Message) : Prop :=
  ∃ source original, (source, .outgoing original) ∈ reports ∧ message = original.received ∧
    original.isTpMessage = false ∧
    original.payloadData.length ≤ Runtime.maxSegmentSize reliable ∧
    Message.headerSize + original.payloadData.length ≤ Runtime.receiveLimit reliable

def HandedDelivered (reports : List (Peer × PeerReport)) : Peer × PeerReport → Prop
  | (_, .handed reliable message) => Delivered reports reliable message
  | _ => True

structure Quiescent (responder : Responder) : Prop where
  unfinished : responder.runtime.Unfinished
  sending : ∀ sending ∈ responder.app.sending, sending.message.isTpMessage = false

theorem Carried.later {reports : List (Peer × PeerReport)} {frame : Frame}
    (carried : Carried reports frame) (later : List (Peer × PeerReport)) :
    Carried (reports ++ later) frame := by
  obtain ⟨source, original, made, plain, sent⟩ := carried
  exact ⟨source, original, List.mem_append_left _ made, plain, sent⟩

theorem Delivered.later {reports : List (Peer × PeerReport)} {reliable : Bool} {message : Message}
    (delivered : Delivered reports reliable message) (later : List (Peer × PeerReport)) :
    Delivered (reports ++ later) reliable message := by
  obtain ⟨source, original, made, rest⟩ := delivered
  exact ⟨source, original, List.mem_append_left _ made, rest⟩

theorem Quiescent.outgoing {responder : Responder} (quiescent : Quiescent responder)
    {action : Application.Action Application.MethodHandler} {message : Message}
    (outgoing : .outgoing message ∈ Responder.callReports responder.app action) :
    message.isTpMessage = false := by
  rcases Responder.callReports_outgoing outgoing with ⟨sending, current, rfl⟩ | told
  · exact quiescent.sending sending current
  · exact Responder.callReports_plain (Or.inl told)

theorem Quiescent.call {responder : Responder} (quiescent : Quiescent responder)
    {action : Application.Action Application.MethodHandler}
    {app : Application Application.MethodHandler}
    {effects : List (Application.Effect Application.MethodHandler)}
    (stepped : Application.step responder.app action = some (app, effects)) :
    Quiescent { responder with app := app } := by
  refine ⟨quiescent.unfinished, ?_⟩
  intro sending current
  rcases Responder.call_sending stepped current with before | asked
  · exact quiescent.sending sending before
  · exact Responder.callReports_plain (Or.inr ⟨_, asked⟩)

theorem Quiescent.change {responder : Responder} (quiescent : Quiescent responder)
    {runtime : Runtime Unit} (same : runtime.tpReassembler = responder.runtime.tpReassembler) :
    Quiescent { responder with runtime := runtime } := by
  refine ⟨?_, quiescent.sending⟩
  intro requestId buffer found
  rw [same] at found
  exact quiescent.unfinished requestId buffer found

theorem Quiescent.handle {responder : Responder} (quiescent : Quiescent responder)
    (message : Message) (reliable : Bool) (network : Application.Network) :
    Quiescent (responder.handle message reliable network).1 := by
  refine ⟨quiescent.unfinished, ?_⟩
  intro sending current
  rcases Responder.handleMessage_sending responder.app message network with same | ended
  · exact quiescent.sending sending (same ▸ current)
  · exact absurd (ended.symm.trans current) (by simp)

theorem mem_reported {reports : List (Peer × PeerReport)} {own : List PeerReport} {peer : Peer}
    {report : PeerReport} (member : report ∈ own) :
    (peer, report) ∈ reports ++ own.map (peer, ·) :=
  List.mem_append_right _ (List.mem_map_of_mem member)

theorem callReports_handed {app : Application Application.MethodHandler}
    {action : Application.Action Application.MethodHandler} {reliable : Bool} {message : Message} :
    .handed reliable message ∉ Responder.callReports app action := by
  cases action <;> simp [Responder.callReports]

/-- Frames of plain messages carry plain messages. -/
theorem carried_of_outgoing {reports : List (Peer × PeerReport)} {own : List PeerReport}
    {peer : Peer} {frames : List Frame}
    (frames_of : ∀ frame ∈ frames, ∃ message, .outgoing message ∈ own ∧
      Runtime.IsFrameOf message frame)
    (plain : ∀ message, .outgoing message ∈ own → message.isTpMessage = false) :
    ∀ frame ∈ frames, Carried (reports ++ own.map (peer, ·)) frame := by
  intro frame member
  obtain ⟨message, outgoing, sent⟩ := frames_of frame member
  exact ⟨peer, message, mem_reported outgoing, plain message outgoing, sent⟩

theorem frames_handle {responder : Responder} {message : Message} {reliable : Bool}
    {network : Application.Network} {frame : Frame}
    (sent : frame ∈ (responder.handle message reliable network).2.1) :
    ∃ answer, responder.app.answer message = some answer ∧
      .outgoing (answer.response message) ∈ (responder.handle message reliable network).2.2 ∧
      Runtime.IsFrameOf (answer.response message) frame := by
  obtain ⟨answer, answered, inside⟩ := List.mem_flatMap.mp sent
  refine ⟨answer, Option.mem_toList.mp answered, ?_, Application.reply_frames inside⟩
  apply List.mem_cons_of_mem
  apply List.mem_append_right
  exact List.mem_flatMap.mpr ⟨answer, answered, by simp⟩

theorem reports_handle {responder : Responder} {message : Message} {reliable : Bool}
    {network : Application.Network} {report : PeerReport}
    (reported : report ∈ (responder.handle message reliable network).2.2) :
    report = .handed reliable message ∨
      (∃ promise answer, report = .completed promise answer ∧
        .completed promise answer ∈ (responder.app.handleMessage message network).2) ∨
      ∃ answer, responder.app.answer message = some answer ∧
        (report = .answered message answer ∨ report = .outgoing (answer.response message)) := by
  rcases List.mem_cons.mp reported with rfl | later
  · exact Or.inl rfl
  · right
    rcases List.mem_append.mp later with completed | answers
    · left
      obtain ⟨effect, member, same⟩ := List.mem_filterMap.mp completed
      split at same
      · exact ⟨_, _, (Option.some.inj same).symm, member⟩
      · cases same
    · right
      obtain ⟨answer, answered, inside⟩ := List.mem_flatMap.mp answers
      refine ⟨answer, Option.mem_toList.mp answered, ?_⟩
      simpa using inside

theorem carried_handle {reports : List (Peer × PeerReport)} {peer : Peer} {responder : Responder}
    {message : Message} {reliable : Bool} {network : Application.Network} :
    ∀ frame ∈ (responder.handle message reliable network).2.1,
      Carried (reports ++ (responder.handle message reliable network).2.2.map (peer, ·)) frame := by
  intro frame member
  obtain ⟨answer, -, outgoing, inside⟩ := frames_handle member
  exact ⟨peer, _, mem_reported outgoing, Responder.response_plain _ _, inside⟩

theorem delivered_invariant : (protocol Peer).Invariant Plain Carried
    (fun _ _ responder => Quiescent responder) HandedDelivered := by
  refine ⟨⟨?_, ?_, ?_⟩, ?_, ?_⟩
  · exact fun _ later _ carried => carried.later later
  · rintro reports later ⟨peer, report⟩ before
    cases report with
    | handed reliable message => exact Delivered.later before later
    | _ => exact True.intro
  · exact fun _ _ _ _ _ _ quiescent => quiescent
  · intro reports peer responder command result quiescent allowed acted
    have acts := Responder.acts_of_act acted
    have frames := fun frame (member : frame ∈ result.2.1) => acts.frames member
    cases acts with
    | @called action app effects calls stepped =>
      have plain := fun message (outgoing : .outgoing message ∈
        Responder.callReports responder.app action) => quiescent.outgoing outgoing
      refine ⟨quiescent.call stepped, carried_of_outgoing frames plain, ?_⟩
      intro report reported
      cases report with
      | handed reliable message => exact (callReports_handed reported).elim
      | _ => exact True.intro
    | sent =>
      refine ⟨quiescent, carried_of_outgoing frames ?_, ?_⟩
      · intro message outgoing
        obtain rfl := PeerReport.outgoing.inj (List.mem_singleton.mp outgoing)
        exact allowed
      · intro report reported
        rw [List.mem_singleton.mp reported]
        exact True.intro
    | changed same => exact ⟨quiescent.change same, by simp, by simp⟩
  · intro reports peer responder frame input quiescent carried
    obtain ⟨source, original, made, plain, sent⟩ := carried
    have receives := Responder.receives quiescent.unfinished plain sent input
    change Network.Protocol.Leaves _ _ _ _ _ (responder.receive frame input)
    generalize responder.receive frame input = result at receives ⊢
    cases receives with
    | nothing unfinished => exact ⟨⟨unfinished, quiescent.sending⟩, by simp, by simp⟩
    | @handed runtime unfinished short fits =>
      have after : Quiescent { responder with runtime := runtime } :=
        ⟨unfinished, quiescent.sending⟩
      refine ⟨after.handle original.received frame.reliable input.network, carried_handle, ?_⟩
      · intro report reported
        rcases reports_handle reported with rfl | ⟨promise, answer, rfl, -⟩ |
          ⟨answer, -, rfl | rfl⟩
        · exact ⟨source, original, List.mem_append_left _ made, rfl, plain, short, fits⟩
        · exact True.intro
        · exact True.intro
        · exact True.intro

theorem quiescent_create (clientId : ClientId) : Quiescent (Responder.create clientId) := by
  constructor
  · intro requestId buffer found
    simp [Responder.create] at found
  · intro sending current
    cases current

/-- Whatever the transports lose, delay, reorder and duplicate, and whatever messages the peers
    send, as long as nobody makes segments by hand: a service handler is called only with what
    arrives of a message that a peer made to be sent and that fits one frame. No message is ever put
    together from segments. -/
theorem handed_delivered [DecidableEq Peer] {clientIds : Peer → ClientId}
    {actions : List (Network.Action Peer PeerCommand PeerInput Frame)}
    {reports : List (Peer × PeerReport)} {state : State Peer}
    (guarded : Runs.Guarded (protocol Peer).step (Network.Protocol.Commanded Plain) (create clientIds)
      actions reports state) :
    (∀ peer reliable message, (peer, .handed reliable message) ∈ reports →
      Delivered reports reliable message) ∧
      ∀ peer requestId, (state.locals peer).runtime.tpReassembler.isComplete requestId = false := by
  have holds := delivered_invariant.run rfl (fun peer => quiescent_create (clientIds peer)) guarded
  constructor
  · intro peer reliable message handed
    exact holds.reports _ handed
  · intro peer requestId
    have unfinished := (holds.locals peer).unfinished
    unfold Tp.TpReassembler.isComplete Tp.TpReassembler.isCompleteUnlocked
    split
    · rfl
    · rename_i buffer found
      exact (unfinished requestId buffer found).not_complete

/-- The request id of the segment in a frame. -/
def segmentIn (frame : Frame) : Option RequestId :=
  if frame.data.length ≤ Runtime.receiveLimit frame.reliable then
    (Message.deserialize frame.data).bind fun message =>
      if (Tp.TpReassembler.parseSegment message).isSome then some message.getRequestId else none
  else none

def SegmentArrived (peer : Peer) (requestId : RequestId)
    (actions : List (Network.Action Peer PeerCommand PeerInput Frame)) : Prop :=
  ∃ frame input, .arrive peer frame input ∈ actions ∧ segmentIn frame = some requestId

theorem segmentArrived_act {peer other : Peer} {command : PeerCommand} {requestId : RequestId}
    {actions : List (Network.Action Peer PeerCommand PeerInput Frame)} :
    SegmentArrived peer requestId (actions ++ [.act other command]) ↔
      SegmentArrived peer requestId actions := by
  simp [SegmentArrived]

theorem segmentArrived_arrive {peer other : Peer} {frame : Frame} {input : PeerInput}
    {requestId : RequestId}
    {actions : List (Network.Action Peer PeerCommand PeerInput Frame)} :
    SegmentArrived peer requestId (actions ++ [.arrive other frame input]) ↔
      SegmentArrived peer requestId actions ∨ peer = other ∧ segmentIn frame = some requestId := by
  simp only [SegmentArrived, List.mem_append, List.mem_singleton, Network.Action.arrive.injEq]
  constructor
  · rintro ⟨frame, input, before | ⟨rfl, rfl, rfl⟩, segment⟩
    · exact Or.inl ⟨frame, input, before, segment⟩
    · exact Or.inr ⟨rfl, segment⟩
  · rintro (⟨frame, input, before, segment⟩ | ⟨rfl, segment⟩)
    · exact ⟨frame, input, Or.inl before, segment⟩
    · exact ⟨frame, input, Or.inr ⟨rfl, rfl, rfl⟩, segment⟩

theorem tpReassembler_act {responder next : Responder} {command : PeerCommand} {frames : List Frame}
    {reports : List PeerReport} (acted : responder.act command = some (next, frames, reports)) :
    next.runtime.tpReassembler = responder.runtime.tpReassembler := by
  have acts := Responder.acts_of_act acted
  cases acts with
  | called _ _ => rfl
  | sent => rfl
  | changed same => exact same

theorem runtime_receive {responder : Responder} {frame : Frame} {input : PeerInput}
    {message : Message} (fits : frame.data.length ≤ Runtime.receiveLimit frame.reliable)
    (parsed : Message.deserialize frame.data = some message) :
    (responder.receive frame input).1.runtime =
      (responder.runtime.receive message frame.reliable input.arrival).1 := by
  simp only [Responder.receive, if_pos fits, parsed]
  split <;> rfl

theorem mem_buffers_receive {responder : Responder} (quiescent : Quiescent responder)
    {reports : List (Peer × PeerReport)} {frame : Frame} (carried : Carried reports frame)
    (input : PeerInput) {requestId : RequestId} :
    requestId ∈ (responder.receive frame input).1.runtime.tpReassembler.buffers ↔
      requestId ∈ responder.runtime.tpReassembler.buffers ∨ segmentIn frame = some requestId := by
  obtain ⟨source, original, -, plain, sent⟩ := carried
  by_cases fits : frame.data.length ≤ Runtime.receiveLimit frame.reliable
  · cases parsed : Message.deserialize frame.data with
    | none => simp [Responder.receive, segmentIn, fits, parsed]
    | some message =>
      have inert := (Runtime.received_of_frame plain sent parsed).1
      rw [runtime_receive fits parsed, Runtime.mem_receive quiescent.unfinished inert, segmentIn,
        if_pos fits, parsed, Option.bind_some]
      split
      · rename_i accepted
        simp [accepted]
      · rename_i rejected
        simp [rejected]
  · simp [Responder.receive, segmentIn, fits]

def twoPeers (peer : Fin 2) : ClientId := UInt16.ofNat (peer.val + 1)

def asker : Fin 2 := 0

def answerer : Fin 2 := 1

def greeting : Message :=
  (Message.createNotification 0x1234 0x0001 0x0001).setPayload [0x48, 0x69]

def greetingFrame : Frame := ⟨greeting.serialize, "10.0.0.2", 30509, false⟩

def quietInput : PeerInput where
  arrival := ⟨0, fun _ => 0, fun _ => ⟨0, true⟩⟩
  network := ⟨[], fun _ _ => true⟩

def greet : List (Network.Action (Fin 2) PeerCommand PeerInput Frame) :=
  [.act 0 (.sendMessage greeting "10.0.0.2" 30509 false fun _ => true),
    .act 1 (.registerServiceHandler 0x1234 0xFFFF), .arrive 1 greetingFrame quietInput]

theorem greet_delivered :
    Delivered [((0 : Fin 2), .outgoing greeting), (1, .handed false greeting.received)] false
      greeting.received := by
  have run : ∃ state, Runs.Guarded (protocol (Fin 2)).step (Network.Protocol.Commanded Plain)
      (create twoPeers) greet
      [(0, .outgoing greeting), (1, .handed false greeting.received)] state :=
    Runs.exists_guarded (by decide +kernel)
  obtain ⟨state, guarded⟩ := run
  exact (handed_delivered guarded).1 1 false greeting.received (by simp)

/-- As long as nobody makes segments by hand, a runtime never forgets one: at any time it has a
    buffer for exactly the request ids of all segments that have ever reached it, however long
    ago. -/
theorem buffers_are_arrived [DecidableEq Peer] {clientIds : Peer → ClientId}
    {actions : List (Network.Action Peer PeerCommand PeerInput Frame)}
    {reports : List (Peer × PeerReport)} {state : State Peer}
    (guarded : Runs.Guarded (protocol Peer).step (Network.Protocol.Commanded Plain) (create clientIds)
      actions reports state) (peer : Peer) (requestId : RequestId) :
    requestId ∈ (state.locals peer).runtime.tpReassembler.buffers ↔
      SegmentArrived peer requestId actions := by
  induction guarded generalizing peer with
  | nil => simp [SegmentArrived, create, Responder.create]
  | @snoc actions reports emitted state next action before commanded stepped ih =>
    have holds := delivered_invariant.run rfl (fun peer => quiescent_create (clientIds peer)) before
    cases action with
    | act other command =>
      obtain ⟨⟨after, frames, own⟩, acted, same⟩ := Option.map_eq_some_iff.mp stepped
      obtain ⟨rfl, -⟩ := Prod.mk.inj same
      rw [segmentArrived_act, ← ih]
      by_cases own : peer = other
      · subst own
        have kept := tpReassembler_act acted
        simp [Network.State.moved, kept]
      · simp [Network.State.moved, own]
    | arrive other frame input =>
      simp only [Network.Protocol.step] at stepped
      split at stepped
      · rename_i sent
        obtain ⟨rfl, -⟩ := Prod.mk.inj (Option.some.inj stepped)
        rw [segmentArrived_arrive, ← ih]
        by_cases own : peer = other
        · subst own
          have stored := @mem_buffers_receive Peer _ (holds.locals peer) _ _
            (holds.wire frame sent) input requestId
          simp only [Network.State.moved, Function.update_self, true_and]
          exact stored
        · simp [Network.State.moved, own]
      · cases stepped

def longGreeting : Message :=
  (Message.createNotification 0x1234 0x0001 0x0001).setPayload (List.replicate 1393 0x48)

def longGreetingFrame : Frame where
  data := (Tp.TpSegmenter.segmentAt longGreeting .tpNotification longGreeting.payloadData 0
    1392).serialize
  address := "10.0.0.2"
  port := 30509
  reliable := false

def greetAtLength : List (Network.Action (Fin 2) PeerCommand PeerInput Frame) :=
  [.act 0 (.sendMessage longGreeting "10.0.0.2" 30509 false fun _ => true),
    .arrive 1 longGreetingFrame quietInput]

theorem greetAtLength_kept : ∃ state : State (Fin 2),
    (0 : RequestId) ∈ (state.locals 1).runtime.tpReassembler.buffers := by
  have run : ∃ state, Runs.Guarded (protocol (Fin 2)).step (Network.Protocol.Commanded Plain)
      (create twoPeers) greetAtLength [(0, .outgoing longGreeting)]
      state :=
    Runs.exists_guarded (by decide +kernel)
  obtain ⟨state, guarded⟩ := run
  refine ⟨state, (buffers_are_arrived guarded 1 0).mpr ?_⟩
  exact ⟨longGreetingFrame, quietInput, by simp [greetAtLength], by decide +kernel⟩

end Peers
end Msomeip
