import Msomeip.Application.SessionIds

namespace Msomeip

open BigEndian Transport

namespace Runtime

/-- The request id that a frame carries, behind its first eight bytes. -/
def frameRequestId (frame : Frame) : RequestId :=
  match (frame.data.drop 8).take 4 with
  | [b0, b1, b2, b3] => word32 b0 b1 b2 b3
  | _ => 0

theorem serialize_requestId (message : Message) (address : String) (port : UInt16)
    (reliable : Bool) :
    frameRequestId ⟨message.serialize, address, port, reliable⟩ = message.getRequestId := by
  have client := digit16_toNat message.clientId
  have session := digit16_toNat message.sessionId
  change word32 (message.clientId >>> 8).toUInt8 (message.clientId &&& 0xFF).toUInt8
    (message.sessionId >>> 8).toUInt8 (message.sessionId &&& 0xFF).toUInt8 = _
  apply UInt32.toNat_inj.mp
  rw [word32_toNat, Message.getRequestId_toNat, client.1, client.2, session.1, session.2]
  omega

theorem sendMessage_requestId {message : Message} {address : String} {port : UInt16}
    {reliable : Bool} {outcome : Nat → Bool} {frame : Frame}
    (member : frame ∈ (sendMessage message address port reliable outcome).2) :
    frameRequestId frame = message.getRequestId := by
  unfold sendMessage at member
  split at member
  · dsimp only at member
    split at member
    · cases member
    · obtain ⟨part, inside, same⟩ := sendAll_subset member
      have ids := congrArg Message.getRequestId (Tp.TpSegmenter.segment_header inside)
      have carried := serialize_requestId part frame.address frame.port frame.reliable
      rw [← same] at carried
      exact carried.trans ids
  · rw [List.mem_singleton.mp member]
    exact serialize_requestId ..

end Runtime

namespace Application

variable {Handler : Type}

theorem sendVia_requestId {message : Message} {reliable : Bool} {outcome : Nat → Nat → Bool}
    {index : Nat} {endpoints : List Endpoint} {frame : Frame}
    (member : frame ∈ (sendVia message reliable outcome index endpoints).2) :
    Runtime.frameRequestId frame = message.getRequestId := by
  induction endpoints generalizing index with
  | nil => cases member
  | cons endpoint rest ih =>
    simp only [sendVia] at member
    split at member
    · split at member
      · exact Runtime.sendMessage_requestId member
      · rcases List.mem_append.mp member with here | later
        · exact Runtime.sendMessage_requestId here
        · exact ih later
    · exact ih member

theorem sendFinish_requestId {app : Application Handler} {sending : Sending} {network : Network}
    {frame : Frame} (member : .sent frame ∈ (app.sendFinish sending network).2) :
    Runtime.frameRequestId frame = sending.message.getRequestId := by
  apply @sendVia_requestId sending.message sending.reliable network.outcome 0 network.endpoints
  simp only [sendFinish] at member
  split at member
  · simpa using member
  · split at member
    · simpa using member
    · simpa using member

/-- A pending request without a result was pending before, or has just been started. -/
theorem open_before {app next : Application Handler} {call : Action Handler}
    {emitted : List (Effect Handler)} (called : step app call = some (next, emitted))
    {requestId : RequestId} {pending : PendingRequest}
    (found : next.pendingRequests[requestId]? = some pending)
    (unfinished : ¬ next.promises.Satisfied pending.promise) :
    call.Starts ∧ requestId = app.nextRequestId ∨
      app.pendingRequests[requestId]? = some pending ∧
        ¬ app.promises.Satisfied pending.promise := by
  rcases step_cases called with
    ⟨starts, -, message, reliable, timeout, now, nextId, same⟩ | ⟨-, quiet⟩
  · obtain ⟨rfl, rfl⟩ := Prod.mk.inj same
    simp only [Maps.lookup_insert] at found
    split at found
    · rename_i own
      exact .inl ⟨starts, own.symm.trans nextId⟩
    · exact .inr ⟨found, unfinished⟩
  · refine .inr ⟨quiet.settles.only _ _ found, ?_⟩
    intro satisfied
    exact unfinished (quiet.settles.kept _ satisfied)

end Application

/-- A frame of a request on the wire, with the application that sent it and the future it has
    returned. -/
structure SentRequest where
  application : Nat
  promise : Nat
  frame : Frame
deriving DecidableEq, Repr

/-- The applications that a runtime created, all with its client id, and the frames of requests
    that they have put on the wire. -/
structure Applications (Handler : Type) where
  clientId : ClientId
  applications : List (Application Handler) := []
  wire : List SentRequest := []

namespace Applications

open Application (Held)

variable {Handler : Type}

inductive Action (Handler : Type)
  | createApplication
  | call (index : Nat) (action : Application.Action Handler)

def create (clientId : ClientId) : Applications Handler := { clientId := clientId }

/-- The frames that a call sends for the request whose `send_request` it ends. -/
def sends (index : Nat) (app : Application Handler) (call : Application.Action Handler)
    (emitted : List (Application.Effect Handler)) : List SentRequest :=
  match call, app.sending with
  | .sendFinish _, some sending => emitted.filterMap fun
    | .sent frame => some ⟨index, sending.promise, frame⟩
    | _ => none
  | _, _ => []

def step : Runs.Step (Applications Handler) (Action Handler)
    (Nat × Application.Effect Handler) := fun apps action =>
  match action with
  | .createApplication =>
    some ({ apps with
      applications := apps.applications ++ [Application.create apps.clientId] }, [])
  | .call index call =>
    apps.applications[index]?.bind fun app =>
      (Application.step app call).map fun (next, emitted) =>
        ({ apps with
            applications := apps.applications.set index next
            wire := apps.wire ++ sends index app call emitted },
          emitted.map (index, ·))

/-- The future of the request has no result yet. -/
def Unfinished (apps : Applications Handler) (sent : SentRequest) : Prop :=
  ∃ app ∈ apps.applications[sent.application]?, ¬ app.promises.Satisfied sent.promise

/-- Frames of different outstanding requests carry different request ids. -/
def Unique (apps : Applications Handler) : Prop :=
  ∀ sent ∈ apps.wire, ∀ other ∈ apps.wire, apps.Unfinished sent → apps.Unfinished other →
    Runtime.frameRequestId sent.frame = Runtime.frameRequestId other.frame →
      sent.application = other.application ∧ sent.promise = other.promise

/-- A request is started only while no application waits for one under the id that the session
    counter gives it. -/
def StartsFree (apps : Applications Handler) : Action Handler → Prop
  | .createApplication => True
  | .call index call => call.Starts → ∀ app ∈ apps.applications[index]?,
      ∀ other ∈ apps.applications, ∀ pending ∈ other.pendingRequests[app.nextRequestId]?,
        other.promises.Satisfied pending.promise

instance (apps : Applications Handler) (sent : SentRequest) : Decidable (apps.Unfinished sent) :=
  inferInstanceAs (Decidable (∃ app ∈ apps.applications[sent.application]?, _))

instance (apps : Applications Handler) : (action : Action Handler) → Decidable (apps.StartsFree action)
  | .createApplication => .isTrue trivial
  | .call index call => inferInstanceAs (Decidable (call.Starts →
      ∀ app ∈ apps.applications[index]?, ∀ other ∈ apps.applications,
        ∀ pending ∈ other.pendingRequests[app.nextRequestId]?,
          other.promises.Satisfied pending.promise))

/-- Every outstanding request is held by its application under its id, and no two applications
    hold one under the same id. -/
structure Tracked (apps : Applications Handler) : Prop where
  known : ∀ sent ∈ apps.wire, sent.application < apps.applications.length
  wire : ∀ sent ∈ apps.wire, ∀ app, apps.applications[sent.application]? = some app →
    Held app sent.promise (Runtime.frameRequestId sent.frame)
  sending : ∀ (index : Nat) app sending, apps.applications[index]? = some app →
    app.sending = some sending → Held app sending.promise sending.message.getRequestId
  apart : ∀ (index other : Nat) app holder (requestId : RequestId) pending waiting,
    apps.applications[index]? = some app → apps.applications[other]? = some holder →
      app.pendingRequests[requestId]? = some pending →
        holder.pendingRequests[requestId]? = some waiting →
          ¬ app.promises.Satisfied pending.promise → ¬ holder.promises.Satisfied waiting.promise →
            index = other

theorem Tracked.unique {apps : Applications Handler} (tracked : apps.Tracked) : apps.Unique := by
  intro sent member other otherMember unfinished otherUnfinished same
  obtain ⟨app, found, waits⟩ := unfinished
  obtain ⟨holder, otherFound, otherWaits⟩ := otherUnfinished
  obtain ⟨pending, stored, mine⟩ := tracked.wire sent member app found waits
  obtain ⟨waiting, otherStored, other'sOwn⟩ :=
    tracked.wire other otherMember holder otherFound otherWaits
  rw [← same] at otherStored
  rw [← mine] at waits
  rw [← other'sOwn] at otherWaits
  have index := tracked.apart _ _ app holder _ pending waiting found otherFound stored otherStored
    waits otherWaits
  rw [← index, Option.mem_def, found] at otherFound
  obtain rfl := Option.some.inj otherFound
  obtain rfl := Option.some.inj (stored.symm.trans otherStored)
  exact ⟨index, mine.symm.trans other'sOwn⟩

theorem mem_sends {index : Nat} {app : Application Handler} {call : Application.Action Handler}
    {emitted : List (Application.Effect Handler)} {sent : SentRequest}
    (member : sent ∈ sends index app call emitted) :
    sent.application = index ∧ ∃ network sending, call = .sendFinish network ∧
      app.sending = some sending ∧ sent.promise = sending.promise ∧ .sent sent.frame ∈ emitted := by
  unfold sends at member
  split at member
  · rename_i network sending current
    obtain ⟨effect, inside, same⟩ := List.mem_filterMap.mp member
    split at same
    · obtain rfl := Option.some.inj same
      exact ⟨rfl, network, sending, rfl, current, rfl, inside⟩
    · cases same
  · cases member

/-- A call leaves the other applications as they are. -/
theorem lookup_set {applications : List (Application Handler)} {index other : Nat}
    {after app : Application Handler}
    (found : (applications.set index after)[other]? = some app) :
    other = index ∧ app = after ∨ other ≠ index ∧ applications[other]? = some app := by
  rw [List.getElem?_set] at found
  split at found
  · rename_i same
    split at found
    · exact .inl ⟨same.symm, (Option.some.inj found).symm⟩
    · cases found
  · rename_i differs
    exact .inr ⟨Ne.symm differs, found⟩

theorem tracked_createApplication {apps : Applications Handler} (tracked : apps.Tracked) :
    Tracked { apps with applications := apps.applications ++ [Application.create apps.clientId] } := by
  have lookup : ∀ (index : Nat) (app : Application Handler),
      (apps.applications ++ [Application.create apps.clientId])[index]? = some app →
        apps.applications[index]? = some app ∨ app = Application.create apps.clientId := by
    intro index app found
    rcases Nat.lt_or_ge index apps.applications.length with below | beyond
    · rw [List.getElem?_append_left below] at found
      exact .inl found
    · rw [List.getElem?_append_right beyond] at found
      exact .inr (List.mem_singleton.mp (List.mem_of_getElem? found))
  constructor
  · intro sent member
    rw [List.length_append]
    exact Nat.lt_add_right 1 (tracked.known sent member)
  · intro sent member app found
    rw [List.getElem?_append_left (tracked.known sent member)] at found
    exact tracked.wire sent member app found
  · intro index app sending found current
    rcases lookup index app found with before | rfl
    · exact tracked.sending index app sending before current
    · cases current
  · intro index other app holder requestId pending waiting found otherFound stored otherStored
    rcases lookup index app found with before | rfl
    · rcases lookup other holder otherFound with otherBefore | rfl
      · exact tracked.apart index other app holder requestId pending waiting before otherBefore
          stored otherStored
      · simp [Application.create] at otherStored
    · simp [Application.create] at stored

theorem tracked_call {apps : Applications Handler} {index : Nat} {app after : Application Handler}
    {call : Application.Action Handler} {emitted : List (Application.Effect Handler)}
    (tracked : apps.Tracked) (free : apps.StartsFree (.call index call))
    (found : apps.applications[index]? = some app)
    (called : Application.step app call = some (after, emitted)) :
    Tracked { apps with
      applications := apps.applications.set index after
      wire := apps.wire ++ sends index app call emitted } := by
  have own : Application.StartsFree app call := fun starts =>
    free starts app found app (List.mem_of_getElem? found)
  -- A request that the called application waits for, and one of another application.
  have aside : ∀ (other : Nat) (holder : Application Handler) (requestId : RequestId)
      (pending waiting : PendingRequest), apps.applications[other]? = some holder →
        other ≠ index → after.pendingRequests[requestId]? = some pending →
          holder.pendingRequests[requestId]? = some waiting →
            ¬ after.promises.Satisfied pending.promise →
              holder.promises.Satisfied waiting.promise := by
    intro other holder requestId pending waiting otherFound differs stored otherStored unfinished
    rcases Application.open_before called stored unfinished with ⟨starts, rfl⟩ | ⟨before, waits⟩
    · exact free starts app found holder (List.mem_of_getElem? otherFound) waiting otherStored
    · by_contra otherWaits
      exact differs (tracked.apart other index holder app requestId waiting pending otherFound found
        otherStored before otherWaits waits)
  constructor
  · intro sent member
    rw [List.length_set]
    rcases List.mem_append.mp member with old | new
    · exact tracked.known sent old
    · rw [(mem_sends new).1]
      exact (List.getElem?_eq_some_iff.mp found).1
  · intro sent member holder otherFound
    rcases List.mem_append.mp member with old | new
    · rcases lookup_set otherFound with ⟨same, rfl⟩ | ⟨-, before⟩
      · exact (tracked.wire sent old app (same ▸ found)).step own called
      · exact tracked.wire sent old holder before
    · obtain ⟨same, network, sending, rfl, current, promise, carried⟩ := mem_sends new
      rcases lookup_set otherFound with ⟨-, rfl⟩ | ⟨differs, -⟩
      · have held := (tracked.sending index app sending found current).step own called
        simp only [Application.step, current, Option.some.injEq] at called
        have sends : (app.sendFinish sending network).2 = emitted := congrArg Prod.snd called
        rw [← sends] at carried
        rw [promise, Application.sendFinish_requestId carried]
        exact held
      · exact absurd same differs
  · intro other holder sending otherFound current
    rcases lookup_set otherFound with ⟨-, rfl⟩ | ⟨-, before⟩
    · rcases Application.step_cases called with
        ⟨-, -, message, reliable, timeout, now, -, same⟩ | ⟨-, quiet⟩
      · obtain ⟨rfl, -⟩ := Prod.mk.inj same
        obtain rfl := Option.some.inj current
        exact Application.held_sendBegin app message reliable timeout now
      · rcases quiet.sending with kept | ended
        · exact (tracked.sending index app sending found (kept.symm.trans current)).step own called
        · cases ended.symm.trans current
    · exact tracked.sending other holder sending before current
  · intro first second holder other requestId pending waiting firstFound secondFound stored
      otherStored unfinished otherUnfinished
    rcases lookup_set firstFound with ⟨rfl, rfl⟩ | ⟨differs, before⟩
    · rcases lookup_set secondFound with ⟨rfl, -⟩ | ⟨differs, before⟩
      · rfl
      · exact absurd (aside second other requestId pending waiting before differs stored otherStored
          unfinished) otherUnfinished
    · rcases lookup_set secondFound with ⟨rfl, rfl⟩ | ⟨-, otherBefore⟩
      · exact absurd (aside first holder requestId waiting pending before differs otherStored stored
          otherUnfinished) unfinished
      · exact tracked.apart first second holder other requestId pending waiting before otherBefore
          stored otherStored unfinished otherUnfinished

theorem tracked_step {apps next : Applications Handler} {action : Action Handler}
    {emitted : List (Nat × Application.Effect Handler)} (tracked : apps.Tracked)
    (free : apps.StartsFree action) (stepped : step apps action = some (next, emitted)) :
    next.Tracked := by
  cases action with
  | createApplication =>
    obtain ⟨rfl, -⟩ := Prod.mk.inj (Option.some.inj stepped)
    exact tracked_createApplication tracked
  | call index call =>
    obtain ⟨app, found, moved⟩ := Option.bind_eq_some_iff.mp stepped
    obtain ⟨⟨after, effects⟩, called, same⟩ := Option.map_eq_some_iff.mp moved
    obtain ⟨rfl, -⟩ := Prod.mk.inj same
    exact tracked_call tracked free found called

/-- Along a run outstanding requests of a runtime carry different ids if each request is started
    while no application waits for another under the id that it gets. -/
theorem unique_of_startsFree {clientId : ClientId} {actions : List (Action Handler)}
    {effects : List (Nat × Application.Effect Handler)} {apps : Applications Handler}
    (guarded : Runs.Guarded step StartsFree (create clientId) actions effects apps) :
    Runs.Always step (create clientId) (fun _ _ apps => apps.Unique) actions := by
  refine Runs.always_of_guarded ?_ guarded
  intro actions effects apps guarded
  have tracked : apps.Tracked := by
    apply guarded.invariant fun _ _ apps => apps.Tracked
    · constructor <;> simp [create]
    · intro _ _ apps action next emitted tracked free stepped
      exact tracked_step tracked free stepped
  exact tracked.unique

def loopback : Application.Network := ⟨[⟨"127.0.0.1", 30509, .udp⟩], fun _ _ => true⟩

def requesting (index : Nat) : List (Action Unit) :=
  [.call index (.sendBegin 0x1234 0x0001 0x0001 [] false 5000 0),
    .call index (.sendFinish loopback)]

def answering (index : Nat) : Action Unit :=
  .call index (.handleMessage Application.firstResponse ⟨[], fun _ _ => false⟩)

theorem inTurn_unique : Runs.Always step (create 0x0001) (fun _ _ apps => apps.Unique)
    (.createApplication :: .createApplication :: requesting 0 ++ [answering 0] ++ requesting 1) := by
  have runs : (Runs.execute step StartsFree (create 0x0001) (.createApplication ::
      .createApplication :: requesting 0 ++ [answering 0] ++ requesting 1)).isSome := by
    decide +kernel
  obtain ⟨_, executed⟩ := Option.isSome_iff_exists.mp runs
  exact unique_of_startsFree (Runs.guarded_of_execute executed)

def atOnce : List (Action Unit) :=
  .createApplication :: .createApplication :: requesting 0 ++ requesting 1

/-- Two applications of one runtime start with the same request id. -/
theorem atOnce_collide : ¬ ∀ clientId (actions : List (Action Unit)) effects apps,
    Runs.Run step (create clientId) actions effects apps → apps.Unique := by
  intro all
  have runs : (Runs.execute step (fun _ _ => True) (create 0x0001) atOnce).isSome := by
    decide +kernel
  obtain ⟨⟨apps, effects⟩, executed⟩ := Option.isSome_iff_exists.mp runs
  have unique := all _ _ _ _ (Runs.guarded_of_execute executed)
  have waiting : (Runs.execute step (fun _ _ => True) (create 0x0001) atOnce).map (fun reached =>
      (reached.1.wire.map fun sent => (sent.application, Runtime.frameRequestId sent.frame),
        decide (∀ sent ∈ reached.1.wire, reached.1.Unfinished sent))) =
          some ([(0, 0x00010001), (1, 0x00010001)], true) := by
    decide +kernel
  rw [executed, Option.map_some, Option.some.injEq] at waiting
  obtain ⟨wire, unfinished⟩ := Prod.mk.inj waiting
  have unfinished := of_decide_eq_true unfinished
  have first : ∃ sent ∈ apps.wire,
      (sent.application, Runtime.frameRequestId sent.frame) = (0, 0x00010001) := by
    rw [← List.mem_map, wire]
    decide
  have second : ∃ sent ∈ apps.wire,
      (sent.application, Runtime.frameRequestId sent.frame) = (1, 0x00010001) := by
    rw [← List.mem_map, wire]
    decide
  obtain ⟨sent, member, of⟩ := first
  obtain ⟨other, otherMember, of'⟩ := second
  obtain ⟨application, requestId⟩ := Prod.mk.inj of
  obtain ⟨application', requestId'⟩ := Prod.mk.inj of'
  have same := unique sent member other otherMember (unfinished sent member)
    (unfinished other otherMember) (requestId.trans requestId'.symm)
  rw [application, application'] at same
  exact absurd same.1 (by decide)

end Applications
end Msomeip
