import Msomeip.Service.Server

namespace Msomeip.Server

variable {Handler : Type}

/-- The skeleton of the index belongs to the service and has a handler for the method. -/
def Provides (server : Server Handler) (index : Nat) (service : ServiceId) (method : MethodId) :
    Prop :=
  ∃ skeleton, server.skeletons[index]? = some skeleton ∧ skeleton.serviceId = service ∧
    ∃ handler, skeleton.methodHandlers[method]? = some (some handler)

def Effect.Invocation : Effect Handler → Bool
  | .skeleton _ effect => effect.Invocation
  | .application (.invoked ..) => true
  | .application _ | .sent _ => false

/-- One handler is called for the message, with its payload: that of its method, of a skeleton of
    its service; and no frame says that the method is unknown. -/
def Dispatched (server : Server Handler) (message : Message) (network : Application.Network) :
    Prop :=
  (∃ index, server.Provides index message.serviceId message.methodId ∧
    (server.handleMessage message network).2.filter Effect.Invocation =
      [.skeleton index (.methodInvoked message.methodId message.payloadData)]) ∧
  ∀ frame, .sent frame ∈ (server.handleMessage message network).2 →
    Runtime.frameReturnCode frame ≠ some ReturnCode.eUnknownMethod.value

/-- Skeletons register themselves under one method id only. -/
def Wired (server : Server Handler) : Prop :=
  ∀ (method : MethodId) (index : Nat),
    server.app.methodHandlers[method]? = some (some (.skeleton index)) → method = 0

theorem Wired.of_handlers {server next : Server Handler} (wired : server.Wired)
    (handlers : ∀ (method : MethodId) (index : Nat),
      next.app.methodHandlers[method]? = some (some (.skeleton index)) →
        server.app.methodHandlers[method]? = some (some (.skeleton index))) : next.Wired :=
  fun method index found => wired method index (handlers method index found)

theorem wired_init {server : Server Handler} (wired : server.Wired) (index : Nat) :
    (server.init index).Wired := by
  intro method other found
  simp only [init, Maps.lookup_insert] at found
  split at found
  · rename_i same
    exact same.symm
  · exact wired method other found

theorem skeleton_of_map {action : Application.Action Handler}
    {app next : Application (Callback Handler)}
    {emitted : List (Application.Effect (Callback Handler))}
    (stepped : Application.step app (action.map .other) = some (next, emitted))
    {method : MethodId} {index : Nat}
    (found : next.methodHandlers[method]? = some (some (.skeleton index))) :
    app.methodHandlers[method]? = some (some (.skeleton index)) := by
  rw [Application.step_methodHandlers stepped] at found
  cases action with
  | registerMethodHandler registered handler =>
    simp only [Application.Action.map, Maps.lookup_insert] at found
    split at found
    · cases handler <;> cases found
    · exact found
  | unregisterMethodHandler erased =>
    simp only [Application.Action.map, Maps.lookup_erase] at found
    split at found
    · cases found
    · exact found
  | _ => exact found

theorem wired_applyTo {server next : Server Handler} {index : Nat}
    {change : ServiceSkeleton → ServiceSkeleton} {emitted : List (Effect Handler)}
    (wired : server.Wired) (applied : server.applyTo index change = some (next, emitted)) :
    next.Wired := by
  unfold applyTo at applied
  split at applied
  · obtain ⟨rfl, -⟩ := Prod.mk.inj (Option.some.inj applied)
    exact wired
  · cases applied

theorem wired_handleMessage {server : Server Handler} (wired : server.Wired) (message : Message)
    (network : Application.Network) : (server.handleMessage message network).1.Wired := by
  apply wired.of_handlers
  intro method index found
  have same : (server.app.handleMessage message network).1.methodHandlers =
      server.app.methodHandlers :=
    congrArg Prod.fst (server.app.handleMessage_handlers message network)
  exact same ▸ found

theorem wired_step {server next : Server Handler} {action : Action Handler}
    {emitted : List (Effect Handler)} (wired : server.Wired)
    (stepped : step server action = some (next, emitted)) : next.Wired := by
  cases action with
  | construct service instance' =>
    obtain ⟨rfl, -⟩ := Prod.mk.inj (Option.some.inj stepped)
    exact wired
  | registerMethod | registerEvent | registerField => exact wired_applyTo wired stepped
  | init index =>
    simp only [step] at stepped
    split at stepped
    · obtain ⟨rfl, -⟩ := Prod.mk.inj (Option.some.inj stepped)
      exact wired_init wired index
    · cases stepped
  | application action =>
    have other : ∀ {emitted}, (Application.step server.app (action.map .other)).map
        (fun result => ({ server with app := result.1 }, result.2.map Effect.application)) =
          some (next, emitted) → next.Wired := by
      intro emitted mapped
      obtain ⟨⟨app, effects⟩, appStepped, same⟩ := Option.map_eq_some_iff.mp mapped
      obtain ⟨rfl, -⟩ := Prod.mk.inj same
      exact wired.of_handlers fun method index found => skeleton_of_map appStepped found
    cases action with
    | handleMessage message network =>
      obtain ⟨rfl, -⟩ := Prod.mk.inj (Option.some.inj stepped)
      exact wired_handleMessage wired message network
    | _ => exact other stepped

theorem wired_run {clientId : ClientId} {actions : List (Action Handler)}
    {effects : List (Effect Handler)} {server : Server Handler}
    (run : Runs.Run step (create clientId) actions effects server) : server.Wired := by
  apply run.invariant fun _ _ server => server.Wired
  · intro method index found
    simp [create, Application.create] at found
  · intro _ _ _ _ _ _ wired _ stepped
    exact wired_step wired stepped

theorem isRequest_of_lt {message : Message} (method : message.methodId < 0x8000) :
    message.isRequest = true := by
  have small : message.methodId.toNat < 2 ^ 15 := method
  have clear : message.methodId &&& 0x8000 = 0 := by
    rw [← UInt16.toNat_inj, UInt16.toNat_and]
    exact (Nat.and_two_pow _ 15).trans (by simp [Nat.testBit_lt_two_pow small])
  simp [Message.isRequest, clear]

/-- What a request to a method comes to: the callback registered under its method id decides. -/
theorem handleMessage_request (server : Server Handler) {message : Message}
    (request : message.messageType = .request) (method : message.methodId < 0x8000)
    (network : Application.Network) : (server.handleMessage message network).2 =
      match server.app.methodHandlers[message.methodId]? with
      | some (some callback) => server.follow network (.invoked callback message)
      | _ => (Application.sendErrorResponse message .eUnknownMethod network).map .sent := by
  have plain : message.isRequest = true := isRequest_of_lt method
  have noEvent : message.isEvent = false := by
    simpa [Message.isEvent, Message.isRequest] using plain
  have noResponse : message.isResponseType = false := by
    simp only [Message.isResponseType, request]
    decide
  have isRequestType : message.isRequestType = true := by
    simp only [Message.isRequestType, request]
    decide
  have refused : ((Application.sendErrorResponse message .eUnknownMethod network).map
      Application.Effect.sent).flatMap (server.follow network) =
        (Application.sendErrorResponse message .eUnknownMethod network).map .sent := by
    rw [List.flatMap_map]
    exact List.flatMap_pure_eq_map ..
  simp only [handleMessage, Application.handleMessage, noResponse, noEvent, isRequestType]
  cases server.app.methodHandlers[message.methodId]? with
  | none => exact refused
  | some registered =>
    cases registered with
    | none => exact refused
    | some callback => simp

theorem invocations_sent (frames : List Transport.Frame) :
    (frames.map fun frame => (.sent frame : Effect Handler)).filter Effect.Invocation = [] := by
  rw [List.filter_map, List.map_eq_nil_iff, List.filter_eq_nil_iff]
  exact fun _ _ invoked => nomatch invoked

theorem invocations_relay (index : Nat) (network : Application.Network)
    (effects : List ServiceSkeleton.Effect) :
    (effects.flatMap (relay index network)).filter Effect.Invocation =
      (effects.filter ServiceSkeleton.Effect.Invocation).map
        fun effect => (.skeleton index effect : Effect Handler) := by
  induction effects with
  | nil => rfl
  | cons effect effects ih =>
    have head : (relay index network effect).filter (Effect.Invocation : Effect Handler → Bool) =
        if effect.Invocation then [.skeleton index effect] else [] := by
      rw [relay, List.filter_cons, invocations_sent]
      rfl
    rw [List.flatMap_cons, List.filter_append, head, ih, List.filter_cons]
    split <;> rfl

theorem not_unknown_of_response {request : Message} {payload : PayloadData}
    {network : Application.Network} {frame : Transport.Frame}
    (member : frame ∈ Application.sendResponse request payload network) :
    Runtime.frameReturnCode frame ≠ some ReturnCode.eUnknownMethod.value := by
  rw [Application.reply_returnCode member]
  show some ReturnCode.eOk.value ≠ some ReturnCode.eUnknownMethod.value
  decide

theorem handleMessage_provided {server : Server Handler} {message : Message} {index : Nat}
    (request : message.messageType = .request) (method : message.methodId < 0x8000)
    (network : Application.Network)
    (registered : server.app.methodHandlers[message.methodId]? = some (some (.skeleton index)))
    (provides : server.Provides index message.serviceId message.methodId) :
    server.Dispatched message network := by
  have ⟨skeleton, found, _, handler, handles⟩ := provides
  have plain : message.isRequest = true := isRequest_of_lt method
  have effects : (server.handleMessage message network).2 =
      .skeleton index (.methodInvoked message.methodId message.payloadData) ::
        .skeleton index (.responded message (handler message.payloadData)) ::
          (Application.sendResponse message (handler message.payloadData) network).map .sent := by
    rw [handleMessage_request server request method network, registered]
    simp [follow, found, ServiceSkeleton.onMessageReceived, plain,
      ServiceSkeleton.handleMethodCall, handles, relay, answer]
  constructor
  · refine ⟨index, provides, ?_⟩
    rw [effects, List.filter_cons_of_pos rfl, List.filter_cons_of_neg Bool.false_ne_true,
      invocations_sent]
  · intro frame member
    rw [effects] at member
    simp only [List.mem_cons, List.mem_map, reduceCtorEq, Effect.sent.injEq, exists_eq_right,
      false_or] at member
    exact not_unknown_of_response member

/-- A request reaches the handler of its method exactly where the last registered skeleton is one
    that provides the method, and the method is the one id skeletons register under. -/
theorem dispatched_iff {clientId : ClientId} {actions : List (Action Handler)}
    {effects : List (Effect Handler)} {server : Server Handler}
    (run : Runs.Run step (create clientId) actions effects server) {message : Message}
    (request : message.messageType = .request) (method : message.methodId < 0x8000)
    (network : Application.Network) :
    server.Dispatched message network ↔ message.methodId = 0 ∧
      ∃ index, server.app.methodHandlers[(0 : MethodId)]? = some (some (.skeleton index)) ∧
        server.Provides index message.serviceId 0 := by
  constructor
  · intro dispatched
    obtain ⟨⟨index, provides, called⟩, -⟩ := dispatched
    rw [handleMessage_request server request method network] at called
    split at called
    · rename_i callback registered
      cases callback with
      | skeleton other =>
        have root : message.methodId = 0 := wired_run run message.methodId other registered
        have same : other = index := by
          simp only [follow] at called
          split at called
          · cases called
          · rw [invocations_relay] at called
            have member := called ▸ List.mem_singleton_self _
            obtain ⟨_, -, equal⟩ := List.mem_map.mp member
            exact (Effect.skeleton.inj equal).1
        rw [root] at registered provides
        exact ⟨root, index, same ▸ registered, provides⟩
      | other handler => cases called
    · rw [invocations_sent] at called
      cases called
  · intro condition
    obtain ⟨root, index, registered, provides⟩ := condition
    rw [← root] at registered provides
    exact handleMessage_provided request method network registered provides

def echoService (method : MethodId) : List (Action Unit) :=
  [.construct 0x1234 1, .registerMethod 0 method (some id), .init 0]

def echoServer (method : MethodId) : Server Unit :=
  let skeleton : ServiceSkeleton := { serviceId := 0x1234, instanceId := 1 }
  ({ create 1 with skeletons := [skeleton.registerMethod method (some id)] } : Server Unit).init 0

theorem echoServer_run (method : MethodId) :
    Runs.Run step (create 1) (echoService method) [] (echoServer method) := by
  have executed : Runs.execute step (fun _ _ => True) (create 1) (echoService method) =
      some (echoServer method, []) := rfl
  exact Runs.guarded_of_execute executed

def echoRequest (method : MethodId) : Message :=
  { serviceId := 0x1234, methodId := method, messageType := .request }

def silentNetwork : Application.Network := { endpoints := [], outcome := fun _ _ => true }

theorem echoServer_provides (method : MethodId) :
    (echoServer method).Provides 0 0x1234 method :=
  ⟨_, rfl, rfl, id, Std.ExtTreeMap.getElem?_insert_self⟩

theorem echoServer_dispatched :
    (echoServer 0).Dispatched (echoRequest 0) silentNetwork :=
  (dispatched_iff (echoServer_run 0) rfl (by decide) silentNetwork).mpr
    ⟨rfl, 0, Std.ExtTreeMap.getElem?_insert_self, echoServer_provides 0⟩

theorem echoServer_unreachable : ¬ ∀ (clientId : ClientId) (actions : List (Action Unit))
    (effects : List (Effect Unit)) (server : Server Unit) (index : Nat) (message : Message)
    (network : Application.Network),
    Runs.Run step (create clientId) actions effects server → .init index ∈ actions →
      server.Provides index message.serviceId message.methodId →
        message.messageType = .request → message.methodId < 0x8000 →
          server.Dispatched message network := by
  intro all
  have dispatched := all 1 _ _ _ 0 (echoRequest 1) silentNetwork (echoServer_run 1) (by simp [echoService])
    (echoServer_provides 1) rfl (by decide)
  obtain ⟨⟨index, -, called⟩, -⟩ := dispatched
  have nothing : ((echoServer 1).handleMessage (echoRequest 1) silentNetwork).2 = [] := by
    decide +kernel
  rw [nothing] at called
  cases called

end Msomeip.Server
