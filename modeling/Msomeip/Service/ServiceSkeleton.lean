import Msomeip.Library.Maps
import Msomeip.Message.Message

namespace Msomeip

open Std

/-- The registered functions come from outside; an empty one is `none`, and calling it throws. A
    getter stands for the value it returns. -/
structure ServiceSkeleton where
  serviceId : ServiceId
  instanceId : InstanceId
  methodHandlers : ExtTreeMap MethodId (Option (PayloadData → PayloadData)) := ∅
  fieldGetters : ExtTreeMap FieldId (Option PayloadData) := ∅
  fieldSetters : ExtTreeMap FieldId (Option (PayloadData → Bool)) := ∅
  fields : ExtTreeMap FieldId EventConfig := ∅
  events : ExtTreeMap EventId EventConfig := ∅

namespace ServiceSkeleton

/-- What a skeleton does with a message: the functions it calls, and its calls of `send_response`,
    `send_error_response` and `notify_event` on the application it got the message from. -/
inductive Effect
  | methodInvoked (method : MethodId) (payload : PayloadData)
  | getterInvoked (field : FieldId)
  | setterInvoked (field : FieldId) (payload : PayloadData)
  | badFunctionCall
  | responded (request : Message) (payload : PayloadData)
  | refused (request : Message) (code : ReturnCode)
  | notified (event : EventId) (payload : PayloadData)
deriving DecidableEq, Repr

def Effect.Invocation : Effect → Bool
  | .methodInvoked .. | .getterInvoked .. | .setterInvoked .. => true
  | .badFunctionCall | .responded .. | .refused .. | .notified .. => false

def registerMethod (skeleton : ServiceSkeleton) (method : MethodId)
    (handler : Option (PayloadData → PayloadData)) : ServiceSkeleton :=
  { skeleton with methodHandlers := skeleton.methodHandlers.insert method handler }

def registerFieldGetter (skeleton : ServiceSkeleton) (field : FieldId)
    (getter : Option PayloadData) : ServiceSkeleton :=
  { skeleton with fieldGetters := skeleton.fieldGetters.insert field getter }

def registerFieldSetter (skeleton : ServiceSkeleton) (field : FieldId)
    (setter : Option (PayloadData → Bool)) : ServiceSkeleton :=
  { skeleton with fieldSetters := skeleton.fieldSetters.insert field setter }

def registerEvent (skeleton : ServiceSkeleton) (event : EventId) (eventgroup : EventgroupId) :
    ServiceSkeleton :=
  let config : EventConfig := ⟨skeleton.serviceId, skeleton.instanceId, event, eventgroup⟩
  { skeleton with events := skeleton.events.insert event config }

def registerField (skeleton : ServiceSkeleton) (field : FieldId) (eventgroup : EventgroupId)
    (getter : Option PayloadData) (setter : Option (PayloadData → Bool)) : ServiceSkeleton :=
  let skeleton := (skeleton.registerFieldGetter field getter).registerFieldSetter field setter
  let config : EventConfig := ⟨skeleton.serviceId, skeleton.instanceId, field, eventgroup⟩
  { skeleton with fields := skeleton.fields.insert field config }

def handleMethodCall (skeleton : ServiceSkeleton) (message : Message) : List Effect :=
  match skeleton.methodHandlers[message.methodId]? with
  | some (some handler) =>
    [.methodInvoked message.methodId message.payloadData,
      .responded message (handler message.payloadData)]
  | some none => [.badFunctionCall]
  | none => [.refused message .eUnknownMethod]

def handleFieldGet (skeleton : ServiceSkeleton) (message : Message) : List Effect :=
  let field : FieldId := message.methodId &&& 0x00FF
  match skeleton.fieldGetters[field]? with
  | some (some value) => [.getterInvoked field, .responded message value]
  | some none => [.badFunctionCall]
  | none => [.refused message .eUnknownMethod]

def handleFieldSet (skeleton : ServiceSkeleton) (message : Message) : List Effect :=
  let field : FieldId := message.methodId &&& 0x00FF
  match skeleton.fieldSetters[field]? with
  | some (some setter) =>
    if setter message.payloadData then
      [.setterInvoked field message.payloadData, .responded message [],
        .notified field message.payloadData]
    else [.setterInvoked field message.payloadData, .refused message .eNotOk]
  | some none => [.badFunctionCall]
  | none => [.refused message .eUnknownMethod]

def onMessageReceived (skeleton : ServiceSkeleton) (message : Message) : List Effect :=
  if message.isRequest then skeleton.handleMethodCall message
  else if message.isEvent then
    if message.methodId &&& 0x7F00 == 0x0100 then skeleton.handleFieldGet message
    else if message.methodId &&& 0x7F00 == 0x0200 then skeleton.handleFieldSet message
    else []
  else []

theorem invocations_handleMethodCall (skeleton : ServiceSkeleton) (message : Message) :
    (skeleton.handleMethodCall message).filter Effect.Invocation =
      match skeleton.methodHandlers[message.methodId]? with
      | some (some _) => [.methodInvoked message.methodId message.payloadData]
      | _ => [] := by
  unfold handleMethodCall
  cases skeleton.methodHandlers[message.methodId]? with
  | none => rfl
  | some registered => cases registered <;> rfl

end ServiceSkeleton
end Msomeip
