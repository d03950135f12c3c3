import Msomeip.Library.BigEndian
import Msomeip.Message.Payload

namespace Msomeip

open BigEndian

structure Message where
  serviceId : ServiceId := 0
  methodId : MethodId := 0
  clientId : ClientId := 0
  sessionId : SessionId := 0
  protocolVersion : UInt8 := someipProtocolVersion
  interfaceVersion : UInt8 := someipInterfaceVersion
  messageType : MessageType := .request
  returnCode : ReturnCode := .eOk
  instanceId : InstanceId := 0xFFFF
  reliable : Bool := false
  payload : Option Payload := none
deriving DecidableEq, Repr

namespace Message

def headerSize : Nat := 16

def createRequest (service : ServiceId) (instance' : InstanceId) (method : MethodId)
    (client : ClientId) (reliable : Bool) : Message :=
  { serviceId := service, instanceId := instance', methodId := method, clientId := client,
    messageType := .request, reliable := reliable, payload := some {} }

def createNotification (service : ServiceId) (instance' : InstanceId) (event : EventId) : Message :=
  { serviceId := service, instanceId := instance', methodId := event ||| 0x8000,
    messageType := .notification, payload := some {} }

def createResponse (request : Message) : Message :=
  { serviceId := request.serviceId, instanceId := request.instanceId,
    methodId := request.methodId, clientId := request.clientId, sessionId := request.sessionId,
    messageType := .response, reliable := request.reliable, payload := some {} }

def createErrorResponse (request : Message) (code : ReturnCode) : Message :=
  { createResponse request with messageType := .error, returnCode := code }

def setPayload (message : Message) (data : PayloadData) : Message :=
  { message with payload := some (.ofData data) }

/-- The bytes behind `payload_`; a null pointer has none. -/
def payloadData (message : Message) : PayloadData :=
  match message.payload with
  | some payload => payload.data
  | none => []

def isRequest (message : Message) : Bool := message.methodId &&& 0x8000 == 0
def isEvent (message : Message) : Bool := message.methodId &&& 0x8000 != 0

def isRequestType (message : Message) : Bool :=
  message.messageType = .request || message.messageType = .requestNoReturn ||
    message.messageType = .tpRequest || message.messageType = .tpRequestNoReturn

def isResponseType (message : Message) : Bool :=
  message.messageType = .response || message.messageType = .tpResponse ||
    message.messageType = .error || message.messageType = .tpError

def isTpMessage (message : Message) : Bool :=
  message.messageType = .tpRequest || message.messageType = .tpRequestNoReturn ||
    message.messageType = .tpNotification || message.messageType = .tpResponse ||
    message.messageType = .tpError

def getLength (message : Message) : UInt32 :=
  match message.payload with
  | some payload => UInt32.ofNat payload.size
  | none => 0

def getSize (message : Message) : Nat := headerSize + message.getLength.toNat

def getRequestId (message : Message) : RequestId :=
  (message.clientId.toUInt32 <<< 16) ||| message.sessionId.toUInt32

def serialize (message : Message) : List UInt8 :=
  bytes16 message.serviceId ++ bytes16 message.methodId ++ bytes32 message.getLength ++
    bytes16 message.clientId ++ bytes16 message.sessionId ++
    [message.protocolVersion, message.interfaceVersion] ++
    [message.messageType.value, message.returnCode.value] ++ message.payloadData

def deserialize : List UInt8 → Option Message
  | d0 :: d1 :: d2 :: d3 :: d4 :: d5 :: d6 :: d7 :: d8 :: d9 :: d10 :: d11 :: d12 :: d13 :: d14 ::
      d15 :: rest =>
    let payloadLength := word32 d4 d5 d6 d7
    let message : Message :=
      { serviceId := word16 d0 d1, methodId := word16 d2 d3,
        clientId := word16 d8 d9, sessionId := word16 d10 d11,
        protocolVersion := d12, interfaceVersion := d13,
        messageType := ⟨d14⟩, returnCode := ⟨d15⟩ }
    if message.protocolVersion ≠ someipProtocolVersion then none
    else if headerSize + rest.length < headerSize + payloadLength.toNat then none
    else if payloadLength > 0 then
      some { message with payload := some (.ofData (rest.take payloadLength.toNat)) }
    else some { message with payload := some {} }
  | _ => none

theorem getRequestId_toNat (message : Message) :
    message.getRequestId.toNat = message.clientId.toNat * 2 ^ 16 + message.sessionId.toNat := by
  have client := message.clientId.toNat_lt
  have session := message.sessionId.toNat_lt
  simp only [getRequestId, UInt32.toNat_or, UInt32.toNat_shiftLeft, UInt16.toNat_toUInt32]
  change message.clientId.toNat <<< 16 % 2 ^ 32 ||| message.sessionId.toNat = _
  rw [Nat.shiftLeft_eq, Nat.mod_eq_of_lt (by omega), or_eq_add _ _ 16 session]

theorem getRequestId_inj {first second : Message} :
    first.getRequestId = second.getRequestId ↔
      first.clientId = second.clientId ∧ first.sessionId = second.sessionId := by
  rw [← UInt32.toNat_inj, getRequestId_toNat, getRequestId_toNat, ← UInt16.toNat_inj,
    ← UInt16.toNat_inj]
  have session := first.sessionId.toNat_lt
  have otherSession := second.sessionId.toNat_lt
  omega

end Message
end Msomeip
