import Msomeip.Library.Inet

namespace Msomeip

abbrev ServiceId := UInt16
abbrev InstanceId := UInt16
abbrev MethodId := UInt16
abbrev EventId := UInt16
abbrev SessionId := UInt16
abbrev ClientId := UInt16
abbrev RequestId := UInt32
abbrev MajorVersion := UInt8
abbrev MinorVersion := UInt32
abbrev EventgroupId := UInt16
abbrev FieldId := UInt16
abbrev PayloadData := List UInt8

/-- A `steady_clock` time point, in nanoseconds. -/
abbrev TimePoint := Int
abbrev Milliseconds := Int

def someipProtocolVersion : UInt8 := 0x01
def someipInterfaceVersion : UInt8 := 0x01
def someipSdPort : UInt16 := 30490
def someipSdMethodId : MethodId := 0x8100
def someipSdServiceId : ServiceId := 0xFFFF
def someipSdInstanceId : InstanceId := 0x0000
def someipSdMethodFindService : MethodId := 0x0001
def someipSdMethodOfferService : MethodId := 0x0002
def someipSdMethodSubscribeEventgroup : MethodId := 0x0006
def someipSdMethodSubscribeEventgroupAck : MethodId := 0x0007
def someipSdMethodSubscribeEventgroupNack : MethodId := 0x0008

/-- An `enum class` over `uint8_t`: a cast makes every byte a value, named or not. -/
structure MessageType where
  value : UInt8
deriving DecidableEq, Repr

namespace MessageType

def request : MessageType := ⟨0x00⟩
def requestNoReturn : MessageType := ⟨0x01⟩
def notification : MessageType := ⟨0x02⟩
def response : MessageType := ⟨0x80⟩
def error : MessageType := ⟨0x81⟩
def tpRequest : MessageType := ⟨0x20⟩
def tpRequestNoReturn : MessageType := ⟨0x21⟩
def tpNotification : MessageType := ⟨0x22⟩
def tpResponse : MessageType := ⟨0xA0⟩
def tpError : MessageType := ⟨0xA1⟩

end MessageType

structure ReturnCode where
  value : UInt8
deriving DecidableEq, Repr

namespace ReturnCode

def eOk : ReturnCode := ⟨0x00⟩
def eNotOk : ReturnCode := ⟨0x01⟩
def eUnknownMethod : ReturnCode := ⟨0x03⟩
def eNotReachable : ReturnCode := ⟨0x05⟩
def eTimeout : ReturnCode := ⟨0x06⟩

end ReturnCode

structure SdEntryType where
  value : UInt8
deriving DecidableEq, Repr

namespace SdEntryType

def findService : SdEntryType := ⟨0x00⟩
def offerService : SdEntryType := ⟨0x01⟩
def subscribeEventgroup : SdEntryType := ⟨0x06⟩
def subscribeEventgroupAck : SdEntryType := ⟨0x07⟩

end SdEntryType

structure IpProtocol where
  value : UInt8
deriving DecidableEq, Repr

namespace IpProtocol

def udp : IpProtocol := ⟨0x06⟩
def tcp : IpProtocol := ⟨0x11⟩

end IpProtocol

instance ordPair : Ord (UInt16 × UInt16) := lexOrd
instance ordTriple : Ord (UInt16 × UInt16 × UInt16) := lexOrd

structure Endpoint where
  address : String
  port : UInt16
  protocol : IpProtocol
deriving DecidableEq, Repr

structure ServiceConfig where
  serviceId : ServiceId
  instanceId : InstanceId
  majorVersion : MajorVersion
  minorVersion : MinorVersion
  ttl : Milliseconds := 0xFFFFFF
  reliable : Bool
  unreliable : Bool
  reliablePort : UInt16 := 0
  unreliablePort : UInt16 := 0
deriving DecidableEq, Repr

structure SubscriptionInfo where
  serviceId : ServiceId
  instanceId : InstanceId
  eventgroupId : EventgroupId
  majorVersion : MajorVersion
  ttl : UInt32
  endpoints : List Endpoint
deriving DecidableEq, Repr

structure EventConfig where
  serviceId : ServiceId
  instanceId : InstanceId
  eventId : EventId
  eventgroupId : EventgroupId
deriving DecidableEq, Repr

end Msomeip
