import Msomeip.Application.Application

namespace Msomeip

structure ServiceProxy where
  serviceId : ServiceId
  instanceId : InstanceId
  available : Bool := false

namespace ServiceProxy

variable {Handler : Type}

/-- The request that `call_method` hands to `send_request`, whose future it then waits for. -/
def callMethod (proxy : ServiceProxy) (app : Application Handler) (method : MethodId)
    (payload : PayloadData) : Option Message :=
  if !proxy.available then none
  else some (app.request proxy.serviceId proxy.instanceId method payload false)

def getterId (field : FieldId) : MethodId := 0x0100 ||| (field &&& 0x00FF)
def setterId (field : FieldId) : MethodId := 0x0200 ||| (field &&& 0x00FF)

def getField (proxy : ServiceProxy) (app : Application Handler) (field : FieldId) :
    Option Message :=
  proxy.callMethod app (getterId field) []

def setField (proxy : ServiceProxy) (app : Application Handler) (field : FieldId)
    (payload : PayloadData) : Option Message :=
  proxy.callMethod app (setterId field) payload

theorem callMethod_some {proxy : ServiceProxy} {app : Application Handler} {method : MethodId}
    {payload : PayloadData} {request : Message}
    (built : proxy.callMethod app method payload = some request) :
    request.methodId = method ∧ request.payloadData = payload := by
  unfold callMethod at built
  split at built
  · cases built
  · obtain rfl := Option.some.inj built
    exact ⟨rfl, rfl⟩

end ServiceProxy
end Msomeip
