import Msomeip.Application.Application

namespace Msomeip

open Transport

namespace Runtime

def frameReturnCode (frame : Frame) : Option UInt8 := frame.data[15]?

theorem serialize_returnCode (message : Message) :
    message.serialize[15]? = some message.returnCode.value := rfl

theorem sendMessage_returnCode {message : Message} {address : String} {port : UInt16}
    {reliable : Bool} {outcome : Nat → Bool} {frame : Frame}
    (member : frame ∈ (sendMessage message address port reliable outcome).2) :
    frameReturnCode frame = some message.returnCode.value := by
  unfold frameReturnCode
  unfold sendMessage at member
  split at member
  · dsimp only at member
    split at member
    · cases member
    · obtain ⟨part, inside, same⟩ := sendAll_subset member
      have returnCode := congrArg Message.returnCode (Tp.TpSegmenter.segment_header inside)
      rw [same, serialize_returnCode]
      exact congrArg (fun code => some code.value) returnCode
  · rw [List.mem_singleton.mp member, serialize_returnCode]

end Runtime

namespace Application

/-- What `send_response` and `send_error_response` do with the message they made. -/
def reply (response : Message) (network : Network) : List Frame :=
  match network.endpoints.find? (·.protocol == .udp) with
  | none => []
  | some endpoint =>
    (Runtime.sendMessage response endpoint.address endpoint.port false (network.outcome 0)).2

def sendResponse (request : Message) (payload : PayloadData) (network : Network) : List Frame :=
  reply ((Message.createResponse request).setPayload payload) network

theorem reply_returnCode {response : Message} {network : Network} {frame : Frame}
    (member : frame ∈ reply response network) :
    Runtime.frameReturnCode frame = some response.returnCode.value := by
  unfold reply at member
  split at member
  · cases member
  · exact Runtime.sendMessage_returnCode member

end Application
end Msomeip
