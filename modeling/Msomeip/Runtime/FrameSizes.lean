import Msomeip.Message.Codec
import Msomeip.Runtime.Runtime

namespace Msomeip.Runtime

open Transport Tp TpSegmenter

def receiveLimit (reliable : Bool) : Nat :=
  if reliable then TcpTransport.maxMessageSize else UdpTransport.maxMessageSize

def FramesFit (message : Message) (address : String) (port : UInt16) (reliable : Bool)
    (outcome : Nat → Bool) : Prop :=
  ∀ frame ∈ (sendMessage message address port reliable outcome).2,
    frame.data.length ≤ receiveLimit reliable

/-- Nothing is sent: the message would have to be segmented, and has no segments. The count is zero
    only where `size_t` overflows. -/
def Unsegmentable (message : Message) : Prop :=
  tcpSegmentSize < message.payloadData.length ∧ (tpType message.messageType = none ∨
    getSegmentCount message.payloadData.length tcpSegmentSize = 0)

theorem segmentAt_length (original : Message) (type : MessageType) (payload : PayloadData)
    (offset segmentPayloadSize : Nat) :
    (segmentAt original type payload offset segmentPayloadSize).serialize.length =
      20 + min segmentPayloadSize (payload.length - offset) := by
  simp [Message.serialize_length, segmentAt, Message.headerSize]
  omega

theorem segmentLoop_length {original : Message} {type : MessageType} {payload : PayloadData}
    {maxSegmentSize remaining offset : Nat} {part : Message}
    (member : part ∈ segmentLoop original type payload maxSegmentSize remaining offset) :
    part.serialize.length ≤ 20 + maxSegmentSize := by
  induction remaining generalizing offset with
  | zero => cases member
  | succ remaining ih =>
    rcases List.mem_cons.mp member with rfl | later
    · rw [segmentAt_length]
      omega
    · exact ih later

theorem sendMessage_short {message : Message} {reliable : Bool}
    (short : message.payloadData.length ≤ maxSegmentSize reliable) (address : String)
    (port : UInt16) (outcome : Nat → Bool) :
    (sendMessage message address port reliable outcome).2 =
      [⟨message.serialize, address, port, reliable⟩] := by
  simp [sendMessage, needsSegmentation, Nat.not_lt.mpr short]

theorem sendMessage_long {message : Message} {reliable : Bool}
    (long : maxSegmentSize reliable < message.payloadData.length) (address : String)
    (port : UInt16) (outcome : Nat → Bool) :
    (sendMessage message address port reliable outcome).2 =
      (sendAll address port reliable outcome 0
        (TpSegmenter.segment message (maxSegmentSize reliable))).2 := by
  simp only [sendMessage, needsSegmentation, gt_iff_lt, long, decide_true, if_true]
  cases parts : TpSegmenter.segment message (maxSegmentSize reliable) <;> simp [sendAll]

theorem segment_length {message part : Message} {maxSegmentSize : Nat}
    (long : maxSegmentSize < message.payloadData.length)
    (member : part ∈ TpSegmenter.segment message maxSegmentSize) :
    part.serialize.length ≤ 20 + maxSegmentSize := by
  rw [segment_of_long long] at member
  split at member
  · cases member
  · exact segmentLoop_length member

theorem framesFit_udp (message : Message) (address : String) (port : UInt16)
    (outcome : Nat → Bool) : FramesFit message address port false outcome := by
  have limits : maxSegmentSize false = 1392 ∧ receiveLimit false = 65535 := ⟨rfl, rfl⟩
  intro frame member
  rcases Nat.lt_or_ge (maxSegmentSize false) message.payloadData.length with long | short
  · rw [sendMessage_long long] at member
    obtain ⟨part, inside, same⟩ := sendAll_subset member
    have bound := segment_length long inside
    rw [same]
    omega
  · rw [sendMessage_short short] at member
    obtain rfl := List.mem_singleton.mp member
    simp only [Message.serialize_length, Message.headerSize]
    omega

theorem framesFit_tcp_short {message : Message}
    (short : message.payloadData.length ≤ tcpSegmentSize) (address : String) (port : UInt16)
    (outcome : Nat → Bool) :
    FramesFit message address port true outcome ↔ message.payloadData.length ≤ 4080 := by
  have limit : receiveLimit true = 4096 := rfl
  rw [FramesFit, sendMessage_short short]
  simp only [List.forall_mem_singleton, Message.serialize_length, Message.headerSize]
  omega

theorem framesFit_tcp_long {message : Message}
    (long : tcpSegmentSize < message.payloadData.length) (address : String) (port : UInt16)
    (outcome : Nat → Bool) :
    FramesFit message address port true outcome ↔ Unsegmentable message := by
  have limit : receiveLimit true = 4096 := rfl
  have size : tcpSegmentSize = 4095 := rfl
  have frames : (sendMessage message address port true outcome).2 =
      (sendAll address port true outcome 0 (TpSegmenter.segment message tcpSegmentSize)).2 :=
    sendMessage_long (show maxSegmentSize true < _ from long) address port outcome
  rw [FramesFit, frames, segment_of_long long]
  cases mapped : tpType message.messageType with
  | none => simp [Unsegmentable, long, mapped, sendAll]
  | some type =>
    cases count : getSegmentCount message.payloadData.length tcpSegmentSize with
    | zero => simp [Unsegmentable, long, count, segmentLoop, sendAll]
    | succ remaining =>
      have sendable : ¬ Unsegmentable message := by simp [Unsegmentable, mapped, count]
      simp only [sendable, iff_false, segmentLoop]
      intro fit
      have first := fit _ (sendAll_first address port true outcome 0 _ _)
      rw [segmentAt_length] at first
      omega

/-- Exactly which messages are sent in frames the receiver takes, whatever the sends return. -/
theorem framesFit_iff (message : Message) (address : String) (port : UInt16) (reliable : Bool)
    (outcome : Nat → Bool) : FramesFit message address port reliable outcome ↔
      reliable = false ∨ message.payloadData.length ≤ 4080 ∨ Unsegmentable message := by
  cases reliable with
  | false => simp [framesFit_udp]
  | true =>
    rcases Nat.lt_or_ge tcpSegmentSize message.payloadData.length with long | short
    · have size : tcpSegmentSize = 4095 := rfl
      rw [framesFit_tcp_long long]
      grind
    · rw [framesFit_tcp_short short]
      unfold Unsegmentable
      grind

def longMessage : Message := { payload := some (.ofData (List.replicate 4081 0)) }

theorem longMessage_refused : ¬ ∀ (message : Message) (address : String) (port : UInt16)
    (reliable : Bool) (outcome : Nat → Bool),
    FramesFit message address port reliable outcome := by
  intro all
  have length : longMessage.payloadData.length = 4081 := List.length_replicate
  have fit := all longMessage "127.0.0.1" 30509 true fun _ => true
  rw [framesFit_tcp_short (by rw [length]; decide), length] at fit
  exact absurd fit (by decide)

end Msomeip.Runtime
