import Msomeip.Library.Framing
import Msomeip.Library.Memory
import Msomeip.Message.Message
import Msomeip.Runtime.Runtime

namespace Msomeip.Transport.TcpTransport

open BigEndian Framing

/-- What the receive thread of a connection works with. -/
structure Connection where
  running : Bool := true
  receiveBuffer : Nat → UInt8

/-- The bytes still to come, and the number of reads so far. -/
structure Socket where
  incoming : List UInt8
  reads : Nat := 0

/-- A `recv` of at most `length` bytes: `chunk` says how many the network hands over at each read,
    at least one where there are any. -/
def Socket.recv (chunk : Nat → Nat) (socket : Socket) (length : Nat) : List UInt8 × Socket :=
  let count := min (min length socket.incoming.length) (max 1 (chunk socket.reads))
  (socket.incoming.take count, ⟨socket.incoming.drop count, socket.reads + 1⟩)

/-- The inner loop: what has been received is in front of the buffer. -/
def readBody (chunk : Nat → Nat) (messageLength totalReceived : Nat) (connection : Connection)
    (socket : Socket) : Nat × Connection × Socket :=
  if totalReceived < messageLength then
    let read := socket.recv chunk (messageLength - totalReceived)
    if read.1 = [] then (totalReceived, { connection with running := false }, read.2)
    else
      readBody chunk messageLength (totalReceived + read.1.length)
        { connection with
          receiveBuffer := Memory.write connection.receiveBuffer totalReceived read.1 } read.2
  else (totalReceived, connection, socket)
termination_by messageLength - totalReceived
decreasing_by
  rename_i more received
  have positive := List.length_pos_of_ne_nil received
  change messageLength - (totalReceived + read.1.length) < messageLength - totalReceived
  omega

theorem recv_eq (chunk : Nat → Nat) (socket : Socket) (length : Nat) :
    ∃ count, count ≤ length ∧ count ≤ socket.incoming.length ∧
      (0 < length → socket.incoming ≠ [] → 0 < count) ∧
      socket.recv chunk length =
        (socket.incoming.take count, ⟨socket.incoming.drop count, socket.reads + 1⟩) := by
  refine ⟨min (min length socket.incoming.length) (max 1 (chunk socket.reads)), by omega,
    by omega, ?_, rfl⟩
  intro positive more
  have nonempty := List.length_pos_of_ne_nil more
  omega

/-- The loop fills the buffer with the next bytes where there are enough of them, and otherwise
    stops the connection at the end of the stream. -/
theorem readBody_eq {chunk : Nat → Nat} {messageLength totalReceived : Nat}
    {connection : Connection} {socket : Socket} (running : connection.running = true)
    (within : totalReceived ≤ messageLength) :
    ∃ buffer reads,
      (messageLength - totalReceived ≤ socket.incoming.length →
        readBody chunk messageLength totalReceived connection socket =
          (messageLength, ⟨true, buffer⟩,
            ⟨socket.incoming.drop (messageLength - totalReceived), reads⟩) ∧
        Memory.readAt buffer 0 messageLength =
          Memory.readAt connection.receiveBuffer 0 totalReceived ++
            socket.incoming.take (messageLength - totalReceived)) ∧
      (socket.incoming.length < messageLength - totalReceived →
        (readBody chunk messageLength totalReceived connection socket).2.1.running = false) := by
  fun_induction readBody chunk messageLength totalReceived connection socket with
  | case1 totalReceived connection socket more read ended =>
    obtain ⟨count, atMost, there, some, read_eq⟩ :=
      recv_eq chunk socket (messageLength - totalReceived)
    have nothing : socket.incoming = [] := by
      by_contra nonempty
      have positive := some (by omega) nonempty
      have empty : socket.incoming.take count = [] := (congrArg Prod.fst read_eq).symm.trans ended
      rw [List.take_eq_nil_iff] at empty
      rcases empty with zero | none
      · omega
      · exact nonempty none
    refine ⟨connection.receiveBuffer, 0, ?_, fun _ => rfl⟩
    intro enough
    rw [nothing, List.length_nil] at enough
    omega
  | case2 totalReceived connection socket more read received ih =>
    obtain ⟨count, atMost, there, some, read_eq⟩ :=
      recv_eq chunk socket (messageLength - totalReceived)
    have bytes : read.1 = socket.incoming.take count := congrArg Prod.fst read_eq
    have rest : read.2.incoming = socket.incoming.drop count :=
      congrArg (fun result => result.2.incoming) read_eq
    have length : read.1.length = count := by rw [bytes, List.length_take_of_le there]
    have left : messageLength - totalReceived = count + (messageLength - (totalReceived + count)) := by
      omega
    obtain ⟨buffer, reads, whole, short⟩ := ih running (by omega)
    rw [length] at whole short ⊢
    simp only [rest, List.length_drop, List.drop_drop] at whole short
    refine ⟨buffer, reads, ?_, ?_⟩
    · intro enough
      obtain ⟨ends, held⟩ := whole (by omega)
      have behind := Memory.readAt_write_behind connection.receiveBuffer 0 totalReceived read.1
      rw [Nat.zero_add, length] at behind
      rw [left]
      refine ⟨ends, ?_⟩
      rw [held, behind, bytes, List.append_assoc, ← List.take_add]
    · intro cut
      exact short (by omega)
  | case3 totalReceived connection socket done =>
    have all : totalReceived = messageLength := by omega
    subst all
    refine ⟨connection.receiveBuffer, socket.reads, ?_, by omega⟩
    intro _
    rw [Nat.sub_self, List.drop_zero, List.take_zero, List.append_nil, ← running]
    exact ⟨rfl, rfl⟩

theorem readBody_incoming_le (chunk : Nat → Nat) (messageLength totalReceived : Nat)
    (connection : Connection) (socket : Socket) :
    (readBody chunk messageLength totalReceived connection socket).2.2.incoming.length ≤
      socket.incoming.length := by
  have shrinks (length : Nat) (socket : Socket) :
      (socket.recv chunk length).2.incoming.length ≤ socket.incoming.length := by
    obtain ⟨count, -, -, -, read_eq⟩ := recv_eq chunk socket length
    rw [read_eq, List.length_drop]
    omega
  fun_induction readBody chunk messageLength totalReceived connection socket with
  | case1 totalReceived connection socket more read ended => exact shrinks _ socket
  | case2 totalReceived connection socket more read received ih => exact ih.trans (shrinks _ socket)
  | case3 totalReceived connection socket done => exact Nat.le_refl _

/-- The loop of the thread, with the buffer that every message is read into; `handle` is what is made
    of the bytes of a whole one. -/
def Connection.receiveLoop {Item : Type*} (handle : List UInt8 → Option Item) (chunk : Nat → Nat)
    (connection : Connection) (socket : Socket) : List Item :=
  if connection.running then
    match _incoming : socket.incoming with
    | b0 :: b1 :: b2 :: b3 :: rest =>
      let messageLength := (word32 b0 b1 b2 b3).toNat
      if messageLength > maxMessageSize then []
      else
        let read := readBody chunk messageLength 0 connection ⟨rest, socket.reads + 1⟩
        let message :=
          if read.2.1.running && read.1 = messageLength then
            handle (Memory.readAt read.2.1.receiveBuffer 0 read.1)
          else none
        message.toList ++ receiveLoop handle chunk read.2.1 read.2.2
    | _ => []
  else []
termination_by socket.incoming.length
decreasing_by
  have shorter := readBody_incoming_le chunk (word32 b0 b1 b2 b3).toNat 0 connection
    ⟨rest, socket.reads + 1⟩
  rw [_incoming]
  simp only [List.length_cons] at shorter ⊢
  omega

variable {Item : Type*} {handle : List UInt8 → Option Item}

theorem receiveLoop_stopped {chunk : Nat → Nat} {connection : Connection} {socket : Socket}
    (stopped : connection.running = false) : connection.receiveLoop handle chunk socket = [] := by
  rw [Connection.receiveLoop, if_neg (by simp [stopped])]

/-- However the bytes are cut into chunks, the loop takes the frames of the stream. -/
theorem receiveLoop_eq (chunk : Nat → Nat) (receiveBuffer : Nat → UInt8) (socket : Socket) :
    Connection.receiveLoop handle chunk { receiveBuffer := receiveBuffer } socket =
      (parse maxMessageSize socket.incoming).filterMap handle := by
  induction length : socket.incoming.length using Nat.strong_induction_on
    generalizing receiveBuffer socket with
  | _ length ih =>
    subst length
    rw [Connection.receiveLoop, if_pos rfl]
    split
    · rename_i b0 b1 b2 b3 rest incoming
      rw [incoming]
      have limited : next maxMessageSize (b0 :: b1 :: b2 :: b3 :: rest) =
          if (word32 b0 b1 b2 b3).toNat ≤ maxMessageSize ∧
            (word32 b0 b1 b2 b3).toNat ≤ rest.length then
            some (rest.take (word32 b0 b1 b2 b3).toNat, rest.drop (word32 b0 b1 b2 b3).toNat)
          else none := rfl
      have shorter : rest.length < socket.incoming.length := by
        rw [incoming]
        simp only [List.length_cons]
        omega
      generalize (word32 b0 b1 b2 b3).toNat = messageLength at limited ⊢
      by_cases above : messageLength > maxMessageSize
      · rw [if_neg (by omega)] at limited
        rw [if_pos above, parse_none limited, List.filterMap_nil]
      · rw [if_neg above]
        obtain ⟨buffer, reads, whole, short⟩ := @readBody_eq chunk messageLength 0
          { receiveBuffer := receiveBuffer } ⟨rest, socket.reads + 1⟩ rfl (Nat.zero_le _)
        rw [Nat.sub_zero] at whole short
        by_cases enough : messageLength ≤ rest.length
        · obtain ⟨read, held⟩ := whole enough
          have body : Memory.readAt buffer 0 messageLength = rest.take messageLength := held
          have later := ih (rest.drop messageLength).length (by rw [List.length_drop]; omega) buffer
            ⟨rest.drop messageLength, reads⟩ rfl
          rw [if_pos ⟨by omega, enough⟩] at limited
          rw [parse_some limited, List.filterMap_cons, read]
          simp only [body, later, decide_true, Bool.and_self, if_true]
          cases handle (rest.take messageLength) <;> rfl
        · have stopped := short (Nat.lt_of_not_le enough)
          rw [if_neg (by omega)] at limited
          rw [parse_none limited]
          simp only [stopped, receiveLoop_stopped stopped, Bool.false_and]
          rfl
    · rename_i short
      have ended : next maxMessageSize socket.incoming = none := by
        unfold next
        split
        · rename_i incoming
          exact (short _ _ _ _ _ incoming).elim
        · rfl
      rw [parse_none ended, List.filterMap_nil]

/-- The messages that are handed to the callback. -/
def Connection.connectionReceiveThread (chunk : Nat → Nat) (connection : Connection)
    (socket : Socket) : List Message :=
  connection.receiveLoop Message.deserialize chunk socket

/-- However the bytes are cut into chunks, the messages are those of the frames of the stream. -/
theorem receive_eq_parse (chunk : Nat → Nat) (receiveBuffer : Nat → UInt8) (socket : Socket) :
    Connection.connectionReceiveThread chunk { receiveBuffer := receiveBuffer } socket =
      (parse maxMessageSize socket.incoming).filterMap Message.deserialize :=
  receiveLoop_eq chunk receiveBuffer socket

end Msomeip.Transport.TcpTransport
