import Msomeip.Transport.TcpReceive

namespace Msomeip.Transport.TcpTransport

open BigEndian Framing

/-- The operating system's `send`: its result and the bytes it queued; `none` is an error, which
    queues nothing. -/
def send (accepted : Option Nat) (buffer : List UInt8) : Int × List UInt8 :=
  match accepted with
  | none => (-1, [])
  | some count => ((buffer.take count).length, buffer.take count)

/-- A `send_to` call on one connection, with what the two writes of it accept. -/
structure SendTo where
  connected : Bool
  data : List UInt8
  lengthAccepted : Option Nat
  dataAccepted : Option Nat
deriving DecidableEq, Repr

/-- Its result and the bytes it put on the connection. -/
def sendTo (call : SendTo) : Bool × List UInt8 :=
  if call.connected = false then (false, [])
  else
    let (lengthSent, lengthBytes) :=
      send call.lengthAccepted (bytes32 (UInt32.ofNat call.data.length))
    if lengthSent ≠ 4 then (false, lengthBytes)
    else
      let (sent, body) := send call.dataAccepted call.data
      (sent = call.data.length, lengthBytes ++ body)

def stream (calls : List SendTo) : List UInt8 :=
  calls.flatMap fun call => (sendTo call).2

/-- Nothing of the call reaches the connection. -/
def SendTo.Silent (call : SendTo) : Prop :=
  call.connected = false ∨ call.lengthAccepted.getD 0 = 0

/-- Both writes are accepted as a whole. -/
def SendTo.Whole (call : SendTo) : Prop :=
  call.connected = true ∧ 4 ≤ call.lengthAccepted.getD 0 ∧
    call.data.length ≤ call.dataAccepted.getD 0

instance SendTo.decidableSilent (call : SendTo) : Decidable call.Silent :=
  inferInstanceAs (Decidable (_ ∨ _))

instance SendTo.decidableWhole (call : SendTo) : Decidable call.Whole :=
  inferInstanceAs (Decidable (_ ∧ _))

theorem send_queued (accepted : Option Nat) (buffer : List UInt8) :
    (send accepted buffer).2 = buffer.take (accepted.getD 0) := by
  cases accepted <;> simp [send]

theorem send_complete (accepted : Option Nat) {buffer : List UInt8} (nonempty : buffer ≠ []) :
    (send accepted buffer).1 = buffer.length ↔ buffer.length ≤ accepted.getD 0 := by
  have positive := List.length_pos_of_ne_nil nonempty
  cases accepted with
  | none =>
    simp only [send, Option.getD_none]
    omega
  | some count =>
    simp only [send, Option.getD_some, List.length_take]
    omega

theorem sendTo_eq {call : SendTo} (nonempty : call.data ≠ []) :
    sendTo call =
      if call.connected = false then (false, [])
      else if 4 ≤ call.lengthAccepted.getD 0 then
        (call.data.length ≤ call.dataAccepted.getD 0,
          bytes32 (UInt32.ofNat call.data.length) ++ call.data.take (call.dataAccepted.getD 0))
      else
        (false, (bytes32 (UInt32.ofNat call.data.length)).take (call.lengthAccepted.getD 0)) := by
  rw [sendTo]
  generalize bufferEq : bytes32 (UInt32.ofNat call.data.length) = buffer
  have four : buffer.length = 4 := by rw [← bufferEq, bytes32_length]
  have filled : buffer ≠ [] := List.ne_nil_of_length_pos (by omega)
  have complete := send_complete call.lengthAccepted filled
  have bodyComplete := send_complete call.dataAccepted nonempty
  rw [four] at complete
  by_cases connected : call.connected = false
  · rw [if_pos connected, if_pos connected]
  · rw [if_neg connected, if_neg connected]
    by_cases enough : 4 ≤ call.lengthAccepted.getD 0
    · have all : (send call.lengthAccepted buffer).1 = 4 := complete.mpr enough
      have kept : buffer.take (call.lengthAccepted.getD 0) = buffer :=
        List.take_of_length_le (by omega)
      rw [if_pos enough]
      simp only [all, ne_eq, not_true_eq_false, if_false, send_queued, kept, bodyComplete]
    · have failed : (send call.lengthAccepted buffer).1 ≠ 4 := fun all => enough (complete.mp all)
      rw [if_neg enough]
      simp only [failed, ne_eq, not_false_eq_true, if_true, send_queued]

theorem sendTo_silent {call : SendTo} (silent : call.Silent) (nonempty : call.data ≠ []) :
    sendTo call = (false, []) := by
  rw [sendTo_eq nonempty]
  by_cases connected : call.connected = false
  · rw [if_pos connected]
  · have nothing := silent.resolve_left connected
    rw [if_neg connected, nothing, if_neg (by decide), List.take_zero]

theorem sendTo_whole {call : SendTo} (whole : call.Whole) (nonempty : call.data ≠ []) :
    sendTo call = (true, encode call.data) := by
  obtain ⟨connected, counted, complete⟩ := whole
  have open' : ¬ call.connected = false := by simp [connected]
  rw [sendTo_eq nonempty, if_neg open', if_pos counted, List.take_of_length_le complete, encode]
  simp only [complete, decide_true]

theorem sendTo_heard {call : SendTo} (heard : ¬ call.Silent) (nonempty : call.data ≠ []) :
    (sendTo call).2 ≠ [] := by
  obtain ⟨connected, accepted⟩ := not_or.mp heard
  apply List.ne_nil_of_length_pos
  rw [sendTo_eq nonempty, if_neg connected]
  split
  · rw [List.length_append, bytes32_length]
    omega
  · rw [List.length_take, bytes32_length]
    omega

/-- Otherwise the call fails and puts a proper part of its frame on the connection. -/
theorem sendTo_torn {call : SendTo} (torn : ¬ call.Whole) (nonempty : call.data ≠ []) :
    (sendTo call).1 = false ∧ (sendTo call).2 <+: encode call.data ∧
      (sendTo call).2.length < (encode call.data).length := by
  have positive := List.length_pos_of_ne_nil nonempty
  rw [sendTo_eq nonempty, encode_length]
  by_cases connected : call.connected = false
  · rw [if_pos connected]
    refine ⟨rfl, List.nil_prefix, ?_⟩
    simp only [List.length_nil]
    omega
  · rw [if_neg connected]
    by_cases counted : 4 ≤ call.lengthAccepted.getD 0
    · have partly : ¬ call.data.length ≤ call.dataAccepted.getD 0 := fun complete =>
        torn ⟨by simpa using connected, counted, complete⟩
      rw [if_pos counted]
      refine ⟨by simp only [partly, decide_false], ?_, ?_⟩
      · rw [encode, List.prefix_append_right_inj]
        exact List.take_prefix _ _
      · rw [List.length_append, bytes32_length, List.length_take]
        omega
    · rw [if_neg counted]
      refine ⟨rfl, (List.take_prefix _ _).trans (List.prefix_append _ _), ?_⟩
      simp only [List.length_take, bytes32_length]
      omega

/-- What the calls that returned true were given. -/
def delivered (calls : List SendTo) : List (List UInt8) :=
  (calls.filter fun call => (sendTo call).1).map SendTo.data

theorem stream_append (front back : List SendTo) :
    stream (front ++ back) = stream front ++ stream back := List.flatMap_append

theorem delivered_append (front back : List SendTo) :
    delivered (front ++ back) = delivered front ++ delivered back := by
  simp [delivered]

theorem stream_delivered_silent {calls : List SendTo} (silent : ∀ call ∈ calls, call.Silent)
    (nonempty : ∀ call ∈ calls, call.data ≠ []) : stream calls = [] ∧ delivered calls = [] := by
  have nothing : ∀ call ∈ calls, sendTo call = (false, []) := fun call member =>
    sendTo_silent (silent call member) (nonempty call member)
  constructor
  · rw [stream, List.flatMap_eq_nil_iff]
    intro call member
    rw [nothing call member]
  · rw [delivered, List.map_eq_nil_iff, List.filter_eq_nil_iff]
    intro call member
    simp only [nothing call member, Bool.false_eq_true, not_false_eq_true]

def Sized (calls : List SendTo) : Prop :=
  ∀ call ∈ calls, call.data ≠ [] ∧ call.data.length ≤ maxMessageSize

instance decidableSized (calls : List SendTo) : Decidable (Sized calls) :=
  inferInstanceAs (Decidable (∀ call ∈ calls, _))

/-- Calls that are whole or silent leave the peer at the start of a frame. -/
theorem parse_stream_append {calls : List SendTo} (sized : Sized calls)
    (clean : ∀ call ∈ calls, call.Whole ∨ call.Silent) (rest : List UInt8) :
    parse maxMessageSize (stream calls ++ rest) = delivered calls ++ parse maxMessageSize rest := by
  induction calls with
  | nil => rfl
  | cons call calls ih =>
    obtain ⟨first, later⟩ := List.forall_mem_cons.mp clean
    obtain ⟨⟨nonempty, fits⟩, sizedLater⟩ := List.forall_mem_cons.mp sized
    have tail := ih sizedLater later
    have streamed : stream (call :: calls) = (sendTo call).2 ++ stream calls := List.flatMap_cons
    rw [streamed, List.append_assoc]
    rcases first with whole | silent
    · have sent := sendTo_whole whole nonempty
      rw [sent, parse_encode (by decide) fits, tail]
      simp [delivered, sent]
    · have sent := sendTo_silent silent nonempty
      rw [sent, List.nil_append, tail]
      simp [delivered, sent]

theorem frames_of_unbroken {calls : List SendTo} (sized : Sized calls)
    (unbroken : calls.Pairwise fun earlier later =>
      earlier.Whole ∨ earlier.Silent ∨ later.Silent) :
    parse maxMessageSize (stream calls) = delivered calls := by
  induction calls with
  | nil => exact parse_none rfl
  | cons call rest ih =>
    obtain ⟨first, later⟩ := List.pairwise_cons.mp unbroken
    obtain ⟨⟨nonempty, fits⟩, sizedRest⟩ := List.forall_mem_cons.mp sized
    have split : call :: rest = [call] ++ rest := rfl
    rw [split, stream_append, delivered_append]
    by_cases clean : call.Whole ∨ call.Silent
    · have alone : Sized [call] := List.forall_mem_singleton.mpr ⟨nonempty, fits⟩
      rw [parse_stream_append alone (List.forall_mem_singleton.mpr clean), ih sizedRest later]
    · obtain ⟨cut, heard⟩ := not_or.mp clean
      have quiet : ∀ other ∈ rest, other.Silent := fun other member =>
        ((first other member).resolve_left cut).resolve_left heard
      obtain ⟨noBytes, noFrames⟩ :=
        stream_delivered_silent quiet fun other member => (sizedRest other member).1
      obtain ⟨failed, part, torn⟩ := sendTo_torn cut nonempty
      have small : call.data.length < 2 ^ 32 := Nat.lt_of_le_of_lt fits (by decide)
      have streamed : stream [call] = (sendTo call).2 := List.append_nil _
      have nothing : delivered [call] = [] := by simp [delivered, failed]
      rw [streamed, nothing, noBytes, noFrames, List.append_nil]
      exact parse_torn small part torn

/-- Once a call has been cut off, the next whole one is misread, unless its length is one of the
    two that the peer may take for it. -/
theorem frames_of_broken {before quiet after : List SendTo} {torn call : SendTo}
    (sized : Sized (before ++ torn :: (quiet ++ call :: after)))
    (clean : ∀ other ∈ before, other.Whole ∨ other.Silent) (cut : ¬ torn.Whole)
    (heard : ¬ torn.Silent) (silent : ∀ other ∈ quiet, other.Silent) (whole : call.Whole)
    (differs : call.data.length ≠ torn.data.length)
    (shifted : call.data.length ≠ torn.data.length / 256 * 256) :
    parse maxMessageSize (stream (before ++ torn :: (quiet ++ call :: after))) ≠
      delivered (before ++ torn :: (quiet ++ call :: after)) := by
  intro claimed
  obtain ⟨sizedBefore, sizedTorn⟩ := List.forall_mem_append.mp sized
  obtain ⟨⟨tornNonempty, tornFits⟩, sizedQuiet⟩ := List.forall_mem_cons.mp sizedTorn
  obtain ⟨sizedQuiet, sizedCall⟩ := List.forall_mem_append.mp sizedQuiet
  obtain ⟨⟨nonempty, fits⟩, -⟩ := List.forall_mem_cons.mp sizedCall
  obtain ⟨noBytes, noFrames⟩ :=
    stream_delivered_silent silent fun other member => (sizedQuiet other member).1
  obtain ⟨failed, part, -⟩ := sendTo_torn cut tornNonempty
  have sent := sendTo_whole whole nonempty
  have streamed : stream (torn :: (quiet ++ call :: after)) =
      (sendTo torn).2 ++ (encode call.data ++ stream after) := by
    rw [stream, List.flatMap_cons, List.flatMap_append, List.flatMap_cons, sent]
    rw [stream] at noBytes
    rw [noBytes]
    rfl
  have handed : delivered (torn :: (quiet ++ call :: after)) = call.data :: delivered after := by
    have tail : delivered (call :: after) = call.data :: delivered after := by
      simp [delivered, sent]
    have split : torn :: (quiet ++ call :: after) = [torn] ++ (quiet ++ call :: after) := rfl
    rw [split, delivered_append, delivered_append, noFrames, tail]
    simp [delivered, failed]
  rw [stream_append, delivered_append, parse_stream_append sizedBefore clean, streamed,
    handed] at claimed
  have read := declared_of_parse (List.append_cancel_left claimed)
  have possible := declared_torn (stream after) (Nat.lt_of_le_of_lt tornFits (by decide))
    (Nat.lt_of_le_of_lt fits (by decide)) part (sendTo_heard heard tornNonempty)
  have positive := List.length_pos_of_ne_nil nonempty
  rw [read] at possible
  simp only [List.mem_cons, Option.some.injEq, List.not_mem_nil, or_false] at possible
  omega

/-- The bytes that the peer's receive thread takes for messages. -/
def receivedFrames (chunk : Nat → Nat) (receiveBuffer : Nat → UInt8) (incoming : List UInt8) :
    List (List UInt8) :=
  Connection.receiveLoop some chunk { receiveBuffer := receiveBuffer } { incoming := incoming }

theorem receivedFrames_eq (chunk : Nat → Nat) (receiveBuffer : Nat → UInt8)
    (incoming : List UInt8) :
    receivedFrames chunk receiveBuffer incoming = parse maxMessageSize incoming := by
  rw [receivedFrames, receiveLoop_eq, List.filterMap_some]

/-- However the bytes arrive, the peer reads what was sent if nothing follows a call that is cut
    off, and does not where a whole call of another length follows one. -/
theorem frames_delivered (chunk : Nat → Nat) (receiveBuffer : Nat → UInt8) (calls : List SendTo)
    (sized : Sized calls) :
    ((calls.Pairwise fun earlier later => earlier.Whole ∨ earlier.Silent ∨ later.Silent) →
      receivedFrames chunk receiveBuffer (stream calls) = delivered calls) ∧
    ∀ before torn quiet call after, calls = before ++ torn :: (quiet ++ call :: after) →
      (∀ other ∈ before, other.Whole ∨ other.Silent) → ¬ torn.Whole → ¬ torn.Silent →
      (∀ other ∈ quiet, other.Silent) → call.Whole → call.data.length ≠ torn.data.length →
      call.data.length ≠ torn.data.length / 256 * 256 →
      receivedFrames chunk receiveBuffer (stream calls) ≠ delivered calls := by
  rw [receivedFrames_eq]
  constructor
  · exact frames_of_unbroken sized
  · intro before torn quiet call after same clean cut heard silent whole differs shifted
    subst same
    exact frames_of_broken sized clean cut heard silent whole differs shifted

/-- The last call of three is cut off in its data, after one that could not queue its length. -/
theorem lastTorn_delivered :
    receivedFrames (fun _ => 1) (fun _ => 0) (stream
      [⟨true, [7, 8], some 4, some 2⟩, ⟨true, [9], none, none⟩, ⟨true, [5, 6], some 4, some 1⟩]) =
        [[7, 8]] := by
  have read := (frames_delivered (fun _ => 1) (fun _ => 0)
    [⟨true, [7, 8], some 4, some 2⟩, ⟨true, [9], none, none⟩, ⟨true, [5, 6], some 4, some 1⟩]
    (by decide)).1 (by decide)
  rw [read]
  decide

/-- A call queues its length and then fails; the next one succeeds, and the peer reads a byte of
    its length as the data of the first. -/
theorem tornFrame_misread : ¬ ∀ (chunk : Nat → Nat) (receiveBuffer : Nat → UInt8)
    (calls : List SendTo), Sized calls →
      receivedFrames chunk receiveBuffer (stream calls) = delivered calls := by
  intro framing
  have claimed := framing (fun _ => 1) (fun _ => 0)
    [⟨true, [1], some 4, none⟩, ⟨true, [2, 3], some 4, some 2⟩] (by decide)
  have first : next maxMessageSize
      (stream [⟨true, [1], some 4, none⟩, ⟨true, [2, 3], some 4, some 2⟩]) =
        some ([0], [0, 0, 2, 2, 3]) := by decide
  have last : next maxMessageSize [0, 0, 2, 2, 3] = none := by decide
  rw [receivedFrames_eq, parse_some first, parse_none last] at claimed
  exact absurd claimed (by decide)

end Msomeip.Transport.TcpTransport
