import Msomeip.Message.Message

namespace Msomeip.Message

open BigEndian

/-- What is left of a message behind the wire: the instance id and the transport flag do not
    travel. -/
def received (message : Message) : Message :=
  { message with instanceId := 0xFFFF, reliable := false, payload := some (.ofData message.payloadData) }

@[simp] theorem payloadData_setPayload (message : Message) (data : PayloadData) :
    (message.setPayload data).payloadData = data := rfl

@[simp] theorem payloadData_received (message : Message) :
    message.received.payloadData = message.payloadData := rfl

theorem getLength_toNat (message : Message) :
    message.getLength.toNat = message.payloadData.length % 2 ^ 32 := by
  unfold getLength payloadData
  cases message.payload <;> simp [Payload.size]

theorem serialize_length (message : Message) :
    message.serialize.length = headerSize + message.payloadData.length := by
  simp only [serialize, headerSize, List.length_append, bytes16_length, bytes32_length,
    List.length_cons, List.length_nil]

theorem deserialize_serialize_append (message : Message) (tail : List UInt8) :
    deserialize (message.serialize ++ tail) =
      if message.protocolVersion = someipProtocolVersion ∧
        message.payloadData.length % 2 ^ 32 ≤ (message.payloadData ++ tail).length
      then some (message.received.setPayload
        ((message.payloadData ++ tail).take (message.payloadData.length % 2 ^ 32)))
      else none := by
  have count := getLength_toNat message
  simp only [serialize, bytes16, bytes32, List.cons_append, List.nil_append,
    deserialize, word16_bytes, word32_bytes, count, headerSize]
  generalize message.payloadData.length % 2 ^ 32 = declared at count ⊢
  by_cases version : message.protocolVersion = someipProtocolVersion
  · by_cases fits : declared ≤ (message.payloadData ++ tail).length
    · have enough : ¬ 16 + (message.payloadData ++ tail).length < 16 + declared := by omega
      simp only [version, ne_eq, not_true_eq_false, if_false, enough, fits, and_self, if_true]
      by_cases positive : message.getLength > 0
      · simp [positive, setPayload, received, version]
      · have zero : message.getLength = 0 := by simpa using positive
        have none : declared = 0 := by rw [← count, zero]; rfl
        simp [zero, none, setPayload, received, Payload.ofData, version]
    · have short : 16 + (message.payloadData ++ tail).length < 16 + declared := by omega
      simp only [version, ne_eq, not_true_eq_false, if_false, short, if_true, fits, and_false]
  · simp [version]

theorem deserialize_serialize (message : Message)
    (version : message.protocolVersion = someipProtocolVersion)
    (bound : message.payloadData.length < 2 ^ 32) :
    deserialize message.serialize = some message.received := by
  have parsed := deserialize_serialize_append message []
  rw [Nat.mod_eq_of_lt bound] at parsed
  simpa [version, setPayload, received] using parsed

/-- The header fields survive the wire even where the length field wraps. -/
theorem deserialize_serialize_header {message delivered : Message}
    (parsed : deserialize message.serialize = some delivered) :
    ∃ data, delivered = message.received.setPayload data := by
  have general := deserialize_serialize_append message []
  rw [List.append_nil, parsed] at general
  split at general
  · exact ⟨_, Option.some.inj general⟩
  · cases general

/-- The number in bytes 4 to 7. -/
def declaredLength (bytes : List UInt8) : Nat := number ((bytes.drop 4).take 4)

/-- Everything that travels: the header fields but the length, and the payload's bytes. -/
structure SameWire (first second : Message) : Prop where
  serviceId : first.serviceId = second.serviceId
  methodId : first.methodId = second.methodId
  clientId : first.clientId = second.clientId
  sessionId : first.sessionId = second.sessionId
  protocolVersion : first.protocolVersion = second.protocolVersion
  interfaceVersion : first.interfaceVersion = second.interfaceVersion
  messageType : first.messageType = second.messageType
  returnCode : first.returnCode = second.returnCode
  payload : first.payloadData = second.payloadData

theorem sameWire_received (message : Message) : SameWire message.received message :=
  ⟨rfl, rfl, rfl, rfl, rfl, rfl, rfl, rfl, rfl⟩

theorem exists_header : ∀ {bytes : List UInt8}, 16 ≤ bytes.length →
    ∃ d0 d1 d2 d3 d4 d5 d6 d7 d8 d9 d10 d11 d12 d13 d14 d15 rest, bytes =
      d0 :: d1 :: d2 :: d3 :: d4 :: d5 :: d6 :: d7 :: d8 :: d9 :: d10 :: d11 :: d12 :: d13 ::
        d14 :: d15 :: rest
  | d0 :: d1 :: d2 :: d3 :: d4 :: d5 :: d6 :: d7 :: d8 :: d9 :: d10 :: d11 :: d12 :: d13 ::
      d14 :: d15 :: rest, _ =>
    ⟨d0, d1, d2, d3, d4, d5, d6, d7, d8, d9, d10, d11, d12, d13, d14, d15, rest, rfl⟩

theorem deserialize_short {bytes : List UInt8} (short : bytes.length < headerSize) :
    deserialize bytes = none := by
  unfold deserialize
  split
  · simp only [List.length_cons, headerSize] at short
    omega
  · rfl

section Header

variable (d0 d1 d2 d3 d4 d5 d6 d7 d8 d9 d10 d11 d12 d13 d14 d15 : UInt8) (rest : List UInt8)

/-- The message that the sixteen bytes of a header and the payload behind them stand for. -/
def ofHeader : Message :=
  { serviceId := word16 d0 d1, methodId := word16 d2 d3,
    clientId := word16 d8 d9, sessionId := word16 d10 d11,
    protocolVersion := d12, interfaceVersion := d13,
    messageType := ⟨d14⟩, returnCode := ⟨d15⟩,
    payload := some (.ofData (rest.take (word32 d4 d5 d6 d7).toNat)) }

theorem deserialize_header :
    deserialize (d0 :: d1 :: d2 :: d3 :: d4 :: d5 :: d6 :: d7 :: d8 :: d9 :: d10 :: d11 :: d12 ::
      d13 :: d14 :: d15 :: rest) =
      if d12 = someipProtocolVersion ∧ (word32 d4 d5 d6 d7).toNat ≤ rest.length then
        some (ofHeader d0 d1 d2 d3 d4 d5 d6 d7 d8 d9 d10 d11 d12 d13 d14 d15 rest)
      else none := by
  rw [deserialize]
  set declared := word32 d4 d5 d6 d7 with declaredEq
  by_cases version : d12 = someipProtocolVersion
  · by_cases fits : declared.toNat ≤ rest.length
    · have enough : ¬ headerSize + rest.length < headerSize + declared.toNat := by omega
      have accepted : d12 = someipProtocolVersion ∧ declared.toNat ≤ rest.length := ⟨version, fits⟩
      rw [if_neg (not_not_intro version), if_neg enough, if_pos accepted]
      by_cases positive : declared > 0
      · rw [if_pos positive]
        rfl
      · have zero : declared = 0 := by simpa using positive
        rw [if_neg positive, ofHeader, ← declaredEq, zero]
        rfl
    · have short : headerSize + rest.length < headerSize + declared.toNat := by omega
      rw [if_neg (not_not_intro version), if_pos short, if_neg (fun both => fits both.2)]
  · rw [if_pos version, if_neg (fun both => version both.1)]

theorem declaredLength_header :
    declaredLength (d0 :: d1 :: d2 :: d3 :: d4 :: d5 :: d6 :: d7 :: d8 :: d9 :: d10 :: d11 ::
      d12 :: d13 :: d14 :: d15 :: rest) = (word32 d4 d5 d6 d7).toNat :=
  (word32_number d4 d5 d6 d7).symm

theorem serialize_ofHeader (fits : (word32 d4 d5 d6 d7).toNat ≤ rest.length) :
    (ofHeader d0 d1 d2 d3 d4 d5 d6 d7 d8 d9 d10 d11 d12 d13 d14 d15 rest).serialize =
      d0 :: d1 :: d2 :: d3 :: d4 :: d5 :: d6 :: d7 :: d8 :: d9 :: d10 :: d11 :: d12 :: d13 ::
        d14 :: d15 :: rest.take (word32 d4 d5 d6 d7).toNat := by
  have length : (ofHeader d0 d1 d2 d3 d4 d5 d6 d7 d8 d9 d10 d11 d12 d13 d14 d15 rest).getLength =
      word32 d4 d5 d6 d7 := by
    simp only [getLength, ofHeader, Payload.size_ofData, List.length_take_of_le fits,
      UInt32.ofNat_toNat]
  rw [serialize, length]
  simp only [ofHeader, payloadData, Payload.data_ofData, bytes16_word, bytes32_word,
    List.cons_append, List.nil_append]

end Header

/-- Exactly which bytes are a message. -/
theorem deserialize_isSome (bytes : List UInt8) :
    (deserialize bytes).isSome ↔ headerSize ≤ bytes.length ∧
      bytes[12]? = some someipProtocolVersion ∧
      headerSize + declaredLength bytes ≤ bytes.length := by
  by_cases enough : headerSize ≤ bytes.length
  · obtain ⟨d0, d1, d2, d3, d4, d5, d6, d7, d8, d9, d10, d11, d12, d13, d14, d15, rest, rfl⟩ :=
      exists_header enough
    have length : (d0 :: d1 :: d2 :: d3 :: d4 :: d5 :: d6 :: d7 :: d8 :: d9 :: d10 :: d11 ::
        d12 :: d13 :: d14 :: d15 :: rest).length = headerSize + rest.length := by
      simp only [List.length_cons, headerSize]
      omega
    rw [deserialize_header, declaredLength_header, length, Nat.add_le_add_iff_left,
      Option.isSome_ite]
    simp
  · rw [deserialize_short (Nat.lt_of_not_le enough)]
    simp [enough]

theorem serialize_deserialize {bytes : List UInt8} {message : Message}
    (parsed : deserialize bytes = some message) :
    message.serialize = bytes.take (headerSize + declaredLength bytes) := by
  have accepted : (deserialize bytes).isSome := by rw [parsed]; rfl
  obtain ⟨enough, -, -⟩ := (deserialize_isSome bytes).mp accepted
  obtain ⟨d0, d1, d2, d3, d4, d5, d6, d7, d8, d9, d10, d11, d12, d13, d14, d15, rest, rfl⟩ :=
    exists_header enough
  rw [deserialize_header] at parsed
  split at parsed
  · rename_i fits
    obtain rfl := Option.some.inj parsed
    rw [serialize_ofHeader _ _ _ _ _ _ _ _ _ _ _ _ _ _ _ _ _ fits.2, declaredLength_header,
      headerSize, Nat.add_comm]
    rfl
  · cases parsed

/-- What is accepted, what is written back, and what is read of a message that was written. -/
theorem codec (bytes : List UInt8) (message : Message) (tail : List UInt8) :
    ((deserialize bytes).isSome ↔ headerSize ≤ bytes.length ∧
      bytes[12]? = some someipProtocolVersion ∧
      headerSize + declaredLength bytes ≤ bytes.length) ∧
    (∀ accepted, deserialize bytes = some accepted →
      accepted.serialize = bytes.take (headerSize + declaredLength bytes)) ∧
    (message.protocolVersion = someipProtocolVersion → message.payloadData.length < 2 ^ 32 →
      (∃ result, deserialize (message.serialize ++ tail) = some result ∧
        SameWire result message) ∧
      message.serialize.length = message.getSize) := by
  refine ⟨deserialize_isSome bytes, fun _ => serialize_deserialize, ?_⟩
  intro version small
  have declared : message.payloadData.length % 2 ^ 32 = message.payloadData.length :=
    Nat.mod_eq_of_lt small
  have parsed := deserialize_serialize_append message tail
  rw [declared, List.take_left, if_pos ⟨version, by simp⟩] at parsed
  refine ⟨⟨_, parsed, sameWire_received message⟩, ?_⟩
  rw [serialize_length, getSize, getLength_toNat, declared]

theorem codec_threeBytes :
    let message : Message := { serviceId := 0x1234, payload := some (.ofData [1, 2, 3]) }
    (∃ result, deserialize (message.serialize ++ [0xFF]) = some result ∧
      SameWire result message) ∧ message.serialize.length = message.getSize :=
  (codec [] { serviceId := 0x1234, payload := some (.ofData [1, 2, 3]) } [0xFF]).2.2 rfl (by decide)

end Msomeip.Message
