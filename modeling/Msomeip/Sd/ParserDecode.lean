import Msomeip.Sd.Parser

namespace Msomeip.Sd

open BigEndian

def entryTypes : List SdEntryType :=
  [.findService, .offerService, .subscribeEventgroup, .subscribeEventgroupAck]

/-- The documented message format, with whatever follows the options array. -/
def encodeSdPayload (flags reserved0 reserved1 reserved2 : UInt8) (entries : List ServiceEntry)
    (options : List SdOption) (trailing : PayloadData) : PayloadData :=
  [flags, reserved0, reserved1, reserved2] ++
    bytes32 (UInt32.ofNat (ServiceEntry.entrySize * entries.length)) ++
    entries.flatMap ServiceEntry.serialize ++
    bytes32 (UInt32.ofNat (SdOption.optionSize * options.length)) ++
    options.flatMap SdOption.serialize ++ trailing

/-- The call is one of the handler for the type of the entry, with the entry as it is on the wire
    and, where the handler takes options, with these options. -/
def HandlerCall.Serves (options : List SdOption) (entry : ServiceEntry) : HandlerCall → Prop
  | .findService received => entry.type = .findService ∧ received = entry.received
  | .offerService received parsed =>
    entry.type = .offerService ∧ received = entry.received ∧ parsed = options
  | .subscribeEventgroup received parsed =>
    entry.type = .subscribeEventgroup ∧ received = entry.received ∧ parsed = options
  | .subscribeEventgroupAck received =>
    entry.type = .subscribeEventgroupAck ∧ received = entry.received

theorem flatMap_length {α : Type} {serialize : α → List UInt8} {size : Nat}
    (fixed : ∀ element, (serialize element).length = size) (elements : List α) :
    (elements.flatMap serialize).length = size * elements.length := by
  simp [List.length_flatMap, fixed, Nat.mul_comm]

theorem parseEntries_val {memory : Nat → UInt8} {size : Nat} {entries : List ServiceEntry}
    {offset : Nat} (fits : ∀ entry ∈ entries, entry.Fits)
    (stands : Tracked.Holds memory offset (entries.flatMap ServiceEntry.serialize))
    (room : offset + ServiceEntry.entrySize * entries.length ≤ size) :
    (parseEntries memory size (offset + ServiceEntry.entrySize * entries.length) offset).val =
      entries.map ServiceEntry.received := by
  induction entries generalizing offset with
  | nil =>
    rw [parseEntries, if_neg (by unfold ServiceEntry.entrySize; simp)]
    rfl
  | cons entry entries ih =>
    simp only [List.flatMap_cons, Tracked.holds_append, ServiceEntry.serialize_length] at stands
    have next : offset + ServiceEntry.entrySize * (entry :: entries).length =
        offset + ServiceEntry.entrySize + ServiceEntry.entrySize * entries.length := by
      rw [List.length_cons, Nat.mul_succ]
      omega
    rw [next] at room ⊢
    have parsed := ServiceEntry.deserialize_serialize (fits entry (by simp)) stands.1
      (show ServiceEntry.entrySize ≤ offset + ServiceEntry.entrySize +
        ServiceEntry.entrySize * entries.length - offset by omega)
    rw [parseEntries, if_pos (by omega)]
    simp only [Tracked.val_bind, Tracked.val_pure, parsed,
      ih (fun other member => fits other (by simp [member])) stands.2 room]
    rfl

theorem parseOptions_cons {memory : Nat → UInt8} {size optionsEnd offset : Nat} {option : SdOption}
    (stands : Tracked.Holds memory offset option.serialize)
    (inside : offset + SdOption.optionSize ≤ optionsEnd)
    (room : offset + SdOption.optionSize ≤ size) :
    (parseOptions memory size optionsEnd offset).val =
      option :: (parseOptions memory size optionsEnd (offset + SdOption.optionSize)).val := by
  have positive : 0 < SdOption.optionSize := by decide
  have parsed := SdOption.deserialize_serialize stands
    (show SdOption.optionSize ≤ optionsEnd - offset by omega)
  rw [parseOptions, if_pos (by omega)]
  simp only [Tracked.val_bind, Tracked.val_pure, parsed, SdOption.getSize_eq]

theorem parseOptions_val {memory : Nat → UInt8} {size : Nat} {options : List SdOption}
    {offset : Nat} (stands : Tracked.Holds memory offset (options.flatMap SdOption.serialize))
    (room : offset + SdOption.optionSize * options.length ≤ size) :
    (parseOptions memory size (offset + SdOption.optionSize * options.length) offset).val =
      options := by
  induction options generalizing offset with
  | nil =>
    rw [parseOptions, if_neg (by simp)]
    rfl
  | cons option options ih =>
    simp only [List.flatMap_cons, Tracked.holds_append, SdOption.serialize_length] at stands
    have next : offset + SdOption.optionSize * (option :: options).length =
        offset + SdOption.optionSize + SdOption.optionSize * options.length := by
      rw [List.length_cons, Nat.mul_succ]
      omega
    rw [next] at room ⊢
    rw [parseOptions_cons stands.1 (by omega) (by omega), ih stands.2 room]

theorem handlerCall_serves {entry : ServiceEntry} (options : List SdOption)
    (typed : entry.type ∈ entryTypes) :
    ∃ call, handlerCall options entry.received = some call ∧ call.Serves options entry := by
  simp only [entryTypes, List.mem_cons, List.not_mem_nil, or_false] at typed
  have same : entry.received.type = entry.type := rfl
  rcases typed with type | type | type | type
  all_goals
    rw [handlerCall, same, type]
    exact ⟨_, rfl, type, by simp⟩

theorem dispatch_serves {entries : List ServiceEntry} (options : List SdOption)
    (typed : ∀ entry ∈ entries, entry.type ∈ entryTypes) :
    List.Forall₂ (fun entry call => call.Serves options entry) entries
      ((entries.map ServiceEntry.received).filterMap (handlerCall options)) := by
  induction entries with
  | nil => exact .nil
  | cons entry entries ih =>
    obtain ⟨call, found, serves⟩ := handlerCall_serves options (typed entry (by simp))
    rw [List.map_cons, List.filterMap_cons_some found]
    exact .cons serves (ih fun other member => typed other (by simp [member]))

/-- The documented sections, around the bytes of an options array. -/
def encodeSections (flags reserved0 reserved1 reserved2 : UInt8) (entries : List ServiceEntry)
    (optionBytes trailing : PayloadData) : PayloadData :=
  [flags, reserved0, reserved1, reserved2] ++
    bytes32 (UInt32.ofNat (ServiceEntry.entrySize * entries.length)) ++
    entries.flatMap ServiceEntry.serialize ++
    bytes32 (UInt32.ofNat optionBytes.length) ++ optionBytes ++ trailing

/-- Each entry is handled with what is parsed from the options array. -/
theorem parse_sections (flags reserved0 reserved1 reserved2 : UInt8)
    {entries : List ServiceEntry} {optionBytes : PayloadData} (trailing : PayloadData)
    (fits : ∀ entry ∈ entries, entry.Fits)
    (entriesRoom : ServiceEntry.entrySize * entries.length < 2 ^ 32)
    (optionsRoom : optionBytes.length < 2 ^ 32) {options : List SdOption}
    (decodes : ∀ memory size offset, Tracked.Holds memory offset optionBytes →
      offset + optionBytes.length ≤ size →
      (parseOptions memory size (offset + optionBytes.length) offset).val = options)
    {message : Message} (carries : message.payload = some (.ofData
      (encodeSections flags reserved0 reserved1 reserved2 entries optionBytes trailing)))
    (beyond : Nat → UInt8) :
    (parseSdMessage message beyond).val =
      (entries.map ServiceEntry.received).filterMap (handlerCall options) := by
  have entriesLength : (UInt32.ofNat (ServiceEntry.entrySize * entries.length)).toNat =
      ServiceEntry.entrySize * entries.length := UInt32.toNat_ofNat_of_lt' entriesRoom
  have optionsLength : (UInt32.ofNat optionBytes.length).toNat = optionBytes.length :=
    UInt32.toNat_ofNat_of_lt' optionsRoom
  have entriesSize := flatMap_length ServiceEntry.serialize_length entries
  set payload := encodeSections flags reserved0 reserved1 reserved2 entries optionBytes trailing
    with encoded
  have size : payload.length = 4 + 4 + ServiceEntry.entrySize * entries.length + 4 +
      optionBytes.length + trailing.length := by
    simp only [encoded, encodeSections, List.length_append, bytes32_length, entriesSize,
      List.length_cons, List.length_nil]
  have stands := Tracked.buffer_holds payload beyond
  rw [encoded, encodeSections] at stands
  simp only [Tracked.holds_append, List.length_append, bytes32_length, entriesSize,
    List.length_cons, List.length_nil] at stands
  rw [← encodeSections, ← encoded] at stands
  obtain ⟨⟨⟨⟨⟨-, entriesWord⟩, entriesBytes⟩, optionsWord⟩, optionsBytes⟩, -⟩ := stands
  simp only [Nat.zero_add, Nat.reduceAdd] at entriesWord entriesBytes optionsWord optionsBytes size
  have parsedEntries := parseEntries_val fits entriesBytes
    (show 8 + ServiceEntry.entrySize * entries.length ≤ payload.length by omega)
  have parsedOptions := decodes _ payload.length _ optionsBytes (by omega)
  have long : ¬ payload.length < 12 := by omega
  have room : ¬ 8 + ServiceEntry.entrySize * entries.length + 4 > payload.length := by omega
  simp only [parseSdMessage, carries, Payload.size_ofData, Payload.data_ofData, long, if_false,
    Tracked.val_bind, readWord32_of_holds entriesWord, entriesLength, sdHeaderSize, room,
    parsedEntries, readWord32_of_holds optionsWord, optionsLength, parsedOptions,
    Tracked.val_pure]

/-- Decoding undoes the documented format. -/
theorem parse_encoded (flags reserved0 reserved1 reserved2 : UInt8)
    {entries : List ServiceEntry} {options : List SdOption} (trailing : PayloadData)
    (typed : ∀ entry ∈ entries, entry.type ∈ entryTypes)
    (fits : ∀ entry ∈ entries, entry.Fits)
    (entriesRoom : ServiceEntry.entrySize * entries.length < 2 ^ 32)
    (optionsRoom : SdOption.optionSize * options.length < 2 ^ 32)
    {message : Message} (carries : message.payload = some (.ofData
      (encodeSdPayload flags reserved0 reserved1 reserved2 entries options trailing)))
    (beyond : Nat → UInt8) :
    List.Forall₂ (fun entry call => call.Serves options entry) entries
      (parseSdMessage message beyond).val := by
  have optionsSize := flatMap_length SdOption.serialize_length options
  have sections : encodeSdPayload flags reserved0 reserved1 reserved2 entries options trailing =
      encodeSections flags reserved0 reserved1 reserved2 entries
        (options.flatMap SdOption.serialize) trailing := by
    rw [encodeSdPayload, encodeSections, optionsSize]
  rw [sections] at carries
  have decodes : ∀ memory size offset,
      Tracked.Holds memory offset (options.flatMap SdOption.serialize) →
      offset + (options.flatMap SdOption.serialize).length ≤ size →
      (parseOptions memory size (offset + (options.flatMap SdOption.serialize).length) offset).val =
        options := by
    rw [optionsSize]
    exact fun memory size offset stands room => parseOptions_val stands room
  rw [parse_sections flags reserved0 reserved1 reserved2 trailing fits entriesRoom
    (optionsSize ▸ optionsRoom) decodes carries beyond]
  exact dispatch_serves options typed

def offerEntry : ServiceEntry :=
  { ServiceEntry.createOfferService 0x1234 0x0001 1 0 3 with numFirstOptions := 1 }

def offerEndpoint : SdOption := .ipv4Endpoint ⟨⟨192, 168, 1, 1⟩, 30509, .udp⟩

def offerMessage : Message :=
  { payload := some (.ofData (encodeSdPayload 0xC0 0 0 0 [offerEntry] [offerEndpoint] [])) }

theorem offerMessage_parsed :
    List.Forall₂ (fun entry call => call.Serves [offerEndpoint] entry) [offerEntry]
      (parseSdMessage offerMessage fun _ => 0).val :=
  parse_encoded 0xC0 0 0 0 [] (by decide) (by decide) (by decide) (by decide) rfl fun _ => 0

end Msomeip.Sd
