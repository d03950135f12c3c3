import Msomeip.Message.Message
import Msomeip.Sd.SdOption
import Msomeip.Sd.ServiceEntry

namespace Msomeip.Sd

open BigEndian

inductive HandlerCall
  | findService (entry : ServiceEntry)
  | offerService (entry : ServiceEntry) (options : List SdOption)
  | subscribeEventgroup (entry : ServiceEntry) (options : List SdOption)
  | subscribeEventgroupAck (entry : ServiceEntry)
deriving DecidableEq, Repr

def sdHeaderSize : Nat := 8

def readWord32 (memory : Nat → UInt8) (offset : Nat) : Tracked UInt32 := do
  let b0 ← Tracked.read memory (offset + 0)
  let b1 ← Tracked.read memory (offset + 1)
  let b2 ← Tracked.read memory (offset + 2)
  let b3 ← Tracked.read memory (offset + 3)
  pure (word32 b0 b1 b2 b3)

def parseEntries (memory : Nat → UInt8) (size entriesEnd offset : Nat) :
    Tracked (List ServiceEntry) :=
  if offset + ServiceEntry.entrySize ≤ entriesEnd ∧ offset + ServiceEntry.entrySize ≤ size then do
    let entry ← ServiceEntry.deserialize memory offset (entriesEnd - offset)
    let entries ← parseEntries memory size entriesEnd (offset + ServiceEntry.entrySize)
    pure (entry.toList ++ entries)
  else pure []
termination_by size - offset
decreasing_by unfold ServiceEntry.entrySize at *; omega

def parseOptions (memory : Nat → UInt8) (size optionsEnd offset : Nat) :
    Tracked (List SdOption) :=
  if offset < optionsEnd ∧ offset < size then do
    let option ← SdOption.deserialize memory offset (optionsEnd - offset)
    match option with
    | none => pure []
    | some option => do
      let options ← parseOptions memory size optionsEnd (offset + option.getSize)
      pure (option :: options)
  else pure []
termination_by size - offset
decreasing_by rw [SdOption.getSize_eq, SdOption.optionSize]; omega

/-- The `switch` over the entry types; it has no default. -/
def handlerCall (options : List SdOption) (entry : ServiceEntry) : Option HandlerCall :=
  if entry.type = .findService then some (.findService entry)
  else if entry.type = .offerService then some (.offerService entry options)
  else if entry.type = .subscribeEventgroup then some (.subscribeEventgroup entry options)
  else if entry.type = .subscribeEventgroupAck then some (.subscribeEventgroupAck entry)
  else none

/-- The handler calls of `process_sd_message`, with the payload bytes it reads; `beyond` is the
    memory past the end of the payload. -/
def parseSdMessage (message : Message) (beyond : Nat → UInt8) : Tracked (List HandlerCall) :=
  match message.payload with
  | none => pure []
  | some payload =>
    if payload.size < 12 then pure []
    else do
      let memory := Tracked.buffer payload.data beyond
      let _flags ← Tracked.read memory 0
      let entriesLength ← readWord32 memory 4
      let entriesEnd := sdHeaderSize + entriesLength.toNat
      let entries ← parseEntries memory payload.size entriesEnd sdHeaderSize
      if entriesEnd + 4 > payload.size then pure []
      else do
        let optionsLength ← readWord32 memory entriesEnd
        let optionsStart := entriesEnd + 4
        let options ← parseOptions memory payload.size (optionsStart + optionsLength.toNat)
          optionsStart
        pure (entries.filterMap (handlerCall options))

@[simp] theorem readWord32_within (memory : Nat → UInt8) (offset size : Nat) :
    (readWord32 memory offset).Within size ↔ offset + 4 ≤ size := by
  simp [readWord32]
  omega

theorem parseEntries_within (memory : Nat → UInt8) (size entriesEnd offset : Nat) :
    (parseEntries memory size entriesEnd offset).Within size := by
  induction offset using parseEntries.induct size entriesEnd with
  | case1 offset inside ih =>
    rw [parseEntries, if_pos inside]
    simp only [Tracked.within_bind, Tracked.within_pure, and_true]
    exact ⟨ServiceEntry.deserialize_within memory inside.2, ih⟩
  | case2 offset outside =>
    rw [parseEntries, if_neg outside]
    exact Tracked.within_pure _ _

theorem readWord32_of_holds {memory : Nat → UInt8} {offset : Nat} {word : UInt32}
    (stands : Tracked.Holds memory offset (bytes32 word)) :
    (readWord32 memory offset).val = word := by
  simp only [bytes32, Tracked.holds_cons, Tracked.holds_nil, Nat.add_assoc, Nat.reduceAdd,
    and_true] at stands
  obtain ⟨h0, h1, h2, h3⟩ := stands
  simp only [readWord32, Tracked.val_bind, Tracked.val_read, Tracked.val_pure, Nat.add_zero, h0, h1,
    h2, h3, word32_bytes]

end Msomeip.Sd
