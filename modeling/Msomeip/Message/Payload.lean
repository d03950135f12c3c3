import Msomeip.Library.LittleEndian
import Msomeip.Types

namespace Msomeip

structure Payload where
  data : PayloadData := []
  position : Nat := 0
deriving DecidableEq, Repr

/-- What a reader of a byte array can throw: the `std::length_error` of `assign`. -/
inductive Exception
  | lengthError
deriving DecidableEq, Repr

namespace Payload

def ofData (data : PayloadData) : Payload := { data := data }

def size (payload : Payload) : Nat := payload.data.length

def empty (payload : Payload) : Bool := payload.data.isEmpty

@[simp] theorem data_ofData (data : PayloadData) : (ofData data).data = data := rfl
@[simp] theorem size_ofData (data : PayloadData) : (ofData data).size = data.length := rfl

def append (payload : Payload) (data : PayloadData) : Payload :=
  { payload with data := payload.data ++ data }

def appendUint8 (payload : Payload) (value : UInt8) : Payload := payload.append [value]

def appendUint16 (payload : Payload) (value : UInt16) (bigEndian : Bool) : Payload :=
  payload.append (if bigEndian then BigEndian.bytes16 value else LittleEndian.bytes16 value)

def appendUint32 (payload : Payload) (value : UInt32) (bigEndian : Bool) : Payload :=
  payload.append (if bigEndian then BigEndian.bytes32 value else LittleEndian.bytes32 value)

def appendUint64 (payload : Payload) (value : UInt64) (bigEndian : Bool) : Payload :=
  payload.append (if bigEndian then BigEndian.bytes64 value else LittleEndian.bytes64 value)

/-- `position_ + length > data_.size()`; the sum is a `size_t`. -/
def isShort (payload : Payload) (length : Nat) : Bool :=
  (payload.position + length) % 2 ^ 64 > payload.size

/-- The end of the range is before its beginning: the sum of `isShort` has wrapped. -/
def isInverted (payload : Payload) (length : Nat) : Bool :=
  (payload.position + length) % 2 ^ 64 < payload.position

/-- The bytes from the position on. -/
def next (payload : Payload) (length : Nat) : PayloadData :=
  (payload.data.drop payload.position).take length

def skip (payload : Payload) (length : Nat) : Payload :=
  { payload with position := (payload.position + length) % 2 ^ 64 }

/-- The readers of a fixed number of bytes differ in what they make of them. -/
def getFixed {Value : Type} (length : Nat) (value : PayloadData → Value) (payload : Payload) :
    Option Value × Payload :=
  if payload.isShort length then (none, payload)
  else (some (value (payload.next length)), payload.skip length)

def getUint8 (payload : Payload) : Option UInt8 × Payload :=
  if payload.position ≥ payload.size then (none, payload)
  else (payload.data[payload.position]?, payload.skip 1)

def word16 (bigEndian : Bool) : PayloadData → UInt16
  | [b0, b1] => if bigEndian then BigEndian.word16 b0 b1 else LittleEndian.word16 b0 b1
  | _ => 0

def word32 (bigEndian : Bool) : PayloadData → UInt32
  | [b0, b1, b2, b3] =>
    if bigEndian then BigEndian.word32 b0 b1 b2 b3 else LittleEndian.word32 b0 b1 b2 b3
  | _ => 0

def word64 (bigEndian : Bool) (bytes : PayloadData) : UInt64 :=
  if bigEndian then BigEndian.word64 bytes else LittleEndian.word64 bytes

def getUint16 (payload : Payload) (bigEndian : Bool) : Option UInt16 × Payload :=
  payload.getFixed 2 (word16 bigEndian)

def getUint32 (payload : Payload) (bigEndian : Bool) : Option UInt32 × Payload :=
  payload.getFixed 4 (word32 bigEndian)

def getUint64 (payload : Payload) (bigEndian : Bool) : Option UInt64 × Payload :=
  payload.getFixed 8 (word64 bigEndian)

/-- `assign` takes the distance of an inverted range for a size, which is above `max_size()`: it
    throws, and the position has not been moved. -/
def getBytes (payload : Payload) (length : Nat) :
    Except Exception (Option PayloadData) × Payload :=
  if payload.isShort length then (.ok none, payload)
  else if payload.isInverted length then (.error .lengthError, payload)
  else (.ok (some (payload.next length)), payload.skip length)

/-- Where the length is there and the bytes are not, the position is behind the length. -/
def getString (payload : Payload) : Option PayloadData × Payload :=
  match payload.getUint32 true with
  | (none, payload) => (none, payload)
  | (some length, payload) =>
    if payload.isShort length.toNat then (none, payload)
    else (some (payload.next length.toNat), payload.skip length.toNat)

def getArray (payload : Payload) (length : Nat) :
    Except Exception (Option PayloadData) × Payload :=
  payload.getBytes length

/-- The loop of `get_array_with_length`: where an element is not there, the position is behind
    those before it. -/
def getElements (elementSize : Nat) :
    Nat → Payload → Except Exception (Option (List PayloadData)) × Payload
  | 0, payload => (.ok (some []), payload)
  | elementCount + 1, payload =>
    match payload.getBytes elementSize with
    | (.error thrown, payload) => (.error thrown, payload)
    | (.ok none, payload) => (.ok none, payload)
    | (.ok (some elementData), payload) =>
      match getElements elementSize elementCount payload with
      | (.error thrown, payload) => (.error thrown, payload)
      | (.ok none, payload) => (.ok none, payload)
      | (.ok (some elements), payload) => (.ok (some (elementData :: elements)), payload)

/-- The elements are given by their object bytes. -/
def getArrayWithLength (payload : Payload) (elementSize : Nat) :
    Except Exception (Option (List PayloadData)) × Payload :=
  match payload.getUint32 true with
  | (none, payload) => (.ok none, payload)
  | (some length, payload) => getElements elementSize (length.toNat / elementSize) payload

def setPosition (payload : Payload) (position : Nat) : Payload :=
  if position ≤ payload.size then { payload with position := position } else payload

def clear (_payload : Payload) : Payload := {}

def copy (payload : Payload) : Payload := ofData payload.data

@[simp] theorem data_append (payload : Payload) (data : PayloadData) :
    (payload.append data).data = payload.data ++ data := rfl
@[simp] theorem position_append (payload : Payload) (data : PayloadData) :
    (payload.append data).position = payload.position := rfl
@[simp] theorem data_skip (payload : Payload) (length : Nat) :
    (payload.skip length).data = payload.data := rfl

@[simp] theorem word16_bytes (bigEndian : Bool) (value : UInt16) :
    word16 bigEndian (if bigEndian then BigEndian.bytes16 value else LittleEndian.bytes16 value) =
      value := by
  cases bigEndian
  · exact LittleEndian.word16_bytes value
  · exact BigEndian.word16_bytes value

@[simp] theorem word32_bytes (bigEndian : Bool) (value : UInt32) :
    word32 bigEndian (if bigEndian then BigEndian.bytes32 value else LittleEndian.bytes32 value) =
      value := by
  cases bigEndian
  · exact LittleEndian.word32_bytes value
  · exact BigEndian.word32_bytes value

@[simp] theorem word64_bytes (bigEndian : Bool) (value : UInt64) :
    word64 bigEndian (if bigEndian then BigEndian.bytes64 value else LittleEndian.bytes64 value) =
      value := by
  cases bigEndian
  · exact LittleEndian.word64_bytes value
  · exact BigEndian.word64_bytes value

end Payload
end Msomeip
