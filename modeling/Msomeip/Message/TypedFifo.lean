import Msomeip.Library.Runs
import Msomeip.Message.Payload

namespace Msomeip

/-- What is appended in one call, and as a string: its length and its bytes. -/
inductive Item
  | uint8 (value : UInt8)
  | uint16 (value : UInt16) (bigEndian : Bool)
  | uint32 (value : UInt32) (bigEndian : Bool)
  | uint64 (value : UInt64) (bigEndian : Bool)
  | bytes (data : PayloadData)
  | array (data : PayloadData)
  | string (data : PayloadData)
deriving DecidableEq, Repr

/-- A call of a reader. -/
inductive Read
  | uint8
  | uint16 (bigEndian : Bool)
  | uint32 (bigEndian : Bool)
  | uint64 (bigEndian : Bool)
  | bytes (length : Nat)
  | array (length : Nat)
  | string
deriving DecidableEq, Repr

/-- An integer or a string. -/
def Read.isTyped : Read → Bool
  | .bytes _ | .array _ => false
  | _ => true

namespace Item

/-- The reader of the item's kind, byte order and length. -/
def read : Item → Read
  | .uint8 _ => .uint8
  | .uint16 _ bigEndian => .uint16 bigEndian
  | .uint32 _ bigEndian => .uint32 bigEndian
  | .uint64 _ bigEndian => .uint64 bigEndian
  | .bytes data => .bytes data.length
  | .array data => .array data.length
  | .string _ => .string

def encode : Item → PayloadData
  | .uint8 value => [value]
  | .uint16 value bigEndian =>
    if bigEndian then BigEndian.bytes16 value else LittleEndian.bytes16 value
  | .uint32 value bigEndian =>
    if bigEndian then BigEndian.bytes32 value else LittleEndian.bytes32 value
  | .uint64 value bigEndian =>
    if bigEndian then BigEndian.bytes64 value else LittleEndian.bytes64 value
  | .bytes data | .array data => data
  | .string data => BigEndian.bytes32 (UInt32.ofNat data.length) ++ data

def size (item : Item) : Nat := item.encode.length

/-- The length of a string fits into its field. -/
def Fits : Item → Prop
  | .string data => data.length < 2 ^ 32
  | _ => True

end Item

namespace Payload

def appendItem (payload : Payload) : Item → Payload
  | .uint8 value => payload.appendUint8 value
  | .uint16 value bigEndian => payload.appendUint16 value bigEndian
  | .uint32 value bigEndian => payload.appendUint32 value bigEndian
  | .uint64 value bigEndian => payload.appendUint64 value bigEndian
  | .bytes data | .array data => payload.append data
  | .string data => (payload.appendUint32 (UInt32.ofNat data.length) true).append data

/-- The answer of a reader that throws nothing. -/
def answered {Value : Type} (kind : Value → Item) (found : Option Value) :
    Except Exception (Option Item) :=
  .ok (found.map kind)

def getItem (payload : Payload) : Read → Except Exception (Option Item) × Payload
  | .uint8 => payload.getUint8.map (answered Item.uint8) id
  | .uint16 bigEndian => (payload.getUint16 bigEndian).map (answered (Item.uint16 · bigEndian)) id
  | .uint32 bigEndian => (payload.getUint32 bigEndian).map (answered (Item.uint32 · bigEndian)) id
  | .uint64 bigEndian => (payload.getUint64 bigEndian).map (answered (Item.uint64 · bigEndian)) id
  | .bytes length => (payload.getBytes length).map (Except.map (Option.map Item.bytes)) id
  | .array length => (payload.getArray length).map (Except.map (Option.map Item.array)) id
  | .string => payload.getString.map (answered Item.string) id

/-- An append puts the item's bytes behind those that are there. -/
theorem appendItem_eq (payload : Payload) (item : Item) :
    payload.appendItem item = payload.append item.encode := by
  cases item with
  | string data =>
    simp only [appendItem, appendUint32, append, Item.encode, if_true, List.append_assoc]
  | _ => rfl

/-- The bytes from the position on are those of the items that wait. -/
structure Waiting (payload : Payload) (items : List Item) : Prop where
  bytes : payload.data.drop payload.position = items.flatMap Item.encode
  inside : payload.position ≤ payload.size
  bound : payload.size < 2 ^ 63

theorem waiting_append {payload : Payload} {items : List Item} {item : Item}
    (waiting : payload.Waiting items) (room : payload.size + item.size < 2 ^ 63) :
    (payload.appendItem item).Waiting (items ++ [item]) := by
  have grown : (payload.appendItem item).size = payload.size + item.size := by
    rw [appendItem_eq, size, data_append, List.length_append]
    rfl
  have inside := waiting.inside
  constructor
  · rw [appendItem_eq, data_append, position_append,
      List.drop_append_of_le_length waiting.inside, waiting.bytes, List.flatMap_append,
      List.flatMap_singleton]
  · rw [grown, appendItem_eq, position_append]
    omega
  · rw [grown]
    exact room

section Prefix

variable {payload : Payload} {front later : PayloadData}

theorem position_add_le (bytes : payload.data.drop payload.position = front ++ later)
    (inside : payload.position ≤ payload.size) :
    payload.position + front.length ≤ payload.size := by
  have counted := congrArg List.length bytes
  rw [List.length_drop, List.length_append] at counted
  unfold size at inside ⊢
  omega

theorem isShort_eq_false {length : Nat} (enough : payload.position + length ≤ payload.size)
    (bound : payload.size < 2 ^ 63) : payload.isShort length = false := by
  have whole : (payload.position + length) % 2 ^ 64 = payload.position + length :=
    Nat.mod_eq_of_lt (by omega)
  rw [isShort, whole]
  exact decide_eq_false (by omega)

theorem next_eq (bytes : payload.data.drop payload.position = front ++ later) :
    payload.next front.length = front := by
  rw [next, bytes, List.take_left]

theorem skip_position {length : Nat} (enough : payload.position + length ≤ payload.size)
    (bound : payload.size < 2 ^ 63) :
    (payload.skip length).position = payload.position + length :=
  Nat.mod_eq_of_lt (by omega)

theorem drop_skip (bytes : payload.data.drop payload.position = front ++ later)
    (inside : payload.position ≤ payload.size) (bound : payload.size < 2 ^ 63) :
    (payload.skip front.length).data.drop (payload.skip front.length).position = later := by
  rw [skip_position (position_add_le bytes inside) bound, data_skip, ← List.drop_drop, bytes,
    List.drop_left]

theorem getFixed_eq {Value : Type} {length : Nat} (value : PayloadData → Value)
    (bytes : payload.data.drop payload.position = front ++ later)
    (inside : payload.position ≤ payload.size) (bound : payload.size < 2 ^ 63)
    (counted : front.length = length) :
    payload.getFixed length value = (some (value front), payload.skip length) := by
  subst counted
  have enough := isShort_eq_false (position_add_le bytes inside) bound
  rw [getFixed, enough, next_eq bytes]
  rfl

theorem isInverted_eq_false {length : Nat} (enough : payload.position + length ≤ payload.size)
    (bound : payload.size < 2 ^ 63) : payload.isInverted length = false := by
  have whole : (payload.position + length) % 2 ^ 64 = payload.position + length :=
    Nat.mod_eq_of_lt (by omega)
  rw [isInverted, whole]
  exact decide_eq_false (by omega)

theorem getBytes_there {length : Nat} (enough : payload.position + length ≤ payload.size)
    (bound : payload.size < 2 ^ 63) :
    payload.getBytes length = (.ok (some (payload.next length)), payload.skip length) := by
  rw [getBytes, isShort_eq_false enough bound, isInverted_eq_false enough bound]
  rfl

theorem getBytes_eq (bytes : payload.data.drop payload.position = front ++ later)
    (inside : payload.position ≤ payload.size) (bound : payload.size < 2 ^ 63) :
    payload.getBytes front.length = (.ok (some front), payload.skip front.length) := by
  rw [getBytes_there (position_add_le bytes inside) bound, next_eq bytes]

theorem getString_eq {data : PayloadData}
    (bytes : payload.data.drop payload.position =
      BigEndian.bytes32 (UInt32.ofNat data.length) ++ data ++ later)
    (inside : payload.position ≤ payload.size) (bound : payload.size < 2 ^ 63)
    (small : data.length < 2 ^ 32) :
    payload.getString = (some data, payload.skip (4 + data.length)) := by
  have count : (UInt32.ofNat data.length).toNat = data.length := UInt32.toNat_ofNat_of_lt' small
  have whole := position_add_le bytes inside
  rw [List.length_append, BigEndian.bytes32_length] at whole
  rw [List.append_assoc] at bytes
  have enough := position_add_le bytes inside
  rw [BigEndian.bytes32_length] at enough
  have moved := skip_position enough bound
  have rest : (payload.skip 4).data.drop (payload.skip 4).position = data ++ later :=
    drop_skip bytes inside bound
  have still : (payload.skip 4).position + data.length ≤ (payload.skip 4).size := by
    change _ ≤ payload.size
    omega
  have again : (payload.skip 4).skip data.length = payload.skip (4 + data.length) := by
    have sum : payload.position + 4 + data.length = payload.position + (4 + data.length) := by omega
    rw [skip, moved, sum]
    rfl
  have length : payload.getUint32 true = (some (UInt32.ofNat data.length), payload.skip 4) := by
    have read := getFixed_eq (word32 true) bytes inside bound (BigEndian.bytes32_length _)
    rw [getUint32, read]
    exact congrArg (fun value => (some value, payload.skip 4)) (BigEndian.word32_bytes _)
  rw [getString, length]
  simp only [count, isShort_eq_false still bound, next_eq rest, again]
  rfl

end Prefix

/-- The reader of the first item that waits gives that item and goes on behind it. -/
theorem getItem_eq {payload : Payload} {item : Item} {items : List Item}
    (waiting : payload.Waiting (item :: items)) (fits : item.Fits) :
    payload.getItem item.read = (.ok (some item), payload.skip item.size) := by
  obtain ⟨bytes, inside, bound⟩ := waiting
  rw [List.flatMap_cons] at bytes
  cases item with
  | uint8 value =>
    have enough := position_add_le bytes inside
    have first : payload.data[payload.position]? = some value := by
      rw [← List.head?_drop, bytes]
      rfl
    have within : ¬ payload.position ≥ payload.size := by
      change payload.position + 1 ≤ payload.size at enough
      omega
    rw [Item.read, getItem, getUint8, if_neg within, first]
    rfl
  | uint16 value bigEndian =>
    have counted : (Item.uint16 value bigEndian).size = 2 := by cases bigEndian <;> rfl
    rw [counted, Item.read, getItem, getUint16, getFixed_eq _ bytes inside bound counted,
      Item.encode, word16_bytes]
    rfl
  | uint32 value bigEndian =>
    have counted : (Item.uint32 value bigEndian).size = 4 := by cases bigEndian <;> rfl
    rw [counted, Item.read, getItem, getUint32, getFixed_eq _ bytes inside bound counted,
      Item.encode, word32_bytes]
    rfl
  | uint64 value bigEndian =>
    have counted : (Item.uint64 value bigEndian).size = 8 := by cases bigEndian <;> rfl
    rw [counted, Item.read, getItem, getUint64, getFixed_eq _ bytes inside bound counted,
      Item.encode, word64_bytes]
    rfl
  | bytes data =>
    have read : payload.getBytes data.length = (.ok (some data), payload.skip data.length) :=
      getBytes_eq bytes inside bound
    rw [Item.read, getItem, read]
    rfl
  | array data =>
    have read : payload.getBytes data.length = (.ok (some data), payload.skip data.length) :=
      getBytes_eq bytes inside bound
    rw [Item.read, getItem, getArray, read]
    rfl
  | string data =>
    have counted : (Item.string data).size = 4 + data.length := by
      rw [Item.size, Item.encode, List.length_append, BigEndian.bytes32_length]
    rw [counted, Item.read, getItem, getString_eq bytes inside bound fits]
    rfl

theorem waiting_read {payload : Payload} {item : Item} {items : List Item}
    (waiting : payload.Waiting (item :: items)) (fits : item.Fits) :
    (payload.getItem item.read).1 = .ok (some item) ∧
      (payload.getItem item.read).2.position = payload.position + item.size ∧
      (payload.getItem item.read).2.data = payload.data ∧
      (payload.getItem item.read).2.Waiting items := by
  rw [getItem_eq waiting fits]
  obtain ⟨bytes, inside, bound⟩ := waiting
  rw [List.flatMap_cons] at bytes
  have enough : payload.position + item.size ≤ payload.size := position_add_le bytes inside
  have moved := skip_position enough bound
  refine ⟨rfl, moved, rfl, drop_skip bytes inside bound, ?_, bound⟩
  rw [moved]
  exact enough

theorem getItem_end {payload : Payload} (waiting : payload.Waiting []) {read : Read}
    (typed : read.isTyped = true) : (payload.getItem read).1 = .ok none := by
  obtain ⟨bytes, inside, bound⟩ := waiting
  have ended : payload.position = payload.size := by
    have left := List.drop_eq_nil_iff.mp bytes
    exact Nat.le_antisymm inside left
  have refuses (length : Nat) (positive : 0 < length) (small : length ≤ 8) {Value : Type}
      (value : PayloadData → Value) : payload.getFixed length value = (none, payload) := by
    have whole : (payload.position + length) % 2 ^ 64 = payload.position + length :=
      Nat.mod_eq_of_lt (by omega)
    have short : payload.isShort length = true := by
      rw [isShort, whole]
      exact decide_eq_true (by omega)
    rw [getFixed, if_pos short]
  cases read with
  | uint8 =>
    rw [getItem, getUint8, if_pos (Nat.le_of_eq ended.symm)]
    rfl
  | uint16 bigEndian =>
    rw [getItem, getUint16, refuses 2 (by decide) (by decide)]
    rfl
  | uint32 bigEndian =>
    rw [getItem, getUint32, refuses 4 (by decide) (by decide)]
    rfl
  | uint64 bigEndian =>
    rw [getItem, getUint64, refuses 8 (by decide) (by decide)]
    rfl
  | bytes length => cases typed
  | array length => cases typed
  | string =>
    rw [getItem, getString, getUint32, refuses 4 (by decide) (by decide)]
    rfl

inductive Call
  | append (item : Item)
  | read (read : Read)
deriving DecidableEq, Repr

def Call.item? : Call → Option Item
  | .append item => some item
  | .read _ => none

def Call.read? : Call → Option Read
  | .append _ => none
  | .read wanted => some wanted

/-- A call, and for a read what it returns. -/
def step : Runs.Step Payload Call (Except Exception (Option Item)) := fun payload call =>
  match call with
  | .append item => some (payload.appendItem item, [])
  | .read read => some ((payload.getItem read).2, [(payload.getItem read).1])

def appended (calls : List Call) : List Item := calls.filterMap Call.item?

def reads (calls : List Call) : List Read := calls.filterMap Call.read?

/-- Every read comes after the append of the item it is for, and is of its kind. -/
def Follows (calls : List Call) : Prop :=
  ∀ front, front <+: calls → reads front <+: (appended front).map Item.read

instance (calls : List Call) : Decidable (Follows calls) :=
  decidable_of_iff (∀ front ∈ calls.inits, reads front <+: (appended front).map Item.read)
    (by simp [Follows])

def encodedSize (items : List Item) : Nat := (items.map Item.size).sum

/-- The items that have been read. -/
def taken (calls : List Call) : List Item := (appended calls).take (reads calls).length

/-- The items that have not been read. -/
def left (calls : List Call) : List Item := (appended calls).drop (reads calls).length

theorem reads_le {calls : List Call} (follows : Follows calls) :
    (reads calls).length ≤ (appended calls).length := by
  have shorter := (follows calls (List.prefix_refl calls)).length_le
  rwa [List.length_map] at shorter

theorem taken_append {calls : List Call} (follows : Follows calls) (item : Item) :
    taken (calls ++ [.append item]) = taken calls ∧
      left (calls ++ [.append item]) = left calls ++ [item] := by
  have items : appended (calls ++ [.append item]) = appended calls ++ [item] :=
    List.filterMap_append
  have same : reads (calls ++ [.append item]) = reads calls := by
    rw [reads, List.filterMap_append]
    exact List.append_nil _
  have enough := reads_le follows
  rw [taken, left, items, same]
  exact ⟨List.take_append_of_le_length enough, List.drop_append_of_le_length enough⟩

theorem taken_read {calls : List Call} {read : Read} (follows : Follows (calls ++ [.read read])) :
    ∃ item, item ∈ appended calls ∧ item.read = read ∧
      left calls = item :: left (calls ++ [.read read]) ∧
      taken (calls ++ [.read read]) = taken calls ++ [item] := by
  have items : appended (calls ++ [.read read]) = appended calls := by
    rw [appended, List.filterMap_append]
    exact List.append_nil _
  have grown : reads (calls ++ [.read read]) = reads calls ++ [read] := List.filterMap_append
  have before := follows _ (List.prefix_refl _)
  rw [items, grown] at before
  have enough := before.length_le
  rw [List.length_append, List.length_singleton, List.length_map] at enough
  have inside : (reads calls).length < (appended calls).length := enough
  have own : (appended calls)[(reads calls).length].read = read := by
    have position := before.getElem (i := (reads calls).length) (by simp)
    rw [List.getElem_append_right (Nat.le_refl _)] at position
    simpa using position.symm
  refine ⟨(appended calls)[(reads calls).length], List.getElem_mem inside, own, ?_, ?_⟩
  · rw [left, left, items, grown, List.length_append, List.length_singleton]
    exact List.drop_eq_getElem_cons inside
  · rw [taken, taken, items, grown, List.length_append, List.length_singleton]
    exact (List.take_append_getElem inside).symm

theorem Follows.front {calls : List Call} {call : Call} (follows : Follows (calls ++ [call])) :
    Follows calls :=
  fun front shorter => follows front (shorter.trans (List.prefix_append _ _))

/-- What a payload is after a run: the items of the reads are gone, the others wait. -/
structure Progress (calls : List Call) (results : List (Except Exception (Option Item)))
    (payload : Payload) : Prop where
  results : results = (taken calls).map fun item => .ok (some item)
  position : payload.position = encodedSize (taken calls)
  size : payload.size = encodedSize (appended calls)
  waiting : payload.Waiting (left calls)

theorem progress_step {calls : List Call} {call : Call}
    {results emitted : List (Except Exception (Option Item))} {payload next : Payload}
    (progress : Progress calls results payload) (follows : Follows (calls ++ [call]))
    (fits : ∀ item ∈ appended calls, item.Fits)
    (small : encodedSize (appended (calls ++ [call])) < 2 ^ 63)
    (stepped : step payload call = some (next, emitted)) :
    Progress (calls ++ [call]) (results ++ emitted) next := by
  cases call with
  | append item =>
    obtain ⟨rfl, rfl⟩ := Prod.mk.inj (Option.some.inj stepped)
    obtain ⟨takenSame, leftGrown⟩ := taken_append follows.front item
    have items : appended (calls ++ [.append item]) = appended calls ++ [item] :=
      List.filterMap_append
    have total : encodedSize (appended (calls ++ [.append item])) = payload.size + item.size := by
      rw [items, progress.size, encodedSize, List.map_append, List.sum_append]
      exact congrArg _ (Nat.add_zero _)
    have grown : (payload.appendItem item).size = payload.size + item.size := by
      rw [appendItem_eq, size, data_append, List.length_append]
      rfl
    constructor
    · rw [takenSame, List.append_nil]
      exact progress.results
    · rw [takenSame, appendItem_eq]
      exact progress.position
    · rw [total, grown]
    · rw [leftGrown]
      exact waiting_append progress.waiting (total ▸ small)
  | read read =>
    obtain ⟨rfl, rfl⟩ := Prod.mk.inj (Option.some.inj stepped)
    obtain ⟨item, member, rfl, first, grown⟩ := taken_read follows
    have waiting := progress.waiting
    rw [first] at waiting
    obtain ⟨found, position, data, still⟩ := waiting_read waiting (fits item member)
    have items : appended (calls ++ [.read item.read]) = appended calls := by
      rw [appended, List.filterMap_append]
      exact List.append_nil _
    constructor
    · rw [found, grown, progress.results, List.map_append]
      rfl
    · rw [position, grown, progress.position, encodedSize, encodedSize, List.map_append,
        List.sum_append]
      exact congrArg _ (Nat.add_zero _).symm
    · rw [items, ← progress.size, size, data]
      rfl
    · exact still

/-- Along every run whose reads follow the appends. -/
theorem progress_run {calls : List Call} {results : List (Except Exception (Option Item))}
    {payload : Payload} (run : Runs.Run step {} calls results payload) (follows : Follows calls)
    (fits : ∀ item ∈ appended calls, item.Fits) (small : encodedSize (appended calls) < 2 ^ 63) :
    Progress calls results payload := by
  induction run with
  | nil => exact ⟨rfl, rfl, rfl, rfl, Nat.le_refl _, by decide⟩
  | @snoc calls _ _ _ _ call _ _ stepped ih =>
    have sublist : appended calls <+: appended (calls ++ [call]) := by
      rw [appended, appended, List.filterMap_append]
      exact List.prefix_append _ _
    have earlier (item : Item) (member : item ∈ appended calls) : item.Fits :=
      fits item (sublist.subset member)
    have smaller : encodedSize (appended calls) < 2 ^ 63 := by
      obtain ⟨later, same⟩ := sublist
      rw [← same, encodedSize, List.map_append, List.sum_append] at small
      unfold encodedSize
      omega
    exact progress_step (ih follows.front earlier smaller) follows earlier small stepped

/-- A payload is a first-in-first-out queue of typed items. -/
theorem payload_fifo {calls : List Call} {results : List (Except Exception (Option Item))}
    {payload : Payload} (run : Runs.Run step {} calls results payload) (follows : Follows calls)
    (fits : ∀ item ∈ appended calls, item.Fits) (small : encodedSize (appended calls) < 2 ^ 63) :
    results = ((taken calls).map fun item => .ok (some item)) ∧
      payload.position = encodedSize (taken calls) ∧
      payload.position ≤ payload.size ∧
      ((reads calls).length = (appended calls).length →
        ∀ read : Read, read.isTyped = true → (payload.getItem read).1 = .ok none) := by
  have progress := progress_run run follows fits small
  refine ⟨progress.results, progress.position, progress.waiting.inside, ?_⟩
  intro all read typed
  have none : left calls = [] := by
    rw [left, all]
    exact List.drop_length
  exact getItem_end (none ▸ progress.waiting) typed

/-- A read between two appends, and a string. -/
def greeting : List Call :=
  [.append (.uint16 0x1234 true), .append (.string [0x68, 0x69]), .read (.uint16 true),
    .append (.uint64 0x0102030405060708 false), .read .string, .read (.uint64 false)]

theorem greeting_read : ∃ payload, Runs.Run step {} greeting
    [.ok (some (.uint16 0x1234 true)), .ok (some (.string [0x68, 0x69])),
      .ok (some (.uint64 0x0102030405060708 false))] payload ∧
    payload.position = 16 ∧ (payload.getItem .uint8).1 = .ok none := by
  have executed : (Runs.execute step (fun _ _ => True) {} greeting).map Prod.snd =
      some [.ok (some (.uint16 0x1234 true)), .ok (some (.string [0x68, 0x69])),
        .ok (some (.uint64 0x0102030405060708 false))] := by
    decide +kernel
  obtain ⟨payload, run⟩ := Runs.exists_guarded executed
  obtain ⟨-, position, -, ended⟩ :=
    payload_fifo run (by decide +kernel) (by simp [greeting, appended, Call.item?, Item.Fits])
      (by decide +kernel)
  exact ⟨payload, run, position.trans (by decide +kernel), ended (by decide +kernel) _ rfl⟩

end Payload
end Msomeip
