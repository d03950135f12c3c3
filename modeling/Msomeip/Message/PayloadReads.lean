import Msomeip.Message.TypedFifo

namespace Msomeip

inductive Reader
  | item (read : Read)
  | arrayWithLength (elementSize : Nat)
deriving DecidableEq, Repr

namespace Payload

/-- Whether the reader returns true, and the payload after it. -/
def readWith (payload : Payload) : Reader → Except Exception Bool × Payload
  | .item read => ((payload.getItem read).1.map Option.isSome, (payload.getItem read).2)
  | .arrayWithLength elementSize =>
    ((payload.getArrayWithLength elementSize).1.map Option.isSome,
      (payload.getArrayWithLength elementSize).2)

/-- The element at the index is not there, and no read of one before it throws. -/
def LacksElement (payload : Payload) (elementSize offset index : Nat) : Prop :=
  (payload.skip (offset + index * elementSize)).isShort elementSize = true ∧
    ∀ earlier < index, (payload.skip (offset + earlier * elementSize)).isInverted elementSize = false

/-- The length is there, and some of what it announces is not. -/
def Torn (payload : Payload) : Reader → Prop
  | .item .string => ∃ length, (payload.getUint32 true).1 = some length ∧
      (payload.skip 4).isShort length.toNat = true
  | .arrayWithLength elementSize => ∃ length, (payload.getUint32 true).1 = some length ∧
      ∃ index < length.toNat / elementSize, payload.LacksElement elementSize 4 index
  | _ => False

theorem skip_skip (payload : Payload) (first second : Nat) :
    (payload.skip first).skip second = payload.skip (first + second) := by
  unfold skip
  rw [Nat.mod_add_mod, Nat.add_assoc]

theorem skip_ne (payload : Payload) {length : Nat} (positive : 0 < length)
    (small : length < 2 ^ 64) : payload.skip length ≠ payload := by
  intro same
  have moved : (payload.position + length) % 2 ^ 64 = payload.position := congrArg position same
  omega

theorem getFixed_cases {Value : Type} (payload : Payload) (length : Nat)
    (value : PayloadData → Value) :
    (payload.isShort length = true ∧ payload.getFixed length value = (none, payload)) ∨
      (payload.isShort length = false ∧
        payload.getFixed length value =
          (some (value (payload.next length)), payload.skip length)) := by
  unfold getFixed
  cases short : payload.isShort length with
  | true => exact .inl ⟨rfl, rfl⟩
  | false => exact .inr ⟨rfl, rfl⟩

theorem getBytes_cases (payload : Payload) (length : Nat) :
    (payload.isShort length = true ∧ payload.getBytes length = (.ok none, payload)) ∨
      (payload.isShort length = false ∧ payload.isInverted length = true ∧
        payload.getBytes length = (.error .lengthError, payload)) ∨
      (payload.isShort length = false ∧ payload.isInverted length = false ∧
        payload.getBytes length = (.ok (some (payload.next length)), payload.skip length)) := by
  unfold getBytes
  cases short : payload.isShort length with
  | true => exact .inl ⟨rfl, rfl⟩
  | false =>
    cases inverted : payload.isInverted length with
    | true => exact .inr (.inl ⟨rfl, rfl, rfl⟩)
    | false => exact .inr (.inr ⟨rfl, rfl, rfl⟩)

theorem getUint32_some {payload : Payload} {length : UInt32}
    (found : (payload.getUint32 true).1 = some length) :
    payload.getUint32 true = (some length, payload.skip 4) := by
  rcases getFixed_cases payload 4 (word32 true) with ⟨-, read⟩ | ⟨-, read⟩
  · rw [getUint32, read] at found
    cases found
  · rw [getUint32, read] at found ⊢
    exact congrArg (·, payload.skip 4) found

theorem getUint32_none {payload : Payload} (missing : (payload.getUint32 true).1 = none) :
    payload.getUint32 true = (none, payload) := by
  rcases getFixed_cases payload 4 (word32 true) with ⟨-, read⟩ | ⟨-, read⟩
  · exact read
  · rw [getUint32, read] at missing
    cases missing

/-- What the loop does after so many elements that have been read. -/
inductive Loops (payload : Payload) (elementSize count offset : Nat) :
    Except Exception (Option (List PayloadData)) × Payload → Prop
  | whole {elements : List PayloadData} {after : Payload}
      (there : ∀ index < count,
        (payload.skip (offset + index * elementSize)).isShort elementSize = false) :
      Loops payload elementSize count offset (.ok (some elements), after)
  | lacking {index : Nat} (below : index < count)
      (lacks : payload.LacksElement elementSize offset index) :
      Loops payload elementSize count offset
        (.ok none, payload.skip (offset + index * elementSize))
  | threw {index : Nat} {after : Payload}
      (there : ∀ earlier ≤ index,
        (payload.skip (offset + earlier * elementSize)).isShort elementSize = false)
      (inverted : (payload.skip (offset + index * elementSize)).isInverted elementSize = true) :
      Loops payload elementSize count offset (.error .lengthError, after)

/-- The loop ends at the first element that is not there, or throws. -/
theorem getElements_loops (payload : Payload) (elementSize count offset : Nat) :
    Loops payload elementSize count offset
      (getElements elementSize count (payload.skip offset)) := by
  induction count generalizing offset with
  | zero => exact .whole fun _ below => absurd below (Nat.not_lt_zero _)
  | succ count ih =>
    have first : offset + 0 * elementSize = offset := by rw [Nat.zero_mul, Nat.add_zero]
    have place (index : Nat) : offset + elementSize + index * elementSize =
        offset + (index + 1) * elementSize := by
      rw [Nat.succ_mul]
      omega
    rw [getElements]
    rcases getBytes_cases (payload.skip offset) elementSize with
      ⟨short, read⟩ | ⟨there, inverted, read⟩ | ⟨there, straight, read⟩
    · have stopped : payload.LacksElement elementSize offset 0 := by
        refine ⟨?_, fun _ below => absurd below (Nat.not_lt_zero _)⟩
        rw [first]
        exact short
      have loops := Loops.lacking (Nat.succ_pos count) stopped
      rw [first] at loops
      rw [read]
      exact loops
    · rw [read]
      refine @Loops.threw payload elementSize _ offset 0 _ ?_ ?_
      · intro earlier none
        rw [Nat.le_zero.mp none, first]
        exact there
      · rw [first]
        exact inverted
    · rw [read]
      simp only [skip_skip]
      have rest := ih (offset + elementSize)
      generalize getElements elementSize count (payload.skip (offset + elementSize)) = result
        at rest
      cases rest with
      | whole whole =>
        refine .whole fun index below => ?_
        cases index with
        | zero =>
          rw [first]
          exact there
        | succ index =>
          rw [← place]
          exact whole index (Nat.lt_of_succ_lt_succ below)
      | @lacking index below lacks =>
        obtain ⟨short, straightOn⟩ := lacks
        rw [place] at short ⊢
        refine .lacking (Nat.succ_lt_succ below) ⟨short, ?_⟩
        intro earlier before
        cases earlier with
        | zero =>
          rw [first]
          exact straight
        | succ earlier =>
          rw [← place]
          exact straightOn earlier (Nat.lt_of_succ_lt_succ before)
      | @threw index after whole inverted =>
        rw [place] at inverted
        refine .threw ?_ inverted
        intro earlier before
        cases earlier with
        | zero =>
          rw [first]
          exact there
        | succ earlier =>
          rw [← place]
          exact whole earlier (Nat.le_of_succ_le_succ before)

/-- A call that changes a payload, apart from what is done to its data through `get_data`. -/
inductive Operation
  | append (data : PayloadData)
  | setPosition (position : Nat)
  | read (reader : Reader)
  | clear

def apply (payload : Payload) : Operation → Payload
  | .append data => payload.append data
  | .setPosition position => payload.setPosition position
  | .read reader => (payload.readWith reader).2
  | .clear => payload.clear

def Inside (payload : Payload) : Prop := payload.position ≤ payload.size

theorem skip_inside {payload : Payload} {length : Nat} (there : payload.isShort length = false) :
    (payload.skip length).Inside := by
  have guard := of_decide_eq_false there
  exact Nat.not_lt.mp guard

theorem getFixed_inside {Value : Type} {payload : Payload} (inside : payload.Inside)
    (length : Nat) (value : PayloadData → Value) : (payload.getFixed length value).2.Inside := by
  rcases getFixed_cases payload length value with ⟨-, read⟩ | ⟨there, read⟩
  · rw [read]
    exact inside
  · rw [read]
    exact skip_inside there

theorem getBytes_inside {payload : Payload} (inside : payload.Inside) (length : Nat) :
    (payload.getBytes length).2.Inside := by
  rcases getBytes_cases payload length with ⟨-, read⟩ | ⟨-, -, read⟩ | ⟨there, -, read⟩
  · rw [read]
    exact inside
  · rw [read]
    exact inside
  · rw [read]
    exact skip_inside there

theorem getElements_inside {payload : Payload} (inside : payload.Inside)
    (elementSize count : Nat) : (getElements elementSize count payload).2.Inside := by
  induction count generalizing payload with
  | zero => exact inside
  | succ count ih =>
    rw [getElements]
    have first := getBytes_inside inside elementSize
    generalize payload.getBytes elementSize = read at first
    obtain ⟨thrown | _ | element, between⟩ := read
    · exact first
    · exact first
    · have later := ih first
      dsimp only at later ⊢
      generalize getElements elementSize count between = result at later ⊢
      obtain ⟨thrown | _ | elements, after⟩ := result
      · exact later
      · exact later
      · exact later

theorem getItem_inside {payload : Payload} (inside : payload.Inside) (read : Read) :
    (payload.getItem read).2.Inside := by
  cases read with
  | uint8 =>
    change payload.getUint8.2.Inside
    unfold getUint8
    by_cases ended : payload.position ≥ payload.size
    · rw [if_pos ended]
      exact inside
    · rw [if_neg ended]
      exact (Nat.mod_le _ _).trans (Nat.lt_of_not_le ended)
  | uint16 bigEndian => exact getFixed_inside inside 2 _
  | uint32 bigEndian => exact getFixed_inside inside 4 _
  | uint64 bigEndian => exact getFixed_inside inside 8 _
  | bytes length => exact getBytes_inside inside length
  | array length => exact getBytes_inside inside length
  | string =>
    have first := getFixed_inside inside 4 (word32 true)
    change payload.getString.2.Inside
    unfold getString getUint32
    generalize payload.getFixed 4 (word32 true) = read at first
    obtain ⟨_ | length, between⟩ := read
    · exact first
    · cases short : between.isShort length.toNat with
      | true => simpa [short] using first
      | false => simpa [short] using skip_inside short

theorem readWith_inside {payload : Payload} (inside : payload.Inside) (reader : Reader) :
    (payload.readWith reader).2.Inside := by
  cases reader with
  | item read => exact getItem_inside inside read
  | arrayWithLength elementSize =>
    have first := getFixed_inside inside 4 (word32 true)
    change (payload.getArrayWithLength elementSize).2.Inside
    unfold getArrayWithLength getUint32
    generalize payload.getFixed 4 (word32 true) = read at first
    obtain ⟨_ | length, between⟩ := read
    · exact first
    · exact getElements_inside first elementSize _

theorem apply_inside {payload : Payload} (inside : payload.Inside) (operation : Operation) :
    (payload.apply operation).Inside := by
  cases operation with
  | append data =>
    have longer : payload.size ≤ (payload.append data).size := by
      rw [size, size, data_append, List.length_append]
      exact Nat.le_add_right _ _
    exact Nat.le_trans inside longer
  | setPosition position =>
    change (payload.setPosition position).Inside
    unfold setPosition
    split
    · assumption
    · exact inside
  | read reader => exact readWith_inside inside reader
  | clear => exact Nat.le_refl 0

/-- No calls, failed reads included, take the position of a payload behind its data. -/
theorem run_inside (data : PayloadData) (operations : List Operation) :
    (operations.foldl apply (ofData data)).Inside := by
  have start : (ofData data).Inside := Nat.zero_le _
  generalize ofData data = payload at start
  induction operations generalizing payload with
  | nil => exact start
  | cons operation operations ih => exact ih _ (apply_inside start operation)

theorem copy_inside (payload : Payload) : payload.copy.Inside := Nat.zero_le _

theorem fixed_unchanged {Value : Type} (payload : Payload) (length : Nat)
    (value : PayloadData → Value) (failed : (payload.getFixed length value).1 = none) :
    (payload.getFixed length value).2 = payload := by
  rcases getFixed_cases payload length value with ⟨-, read⟩ | ⟨-, read⟩
  · rw [read]
  · rw [read] at failed
    cases failed

theorem uint8_unchanged (payload : Payload) (failed : payload.getUint8.1 = none) :
    payload.getUint8.2 = payload := by
  unfold getUint8 at failed ⊢
  by_cases ended : payload.position ≥ payload.size
  · rw [if_pos ended]
  · rw [if_neg ended, List.getElem?_eq_none_iff] at failed
    exact absurd failed ended

theorem item_unchanged {Value : Type} {payload : Payload} (kind : Value → Item)
    {result : Option Value × Payload} (unchanged : result.1 = none → result.2 = payload)
    (failed : (result.map (answered kind) id).1.map Option.isSome = .ok false) :
    (result.map (answered kind) id).2 = payload := by
  apply unchanged
  simpa [answered, Except.map] using failed

theorem bytes_unchanged (payload : Payload) (length : Nat)
    (failed : (payload.getBytes length).1 = .ok none) : (payload.getBytes length).2 = payload := by
  rcases getBytes_cases payload length with ⟨-, read⟩ | ⟨-, -, read⟩ | ⟨-, -, read⟩
  · rw [read]
  · rw [read]
  · rw [read] at failed
    cases failed

theorem refused_of_map {Value Other : Type} {kind : Value → Other}
    {result : Except Exception (Option Value)}
    (failed : (result.map (Option.map kind)).map Option.isSome = .ok false) :
    result = .ok none := by
  obtain thrown | _ | value := result
  · cases failed
  · rfl
  · cases failed

def Failed (payload : Payload) (reader : Reader) (after : Payload) : Prop :=
  after = payload ∧ ¬ payload.Torn reader ∨
    ∃ moved, 0 < moved ∧ moved < 2 ^ 64 ∧ after = payload.skip moved ∧ payload.Torn reader

theorem string_failed {payload : Payload} (failed : payload.getString.1 = none) :
    payload.Failed (.item .string) payload.getString.2 := by
  cases found : (payload.getUint32 true).1 with
  | none =>
    left
    constructor
    · rw [getString, getUint32_none found]
    · intro torn
      obtain ⟨length, there, -⟩ := torn
      rw [found] at there
      cases there
  | some length =>
    right
    rw [getString, getUint32_some found] at failed ⊢
    cases short : (payload.skip 4).isShort length.toNat with
    | true => exact ⟨4, by decide, by decide, by simp [short], length, found, short⟩
    | false => simp [short] at failed

theorem array_failed {payload : Payload} {elementSize : Nat}
    (failed : (payload.getArrayWithLength elementSize).1 = .ok none) :
    payload.Failed (.arrayWithLength elementSize) (payload.getArrayWithLength elementSize).2 := by
  cases found : (payload.getUint32 true).1 with
  | none =>
    left
    constructor
    · rw [getArrayWithLength, getUint32_none found]
    · intro torn
      obtain ⟨length, there, -⟩ := torn
      rw [found] at there
      cases there
  | some length =>
    right
    rw [getArrayWithLength, getUint32_some found] at failed ⊢
    have loops := getElements_loops payload elementSize (length.toNat / elementSize) 4
    dsimp only at failed ⊢
    generalize getElements elementSize (length.toNat / elementSize) (payload.skip 4) = result
      at loops failed ⊢
    cases loops with
    | whole there => cases failed
    | @lacking index below lacks =>
      have announced : index * elementSize ≤ length.toNat :=
        (Nat.mul_le_mul_right elementSize below.le).trans (Nat.div_mul_le_self _ _)
      have bound := length.toNat_lt
      exact ⟨4 + index * elementSize, by omega, by omega, rfl, length, found, index, below, lacks⟩
    | threw there inverted => cases failed

theorem readWith_failed {payload : Payload} {reader : Reader}
    (failed : (payload.readWith reader).1 = .ok false) :
    payload.Failed reader (payload.readWith reader).2 := by
  cases reader with
  | item read =>
    cases read with
    | uint8 => exact .inl ⟨item_unchanged Item.uint8 (uint8_unchanged payload) failed, id⟩
    | uint16 bigEndian =>
      have same := fixed_unchanged payload 2 (word16 bigEndian)
      exact .inl ⟨item_unchanged (Item.uint16 · bigEndian) same failed, id⟩
    | uint32 bigEndian =>
      have same := fixed_unchanged payload 4 (word32 bigEndian)
      exact .inl ⟨item_unchanged (Item.uint32 · bigEndian) same failed, id⟩
    | uint64 bigEndian =>
      have same := fixed_unchanged payload 8 (word64 bigEndian)
      exact .inl ⟨item_unchanged (Item.uint64 · bigEndian) same failed, id⟩
    | bytes length => exact .inl ⟨bytes_unchanged payload length (refused_of_map failed), id⟩
    | array length => exact .inl ⟨bytes_unchanged payload length (refused_of_map failed), id⟩
    | string =>
      have none : payload.getString.1 = none := by
        simpa [readWith, getItem, answered, Except.map] using failed
      exact string_failed none
  | arrayWithLength elementSize =>
    have none : (payload.getArrayWithLength elementSize).1 = .ok none := by
      change (payload.getArrayWithLength elementSize).1.map Option.isSome = _ at failed
      generalize (payload.getArrayWithLength elementSize).1 = result at failed
      obtain thrown | _ | elements := result
      · cases failed
      · rfl
      · cases failed
    exact array_failed none

theorem torn_fails {payload : Payload} {reader : Reader} (torn : payload.Torn reader) :
    (payload.readWith reader).1 = .ok false := by
  cases reader with
  | item read =>
    cases read with
    | string =>
      obtain ⟨length, found, short⟩ := torn
      simp [readWith, getItem, getString, getUint32_some found, short, answered, Except.map]
    | _ => exact torn.elim
  | arrayWithLength elementSize =>
    obtain ⟨length, found, index, below, short, straight⟩ := torn
    have loops := getElements_loops payload elementSize (length.toNat / elementSize) 4
    rw [readWith, getArrayWithLength, getUint32_some found]
    dsimp only
    generalize getElements elementSize (length.toNat / elementSize) (payload.skip 4) = result
      at loops ⊢
    cases loops with
    | whole there =>
      rw [there index below] at short
      cases short
    | lacking => rfl
    | @threw ended after there inverted =>
      -- The read that throws comes before the element that is not there, or is that element's.
      rcases Nat.lt_or_ge ended index with before | behind
      · rw [straight ended before] at inverted
        cases inverted
      · rw [there index behind] at short
        cases short

/-- A read that fails leaves the payload as it was exactly when it does not stop behind a length
    that announces more than there is. -/
theorem failedRead_unchanged_iff (payload : Payload) (reader : Reader) :
    ((payload.readWith reader).1 = .ok false → (payload.readWith reader).2 = payload) ↔
      ¬ payload.Torn reader := by
  constructor
  · intro unchanged torn
    have failed := torn_fails torn
    rcases readWith_failed failed with ⟨-, whole⟩ | ⟨moved, positive, small, stopped, -⟩
    · exact whole torn
    · exact skip_ne payload positive small (stopped.symm.trans (unchanged failed))
  · intro whole failed
    rcases readWith_failed failed with ⟨same, -⟩ | ⟨moved, -, -, -, torn⟩
    · exact same
    · exact absurd torn whole

/-- A string of ten bytes of which three are there. -/
theorem shortString_moved : ¬ ∀ (payload : Payload) (reader : Reader),
    (payload.readWith reader).1 = .ok false → (payload.readWith reader).2 = payload := by
  intro unchanged
  exact absurd (unchanged (ofData [0, 0, 0, 10, 97, 98, 99]) (.item .string) (by decide))
    (by decide)

/-- A byte read returns, true exactly when the bytes are there, and gives them. -/
structure ReadsExactly (payload : Payload) (length : UInt64)
    (result : Except Exception (Option PayloadData) × Payload) : Prop where
  returns : ∃ found, result.1 = .ok found ∧
    (found.isSome = true ↔ length.toNat ≤ payload.size - payload.position)
  value : ∀ value, result.1 = .ok (some value) → value.length = length.toNat ∧
    value <+: payload.data.drop payload.position
  position : ∀ value, result.1 = .ok (some value) →
    result.2.position = payload.position + length.toNat

theorem readsExactly_of_fits {payload : Payload} (inside : payload.position ≤ payload.size)
    {length : UInt64} (fits : payload.position + length.toNat < 2 ^ 64) :
    ReadsExactly payload length (payload.getBytes length.toNat) := by
  have whole : (payload.position + length.toNat) % 2 ^ 64 = payload.position + length.toNat :=
    Nat.mod_eq_of_lt fits
  have guard : payload.isShort length.toNat =
      decide (payload.size < payload.position + length.toNat) := by
    rw [isShort, whole]
  rcases getBytes_cases payload length.toNat with
    ⟨short, read⟩ | ⟨-, inverted, -⟩ | ⟨there, -, read⟩
  · rw [guard, decide_eq_true_iff] at short
    rw [read]
    constructor
    · refine ⟨none, rfl, ?_⟩
      simp only [Option.isSome_none, Bool.false_eq_true, false_iff]
      omega
    · intro value found
      cases found
    · intro value found
      cases found
  · rw [isInverted, whole, decide_eq_true_iff] at inverted
    omega
  · rw [guard, decide_eq_false_iff_not, Nat.not_lt] at there
    rw [read]
    constructor
    · refine ⟨_, rfl, ?_⟩
      simp only [Option.isSome_some, true_iff]
      omega
    · intro value found
      obtain rfl := Option.some.inj (Except.ok.inj found)
      rw [size] at there
      constructor
      · rw [next, List.length_take, List.length_drop]
        omega
      · exact List.take_prefix _ _
    · intro _ _
      exact whole

/-- Where the sum wraps, the guard lets the read through, and it throws. -/
theorem getBytes_wrapped {payload : Payload} (inside : payload.position ≤ payload.size)
    (bound : payload.size < 2 ^ 64) {length : UInt64}
    (wraps : 2 ^ 64 ≤ payload.position + length.toNat) :
    payload.getBytes length.toNat = (.error .lengthError, payload) := by
  have small := length.toNat_lt
  rcases getBytes_cases payload length.toNat with
    ⟨short, -⟩ | ⟨-, -, read⟩ | ⟨-, straight, -⟩
  · rw [isShort, decide_eq_true_iff] at short
    omega
  · exact read
  · rw [isInverted, decide_eq_false_iff_not] at straight
    omega

/-- The byte reads are exact as long as the end of what is asked for is a `size_t`. -/
theorem byteReads_exact_iff {payload : Payload} (inside : payload.position ≤ payload.size)
    (bound : payload.size < 2 ^ 64) (length : UInt64) :
    (ReadsExactly payload length (payload.getBytes length.toNat) ∧
        ReadsExactly payload length (payload.getArray length.toNat)) ↔
      payload.position + length.toNat < 2 ^ 64 := by
  rw [getArray, and_self]
  constructor
  · intro reads
    by_contra wraps
    obtain ⟨found, answer, -⟩ := reads.returns
    rw [getBytes_wrapped inside bound (Nat.le_of_not_lt wraps)] at answer
    cases answer
  · exact readsExactly_of_fits inside

theorem byteReads_three : ReadsExactly ⟨[1, 2, 3, 4], 1⟩ 3 (getBytes ⟨[1, 2, 3, 4], 1⟩ 3) ∧
    ReadsExactly ⟨[1, 2, 3, 4], 1⟩ 3 (getArray ⟨[1, 2, 3, 4], 1⟩ 3) :=
  (@byteReads_exact_iff ⟨[1, 2, 3, 4], 1⟩ (by decide) (by decide) 3).mpr (by decide)

/-- Behind the one byte of a payload, 2^64 - 1 more are asked for. -/
theorem hugeLength_throws : ¬ ∀ payload : Payload, payload.position ≤ payload.size →
    payload.size < 2 ^ 64 → ∀ length : UInt64,
      ReadsExactly payload length (payload.getBytes length.toNat) ∧
        ReadsExactly payload length (payload.getArray length.toNat) := by
  intro exact
  have reads := (exact ⟨[7], 1⟩ (by decide) (by decide) 18446744073709551615).1
  obtain ⟨found, answer, -⟩ := reads.returns
  cases answer

section Announced

variable {payload : Payload} {rest : PayloadData}

theorem getElements_whole (elementSize : Nat) (bound : payload.size < 2 ^ 63) {count : Nat}
    (enough : payload.position + count * elementSize ≤ payload.size) :
    ∃ elements,
      getElements elementSize count payload =
          (.ok (some elements), payload.skip (count * elementSize)) ∧
        elements.length = count ∧
        elements.flatten = (payload.data.drop payload.position).take (count * elementSize) := by
  induction count generalizing payload with
  | zero =>
    rw [Nat.zero_mul, Nat.add_zero] at enough
    have still : payload.skip 0 = payload := by
      rw [skip, Nat.add_zero, Nat.mod_eq_of_lt (by omega)]
    refine ⟨[], ?_, rfl, ?_⟩
    · rw [Nat.zero_mul, still]
      rfl
    · rw [Nat.zero_mul]
      rfl
  | succ count ih =>
    rw [Nat.succ_mul] at enough
    have first : payload.position + elementSize ≤ payload.size := by omega
    have moved := skip_position first bound
    have read := getBytes_there first bound
    obtain ⟨elements, later, length, bytes⟩ := @ih (payload.skip elementSize) bound (by
      rw [moved]
      change _ ≤ payload.size
      omega)
    have total : elementSize + count * elementSize = (count + 1) * elementSize := by
      rw [Nat.succ_mul, Nat.add_comm]
    refine ⟨payload.next elementSize :: elements, ?_, congrArg (· + 1) length, ?_⟩
    · rw [getElements, read]
      simp only [later, skip_skip, total]
    · rw [List.flatten_cons, bytes, moved, data_skip, next, ← List.drop_drop, ← List.take_add,
        total]

theorem getElements_short {elementSize : Nat} (small : elementSize < 2 ^ 63)
    (bound : payload.size < 2 ^ 63) (inside : payload.position ≤ payload.size) {count : Nat}
    (missing : payload.size < payload.position + count * elementSize) :
    (getElements elementSize count payload).1 = .ok none := by
  induction count generalizing payload with
  | zero =>
    rw [Nat.zero_mul] at missing
    omega
  | succ count ih =>
    rw [Nat.succ_mul] at missing
    by_cases first : payload.position + elementSize ≤ payload.size
    · have moved := skip_position first bound
      have read := getBytes_there first bound
      have later := @ih (payload.skip elementSize) bound (by rw [moved]; exact first) (by
        rw [moved]
        change payload.size < _
        omega)
      rw [getElements, read]
      dsimp only
      generalize getElements elementSize count (payload.skip elementSize) = result at later ⊢
      obtain ⟨found, after⟩ := result
      cases later
      rfl
    · have short : payload.isShort elementSize = true := by
        rw [isShort, Nat.mod_eq_of_lt (by omega)]
        exact decide_eq_true (Nat.not_le.mp first)
      rw [getElements, getBytes, short]
      rfl

section Length

variable {length : UInt32} (bound : payload.size < 2 ^ 63)
  (announced : payload.data.drop payload.position = BigEndian.bytes32 length ++ rest)

include announced in
theorem announced_size : payload.position + 4 + rest.length = payload.size := by
  have counted := congrArg List.length announced
  rw [List.length_drop, List.length_append, BigEndian.bytes32_length] at counted
  unfold size
  omega

include bound announced

theorem announced_position : (payload.skip 4).position = payload.position + 4 := by
  have size := announced_size announced
  exact skip_position (by omega) bound

theorem getArrayWithLength_eq (elementSize : Nat) : payload.getArrayWithLength elementSize =
    getElements elementSize (length.toNat / elementSize) (payload.skip 4) := by
  have size := announced_size announced
  have lengthRead : payload.getUint32 true = (some length, payload.skip 4) := by
    rw [getUint32, getFixed_eq _ announced (by omega) bound (BigEndian.bytes32_length _)]
    exact congrArg (fun value => (some value, payload.skip 4)) (BigEndian.word32_bytes length)
  rw [getArrayWithLength, lengthRead]

theorem getArrayWithLength_there {elementSize : Nat}
    (there : length.toNat / elementSize * elementSize ≤ rest.length) :
    ∃ elements after, payload.getArrayWithLength elementSize = (.ok (some elements), after) ∧
      after.position = payload.position + 4 + length.toNat / elementSize * elementSize ∧
      elements.length = length.toNat / elementSize ∧
      elements.flatten = rest.take (length.toNat / elementSize * elementSize) := by
  have size := announced_size announced
  have moved := announced_position bound announced
  have behind : (payload.skip 4).data.drop (payload.skip 4).position = rest :=
    drop_skip announced (by omega) bound
  obtain ⟨elements, found, count, bytes⟩ := @getElements_whole (payload.skip 4) elementSize
    bound (length.toNat / elementSize) (by
      rw [moved]
      change _ ≤ payload.size
      omega)
  rw [← getArrayWithLength_eq bound announced, skip_skip] at found
  rw [behind] at bytes
  refine ⟨elements, _, found, ?_, count, bytes⟩
  rw [skip_position (by omega) bound, Nat.add_assoc]

theorem getArrayWithLength_missing {elementSize : Nat}
    (missing : rest.length < length.toNat / elementSize * elementSize) :
    (payload.getArrayWithLength elementSize).1 = .ok none := by
  have size := announced_size announced
  have moved := announced_position bound announced
  have small := length.toNat_lt
  have division := Nat.div_mul_le_self length.toNat elementSize
  have announces : 0 < length.toNat / elementSize := by
    rw [Nat.pos_iff_ne_zero]
    intro zero
    rw [zero, Nat.zero_mul] at missing
    omega
  have smaller : elementSize ≤ length.toNat / elementSize * elementSize :=
    Nat.le_mul_of_pos_left elementSize announces
  have still : (payload.skip 4).size < 2 ^ 63 := bound
  rw [getArrayWithLength_eq bound announced]
  apply getElements_short (by omega) still
  · rw [moved]
    change _ ≤ payload.size
    omega
  · rw [moved]
    change payload.size < _
    omega

end Length

/-- The array is read with all the bytes that its length announces. -/
structure ConsumedWhole (payload : Payload) (length : UInt32) (elementSize : Nat)
    (rest : PayloadData) (elements : List PayloadData) (after : Payload) : Prop where
  position : after.position = payload.position + 4 + length.toNat
  count : elements.length = length.toNat / elementSize
  bytes : elements.flatten <+: rest
  length : elements.flatten.length = length.toNat

/-- An array that is read is consumed whole exactly when the size of an element divides the
    length, or the elements are not all there. -/
theorem getArrayWithLength_whole_iff {length : UInt32} {elementSize : Nat}
    (bound : payload.size < 2 ^ 63)
    (announced : payload.data.drop payload.position = BigEndian.bytes32 length ++ rest) :
    (∀ elements after, payload.getArrayWithLength elementSize = (.ok (some elements), after) →
        ConsumedWhole payload length elementSize rest elements after) ↔
      elementSize ∣ length.toNat ∨ rest.length < length.toNat / elementSize * elementSize := by
  rcases Nat.lt_or_ge rest.length (length.toNat / elementSize * elementSize) with missing | there
  · have none := getArrayWithLength_missing bound announced missing
    constructor
    · intro _
      exact .inr missing
    · intro _ elements after found
      rw [found] at none
      cases none
  · obtain ⟨elements, after, read, position, count, bytes⟩ :=
      getArrayWithLength_there bound announced there
    constructor
    · intro whole
      have announcedWhole := (whole elements after read).position
      have same : length.toNat / elementSize * elementSize = length.toNat := by omega
      exact .inl ⟨_, same.symm.trans (Nat.mul_comm _ _)⟩
    · intro fits others last result
      obtain ⟨same, rfl⟩ := Prod.mk.inj (result.symm.trans read)
      obtain rfl := Option.some.inj (Except.ok.inj same)
      have divided : length.toNat / elementSize * elementSize = length.toNat := by
        rcases fits with divides | missing
        · exact Nat.div_mul_cancel divides
        · exact absurd missing (Nat.not_lt.mpr there)
      rw [divided] at position bytes there
      constructor
      · exact position
      · exact count
      · rw [bytes]
        exact List.take_prefix _ _
      · rw [bytes, List.length_take]
        exact Nat.min_eq_left there

end Announced

theorem getArrayWithLength_pairs :
    ConsumedWhole (ofData [0, 0, 0, 4, 1, 2, 3, 4, 5]) 4 2 [1, 2, 3, 4, 5] [[1, 2], [3, 4]]
      ⟨[0, 0, 0, 4, 1, 2, 3, 4, 5], 8⟩ :=
  (@getArrayWithLength_whole_iff (ofData [0, 0, 0, 4, 1, 2, 3, 4, 5]) [1, 2, 3, 4, 5] 4 2
    (by decide) rfl).mpr (by decide) _ _ rfl

/-- Three bytes are announced, and the elements have two. -/
theorem threeBytes_left : ¬ ∀ (payload : Payload) (rest : PayloadData) (length : UInt32)
    (elementSize : Nat), 1 ≤ elementSize → payload.size < 2 ^ 63 →
      payload.data.drop payload.position = BigEndian.bytes32 length ++ rest →
        ∀ elements after, payload.getArrayWithLength elementSize = (.ok (some elements), after) →
          ConsumedWhole payload length elementSize rest elements after := by
  intro whole
  have consumed := whole (ofData [0, 0, 0, 3, 1, 2, 3]) [1, 2, 3] 3 2 (by decide) (by decide) rfl
    [[1, 2]] ⟨[0, 0, 0, 3, 1, 2, 3], 6⟩ rfl
  exact absurd consumed.position (by decide)

end Payload
end Msomeip
