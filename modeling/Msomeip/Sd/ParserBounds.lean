import Msomeip.Sd.Parser

namespace Msomeip.Sd

open BigEndian SdOption

/-- The payload followed by zeros; no definition below depends on the zeros. -/
def padded (payload : PayloadData) : Nat → UInt8 := Tracked.buffer payload fun _ => 0

def wordAt (payload : PayloadData) (offset : Nat) : UInt32 :=
  word32 (padded payload offset) (padded payload (offset + 1)) (padded payload (offset + 2))
    (padded payload (offset + 3))

def entriesEnd (payload : PayloadData) : Nat := sdHeaderSize + (wordAt payload 4).toNat

def optionsStart (payload : PayloadData) : Nat := entriesEnd payload + 4

def optionsEnd (payload : PayloadData) : Nat :=
  optionsStart payload + (wordAt payload (entriesEnd payload)).toNat

def WholeAt (payload : PayloadData) (declaredEnd offset : Nat) : Prop :=
  offset + optionSize ≤ payload.length ∧ offset + 11 ≤ declaredEnd ∧ IPv4At (padded payload) offset

/-- An option that the payload ends in, although the declared end leaves room for it: in its length
    field, before its type, or, for an IPv4 option, anywhere in its 12 bytes. -/
def CutAt (payload : PayloadData) (declaredEnd offset : Nat) : Prop :=
  offset < payload.length ∧ offset + 4 ≤ declaredEnd ∧
    (payload.length < offset + 2 ∨
      offset + 2 + (lengthAt (padded payload) offset).toNat ≤ declaredEnd ∧
        (payload.length < offset + 3 ∨
          IPv4At (padded payload) offset ∧ payload.length < offset + optionSize))

/-- No option behind a row of whole options is cut off. -/
def Uncut (payload : PayloadData) (declaredEnd offset : Nat) : Prop :=
  ∀ count, (∀ index < count, WholeAt payload declaredEnd (offset + optionSize * index)) →
    ¬ CutAt payload declaredEnd (offset + optionSize * count)

theorem lengthAt_padded {payload : PayloadData} {offset : Nat} (beyond : Nat → UInt8)
    (inside : offset + 2 ≤ payload.length) :
    lengthAt (Tracked.buffer payload beyond) offset = lengthAt (padded payload) offset := by
  simp only [lengthAt, padded, Tracked.buffer_of_lt payload _ offset (by omega),
    Tracked.buffer_of_lt payload _ (offset + 1) (by omega)]

theorem ipv4At_padded {payload : PayloadData} {offset : Nat} (beyond : Nat → UInt8)
    (inside : offset + 3 ≤ payload.length) :
    IPv4At (Tracked.buffer payload beyond) offset ↔ IPv4At (padded payload) offset := by
  rw [IPv4At, IPv4At, lengthAt_padded beyond (by omega), padded,
    Tracked.buffer_of_lt payload _ (offset + 2) (by omega),
    Tracked.buffer_of_lt payload _ (offset + 2) (by omega)]

theorem option_within_iff (payload : PayloadData) (beyond : Nat → UInt8) {declaredEnd offset : Nat}
    (inside : offset < payload.length) :
    (deserialize (Tracked.buffer payload beyond) offset (declaredEnd - offset)).Within
      payload.length ↔ ¬ CutAt payload declaredEnd offset := by
  rw [deserialize_within_iff]
  unfold CutAt
  by_cases length : offset + 2 ≤ payload.length
  · rw [lengthAt_padded beyond length]
    by_cases type : offset + 3 ≤ payload.length
    · rw [ipv4At_padded beyond type]
      grind
    · grind
  · grind

theorem option_isSome_iff {payload : PayloadData} {beyond : Nat → UInt8} {declaredEnd offset : Nat}
    (within : (deserialize (Tracked.buffer payload beyond) offset (declaredEnd - offset)).Within
      payload.length) :
    (deserialize (Tracked.buffer payload beyond) offset (declaredEnd - offset)).val.isSome ↔
      WholeAt payload declaredEnd offset := by
  rw [deserialize_within_iff] at within
  rw [deserialize_isSome_iff]
  unfold WholeAt
  constructor
  · intro parsed
    obtain ⟨long, ipv4⟩ := parsed
    have declared : (lengthAt (Tracked.buffer payload beyond) offset).toNat = 9 := by
      rw [ipv4.1]
      rfl
    have room : offset + optionSize ≤ payload.length :=
      ((within (by omega)).2 (by omega)).2 ipv4
    have type : offset + 3 ≤ payload.length := by
      unfold optionSize at room
      omega
    have bound : offset + 11 ≤ declaredEnd := by omega
    exact ⟨room, bound, (ipv4At_padded beyond type).mp ipv4⟩
  · intro whole
    obtain ⟨room, long, ipv4⟩ := whole
    have type : offset + 3 ≤ payload.length := by
      unfold optionSize at room
      omega
    have bound : 11 ≤ declaredEnd - offset := by omega
    exact ⟨bound, (ipv4At_padded beyond type).mpr ipv4⟩

theorem uncut_iff (payload : PayloadData) (declaredEnd offset : Nat) :
    Uncut payload declaredEnd offset ↔ ¬ CutAt payload declaredEnd offset ∧
      (WholeAt payload declaredEnd offset → Uncut payload declaredEnd (offset + optionSize)) := by
  have shift (index : Nat) : offset + optionSize + optionSize * index =
      offset + optionSize * (index + 1) := by
    rw [Nat.mul_succ]
    omega
  constructor
  · intro uncut
    have first : ¬ CutAt payload declaredEnd offset := by simpa using uncut 0 (by simp)
    apply And.intro first
    intro whole count before
    rw [shift]
    apply uncut
    intro index bound
    cases index with
    | zero => simpa using whole
    | succ index =>
      rw [← shift]
      exact before index (by omega)
  · intro both count before
    obtain ⟨first, rest⟩ := both
    cases count with
    | zero => simpa using first
    | succ count =>
      have whole : WholeAt payload declaredEnd offset := by simpa using before 0 (by omega)
      have later : ∀ index < count,
          WholeAt payload declaredEnd (offset + optionSize + optionSize * index) := by
        intro index bound
        rw [shift]
        exact before (index + 1) (by omega)
      rw [← shift]
      exact rest whole count later

theorem parseOptions_within_iff (payload : PayloadData) (beyond : Nat → UInt8)
    (declaredEnd offset : Nat) :
    (parseOptions (Tracked.buffer payload beyond) payload.length declaredEnd offset).Within
      payload.length ↔ Uncut payload declaredEnd offset := by
  induction offset using parseOptions.induct payload.length declaredEnd with
  | case1 offset inside ih =>
    rw [parseOptions, if_pos inside, uncut_iff, Tracked.within_bind,
      option_within_iff payload beyond inside.2]
    apply and_congr_right
    intro uncut
    have whole := option_isSome_iff ((option_within_iff payload beyond inside.2).mpr uncut)
    cases found : (deserialize (Tracked.buffer payload beyond) offset (declaredEnd - offset)).val with
    | none =>
      simp only [found, Option.isSome_none, Bool.false_eq_true, false_iff] at whole
      simp [whole]
    | some option =>
      simp only [found, Option.isSome_some, true_iff] at whole
      simpa [whole] using ih option
  | case2 offset outside =>
    have nothing : Uncut payload declaredEnd offset := by
      intro count _ cut
      obtain ⟨before, room, -⟩ := cut
      exact outside ⟨by omega, by omega⟩
    rw [parseOptions, if_neg outside]
    simp only [Tracked.within_pure, nothing]

theorem readWord32_val {payload : PayloadData} (beyond : Nat → UInt8) {offset : Nat}
    (inside : offset + 4 ≤ payload.length) :
    (readWord32 (Tracked.buffer payload beyond) offset).val = wordAt payload offset := by
  simp [readWord32, wordAt, padded, Tracked.buffer_of_lt payload _ offset (by omega),
    Tracked.buffer_of_lt payload _ (offset + 1) (by omega),
    Tracked.buffer_of_lt payload _ (offset + 2) (by omega),
    Tracked.buffer_of_lt payload _ (offset + 3) (by omega)]

theorem uncut_of_short {payload : PayloadData} {declaredEnd offset : Nat}
    (short : payload.length < offset) : Uncut payload declaredEnd offset := by
  intro count _ cut
  have before := cut.1
  omega

/-- Every byte read lies inside the payload exactly when no option is cut off. -/
theorem reads_inside_iff (message : Message) (beyond : Nat → UInt8) :
    (parseSdMessage message beyond).Within message.payloadData.length ↔
      Uncut message.payloadData (optionsEnd message.payloadData)
        (optionsStart message.payloadData) := by
  unfold parseSdMessage Message.payloadData
  cases message.payload with
  | none => simpa using uncut_of_short (by simp [optionsStart])
  | some payload =>
    simp only [Payload.size]
    by_cases short : payload.data.length < 12
    · simpa [short] using uncut_of_short (by unfold optionsStart entriesEnd sdHeaderSize; omega)
    · have entries : sdHeaderSize + (readWord32 (Tracked.buffer payload.data beyond) 4).val.toNat =
          entriesEnd payload.data := by
        rw [readWord32_val beyond (by omega), entriesEnd]
      simp only [short, if_false, Tracked.within_bind, Tracked.within_read, readWord32_within,
        parseEntries_within, true_and, entries]
      change _ ∧ _ ∧ Tracked.Within (if optionsStart payload.data > payload.data.length then _ else _)
        _ ↔ _
      by_cases past : optionsStart payload.data > payload.data.length
      · simp only [past, if_true, Tracked.within_pure, uncut_of_short past, and_true, iff_true]
        omega
      · have inside : entriesEnd payload.data + 4 ≤ payload.data.length := Nat.le_of_not_lt past
        simp only [past, if_false, Tracked.within_bind, readWord32_within, inside,
          readWord32_val beyond inside, Tracked.within_pure, and_true, true_and]
        rw [← parseOptions_within_iff payload.data beyond, optionsEnd, optionsStart]
        have header : 0 < payload.data.length ∧ 4 + 4 ≤ payload.data.length := by omega
        simp only [header, true_and]

/-- An empty entries array, an options array declared to be 100 bytes long, and one byte of it. -/
def cutMessage : Message :=
  { payload := some (.ofData [0, 0, 0, 0, 0, 0, 0, 0, 0, 0, 0, 100, 0]) }

theorem cutMessage_overread : ¬ ∀ (message : Message) (beyond : Nat → UInt8),
    (parseSdMessage message beyond).Within message.payloadData.length := by
  intro all
  have inside := all cutMessage (fun _ => 0) 13 (by decide +kernel)
  revert inside
  decide

end Msomeip.Sd
