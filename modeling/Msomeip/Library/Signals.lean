import Msomeip.Library.Runs

universe u

/-- A notification that something has come up, or has gone down. -/
structure Signal (Key : Type u) where
  key : Key
  up : Bool
deriving DecidableEq, Repr

namespace Signal

variable {Key : Type u} [DecidableEq Key]

def about (key : Key) (signal : Signal Key) : Option Bool :=
  if signal.key = key then some signal.up else none

def last (key : Key) (signals : List (Signal Key)) : Option Bool :=
  Runs.latest (about key) signals

/-- No signal says that a key has gone down unless the last one about it said that it was up. -/
def Grounded (signals : List (Signal Key)) : Prop :=
  ∀ front key later, signals = front ++ ⟨key, false⟩ :: later → last key front = some true

def down (key : Key) : Signal Key := ⟨key, false⟩

theorem last_snoc (key : Key) (signals : List (Signal Key)) (signal : Signal Key) :
    last key (signals ++ [signal]) =
      if signal.key = key then some signal.up else last key signals := by
  rw [last, Runs.latest_snoc, about, last]
  split <;> rfl

theorem Grounded.snoc {signals : List (Signal Key)} {signal : Signal Key}
    (grounded : Grounded signals)
    (next : signal.up = false → last signal.key signals = some true) :
    Grounded (signals ++ [signal]) := by
  intro front key later split
  rcases List.eq_nil_or_concat later with rfl | ⟨middle, final, rfl⟩
  · obtain ⟨rfl, same⟩ := List.append_inj' split rfl
    obtain rfl := List.head_eq_of_cons_eq same
    exact next rfl
  · rw [List.concat_eq_append, ← List.cons_append, ← List.append_assoc] at split
    exact grounded front key middle (List.append_inj' split rfl).1

theorem last_downs (key : Key) (signals : List (Signal Key)) (keys : List Key) :
    last key (signals ++ keys.map down) =
      if key ∈ keys then some false else last key signals := by
  induction keys using List.reverseRecOn with
  | nil => simp
  | append_singleton keys other ih =>
    rw [List.map_append, ← List.append_assoc, List.map_singleton, last_snoc, ih]
    by_cases same : other = key
    · simp [down, same]
    · simp [down, same, Ne.symm same]

theorem Grounded.downs {signals : List (Signal Key)} (grounded : Grounded signals)
    {keys : List Key} (distinct : keys.Nodup) (up : ∀ key ∈ keys, last key signals = some true) :
    Grounded (signals ++ keys.map down) := by
  induction keys using List.reverseRecOn with
  | nil => simpa using grounded
  | append_singleton keys key ih =>
    obtain ⟨apart, -, absent⟩ := List.nodup_append.mp distinct
    rw [List.map_append, ← List.append_assoc, List.map_singleton]
    apply (ih apart fun other member => up other (List.mem_append_left _ member)).snoc
    intro _
    have fresh : key ∉ keys := fun member => absent key member key (List.mem_singleton_self _) rfl
    rw [down, last_downs, if_neg fresh]
    exact up key (List.mem_append_right _ (List.mem_singleton_self _))

end Signal
