import Mathlib.Algebra.Order.Group.Basic
import Mathlib.Data.List.Chain
import Mathlib.Tactic.GCongr

namespace Polling

variable {Time : Type*} [AddCommGroup Time] [LinearOrder Time] [IsOrderedAddMonoid Time]

/-- The times, since `start`, at which a polled timer was found due are a period apart, and the
    time at which it is due next is one period from the last of them. -/
structure Paced (period start : Time) (fires : List Time) (next : Time) : Prop where
  apart : fires.IsChain fun earlier later => earlier + period ≤ later
  behind : ∀ last ∈ fires.getLast?, last + period ≤ next
  counted : start + (fires.length + 1) • period ≤ next

variable {period start now next : Time} {fires : List Time}

/-- A due timer is set to one period from now. -/
theorem Paced.fire (paced : Paced period start fires next) (due : next ≤ now) :
    Paced period start (fires ++ [now]) (now + period) where
  apart := by
    apply paced.apart.append (List.isChain_singleton now)
    intro last found first same
    obtain rfl := Option.some.inj same
    exact (paced.behind last found).trans due
  behind := by simp
  counted := by
    rw [List.length_append, List.length_singleton, succ_nsmul, ← add_assoc]
    gcongr
    exact paced.counted.trans due

/-- A timer that is set anew, whenever that is. -/
theorem Paced.rearm (apart : fires.IsChain fun earlier later => earlier + period ≤ later)
    (before : ∀ last ∈ fires.getLast?, last ≤ now) (counted : start + fires.length • period ≤ now) :
    Paced period start fires (now + period) where
  apart := apart
  behind last found := by
    gcongr
    exact before last found
  counted := by
    rw [succ_nsmul, ← add_assoc]
    gcongr

end Polling
