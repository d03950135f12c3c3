import Mathlib.Data.List.Pairwise
import Mathlib.Data.List.Perm.Basic

universe u v w

namespace Folds

variable {State : Type u} {Item : Type v} {Key : Type w}

/-- Items of which any two may be taken in either order lead to one state in every order. -/
theorem foldl_perm {next : State → Item → State} {related : Item → Item → Prop}
    (symmetric : ∀ {first second}, related first second → related second first)
    (swap : ∀ first second, related first second →
      ∀ state, next (next state first) second = next (next state second) first)
    {items others : List Item} (perm : items.Perm others) (pairwise : items.Pairwise related)
    (state : State) : items.foldl next state = others.foldl next state := by
  apply perm.foldl_eq'
  intro first member second otherMember state
  have exchange : ∀ ⦃first⦄, first ∈ items → ∀ ⦃second⦄, second ∈ items →
      ∀ state, next (next state first) second = next (next state second) first := by
    apply List.Pairwise.forall_of_forall_of_flip
    · exact fun _ _ _ => rfl
    · exact pairwise.imp fun related => swap _ _ related
    · exact pairwise.imp fun related => swap _ _ (symmetric related)
  exact exchange member otherMember state

variable {View : Type*} [DecidableEq Key]

/-- A part of the state that only the items of its own key change is what these items alone make
    of it. -/
theorem view_foldl (view : State → Key → View) {next : State → Item → State} {key : Item → Key}
    {change : View → Item → View}
    (own : ∀ state item, view (next state item) (key item) = change (view state (key item)) item)
    (others : ∀ state item other, key item ≠ other → view (next state item) other = view state other)
    (state : State) (items : List Item) (wanted : Key) :
    view (items.foldl next state) wanted =
      (items.filter fun item => key item = wanted).foldl change (view state wanted) := by
  induction items generalizing state with
  | nil => rfl
  | cons item items ih =>
    rw [List.foldl_cons, ih]
    by_cases same : key item = wanted
    · rw [List.filter_cons_of_pos (by simpa using same), List.foldl_cons]
      subst same
      rw [own]
    · rw [List.filter_cons_of_neg (by simpa using same), others state item wanted same]

end Folds
