import Mathlib.Data.List.Induction
import Mathlib.Data.List.Infix

namespace Runs

theorem exists_first {α : Type*} {holds : List α → Prop} (start : ¬ holds []) (all : List α)
    (finish : holds all) : ∃ before last after, all = before ++ last :: after ∧
      ¬ holds before ∧ holds (before ++ [last]) := by
  induction all using List.reverseRecOn with
  | nil => exact (start finish).elim
  | append_singleton front last ih =>
    by_cases earlier : holds front
    · obtain ⟨before, first, after, rfl, fails, becomes⟩ := ih earlier
      exact ⟨before, first, after ++ [last], by simp, fails, becomes⟩
    · exact ⟨front, last, [], rfl, earlier, finish⟩

variable {State Action Output : Type*}

/-- One atomic step of a system, with what it emits; `none` where the action is not enabled. -/
abbrev Step (State Action Output : Type*) := State → Action → Option (State × List Output)

/-- The runs from `start` whose every step meets a condition on its action and the state
    before it. -/
inductive Guarded (step : Step State Action Output) (meets : State → Action → Prop)
    (start : State) : List Action → List Output → State → Prop
  | nil : Guarded step meets start [] [] start
  | snoc {actions : List Action} {outputs emitted : List Output} {state next : State}
      {action : Action} :
      Guarded step meets start actions outputs state →
      meets state action →
      step state action = some (next, emitted) →
      Guarded step meets start (actions ++ [action]) (outputs ++ emitted) next

abbrev Run (step : Step State Action Output) (start : State) :=
  Guarded step (fun _ _ => True) start

variable {step : Step State Action Output} {meets : State → Action → Prop} {start : State}
  {actions : List Action} {outputs : List Output} {state : State}

theorem Guarded.run (guarded : Guarded step meets start actions outputs state) :
    Run step start actions outputs state := by
  induction guarded with
  | nil => exact .nil
  | snoc _ _ stepped ih => exact ih.snoc True.intro stepped

theorem Guarded.mono {weaker : State → Action → Prop}
    (guarded : Guarded step meets start actions outputs state)
    (implies : ∀ state action, meets state action → weaker state action) :
    Guarded step weaker start actions outputs state := by
  induction guarded with
  | nil => exact .nil
  | snoc _ met stepped ih => exact ih.snoc (implies _ _ met) stepped

theorem Guarded.invariant (guarded : Guarded step meets start actions outputs state)
    (holds : List Action → List Output → State → Prop) (initial : holds [] [] start)
    (kept : ∀ actions outputs state action next emitted, holds actions outputs state →
      meets state action → step state action = some (next, emitted) →
      holds (actions ++ [action]) (outputs ++ emitted) next) :
    holds actions outputs state := by
  induction guarded with
  | nil => exact initial
  | snoc _ met stepped ih => exact kept _ _ _ _ _ _ ih met stepped

theorem Guarded.append {later : List Action} {emitted : List Output} {final : State}
    (first : Guarded step meets start actions outputs state)
    (second : Guarded step meets state later emitted final) :
    Guarded step meets start (actions ++ later) (outputs ++ emitted) final := by
  induction second with
  | nil => simpa using first
  | snoc _ met stepped ih =>
    rw [← List.append_assoc, ← List.append_assoc]
    exact ih.snoc met stepped

theorem Guarded.head {action : Action} {emitted : List Output} {next : State}
    (met : meets start action) (stepped : step start action = some (next, emitted)) :
    Guarded step meets start [action] emitted next := by
  simpa using Guarded.snoc .nil met stepped

theorem Run.unique {outputs' : List Output} {state' : State}
    (first : Run step start actions outputs state)
    (second : Run step start actions outputs' state') : outputs = outputs' ∧ state = state' := by
  induction first generalizing outputs' state' with
  | nil =>
    generalize actionsEq : ([] : List Action) = actions at second
    cases second with
    | nil => exact ⟨rfl, rfl⟩
    | snoc _ _ _ => simp at actionsEq
  | @snoc actions _ _ _ _ action _ _ stepped ih =>
    generalize actionsEq : actions ++ [action] = all at second
    cases second with
    | nil => simp at actionsEq
    | snoc before _ stepped' =>
      obtain ⟨rfl, lastEq⟩ := List.append_inj' actionsEq rfl
      obtain rfl := List.head_eq_of_cons_eq lastEq
      obtain ⟨rfl, rfl⟩ := ih before
      rw [stepped] at stepped'
      obtain ⟨rfl, rfl⟩ := Prod.mk.inj (Option.some.inj stepped')
      exact ⟨rfl, rfl⟩

theorem Guarded.of_prefix {front : List Action} (before : front <+: actions)
    (guarded : Guarded step meets start actions outputs state) :
    ∃ outputs state, Guarded step meets start front outputs state := by
  induction guarded with
  | nil =>
    obtain rfl := List.prefix_nil.mp before
    exact ⟨_, _, .nil⟩
  | snoc whole met stepped ih =>
    rcases List.prefix_concat_iff.mp before with rfl | shorter
    · exact ⟨_, _, whole.snoc met stepped⟩
    · exact ih shorter

theorem Run.guarded_iff {accepts : Action → Prop} (run : Run step start actions outputs state) :
    Guarded step (fun _ action => accepts action) start actions outputs state ↔
      ∀ action ∈ actions, accepts action := by
  constructor
  · intro guarded
    apply guarded.invariant (fun actions _ _ => ∀ action ∈ actions, accepts action)
    · simp
    · intro actions _ _ action _ _ earlier met _
      have last : ∀ other ∈ [action], accepts other := by simpa using met
      exact List.forall_mem_append.mpr ⟨earlier, last⟩
  · intro all
    induction run with
    | nil => exact .nil
    | snoc _ _ stepped ih =>
      have earlier := ih fun action member => all action (List.mem_append_left _ member)
      have last := all _ (List.mem_append_right _ (List.mem_singleton_self _))
      exact earlier.snoc last stepped

/-- A property of the history and the state that holds after every prefix of the run. -/
def Always (step : Step State Action Output) (start : State)
    (holds : List Action → List Output → State → Prop) (actions : List Action) : Prop :=
  ∀ front, front <+: actions → ∀ outputs state,
    Run step start front outputs state → holds front outputs state

theorem always_of_guarded {holds : List Action → List Output → State → Prop}
    (kept : ∀ actions outputs state, Guarded step meets start actions outputs state →
      holds actions outputs state)
    (guarded : Guarded step meets start actions outputs state) :
    Always step start holds actions := by
  intro front before outputs state run
  obtain ⟨_, _, shorter⟩ := guarded.of_prefix before
  obtain ⟨rfl, rfl⟩ := Run.unique run shorter.run
  exact kept _ _ _ shorter

/-- Where a step that breaks the condition breaks the property, the property holds along a run
    exactly when every step of the run meets the condition. -/
theorem always_iff_guarded {holds : List Action → List Output → State → Prop}
    (kept : ∀ actions outputs state, Guarded step meets start actions outputs state →
      holds actions outputs state)
    (needed : ∀ actions outputs state action next emitted,
      Guarded step meets start actions outputs state →
      step state action = some (next, emitted) →
      holds (actions ++ [action]) (outputs ++ emitted) next → meets state action)
    (run : Run step start actions outputs state) :
    Always step start holds actions ↔ Guarded step meets start actions outputs state := by
  constructor
  · intro always
    induction run with
    | nil => exact .nil
    | snoc before _ stepped ih =>
      have guarded := ih fun front shorter => always front (shorter.trans (List.prefix_append _ _))
      have after := always _ (List.prefix_refl _) _ _ (before.snoc True.intro stepped)
      exact guarded.snoc (needed _ _ _ _ _ _ guarded stepped after) stepped
  · exact always_of_guarded kept

/-- A property of every step of the run: of the state before it, of its action and of the state
    after it. -/
def EachStep (step : Step State Action Output) (start : State)
    (holds : State → Action → State → Prop) (actions : List Action) : Prop :=
  ∀ front action, front ++ [action] <+: actions → ∀ outputs state emitted next,
    Run step start front outputs state → step state action = some (next, emitted) →
      holds state action next

/-- Where the condition says of each step whether it has the property, the steps of a run have it
    exactly when the run meets the condition. -/
theorem eachStep_iff_guarded {holds : State → Action → State → Prop}
    (exact : ∀ front outputs state action next emitted, Run step start front outputs state →
      step state action = some (next, emitted) → (holds state action next ↔ meets state action))
    (run : Run step start actions outputs state) :
    EachStep step start holds actions ↔ Guarded step meets start actions outputs state := by
  constructor
  · intro each
    induction run with
    | nil => exact .nil
    | snoc before _ stepped ih =>
      have guarded := ih fun front action shorter =>
        each front action (shorter.trans (List.prefix_append _ _))
      have held := each _ _ (List.prefix_refl _) _ _ _ _ before stepped
      exact guarded.snoc ((exact _ _ _ _ _ _ before stepped).mp held) stepped
  · intro guarded front action before outputs state emitted next shorter stepped
    obtain ⟨_, _, extended⟩ := guarded.of_prefix before
    generalize reached : front ++ [action] = all at extended
    cases extended with
    | nil => simp at reached
    | snoc earlier met _ =>
      obtain ⟨rfl, lastEq⟩ := List.append_inj' reached rfl
      obtain rfl := List.head_eq_of_cons_eq lastEq
      obtain ⟨-, rfl⟩ := Run.unique shorter earlier.run
      exact (exact _ _ _ _ _ _ shorter stepped).mpr met

/-- The system with its outputs replaced by what an observer notes at each step. -/
def observed {Record : Type*} (step : Step State Action Output)
    (observe : State → Action → List Record) : Step State Action Record := fun state action =>
  (step state action).map fun (next, _) => (next, observe state action)

theorem exists_observed {Record : Type*} (observe : State → Action → List Record)
    (run : Run step start actions outputs state) :
    ∃ records, Run (observed step observe) start actions records state := by
  induction run with
  | nil => exact ⟨[], .nil⟩
  | @snoc _ _ _ state next action _ _ stepped ih =>
    obtain ⟨records, before⟩ := ih
    have noted : observed step observe state action = some (next, observe state action) := by
      rw [observed, stepped, Option.map_some]
    exact ⟨_, before.snoc True.intro noted⟩

/-- The last of the items that the actions stand for. -/
def latest {Item : Type*} (item : Action → Option Item) (actions : List Action) : Option Item :=
  (actions.filterMap item).getLast?

theorem latest_snoc {Item : Type*} (item : Action → Option Item) (actions : List Action)
    (action : Action) : latest item (actions ++ [action]) =
      (item action).or (latest item actions) := by
  rw [latest, List.filterMap_append, List.getLast?_append, latest]
  cases found : item action <;> simp [found]

/-- A system that emits nothing. -/
def silent (next : State → Action → Option State) : Step State Action Unit := fun state action =>
  (next state action).map fun final => (final, [])

theorem silent_some {next : State → Action → Option State} {final : State} {action : Action}
    {emitted : List Unit} (stepped : silent next state action = some (final, emitted)) :
    next state action = some final := by
  obtain ⟨found, moved, same⟩ := Option.map_eq_some_iff.mp stepped
  obtain ⟨rfl, -⟩ := Prod.mk.inj same
  exact moved

theorem silent_of_next {next : State → Action → Option State} {final : State} {action : Action}
    (moved : next state action = some final) : silent next state action = some (final, []) := by
  rw [silent, moved, Option.map_some]

theorem Guarded.kept {next : State → Action → Option State} {outputs : List Unit}
    (guarded : Guarded (silent next) meets start actions outputs state) (holds : State → Prop)
    (initial : holds start) (kept : ∀ state action final, holds state → meets state action →
      next state action = some final → holds final) : holds state := by
  apply guarded.invariant (fun _ _ state => holds state) initial
  intro _ _ state action final _ before met stepped
  exact kept state action final before met (silent_some stepped)

def execute (step : Step State Action Output) (meets : State → Action → Prop)
    [∀ state action, Decidable (meets state action)] :
    State → List Action → Option (State × List Output)
  | state, [] => some (state, [])
  | state, action :: rest =>
    if meets state action then
      match step state action with
      | none => none
      | some (next, emitted) => (execute step meets next rest).map fun (final, later) =>
          (final, emitted ++ later)
    else none

theorem guarded_of_execute [∀ state action, Decidable (meets state action)]
    (executed : execute step meets start actions = some (state, outputs)) :
    Guarded step meets start actions outputs state := by
  induction actions generalizing start outputs with
  | nil =>
    obtain ⟨rfl, rfl⟩ := Prod.mk.inj (Option.some.inj executed)
    exact .nil
  | cons action rest ih =>
    simp only [execute] at executed
    split at executed
    · rename_i met
      split at executed
      · cases executed
      · rename_i next emitted stepped
        obtain ⟨⟨_, later⟩, tail, same⟩ := Option.map_eq_some_iff.mp executed
        obtain ⟨rfl, rfl⟩ := Prod.mk.inj same
        exact (Guarded.head met stepped).append (ih tail)
    · cases executed

theorem exists_guarded [∀ state action, Decidable (meets state action)]
    (executed : (execute step meets start actions).map Prod.snd = some outputs) :
    ∃ state, Guarded step meets start actions outputs state := by
  obtain ⟨⟨state, _⟩, found, rfl⟩ := Option.map_eq_some_iff.mp executed
  exact ⟨state, guarded_of_execute found⟩

end Runs
