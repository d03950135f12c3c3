import Mathlib.Logic.Function.Basic
import Msomeip.Library.Runs

namespace Network

open Function (update)

/-- What a node does with a command, if it takes it, and with a packet that arrives: its next
    state, the packets that it sends, and what there is to report. -/
structure Protocol (Node Local Command Input Packet Report : Type*) where
  act : Node → Local → Command → Option (Local × List Packet × List Report)
  receive : Node → Local → Packet → Input → Local × List Packet × List Report

/-- The nodes, and all that was ever sent: a packet may be lost, delayed, overtaken and
    duplicated, and reach any node. -/
structure State (Node Local Packet : Type*) where
  locals : Node → Local
  wire : List Packet := []

inductive Action (Node Command Input Packet : Type*)
  | act (node : Node) (command : Command)
  | arrive (node : Node) (packet : Packet) (input : Input)

variable {Node Local Command Input Packet Report : Type*}

namespace State

def moved [DecidableEq Node] (state : State Node Local Packet) (node : Node) (next : Local)
    (packets : List Packet) : State Node Local Packet where
  locals := update state.locals node next
  wire := state.wire ++ packets

end State

namespace Protocol

variable (protocol : Protocol Node Local Command Input Packet Report)

def step [DecidableEq Node] [DecidableEq Packet] :
    Runs.Step (State Node Local Packet) (Action Node Command Input Packet) (Node × Report) :=
  fun state action =>
    match action with
    | .act node command =>
      (protocol.act node (state.locals node) command).map fun (next, packets, reports) =>
        (state.moved node next packets, reports.map (node, ·))
    | .arrive node packet input =>
      if packet ∈ state.wire then
        let (next, packets, reports) := protocol.receive node (state.locals node) packet input
        some (state.moved node next packets, reports.map (node, ·))
      else none

/-- The commands that are given in a run. -/
def Commanded (allowed : Node → Command → Prop) (_ : State Node Local Packet) :
    Action Node Command Input Packet → Prop
  | .act node command => allowed node command
  | .arrive .. => True

instance (allowed : Node → Command → Prop) [∀ node command, Decidable (allowed node command)]
    (state : State Node Local Packet) :
    (action : Action Node Command Input Packet) → Decidable (Commanded allowed state action)
  | .act node command => inferInstanceAs (Decidable (allowed node command))
  | .arrive .. => .isTrue trivial

/-- What a turn of a node leaves behind, after all that was reported before it. -/
structure Leaves (genuine : List (Node × Report) → Packet → Prop)
    (good : List (Node × Report) → Node → Local → Prop)
    (fine : List (Node × Report) → Node × Report → Prop) (reports : List (Node × Report))
    (node : Node) (result : Local × List Packet × List Report) : Prop where
  good : good (reports ++ result.2.2.map (node, ·)) node result.1
  genuine : ∀ packet ∈ result.2.1, genuine (reports ++ result.2.2.map (node, ·)) packet
  fine : ∀ report ∈ result.2.2, fine (reports ++ result.2.2.map (node, ·)) (node, report)

/-- What holds of each packet on its own, of each node on its own and of each report, in the light
    of all reports so far, and is not undone by what is reported later and elsewhere. -/
structure Lasting (genuine : List (Node × Report) → Packet → Prop)
    (good : List (Node × Report) → Node → Local → Prop)
    (fine : List (Node × Report) → Node × Report → Prop) : Prop where
  genuine_later : ∀ reports later packet, genuine reports packet → genuine (reports ++ later) packet
  fine_later : ∀ reports later report, fine reports report → fine (reports ++ later) report
  good_others : ∀ reports node other (later : List Report) state, other ≠ node → good reports node state →
    good (reports ++ later.map (other, ·)) node state

/-- Such a thing that is kept by each turn of a node that meets only such packets. -/
structure Invariant (allowed : Node → Command → Prop)
    (genuine : List (Node × Report) → Packet → Prop)
    (good : List (Node × Report) → Node → Local → Prop)
    (fine : List (Node × Report) → Node × Report → Prop) : Prop extends
    Lasting genuine good fine where
  acts : ∀ reports node state command result, good reports node state → allowed node command →
    protocol.act node state command = some result → Leaves genuine good fine reports node result
  receives : ∀ reports node state packet input, good reports node state → genuine reports packet →
    Leaves genuine good fine reports node (protocol.receive node state packet input)

/-- What an invariant says of all that is there. -/
structure Holds (genuine : List (Node × Report) → Packet → Prop)
    (good : List (Node × Report) → Node → Local → Prop)
    (fine : List (Node × Report) → Node × Report → Prop) (reports : List (Node × Report))
    (state : State Node Local Packet) : Prop where
  wire : ∀ packet ∈ state.wire, genuine reports packet
  locals : ∀ node, good reports node (state.locals node)
  reports : ∀ report ∈ reports, fine reports report

variable {protocol} {allowed : Node → Command → Prop}
  {genuine : List (Node × Report) → Packet → Prop}
  {good : List (Node × Report) → Node → Local → Prop}
  {fine : List (Node × Report) → Node × Report → Prop} {reports : List (Node × Report)}
  {state : State Node Local Packet}

theorem Holds.moved [DecidableEq Node] (lasting : Lasting genuine good fine)
    (holds : Holds genuine good fine reports state) {node : Node}
    {result : Local × List Packet × List Report}
    (leaves : Leaves genuine good fine reports node result) :
    Holds genuine good fine (reports ++ result.2.2.map (node, ·))
      (state.moved node result.1 result.2.1) := by
  constructor
  · intro packet member
    rcases List.mem_append.mp member with before | sent
    · exact lasting.genuine_later _ _ _ (holds.wire packet before)
    · exact leaves.genuine packet sent
  · intro other
    by_cases same : other = node
    · subst same
      simpa [State.moved] using leaves.good
    · simpa [State.moved, same] using
        lasting.good_others _ _ _ _ _ (Ne.symm same) (holds.locals other)
  · intro report member
    rcases List.mem_append.mp member with before | new
    · exact lasting.fine_later _ _ _ (holds.reports report before)
    · obtain ⟨own, reported, rfl⟩ := List.mem_map.mp new
      exact leaves.fine own reported

variable [DecidableEq Node] [DecidableEq Packet]

/-- An invariant holds along all runs, whatever is lost, delayed, overtaken or duplicated. -/
theorem Invariant.run (invariant : protocol.Invariant allowed genuine good fine)
    {start : State Node Local Packet} {actions : List (Action Node Command Input Packet)}
    (silent : start.wire = []) (initial : ∀ node, good [] node (start.locals node))
    (guarded : Runs.Guarded protocol.step (Commanded allowed) start actions reports state) :
    Holds genuine good fine reports state := by
  apply guarded.invariant fun _ reports state => Holds genuine good fine reports state
  · constructor
    · simp [silent]
    · exact initial
    · simp
  · intro _ reports state action next emitted holds commanded stepped
    cases action with
    | act node command =>
      obtain ⟨result, acted, same⟩ := Option.map_eq_some_iff.mp stepped
      obtain ⟨rfl, rfl⟩ := Prod.mk.inj same
      exact holds.moved invariant.toLasting
        (invariant.acts _ _ _ _ _ (holds.locals node) commanded acted)
    | arrive node packet input =>
      simp only [step] at stepped
      split at stepped
      · rename_i sent
        obtain ⟨rfl, rfl⟩ := Prod.mk.inj (Option.some.inj stepped)
        exact holds.moved invariant.toLasting
          (invariant.receives _ _ _ _ _ (holds.locals node) (holds.wire packet sent))
      · cases stepped

omit [DecidableEq Packet] in
/-- What a node is told to do, as a part of its state takes it. -/
def told {PartAction : Type*} (taken : Command → List PartAction) (node : Node)
    (actions : List (Action Node Command Input Packet)) : List PartAction :=
  actions.flatMap fun action =>
    match action with
    | .act other command => if other = node then taken command else []
    | .arrive .. => []

omit [DecidableEq Packet] in
theorem told_act {PartAction : Type*} (taken : Command → List PartAction) (node other : Node)
    (command : Command) (actions : List (Action Node Command Input Packet)) :
    told taken node (actions ++ [.act other command]) =
      told taken node actions ++ if other = node then taken command else [] := by
  simp [told]

omit [DecidableEq Packet] in
theorem told_arrive {PartAction : Type*} (taken : Command → List PartAction) (node other : Node)
    (packet : Packet) (input : Input) (actions : List (Action Node Command Input Packet)) :
    told taken node (actions ++ [.arrive other packet input]) = told taken node actions := by
  simp [told]

def noted {PartReport : Type*} (noting : Report → Option PartReport) (node : Node)
    (reports : List (Node × Report)) : List PartReport :=
  reports.filterMap fun report => if report.1 = node then noting report.2 else none

omit [DecidableEq Packet] in
theorem noted_self {PartReport : Type*} (noting : Report → Option PartReport) (node : Node)
    (own : List Report) : noted noting node (own.map (node, ·)) = own.filterMap noting := by
  simp [noted, List.filterMap_map]

theorem noted_other {PartReport : Type*} (noting : Report → Option PartReport) {node other : Node}
    (apart : other ≠ node) (own : List Report) : noted noting node (own.map (other, ·)) = [] := by
  simp [noted, List.filterMap_map, apart]

/-- A part of each node that its own commands drive and that no genuine packet touches goes the
    way it would go alone. -/
theorem Invariant.alone {Part PartAction PartReport : Type*}
    {partStep : Runs.Step Part PartAction PartReport} {partMeets : Part → PartAction → Prop}
    (invariant : protocol.Invariant allowed genuine good fine) (stands : Local → Part → Prop)
    (taken : Command → List PartAction) (noting : Report → Option PartReport)
    (acts : ∀ ⦃node state command next packets own part⦄,
      protocol.act node state command = some (next, packets, own) → stands state part →
        ∃ after, Runs.Guarded partStep partMeets part (taken command) (own.filterMap noting) after ∧
          stands next after)
    (unmoved : ∀ ⦃reports node state packet input part⦄, good reports node state →
      genuine reports packet → stands state part →
        (protocol.receive node state packet input).2.2.filterMap noting = [] ∧
          stands (protocol.receive node state packet input).1 part)
    {start : State Node Local Packet} {actions : List (Action Node Command Input Packet)}
    (silent : start.wire = []) (initial : ∀ node, good [] node (start.locals node))
    (guarded : Runs.Guarded protocol.step (Commanded allowed) start actions reports state)
    (node : Node) {part : Part} (stood : stands (start.locals node) part) :
    ∃ after, Runs.Guarded partStep partMeets part (told taken node actions)
      (noted noting node reports) after ∧ stands (state.locals node) after := by
  induction guarded with
  | nil => exact ⟨part, .nil, stood⟩
  | @snoc actions reports emitted state next action before commanded stepped ih =>
    obtain ⟨middle, run, standing⟩ := ih
    have holds := invariant.run silent initial before
    have later : noted noting node (reports ++ emitted) =
        noted noting node reports ++ noted noting node emitted := List.filterMap_append
    rw [later]
    cases action with
    | act other command =>
      rw [told_act]
      obtain ⟨⟨after, packets, own⟩, acted, same⟩ := Option.map_eq_some_iff.mp stepped
      obtain ⟨rfl, rfl⟩ := Prod.mk.inj same
      by_cases self : other = node
      · subst self
        obtain ⟨last, turn, stands⟩ := acts acted standing
        rw [noted_self, if_pos rfl]
        exact ⟨last, run.append turn, by simpa [State.moved] using stands⟩
      · rw [noted_other noting self, if_neg self, List.append_nil, List.append_nil]
        exact ⟨middle, run, by simpa [State.moved, Ne.symm self] using standing⟩
    | arrive other packet input =>
      simp only [step] at stepped
      split at stepped
      · rename_i sent
        obtain ⟨rfl, rfl⟩ := Prod.mk.inj (Option.some.inj stepped)
        rw [told_arrive]
        by_cases self : other = node
        · subst self
          obtain ⟨quiet, stands⟩ :=
            unmoved (holds.locals other) (holds.wire packet sent) standing
          rw [noted_self, quiet, List.append_nil]
          exact ⟨middle, run, by simpa [State.moved] using stands⟩
        · rw [noted_other noting self, List.append_nil]
          exact ⟨middle, run, by simpa [State.moved, Ne.symm self] using standing⟩
      · cases stepped

end Protocol
end Network
