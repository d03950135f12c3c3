import Msomeip.Library.Runs
import Msomeip.Library.SharedPointers

namespace Msomeip

variable {Config : Type} [Inhabited Config]

/-- The runtimes of a process by their configurations, and the weak pointer to the default one. -/
structure Runtimes (Config : Type) where
  heap : SharedPointers Config := {}
  defaultRuntime : Option Nat := none

namespace Runtimes

/-- The static functions, and what happens to the shared pointers that they return. `initialised`
    says whether `init` succeeds for a runtime that is made. -/
inductive Action (Config : Type)
  | get (initialised : Bool)
  | create (config : Config) (initialised : Bool)
  | setDefault (config : Config) (initialised : Bool)
  | copy (id : Nat)
  | drop (id : Nat)

/-- A runtime that `get` returned. -/
abbrev Got := Nat

/-- A runtime whose `init` fails is gone at once. -/
def create (runtimes : Runtimes Config) (config : Config) (initialised : Bool) :
    Runtimes Config × Option Nat :=
  if initialised then
    ({ runtimes with heap := runtimes.heap.make config }, some runtimes.heap.objects.length)
  else (runtimes, none)

/-- `Config{}` is the default value. -/
def get (runtimes : Runtimes Config) (initialised : Bool) : Runtimes Config × Option Nat :=
  match runtimes.heap.lock runtimes.defaultRuntime with
  | some id => (runtimes, some id)
  | none =>
    let (made, runtime) := runtimes.create default initialised
    ({ made with defaultRuntime := runtime }, runtime)

/-- The shared pointer to the new runtime ends with the function. -/
def setDefault (runtimes : Runtimes Config) (config : Config) (initialised : Bool) :
    Runtimes Config :=
  let (made, runtime) := runtimes.create config initialised
  match runtime with
  | some id => { made with defaultRuntime := some id }
  | none => made

def held (runtimes : Runtimes Config) (runtime : Option Nat) : Runtimes Config :=
  match runtime with
  | some id => { runtimes with heap := runtimes.heap.share id }
  | none => runtimes

def step : Runs.Step (Runtimes Config) (Action Config) Got := fun runtimes action =>
  match action with
  | .get initialised =>
    let (next, runtime) := runtimes.get initialised
    some (next.held runtime, runtime.toList)
  | .create config initialised =>
    let (next, runtime) := runtimes.create config initialised
    some (next.held runtime, [])
  | .setDefault config initialised => some (runtimes.setDefault config initialised, [])
  | .copy id =>
    if id ∈ runtimes.heap.owners then some ({ runtimes with heap := runtimes.heap.share id }, [])
    else none
  | .drop id =>
    if id ∈ runtimes.heap.owners then some ({ runtimes with heap := runtimes.heap.release id }, [])
    else none

/-- A successful `set_default`. -/
def Action.Replaces : Action Config → Prop
  | .setDefault _ initialised => initialised = true
  | _ => False

variable {runtimes next : Runtimes Config} {action : Action Config} {got emitted : List Got}

/-- What a step can do. -/
inductive Moves (runtimes : Runtimes Config) :
    Action Config → Runtimes Config → List Got → Prop
  | found {initialised : Bool} {id : Nat}
      (locked : runtimes.heap.lock runtimes.defaultRuntime = some id) :
      Moves runtimes (.get initialised) { runtimes with heap := runtimes.heap.share id } [id]
  | made (expired : runtimes.heap.lock runtimes.defaultRuntime = none) :
      Moves runtimes (.get true)
        ⟨(runtimes.heap.make default).share runtimes.heap.objects.length,
          some runtimes.heap.objects.length⟩ [runtimes.heap.objects.length]
  | failed (expired : runtimes.heap.lock runtimes.defaultRuntime = none) :
      Moves runtimes (.get false) { runtimes with defaultRuntime := none } []
  | created (config : Config) :
      Moves runtimes (.create config true)
        { runtimes with
          heap := (runtimes.heap.make config).share runtimes.heap.objects.length } []
  | replaced (config : Config) :
      Moves runtimes (.setDefault config true)
        ⟨runtimes.heap.make config, some runtimes.heap.objects.length⟩ []
  | kept (action : Action Config) (keeps : ¬ action.Replaces) : Moves runtimes action runtimes []
  | copied {id : Nat} (owned : id ∈ runtimes.heap.owners) :
      Moves runtimes (.copy id) { runtimes with heap := runtimes.heap.share id } []
  | dropped {id : Nat} : Moves runtimes (.drop id)
      { runtimes with heap := runtimes.heap.release id } []

theorem moves_of_step (stepped : step runtimes action = some (next, emitted)) :
    Moves runtimes action next emitted := by
  cases action with
  | get initialised =>
    cases locked : runtimes.heap.lock runtimes.defaultRuntime with
    | some id =>
      simp only [step, get, locked] at stepped
      cases stepped
      exact .found locked
    | none =>
      simp only [step, get, locked] at stepped
      cases initialised with
      | true =>
        cases stepped
        exact .made locked
      | false =>
        cases stepped
        exact .failed locked
  | create config initialised =>
    cases initialised with
    | true =>
      cases stepped
      exact .created config
    | false =>
      cases stepped
      exact .kept _ id
  | setDefault config initialised =>
    cases initialised with
    | true =>
      cases stepped
      exact .replaced config
    | false =>
      cases stepped
      exact .kept _ Bool.false_ne_true
  | copy id =>
    simp only [step] at stepped
    split at stepped
    · rename_i owned
      cases stepped
      exact .copied owned
    · cases stepped
  | drop id =>
    simp only [step] at stepped
    split at stepped
    · cases stepped
      exact .dropped
    · cases stepped

/-- What `get` has returned and what it would return have the default configuration. -/
structure Plain (got : List Got) (runtimes : Runtimes Config) : Prop where
  valid : runtimes.heap.Valid
  made : ∀ id, runtimes.defaultRuntime = some id → id < runtimes.heap.objects.length
  alive : ∀ id, runtimes.defaultRuntime = some id → id ∈ runtimes.heap.owners →
    runtimes.heap.objects[id]? = some default
  got : ∀ id ∈ got, runtimes.heap.objects[id]? = some default

/-- The runtimes that `get` has returned and that are alive are the default one. -/
def Single (got : List Got) (runtimes : Runtimes Config) : Prop :=
  ∀ id ∈ got, id ∈ runtimes.heap.owners → runtimes.defaultRuntime = some id

theorem Plain.lt (plain : Plain got runtimes) {id : Nat} (member : id ∈ got) :
    id < runtimes.heap.objects.length :=
  (List.getElem?_eq_some_iff.mp (plain.got id member)).1

/-- A runtime that is made and not yet owned changes nothing for the others. -/
theorem Plain.make (plain : Plain got runtimes) (config : Config) :
    Plain got { runtimes with heap := runtimes.heap.make config } where
  valid := plain.valid.make config
  made id found := by
    have before := plain.made id found
    simp only [SharedPointers.make, List.length_append, List.length_singleton]
    omega
  alive id found owned := by
    rw [SharedPointers.getElem?_make_of_lt config (plain.made id found)]
    exact plain.alive id found owned
  got id member := by
    rw [SharedPointers.getElem?_make_of_lt config (plain.lt member)]
    exact plain.got id member

theorem Plain.moves (plain : Plain got runtimes) (moves : Moves runtimes action next emitted) :
    Plain (got ++ emitted) next := by
  obtain ⟨valid, made, alive, plainGot⟩ := id plain
  cases moves with
  | found locked =>
    obtain ⟨found, owned⟩ := SharedPointers.lock_eq_some.mp locked
    refine ⟨valid.share (made _ found), made, fun other same _ => ?_, ?_⟩
    · obtain rfl := Option.some.inj (found.symm.trans same)
      exact alive _ found owned
    · exact List.forall_mem_append.mpr
        ⟨plainGot, List.forall_mem_singleton.mpr (alive _ found owned)⟩
  | made expired =>
    have before := plain.make default
    have last := SharedPointers.getElem?_make runtimes.heap default
    have inside : runtimes.heap.objects.length <
        (runtimes.heap.make default).objects.length :=
      (List.getElem?_eq_some_iff.mp last).1
    refine ⟨before.valid.share inside, fun id same => ?_, fun id same _ => ?_, ?_⟩
    · obtain rfl := Option.some.inj same
      exact inside
    · obtain rfl := Option.some.inj same
      exact last
    · exact List.forall_mem_append.mpr ⟨before.got, List.forall_mem_singleton.mpr last⟩
  | failed expired =>
    rw [List.append_nil]
    exact ⟨valid, by simp, by simp, plainGot⟩
  | created config =>
    have before := plain.make config
    have inside : runtimes.heap.objects.length <
        (runtimes.heap.make config).objects.length :=
      (List.getElem?_eq_some_iff.mp (SharedPointers.getElem?_make runtimes.heap config)).1
    rw [List.append_nil]
    refine ⟨before.valid.share inside, before.made, fun id found owned => ?_, before.got⟩
    rcases List.mem_cons.mp owned with rfl | earlier
    · exact (Nat.lt_irrefl _ (made _ found)).elim
    · exact before.alive id found earlier
  | replaced config =>
    have before := plain.make config
    rw [List.append_nil]
    refine ⟨before.valid, fun id same => ?_, fun id same owned => ?_, before.got⟩
    · obtain rfl := Option.some.inj same
      exact (List.getElem?_eq_some_iff.mp (SharedPointers.getElem?_make runtimes.heap config)).1
    · obtain rfl := Option.some.inj same
      exact (valid.unowned owned).elim
  | kept keeps =>
    rw [List.append_nil]
    exact plain
  | copied owned =>
    rw [List.append_nil]
    refine ⟨valid.share (valid _ owned), made, fun id found member => ?_, plainGot⟩
    rcases List.mem_cons.mp member with rfl | earlier
    · exact alive id found owned
    · exact alive id found earlier
  | dropped =>
    rw [List.append_nil]
    exact ⟨valid.release _, made,
      fun id found owned => alive id found (List.mem_of_mem_erase owned), plainGot⟩

theorem Single.moves (single : Single got runtimes) (plain : Plain got runtimes)
    (keeps : ¬ action.Replaces) (moves : Moves runtimes action next emitted) :
    Single (got ++ emitted) next := by
  have expire (expired : runtimes.heap.lock runtimes.defaultRuntime = none) :
      ∀ id ∈ got, id ∉ runtimes.heap.owners := by
    intro id member owned
    rw [SharedPointers.lock_eq_some.mpr ⟨single id member owned, owned⟩] at expired
    cases expired
  intro id member owned
  cases moves with
  | found locked =>
    have found := (SharedPointers.lock_eq_some.mp locked).1
    rcases List.mem_append.mp member with before | last
    · rcases List.mem_cons.mp owned with rfl | earlier
      · exact found
      · exact single id before earlier
    · obtain rfl := List.mem_singleton.mp last
      exact found
  | made expired =>
    rcases List.mem_cons.mp owned with rfl | earlier
    · rfl
    · rcases List.mem_append.mp member with before | last
      · exact (expire expired id before earlier).elim
      · obtain rfl := List.mem_singleton.mp last
        rfl
  | failed expired =>
    rw [List.append_nil] at member
    exact (expire expired id member owned).elim
  | created config =>
    rw [List.append_nil] at member
    rcases List.mem_cons.mp owned with rfl | earlier
    · exact (Nat.lt_irrefl _ (plain.lt member)).elim
    · exact single id member earlier
  | replaced config => exact (keeps rfl).elim
  | kept _ =>
    rw [List.append_nil] at member
    exact single id member owned
  | @copied copy ownedCopy =>
    rw [List.append_nil] at member
    rcases List.mem_cons.mp owned with rfl | earlier
    · exact single id member ownedCopy
    · exact single id member earlier
  | dropped =>
    rw [List.append_nil] at member
    exact single id member (List.mem_of_mem_erase owned)

/-- Every runtime that `get` returns has the default configuration, whatever `set_default` was given;
    and as long as no `set_default` has succeeded, all of them that are alive are one. -/
theorem got_default {actions : List (Action Config)}
    (run : Runs.Run step {} actions got runtimes) :
    (∀ id ∈ got, runtimes.heap.objects[id]? = some default) ∧
    ((∀ action ∈ actions, ¬ action.Replaces) → ∀ first ∈ got, ∀ second ∈ got,
      first ∈ runtimes.heap.owners → second ∈ runtimes.heap.owners → first = second) := by
  have both : Plain got runtimes ∧
      ((∀ action ∈ actions, ¬ action.Replaces) → Single got runtimes) := by
    apply run.invariant fun actions got runtimes => Plain got runtimes ∧
      ((∀ action ∈ actions, ¬ action.Replaces) → Single got runtimes)
    · exact ⟨⟨by simp [SharedPointers.Valid], by simp, by simp, by simp⟩, by simp [Single]⟩
    · intro actions got runtimes action next emitted before _ stepped
      obtain ⟨plain, single⟩ := before
      have moves := moves_of_step stepped
      refine ⟨plain.moves moves, fun keep => ?_⟩
      obtain ⟨earlier, last⟩ := List.forall_mem_append.mp keep
      exact (single earlier).moves plain (last action (List.mem_singleton_self action)) moves
  refine ⟨both.1.got, ?_⟩
  intro keep first inside second inside' owned owned'
  have single := both.2 keep
  exact Option.some.inj ((single first inside owned).symm.trans (single second inside' owned'))

/-- A default is set, by the names of the runtimes, before the first `get`; then another runtime is
    asked for while that one is alive. -/
def setThenGet : List (Action String) :=
  [.setDefault "gateway" true, .get true, .get true]

theorem setThenGet_default : ∃ runtimes : Runtimes String,
    Runs.Run step {} setThenGet [1, 1] runtimes ∧
      ∀ id ∈ [1, 1], runtimes.heap.objects[id]? = some "" := by
  have run : ∃ runtimes, Runs.Run step {} setThenGet [1, 1] runtimes :=
    Runs.exists_guarded (by decide +kernel)
  obtain ⟨runtimes, run⟩ := run
  exact ⟨runtimes, run, (got_default run).1⟩

end Runtimes
end Msomeip
