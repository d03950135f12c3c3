import Msomeip.Sd.SubscribeRequests

namespace Msomeip.Sd

theorem ServiceDiscovery.config_perform (sd : ServiceDiscovery) (action : Action) :
    (sd.perform action).1.config = sd.config := by
  cases action with
  | stopOfferService service instance' =>
    change (sd.stopOfferService service instance').1.config = _
    unfold stopOfferService
    split <;> rfl
  | handle call moment =>
    cases call with
    | subscribeEventgroup entry options =>
      have frame := congrArg config
        (sd.handleSubscribeEventgroup_frame entry options moment.accepted)
      exact frame
    | _ => rfl
  | _ => rfl

namespace Subscriber

/-- Each waiting call has had at most so many entries sent on its behalf. -/
def Bounded (limit : Nat) (subscriber : Subscriber) : Prop :=
  ∀ request ∈ subscriber.requests, request.sent ≤ limit

/-- A tick that sends finds no call that still waits after as many such ticks as there may be
    repetitions. -/
def AnsweredInTime (subscriber : Subscriber) (action : Action) : Prop :=
  subscriber.sd.Ticks action → 0 < subscriber.sd.config.repetitionMax →
    ∀ request ∈ subscriber.requests,
      request.ticks < subscriber.sd.config.repetitionMax.toNat

/-- Where anything may be repeated, an entry has been sent for a call at every tick since. -/
structure Counted (config : Config) (subscriber : Subscriber) : Prop where
  tracks : subscriber.Tracks
  unchanged : subscriber.sd.config = config
  counts : ∀ request ∈ subscriber.requests,
    request.sent = if 0 < config.repetitionMax then request.ticks else 0

theorem counted_step {config : Config} {subscriber : Subscriber}
    (counted : subscriber.Counted config) (action : Action) :
    (subscriber.perform action).Counted config := by
  have counts := counted.counts
  refine ⟨tracks_step counted.tracks action,
    (subscriber.sd.config_perform action).trans counted.unchanged, ?_⟩
  change ∀ request ∈ subscriber.waiting action, _
  cases action with
  | subscribeEventgroup service instance' eventgroup majorVersion now =>
    apply List.forall_mem_append.mpr ⟨counts, List.forall_mem_singleton.mpr _⟩
    dsimp only
    split <;> rfl
  | unsubscribeEventgroup service instance' eventgroup =>
    exact fun request member => counts request (List.mem_of_mem_filter member)
  | handle call moment =>
    cases call with
    | subscribeEventgroupAck entry =>
      exact fun request member => counts request (List.mem_of_mem_filter member)
    | _ => exact counts
  | retryPendingSubscriptions =>
    rw [waiting, charge_eq counted.tracks, counted.unchanged]
    intro request member
    obtain ⟨before, waits, rfl⟩ := List.mem_map.mp member
    have same := counts before waits
    by_cases some : 0 < config.repetitionMax
    · rw [if_pos some] at same ⊢
      simp only [same, some, and_true]
    · rw [if_neg some] at same ⊢
      simp only [same, some, and_false, if_false]
  | _ => exact counts

theorem counted_run {config : Config} {actions : List Action} {effects : List Effect}
    {subscriber : Subscriber} (run : Runs.Run step (start config) actions effects subscriber) :
    subscriber.Counted config := by
  apply run.invariant fun _ _ subscriber => subscriber.Counted config
  · exact ⟨⟨rfl, nofun⟩, rfl, nofun⟩
  · intro _ _ subscriber action next _ counted _ stepped
    rw [step_some stepped]
    exact counted_step counted action

theorem bounded_step {config : Config} {subscriber : Subscriber}
    (counted : subscriber.Counted config) {action : Action}
    (bounded : subscriber.Bounded config.repetitionMax.toNat)
    (answered : subscriber.AnsweredInTime action) :
    (subscriber.perform action).Bounded config.repetitionMax.toNat := by
  change ∀ request ∈ subscriber.waiting action, _
  cases action with
  | subscribeEventgroup service instance' eventgroup majorVersion now =>
    exact List.forall_mem_append.mpr
      ⟨bounded, List.forall_mem_singleton.mpr (Nat.zero_le _)⟩
  | unsubscribeEventgroup service instance' eventgroup =>
    exact fun request member => bounded request (List.mem_of_mem_filter member)
  | handle call moment =>
    cases call with
    | subscribeEventgroupAck entry =>
      exact fun request member => bounded request (List.mem_of_mem_filter member)
    | _ => exact bounded
  | retryPendingSubscriptions =>
    rw [waiting, charge_eq counted.tracks, counted.unchanged]
    intro request member
    obtain ⟨before, waits, rfl⟩ := List.mem_map.mp member
    by_cases sends : subscriber.sd.sendMessageCallback = true ∧ 0 < config.repetitionMax
    · have left := answered sends.1 (counted.unchanged ▸ sends.2) before waits
      have same := counted.counts before waits
      rw [if_pos sends.2] at same
      rw [counted.unchanged] at left
      simp only [if_pos sends]
      omega
    · simp only [if_neg sends]
      exact bounded before waits
  | _ => exact bounded

theorem answered_of_bounded {config : Config} {subscriber : Subscriber}
    (counted : subscriber.Counted config) {action : Action}
    (bounded : (subscriber.perform action).Bounded config.repetitionMax.toNat) :
    subscriber.AnsweredInTime action := by
  intro ticks some request waits
  cases action with
  | retryPendingSubscriptions =>
    have after : ∀ request ∈ subscriber.waiting .retryPendingSubscriptions,
        request.sent ≤ config.repetitionMax.toNat := bounded
    rw [waiting, charge_eq counted.tracks] at after
    have charged := after _ (List.mem_map_of_mem waits)
    have sends : subscriber.sd.sendMessageCallback = true ∧
        0 < subscriber.sd.config.repetitionMax := ⟨ticks, some⟩
    have same := counted.counts request waits
    rw [counted.unchanged] at some
    rw [if_pos some] at same
    rw [if_pos sends, same] at charged
    rw [counted.unchanged]
    exact charged
  | _ => exact ticks.elim

/-- Along a run, the repetitions are bounded exactly as long as every call is answered in time. -/
theorem retries_bounded_iff {config : Config} {actions : List Action} {effects : List Effect}
    {subscriber : Subscriber} (run : Runs.Run step (start config) actions effects subscriber) :
    Runs.Always step (start config)
        (fun _ _ state => state.Bounded config.repetitionMax.toNat) actions ↔
      Runs.Guarded step AnsweredInTime (start config) actions effects subscriber := by
  apply Runs.always_iff_guarded _ _ run
  · intro _ _ state guarded
    have both : state.Counted config ∧ state.Bounded config.repetitionMax.toNat := by
      apply guarded.invariant fun _ _ state =>
        state.Counted config ∧ state.Bounded config.repetitionMax.toNat
      · exact ⟨counted_run .nil, nofun⟩
      · intro _ _ state action next _ held answered stepped
        rw [step_some stepped]
        exact ⟨counted_step held.1 action, bounded_step held.1 held.2 answered⟩
    exact both.2
  · intro _ _ state action next _ guarded stepped bounded
    rw [step_some stepped] at bounded
    exact answered_of_bounded (counted_run guarded.run) bounded

/-- A subscription that nobody answers, and ticks of the worker. -/
def unanswered (ticks : Nat) : List Action :=
  [.setSendMessageCallback true, .subscribeEventgroup 0x1234 0x0001 0x0007 1 0] ++
    List.replicate ticks .retryPendingSubscriptions

theorem unanswered_bounded : ∃ effects subscriber,
    Runs.Run step (start {}) (unanswered 3) effects subscriber ∧
      Runs.Always step (start {}) (fun _ _ state => state.Bounded 3) (unanswered 3) := by
  have guarded := (((((Runs.Guarded.nil.snoc nofun rfl).snoc nofun rfl).snoc
    (fun _ _ => by decide) rfl).snoc (fun _ _ => by decide) rfl).snoc (fun _ _ => by decide) rfl :
      Runs.Guarded step AnsweredInTime (start {}) (unanswered 3) _ _)
  exact ⟨_, _, guarded.run, (retries_bounded_iff guarded.run).mpr guarded⟩

theorem unanswered_floods : ¬ ∀ config actions effects subscriber,
    Runs.Run step (start config) actions effects subscriber →
      subscriber.Bounded config.repetitionMax.toNat := by
  intro all
  have run := ((((((Runs.Guarded.nil.snoc trivial rfl).snoc trivial rfl).snoc trivial rfl).snoc
    trivial rfl).snoc trivial rfl).snoc trivial rfl :
      Runs.Run step (start {}) (unanswered 4) _ _)
  have bounded := all {} _ _ _ run
  exact absurd (bounded _ (List.mem_singleton_self _)) (by decide)

end Subscriber
end Msomeip.Sd
