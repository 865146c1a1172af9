import FeatureFlags.Ticker.Basic

namespace FeatureFlags.Ticker

/-!
# The slot of a ticker

Every indivisible move of a ticker keeps its slot in order: the slot holds the newest
refresh or nothing, and every refresh outside of it has been published. Outcomes
never change once they are there.
-/

variable {α : Type}

/-! ## Statuses -/

/-- Setting the status of a refresh leaves all others alone. -/
theorem status_setStatus
    (ticker : Ticker α)
    {refresh : Nat}
    (known : refresh < ticker.refreshes.length)
    (other : Nat)
    (status : RefreshStatus) :
    (ticker.setStatus refresh status).status other =
      if other = refresh then status else ticker.status other := by
  by_cases same : other = refresh
  · subst other
    simp [Ticker.status, setStatus, known]
  · simp [Ticker.status, setStatus, same, List.getElem?_set_ne (Ne.symm same)]

/-- A new refresh runs, and no other status changes. -/
theorem status_begin
    (ticker : Ticker α)
    (refresh : Nat) :
    ticker.begin.status refresh = ticker.status refresh := by
  rcases Nat.lt_trichotomy refresh ticker.refreshes.length with known | new | beyond
  · simp [Ticker.status, begin, List.getElem?_append_left, known]
  · simp [Ticker.status, begin, new]
  · simp [Ticker.status, begin, List.getElem?_append_right, Nat.le_of_lt beyond,
      Nat.sub_ne_zero_of_lt beyond]

/-- The end of a refresh is its own only. -/
theorem status_finish
    (ticker : Ticker α)
    {refresh : Nat}
    (known : refresh < ticker.refreshes.length)
    (now : Moment)
    (value : Option α)
    (other : Nat) :
    (ticker.finish now refresh value).status other =
      if other = refresh then .ended value.isSome else ticker.status other := by
  cases value with
  | none =>
      exact status_setStatus ticker known other (.ended false)
  | some value =>
      exact status_setStatus ticker known other (.ended true)

@[simp]
theorem slot_finish
    (ticker : Ticker α)
    (now : Moment)
    (refresh : Nat)
    (value : Option α) :
    (ticker.finish now refresh value).slot = ticker.slot := by
  cases value <;> rfl

@[simp]
theorem loop_finish
    (ticker : Ticker α)
    (now : Moment)
    (refresh : Nat)
    (value : Option α) :
    (ticker.finish now refresh value).loop = ticker.loop := by
  cases value <;> rfl

@[simp]
theorem length_refreshes_finish
    (ticker : Ticker α)
    (now : Moment)
    (refresh : Nat)
    (value : Option α) :
    (ticker.finish now refresh value).refreshes.length = ticker.refreshes.length := by
  cases value <;> exact List.length_set

/-- A refresh that does not run has begun. -/
theorem lt_length_of_status_ne_running
    {ticker : Ticker α}
    {refresh : Nat}
    (ended : ticker.status refresh ≠ .running) :
    refresh < ticker.refreshes.length := by
  apply Decidable.byContradiction
  intro beyond
  exact ended (by simp [Ticker.status, Nat.not_lt.mp beyond])

/-- Whoever sees an outcome finds it published already, or publishes it. -/
theorem await?_cases
    {ticker after : Ticker α}
    {refresh : Nat}
    {succeeded : Bool}
    (seen : ticker.await? refresh = some (after, succeeded)) :
    (ticker.status refresh = .published succeeded ∧ after = ticker) ∨
    (ticker.status refresh = .ended succeeded ∧
      after =
        { ticker.setStatus refresh (.published succeeded) with
          slot := if ticker.slot = some refresh then none else ticker.slot }) := by
  obtain ⟨outcome, found, pair⟩ := Option.map_eq_some_iff.mp seen
  obtain ⟨rfl, rfl⟩ := Prod.mk.inj pair
  unfold Ticker.outcome? at found
  cases status : ticker.status refresh with
  | running =>
      simp [status, RefreshStatus.outcome?] at found
  | ended ended =>
      simp only [status, RefreshStatus.outcome?, Option.some.injEq] at found
      subst found
      exact .inr ⟨rfl, by simp [publish, status]⟩
  | published published =>
      simp only [status, RefreshStatus.outcome?, Option.some.injEq] at found
      subst found
      exact .inl ⟨rfl, by simp [publish, status]⟩

/-- Seeing an outcome leaves the loops alone. -/
theorem loop_await?
    {ticker after : Ticker α}
    {refresh : Nat}
    {succeeded : Bool}
    (seen : ticker.await? refresh = some (after, succeeded)) :
    after.loop = ticker.loop := by
  rcases await?_cases seen with ⟨-, rfl⟩ | ⟨-, rfl⟩ <;> rfl

/-- Whoever sees an outcome is told the outcome of the refresh. -/
theorem outcome?_of_await?
    {ticker after : Ticker α}
    {refresh : Nat}
    {succeeded : Bool}
    (seen : ticker.await? refresh = some (after, succeeded)) :
    ticker.outcome? refresh = some succeeded := by
  obtain ⟨outcome, found, pair⟩ := Option.map_eq_some_iff.mp seen
  exact (Prod.mk.inj pair).2 ▸ found

/-- An outcome that has been seen is published, and no other status changes. -/
theorem status_of_await?
    {ticker after : Ticker α}
    {refresh : Nat}
    {succeeded : Bool}
    (seen : ticker.await? refresh = some (after, succeeded))
    (other : Nat) :
    after.status other = if other = refresh then .published succeeded else ticker.status other := by
  rcases await?_cases seen with ⟨published, rfl⟩ | ⟨ended, rfl⟩
  · by_cases same : other = refresh
    · rw [if_pos same, same, published]
    · rw [if_neg same]
  · have known : refresh < ticker.refreshes.length :=
      lt_length_of_status_ne_running (by simp [ended])
    exact status_setStatus ticker known other (.published succeeded)

/-- Seeing an outcome changes none. -/
theorem outcome?_await?
    {ticker after : Ticker α}
    {refresh : Nat}
    {succeeded : Bool}
    (seen : ticker.await? refresh = some (after, succeeded))
    (other : Nat) :
    after.outcome? other = ticker.outcome? other := by
  rw [Ticker.outcome?, status_of_await? seen]
  by_cases same : other = refresh
  · subst same
    rw [if_pos rfl, outcome?_of_await? seen]
    rfl
  · rw [if_neg same]
    rfl

/-- A new refresh has no outcome, and no outcome changes when it begins. -/
theorem outcome?_begin
    (ticker : Ticker α)
    (refresh : Nat) :
    ticker.begin.outcome? refresh = ticker.outcome? refresh :=
  congrArg RefreshStatus.outcome? (status_begin ticker refresh)

/-- The end of a refresh gives its outcome. -/
theorem outcome?_finish
    (ticker : Ticker α)
    {refresh : Nat}
    (known : refresh < ticker.refreshes.length)
    (now : Moment)
    (value : Option α)
    (other : Nat) :
    (ticker.finish now refresh value).outcome? other =
      if other = refresh then some value.isSome else ticker.outcome? other := by
  rw [Ticker.outcome?, status_finish ticker known]
  by_cases same : other = refresh
  · rw [if_pos same, if_pos same]
    rfl
  · rw [if_neg same, if_neg same]
    rfl

/-! ## Order -/

/-- The slot holds the newest refresh until it is published, and all others are published. -/
structure Orderly (ticker : Ticker α) : Prop where
  newest :
    ∀ {refresh},
      ticker.slot = some refresh →
      refresh + 1 = ticker.refreshes.length
  unpublished :
    ∀ {refresh},
      ticker.slot = some refresh →
      (ticker.status refresh).isPublished = false
  settled :
    ∀ {refresh},
      refresh < ticker.refreshes.length →
      ticker.slot ≠ some refresh →
      (ticker.status refresh).isPublished = true

/-- The refresh in the slot while it runs. -/
def running? (ticker : Ticker α) : Option Nat :=
  ticker.slot.filter fun refresh => ticker.status refresh = .running

theorem running?_eq_some_iff
    {ticker : Ticker α}
    {refresh : Nat} :
    ticker.running? = some refresh ↔
      ticker.slot = some refresh ∧ ticker.status refresh = .running := by
  simp [running?, Option.filter_eq_some_iff]

namespace Orderly

variable {ticker after : Ticker α} {refresh : Nat} {succeeded : Bool}

/-- A ticker without refreshes is in order. -/
theorem initial
    (name : String)
    (interval : Nat) :
    Orderly ({ name, interval } : Ticker α) where
  newest := nofun
  unpublished := nofun
  settled := nofun

/-- The refresh in the slot has begun. -/
theorem lt_length_of_slot
    (orderly : ticker.Orderly)
    (held : ticker.slot = some refresh) :
    refresh < ticker.refreshes.length := by
  have := orderly.newest held
  omega

/-- In order, whatever is in the slot can be joined. -/
theorem inFlight?_eq
    (orderly : ticker.Orderly) :
    ticker.inFlight? = ticker.slot := by
  cases held : ticker.slot with
  | none =>
      simp [inFlight?, held]
  | some refresh =>
      simp [inFlight?, held, orderly.unpublished held]

/-- A known refresh that has no outcome yet is the one in the slot. -/
theorem running?_of_outcome?_eq_none
    (orderly : ticker.Orderly)
    (known : refresh < ticker.refreshes.length)
    (noOutcome : ticker.outcome? refresh = none) :
    ticker.running? = some refresh := by
  have running : ticker.status refresh = .running := by
    cases status : ticker.status refresh with
    | running =>
        rfl
    | ended succeeded =>
        simp [Ticker.outcome?, status, RefreshStatus.outcome?] at noOutcome
    | published succeeded =>
        simp [Ticker.outcome?, status, RefreshStatus.outcome?] at noOutcome
  refine running?_eq_some_iff.mpr ⟨?_, running⟩
  apply Decidable.byContradiction
  intro notHeld
  have published := orderly.settled known notHeld
  simp [running, RefreshStatus.isPublished] at published

/-- A refresh that begins while the slot is empty keeps the order. -/
theorem begin
    (orderly : ticker.Orderly)
    (free : ticker.slot = none) :
    ticker.begin.Orderly where
  newest := by
    intro refresh held
    cases held
    simp [Ticker.begin]
  unpublished := by
    intro refresh held
    cases held
    have running : ticker.status ticker.refreshes.length = .running := by
      simp [Ticker.status]
    simp [status_begin, running, RefreshStatus.isPublished]
  settled := by
    intro refresh known notHeld
    have different : ticker.refreshes.length ≠ refresh := fun same =>
      notHeld (congrArg some same)
    have older : refresh < ticker.refreshes.length := by
      simp only [Ticker.begin, List.length_append, List.length_singleton] at known
      omega
    rw [status_begin]
    exact orderly.settled older (by simp [free])

/-- The end of the running refresh keeps the order. -/
theorem finish
    (orderly : ticker.Orderly)
    (running : ticker.running? = some refresh)
    (now : Moment)
    (value : Option α) :
    (ticker.finish now refresh value).Orderly := by
  obtain ⟨held, -⟩ := running?_eq_some_iff.mp running
  have known := orderly.lt_length_of_slot held
  refine ⟨?_, ?_, ?_⟩
  · intro other heldAfter
    simpa using orderly.newest (by simpa using heldAfter)
  · intro other heldAfter
    have same : other = refresh := by simpa [held, eq_comm] using heldAfter
    simp [status_finish ticker known, same, RefreshStatus.isPublished]
  · intro other knownAfter notHeld
    have different : other ≠ refresh := by
      rintro rfl
      exact notHeld (by simpa using held)
    rw [status_finish ticker known, if_neg different]
    exact orderly.settled (by simpa using knownAfter) (by simpa using notHeld)

/-- In order, only the refresh in the slot is published, which empties the slot. -/
theorem await?_cases
    (orderly : ticker.Orderly)
    (seen : ticker.await? refresh = some (after, succeeded)) :
    (ticker.status refresh = .published succeeded ∧ after = ticker) ∨
    (ticker.status refresh = .ended succeeded ∧
      ticker.slot = some refresh ∧
      after = { ticker.setStatus refresh (.published succeeded) with slot := none }) := by
  rcases Ticker.await?_cases seen with published | ⟨ended, shape⟩
  · exact .inl published
  · have held : ticker.slot = some refresh := by
      apply Decidable.byContradiction
      intro notHeld
      have known : refresh < ticker.refreshes.length :=
        lt_length_of_status_ne_running (by simp [ended])
      have published := orderly.settled known notHeld
      simp [ended, RefreshStatus.isPublished] at published
    exact .inr ⟨ended, held, by simpa [held] using shape⟩

/-- Seeing an outcome keeps the order. -/
theorem await?
    (orderly : ticker.Orderly)
    (seen : ticker.await? refresh = some (after, succeeded)) :
    after.Orderly := by
  rcases orderly.await?_cases seen with ⟨-, rfl⟩ | ⟨ended, held, rfl⟩
  · exact orderly
  · refine ⟨nofun, nofun, ?_⟩
    intro other knownAfter _
    rw [status_of_await? seen]
    by_cases same : other = refresh
    · rw [if_pos same]
      rfl
    · rw [if_neg same]
      exact orderly.settled (by simpa [setStatus] using knownAfter)
        (by simpa [held] using Ne.symm same)

/-- Seeing an outcome ends no refresh. -/
theorem running?_await?
    (orderly : ticker.Orderly)
    (seen : ticker.await? refresh = some (after, succeeded)) :
    after.running? = ticker.running? := by
  rcases orderly.await?_cases seen with ⟨-, rfl⟩ | ⟨ended, held, rfl⟩
  · rfl
  · simp [running?, held, ended, Option.filter_some]

/-- A refresh that has ended does not run. -/
theorem running?_finish
    (orderly : ticker.Orderly)
    (running : ticker.running? = some refresh)
    (now : Moment)
    (value : Option α) :
    (ticker.finish now refresh value).running? = none := by
  obtain ⟨held, -⟩ := running?_eq_some_iff.mp running
  simp [running?, held, status_finish ticker (orderly.lt_length_of_slot held)]

end Orderly

/-- A refresh that has begun is in flight. -/
theorem inFlight?_begin (ticker : Ticker α) :
    ticker.begin.inFlight? = some ticker.refreshes.length := by
  simp [inFlight?, begin, status, RefreshStatus.isPublished]

/-- A refresh that has begun runs. -/
theorem running?_begin (ticker : Ticker α) :
    ticker.begin.running? = some ticker.refreshes.length := by
  refine running?_eq_some_iff.mpr ⟨rfl, ?_⟩
  rw [status_begin]
  simp [Ticker.status]

/-! ## Changes -/

/-- What an indivisible move can do to a ticker. -/
inductive Change
    (now : Moment)
    (ticker : Ticker α) :
    Ticker α → Prop where
  | unchanged :
      Change now ticker ticker
  /-- Somebody sees the outcome of a refresh. -/
  | seen
      {refresh : Nat}
      {after : Ticker α}
      {succeeded : Bool} :
      ticker.await? refresh = some (after, succeeded) →
      Change now ticker after
  /-- The loop in force begins a refresh. -/
  | begun :
      ticker.disposed = false →
      ticker.inFlight? = none →
      Change now ticker ticker.begin
  /-- A caller begins a refresh and puts a new loop in force. -/
  | forced :
      ticker.disposed = false →
      ticker.inFlight? = none →
      Change now ticker { ticker.begin with loop := ticker.loop + 1 }
  /-- The running refresh ends. -/
  | finished
      {refresh : Nat}
      (value : Option α) :
      ticker.running? = some refresh →
      Change now ticker (ticker.finish now refresh value)
  | disposed :
      Change now ticker ticker.dispose

/-- A refresh is completed when its outcome is published. -/
def Completes
    (before after : Ticker α)
    (refresh : Nat) :
    Prop :=
  (before.status refresh).isPublished = false ∧ (after.status refresh).isPublished = true

namespace Change

variable {now : Moment} {ticker after : Ticker α} {refresh : Nat}

/-- Every change keeps the order. -/
theorem orderly
    (change : Change now ticker after)
    (inOrder : ticker.Orderly) :
    after.Orderly := by
  cases change with
  | unchanged =>
      exact inOrder
  | seen found =>
      exact inOrder.await? found
  | begun _ free =>
      exact inOrder.begin (inOrder.inFlight?_eq ▸ free)
  | forced _ free =>
      obtain ⟨newest, unpublished, settled⟩ := inOrder.begin (inOrder.inFlight?_eq ▸ free)
      exact ⟨newest, unpublished, settled⟩
  | finished value running =>
      exact inOrder.finish running now value
  | disposed =>
      exact ⟨inOrder.newest, inOrder.unpublished, inOrder.settled⟩

/-- An outcome stays what it is. -/
theorem outcome?_eq
    (change : Change now ticker after)
    (inOrder : ticker.Orderly)
    {succeeded : Bool}
    (found : ticker.outcome? refresh = some succeeded) :
    after.outcome? refresh = some succeeded := by
  cases change with
  | unchanged =>
      exact found
  | seen seen =>
      exact (outcome?_await? seen refresh).trans found
  | begun _ free =>
      exact (outcome?_begin ticker refresh).trans found
  | forced _ free =>
      exact (outcome?_begin ticker refresh).trans found
  | finished value running =>
      rename_i other
      obtain ⟨held, otherRuns⟩ := running?_eq_some_iff.mp running
      have different : refresh ≠ other := by
        rintro rfl
        simp [Ticker.outcome?, otherRuns, RefreshStatus.outcome?] at found
      rw [outcome?_finish ticker (inOrder.lt_length_of_slot held), if_neg different]
      exact found
  | disposed =>
      exact found

/-- No change forgets a refresh. -/
theorem length_refreshes_le
    (change : Change now ticker after)
    (inOrder : ticker.Orderly) :
    ticker.refreshes.length ≤ after.refreshes.length := by
  cases change with
  | unchanged =>
      exact Nat.le_refl _
  | seen seen =>
      rcases inOrder.await?_cases seen with ⟨-, rfl⟩ | ⟨-, -, rfl⟩
      · exact Nat.le_refl _
      · simp [setStatus]
  | begun _ free =>
      simp [Ticker.begin]
  | forced _ free =>
      simp [Ticker.begin]
  | finished value running =>
      simp
  | disposed =>
      exact Nat.le_refl _

/-- A refresh is completed exactly when it leaves the slot. -/
theorem completes_iff
    (change : Change now ticker after)
    (inOrder : ticker.Orderly) :
    Completes ticker after refresh ↔
      ticker.slot = some refresh ∧ after.slot ≠ some refresh := by
  constructor
  · rintro ⟨unpublished, published⟩
    -- Statuses are compared move by move; only a caller that sees an outcome publishes one.
    refine ⟨?_, fun held => ?_⟩
    · cases change with
      | unchanged =>
          simp [unpublished] at published
      | seen seen =>
          rename_i other succeeded
          rcases inOrder.await?_cases seen with ⟨-, rfl⟩ | ⟨ended, held, rfl⟩
          · simp [unpublished] at published
          · rw [status_of_await? seen] at published
            by_cases same : refresh = other
            · exact same ▸ held
            · simp [same, unpublished] at published
      | begun _ free =>
          simp [status_begin, unpublished] at published
      | forced _ free =>
          have := (congrArg RefreshStatus.isPublished
            (status_begin ticker refresh)).symm.trans published
          simp [unpublished] at this
      | finished value running =>
          rename_i other
          obtain ⟨held, -⟩ := running?_eq_some_iff.mp running
          rw [status_finish ticker (inOrder.lt_length_of_slot held)] at published
          by_cases same : refresh = other
          · exact same ▸ held
          · simp [same, unpublished] at published
      | disposed =>
          have := unpublished.symm.trans published
          simp at this
    · have := (change.orderly inOrder).unpublished held
      simp [published] at this
  · rintro ⟨held, lost⟩
    refine ⟨inOrder.unpublished held, (change.orderly inOrder).settled ?_ lost⟩
    have known := inOrder.newest held
    have longer := change.length_refreshes_le inOrder
    omega

end Change

end FeatureFlags.Ticker
