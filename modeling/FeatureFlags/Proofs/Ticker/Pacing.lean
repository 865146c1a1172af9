import FeatureFlags.Proofs.Ticker.Slot
import FeatureFlags.Ticker.Loop

namespace FeatureFlags

/-!
# The pace of a ticker

Of all loops around a ticker only the loop in force begins refreshes. It waits for each of
them before it sleeps for the interval, and a forced refresh puts a loop in force that
waits for that refresh first. Whatever is marked while a refresh runs has therefore been
an interval ago whenever the loop in force begins the next one.
-/

variable {α : Type}

/-- The moves of a loop. -/
inductive TickerLoop.Moves
    (now : Moment)
    (ticker : Ticker α) :
    TickerLoop → TickerLoop.Move α → Prop where
  | sees
      {number refresh : Nat}
      {after : Ticker α}
      {succeeded : Bool} :
      ticker.await? refresh = some (after, succeeded) →
      Moves now ticker
        ⟨number, .awaiting refresh⟩
        { ticker := after, loop := some ⟨number, .resting⟩ }
  | ends
      {loop : TickerLoop} :
      Moves now ticker loop { ticker, loop := none }
  | sleeps
      {number : Nat} :
      ticker.isCancelled number = false →
      Moves now ticker
        ⟨number, .resting⟩
        { ticker, loop := some ⟨number, .sleeping (now + ticker.interval)⟩ }
  | wakes
      {number : Nat}
      {wake : Moment} :
      ticker.isCancelled number = false →
      wake ≤ now →
      Moves now ticker
        ⟨number, .sleeping wake⟩
        { ticker, loop := some ⟨number, .due⟩ }
  | joins
      {number refresh : Nat} :
      ticker.isCancelled number = false →
      ticker.inFlight? = some refresh →
      Moves now ticker
        ⟨number, .due⟩
        { ticker, loop := some ⟨number, .awaiting refresh⟩ }
  | begins
      {number : Nat} :
      ticker.isCancelled number = false →
      ticker.inFlight? = none →
      Moves now ticker
        ⟨number, .due⟩
        { ticker := ticker.begin
          loop := some ⟨number, .awaiting ticker.refreshes.length⟩
          refresh := some ticker.refreshes.length }

/-- Every possible move of a loop is among the rules. -/
theorem TickerLoop.Moves.of_move?
    {now : Moment}
    {ticker : Ticker α}
    {loop : TickerLoop}
    {move : TickerLoop.Move α}
    (possible : loop.move? now ticker = some move) :
    Moves now ticker loop move := by
  obtain ⟨number, stage⟩ := loop
  cases stage with
  | awaiting refresh =>
      obtain ⟨⟨after, succeeded⟩, seen, rfl⟩ := Option.map_eq_some_iff.mp possible
      exact .sees seen
  | resting =>
      cases cancelled : ticker.isCancelled number with
      | true =>
          simp only [move?, cancelled, ↓reduceIte, Option.some.injEq] at possible
          exact possible ▸ .ends
      | false =>
          simp only [move?, cancelled, Bool.false_eq_true, ↓reduceIte,
            Option.some.injEq] at possible
          exact possible ▸ .sleeps cancelled
  | sleeping wake =>
      cases cancelled : ticker.isCancelled number with
      | true =>
          simp only [move?, cancelled, ↓reduceIte, Option.some.injEq] at possible
          exact possible ▸ .ends
      | false =>
          by_cases awake : wake ≤ now
          · simp only [move?, cancelled, Bool.false_eq_true, ↓reduceIte, awake,
              Option.some.injEq] at possible
            exact possible ▸ .wakes cancelled awake
          · simp [move?, cancelled, awake] at possible
  | due =>
      cases cancelled : ticker.isCancelled number with
      | true =>
          simp only [move?, cancelled, ↓reduceIte, Option.some.injEq] at possible
          exact possible ▸ .ends
      | false =>
          cases held : ticker.inFlight? with
          | some refresh =>
              simp only [move?, cancelled, Bool.false_eq_true, ↓reduceIte, Ticker.joinOrBegin,
                held, Option.some.injEq] at possible
              exact possible ▸ .joins cancelled held
          | none =>
              simp only [move?, cancelled, Bool.false_eq_true, ↓reduceIte, Ticker.joinOrBegin,
                held, Option.some.injEq] at possible
              exact possible ▸ .begins cancelled held

/-- A loop that has been told to end does so unless it waits for a refresh. -/
theorem TickerLoop.move?_of_isCancelled
    {now : Moment}
    {ticker : Ticker α}
    {number : Nat}
    {stage : LoopStage}
    (waitsForNone : ∀ refresh, stage ≠ .awaiting refresh)
    (cancelled : ticker.isCancelled number = true) :
    TickerLoop.move? now ticker ⟨number, stage⟩ = some { ticker, loop := none } := by
  cases stage with
  | awaiting refresh =>
      exact absurd rfl (waitsForNone refresh)
  | resting | sleeping | due =>
      exact if_pos cancelled

/-! ## Loops and marks -/

/-- What a loop in force has waited for, by its stage. -/
def LoopStage.IsPaced
    (ticker : Ticker α)
    (marks : List Moment)
    (now : Moment) :
    LoopStage → Prop
  | .awaiting refresh => refresh + 1 = ticker.refreshes.length
  | .resting => ticker.running? = none
  | .sleeping wake =>
      ticker.running? = none ∧ ∀ mark ∈ marks, mark + ticker.interval ≤ wake
  | .due =>
      ticker.running? = none ∧ ∀ mark ∈ marks, mark + ticker.interval ≤ now

namespace Ticker

/-- The loops around a ticker by their places, and marks that the loop in force keeps apart from. -/
structure Paced
    (ticker : Ticker α)
    (loops : Nat → Option TickerLoop)
    (marks : List Moment)
    (now : Moment) :
    Prop where
  orderly : ticker.Orderly
  past : ∀ mark ∈ marks, mark ≤ now
  known :
    ∀ {place loop},
      loops place = some loop →
      loop.number ≤ ticker.loop
  distinct :
    ∀ {place other loop twin},
      loops place = some loop →
      loops other = some twin →
      loop.number = twin.number →
      place = other
  inForce :
    ∀ {place loop},
      loops place = some loop →
      loop.number = ticker.loop →
      loop.stage.IsPaced ticker marks now

/-- A loop that has not been told to end is the one in force. -/
theorem number_eq_of_not_cancelled
    {ticker : Ticker α}
    {number : Nat}
    (notCancelled : ticker.isCancelled number = false) :
    number = ticker.loop := by
  simp only [isCancelled, Bool.or_eq_false_iff, bne_eq_false_iff_eq] at notCancelled
  exact notCancelled.2

namespace Paced

variable
  {ticker after : Ticker α}
  {loops next : Nat → Option TickerLoop}
  {marks : List Moment}
  {now later : Moment}
  {place refresh : Nat}
  {loop : TickerLoop}
  {succeeded : Bool}

/-- Passing time and lost loops change nothing. -/
theorem mono
    (paced : Paced ticker loops marks now)
    (passes : now ≤ later)
    (fewer : ∀ {place loop}, next place = some loop → loops place = some loop) :
    Paced ticker next marks later where
  orderly := paced.orderly
  past mark member := Nat.le_trans (paced.past mark member) passes
  known found := paced.known (fewer found)
  distinct found alsoFound same := paced.distinct (fewer found) (fewer alsoFound) same
  inForce := by
    intro place loop found force
    have before := paced.inForce (fewer found) force
    cases stage : loop.stage with
    | awaiting | resting | sleeping =>
        simpa [LoopStage.IsPaced, stage] using before
    | due =>
        simp only [LoopStage.IsPaced, stage] at before ⊢
        exact ⟨before.1, fun mark member => Nat.le_trans (before.2 mark member) passes⟩

/-- A change that begins no refresh and puts no loop in force leaves the pace alone. -/
private theorem of_change
    (paced : Paced ticker loops marks now)
    (orderly : after.Orderly)
    (interval : after.interval = ticker.interval)
    (force : after.loop = ticker.loop)
    (length : after.refreshes.length = ticker.refreshes.length)
    (still : ticker.running? = none → after.running? = none) :
    Paced after loops marks now where
  orderly := orderly
  past := paced.past
  known found := force ▸ paced.known found
  distinct := paced.distinct
  inForce := by
    intro place loop found inForce
    have before := paced.inForce found (inForce.trans force)
    cases stage : loop.stage with
    | awaiting refresh =>
        simpa [LoopStage.IsPaced, stage, length] using before
    | resting =>
        simp only [LoopStage.IsPaced, stage] at before ⊢
        exact still before
    | sleeping | due =>
        simp only [LoopStage.IsPaced, stage, interval] at before ⊢
        exact ⟨still before.1, before.2⟩

theorem seen
    (paced : Paced ticker loops marks now)
    (sees : ticker.await? refresh = some (after, succeeded)) :
    Paced after loops marks now := by
  have running := paced.orderly.running?_await? sees
  apply paced.of_change (paced.orderly.await? sees)
  case still =>
    intro idle
    rw [running, idle]
  all_goals rcases await?_cases sees with ⟨-, rfl⟩ | ⟨-, rfl⟩ <;> simp [setStatus]

theorem finished
    (paced : Paced ticker loops marks now)
    (running : ticker.running? = some refresh)
    (value : Option α) :
    Paced (ticker.finish now refresh value) loops marks now := by
  apply paced.of_change (paced.orderly.finish running now value)
  case still =>
    exact fun _ => paced.orderly.running?_finish running now value
  all_goals cases value <;> simp [finish, setStatus]

theorem disposed (paced : Paced ticker loops marks now) : Paced ticker.dispose loops marks now :=
  paced.of_change ⟨paced.orderly.newest, paced.orderly.unpublished, paced.orderly.settled⟩
    rfl rfl rfl id

/-- While the loop in force waits, the moment may be marked. -/
theorem markWaiting
    (paced : Paced ticker loops marks now)
    (waits :
      ∀ {place loop},
        loops place = some loop →
        loop.number = ticker.loop →
        ∃ refresh, loop.stage = .awaiting refresh) :
    Paced ticker loops (marks ++ [now]) now where
  orderly := paced.orderly
  past := by
    intro mark member
    rcases List.mem_append.mp member with before | new
    · exact paced.past mark before
    · exact Nat.le_of_eq (List.mem_singleton.mp new)
  known := paced.known
  distinct := paced.distinct
  inForce := by
    intro place loop found force
    have before := paced.inForce found force
    obtain ⟨refresh, stage⟩ := waits found force
    simpa [LoopStage.IsPaced, stage] using before

/-- While a refresh runs, the loop in force waits, and the moment may be marked. -/
theorem mark
    (paced : Paced ticker loops marks now)
    (running : ticker.running? = some refresh) :
    Paced ticker loops (marks ++ [now]) now := by
  refine paced.markWaiting ?_
  intro place loop found force
  have before := paced.inForce found force
  cases stage : loop.stage with
  | awaiting refresh =>
      exact ⟨refresh, rfl⟩
  | resting | sleeping | due =>
      simp [LoopStage.IsPaced, stage, running] at before

/-- A loop in force that begins a refresh is an interval away from all marks. -/
theorem apart
    (paced : Paced ticker loops marks now)
    {number : Nat}
    (found : loops place = some ⟨number, .due⟩)
    (notCancelled : ticker.isCancelled number = false) :
    ∀ mark ∈ marks, mark + ticker.interval ≤ now :=
  (paced.inForce found (number_eq_of_not_cancelled notCancelled)).2

/-! ## Moves of loops -/

/-- The loop at a place goes on to another stage, or ends. -/
private theorem advance
    (paced : Paced ticker loops marks now)
    (found : loops place = some loop)
    {successor : Option TickerLoop}
    (number : ∀ {left}, successor = some left → left.number = loop.number)
    (stage :
      ∀ {left}, successor = some left → left.number = ticker.loop →
        left.stage.IsPaced ticker marks now)
    (moved : ∀ other, next other = if other = place then successor else loops other) :
    Paced ticker next marks now := by
  -- Every loop after the move has a predecessor of the same number at the same place.
  have predecessor {other : Nat} {left : TickerLoop} (afterwards : next other = some left) :
      ∃ before, loops other = some before ∧ before.number = left.number := by
    rw [moved] at afterwards
    split at afterwards
    · rename_i same
      exact ⟨loop, same ▸ found, (number afterwards).symm⟩
    · exact ⟨left, afterwards, rfl⟩
  constructor
  case orderly =>
    exact paced.orderly
  case past =>
    exact paced.past
  case known =>
    intro other left afterwards
    obtain ⟨before, standing, same⟩ := predecessor afterwards
    exact same ▸ paced.known standing
  case distinct =>
    intro other another left twin afterwards alsoAfterwards same
    obtain ⟨before, standing, sameLeft⟩ := predecessor afterwards
    obtain ⟨beforeTwin, standingTwin, sameTwin⟩ := predecessor alsoAfterwards
    exact paced.distinct standing standingTwin (sameLeft.trans (same.trans sameTwin.symm))
  case inForce =>
    intro other left afterwards force
    rw [moved] at afterwards
    split at afterwards
    · exact stage afterwards force
    · exact paced.inForce afterwards force

/-- The loop in force has waited for the newest refresh once it sees an outcome. -/
private theorem running?_of_seen
    (paced : Paced ticker loops marks now)
    {number : Nat}
    (found : loops place = some ⟨number, .awaiting refresh⟩)
    (force : number = ticker.loop)
    (sees : ticker.await? refresh = some (after, succeeded)) :
    after.running? = none := by
  have newest : refresh + 1 = ticker.refreshes.length := paced.inForce found force
  have outcome := outcome?_of_await? sees
  rw [paced.orderly.running?_await? sees]
  cases running : ticker.running? with
  | none =>
      rfl
  | some other =>
      obtain ⟨held, runs⟩ := running?_eq_some_iff.mp running
      have alsoNewest := paced.orderly.newest held
      obtain rfl : other = refresh := by omega
      simp [Ticker.outcome?, runs, RefreshStatus.outcome?] at outcome

/-- A new refresh is waited for by the loop that is in force then, and by no other. -/
private theorem begin
    (paced : Paced ticker loops marks now)
    (free : ticker.inFlight? = none)
    {number : Nat}
    (newest : ticker.loop ≤ number)
    (alone :
      ∀ {other loop},
        other ≠ place → loops other = some loop → loop.number ≠ number)
    (moved :
      ∀ other,
        next other =
          if other = place then
            some ⟨number, .awaiting ticker.refreshes.length⟩
          else
            loops other) :
    Paced { ticker.begin with loop := number } next marks now := by
  have begun : ticker.begin.Orderly := paced.orderly.begin (paced.orderly.inFlight?_eq ▸ free)
  constructor
  case orderly =>
    exact ⟨begun.newest, begun.unpublished, begun.settled⟩
  case past =>
    exact paced.past
  case known =>
    intro other left afterwards
    rw [moved] at afterwards
    split at afterwards
    · cases afterwards
      exact Nat.le_refl _
    · exact Nat.le_trans (paced.known afterwards) newest
  case distinct =>
    intro other another left twin afterwards alsoAfterwards same
    rw [moved] at afterwards alsoAfterwards
    split at afterwards <;> split at alsoAfterwards
    · simp [*]
    · cases afterwards
      exact absurd same.symm (alone ‹_› alsoAfterwards)
    · cases alsoAfterwards
      exact absurd same (alone ‹_› afterwards)
    · exact paced.distinct afterwards alsoAfterwards same
  case inForce =>
    intro other left afterwards force
    rw [moved] at afterwards
    split at afterwards
    · cases afterwards
      simp [LoopStage.IsPaced, Ticker.begin]
    · exact absurd force (alone ‹_› afterwards)

/-- A forced refresh puts a new loop in force. -/
theorem forced
    (paced : Paced ticker loops marks now)
    (free : ticker.inFlight? = none)
    (moved :
      ∀ other,
        next other =
          if other = place then
            some ⟨ticker.loop + 1, .awaiting ticker.refreshes.length⟩
          else
            loops other) :
    Paced { ticker.begin with loop := ticker.loop + 1 } next marks now := by
  refine paced.begin free (Nat.le_succ _) ?_ moved
  intro other loop _ found same
  have known := paced.known found
  omega

/-- Every move of a loop keeps the pace. -/
theorem move
    (paced : Paced ticker loops marks now)
    (found : loops place = some loop)
    {move : TickerLoop.Move α}
    (moves : loop.Moves now ticker move)
    (moved : ∀ other, next other = if other = place then move.loop else loops other) :
    Paced move.ticker next marks now := by
  cases moves with
  | sees sees =>
      refine (paced.seen sees).advance found ?number ?stage moved
      case number =>
        rintro left ⟨⟩
        rfl
      case stage =>
        rintro left ⟨⟩ force
        rw [loop_await? sees] at force
        exact paced.running?_of_seen found force sees
  | ends =>
      refine paced.advance found ?number ?stage moved
      case number | stage =>
        exact nofun
  | sleeps notCancelled =>
      have force := number_eq_of_not_cancelled notCancelled
      have idle : ticker.running? = none := paced.inForce found force
      refine paced.advance found ?number ?stage moved
      case number =>
        rintro left ⟨⟩
        rfl
      case stage =>
        rintro left ⟨⟩ -
        exact ⟨idle, fun mark member => Nat.add_le_add_right (paced.past mark member) _⟩
  | wakes notCancelled awake =>
      have force := number_eq_of_not_cancelled notCancelled
      obtain ⟨idle, apart⟩ := paced.inForce found force
      refine paced.advance found ?number ?stage moved
      case number =>
        rintro left ⟨⟩
        rfl
      case stage =>
        rintro left ⟨⟩ -
        exact ⟨idle, fun mark member => Nat.le_trans (apart mark member) awake⟩
  | joins _ held =>
      have newest := paced.orderly.newest (paced.orderly.inFlight?_eq ▸ held)
      refine paced.advance found ?number ?stage moved
      case number =>
        rintro left ⟨⟩
        rfl
      case stage =>
        rintro left ⟨⟩ -
        exact newest
  | begins notCancelled free =>
      have force := number_eq_of_not_cancelled notCancelled
      subst force
      refine paced.begin free (Nat.le_refl _) ?_ moved
      intro other loop apart standing same
      exact apart (paced.distinct standing found same)

end Paced

end Ticker

end FeatureFlags
