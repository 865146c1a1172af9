import FeatureFlags.Proofs.Table
import FeatureFlags.Telemetry.Outbox

namespace FeatureFlags.Telemetry

/-!
# The outbox and a log that forgets nothing

An outbox forgets acceptances whenever it is drained. Beside it one may think of a
log of all acceptances. `Outbox.Records` ties the two together: what the outbox
has forgotten, or replaced by a later acceptance, can no longer limit anything.
-/

/-- Every acceptance so far, with its moment. -/
abbrev AcceptanceLog := List (Moment × Message)

namespace AcceptanceLog

/-- A message of an identity was accepted less than a window ago. -/
def IsRecent
    (log : AcceptanceLog)
    (window : Nat)
    (now : Moment)
    (identity : String) : Prop :=
  ∃ entry ∈ log, entry.2.identity = identity ∧ now - entry.1 < window

end AcceptanceLog

namespace Outbox

@[simp] theorem queue_accept
    (outbox : Outbox)
    (now : Moment)
    (message : Message) :
    (outbox.accept now message).queue = outbox.queue ++ [message] :=
  rfl

@[simp] theorem drain_batch
    (outbox : Outbox)
    (now : Moment) :
    (outbox.drain now).2 = outbox.queue :=
  rfl

/-- An offer is discarded, or is accepted and waits, or is accepted and fills the queue. -/
theorem enqueue_cases
    (outbox : Outbox)
    (now : Moment)
    (message : Message) :
    (outbox.isLimited now message.identity = true ∧
      outbox.enqueue now message = (outbox, .discarded)) ∨
    (outbox.isLimited now message.identity = false ∧
      outbox.queue.length + 1 < outbox.capacity ∧
      outbox.enqueue now message = (outbox.accept now message, .queued)) ∨
    (outbox.isLimited now message.identity = false ∧
      outbox.capacity ≤ outbox.queue.length + 1 ∧
      outbox.enqueue now message =
        (((outbox.accept now message).drain now).1, .full (outbox.queue ++ [message]))) := by
  unfold enqueue
  cases limited : outbox.isLimited now message.identity with
  | true =>
      exact .inl ⟨rfl, rfl⟩
  | false =>
      by_cases filled : outbox.capacity ≤ outbox.queue.length + 1
      · refine .inr (.inr ⟨rfl, filled, ?_⟩)
        simp [accept, drain, filled]
      · refine .inr (.inl ⟨rfl, by omega, ?_⟩)
        simp [accept, filled]

/--
An outbox agrees with the log of all acceptances and with all messages handed out.
Moments in the log are not later than the moment given.
-/
structure Records
    (outbox : Outbox)
    (log : AcceptanceLog)
    (handedOut : List Message)
    (now : Moment) : Prop where
  conserved :
    handedOut ++ outbox.queue = log.map (·.2)
  past :
    ∀ entry ∈ log, entry.1 ≤ now
  /-- What the outbox remembers was accepted. -/
  grounded :
    ∀ {identity moment},
      outbox.accepted.get? identity = some moment →
      ∃ message, (moment, message) ∈ log ∧ message.identity = identity
  /-- An acceptance is remembered, or a later one is, or its window is over. -/
  remembered :
    ∀ entry ∈ log,
      (∃ moment,
        outbox.accepted.get? entry.2.identity = some moment ∧ entry.1 ≤ moment) ∨
      entry.1 + outbox.window ≤ now

namespace Records

variable {outbox : Outbox} {log : AcceptanceLog} {handedOut : List Message} {now : Moment}

/-- A new outbox agrees with an empty log. -/
theorem initial (capacity window : Nat) :
    Records { capacity, window } [] [] 0 where
  conserved := rfl
  past := by simp
  grounded := by
    intro identity moment held
    cases held
  remembered := by simp

/-- The agreement lasts while time passes. -/
theorem later
    (records : outbox.Records log handedOut now)
    {moment : Moment}
    (passed : now ≤ moment) :
    outbox.Records log handedOut moment where
  conserved := records.conserved
  past entry member := Nat.le_trans (records.past entry member) passed
  grounded := records.grounded
  remembered entry member :=
    (records.remembered entry member).imp_right fun expired => Nat.le_trans expired passed

/-- The outbox limits an identity exactly if the log does. -/
theorem isLimited_iff
    (records : outbox.Records log handedOut now)
    (identity : String) :
    outbox.isLimited now identity = true ↔ log.IsRecent outbox.window now identity := by
  simp only [isLimited, Option.any_eq_true, isRecent, decide_eq_true_eq]
  constructor
  · rintro ⟨moment, held, recent⟩
    obtain ⟨message, member, same⟩ := records.grounded held
    exact ⟨(moment, message), member, same, recent⟩
  · rintro ⟨entry, member, same, recent⟩
    rcases records.remembered entry member with ⟨moment, held, notBefore⟩ | expired
    · refine ⟨moment, same ▸ held, ?_⟩
      exact Nat.lt_of_le_of_lt (Nat.sub_le_sub_left notBefore now) recent
    · exact absurd recent (Nat.not_lt.mpr (Nat.le_sub_of_add_le' expired))

/-- An acceptance is entered into the log. -/
theorem accept
    (records : outbox.Records log handedOut now)
    (message : Message) :
    (outbox.accept now message).Records (log ++ [(now, message)]) handedOut now where
  conserved := by
    simp [Outbox.accept, ← records.conserved]
  past := by
    intro entry member
    rcases List.mem_append.mp member with old | new
    · exact records.past entry old
    · cases List.mem_singleton.mp new
      exact Nat.le_refl now
  grounded := by
    intro identity moment held
    simp only [Outbox.accept, Table.get?_insert] at held
    split at held
    · rename_i same
      cases held
      exact ⟨message, by simp, same.symm⟩
    · obtain ⟨known, member, same⟩ := records.grounded held
      exact ⟨known, List.mem_append_left _ member, same⟩
  remembered := by
    intro entry member
    simp only [Outbox.accept, Table.get?_insert]
    rcases List.mem_append.mp member with old | new
    · -- A later acceptance of the same identity takes the place of this one.
      by_cases replaced : entry.2.identity = message.identity
      · exact .inl ⟨now, by simp [replaced], records.past entry old⟩
      · simpa [replaced] using records.remembered entry old
    · rw [List.mem_singleton.mp new]
      exact .inl ⟨now, by simp, Nat.le_refl now⟩

/-- Draining hands the queue out, and forgets only what is over. -/
theorem drain
    (records : outbox.Records log handedOut now) :
    (outbox.drain now).1.Records log (handedOut ++ outbox.queue) now where
  conserved := by
    simpa [Outbox.drain] using records.conserved
  past := records.past
  grounded := by
    intro identity moment held
    exact records.grounded (Table.get?_filter_eq_some_iff.mp held).1
  remembered := by
    intro entry member
    rcases records.remembered entry member with ⟨moment, held, notBefore⟩ | expired
    · by_cases recent : now - moment < outbox.window
      · refine .inl ⟨moment, Table.get?_filter_eq_some_iff.mpr ⟨held, ?_⟩, notBefore⟩
        simpa [isRecent] using recent
      · have windowOver : outbox.window ≤ now - entry.1 :=
          Nat.le_trans (Nat.not_lt.mp recent) (Nat.sub_le_sub_left notBefore now)
        exact .inr (Nat.add_le_of_le_sub' (records.past entry member) windowOver)
    · exact .inr expired

end Records

/-- After it has been drained, an outbox remembers only acceptances within the window. -/
theorem recent_of_get?_drain
    {outbox : Outbox}
    {now moment : Moment}
    {identity : String}
    (held : (outbox.drain now).1.accepted.get? identity = some moment) :
    now - moment < outbox.window := by
  have kept := (Table.get?_filter_eq_some_iff.mp held).2
  simpa [isRecent] using kept

end Outbox

end FeatureFlags.Telemetry
