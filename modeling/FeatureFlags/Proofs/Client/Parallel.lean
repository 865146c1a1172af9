import FeatureFlags.Proofs.Client.FeatureSide

namespace FeatureFlags

/-!
# Parallel clients

What happens to a client that concerns features, as one of its callers sees it: turns of the
caller, turns of other tasks that serve features, further calls, and disposal. Two clients that
differ in what is queued, limited and sent at most stay in parallel as long as the same happens
to both, at the same moments and with the same replies. Everything else is open on either side:
what is reported and sent, and when.
-/

open FeatureFlags.Transport (Arrival)

/-! ## What concerns features -/

/-- What happens to a client that concerns features, as seen from one of its callers. -/
inductive ServiceEvent where
  /-- The caller itself takes a turn; if it waits for a reply then, that is told along. -/
  | own (now : Moment) (awaits : Option (Moment × Arrival))
  /-- Another task takes a turn; it is told by its rank among all others that serve features. -/
  | other (now : Moment) (rank : Nat) (awaits : Option (Moment × Arrival))
  /-- Another call comes. -/
  | called (call : Call)
  | disposed

/-- What happens in a transition, as seen from the caller at a place. -/
def ClientTransition.serviceEvent?
    (place : Nat)
    (transition : ClientTransition) :
    Option ServiceEvent :=
  match transition.move with
  | .turn mover =>
      if (transition.before.task? mover).any ClientTask.isSettled then
        let now := transition.before.now
        let awaits := (transition.after.task? mover).bind ClientTask.awaits?
        if mover = place then
          some (.own now awaits)
        else
          let rank := (transition.before.without place).rank ClientTask.featureSide? mover
          some (.other now rank awaits)
      else
        none
  | .wait _ => none
  | .intervene (.call call) =>
      if (CallStage.begun call).isSettled then some (.called call) else none
  | .intervene .dispose => some .disposed
  | .intervene _ => none

namespace Client

/-- What happens in a history, as seen from the caller at a place. -/
def serviceEvents
    (place : Nat)
    (history : List ClientTransition) :
    List ServiceEvent :=
  history.filterMap (ClientTransition.serviceEvent? place)

end Client

/-- A possible transition shows an event to the caller at a place. -/
inductive ClientTransition.Shows
    (place : Nat) :
    ClientTransition → ServiceEvent → Prop where
  | own
      {before : Configuration Client ClientTask}
      {task : ClientTask}
      {turn : Turn Client ClientTask} :
      before.task? place = some task →
      task.isSettled = true →
      before.shared.turn before.now task = some turn →
      Shows place
        ⟨before, .turn place, before.update place turn⟩
        (.own before.now (turn.task.bind ClientTask.awaits?))
  | other
      {before : Configuration Client ClientTask}
      {mover : Nat}
      {task : ClientTask}
      {turn : Turn Client ClientTask} :
      mover ≠ place →
      before.task? mover = some task →
      task.isSettled = true →
      before.shared.turn before.now task = some turn →
      Shows place
        ⟨before, .turn mover, before.update mover turn⟩
        (.other before.now ((before.without place).rank ClientTask.featureSide? mover)
          (turn.task.bind ClientTask.awaits?))
  | called
      {before : Configuration Client ClientTask}
      {call : Call} :
      Shows place
        ⟨before, .intervene (.call call),
          { before with tasks := before.tasks ++ [ClientTask.caller (.begun call)].map some }⟩
        (.called call)
  | disposed
      {before : Configuration Client ClientTask} :
      Shows place
        ⟨before, .intervene .dispose, { before with shared := before.shared.dispose }⟩
        .disposed

/-- Every event is among these. -/
theorem ClientTransition.shows_of_serviceEvent?
    {place : Nat}
    {transition : ClientTransition}
    {event : ServiceEvent}
    (possible : transition.before.after? Client.system transition.move = some transition.after)
    (shown : transition.serviceEvent? place = some event) :
    transition.Shows place event := by
  obtain ⟨before, move, after⟩ := transition
  cases move with
  | turn mover =>
      obtain ⟨task, turn, found, taken, same⟩ :=
        Configuration.after?_turn_eq_some_iff.mp possible
      obtain rfl : after = before.update mover turn := same
      simp only [serviceEvent?, found, Option.any_some, Configuration.task?_update_self found]
        at shown
      split at shown
      · rename_i settled
        split at shown
        · rename_i same
          subst same
          cases shown
          exact .own found settled taken
        · rename_i different
          cases shown
          exact .other different found settled taken
      · cases shown
  | wait =>
      cases shown
  | intervene action =>
      cases action with
      | call call =>
          simp only [serviceEvent?] at shown
          split at shown
          · cases shown
            simp only [Configuration.after?, Client.system, ClientAction.perform,
              ClientAction.caller?, Client.deliveries_nil, List.append_nil, Option.toList_some,
              Option.some.injEq] at possible
            subst possible
            exact .called
          · cases shown
      | dispose =>
          cases shown
          simp only [Configuration.after?, Client.system, ClientAction.perform,
            ClientAction.caller?, Client.deliveries_nil, List.append_nil, Option.toList_none,
            List.map_nil, Option.some.injEq] at possible
          subst possible
          exact .disposed
      | updateUser | updateCompany | track | isEnabled | config | configAs | trackFeature =>
          cases shown

/-! ## Where callers are -/

/-- Where a caller for features is, whatever it still has to report. -/
def ClientTask.standing? : ClientTask → Option CallStage
  | .caller (.answered answer) => some (.answered answer)
  | .caller stage => stage.featureSide?
  | _ => none

/-- Where two callers are that have been called with such queries. -/
inductive CallStage.Abreast (query other : Query) : CallStage → CallStage → Prop where
  | begun
      {call otherCall : Call} :
      call.query? = some query →
      otherCall.query? = some other →
      Abreast query other (.begun call) (.begun otherCall)
  | entered
      {stage otherStage : CallStage} :
      Agree query other stage otherStage →
      Abreast query other stage otherStage

/-- If one of two such callers has nothing to report first, neither has the other. -/
theorem CallStage.Abreast.isSettled_of
    {query other : Query}
    {stage otherStage : CallStage}
    (abreast : Abreast query other stage otherStage)
    (settled : stage.isSettled = true) :
    otherStage.isSettled = true := by
  cases abreast with
  | @begun call otherCall _ otherAsks =>
      cases otherCall <;> first | rfl | cases otherAsks
  | entered agree =>
      cases agree with
      | resolving | asking | downloading | reporting | evaluating =>
          rfl
      | answered =>
          cases settled

namespace ClientTask

variable {task : ClientTask} {stage : CallStage}

/-- Whoever has a feature side is there. -/
private theorem standing?_of_featureSide?
    (serves : task.featureSide? = some (.caller stage)) :
    task.standing? = some stage := by
  cases task with
  | caller here =>
      obtain ⟨side, found, same⟩ := Option.map_eq_some_iff.mp serves
      cases same
      cases here <;> first | exact found | cases found
  | definitionsLoop | flushLoop | download | flush | flushing | delivery =>
      cases serves

/-- Whoever is somewhere has got an answer, or has a feature side. -/
private theorem standing?_cases
    (stands : task.standing? = some stage) :
    (∃ answer, task = .caller (.answered answer)) ∨
      task.featureSide? = some (.caller stage) := by
  cases task with
  | caller here =>
      cases here with
      | answered answer =>
          exact .inl ⟨answer, rfl⟩
      | begun | updating | resolving | asking | downloading | reporting | evaluating | draining
      | flushing | requesting | refreshing =>
          exact .inr (Option.map_eq_some_iff.mpr ⟨stage, stands, rfl⟩)
  | definitionsLoop | flushLoop | download | flush | flushing | delivery =>
      cases stands

/-- Whoever is somewhere is a caller that has no more than reports to make before that. -/
theorem exists_of_standing?
    (stands : task.standing? = some stage) :
    ∃ here : CallStage, task = .caller here ∧ here.settled = stage := by
  cases task with
  | caller here =>
      cases here with
      | begun call =>
          cases call <;> cases stands <;> exact ⟨_, rfl, rfl⟩
      | updating | resolving | asking | downloading | reporting | evaluating | requesting
      | refreshing | answered =>
          cases stands
          exact ⟨_, rfl, rfl⟩
      | draining | flushing =>
          cases stands
  | definitionsLoop | flushLoop | download | flush | flushing | delivery =>
      cases stands

/-- Whoever is somewhere has the answer that is given there, if any. -/
theorem answer?_of_standing?
    (stands : task.standing? = some stage) :
    task.answer? = (caller stage).answer? := by
  obtain ⟨here, rfl, rfl⟩ := exists_of_standing? stands
  cases here <;> rfl

/-- A settled task that is somewhere is a caller at this stage. -/
theorem eq_of_standing?
    (stands : task.standing? = some stage)
    (settled : task.isSettled = true) :
    task = .caller stage := by
  rcases standing?_cases stands with ⟨answer, rfl⟩ | serves
  · cases settled
  · exact Option.some.inj ((featureSide?_of_isSettled settled).symm.trans serves)

/-- A caller that agrees with another one is where it agrees. -/
private theorem standing?_of_agree
    {query other : Query}
    {otherStage : CallStage}
    (agree : CallStage.Agree query other stage.settled otherStage) :
    (caller stage).standing? = some stage.settled := by
  cases stage <;> first | rfl | cases agree

/-- Whoever is somewhere stays there in turns aside. -/
private theorem standing?_of_turnsAside
    {now : Moment}
    {client : Client}
    {turn : Turn Client ClientTask}
    (taken : task.Takes now client turn)
    (unsettled : task.isSettled = false)
    (stands : task.standing? = some stage) :
    turn.task.bind standing? = some stage := by
  rcases standing?_cases stands with ⟨answer, rfl⟩ | serves
  · cases taken
  · obtain ⟨left, found, kept⟩ :=
      Option.bind_eq_some_iff.mp ((taken.turnsAside unsettled).left.trans serves)
    exact Option.bind_eq_some_iff.mpr ⟨left, found, standing?_of_featureSide? kept⟩

end ClientTask

/-! ## Moves that nobody sees -/

/-- What a caller at a place sees is the same before and after. -/
structure Client.Unseen
    (place : Nat)
    (before after : Configuration Client ClientTask) :
    Prop where
  shared : after.shared.SameFeatureSide before.shared
  others :
    (after.without place).collect ClientTask.featureSide? =
      (before.without place).collect ClientTask.featureSide?
  own :
    ∀ {stage},
      (before.task? place).bind ClientTask.standing? = some stage →
      (after.task? place).bind ClientTask.standing? = some stage

namespace Client.Unseen

variable
  {place : Nat}
  {before after : Configuration Client ClientTask}

private theorem of_turn
    {mover : Nat}
    {task : ClientTask}
    {turn : Turn Client ClientTask}
    (inside : place < before.tasks.length)
    (found : before.task? mover = some task)
    (unsettled : task.isSettled = false)
    (taken : task.Takes before.now before.shared turn) :
    Unseen place before (before.update mover turn) := by
  have aside := taken.turnsAside unsettled
  refine ⟨aside.shared, ?_, fun {stage} stands => ?_⟩
  · by_cases same : mover = place
    · subst same
      rw [Configuration.collect_without_update inside, aside.begun, List.append_nil]
    · rw [Configuration.without_update same inside,
        Configuration.collect_update_of_kept
          ((Configuration.task?_without same before).trans found) aside.left,
        aside.begun, List.append_nil]
  · by_cases same : mover = place
    · subst same
      rw [found] at stands
      rw [Configuration.task?_update_self found]
      exact ClientTask.standing?_of_turnsAside taken unsettled stands
    · obtain ⟨standing, present, -⟩ := Option.bind_eq_some_iff.mp stands
      rw [Configuration.task?_update_other (Ne.symm same) present, ← present]
      exact stands

private theorem of_append
    {shared : Client}
    {begun : List ClientTask}
    (inside : place < before.tasks.length)
    (same : shared.SameFeatureSide before.shared)
    (aside : begun.filterMap ClientTask.featureSide? = []) :
    Unseen place before { before with shared, tasks := before.tasks ++ begun.map some } := by
  refine ⟨same, ?_, fun {stage} stands => ?_⟩
  · rw [Configuration.collect_without_append inside, aside, List.append_nil]
  · rw [Configuration.task?_append, if_pos inside]
    exact stands

/-- A transition without an event is not seen. -/
theorem of_serviceEvent?
    {move : Move ClientAction}
    (possible : before.after? system move = some after)
    (silent : ClientTransition.serviceEvent? place ⟨before, move, after⟩ = none)
    (inside : place < before.tasks.length) :
    Unseen place before after := by
  cases ClientMove.of_after? possible with
  | @turn mover task turn found taken =>
      cases settled : task.isSettled with
      | false =>
          exact of_turn inside found settled taken
      | true =>
          simp only [ClientTransition.serviceEvent?, found, Option.any_some, settled, if_true]
            at silent
          split at silent <;> cases silent
  | wait =>
      exact ⟨.refl _, rfl, id⟩
  | @call call =>
      have aside : [ClientTask.caller (.begun call)].filterMap ClientTask.featureSide? = [] := by
        cases call with
        | flush =>
            rfl
        | features | feature | refresh =>
            cases silent
      exact of_append inside (.refl _) aside
  | idle =>
      exact ⟨.refl _, rfl, id⟩
  | @report action message queued batches warnings _ _ _ offered =>
      refine of_append inside ?_ (queued.featureSide?_deliveries batches)
      exact (SameFeatureSide.of_enqueue offered).withNotes _ _ warnings _
  | dispose =>
      cases silent

end Client.Unseen

/-! ## Parallel clients -/

/-- Two clients in which nothing that concerns features sets two callers apart. -/
structure Client.Parallel
    (query other : Query)
    (place otherPlace : Nat)
    (left right : Configuration Client ClientTask) :
    Prop where
  shared : left.shared.SameFeatureSide right.shared
  others :
    (left.without place).collect ClientTask.featureSide? =
      (right.without otherPlace).collect ClientTask.featureSide?
  own :
    ∃ stage otherStage,
      (left.task? place).bind ClientTask.standing? = some stage ∧
        (right.task? otherPlace).bind ClientTask.standing? = some otherStage ∧
        CallStage.Abreast query other stage otherStage

namespace Client.Parallel

variable
  {query other : Query}
  {place otherPlace mover otherMover : Nat}
  {left right next otherNext : Configuration Client ClientTask}
  {stage otherStage : CallStage}
  {task otherTask : ClientTask}
  {turn otherTurn : Turn Client ClientTask}

theorem inside (parallel : Parallel query other place otherPlace left right) :
    place < left.tasks.length := by
  obtain ⟨stage, otherStage, stands, -⟩ := parallel.own
  obtain ⟨task, found, -⟩ := Option.bind_eq_some_iff.mp stands
  exact Configuration.lt_length_of_task? found

theorem otherInside (parallel : Parallel query other place otherPlace left right) :
    otherPlace < right.tasks.length := by
  obtain ⟨stage, otherStage, -, stands, -⟩ := parallel.own
  obtain ⟨task, found, -⟩ := Option.bind_eq_some_iff.mp stands
  exact Configuration.lt_length_of_task? found

/-- What is not seen on the one side keeps clients parallel. -/
theorem of_unseen
    (parallel : Parallel query other place otherPlace left right)
    (unseen : Unseen place left next) :
    Parallel query other place otherPlace next right := by
  obtain ⟨stage, otherStage, stands, otherStands, abreast⟩ := parallel.own
  exact
    ⟨unseen.shared.trans parallel.shared, unseen.others.trans parallel.others,
      stage, otherStage, unseen.own stands, otherStands, abreast⟩

/-- What is not seen on the other side keeps clients parallel. -/
theorem of_otherUnseen
    (parallel : Parallel query other place otherPlace left right)
    (unseen : Unseen otherPlace right otherNext) :
    Parallel query other place otherPlace left otherNext := by
  obtain ⟨stage, otherStage, stands, otherStands, abreast⟩ := parallel.own
  exact
    ⟨parallel.shared.trans unseen.shared.symm, parallel.others.trans unseen.others.symm,
      stage, otherStage, stands, unseen.own otherStands, abreast⟩

/-- The two callers take turns that agree. -/
theorem rel_own
    (parallel : Parallel query other place otherPlace left right)
    (sameContext : query.context = other.context)
    (abreast : CallStage.Abreast query other stage otherStage)
    (now : Moment) :
    Option.Rel (CallStage.TurnsAgree query other)
      (left.shared.callerTurn now stage) (right.shared.callerTurn now otherStage) := by
  cases abreast with
  | begun asks otherAsks =>
      exact .some (.of_beginCall parallel.shared asks otherAsks)
  | entered agree =>
      exact CallStage.TurnsAgree.rel_callerTurn parallel.shared sameContext agree now

/-- Both callers take a turn. -/
private theorem of_own
    (parallel : Parallel query other place otherPlace left right)
    (sameContext : query.context = other.context)
    (sameNow : left.now = right.now)
    (found : left.task? place = some task)
    (settled : task.isSettled = true)
    (taken : left.shared.turn left.now task = some turn)
    (otherFound : right.task? otherPlace = some otherTask)
    (otherSettled : otherTask.isSettled = true)
    (otherTaken : right.shared.turn right.now otherTask = some otherTurn)
    (sameAwaits : turn.task.bind ClientTask.awaits? = otherTurn.task.bind ClientTask.awaits?) :
    Parallel query other place otherPlace
      (left.update place turn) (right.update otherPlace otherTurn) := by
  obtain ⟨stage, otherStage, stands, otherStands, abreast⟩ := parallel.own
  rw [found] at stands
  rw [otherFound] at otherStands
  obtain rfl := ClientTask.eq_of_standing? stands settled
  obtain rfl := ClientTask.eq_of_standing? otherStands otherSettled
  have agree : CallStage.TurnsAgree query other turn otherTurn := by
    have turns := parallel.rel_own sameContext abreast left.now
    rw [show left.shared.callerTurn left.now stage = some turn from taken,
      show right.shared.callerTurn left.now otherStage = some otherTurn from
        sameNow ▸ otherTaken] at turns
    cases turns with
    | some agree =>
        exact agree
  obtain ⟨after, otherAfter, goes, otherGoes, agrees⟩ := agree.left
  rw [goes, otherGoes] at sameAwaits
  have agrees := agrees sameAwaits
  refine ⟨agree.shared, ?_, after.settled, otherAfter.settled, ?_, ?_, .entered agrees⟩
  · rw [Configuration.collect_without_update parallel.inside,
      Configuration.collect_without_update parallel.otherInside, parallel.others, agree.begun]
  · rw [Configuration.task?_update_self found, goes]
    exact ClientTask.standing?_of_agree agrees
  · rw [Configuration.task?_update_self otherFound, otherGoes]
    exact ClientTask.standing?_of_agree agrees.symm

/-- On both sides another task takes a turn, which has the same rank. -/
private theorem of_other
    (parallel : Parallel query other place otherPlace left right)
    (sameNow : left.now = right.now)
    (different : mover ≠ place)
    (found : left.task? mover = some task)
    (settled : task.isSettled = true)
    (taken : left.shared.turn left.now task = some turn)
    (otherDifferent : otherMover ≠ otherPlace)
    (otherFound : right.task? otherMover = some otherTask)
    (otherSettled : otherTask.isSettled = true)
    (otherTaken : right.shared.turn right.now otherTask = some otherTurn)
    (sameRank :
      (left.without place).rank ClientTask.featureSide? mover =
        (right.without otherPlace).rank ClientTask.featureSide? otherMover)
    (sameAwaits : turn.task.bind ClientTask.awaits? = otherTurn.task.bind ClientTask.awaits?) :
    Parallel query other place otherPlace
      (left.update mover turn) (right.update otherMover otherTurn) := by
  have present := (Configuration.task?_without different left).trans found
  have otherPresent := (Configuration.task?_without otherDifferent right).trans otherFound
  have serves := ClientTask.featureSide?_of_isSettled settled
  have otherServes := ClientTask.featureSide?_of_isSettled otherSettled
  -- What has the same rank among the same tasks is the same task.
  obtain rfl : task = otherTask := by
    have ranked := Configuration.getElem?_collect present serves
    rw [parallel.others, sameRank, Configuration.getElem?_collect otherPresent otherServes]
      at ranked
    exact (Option.some.inj ranked).symm
  have agree : ClientTask.TurnsAgree turn otherTurn := by
    have turns := ClientTask.TurnsAgree.rel_turn parallel.shared settled left.now
    rw [taken, sameNow, otherTaken] at turns
    cases turns with
    | some agree =>
        exact agree
  refine ⟨agree.shared, ?_, ?_⟩
  · rw [Configuration.without_update different parallel.inside,
      Configuration.without_update otherDifferent parallel.otherInside,
      Configuration.collect_update_eq present serves,
      Configuration.collect_update_eq otherPresent otherServes,
      parallel.others, sameRank, agree.left sameAwaits, agree.begun]
  · obtain ⟨stage, otherStage, stands, otherStands, abreast⟩ := parallel.own
    obtain ⟨standing, here, -⟩ := Option.bind_eq_some_iff.mp stands
    obtain ⟨otherStanding, there, -⟩ := Option.bind_eq_some_iff.mp otherStands
    refine ⟨stage, otherStage, ?_, ?_, abreast⟩
    · rw [Configuration.task?_update_other (Ne.symm different) here, ← here]
      exact stands
    · rw [Configuration.task?_update_other (Ne.symm otherDifferent) there, ← there]
      exact otherStands

/-- On both sides the same tasks begin. -/
private theorem of_append
    (parallel : Parallel query other place otherPlace left right)
    (begun : List ClientTask) :
    Parallel query other place otherPlace
      { left with tasks := left.tasks ++ begun.map some }
      { right with tasks := right.tasks ++ begun.map some } := by
  obtain ⟨stage, otherStage, stands, otherStands, abreast⟩ := parallel.own
  refine ⟨parallel.shared, ?_, stage, otherStage, ?_, ?_, abreast⟩
  · rw [Configuration.collect_without_append parallel.inside,
      Configuration.collect_without_append parallel.otherInside, parallel.others]
  · rw [Configuration.task?_append, if_pos parallel.inside]
    exact stands
  · rw [Configuration.task?_append, if_pos parallel.otherInside]
    exact otherStands

/-- The same event on both sides keeps clients parallel. -/
theorem of_shows
    {move otherMove : Move ClientAction}
    {event otherEvent : ServiceEvent}
    (parallel : Parallel query other place otherPlace left right)
    (sameContext : query.context = other.context)
    (shows : ClientTransition.Shows place ⟨left, move, next⟩ event)
    (otherShows : ClientTransition.Shows otherPlace ⟨right, otherMove, otherNext⟩ otherEvent)
    (same : event = otherEvent) :
    Parallel query other place otherPlace next otherNext := by
  cases shows with
  | own found settled taken =>
      cases otherShows with
      | own otherFound otherSettled otherTaken =>
          obtain ⟨sameNow, sameAwaits⟩ := ServiceEvent.own.inj same
          exact
            parallel.of_own sameContext sameNow found settled taken otherFound otherSettled
              otherTaken sameAwaits
      | other | called | disposed =>
          cases same
  | other different found settled taken =>
      cases otherShows with
      | other otherDifferent otherFound otherSettled otherTaken =>
          obtain ⟨sameNow, sameRank, sameAwaits⟩ := ServiceEvent.other.inj same
          exact
            parallel.of_other sameNow different found settled taken otherDifferent otherFound
              otherSettled otherTaken sameRank sameAwaits
      | own | called | disposed =>
          cases same
  | called =>
      cases otherShows with
      | called =>
          cases same
          exact parallel.of_append _
      | own | other | disposed =>
          cases same
  | disposed =>
      cases otherShows with
      | disposed =>
          exact ⟨parallel.shared.dispose, parallel.others, parallel.own⟩
      | own | other | called =>
          cases same

/-! ## Parallel runs -/

variable {history otherHistory : List ClientTransition}

/-- A run without an event keeps clients parallel. -/
theorem of_silentRun
    (parallel : Parallel query other place otherPlace left right)
    (run : Run system right otherHistory otherNext)
    (silent : serviceEvents otherPlace otherHistory = []) :
    Parallel query other place otherPlace left otherNext := by
  induction run with
  | start =>
      exact parallel
  | step run possible inductionHypothesis =>
      rw [serviceEvents, List.filterMap_append, List.append_eq_nil_iff] at silent
      have parallel := inductionHypothesis silent.1
      refine parallel.of_otherUnseen (.of_serviceEvent? possible ?_ parallel.otherInside)
      exact List.filterMap_eq_nil_iff.mp silent.2 _ (List.mem_singleton_self _)

/-- Runs with the same events keep clients parallel. -/
theorem of_runs
    (parallel : Parallel query other place otherPlace left right)
    (sameContext : query.context = other.context)
    (run : Run system left history next)
    (otherRun : Run system right otherHistory otherNext)
    (sameEvents : serviceEvents place history = serviceEvents otherPlace otherHistory) :
    Parallel query other place otherPlace next otherNext := by
  induction run generalizing otherHistory otherNext with
  | start =>
      exact parallel.of_silentRun otherRun sameEvents.symm
  | @step history last next move run possible inductionHypothesis =>
      rw [serviceEvents, List.filterMap_append, List.filterMap_cons, List.filterMap_nil]
        at sameEvents
      cases shown : ClientTransition.serviceEvent? place ⟨last, move, next⟩ with
      | none =>
          rw [shown, List.append_nil] at sameEvents
          have parallel := inductionHypothesis otherRun sameEvents
          exact parallel.of_unseen (.of_serviceEvent? possible shown parallel.inside)
      | some event =>
          rw [shown] at sameEvents
          -- The other run comes to the same event, and then nothing more is seen.
          obtain ⟨before, rest, rfl, sameBefore, sameRest⟩ :=
            List.filterMap_eq_append_iff.mp sameEvents.symm
          obtain ⟨between, transition, later, rfl, unseen, otherShown, silent⟩ :=
            List.filterMap_eq_cons_iff.mp sameRest
          rw [← List.append_assoc] at otherRun
          obtain ⟨runBefore, otherPossible⟩ := otherRun.of_split
          have parallel :=
            inductionHypothesis runBefore
              (by
                rw [serviceEvents, serviceEvents, List.filterMap_append, sameBefore,
                  List.filterMap_eq_nil_iff.mpr unseen, List.append_nil])
          have parallel :=
            parallel.of_shows sameContext
              (ClientTransition.shows_of_serviceEvent? possible shown)
              (ClientTransition.shows_of_serviceEvent? otherPossible otherShown) rfl
          exact parallel.of_silentRun otherRun.of_split_later silent

end Client.Parallel

end FeatureFlags
