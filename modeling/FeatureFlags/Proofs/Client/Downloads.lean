import FeatureFlags.Proofs.Client.Refreshing

namespace FeatureFlags

/-!
# Downloads of the definitions

What the moves of a client do with the ticker of the definitions, and with the tasks that
carry out its downloads. Only these send requests for the definitions.
-/

open FeatureFlags.Feature (Prepared)
open FeatureFlags.Transport (Content Exchange Progress Sent)

/-! ## Places -/

/-- The definitions that an exchange has ended with. -/
def Transport.Progress.definitions? : Progress → Option (List Feature.Definition)
  | .ended (.ok (.definitions definitions)) => some definitions
  | _ => none

/-- The loop of the definitions that a task is. -/
def DownloadRole.loop? : DownloadRole → Option TickerLoop
  | .periodic loop => some loop
  | _ => none

/-- The role of the task at a place; who has ended stands aside. -/
def Client.roleAt
    (configuration : Configuration Client ClientTask)
    (place : Nat) :
    DownloadRole :=
  ((configuration.task? place).map ClientTask.downloadRole).getD .aside

namespace ClientTransition

/-- The requests for the definitions that were sent, and the place of the task that sent them. -/
def downloads (transition : ClientTransition) : List (Nat × Sent) :=
  transition.sends.filter (·.2.endpoint = .definitions)

/-- The definitions that a download has ended with. -/
def obtained? (transition : ClientTransition) : Option (List Feature.Definition) :=
  match transition.move with
  | .turn place => do
      let exchange ← (Client.roleAt transition.before place).exchange?
      let moved ← transition.before.shared.exchange? transition.before.now exchange
      moved.2.definitions?
  | _ => none

end ClientTransition

namespace Client

variable
  {configuration : Configuration Client ClientTask}
  {place other : Nat}
  {task : ClientTask}

theorem roleAt_of_task?
    (found : configuration.task? place = some task) :
    roleAt configuration place = task.downloadRole := by
  simp [roleAt, found]

theorem roleAt_beyond
    (beyond : configuration.tasks.length ≤ place) :
    roleAt configuration place = .aside := by
  simp [roleAt, Configuration.task?, beyond]

/-- The roles of old and new tasks, place by place. -/
private theorem roleAt_append
    (configuration : Configuration Client ClientTask)
    (begun : List ClientTask)
    (now : Moment)
    (shared : Client)
    (place : Nat) :
    roleAt { now, shared, tasks := configuration.tasks ++ begun.map some } place =
      if place < configuration.tasks.length then
        roleAt configuration place
      else
        (begun[place - configuration.tasks.length]?.map ClientTask.downloadRole).getD .aside := by
  rw [roleAt, Configuration.task?_append]
  split <;> rfl

/-- The roles after a turn, place by place. -/
private theorem roleAt_update
    (found : configuration.task? place = some task)
    (turn : Turn Client ClientTask)
    (other : Nat) :
    roleAt (configuration.update place turn) other =
      if other = place then
        (turn.task.map ClientTask.downloadRole).getD .aside
      else if other < configuration.tasks.length then
        roleAt configuration other
      else
        (turn.begun[other - configuration.tasks.length]?.map
          ClientTask.downloadRole).getD .aside := by
  rw [roleAt, Configuration.task?_update found]
  split
  · rfl
  · split <;> rfl

/-- A turn that begins nobody changes the role of its own place only. -/
private theorem roleAt_update_of_nil
    (found : configuration.task? place = some task)
    {turn : Turn Client ClientTask}
    (nobody : turn.begun = [])
    (other : Nat) :
    roleAt (configuration.update place turn) other =
      if other = place then
        (turn.task.map ClientTask.downloadRole).getD .aside
      else
        roleAt configuration other := by
  rw [roleAt_update found, nobody]
  split
  · rfl
  · split
    · rfl
    · rename_i beyond
      simp [roleAt_beyond (Nat.not_lt.mp beyond)]

/-- A turn that begins a single task gives it the next place. -/
private theorem roleAt_update_of_toList
    (found : configuration.task? place = some task)
    {turn : Turn Client ClientTask}
    {new : Option ClientTask}
    (begun : turn.begun = new.toList)
    (other : Nat) :
    roleAt (configuration.update place turn) other =
      if other = place then
        (turn.task.map ClientTask.downloadRole).getD .aside
      else if other = configuration.tasks.length then
        (new.map ClientTask.downloadRole).getD .aside
      else
        roleAt configuration other := by
  rw [roleAt_update found, begun]
  split
  · rfl
  · rcases Nat.lt_trichotomy other configuration.tasks.length with old | next | beyond
    · rw [if_pos old, if_neg (Nat.ne_of_lt old)]
    · subst next
      cases new <;> simp
    · rw [if_neg (Nat.not_lt.mpr (Nat.le_of_lt beyond)), if_neg (Nat.ne_of_gt beyond),
        roleAt_beyond (Nat.le_of_lt beyond)]
      cases new with
      | none =>
          rfl
      | some task =>
          simp [Nat.sub_ne_zero_of_lt beyond]

/-- A turn that begins two tasks gives them the next two places. -/
private theorem roleAt_update_of_pair
    (found : configuration.task? place = some task)
    {turn : Turn Client ClientTask}
    {first second : ClientTask}
    (begun : turn.begun = [first, second])
    (other : Nat) :
    roleAt (configuration.update place turn) other =
      if other = place then
        (turn.task.map ClientTask.downloadRole).getD .aside
      else if other = configuration.tasks.length then
        first.downloadRole
      else if other = configuration.tasks.length + 1 then
        second.downloadRole
      else
        roleAt configuration other := by
  rw [roleAt_update found, begun]
  split
  · rfl
  · rcases Nat.lt_trichotomy other configuration.tasks.length with old | next | beyond
    · rw [if_pos old, if_neg (Nat.ne_of_lt old), if_neg (Nat.ne_of_lt (Nat.lt_succ_of_lt old))]
    · simp [next]
    · obtain ⟨more, rfl⟩ := Nat.exists_eq_add_of_le beyond
      have index :
          configuration.tasks.length + 1 + more - configuration.tasks.length = more + 1 := by
        omega
      rw [if_neg (Nat.not_lt.mpr (Nat.le_of_lt beyond)), if_neg (Nat.ne_of_gt beyond),
        roleAt_beyond (Nat.le_of_lt beyond), index]
      cases more <;> simp

/-- New tasks that stand aside. -/
private theorem getD_of_aside
    {begun : List ClientTask}
    (aside : ∀ {new}, new ∈ begun → new.downloadRole = .aside)
    (index : Nat) :
    (begun[index]?.map ClientTask.downloadRole).getD .aside = .aside := by
  cases found : begun[index]? with
  | none =>
      rfl
  | some new =>
      exact aside (List.mem_of_getElem? found)

end Client

/-! ## Moves -/

/-- Nothing is sent for the definitions, and no download ends with any. -/
structure ClientTransition.IsIdle (transition : ClientTransition) : Prop where
  unsent : transition.downloads = []
  unobtained : transition.obtained? = none

open Client (roleAt)

/-- What a move does with the ticker of the definitions, and with the roles of tasks. -/
inductive ClientTransition.Refreshes
    (transition : ClientTransition)
    (ticker : Ticker (List Prepared)) :
    Ticker (List Prepared) → Prop where
  | rests
      {after : Ticker (List Prepared)} :
      (after = ticker ∨
        (∃ refresh succeeded, ticker.await? refresh = some (after, succeeded)) ∨
        after = ticker.dispose) →
      transition.IsIdle →
      (∀ place,
        roleAt transition.after place = roleAt transition.before place ∨
          roleAt transition.after place = .aside) →
      Refreshes transition ticker after
  /-- A query finds that there have been no definitions yet. -/
  | misses
      {place : Nat}
      {query : Query} :
      transition.move = .turn place →
      transition.before.task? place = some (.caller (.resolving query)) →
      transition.after.task? place = some (.caller (.asking query)) →
      ticker.last = none →
      transition.IsIdle →
      (∀ other,
        roleAt transition.after other =
          if other = place then .asking query else roleAt transition.before other) →
      Refreshes transition ticker ticker
  /-- The loop moves; a download that it begins is carried out by the next task. -/
  | loopMoves
      (exchange : Exchange)
      {place : Nat}
      {loop : TickerLoop}
      {move : TickerLoop.Move (List Prepared)} :
      roleAt transition.before place = .periodic loop →
      loop.Moves transition.before.now ticker move →
      transition.IsIdle →
      (∀ other,
        roleAt transition.after other =
          if other = place then
            (move.loop.map .periodic).getD .aside
          else if other = transition.before.tasks.length then
            (move.refresh.map (.downloading · exchange)).getD .aside
          else
            roleAt transition.before other) →
      Refreshes transition ticker move.ticker
  /-- A query begins a download, which the next task carries out. -/
  | queryBegins
      (exchange : Exchange)
      {place : Nat}
      {query : Query} :
      transition.move = .turn place →
      transition.before.task? place = some (.caller (.asking query)) →
      ticker.inFlight? = none →
      transition.IsIdle →
      (∀ other,
        roleAt transition.after other =
          if other = place then
            .aside
          else if other = transition.before.tasks.length then
            .downloading ticker.refreshes.length exchange
          else if other = transition.before.tasks.length + 1 then
            .periodic ⟨ticker.loop + 1, .awaiting ticker.refreshes.length⟩
          else
            roleAt transition.before other) →
      Refreshes transition ticker { ticker.begin with loop := ticker.loop + 1 }
  /-- A download goes on; it sends its request if it has not done so yet. -/
  | downloadGoes
      {place refresh : Nat}
      {exchange next : Exchange} :
      roleAt transition.before place = .downloading refresh exchange →
      next.stage ≠ .prepared →
      (transition.downloads = [] ∨
        exchange.stage = .prepared ∧
          ∃ sent,
            sent.moment = transition.before.now ∧ transition.downloads = [(place, sent)]) →
      transition.obtained? = none →
      (∀ other,
        roleAt transition.after other =
          if other = place then
            .downloading refresh next
          else
            roleAt transition.before other) →
      Refreshes transition ticker ticker
  /-- A download ends, perhaps with definitions. -/
  | downloadEnds
      {place refresh : Nat}
      {exchange : Exchange} :
      roleAt transition.before place = .downloading refresh exchange →
      transition.downloads = [] →
      (∀ other,
        roleAt transition.after other =
          if other = place then .aside else roleAt transition.before other) →
      Refreshes transition ticker
        (ticker.finish transition.before.now refresh
          (transition.obtained?.map fun definitions =>
            definitions.map Prepared.ofDefinition))

namespace ClientTransition

variable {transition : ClientTransition} {place : Nat}

/-- Whoever is not a download neither sends for the definitions nor obtains any. -/
private theorem isIdle_of_kept
    (kept : transition.after.shared.transport = transition.before.shared.transport)
    (noDownload :
      ∀ {place}, transition.move = .turn place →
        (roleAt transition.before place).exchange? = none) :
    transition.IsIdle where
  unsent := by rw [downloads, sends_of_kept kept, List.filter_nil]
  unobtained := by
    unfold obtained?
    split
    · rename_i moves
      rw [noDownload moves]
      rfl
    · rfl

end ClientTransition

namespace ClientMove

variable
  {first transport : Transport}
  {ticker : Ticker (List Prepared)}
  {configuration next : Configuration Client ClientTask}
  {move : Move ClientAction}
  {place : Nat}
  {task : ClientTask}
  {turn : Turn Client ClientTask}

/-- The turn of a task that is not a download. -/
private theorem isIdle_of_turn
    (found : configuration.task? place = some task)
    (works : task.Works configuration.now configuration.shared transport turn)
    (present : configuration.shared.transport = some transport)
    (routed : task.IsRouted)
    (noDownload : task.downloadRole.exchange? = none) :
    ClientTransition.IsIdle ⟨configuration, .turn place, configuration.update place turn⟩ := by
  have idle {other : Nat}
      (moves : Move.turn (ε := ClientAction) place = .turn other) :
      (roleAt configuration other).exchange? = none := by
    cases moves
    rw [Client.roleAt_of_task? found, noDownload]
  cases works with
  | rests _ _ quiet =>
      exact ClientTransition.isIdle_of_kept quiet.kept.transport idle
  | enters _ isDraining =>
      subst isDraining
      exact ClientTransition.isIdle_of_kept rfl idle
  | offers _ kept | drains _ kept =>
      exact ClientTransition.isIdle_of_kept kept.transport idle
  | exchanges drives moves kept =>
      constructor
      case unsent =>
        rw [ClientTransition.downloads, ClientTransition.sends_of_turn rfl present kept.transport,
          List.filter_eq_nil_iff]
        intro send new
        obtain ⟨sent, added, rfl⟩ := List.mem_map.mp new
        have elsewhere := routed.endpoint_ne_definitions drives noDownload
        simpa [moves.endpoint_of_sent added] using elsewhere
      case unobtained =>
        simp [ClientTransition.obtained?, idle rfl]

/-- An exchange sends the request for the definitions once at most. -/
private theorem downloads_of_moves
    {transition : ClientTransition}
    {exchange : Exchange}
    {progress : Progress}
    {moved : Transport}
    (turns : transition.move = .turn place)
    (before : transition.before.shared.transport = some transport)
    (after : transition.after.shared.transport = some moved)
    (moves :
      Exchange.Moves transition.before.now transport exchange.request exchange.stage moved
        progress) :
    transition.downloads = [] ∨
    exchange.stage = .prepared ∧
      ∃ sent, sent.moment = transition.before.now ∧ transition.downloads = [(place, sent)] := by
  rw [ClientTransition.downloads, ClientTransition.sends_of_turn turns before after]
  rcases moves.sent_cases with same | ⟨address, next, prepared, -, -, added⟩
  · simp [same]
  · by_cases wanted : exchange.request.endpoint = .definitions
    · simp [added, wanted, prepared]
    · simp [added, wanted]

/-- An exchange that ends sends nothing. -/
private theorem downloads_of_ended
    {transition : ClientTransition}
    {exchange : Exchange}
    {result : Except Failure Content}
    {moved : Transport}
    (turns : transition.move = .turn place)
    (before : transition.before.shared.transport = some transport)
    (after : transition.after.shared.transport = some moved)
    (moves :
      Exchange.Moves transition.before.now transport exchange.request exchange.stage moved
        (.ended result)) :
    transition.downloads = [] := by
  rw [ClientTransition.downloads, ClientTransition.sends_of_turn turns before after]
  rcases moves.sent_cases with same | ⟨_, _, -, -, going, -⟩
  · simp [same]
  · cases going

private theorem obtained?_of_moves
    {refresh : Nat}
    {exchange : Exchange}
    {progress : Progress}
    {moved : Client}
    (role : roleAt configuration place = .downloading refresh exchange)
    (possible :
      configuration.shared.exchange? configuration.now exchange = some (moved, progress))
    (after : Configuration Client ClientTask) :
    ClientTransition.obtained? ⟨configuration, .turn place, after⟩ = progress.definitions? := by
  simp [ClientTransition.obtained?, role, DownloadRole.exchange?, possible]

/-- The definitions that a download has ended with are kept. -/
private theorem definitions_endDownload
    {client : Client}
    (present : client.definitions = some ticker)
    (now : Moment)
    (refresh : Nat)
    (result : Except Failure Content) :
    (client.endDownload now refresh result).definitions =
      some (ticker.finish now refresh
        ((Progress.ended result).definitions?.map fun definitions =>
          definitions.map Prepared.ofDefinition)) := by
  simp only [Client.endDownload, present, Option.map_some, Option.some.injEq]
  congr 1
  split
  · rfl
  · rename_i none
    unfold Progress.definitions?
    split
    · rename_i same
      cases same
      exact absurd rfl (none _)
    · rfl

/-- A turn tells what a move does with the definitions. -/
private theorem refreshes_of_turn
    (found : configuration.task? place = some task)
    (works : task.Works configuration.now configuration.shared transport turn)
    (online : configuration.shared.transport = some transport)
    (routed : task.IsRouted)
    (present : configuration.shared.definitions = some ticker)
    (refreshes :
      task.Refreshes configuration.now configuration.shared transport ticker turn) :
    ∃ after,
      turn.shared.definitions = some after ∧
        ClientTransition.Refreshes
          ⟨configuration, .turn place, configuration.update place turn⟩ ticker after := by
  have role := Client.roleAt_of_task? found
  cases refreshes with
  | rests noDownload seen sees spares =>
      refine ⟨_, spares.definitions.trans seen, .rests ?_ ?_ ?_⟩
      · exact sees.imp id .inl
      · exact isIdle_of_turn found works online routed noDownload
      · intro other
        rw [Client.roleAt_update found, Client.getD_of_aside spares.begun]
        split
        · cases left : turn.task with
          | none =>
              exact .inr rfl
          | some task =>
              exact .inr (spares.left left)
        · split
          · exact .inl rfl
          · exact .inr rfl
  | misses nothing =>
      refine ⟨ticker, present, .misses rfl found ?_ nothing ?_ ?_⟩
      · exact Configuration.task?_update_self found _
      · exact isIdle_of_turn found works online routed rfl
      · exact Client.roleAt_update_of_nil found rfl
  | loopMoves moves =>
      refine
        ⟨_, rfl, .loopMoves { request := transport.definitionsRequest } role moves ?_ ?_⟩
      · exact isIdle_of_turn found works online routed rfl
      · intro other
        rw [Client.roleAt_update_of_toList found rfl, Option.map_map, Option.map_map]
        rfl
  | queryBegins free =>
      refine
        ⟨_, rfl,
          .queryBegins { request := transport.definitionsRequest } rfl found free ?_ ?_⟩
      · exact isIdle_of_turn found works online routed rfl
      · intro other
        rw [Client.roleAt_update_of_pair found]
        case begun => rfl
        rfl
  | downloadGoes possible moves =>
      refine ⟨ticker, present, .downloadGoes role moves.of_going.2 ?_ ?_ ?_⟩
      · exact downloads_of_moves rfl online rfl moves
      · exact obtained?_of_moves role possible _
      · exact Client.roleAt_update_of_nil found rfl
  | downloadEnds possible moves =>
      refine ⟨_, ?_, .downloadEnds role ?_ ?_⟩
      · rw [obtained?_of_moves role possible]
        exact definitions_endDownload present _ _ _
      · exact downloads_of_ended rfl online rfl moves
      · exact Client.roleAt_update_of_nil found rfl

/-- New tasks that stand aside change no role. -/
private theorem roleAt_append_of_aside
    {begun : List ClientTask}
    (aside : ∀ {new}, new ∈ begun → new.downloadRole = .aside)
    (now : Moment)
    (shared : Client)
    (other : Nat) :
    roleAt { now, shared, tasks := configuration.tasks ++ begun.map some } other =
        roleAt configuration other ∨
      roleAt { now, shared, tasks := configuration.tasks ++ begun.map some } other = .aside := by
  rw [Client.roleAt_append, Client.getD_of_aside aside]
  split
  · exact .inl rfl
  · exact .inr rfl

/-- Every move does one of these where nobody requests a download. -/
theorem refreshes
    (moved : ClientMove configuration move next)
    (connected : configuration.shared.IsConnected first)
    (routed : ∀ {place task}, configuration.task? place = some task → task.IsRouted)
    (present : configuration.shared.definitions = some ticker)
    (unrequested : ∀ place, roleAt configuration place ≠ .requesting)
    (noRequest : move ≠ .intervene (.call .refresh)) :
    ∃ after,
      next.shared.definitions = some after ∧
        ClientTransition.Refreshes ⟨configuration, move, next⟩ ticker after := by
  obtain ⟨transport, online, -, -⟩ := connected.connected
  cases moved with
  | turn found taken =>
      have role := Client.roleAt_of_task? found
      have works := taken.works connected.online online
      refine refreshes_of_turn found works online (routed found) present ?_
      exact taken.refreshes online present (role ▸ unrequested _)
  | wait | idle =>
      exact ⟨ticker, present, .rests (.inl rfl) ⟨rfl, rfl⟩ fun _ => .inl rfl⟩
  | call =>
      rename_i begun
      have aside {new : ClientTask} (begins : new ∈ [ClientTask.caller (.begun begun)]) :
          new.downloadRole = .aside := by
        cases List.mem_singleton.mp begins
        cases begun with
        | refresh =>
            exact absurd rfl noRequest
        | features | feature | flush =>
            rfl
      refine ⟨ticker, present, .rests (.inl rfl) ⟨rfl, rfl⟩ ?_⟩
      exact roleAt_append_of_aside aside configuration.now configuration.shared
  | report _ _ _ queued =>
      obtain ⟨kept, aside⟩ := Client.SparesDefinitions.of_enqueue queued
      refine ⟨ticker, kept.trans present, .rests (.inl rfl) ⟨rfl, rfl⟩ ?_⟩
      exact roleAt_append_of_aside aside _ _
  | dispose =>
      have disposed := congrArg (Option.map Ticker.dispose) present
      exact ⟨_, disposed, .rests (.inr (.inr rfl)) ⟨rfl, rfl⟩ fun _ => .inl rfl⟩

end ClientMove

end FeatureFlags
