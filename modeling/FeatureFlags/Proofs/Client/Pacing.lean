import FeatureFlags.Proofs.Client.Callers
import FeatureFlags.Proofs.Client.Downloads
import FeatureFlags.Proofs.Client.Delivery

namespace FeatureFlags

/-!
# The pace of downloads

However calls for features, periodic refreshes and answers of the backend follow each
other, two downloads of the definitions begin an interval apart, unless the later one was
asked for by a query that had found no definitions. A query that looks for them after a
download has succeeded asks for none.
-/

open FeatureFlags.Feature (Prepared)
open FeatureFlags.Transport (Exchange Sent)
open Client (roleAt)

/-! ## What a move leaves behind -/

/-- Whether a caller is about to ask for a download. -/
def DownloadRole.isCaller : DownloadRole → Bool
  | .asking _ => true
  | .requesting => true
  | _ => false

/-- A download begins, which the task at a place carries out. -/
structure ClientTransition.BeginsDownload
    (transition : ClientTransition)
    (ticker after : Ticker (List Prepared))
    (place refresh : Nat) :
    Prop where
  free : ticker.inFlight? = none
  running : after.running? = some refresh
  next : place = transition.before.tasks.length
  idle : transition.IsIdle
  cause :
    (∃ loop number,
      roleAt transition.before loop = .periodic ⟨number, .due⟩ ∧
        ticker.isCancelled number = false) ∨
    ∃ caller query,
      transition.move = .turn caller ∧
        transition.before.task? caller = some (.caller (.asking query))

namespace ClientTransition.Refreshes

variable
  {transition : ClientTransition}
  {ticker after : Ticker (List Prepared)}
  {place refresh : Nat}
  {exchange : Exchange}

/-- A request for the definitions is sent by the task that had prepared it. -/
theorem downloads_cases
    (refreshes : transition.Refreshes ticker after) :
    transition.downloads = [] ∨
    ∃ place refresh exchange sent,
      roleAt transition.before place = .downloading refresh exchange ∧
        exchange.stage = .prepared ∧
        sent.moment = transition.before.now ∧
        transition.downloads = [(place, sent)] ∧
        ∀ {refresh exchange},
          roleAt transition.after place = .downloading refresh exchange →
          exchange.stage ≠ .prepared := by
  cases refreshes with
  | rests _ idle | misses _ _ _ _ idle | loopMoves _ _ _ idle | queryBegins _ _ _ _ idle =>
      exact .inl idle.unsent
  | downloadEnds _ unsent =>
      exact .inl unsent
  | downloadGoes role sent sends _ roles =>
      refine sends.imp id ?_
      rintro ⟨prepared, post, moment, posted⟩
      refine ⟨_, _, _, post, role, prepared, moment, posted, ?_⟩
      intro refresh exchange downloads
      rw [roles, if_pos rfl] at downloads
      cases downloads
      exact sent

/-- Seeing an outcome changes neither the definitions nor the interval. -/
private theorem kept_of_await?
    {succeeded : Bool}
    (sees : ticker.await? refresh = some (after, succeeded)) :
    after.last = ticker.last ∧ after.interval = ticker.interval := by
  rcases Ticker.await?_cases sees with ⟨-, rfl⟩ | ⟨-, rfl⟩ <;> exact ⟨rfl, rfl⟩

/-- A loop changes neither the definitions nor the interval. -/
private theorem kept_of_moves
    {now : Moment}
    {loop : TickerLoop}
    {move : TickerLoop.Move (List Prepared)}
    (moves : loop.Moves now ticker move) :
    move.ticker.last = ticker.last ∧ move.ticker.interval = ticker.interval := by
  cases moves with
  | sees sees =>
      exact kept_of_await? sees
  | ends | sleeps | wakes | joins | begins =>
      exact ⟨rfl, rfl⟩

/-- Definitions that have been obtained once are there for good. -/
theorem last_eq_none
    (refreshes : transition.Refreshes ticker after)
    (nothing : after.last = none) :
    ticker.last = none ∧ transition.obtained? = none := by
  cases refreshes with
  | rests sees idle =>
      refine ⟨?_, idle.unobtained⟩
      rcases sees with rfl | ⟨_, _, seen⟩ | rfl
      · exact nothing
      · exact (kept_of_await? seen).1.symm.trans nothing
      · exact nothing
  | misses _ _ _ _ idle =>
      exact ⟨nothing, idle.unobtained⟩
  | queryBegins _ _ _ _ idle =>
      exact ⟨nothing, idle.unobtained⟩
  | loopMoves _ _ moves idle =>
      exact ⟨(kept_of_moves moves).1.symm.trans nothing, idle.unobtained⟩
  | downloadGoes _ _ _ unobtained =>
      exact ⟨nothing, unobtained⟩
  | downloadEnds =>
      cases obtained : transition.obtained? with
      | none =>
          rw [obtained] at nothing
          exact ⟨nothing, rfl⟩
      | some definitions =>
          rw [obtained] at nothing
          cases nothing

theorem interval_eq
    (refreshes : transition.Refreshes ticker after) :
    after.interval = ticker.interval := by
  cases refreshes with
  | rests sees =>
      rcases sees with rfl | ⟨_, _, seen⟩ | rfl
      · rfl
      · exact (kept_of_await? seen).2
      · rfl
  | loopMoves _ _ moves =>
      exact (kept_of_moves moves).2
  | downloadEnds =>
      cases transition.obtained? <;> rfl
  | misses | queryBegins | downloadGoes =>
      rfl

/-- Whoever is about to ask for a download was so before, or has found no definitions. -/
theorem isCaller_cases
    (refreshes : transition.Refreshes ticker after)
    (isCaller : (roleAt transition.after place).isCaller = true) :
    roleAt transition.after place = roleAt transition.before place ∨
    ∃ query,
      roleAt transition.after place = .asking query ∧
        transition.move = .turn place ∧
        transition.before.task? place = some (.caller (.resolving query)) ∧
        transition.after.task? place = some (.caller (.asking query)) ∧
        ticker.last = none := by
  cases refreshes with
  | rests _ _ roles =>
      refine (roles place).imp id fun aside => ?_
      rw [aside] at isCaller
      cases isCaller
  | misses moves before after nothing _ roles =>
      rw [roles]
      split
      · rename_i same
        subst same
        exact .inr ⟨_, rfl, moves, before, after, nothing⟩
      · exact .inl rfl
  | loopMoves exchange role moves idle roles =>
      rename_i move
      have noLoop : ((move.loop.map DownloadRole.periodic).getD .aside).isCaller = false := by
        cases move.loop <;> rfl
      have noDownload :
          ((move.refresh.map (DownloadRole.downloading · exchange)).getD .aside).isCaller =
            false := by
        cases move.refresh <;> rfl
      rw [roles] at isCaller ⊢
      grind
  | queryBegins _ _ _ _ _ roles =>
      rw [roles] at isCaller ⊢
      grind [DownloadRole.isCaller]
  | downloadGoes _ _ _ _ roles | downloadEnds _ _ roles =>
      rw [roles] at isCaller ⊢
      grind [DownloadRole.isCaller]

/-- A download was there before, or begins. -/
theorem downloading_cases
    (refreshes : transition.Refreshes ticker after)
    (downloads : roleAt transition.after place = .downloading refresh exchange) :
    (∃ before,
      roleAt transition.before place = .downloading refresh before ∧
        (exchange.stage = .prepared → before = exchange)) ∨
    transition.BeginsDownload ticker after place refresh := by
  cases refreshes with
  | rests _ _ roles =>
      rcases roles place with same | aside
      · exact .inl ⟨exchange, same.symm.trans downloads, fun _ => rfl⟩
      · rw [aside] at downloads
        cases downloads
  | misses _ _ _ _ _ roles =>
      rw [roles] at downloads
      split at downloads
      · cases downloads
      · exact .inl ⟨exchange, downloads, fun _ => rfl⟩
  | loopMoves request role moves idle roles =>
      rename_i move
      rw [roles] at downloads
      split at downloads
      · cases left : move.loop <;> rw [left] at downloads <;> cases downloads
      · split at downloads
        · cases moves with
          | begins notCancelled free =>
              cases downloads
              exact
                .inr ⟨free, ticker.running?_begin, ‹_›, idle, .inl ⟨_, _, role, notCancelled⟩⟩
          | sees | ends | sleeps | wakes | joins =>
              cases downloads
        · exact .inl ⟨exchange, downloads, fun _ => rfl⟩
  | queryBegins _ moves asks free idle roles =>
      rw [roles] at downloads
      split at downloads
      · cases downloads
      · split at downloads
        · cases downloads
          exact .inr ⟨free, ticker.running?_begin, ‹_›, idle, .inr ⟨_, _, moves, asks⟩⟩
        · split at downloads
          · cases downloads
          · exact .inl ⟨exchange, downloads, fun _ => rfl⟩
  | downloadGoes role sent _ _ roles =>
      rw [roles] at downloads
      split at downloads
      · rename_i same
        cases downloads
        exact .inl ⟨_, same ▸ role, fun prepared => absurd prepared sent⟩
      · exact .inl ⟨exchange, downloads, fun _ => rfl⟩
  | downloadEnds _ _ roles =>
      rw [roles] at downloads
      split at downloads
      · cases downloads
      · exact .inl ⟨exchange, downloads, fun _ => rfl⟩

/-- A refresh runs on until its download ends. -/
theorem running?_cases
    (refreshes : transition.Refreshes ticker after)
    (orderly : ticker.Orderly)
    (running : ticker.running? = some refresh) :
    after.running? = some refresh ∨
    ∃ place refresh exchange,
      roleAt transition.before place = .downloading refresh exchange ∧
        roleAt transition.after place = .aside := by
  have held : ticker.inFlight? ≠ none := by
    rw [orderly.inFlight?_eq, (Ticker.running?_eq_some_iff.mp running).1]
    exact nofun
  cases refreshes with
  | rests sees =>
      rcases sees with rfl | ⟨_, _, seen⟩ | rfl
      · exact .inl running
      · exact .inl ((orderly.running?_await? seen).trans running)
      · exact .inl running
  | misses | downloadGoes =>
      exact .inl running
  | loopMoves _ _ moves =>
      cases moves with
      | sees seen =>
          exact .inl ((orderly.running?_await? seen).trans running)
      | ends | sleeps | wakes | joins =>
          exact .inl running
      | begins _ free =>
          exact absurd free held
  | queryBegins _ _ _ free =>
      exact absurd free held
  | downloadEnds role _ roles =>
      exact .inr ⟨_, _, _, role, by rw [roles, if_pos rfl]⟩

/-- A change at one place, which leaves no loop there, leaves no loop that was not there. -/
private theorem loop?_before
    {changed : Nat}
    {role : DownloadRole}
    {loop : TickerLoop}
    (roles :
      ∀ other,
        roleAt transition.after other =
          if other = changed then role else roleAt transition.before other)
    (noLoop : role.loop? = none)
    (found : (roleAt transition.after place).loop? = some loop) :
    (roleAt transition.before place).loop? = some loop := by
  rw [roles] at found
  split at found
  · rw [noLoop] at found
    cases found
  · exact found

/-- The download and the loop that a query begins stand behind all tasks so far. -/
private theorem loop?_of_begun
    {caller : Nat}
    {query : Query}
    {loop : TickerLoop}
    (asks : transition.before.task? caller = some (.caller (.asking query)))
    (roles :
      ∀ other,
        roleAt transition.after other =
          if other = caller then
            .aside
          else if other = transition.before.tasks.length then
            .downloading refresh exchange
          else if other = transition.before.tasks.length + 1 then
            .periodic loop
          else
            roleAt transition.before other)
    (other : Nat) :
    (roleAt transition.after other).loop? =
      if other = transition.before.tasks.length + 1 then
        some loop
      else
        (roleAt transition.before other).loop? := by
  have inside := Configuration.lt_length_of_task? asks
  rw [roles]
  split
  · rename_i same
    rw [if_neg (by omega), same, Client.roleAt_of_task? asks]
    rfl
  · split
    · rename_i next
      rw [if_neg (by omega), next, Client.roleAt_beyond (Nat.le_refl _)]
      rfl
    · split <;> rfl

/-- The loop in force keeps its pace. -/
theorem paced
    {marks : List Moment}
    (refreshes : transition.Refreshes ticker after)
    (paced :
      ticker.Paced (fun place => (roleAt transition.before place).loop?) marks
        transition.before.now)
    (running :
      ∀ {place refresh exchange},
        roleAt transition.before place = .downloading refresh exchange →
        ticker.running? = some refresh) :
    after.Paced (fun place => (roleAt transition.after place).loop?)
      (marks ++ transition.downloads.map (·.2.moment)) transition.before.now := by
  cases refreshes with
  | rests sees idle roles =>
      rw [idle.unsent, List.map_nil, List.append_nil]
      have fewer {place : Nat} {loop : TickerLoop}
          (found : (roleAt transition.after place).loop? = some loop) :
          (roleAt transition.before place).loop? = some loop := by
        rcases roles place with same | aside
        · exact same ▸ found
        · rw [aside] at found
          cases found
      have left := paced.mono (Nat.le_refl _) fewer
      rcases sees with rfl | ⟨_, _, seen⟩ | rfl
      · exact left
      · exact left.seen seen
      · exact left.disposed
  | misses _ _ _ _ idle roles =>
      rw [idle.unsent, List.map_nil, List.append_nil]
      exact paced.mono (Nat.le_refl _) (loop?_before roles rfl)
  | loopMoves _ role moves idle roles =>
      rename_i owner loop move
      rw [idle.unsent, List.map_nil, List.append_nil]
      refine paced.move (by rw [role]; rfl) moves ?_
      intro other
      rw [roles]
      split
      · cases move.loop <;> rfl
      · split
        · rename_i next
          rw [next, Client.roleAt_beyond (Nat.le_refl _)]
          cases move.refresh <;> rfl
        · rfl
  | queryBegins _ _ asks free idle roles =>
      rw [idle.unsent, List.map_nil, List.append_nil]
      exact paced.forced free (loop?_of_begun asks roles)
  | downloadGoes role _ sends _ roles =>
      have left := paced.mono (Nat.le_refl _) (loop?_before roles rfl)
      rcases sends with unsent | ⟨-, sent, moment, posted⟩
      · rw [unsent, List.map_nil, List.append_nil]
        exact left
      · -- The request marks the moment from which the loop in force counts.
        rw [posted, List.map_singleton, moment]
        exact left.mark (running role)
  | downloadEnds role unsent roles =>
      rw [unsent, List.map_nil, List.append_nil]
      exact (paced.finished (running role) _).mono (Nat.le_refl _) (loop?_before roles rfl)

end ClientTransition.Refreshes

/-! ## Downloads along a run -/

/-- A query asks for definitions, and the task at a place begins to download them. -/
structure ClientTransition.ForcesDownload
    (transition : ClientTransition)
    (caller : Nat)
    (query : Query)
    (place : Nat) :
    Prop where
  move : transition.move = .turn caller
  asks : transition.before.task? caller = some (.caller (.asking query))
  next : place = transition.before.tasks.length
  downloads : ∃ refresh exchange, roleAt transition.after place = .downloading refresh exchange

/-- Whether a caller is past its look for definitions, and at most reports and answers. -/
def CallStage.hasLooked : CallStage → Bool
  | .reporting _ _ _ => true
  | .answered _ => true
  | _ => false

theorem CallStage.Proceeds.hasLooked
    {now : Moment}
    {client after : Client}
    {stage next : CallStage}
    (proceeds : stage.Proceeds now client after next)
    (looked : stage.hasLooked = true) :
    next.hasLooked = true := by
  cases proceeds with
  | shut | evaluates | reports | reported =>
      rfl
  | refused | enters | updates | updated | resolvesOffline | resolvesRemotely | misses | asks
  | evaluating | evaluated | drainsNothing | drains | flushing | flushed | requestsNothing
  | requests | refreshed =>
      cases looked

namespace Client

/-- The requests for the definitions along some moves, each with the task that sent it. -/
def downloads (history : List ClientTransition) : List (Nat × Sent) :=
  history.flatMap ClientTransition.downloads

/-- A query looks for definitions, and no download has ever ended with any. -/
structure FindsNothing
    (earlier : List ClientTransition)
    (looks : ClientTransition)
    (caller : Nat)
    (query : Query) :
    Prop where
  move : looks.move = .turn caller
  before : looks.before.task? caller = some (.caller (.resolving query))
  after : looks.after.task? caller = some (.caller (.asking query))
  nothing : ∀ transition ∈ earlier, transition.obtained? = none

/-- The download at a place was begun by a query that had found no definitions. -/
def IsForced
    (history : List ClientTransition)
    (place : Nat) :
    Prop :=
  ∃ earlier looks between asks later caller query,
    history = earlier ++ looks :: (between ++ asks :: later) ∧
      FindsNothing earlier looks caller query ∧
      ClientTransition.ForcesDownload asks caller query place

/-- Any two downloads begin an interval apart. -/
def AreApart
    (interval : Nat)
    (history : List ClientTransition) :
    Prop :=
  (downloads history).Pairwise fun first second =>
    first.2.moment + interval ≤ second.2.moment

/-- Of two downloads, the later one begins an interval after the earlier, or was forced. -/
def KeepsApart
    (interval : Nat)
    (history : List ClientTransition)
    (first second : Nat × Sent) :
    Prop :=
  first.2.moment + interval ≤ second.2.moment ∨ IsForced history second.1

/--
Any two downloads begin an interval apart, unless a query has forced the later one, which
none does that looks after a success.
-/
structure PacesDownloads
    (interval : Nat)
    (history : List ClientTransition)
    (last : Configuration Client ClientTask) :
    Prop where
  /-- All requests for the definitions are those of downloads. -/
  sent_eq :
    last.shared.sent.filter (·.endpoint = .definitions) = (downloads history).map (·.2)
  apart : (downloads history).Pairwise (KeepsApart interval history)
  /-- A query that looks after a download has succeeded never forces one. -/
  spared :
    ∀ {earlier looks later caller query},
      history = earlier ++ looks :: later →
      looks.move = .turn caller →
      looks.before.task? caller = some (.caller (.resolving query)) →
      (∃ transition ∈ earlier, transition.obtained?.isSome = true) →
      ∀ asks ∈ later, ∀ asked place,
        ¬ ClientTransition.ForcesDownload asks caller asked place

variable
  {history more : List ClientTransition}
  {transition : ClientTransition}
  {place : Nat}

theorem downloads_snoc :
    downloads (history ++ [transition]) = downloads history ++ transition.downloads := by
  simp [downloads]

theorem IsForced.append
    (forced : IsForced history place)
    (more : List ClientTransition) :
    IsForced (history ++ more) place := by
  obtain ⟨earlier, looks, between, asks, later, caller, query, rfl, finds, forces⟩ := forced
  exact ⟨earlier, looks, between, asks, later ++ more, caller, query, by simp, finds, forces⟩

/-- What holds of the ticker of the definitions, and of whoever downloads, after a run. -/
structure Paces
    (interval : Nat)
    (ticker : Ticker (List Prepared))
    (history : List ClientTransition)
    (last : Configuration Client ClientTask) :
    Prop where
  definitions : last.shared.definitions = some ticker
  interval_eq : ticker.interval = interval
  /-- The loop in force keeps apart from all downloads so far. -/
  paced :
    ticker.Paced (fun place => (roleAt last place).loop?)
      ((downloads history).map (·.2.moment)) last.now
  running :
    ∀ {place refresh exchange},
      roleAt last place = .downloading refresh exchange →
      ticker.running? = some refresh
  alone :
    ∀ {place other refresh another exchange next},
      roleAt last place = .downloading refresh exchange →
      roleAt last other = .downloading another next →
      place = other
  /-- A request that is about to be sent is apart from all before it, or forced. -/
  prepared :
    ∀ {place refresh exchange},
      roleAt last place = .downloading refresh exchange →
      exchange.stage = .prepared →
      (∀ download ∈ downloads history, download.2.moment + interval ≤ last.now) ∨
        IsForced history place
  looked :
    ∀ {place query},
      roleAt last place = .asking query →
      ∃ earlier looks later,
        history = earlier ++ looks :: later ∧ FindsNothing earlier looks place query
  unrequested : ∀ place, roleAt last place ≠ .requesting
  unobtained : ticker.last = none → ∀ transition ∈ history, transition.obtained? = none
  apart : (downloads history).Pairwise (KeepsApart interval history)

namespace Paces

variable
  {interval : Nat}
  {ticker after : Ticker (List Prepared)}
  {last next : Configuration Client ClientTask}
  {move : Move ClientAction}

private theorem running_step
    (paces : Paces interval ticker history last)
    (refreshes : ClientTransition.Refreshes ⟨last, move, next⟩ ticker after)
    {refresh : Nat}
    {exchange : Exchange}
    (downloads : roleAt next place = .downloading refresh exchange) :
    after.running? = some refresh := by
  rcases refreshes.downloading_cases downloads with ⟨before, standing, -⟩ | begins
  · rcases refreshes.running?_cases paces.paced.orderly (paces.running standing) with
      runs | ⟨other, _, _, stood, aside⟩
    · exact runs
    · -- Only the download itself could have ended, and it goes on.
      obtain rfl := paces.alone standing stood
      rw [downloads] at aside
      cases aside
  · exact begins.running

private theorem alone_step
    (paces : Paces interval ticker history last)
    (refreshes : ClientTransition.Refreshes ⟨last, move, next⟩ ticker after)
    {other refresh another : Nat}
    {exchange second : Exchange}
    (downloads : roleAt next place = .downloading refresh exchange)
    (alsoDownloads : roleAt next other = .downloading another second) :
    place = other := by
  have busy {place refresh : Nat} {exchange : Exchange}
      (standing : roleAt last place = .downloading refresh exchange) :
      ticker.inFlight? ≠ none := by
    rw [paces.paced.orderly.inFlight?_eq,
      (Ticker.running?_eq_some_iff.mp (paces.running standing)).1]
    exact nofun
  rcases refreshes.downloading_cases downloads with ⟨_, standing, -⟩ | begins
  · rcases refreshes.downloading_cases alsoDownloads with ⟨_, alsoStanding, -⟩ | alsoBegins
    · exact paces.alone standing alsoStanding
    · exact absurd alsoBegins.free (busy standing)
  · rcases refreshes.downloading_cases alsoDownloads with ⟨_, alsoStanding, -⟩ | alsoBegins
    · exact absurd begins.free (busy alsoStanding)
    · exact begins.next.trans alsoBegins.next.symm

/-- A download that a query begins is forced. -/
private theorem isForced_of_asks
    (paces : Paces interval ticker history last)
    {caller : Nat}
    {query : Query}
    (forces : ClientTransition.ForcesDownload ⟨last, move, next⟩ caller query place) :
    IsForced (history ++ [⟨last, move, next⟩]) place := by
  obtain ⟨earlier, looks, later, shape, finds⟩ :=
    paces.looked (Client.roleAt_of_task? forces.asks)
  exact ⟨earlier, looks, later, _, [], caller, query, by simp [shape], finds, forces⟩

private theorem prepared_step
    (paces : Paces interval ticker history last)
    (refreshes : ClientTransition.Refreshes ⟨last, move, next⟩ ticker after)
    (passes : last.now ≤ next.now)
    {refresh : Nat}
    {exchange : Exchange}
    (role : roleAt next place = .downloading refresh exchange)
    (prepared : exchange.stage = .prepared) :
    (∀ download ∈ downloads (history ++ [⟨last, move, next⟩]),
        download.2.moment + interval ≤ next.now) ∨
      IsForced (history ++ [⟨last, move, next⟩]) place := by
  rcases refreshes.downloading_cases role with ⟨before, standing, same⟩ | begins
  · obtain rfl := same prepared
    rcases refreshes.downloads_cases with unsent | ⟨sender, _, _, _, sends, -, -, -, leaves⟩
    · rw [downloads_snoc, unsent, List.append_nil]
      rcases paces.prepared standing prepared with apart | forced
      · exact .inl fun download member => Nat.le_trans (apart download member) passes
      · exact .inr (forced.append _)
    · obtain rfl := paces.alone standing sends
      exact absurd prepared (leaves role)
  · rcases begins.cause with ⟨loop, number, periodic, notCancelled⟩ | ⟨caller, query, moves, asks⟩
    · rw [downloads_snoc, begins.idle.unsent, List.append_nil]
      refine .inl fun download member => ?_
      have found : (roleAt last loop).loop? = some ⟨number, .due⟩ := by
        rw [periodic]
        rfl
      have apart :=
        paces.paced.apart found notCancelled _ (List.mem_map_of_mem member)
      rw [paces.interval_eq] at apart
      exact Nat.le_trans apart passes
    · exact .inr (paces.isForced_of_asks ⟨moves, asks, begins.next, _, _, role⟩)

private theorem looked_step
    (paces : Paces interval ticker history last)
    (refreshes : ClientTransition.Refreshes ⟨last, move, next⟩ ticker after)
    {query : Query}
    (asks : roleAt next place = .asking query) :
    ∃ earlier looks later,
      history ++ [⟨last, move, next⟩] = earlier ++ looks :: later ∧
        FindsNothing earlier looks place query := by
  have isCaller : (roleAt next place).isCaller = true := by
    rw [asks]
    rfl
  rcases refreshes.isCaller_cases isCaller with same | ⟨_, asked, moves, before, after, nothing⟩
  · obtain ⟨earlier, looks, later, shape, finds⟩ := paces.looked (same.symm.trans asks)
    exact ⟨earlier, looks, later ++ [⟨last, move, next⟩], by simp [shape], finds⟩
  · cases asked.symm.trans asks
    exact ⟨history, _, [], rfl, moves, before, after, paces.unobtained nothing⟩

private theorem unrequested_step
    (paces : Paces interval ticker history last)
    (refreshes : ClientTransition.Refreshes ⟨last, move, next⟩ ticker after)
    (place : Nat) :
    roleAt next place ≠ .requesting := by
  intro requests
  have isCaller : (roleAt next place).isCaller = true := by
    rw [requests]
    rfl
  rcases refreshes.isCaller_cases isCaller with same | ⟨_, asks, -⟩
  · exact paces.unrequested place (same.symm.trans requests)
  · cases asks.symm.trans requests

private theorem unobtained_step
    (paces : Paces interval ticker history last)
    (refreshes : ClientTransition.Refreshes ⟨last, move, next⟩ ticker after)
    (nothing : after.last = none) :
    ∀ transition ∈ history ++ [⟨last, move, next⟩], transition.obtained? = none := by
  obtain ⟨before, unobtained⟩ := refreshes.last_eq_none nothing
  intro transition member
  rcases List.mem_append.mp member with earlier | newest
  · exact paces.unobtained before transition earlier
  · cases List.mem_singleton.mp newest
    exact unobtained

private theorem apart_step
    (paces : Paces interval ticker history last)
    (refreshes : ClientTransition.Refreshes ⟨last, move, next⟩ ticker after) :
    (downloads (history ++ [⟨last, move, next⟩])).Pairwise
      (KeepsApart interval (history ++ [⟨last, move, next⟩])) := by
  have before :
      (downloads history).Pairwise (KeepsApart interval (history ++ [⟨last, move, next⟩])) := by
    apply paces.apart.imp
    intro first second apart
    exact apart.imp id fun forced => forced.append _
  rw [downloads_snoc]
  rcases refreshes.downloads_cases with
    unsent | ⟨place, _, _, sent, role, prepared, moment, sends, -⟩
  · rw [unsent, List.append_nil]
    exact before
  · rw [sends]
    refine List.pairwise_append.mpr ⟨before, List.pairwise_singleton _ _, ?_⟩
    intro first member second newest
    cases List.mem_singleton.mp newest
    rcases paces.prepared role prepared with apart | forced
    · exact .inl (Nat.le_trans (apart first member) (Nat.le_of_eq moment.symm))
    · exact .inr (forced.append _)

/-- Every move keeps the pace. -/
theorem step
    (paces : Paces interval ticker history last)
    (refreshes : ClientTransition.Refreshes ⟨last, move, next⟩ ticker after)
    (present : next.shared.definitions = some after)
    (passes : last.now ≤ next.now) :
    Paces interval after (history ++ [⟨last, move, next⟩]) next where
  definitions := present
  interval_eq := refreshes.interval_eq.trans paces.interval_eq
  paced := by
    rw [downloads_snoc, List.map_append]
    exact (refreshes.paced paces.paced paces.running).mono passes id
  running := paces.running_step refreshes
  alone := paces.alone_step refreshes
  prepared := paces.prepared_step refreshes passes
  looked := paces.looked_step refreshes
  unrequested := paces.unrequested_step refreshes
  unobtained := paces.unobtained_step refreshes
  apart := paces.apart_step refreshes

variable {settings : Settings} {surroundings : Surroundings} {client : Client}

/-- The loop of the definitions is the first task of a new client that evaluates itself. -/
private theorem roleAt_fresh
    (created : create settings surroundings = .ok client)
    (isLocal : settings.mode = .localEvaluation)
    (place : Nat) :
    roleAt client.fresh place = if place = 0 then .periodic .first else .aside := by
  obtain ⟨_, -, rfl⟩ := eq_of_create created
  match place with
  | 0 | 1 | _ + 2 =>
      simp [roleAt, Configuration.task?, Client.fresh, firstLoops, createDefinitions,
        createFlushes, isLocal, ClientTask.downloadRole]

theorem fresh
    (created : create settings surroundings = .ok client)
    (isLocal : settings.mode = .localEvaluation) :
    Paces settings.refreshInterval { name := "features", interval := settings.refreshInterval } []
      client.fresh := by
  have roles := roleAt_fresh created isLocal
  have cases {place : Nat} {role : DownloadRole} (found : roleAt client.fresh place = role) :
      role = .periodic .first ∧ place = 0 ∨ role = .aside := by
    rw [roles] at found
    split at found
    · exact .inl ⟨found.symm, ‹_›⟩
    · exact .inr found.symm
  have isFirst {place : Nat} {loop : TickerLoop}
      (found : (roleAt client.fresh place).loop? = some loop) :
      loop = .first ∧ place = 0 := by
    rcases cases rfl with ⟨periodic, first⟩ | aside
    · rw [periodic] at found
      exact ⟨(Option.some.inj found).symm, first⟩
    · rw [aside] at found
      cases found
  constructor
  case definitions =>
    obtain ⟨_, -, rfl⟩ := eq_of_create created
    simp [Client.fresh, createDefinitions, isLocal]
  case interval_eq =>
    rfl
  case paced =>
    constructor
    case orderly =>
      exact .initial _ _
    case past =>
      intro mark member
      cases member
    case known =>
      intro place loop found
      obtain ⟨rfl, -⟩ := isFirst found
      exact Nat.le_refl _
    case distinct =>
      intro place other loop twin found alsoFound _
      rw [(isFirst found).2, (isFirst alsoFound).2]
    case inForce =>
      intro place loop found _
      obtain ⟨rfl, -⟩ := isFirst found
      rfl
  case running | alone | prepared | looked =>
    intros
    rcases cases ‹_› with ⟨same, -⟩ | same <;> cases same
  case unrequested =>
    intro place requests
    rcases cases requests with ⟨same, -⟩ | same <;> cases same
  case unobtained =>
    intro _ transition member
    cases member
  case apart =>
    exact .nil

/-- What becomes of the definitions in one more move, where nobody requests a download. -/
theorem exists_refreshes
    (created : create settings surroundings = .ok client)
    (isLocal : settings.mode = .localEvaluation)
    (run : Run system client.fresh history last)
    (possible : last.after? system move = some next)
    (noRequest : move ≠ .intervene (.call .refresh))
    (paces : Paces interval ticker history last) :
    ∃ after,
      next.shared.definitions = some after ∧
        ClientTransition.Refreshes ⟨last, move, next⟩ ticker after := by
  have online : settings.mode ≠ .offline := by simp [isLocal]
  obtain ⟨transport, found, -, -⟩ := transport_of_create created online
  have trades : Trades transport settings _ _ := .of_run created online found run
  exact
    (ClientMove.of_after? possible).refreshes trades.connected trades.routed paces.definitions
      paces.unrequested noRequest

/-- Along every run in which nobody requests a download, the pace is kept. -/
theorem of_run
    (created : create settings surroundings = .ok client)
    (isLocal : settings.mode = .localEvaluation)
    (run : Run system client.fresh history last)
    (unrequested : ∀ transition ∈ history, transition.move ≠ .intervene (.call .refresh)) :
    ∃ ticker, Paces settings.refreshInterval ticker history last := by
  induction run with
  | start =>
      exact ⟨_, fresh created isLocal⟩
  | step run possible inductionHypothesis =>
      obtain ⟨ticker, paces⟩ :=
        inductionHypothesis fun transition member =>
          unrequested transition (List.mem_append_left _ member)
      have noRequest := unrequested _ (List.mem_append_right _ (List.mem_singleton_self _))
      obtain ⟨after, present, refreshes⟩ :=
        paces.exists_refreshes created isLocal run possible noRequest
      exact ⟨after, paces.step refreshes present (ClientMove.of_after? possible).now_le⟩

end Paces

/-! ## Queries after a success -/

section Spared

variable
  {settings : Settings}
  {surroundings : Surroundings}
  {client : Client}
  {start last next : Configuration Client ClientTask}
  {move : Move ClientAction}
  {earlier : List ClientTransition}
  {stage : CallStage}
  {caller : Nat}
  {query : Query}

/-- Whoever is past the look for definitions stays so. -/
private theorem hasLooked_of_run
    (created : create settings surroundings = .ok client)
    (runBefore : Run system client.fresh earlier start)
    (run : Run system start history last)
    (found : start.task? place = some (.caller stage))
    (looked : stage.hasLooked = true) :
    ∃ stage, last.task? place = some (.caller stage) ∧ stage.hasLooked = true := by
  induction run with
  | start =>
      exact ⟨stage, found, looked⟩
  | step run possible inductionHypothesis =>
      obtain ⟨stage, found, looked⟩ := inductionHypothesis
      have equipped := IsEquipped.of_run created (runBefore.append run)
      rcases proceeds_of_after? equipped possible found with
        same | ⟨following, -, left, proceeds⟩
      · exact ⟨stage, same, looked⟩
      · exact ⟨following, left, proceeds.hasLooked looked⟩

/-- A query that looks after a success is past its look at once. -/
private theorem hasLooked_of_obtained
    (created : create settings surroundings = .ok client)
    (isLocal : settings.mode = .localEvaluation)
    (run : Run system client.fresh history last)
    (unrequested : ∀ transition ∈ history, transition.move ≠ .intervene (.call .refresh))
    (possible : last.after? system (.turn caller) = some next)
    (resolves : last.task? caller = some (.caller (.resolving query)))
    (obtained : ∃ transition ∈ history, transition.obtained?.isSome = true) :
    ∃ stage, next.task? caller = some (.caller stage) ∧ stage.hasLooked = true := by
  obtain ⟨ticker, paces⟩ := Paces.of_run created isLocal run unrequested
  obtain ⟨after, -, refreshes⟩ :=
    paces.exists_refreshes created isLocal run possible nofun
  have known : ticker.last ≠ none := by
    intro nothing
    obtain ⟨transition, member, isSome⟩ := obtained
    rw [paces.unobtained nothing transition member] at isSome
    cases isSome
  have equipped := IsEquipped.of_run created run
  have mode : last.shared.settings.mode = settings.mode :=
    congrArg (fun equipment => equipment.settings.mode) equipped.kept
  obtain ⟨task, turn, found, taken, rfl⟩ := Configuration.after?_turn_eq_some_iff.mp possible
  cases resolves.symm.trans found
  have takes : (ClientTask.caller (.resolving query)).Takes last.now last.shared turn :=
    .of_turn taken
  obtain ⟨stage, goesOn, proceeds⟩ := takes.proceeds equipped.kept
  have left := (Configuration.task?_update_self resolves turn).trans goesOn
  refine ⟨stage, left, ?_⟩
  cases proceeds with
  | shut | resolvesOffline | evaluates =>
      rfl
  | resolvesRemotely isRemote =>
      cases (mode.trans isLocal).symm.trans isRemote
  | misses =>
      -- Only a query that has found nothing asks for a download.
      have isCaller : (roleAt (last.update caller turn) caller).isCaller = true := by
        rw [roleAt_of_task? left]
        rfl
      rcases refreshes.isCaller_cases isCaller with same | ⟨_, -, -, -, -, nothing⟩
      · have before := roleAt_of_task? resolves
        rw [same, before] at isCaller
        cases isCaller
      · exact absurd nothing known

end Spared

/--
Where nobody requests a download, any two downloads of a client that evaluates definitions
itself begin an interval apart, unless the later one was forced by a query that had found
no definitions. A query that looks after a download has succeeded never forces one.
-/
theorem run_pacesDownloads
    {settings : Settings}
    {surroundings : Surroundings}
    {client : Client}
    (created : create settings surroundings = .ok client)
    (isLocal : settings.mode = .localEvaluation)
    {last : Configuration Client ClientTask}
    (run : Run system client.fresh history last)
    (unrequested : ∀ transition ∈ history, transition.move ≠ .intervene (.call .refresh)) :
    PacesDownloads settings.refreshInterval history last := by
  have online : settings.mode ≠ .offline := by simp [isLocal]
  obtain ⟨transport, found, -, -⟩ := transport_of_create created online
  have trades : Trades transport settings history last := .of_run created online found run
  obtain ⟨ticker, paces⟩ := Paces.of_run created isLocal run unrequested
  constructor
  case sent_eq =>
    have filtered : downloads history = (sends history).filter (·.2.endpoint = .definitions) := by
      simp only [downloads, sends, List.filter_flatMap]
      rfl
    rw [trades.sent_eq, filtered, List.filter_map]
    rfl
  case apart =>
    exact paces.apart
  case spared =>
    rintro earlier looks later caller query rfl turns resolves obtained asks member asked place
      forces
    obtain ⟨between, rest, rfl⟩ := List.append_of_mem member
    obtain ⟨runBefore, possible⟩ := run.of_split
    rw [turns] at possible
    obtain ⟨stage, left, looked⟩ :=
      hasLooked_of_obtained created isLocal runBefore
        (fun transition member => unrequested transition (List.mem_append_left _ member))
        possible resolves obtained
    have runToAsks := run.of_split_later.of_split.1
    obtain ⟨stage, found, looked⟩ :=
      hasLooked_of_run created (runBefore.step possible) runToAsks left looked
    cases found.symm.trans forces.asks
    cases looked

end Client

/-! ## Queries while downloads fail -/

/-- A client that evaluates definitions itself, and downloads them once a minute. -/
def Settings.everyMinute : Settings :=
  { Settings.ofTwo with mode := .localEvaluation }

/-- Two queries come, and a minute passes. -/
def ClientAction.askedTwice : List (Move ClientAction) :=
  [.intervene (.call (.features {})), .turn 2, .turn 2, .turn 2, .turn 3, .turn 3, .turn 2,
    .turn 2, .intervene (.call (.features {})), .turn 5, .turn 5, .turn 5, .turn 6, .turn 6,
    .turn 5, .turn 5, .turn 7, .turn 7, .wait 60000, .turn 7, .turn 7, .turn 8]

namespace Client

/-- Nobody requests a download. -/
private theorem unrequested_askedTwice
    {history : List ClientTransition}
    (moves : history.map (·.move) = ClientAction.askedTwice) :
    ∀ transition ∈ history, transition.move ≠ .intervene (.call .refresh) := by
  intro transition member requests
  have among := List.mem_map_of_mem (f := fun transition => transition.move) member
  rw [moves, requests] at among
  simp [ClientAction.askedTwice] at among

private theorem exists_askedTwice :
    ∃ (client : Client)
      (history : List ClientTransition)
      (last : Configuration Client ClientTask),
      create .everyMinute .failing = .ok client ∧
        Run system client.fresh history last ∧
        (∀ transition ∈ history, transition.move ≠ .intervene (.call .refresh)) ∧
        (downloads history).map (fun download => (download.1, download.2.moment)) =
          [(3, 0), (6, 0), (8, 60000)] := by
  have observed :
      (trace? .everyMinute .failing ClientAction.askedTwice).map (fun (_, history, _) =>
          (downloads history).map fun download => (download.1, download.2.moment)) =
        some [(3, 0), (6, 0), (8, 60000)] := by
    decide +kernel
  obtain ⟨⟨client, history, last⟩, traced, seen⟩ := Option.map_eq_some_iff.mp observed
  obtain ⟨created, run⟩ := run_of_trace? traced
  exact
    ⟨client, history, last, created, run, unrequested_askedTwice (moves_of_trace? traced), seen⟩

/-- Both queries download at once, as the first download fails; the loop downloads later. -/
theorem run_askedTwice :
    ∃ (client : Client)
      (history : List ClientTransition)
      (last : Configuration Client ClientTask),
      create .everyMinute .failing = .ok client ∧
        Settings.everyMinute.mode = .localEvaluation ∧
        Run system client.fresh history last ∧
        (∀ transition ∈ history, transition.move ≠ .intervene (.call .refresh)) ∧
        (downloads history).map (fun download => (download.1, download.2.moment)) =
          [(3, 0), (6, 0), (8, 60000)] ∧
        PacesDownloads Settings.everyMinute.refreshInterval history last := by
  obtain ⟨client, history, last, created, run, unrequested, seen⟩ := exists_askedTwice
  exact
    ⟨client, history, last, created, rfl, run, unrequested, seen,
      run_pacesDownloads created rfl run unrequested⟩

/-- A query that comes after a failed download downloads again within the interval. -/
theorem not_areApart :
    ¬ ∀ {settings : Settings}
        {surroundings : Surroundings}
        {client : Client}
        {history : List ClientTransition}
        {last : Configuration Client ClientTask},
        create settings surroundings = .ok client →
        settings.mode = .localEvaluation →
        Run system client.fresh history last →
        (∀ transition ∈ history, transition.move ≠ .intervene (.call .refresh)) →
        AreApart settings.refreshInterval history := by
  intro areApart
  obtain ⟨client, history, last, created, run, unrequested, seen⟩ := exists_askedTwice
  have apart := areApart created rfl run unrequested
  have moments :
      ((downloads history).map fun download => (download.1, download.2.moment)).Pairwise
        fun first second => first.2 + 60000 ≤ second.2 :=
    List.pairwise_map.mpr apart
  rw [seen] at moments
  revert moments
  decide

end Client

end FeatureFlags
