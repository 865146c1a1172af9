import FeatureFlags.Client.Resolution
import FeatureFlags.Proofs.Table

namespace FeatureFlags.Feature

/-!
# Merging local features

The merge of local features goes over all decided features in order and changes a
table. Seen from a key it has a closed form: an origin, which is the entry of the
base set or else the first decided feature of the key, and the last overriding
feature of the key, which takes over the decision but not the traces.
-/

/-! ## The entry of a key -/

/-- What a key starts from: its entry in the base set, or else its first decided feature. -/
def origin?
    (base : Table Evaluated)
    (decided : List Evaluated)
    (key : String) :
    Option Evaluated :=
  (base.get? key).or (decided.find? fun feature => feature.key = key)

/-- The last decided feature of a key that overrides. -/
def lastOverride?
    (decided : List Evaluated)
    (key : String) :
    Option Evaluated :=
  (decided.filter fun feature => feature.key = key ∧ feature.overridden).getLast?

/-- The context of the entry of a key: that of the base set, or else the given fields. -/
def mergedContext
    (fields : Fields)
    (base : Table Evaluated)
    (key : String) :
    Option Fields :=
  match base.get? key with
  | some known => known.context
  | none => some fields

/-- The entry of a key after a merge, in closed form. -/
def mergedAt?
    (fields : Fields)
    (base : Table Evaluated)
    (decided : List Evaluated)
    (key : String) :
    Option Evaluated :=
  (origin? base decided key).map fun origin =>
    let deciding := (lastOverride? decided key).getD origin
    { origin with
      enabled := deciding.enabled
      config := deciding.config
      overridden := origin.overridden || (lastOverride? decided key).isSome
      context := mergedContext fields base key }

theorem lastOverride?_eq_none_iff
    {decided : List Evaluated}
    {key : String} :
    lastOverride? decided key = none ↔
      ∀ feature ∈ decided, feature.key = key → feature.overridden = false := by
  simp [lastOverride?]

theorem origin?_eq_none_iff
    {base : Table Evaluated}
    {decided : List Evaluated}
    {key : String} :
    origin? base decided key = none ↔
      base.get? key = none ∧ ∀ feature ∈ decided, feature.key ≠ key := by
  simp [origin?]

private theorem lastOverride?_snoc
    (decided : List Evaluated)
    (feature : Evaluated) :
    lastOverride? (decided ++ [feature]) feature.key =
      if feature.overridden then some feature else lastOverride? decided feature.key := by
  cases overriding : feature.overridden <;>
    simp [lastOverride?, overriding]

private theorem origin?_snoc_of_some
    {base : Table Evaluated}
    {decided : List Evaluated}
    {key : String}
    {origin : Evaluated}
    (found : origin? base decided key = some origin)
    (feature : Evaluated) :
    origin? base (decided ++ [feature]) key = some origin := by
  cases known : base.get? key with
  | none =>
      simp only [origin?, known, Option.none_or] at found ⊢
      rw [List.find?_append, found, Option.some_or]
  | some entry =>
      simpa [origin?, known] using found

/-- A feature of another key does not change the entry of a key. -/
private theorem mergedAt?_snoc_other
    (fields : Fields)
    (base : Table Evaluated)
    (decided : List Evaluated)
    {feature : Evaluated}
    {key : String}
    (other : feature.key ≠ key) :
    mergedAt? fields base (decided ++ [feature]) key =
      mergedAt? fields base decided key := by
  simp [mergedAt?, origin?, lastOverride?, other]

/-- A feature of a key that has no entry becomes its entry. -/
private theorem mergedAt?_snoc_new
    {fields : Fields}
    {base : Table Evaluated}
    {decided : List Evaluated}
    {feature : Evaluated}
    (absent : mergedAt? fields base decided feature.key = none) :
    mergedAt? fields base (decided ++ [feature]) feature.key =
      some { feature with context := some fields } := by
  have noOrigin : origin? base decided feature.key = none := by
    simpa [mergedAt?] using absent
  obtain ⟨notInBase, noneDecided⟩ := origin?_eq_none_iff.mp noOrigin
  have becomesOrigin : origin? base (decided ++ [feature]) feature.key = some feature := by
    have notFound : decided.find? (fun earlier => earlier.key = feature.key) = none := by
      simpa using noneDecided
    simp [origin?, notInBase, List.find?_append, notFound]
  have noOverride : lastOverride? decided feature.key = none :=
    lastOverride?_eq_none_iff.mpr fun earlier member same =>
      absurd same (noneDecided earlier member)
  cases overriding : feature.overridden <;>
    simp [mergedAt?, becomesOrigin, lastOverride?_snoc, noOverride, overriding,
      mergedContext, notInBase]

/-- A feature of a key that has an entry replaces its decision if it overrides. -/
private theorem mergedAt?_snoc_known
    {fields : Fields}
    {base : Table Evaluated}
    {decided : List Evaluated}
    {feature known : Evaluated}
    (present : mergedAt? fields base decided feature.key = some known) :
    mergedAt? fields base (decided ++ [feature]) feature.key =
      if feature.overridden then
        some
          { known with
            enabled := feature.enabled
            config := feature.config
            overridden := true }
      else
        some known := by
  obtain ⟨origin, found, shape⟩ := Option.map_eq_some_iff.mp present
  rw [mergedAt?, origin?_snoc_of_some found feature, lastOverride?_snoc, ← shape]
  cases overriding : feature.overridden <;>
    simp

/-! ## Merging step by step -/

/-- A table holds the merge of decided features over a base set. -/
def HoldsMerge
    (fields : Fields)
    (base : Table Evaluated)
    (decided : List Evaluated)
    (table : Table Evaluated) : Prop :=
  ∀ key, table.get? key = mergedAt? fields base decided key

namespace HoldsMerge

variable {fields : Fields} {base table : Table Evaluated} {decided : List Evaluated}

/-- Before anything is merged, the base set is the merge. -/
theorem initial
    (fields : Fields)
    (base : Table Evaluated) :
    HoldsMerge fields base [] base := by
  intro key
  cases found : base.get? key <;>
    simp [mergedAt?, origin?, lastOverride?, mergedContext, found]

/-- Merging one more feature keeps the table the merge. -/
theorem mergeOne
    (holds : HoldsMerge fields base decided table)
    (feature : Evaluated) :
    HoldsMerge fields base (decided ++ [feature])
      (Feature.mergeOne fields table feature) := by
  intro key
  unfold Feature.mergeOne
  by_cases same : feature.key = key
  · subst key
    cases found : table.get? feature.key with
    | none =>
        rw [Table.get?_insert_self]
        exact (mergedAt?_snoc_new (holds feature.key ▸ found)).symm
    | some known =>
        rw [mergedAt?_snoc_known (holds feature.key ▸ found)]
        cases feature.overridden <;>
          simp [found]
  · rw [mergedAt?_snoc_other fields base decided same, ← holds key]
    cases found : table.get? feature.key with
    | none =>
        simp [Table.get?_insert, Ne.symm same]
    | some known =>
        cases feature.overridden <;>
          simp [Table.get?_insert, Ne.symm same]

/-- Merging the features of a resolver keeps the table the merge. -/
theorem mergeAll
    (holds : HoldsMerge fields base decided table)
    (more : List Evaluated) :
    HoldsMerge fields base (decided ++ more) (Feature.mergeAll fields table more) := by
  induction more generalizing table decided with
  | nil =>
      simpa [Feature.mergeAll] using holds
  | cons feature rest inductionHypothesis =>
      have merged := inductionHypothesis (holds.mergeOne feature)
      simpa [Feature.mergeAll] using merged

end HoldsMerge

/-! ## Consulting resolvers -/

/-- The consultations of resolvers about a context, one after the other. -/
def consultationsOf
    (resolvers : List Resolver)
    (context : Context) :
    List Consultation :=
  resolvers.map fun resolver => ⟨resolver, context⟩

section Consulting

variable
  {context : Context}
  {resolver : Resolver}
  {decided : List Evaluated}
  {reason : String}

/-- A resolver that answers is noted, and the others follow. -/
theorem resolveAll_cons_of_ok
    (answered : resolver context = .ok decided)
    (fields : Fields)
    (rest : List Resolver)
    (consultations : List Consultation)
    (table : Table Evaluated) :
    resolveAll context fields (resolver :: rest) consultations table =
      resolveAll context fields rest (consultations ++ [⟨resolver, context⟩])
        (mergeAll fields table decided) := by
  simp only [resolveAll, Resolver.consult, answered]

/-- A resolver that fails is noted, and no other follows. -/
theorem resolveAll_cons_of_error
    (fails : resolver context = .error reason)
    (fields : Fields)
    (rest : List Resolver)
    (consultations : List Consultation)
    (table : Table Evaluated) :
    resolveAll context fields (resolver :: rest) consultations table =
      (consultations ++ [⟨resolver, context⟩], .error reason) := by
  simp only [resolveAll, Resolver.consult, fails]

/-- Resolvers that all succeed are all consulted, and give the merge of all their features. -/
theorem HoldsMerge.resolveAll
    {fields : Fields}
    {base table : Table Evaluated}
    {resolvers : List Resolver}
    {answers : List (List Evaluated)}
    (succeed : resolvers.map (· context) = answers.map .ok)
    (holds : HoldsMerge fields base decided table)
    (consultations : List Consultation) :
    ∃ merged,
      Feature.resolveAll context fields resolvers consultations table =
          (consultations ++ consultationsOf resolvers context, .ok merged) ∧
        HoldsMerge fields base (decided ++ answers.flatten) merged := by
  induction resolvers generalizing table decided answers consultations with
  | nil =>
      cases answers with
      | nil =>
          exact ⟨table, by simp [Feature.resolveAll, consultationsOf], by simpa using holds⟩
      | cons answer rest =>
          cases succeed
  | cons resolver rest inductionHypothesis =>
      cases answers with
      | nil =>
          cases succeed
      | cons answer others =>
          obtain ⟨answered, othersSucceed⟩ := List.cons.inj succeed
          obtain ⟨merged, resolved, mergedHolds⟩ :=
            inductionHypothesis othersSucceed (holds.mergeAll answer)
              (consultations ++ [⟨resolver, context⟩])
          refine ⟨merged, ?_, by simpa using mergedHolds⟩
          rw [resolveAll_cons_of_ok answered, resolved]
          simp [consultationsOf]

/-- What has been consulted before does not matter for what is resolved. -/
theorem resolveAll_outcome
    (context : Context)
    (fields : Fields)
    (resolvers : List Resolver)
    (consultations others : List Consultation)
    (table : Table Evaluated) :
    (resolveAll context fields resolvers consultations table).2 =
      (resolveAll context fields resolvers others table).2 := by
  induction resolvers generalizing consultations others table with
  | nil =>
      rfl
  | cons resolver rest inductionHypothesis =>
      cases answered : resolver context with
      | error reason =>
          rw [resolveAll_cons_of_error answered, resolveAll_cons_of_error answered]
      | ok decided =>
          rw [resolveAll_cons_of_ok answered, resolveAll_cons_of_ok answered]
          exact inductionHypothesis _ _ _

end Consulting

/-! ## Merging once more -/

/-- Features that have been decided twice in a row give a key the same entry. -/
theorem mergedAt?_append_self
    (fields : Fields)
    (base : Table Evaluated)
    (decided : List Evaluated)
    (key : String) :
    mergedAt? fields base (decided ++ decided) key = mergedAt? fields base decided key := by
  have sameOrigin : origin? base (decided ++ decided) key = origin? base decided key := by
    simp [origin?, List.find?_append]
  have sameOverride : lastOverride? (decided ++ decided) key = lastOverride? decided key := by
    simp [lastOverride?, List.filter_append, List.getLast?_append]
  rw [mergedAt?, mergedAt?, sameOrigin, sameOverride]

/-- Merging the features of a resolver once more changes nothing. -/
theorem mergeAll_mergeAll
    (fields : Fields)
    (base : Table Evaluated)
    (decided : List Evaluated) :
    mergeAll fields (mergeAll fields base decided) decided = mergeAll fields base decided := by
  have once : HoldsMerge fields base decided (mergeAll fields base decided) :=
    (HoldsMerge.initial fields base).mergeAll decided
  apply Table.eq_of_get?
  intro key
  calc
    (mergeAll fields (mergeAll fields base decided) decided).get? key
      = mergedAt? fields base (decided ++ decided) key := once.mergeAll decided key
    _ = mergedAt? fields base decided key := mergedAt?_append_self fields base decided key
    _ = (mergeAll fields base decided).get? key := (once key).symm

/-- A resolver that is consulted once more right after itself changes nothing. -/
theorem resolveAll_repeated
    (context : Context)
    (fields : Fields)
    (resolver : Resolver)
    (earlier later : List Resolver)
    (consultations others : List Consultation)
    (table : Table Evaluated) :
    (resolveAll context fields (earlier ++ resolver :: resolver :: later)
        consultations table).2 =
      (resolveAll context fields (earlier ++ resolver :: later) others table).2 := by
  induction earlier generalizing consultations others table with
  | nil =>
      cases answered : resolver context with
      | error reason =>
          simp [resolveAll_cons_of_error answered]
      | ok decided =>
          simp only [List.nil_append, resolveAll_cons_of_ok answered, mergeAll_mergeAll]
          exact resolveAll_outcome context fields later _ _ _
  | cons first rest inductionHypothesis =>
      cases answered : first context with
      | error reason =>
          simp [resolveAll_cons_of_error answered]
      | ok decided =>
          simp only [List.cons_append, resolveAll_cons_of_ok answered]
          exact inductionHypothesis _ _ _

/-! ## Resolvers that fail -/

/--
The first resolver that fails decides the outcome, and it is the last one that is consulted,
whatever resolvers come after it.
-/
theorem resolveAll_eq_error
    {context : Context}
    {earlier : List Resolver}
    {failing : Resolver}
    {reason : String}
    (succeed : ∀ resolver ∈ earlier, ∃ features, resolver context = .ok features)
    (fails : failing context = .error reason)
    (fields : Fields)
    (later : List Resolver)
    (consultations : List Consultation)
    (table : Table Evaluated) :
    resolveAll context fields (earlier ++ failing :: later) consultations table =
      (consultations ++ consultationsOf (earlier ++ [failing]) context, .error reason) := by
  induction earlier generalizing consultations table with
  | nil =>
      rw [List.nil_append, resolveAll_cons_of_error fails]
      rfl
  | cons resolver rest inductionHypothesis =>
      obtain ⟨features, answered⟩ := succeed resolver List.mem_cons_self
      have othersSucceed :
          ∀ other ∈ rest, ∃ features, other context = .ok features :=
        fun other member => succeed other (List.mem_cons_of_mem _ member)
      rw [List.cons_append, resolveAll_cons_of_ok answered, inductionHypothesis othersSucceed]
      simp [consultationsOf]

/-- Either all resolvers succeed, or there is a first one that fails. -/
theorem succeed_or_first_fails
    (context : Context)
    (resolvers : List Resolver) :
    (∃ answers : List (List Evaluated), resolvers.map (· context) = answers.map .ok) ∨
    ∃ earlier failing later reason,
      resolvers = earlier ++ failing :: later ∧
        (∀ resolver ∈ earlier, ∃ features, resolver context = .ok features) ∧
        failing context = .error reason := by
  induction resolvers with
  | nil =>
      exact .inl ⟨[], rfl⟩
  | cons resolver rest inductionHypothesis =>
      cases answered : resolver context with
      | error reason =>
          exact .inr ⟨[], resolver, rest, reason, rfl, nofun, answered⟩
      | ok features =>
          rcases inductionHypothesis with
            ⟨answers, succeed⟩ | ⟨earlier, failing, later, reason, rfl, succeed, fails⟩
          · exact .inl ⟨features :: answers, by simp [answered, succeed]⟩
          · refine .inr ⟨resolver :: earlier, failing, later, reason, rfl, ?_, fails⟩
            exact List.forall_mem_cons.mpr ⟨⟨features, answered⟩, succeed⟩

/-! ## The merge as callers see it -/

/-- An entry of a merge, told from the origin of its key and the overriding features. -/
structure MergedEntry
    (fields : Fields)
    (base : Table Evaluated)
    (decided : List Evaluated)
    (key : String)
    (origin entry : Evaluated) : Prop where
  key_eq :
    entry.key = origin.key
  /-- The last overriding feature decides, if there is one. -/
  decision_overridden :
    ∀ {feature},
      lastOverride? decided key = some feature →
      entry.enabled = feature.enabled ∧ entry.config = feature.config
  /-- Otherwise the origin decides. -/
  decision_kept :
    lastOverride? decided key = none →
    entry.enabled = origin.enabled ∧ entry.config = origin.config
  overridden_iff :
    entry.overridden = true ↔
      origin.overridden = true ∨
        ∃ feature ∈ decided, feature.key = key ∧ feature.overridden = true
  traces_kept :
    entry.targeting = origin.targeting ∧ entry.configTrace = origin.configTrace
  context_eq :
    entry.context = mergedContext fields base key

/-- A table is the merge of decided features over a base set. -/
structure IsMerge
    (fields : Fields)
    (base : Table Evaluated)
    (decided : List Evaluated)
    (merged : Table Evaluated) : Prop where
  contains_iff :
    ∀ key,
      merged.contains key = true ↔
        base.contains key = true ∨ ∃ feature ∈ decided, feature.key = key
  entry :
    ∀ {key entry},
      merged.get? key = some entry →
      ∃ origin,
        origin? base decided key = some origin ∧
          MergedEntry fields base decided key origin entry

/-- The closed form of an entry has the parts that a merge gives it. -/
private theorem mergedEntry_of_origin
    {fields : Fields}
    {base : Table Evaluated}
    {decided : List Evaluated}
    {key : String}
    {origin entry : Evaluated}
    (found : origin? base decided key = some origin)
    (shape : mergedAt? fields base decided key = some entry) :
    MergedEntry fields base decided key origin entry := by
  simp only [mergedAt?, found, Option.map_some, Option.some.injEq] at shape
  subst shape
  refine {
    key_eq := rfl
    decision_overridden := ?_
    decision_kept := ?_
    overridden_iff := ?_
    traces_kept := ⟨rfl, rfl⟩
    context_eq := rfl }
  · intro feature last
    simp [last]
  · intro noOverride
    simp [noOverride]
  · cases last : lastOverride? decided key with
    | none =>
        have notOverridden := lastOverride?_eq_none_iff.mp last
        simp only [Option.isSome_none, Bool.or_false]
        refine ⟨.inl, ?_⟩
        rintro (originOverridden | ⟨feature, member, same, overriding⟩)
        · exact originOverridden
        · rw [notOverridden feature member same] at overriding
          cases overriding
    | some feature =>
        have member := List.mem_of_getLast? last
        simp only [List.mem_filter, decide_eq_true_eq] at member
        simp only [Option.isSome_some, Bool.or_true, true_iff]
        exact .inr ⟨feature, member⟩

/-- A table that holds the closed form of every entry is the merge. -/
theorem HoldsMerge.isMerge
    {fields : Fields}
    {base merged : Table Evaluated}
    {decided : List Evaluated}
    (holds : HoldsMerge fields base decided merged) :
    IsMerge fields base decided merged where
  contains_iff := by
    intro key
    have sameKeys : merged.get? key = none ↔ origin? base decided key = none := by
      rw [holds key]
      simp [mergedAt?]
    rw [origin?_eq_none_iff] at sameKeys
    have negated := not_congr sameKeys
    by_cases inBase : base.get? key = none <;>
      simpa [Table.contains, ← Option.ne_none_iff_isSome, inBase] using negated
  entry := by
    intro key entry present
    rw [holds key] at present
    obtain ⟨origin, found, _⟩ := Option.map_eq_some_iff.mp present
    exact ⟨origin, found, mergedEntry_of_origin found present⟩

end FeatureFlags.Feature

namespace FeatureFlags.Client

open FeatureFlags.Feature (Evaluated IsMerge HoldsMerge consultationsOf)

/--
What callers are given depends on the settings alone: it is what the resolvers come to,
whatever has been consulted before.
-/
theorem conclude_snd
    (client : Client)
    (query : Query)
    (base : Table Evaluated) :
    (client.conclude query base).2 =
      ((Feature.resolveAll query.context query.fields client.settings.resolvers [] base).2.map
        query.answer).mapError resolverFailure := by
  rw [Feature.resolveAll_outcome _ _ _ [] client.consultations]
  rcases resolved :
      Feature.resolveAll query.context query.fields client.settings.resolvers
        client.consultations base with ⟨consultations, outcome⟩
  cases outcome with
  | ok features =>
      simp only [conclude, resolved]
      rfl
  | error reason =>
      simp only [conclude, resolved]
      rfl

/--
The features that a caller is given are the merge of all resolvers' features over the
base set, for which each resolver is consulted once about the context, in their order. If a
resolver fails, the first that does so fails the call, and no resolver that comes after it
is consulted.
-/
theorem conclude_isMerge_or_fails
    (client : Client)
    (query : Query)
    (base : Table Evaluated) :
    (∀ answers : List (List Evaluated),
      client.settings.resolvers.map (· query.context) = answers.map .ok →
      ∃ merged,
        (client.conclude query base).2 = .ok (query.answer merged) ∧
          IsMerge query.fields base answers.flatten merged ∧
          (client.conclude query base).1.consultations =
            client.consultations ++ consultationsOf client.settings.resolvers query.context) ∧
    (∀ earlier failing later reason,
      client.settings.resolvers = earlier ++ failing :: later →
      (∀ resolver ∈ earlier, ∃ features, resolver query.context = .ok features) →
      failing query.context = .error reason →
      (client.conclude query base).2 = .error (resolverFailure reason) ∧
        (resolverFailure reason).kind = .resolverFailure ∧
        (resolverFailure reason).cause = some reason ∧
        (client.conclude query base).1.consultations =
          client.consultations ++ consultationsOf (earlier ++ [failing]) query.context) := by
  constructor
  · intro answers succeed
    obtain ⟨merged, resolved, holds⟩ :=
      (HoldsMerge.initial query.fields base).resolveAll succeed client.consultations
    refine ⟨merged, ?_, by simpa using holds.isMerge, ?_⟩
    · simp [conclude, resolved]
    · simp [conclude, resolved]
  · intro earlier failing later reason shape succeed fails
    have failed :=
      Feature.resolveAll_eq_error succeed fails query.fields later client.consultations base
    rw [← shape] at failed
    refine ⟨?_, rfl, rfl, ?_⟩
    · simp [conclude, failed]
    · simp [conclude, failed, warn]

/-- A client without a backend that has nothing but resolvers. -/
def offlineWith (resolvers : List Feature.Resolver) : Client where
  settings := {
    secretKey := ""
    baseUrl := ""
    mode := .offline
    requestTimeout := 1
    maxMessages := 1
    flushInterval := 1
    rollingWindow := 1
    refreshInterval := 1
    staleAge := 1
    resolvers
    requestTimeout_pos := Nat.one_pos
    maxMessages_pos := Nat.one_pos
    flushInterval_pos := Nat.one_pos
    rollingWindow_pos := Nat.one_pos
    refreshInterval_pos := Nat.one_pos
    staleAge_pos := Nat.one_pos }
  wallClock := fun _ => ⟨0, 0⟩
  transport := none
  definitions := none
  flushes := none
  outbox := { capacity := 1, window := 1 }

/-- A resolver that stands after one that fails is not consulted. -/
theorem conclude_offlineWith :
    let added : Evaluated := { key := "beta", enabled := true }
    let replacing : Evaluated := { key := "beta", enabled := false, overridden := true }
    let adding : Feature.Resolver := fun _ => .ok [added]
    let overriding : Feature.Resolver := fun _ => .ok [replacing]
    let failing : Feature.Resolver := fun _ => .error "no user"
    let query : Query := { context := {} }
    let succeeding := (offlineWith [adding, overriding]).conclude query .empty
    let failed := (offlineWith [adding, failing, overriding]).conclude query .empty
    (∃ merged,
      succeeding.2 = .ok (query.answer merged) ∧
        IsMerge query.fields .empty [added, replacing] merged) ∧
    succeeding.1.consultations = [⟨adding, {}⟩, ⟨overriding, {}⟩] ∧
    failed.2 = .error (resolverFailure "no user") ∧
    failed.1.consultations = [⟨adding, {}⟩, ⟨failing, {}⟩] := by
  intro added replacing adding overriding failing query succeeding failed
  have succeed :
      ∀ resolver ∈ [adding], ∃ features, resolver query.context = .ok features := by
    simp [adding]
  obtain ⟨merged, answered, isMerge, bothConsulted⟩ :=
    (conclude_isMerge_or_fails (offlineWith [adding, overriding]) query .empty).1
      [[added], [replacing]] rfl
  obtain ⟨fails, -, -, consulted⟩ :=
    (conclude_isMerge_or_fails (offlineWith [adding, failing, overriding])
      query .empty).2 [adding] failing [overriding] "no user" rfl succeed rfl
  exact ⟨⟨merged, answered, isMerge⟩, bothConsulted, fails, consulted⟩

end FeatureFlags.Client
