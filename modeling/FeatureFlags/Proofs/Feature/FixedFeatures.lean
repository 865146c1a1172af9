import FeatureFlags.Proofs.Feature.Merging

namespace FeatureFlags.Feature

/-!
# Fixed features

Fixed features are set up from flags or from features, and then changed step by step: a
config is attached to a key, which adds the key if it is new, or all features so far are
made to override. What becomes of a key is told by its origin, by the last config that was
attached to it and by whether the features were made to override once the key was there:
`build_exact`.
-/

namespace FixedFeatures

/-! ## Setting up and changing -/

/-- What fixed features are set up from. -/
inductive Construction where
  | nothing
  /-- Flags in a row, of which the last of a key counts. -/
  | pairs (given : List (String × Bool))
  /-- One flag for each key, the flags being visited in whatever order. -/
  | flags
      (given : Table Bool)
      (visited : List (String × Bool))
      (visitsAll : visited.Perm given.entries)
  /-- Features in a row, of which the last of a key counts. -/
  | features (given : List Evaluated)

/-- A change of fixed features. -/
inductive Step where
  | config
      (key : String)
      (attached : Config)
  | overriding

/-- The features that a construction sets up. -/
def Construction.fixed : Construction → FixedFeatures
  | .nothing => {}
  | .pairs given => ofFlags given
  | .flags _ visited _ => ofFlags visited
  | .features given => ofFeatures given

/-- The features after a change. -/
def Step.apply (fixed : FixedFeatures) : Step → FixedFeatures
  | .config key attached => fixed.withConfig key attached
  | .overriding => fixed.overriding

/-- The features that a construction and some changes lead to. -/
def build
    (construction : Construction)
    (steps : List Step) :
    FixedFeatures :=
  steps.foldl Step.apply construction.fixed

/-! ## The account of a key -/

/-- The feature that a flag stands for. -/
def ofFlag (flag : String × Bool) : Evaluated where
  key := flag.1
  enabled := flag.2

namespace Construction

/-- The feature that is set up under a key. -/
def feature?
    (construction : Construction)
    (key : String) :
    Option Evaluated :=
  match construction with
  | .nothing => none
  | .pairs given => (given.filter (·.1 = key)).getLast?.map ofFlag
  | .flags given _ _ => (given.get? key).map fun enabled => ofFlag (key, enabled)
  | .features given => (given.filter (·.key = key)).getLast?

/-- What a key starts from: the feature that is set up under it, or else a disabled one. -/
def origin
    (construction : Construction)
    (key : String) :
    Evaluated :=
  (construction.feature? key).getD { key, enabled := false }

end Construction

/-- The config that a change attaches to a key. -/
def Step.config?
    (key : String) :
    Step → Option Config
  | .config other attached => if other = key then some attached else none
  | .overriding => none

/-- The last config that changes attach to a key. -/
def lastConfig?
    (steps : List Step)
    (key : String) :
    Option Config :=
  (steps.filterMap (Step.config? key)).getLast?

/-- A key is there once it has been set up or a config has been attached to it. -/
def IsPresent
    (construction : Construction)
    (steps : List Step)
    (key : String) :
    Prop :=
  (construction.feature? key).isSome = true ∨ ∃ config, .config key config ∈ steps

/-- The features were made to override at a time when a key was there. -/
def MadeOverriding
    (construction : Construction)
    (steps : List Step)
    (key : String) :
    Prop :=
  ∃ earlier later,
    steps = earlier ++ .overriding :: later ∧ IsPresent construction earlier key

/-- A feature is what has become of a key. -/
structure Shows
    (construction : Construction)
    (steps : List Step)
    (key : String)
    (feature : Evaluated) : Prop where
  key_eq :
    feature.key = key
  enabled_eq :
    feature.enabled = (construction.origin key).enabled
  traces_eq :
    feature.targeting = (construction.origin key).targeting ∧
      feature.configTrace = (construction.origin key).configTrace
  context_eq :
    feature.context = (construction.origin key).context
  /-- A config that was attached counts before the one that was set up. -/
  config_eq :
    feature.config = (lastConfig? steps key).or (construction.origin key).config
  overridden_iff :
    feature.overridden = true ↔
      (construction.origin key).overridden = true ∨ MadeOverriding construction steps key

section Account

variable
  {construction : Construction}
  {steps : List Step}
  {key : String}

/-! ## One more change -/

theorem IsPresent.append
    (present : IsPresent construction steps key)
    (later : List Step) :
    IsPresent construction (steps ++ later) key := by
  rcases present with setUp | ⟨config, attached⟩
  · exact .inl setUp
  · exact .inr ⟨config, List.mem_append_left later attached⟩

theorem isPresent_snoc_config
    {attachedKey : String}
    {config : Config} :
    IsPresent construction (steps ++ [.config attachedKey config]) key ↔
      key = attachedKey ∨ IsPresent construction steps key := by
  simp only [IsPresent, List.mem_append, List.mem_singleton, Step.config.injEq, exists_or,
    exists_and_left, exists_eq, and_true]
  rw [← or_assoc, or_comm]

theorem isPresent_snoc_overriding :
    IsPresent construction (steps ++ [.overriding]) key ↔
      IsPresent construction steps key := by
  simp [IsPresent]

/-- Whether the features were made to override is decided by the last change or before it. -/
theorem madeOverriding_snoc
    {step : Step} :
    MadeOverriding construction (steps ++ [step]) key ↔
      MadeOverriding construction steps key ∨
        step = .overriding ∧ IsPresent construction steps key := by
  constructor
  · rintro ⟨earlier, later, shape, present⟩
    rcases List.eq_nil_or_concat later with rfl | ⟨between, last, rfl⟩
    · obtain ⟨rfl, isLast⟩ := List.append_inj' shape rfl
      exact .inr ⟨List.head_eq_of_cons_eq isLast, present⟩
    · have regrouped : steps ++ [step] = (earlier ++ .overriding :: between) ++ [last] := by
        simpa using shape
      obtain ⟨rfl, -⟩ := List.append_inj' regrouped rfl
      exact .inl ⟨earlier, between, rfl, present⟩
  · rintro (⟨earlier, later, rfl, present⟩ | ⟨rfl, present⟩)
    · exact ⟨earlier, later ++ [step], by simp, present⟩
    · exact ⟨steps, [], rfl, present⟩

/-- The features can only be made to override at a key that is still there. -/
theorem MadeOverriding.isPresent (made : MadeOverriding construction steps key) :
    IsPresent construction steps key := by
  obtain ⟨earlier, later, rfl, present⟩ := made
  exact present.append _

/-- A key that is not there starts from a disabled feature. -/
theorem origin_of_absent (absent : ¬ IsPresent construction steps key) :
    construction.origin key = { key, enabled := false } := by
  have notSetUp : construction.feature? key = none := by
    rw [← Option.not_isSome_iff_eq_none]
    exact fun setUp => absent (.inl setUp)
  rw [Construction.origin, notSetUp, Option.getD_none]

theorem lastConfig?_snoc
    {step : Step} :
    lastConfig? (steps ++ [step]) key = (step.config? key).or (lastConfig? steps key) := by
  cases attached : step.config? key <;>
    simp [lastConfig?, attached]

namespace Shows

variable {feature : Evaluated}

/-- Before any change, the feature that was set up is there. -/
theorem initial
    (setUp : construction.feature? key = some feature)
    (key_eq : feature.key = key) :
    Shows construction [] key feature := by
  have isOrigin : construction.origin key = feature := by
    rw [Construction.origin, setUp, Option.getD_some]
  have notYet : ¬ MadeOverriding construction [] key := by
    rintro ⟨earlier, later, shape, -⟩
    simp at shape
  refine ⟨key_eq, ?_, ?_, ?_, ?_, ?_⟩ <;>
    simp [isOrigin, lastConfig?, notYet]

/-- A config is attached to a feature that is there. -/
theorem attach
    (shows : Shows construction steps key feature)
    (config : Config) :
    Shows construction (steps ++ [.config key config]) key
      { feature with config := some config } where
  key_eq := shows.key_eq
  enabled_eq := shows.enabled_eq
  traces_eq := shows.traces_eq
  context_eq := shows.context_eq
  config_eq := by simp [lastConfig?_snoc, Step.config?]
  overridden_iff := by simp [madeOverriding_snoc, shows.overridden_iff]

/-- A config adds a disabled feature where there is none. -/
theorem add
    (absent : ¬ IsPresent construction steps key)
    (config : Config) :
    Shows construction (steps ++ [.config key config]) key
      { key, enabled := false, config := some config } := by
  have notMade : ¬ MadeOverriding construction steps key :=
    fun made => absent made.isPresent
  refine ⟨rfl, ?_, ?_, ?_, ?_, ?_⟩ <;>
    simp [origin_of_absent absent, lastConfig?_snoc, Step.config?, madeOverriding_snoc, notMade]

/-- A config that is attached to another key changes nothing. -/
theorem attachOther
    (shows : Shows construction steps key feature)
    {attachedKey : String}
    (other : attachedKey ≠ key)
    (config : Config) :
    Shows construction (steps ++ [.config attachedKey config]) key feature where
  key_eq := shows.key_eq
  enabled_eq := shows.enabled_eq
  traces_eq := shows.traces_eq
  context_eq := shows.context_eq
  config_eq := by simp [lastConfig?_snoc, Step.config?, other, shows.config_eq]
  overridden_iff := by simp [madeOverriding_snoc, shows.overridden_iff]

/-- A feature that is there is made to override. -/
theorem override
    (shows : Shows construction steps key feature)
    (present : IsPresent construction steps key) :
    Shows construction (steps ++ [.overriding]) key { feature with overridden := true } where
  key_eq := shows.key_eq
  enabled_eq := shows.enabled_eq
  traces_eq := shows.traces_eq
  context_eq := shows.context_eq
  config_eq := by simp [lastConfig?_snoc, Step.config?, shows.config_eq]
  overridden_iff := by simp [madeOverriding_snoc, present]

end Shows

end Account

/-! ## Steps and runs -/

/-- Fixed features hold, for each key, what has become of it. -/
structure Represents
    (construction : Construction)
    (steps : List Step)
    (fixed : FixedFeatures) : Prop where
  isSome_iff :
    ∀ key, (fixed.features.get? key).isSome = true ↔ IsPresent construction steps key
  shows :
    ∀ {key feature},
      fixed.features.get? key = some feature →
      Shows construction steps key feature

/-- The features of flags are looked up by their keys. -/
private theorem get?_ofFlags
    (flags : List (String × Bool))
    (key : String) :
    (ofFlags flags).features.get? key = (flags.filter (·.1 = key)).getLast?.map ofFlag := by
  rw [ofFlags, Table.get?_ofList, List.filter_map, List.getLast?_map, Option.map_map]
  rfl

/-- What a construction sets up under a key is found there. -/
theorem get?_fixed
    (construction : Construction)
    (key : String) :
    construction.fixed.features.get? key = construction.feature? key := by
  cases construction with
  | nothing =>
      rfl
  | pairs given =>
      exact get?_ofFlags given key
  | flags given visited visitsAll =>
      -- The order in which different keys are visited does not matter.
      have sameEntries :=
        Table.entries_ofList_of_perm
          (given.map fun key enabled => ofFlag (key, enabled)).increasing
          (visitsAll.map fun flag => (flag.1, ofFlag flag))
      have sameTable :
          (ofFlags visited).features = given.map fun key enabled => ofFlag (key, enabled) :=
        Table.eq_of_entries sameEntries
      rw [Construction.fixed, sameTable, Table.get?_map, Construction.feature?]
  | features given =>
      rw [Construction.fixed, ofFeatures, Table.get?_ofList, List.filter_map,
        List.getLast?_map, Option.map_map]
      exact congrFun Option.map_id _

/-- What a construction sets up under a key has that key. -/
theorem key_of_feature?
    {construction : Construction}
    {key : String}
    {feature : Evaluated}
    (setUp : construction.feature? key = some feature) :
    feature.key = key := by
  cases construction with
  | nothing =>
      cases setUp
  | pairs given =>
      obtain ⟨flag, last, rfl⟩ := Option.map_eq_some_iff.mp setUp
      have member := List.mem_of_getLast? last
      exact of_decide_eq_true (List.mem_filter.mp member).2
  | flags given visited visitsAll =>
      obtain ⟨enabled, -, rfl⟩ := Option.map_eq_some_iff.mp setUp
      rfl
  | features given =>
      have member := List.mem_of_getLast? setUp
      exact of_decide_eq_true (List.mem_filter.mp member).2

theorem represents_fixed (construction : Construction) :
    Represents construction [] construction.fixed where
  isSome_iff := by
    intro key
    simp [get?_fixed, IsPresent]
  shows := by
    intro key feature found
    rw [get?_fixed] at found
    exact .initial found (key_of_feature? found)

namespace Represents

variable
  {construction : Construction}
  {steps : List Step}
  {fixed : FixedFeatures}

theorem withConfig
    (represents : Represents construction steps fixed)
    (attachedKey : String)
    (config : Config) :
    Represents construction (steps ++ [.config attachedKey config])
      (fixed.withConfig attachedKey config) where
  isSome_iff := by
    intro key
    rw [isPresent_snoc_config, ← represents.isSome_iff, FixedFeatures.withConfig,
      Table.get?_insert]
    by_cases same : key = attachedKey <;>
      simp [same]
  shows := by
    intro key feature found
    rw [FixedFeatures.withConfig, Table.get?_insert] at found
    by_cases same : key = attachedKey
    · subst same
      rw [if_pos rfl, Option.some.injEq] at found
      cases known : fixed.features.get? key with
      | none =>
          have absent : ¬ IsPresent construction steps key := by
            rw [← represents.isSome_iff, known]
            simp
          rw [known, Option.getD_none] at found
          subst found
          exact .add absent config
      | some feature =>
          rw [known, Option.getD_some] at found
          subst found
          exact (represents.shows known).attach config
    · rw [if_neg same] at found
      exact (represents.shows found).attachOther (Ne.symm same) config

theorem overriding (represents : Represents construction steps fixed) :
    Represents construction (steps ++ [.overriding]) fixed.overriding where
  isSome_iff := by
    intro key
    rw [isPresent_snoc_overriding, ← represents.isSome_iff, FixedFeatures.overriding,
      Table.get?_map, Option.isSome_map]
  shows := by
    intro key feature found
    rw [FixedFeatures.overriding, Table.get?_map] at found
    obtain ⟨known, isKnown, rfl⟩ := Option.map_eq_some_iff.mp found
    have present : IsPresent construction steps key := by
      rw [← represents.isSome_iff, isKnown, Option.isSome_some]
    exact (represents.shows isKnown).override present

/-- Every change keeps the account of all keys. -/
theorem step
    (represents : Represents construction steps fixed)
    (step : Step) :
    Represents construction (steps ++ [step]) (step.apply fixed) := by
  cases step with
  | config key config => exact represents.withConfig key config
  | overriding => exact represents.overriding

/-- So do changes in a row. -/
theorem run
    (represents : Represents construction steps fixed)
    (more : List Step) :
    Represents construction (steps ++ more) (more.foldl Step.apply fixed) := by
  induction more generalizing steps fixed with
  | nil =>
      simpa using represents
  | cons step rest inductionHypothesis =>
      simpa using inductionHypothesis (represents.step step)

end Represents

theorem represents_build
    (construction : Construction)
    (steps : List Step) :
    Represents construction steps (build construction steps) :=
  (represents_fixed construction).run steps

/-! ## What is resolved -/

/-- A list has the features of a construction and changes, and no others, in the order of
their keys. -/
structure Lists
    (construction : Construction)
    (steps : List Step)
    (listed : List Evaluated) : Prop where
  increasing :
    (listed.map (·.key)).Pairwise (· < ·)
  keys :
    ∀ key,
      (∃ feature ∈ listed, feature.key = key) ↔ IsPresent construction steps key
  /-- As no key stands twice, this fixes every feature of the list. -/
  shows :
    ∀ feature ∈ listed, Shows construction steps feature.key feature

/-- What is resolved is listed under the key it is stored under. -/
theorem Represents.lists
    {construction : Construction}
    {steps : List Step}
    {fixed : FixedFeatures}
    (represents : Represents construction steps fixed) :
    Lists construction steps fixed.toList := by
  have stored {entry : String × Evaluated} (member : entry ∈ fixed.features.entries) :
      Shows construction steps entry.1 entry.2 :=
    represents.shows (Table.get?_eq_some_iff.mpr member)
  have keys_eq : fixed.toList.map (·.key) = fixed.features.entries.map (·.1) := by
    rw [toList, Table.values, List.map_map]
    exact List.map_congr_left fun entry member => (stored member).key_eq
  refine ⟨?_, ?_, ?_⟩
  · rw [keys_eq, ← keysIncrease_iff_pairwise]
    exact fixed.features.increasing
  · intro key
    rw [← represents.isSome_iff, Option.isSome_iff_exists, ← List.mem_map, keys_eq]
    simp [Table.get?_eq_some_iff]
  · intro feature member
    obtain ⟨entry, entryMember, rfl⟩ := List.mem_map.mp member
    have shows := stored entryMember
    rwa [shows.key_eq]


/-! ## Resolving twice -/

/-- A client with resolvers in place of its own. -/
def consulting
    (client : Client)
    (resolvers : List Resolver) :
    Client :=
  { client with settings := { client.settings with resolvers } }

/-- A client that consults a resolver once more right after itself gives the same answers. -/
theorem conclude_consulting_repeated
    (client : Client)
    (query : Query)
    (base : Table Evaluated)
    (resolver : Resolver)
    (earlier later : List Resolver) :
    ((consulting client (earlier ++ resolver :: resolver :: later)).conclude query base).2 =
      ((consulting client (earlier ++ resolver :: later)).conclude query base).2 := by
  rw [Client.conclude_snd, Client.conclude_snd]
  simp only [consulting]
  rw [resolveAll_repeated _ _ _ _ _ [] []]

/--
However fixed features are set up and changed, each is stored under its own key, and they
are resolved, in the order of their keys and whatever the context is, to what has become of
the keys that were set up or got a config. Merging them once more right after themselves
changes nothing.
-/
theorem build_exact
    (construction : Construction)
    (steps : List Step) :
    (∀ key feature,
      (build construction steps).features.get? key = some feature →
      feature.key = key) ∧
    (∀ context, ∃ listed,
      (build construction steps).resolver context = .ok listed ∧
        Lists construction steps listed) ∧
    ∀ (client : Client) query base earlier later,
      let resolver := (build construction steps).resolver
      ((consulting client (earlier ++ resolver :: resolver :: later)).conclude query base).2 =
        ((consulting client (earlier ++ resolver :: later)).conclude query base).2 := by
  have represents := represents_build construction steps
  refine ⟨?_, ?_, ?_⟩
  · intro key feature found
    exact (represents.shows found).key_eq
  · intro context
    exact ⟨(build construction steps).toList, rfl, represents.lists⟩
  · intro client query base earlier later resolver
    exact conclude_consulting_repeated client query base resolver earlier later

/--
A flag that is given twice counts as it was given last. A config that comes after the
features were made to override adds a feature that does not override.
-/
theorem build_exact_givenTwice :
    let construction := Construction.pairs [("b", true), ("a", false), ("b", false)]
    let steps :=
      [.config "c" ⟨"blue", .integer 3⟩, .overriding, Step.config "d" ⟨"red", .null⟩]
    let twice : Evaluated := { key := "b", enabled := false, overridden := true }
    let added : Evaluated := { key := "d", enabled := false, config := some ⟨"red", .null⟩ }
    (build construction steps).features.get? "b" = some twice ∧ twice.key = "b" ∧
      (build construction steps).features.get? "d" = some added ∧ added.key = "d" ∧
      ∃ listed,
        (build construction steps).resolver {} = .ok listed ∧
          Lists construction steps listed ∧ listed.map (·.key) = ["a", "b", "c", "d"] := by
  intro construction steps twice added
  obtain ⟨ownKey, resolves, -⟩ := build_exact construction steps
  obtain ⟨listed, resolved, lists⟩ := resolves {}
  have isTwice : (build construction steps).features.get? "b" = some twice := by
    simp [build, construction, steps, Step.apply, withConfig, FixedFeatures.overriding,
      Table.get?_insert, Table.get?_map, get?_fixed, Construction.feature?, ofFlag, twice]
  have isAdded : (build construction steps).features.get? "d" = some added := by
    simp [build, construction, steps, Step.apply, withConfig, FixedFeatures.overriding,
      Table.get?_insert, Table.get?_map, get?_fixed, Construction.feature?, added]
  refine ⟨isTwice, ownKey _ _ isTwice, isAdded, ownKey _ _ isAdded, listed, resolved, lists, ?_⟩
  cases resolved
  decide +kernel

end FixedFeatures

end FeatureFlags.Feature
