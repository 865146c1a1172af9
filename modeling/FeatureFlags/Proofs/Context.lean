import FeatureFlags.Context
import FeatureFlags.Proofs.Table

namespace FeatureFlags

/-!
# Fields of contexts

Every group of attributes has its own front, and no name can imitate the front of another
group, because the fronts differ in their first characters. So a field is held under a key
exactly if an attribute of one group is, and the groups do not disturb each other. Inside a
group the declared attributes win, and of the free ones the last of each name counts:
`fields_exact`.
-/

/-! ## Attributes -/

/--
The attributes of an entity with some declared attributes, of which those without a text
are not set, and with free ones. A free attribute is shown unless a declared one of its
name is set.
-/
inductive ShowsAttribute
    (declared : List (String × Option String))
    (free : Attributes) :
    String → Value → Prop where
  | declared
      {name text : String} :
      (name, some text) ∈ declared →
      ShowsAttribute declared free name (.text text)
  | free
      {name : String}
      {value : Value} :
      (∀ text, (name, some text) ∉ declared) →
      free.get? name = some value →
      ShowsAttribute declared free name value

/-- What a user declares; the id is always set. -/
def User.declared (user : User) : List (String × Option String) :=
  [("id", some user.id), ("name", user.name), ("email", user.email), ("avatar", user.avatar)]

/-- What a company declares; the id is always set. -/
def Company.declared (company : Company) : List (String × Option String) :=
  [("id", some company.id), ("name", company.name), ("avatar", company.avatar)]

namespace Attributes

theorem get?_declare
    (attributes : Attributes)
    (name other : String)
    (value : Option String) :
    (attributes.declare name value).get? other =
      if other = name then (value.map Value.text).or (attributes.get? other)
      else attributes.get? other := by
  cases value with
  | none =>
      simp [declare]
  | some text =>
      simp only [declare, Table.get?_insert]
      rfl

/-- Declare attributes one after the other. -/
def declareAll
    (attributes : Attributes)
    (declared : List (String × Option String)) :
    Attributes :=
  declared.foldl (fun current entry => current.declare entry.1 entry.2) attributes

end Attributes

section Declared

variable
  {declared : List (String × Option String)}
  {free : Attributes}
  {name : String}
  {value : Value}

/-- What is declared once may as well be set among the free attributes beforehand. -/
theorem showsAttribute_cons_iff
    {entryName : String}
    {entryText : Option String}
    (absent : ∀ text, (entryName, text) ∉ declared) :
    ShowsAttribute ((entryName, entryText) :: declared) free name value ↔
      ShowsAttribute declared (free.declare entryName entryText) name value := by
  constructor
  · intro shown
    cases shown with
    | declared member =>
        rcases List.mem_cons.mp member with isEntry | later
        · cases isEntry
          apply ShowsAttribute.free
          · intro other
            exact absent (some other)
          · simp [Attributes.get?_declare]
        · exact .declared later
    | free unset found =>
        apply ShowsAttribute.free
        · intro text later
          exact unset text (List.mem_cons_of_mem _ later)
        · rw [Attributes.get?_declare]
          by_cases same : name = entryName
          · subst same
            cases entryText with
            | none => simpa using found
            | some text => exact absurd List.mem_cons_self (unset text)
          · rw [if_neg same, found]
  · intro shown
    cases shown with
    | declared member =>
        exact .declared (List.mem_cons_of_mem _ member)
    | free unset found =>
        rw [Attributes.get?_declare] at found
        by_cases same : name = entryName
        · subst same
          rw [if_pos rfl] at found
          cases entryText with
          | none =>
              refine .free (fun text member => ?_) found
              simp [absent] at member
          | some text =>
              obtain rfl := Option.some.inj found
              exact .declared List.mem_cons_self
        · rw [if_neg same] at found
          refine .free (fun text member => ?_) found
          rcases List.mem_cons.mp member with isEntry | later
          · exact same (congrArg Prod.fst isEntry)
          · exact unset text later

/-- With attributes of different names declared over them, free attributes are shown as they
should be. -/
theorem get?_declareAll_eq_some_iff (distinct : (declared.map (·.1)).Nodup) :
    (free.declareAll declared).get? name = some value ↔
      ShowsAttribute declared free name value := by
  induction declared generalizing free with
  | nil =>
      constructor
      · intro found
        exact .free (fun _ => List.not_mem_nil) found
      · intro shown
        cases shown with
        | declared member => cases member
        | free _ found => exact found
  | cons entry rest inductionHypothesis =>
      obtain ⟨notLater, restDistinct⟩ := List.nodup_cons.mp distinct
      have absent (text : Option String) : (entry.1, text) ∉ rest := by
        intro member
        exact notLater (List.mem_map.mpr ⟨_, member, rfl⟩)
      rw [showsAttribute_cons_iff absent]
      exact inductionHypothesis restDistinct

end Declared

theorem User.get?_targetingAttributes_eq_some_iff
    {user : User}
    {name : String}
    {value : Value} :
    user.targetingAttributes.get? name = some value ↔
      ShowsAttribute user.declared user.custom name value := by
  have distinct : (user.declared.map (·.1)).Nodup := by simp [declared]
  exact get?_declareAll_eq_some_iff distinct

theorem Company.get?_targetingAttributes_eq_some_iff
    {company : Company}
    {name : String}
    {value : Value} :
    company.targetingAttributes.get? name = some value ↔
      ShowsAttribute company.declared company.custom name value := by
  have distinct : (company.declared.map (·.1)).Nodup := by simp [declared]
  exact get?_declareAll_eq_some_iff distinct

/-! ## Groups of fields -/

namespace Fields

/-- Under its own front a group shows its attributes, and the fields from before where it has
none. -/
theorem get?_addGroup_front
    (fields : Fields)
    (front : String)
    (attributes : Attributes)
    (name : String) :
    (fields.addGroup front attributes).get? (front ++ name) =
      (attributes.get? name).or (fields.get? (front ++ name)) := by
  have ownName :
      (fun entry : String × Value => decide (front ++ entry.1 = front ++ name)) =
        fun entry => decide (entry.1 = name) := by
    simp only [String.append_right_inj]
  have shown := Table.get?_ofList attributes.entries name
  rw [Table.ofList_entries] at shown
  rw [addGroup, Table.get?_insertAll, List.filter_map, shown]
  simp only [Function.comp_def, ownName, List.getLast?_map, Option.map_map]

/-- A group changes no field whose key has another front. -/
theorem get?_addGroup_of_foreign
    (fields : Fields)
    {front : String}
    (attributes : Attributes)
    {key : String}
    (foreign : ∀ name, key ≠ front ++ name) :
    (fields.addGroup front attributes).get? key = fields.get? key := by
  have noEntry :
      (attributes.entries.map fun entry => (front ++ entry.1, entry.2)).filter (·.1 = key) =
        [] := by
    rw [List.filter_map, List.map_eq_nil_iff, List.filter_eq_nil_iff]
    intro entry _
    simpa using (foreign entry.1).symm
  rw [addGroup, Table.get?_insertAll, noEntry]
  rfl

end Fields

/-! ## Fields of a context -/

namespace Context

/-- Keys whose fronts begin with different characters are different. -/
private theorem key_ne_of_first
    {front other : String}
    {first otherFirst : Char}
    {rest otherRest : List Char}
    (begins : front.toList = first :: rest)
    (otherBegins : other.toList = otherFirst :: otherRest)
    (apart : first ≠ otherFirst)
    (name otherName : String) :
    front ++ name ≠ other ++ otherName := by
  intro same
  have characters := congrArg String.toList same
  rw [String.toList_append, String.toList_append, begins, otherBegins] at characters
  exact apart (List.cons.inj characters).1

private theorem other_ne_company (name otherName : String) :
    "other." ++ name ≠ "company." ++ otherName :=
  key_ne_of_first rfl rfl (by decide) name otherName

private theorem other_ne_user (name otherName : String) :
    "other." ++ name ≠ "user." ++ otherName :=
  key_ne_of_first rfl rfl (by decide) name otherName

private theorem company_ne_user (name otherName : String) :
    "company." ++ name ≠ "user." ++ otherName :=
  key_ne_of_first rfl rfl (by decide) name otherName

/-- The fields that a context has besides those of its user. -/
def fieldsWithoutUser (context : Context) : Fields :=
  match context.company with
  | some company =>
      (Fields.addGroup .empty "other." context.other).addGroup "company."
        company.targetingAttributes
  | none => Fields.addGroup .empty "other." context.other

theorem fields_eq (context : Context) :
    context.fields =
      match context.user with
      | some user => context.fieldsWithoutUser.addGroup "user." user.targetingAttributes
      | none => context.fieldsWithoutUser :=
  rfl

/-- The user has no part in a field whose key has another front. -/
theorem get?_fields_of_foreign
    (context : Context)
    {key : String}
    (foreign : ∀ name, key ≠ "user." ++ name) :
    context.fields.get? key = context.fieldsWithoutUser.get? key := by
  rw [fields_eq]
  cases context.user with
  | none => rfl
  | some user => exact Fields.get?_addGroup_of_foreign _ _ foreign

/-- The company has no part in a field whose key has another front. -/
theorem get?_fieldsWithoutUser_of_foreign
    (context : Context)
    {key : String}
    (foreign : ∀ name, key ≠ "company." ++ name) :
    context.fieldsWithoutUser.get? key =
      (Fields.addGroup .empty "other." context.other).get? key := by
  unfold fieldsWithoutUser
  cases context.company with
  | none => rfl
  | some company => exact Fields.get?_addGroup_of_foreign _ _ foreign

/-- Under the front of free attributes stand the free attributes and nothing else. -/
theorem get?_fields_other
    (context : Context)
    (name : String) :
    context.fields.get? ("other." ++ name) = context.other.get? name := by
  rw [get?_fields_of_foreign _ (other_ne_user name),
    get?_fieldsWithoutUser_of_foreign _ (other_ne_company name), Fields.get?_addGroup_front]
  exact Option.or_none

/-- Under the front of companies stand the attributes of the company and nothing else. -/
theorem get?_fields_company
    (context : Context)
    (name : String) :
    context.fields.get? ("company." ++ name) =
      context.company.bind fun company => company.targetingAttributes.get? name := by
  have noFree :
      (Fields.addGroup .empty "other." context.other).get? ("company." ++ name) = none :=
    Fields.get?_addGroup_of_foreign _ _ fun free => (other_ne_company free name).symm
  rw [get?_fields_of_foreign _ (company_ne_user name), fieldsWithoutUser]
  cases context.company with
  | none =>
      exact noFree
  | some company =>
      dsimp only [Option.bind_some]
      rw [Fields.get?_addGroup_front, noFree, Option.or_none]

/-- Under the front of users stand the attributes of the user and nothing else. -/
theorem get?_fields_user
    (context : Context)
    (name : String) :
    context.fields.get? ("user." ++ name) =
      context.user.bind fun user => user.targetingAttributes.get? name := by
  have noOther : context.fieldsWithoutUser.get? ("user." ++ name) = none := by
    rw [get?_fieldsWithoutUser_of_foreign _ fun other => (company_ne_user other name).symm]
    exact Fields.get?_addGroup_of_foreign _ _ fun free => (other_ne_user free name).symm
  rw [fields_eq]
  cases context.user with
  | none =>
      exact noOther
  | some user =>
      dsimp only [Option.bind_some]
      rw [Fields.get?_addGroup_front, noOther, Option.or_none]

/-- The keys and values of the fields that a context should have. -/
inductive HasField (context : Context) : String → Value → Prop where
  | free
      {name : String}
      {value : Value} :
      context.other.get? name = some value →
      HasField context ("other." ++ name) value
  | ofCompany
      {company : Company}
      {name : String}
      {value : Value} :
      context.company = some company →
      ShowsAttribute company.declared company.custom name value →
      HasField context ("company." ++ name) value
  | ofUser
      {user : User}
      {name : String}
      {value : Value} :
      context.user = some user →
      ShowsAttribute user.declared user.custom name value →
      HasField context ("user." ++ name) value

theorem HasField.get?_fields_eq
    {context : Context}
    {key : String}
    {value : Value}
    (hasField : context.HasField key value) :
    context.fields.get? key = some value := by
  cases hasField with
  | free found =>
      rw [get?_fields_other, found]
  | ofCompany isCompany shown =>
      rw [get?_fields_company, isCompany]
      exact Company.get?_targetingAttributes_eq_some_iff.mpr shown
  | ofUser isUser shown =>
      rw [get?_fields_user, isUser]
      exact User.get?_targetingAttributes_eq_some_iff.mpr shown

/-- The fields of a context are those that it should have. -/
theorem get?_fields_eq_some_iff
    {context : Context}
    {key : String}
    {value : Value} :
    context.fields.get? key = some value ↔ context.HasField key value := by
  refine ⟨fun found => ?_, HasField.get?_fields_eq⟩
  by_cases ofUser : ∃ name, key = "user." ++ name
  · obtain ⟨name, rfl⟩ := ofUser
    rw [get?_fields_user] at found
    obtain ⟨user, isUser, shown⟩ := Option.bind_eq_some_iff.mp found
    exact .ofUser isUser (User.get?_targetingAttributes_eq_some_iff.mp shown)
  by_cases ofCompany : ∃ name, key = "company." ++ name
  · obtain ⟨name, rfl⟩ := ofCompany
    rw [get?_fields_company] at found
    obtain ⟨company, isCompany, shown⟩ := Option.bind_eq_some_iff.mp found
    exact .ofCompany isCompany (Company.get?_targetingAttributes_eq_some_iff.mp shown)
  by_cases free : ∃ name, key = "other." ++ name
  · obtain ⟨name, rfl⟩ := free
    rw [get?_fields_other] at found
    exact .free found
  · -- No group has such a key.
    rw [get?_fields_of_foreign _ (not_exists.mp ofUser),
      get?_fieldsWithoutUser_of_foreign _ (not_exists.mp ofCompany),
      Fields.get?_addGroup_of_foreign _ _ (not_exists.mp free)] at found
    cases found

end Context

/-! ## The order of additions -/

/-- The value that is set last for a name, in a sequence of names and values. -/
def lastValue?
    (settings : List (String × Value))
    (name : String) :
    Option Value :=
  (settings.filter (·.1 = name)).getLast?.map (·.2)

/-- Free attributes in the order in which they are set, for the user, the company and the
context. -/
structure Additions where
  ofUser : List (String × Value)
  ofCompany : List (String × Value)
  free : List (String × Value)

/-- Additions that set each attribute to the same value in the end. -/
structure Additions.SameInTheEnd (left right : Additions) : Prop where
  ofUser : ∀ name, lastValue? left.ofUser name = lastValue? right.ofUser name
  ofCompany : ∀ name, lastValue? left.ofCompany name = lastValue? right.ofCompany name
  free : ∀ name, lastValue? left.free name = lastValue? right.free name

/-- A user after some attributes have been set. -/
def User.setAll
    (user : User)
    (settings : List (String × Value)) :
    User :=
  settings.foldl (fun current setting => current.setAttribute setting.1 setting.2) user

/-- A company after some attributes have been set. -/
def Company.setAll
    (company : Company)
    (settings : List (String × Value)) :
    Company :=
  settings.foldl (fun current setting => current.setAttribute setting.1 setting.2) company

/-- A context after some free attributes have been set. -/
def Context.setAll
    (context : Context)
    (settings : List (String × Value)) :
    Context :=
  settings.foldl (fun current setting => current.setAttribute setting.1 setting.2) context

/-- A context after additions to its user, to its company and to itself. -/
def Context.add
    (context : Context)
    (additions : Additions) :
    Context :=
  Context.setAll
    { context with
      user := context.user.map (·.setAll additions.ofUser)
      company := context.company.map (·.setAll additions.ofCompany) }
    additions.free

theorem User.setAll_eq
    (user : User)
    (settings : List (String × Value)) :
    user.setAll settings = { user with custom := user.custom.insertAll settings } := by
  induction settings generalizing user with
  | nil => rfl
  | cons setting rest inductionHypothesis => exact inductionHypothesis _

theorem Company.setAll_eq
    (company : Company)
    (settings : List (String × Value)) :
    company.setAll settings = { company with custom := company.custom.insertAll settings } := by
  induction settings generalizing company with
  | nil => rfl
  | cons setting rest inductionHypothesis => exact inductionHypothesis _

theorem Context.setAll_eq
    (context : Context)
    (settings : List (String × Value)) :
    context.setAll settings = { context with other := context.other.insertAll settings } := by
  induction settings generalizing context with
  | nil => rfl
  | cons setting rest inductionHypothesis => exact inductionHypothesis _

/-- Of the values that are set for a name the last one counts, over the one from before. -/
theorem get?_insertAll
    (attributes : Attributes)
    (settings : List (String × Value))
    (name : String) :
    (attributes.insertAll settings).get? name =
      (lastValue? settings name).or (attributes.get? name) :=
  Table.get?_insertAll attributes settings name

/--
The keys and values of the fields that a context should have after additions. Where no
declared attribute is set, the value that was added last counts, and the one from before if
none was added.
-/
inductive Context.HasFieldAfter
    (context : Context)
    (additions : Additions) :
    String → Value → Prop where
  | free
      {name : String}
      {value : Value} :
      (lastValue? additions.free name).or (context.other.get? name) = some value →
      HasFieldAfter context additions ("other." ++ name) value
  | declaredOfCompany
      {company : Company}
      {name text : String} :
      context.company = some company →
      (name, some text) ∈ company.declared →
      HasFieldAfter context additions ("company." ++ name) (.text text)
  | ofCompany
      {company : Company}
      {name : String}
      {value : Value} :
      context.company = some company →
      (∀ text, (name, some text) ∉ company.declared) →
      (lastValue? additions.ofCompany name).or (company.custom.get? name) = some value →
      HasFieldAfter context additions ("company." ++ name) value
  | declaredOfUser
      {user : User}
      {name text : String} :
      context.user = some user →
      (name, some text) ∈ user.declared →
      HasFieldAfter context additions ("user." ++ name) (.text text)
  | ofUser
      {user : User}
      {name : String}
      {value : Value} :
      context.user = some user →
      (∀ text, (name, some text) ∉ user.declared) →
      (lastValue? additions.ofUser name).or (user.custom.get? name) = some value →
      HasFieldAfter context additions ("user." ++ name) value

namespace Context

variable
  {context : Context}
  {additions : Additions}
  {key : String}
  {value : Value}

theorem add_eq
    (context : Context)
    (additions : Additions) :
    context.add additions =
      { user :=
          context.user.map fun user =>
            { user with custom := user.custom.insertAll additions.ofUser }
        company :=
          context.company.map fun company =>
            { company with custom := company.custom.insertAll additions.ofCompany }
        other := context.other.insertAll additions.free } := by
  unfold add
  rw [setAll_eq]
  simp only [User.setAll_eq, Company.setAll_eq]

/-- Additions change the free attributes of a group and leave the declared ones. -/
theorem hasField_add_iff :
    (context.add additions).HasField key value ↔ context.HasFieldAfter additions key value := by
  rw [add_eq]
  constructor
  · intro hasField
    cases hasField with
    | free found =>
        exact .free (by rwa [get?_insertAll] at found)
    | ofCompany isCompany shown =>
        obtain ⟨company, isThere, rfl⟩ := Option.map_eq_some_iff.mp isCompany
        cases shown with
        | declared member => exact .declaredOfCompany isThere member
        | free unset found => exact .ofCompany isThere unset (by rwa [get?_insertAll] at found)
    | ofUser isUser shown =>
        obtain ⟨user, isThere, rfl⟩ := Option.map_eq_some_iff.mp isUser
        cases shown with
        | declared member => exact .declaredOfUser isThere member
        | free unset found => exact .ofUser isThere unset (by rwa [get?_insertAll] at found)
  · intro hasField
    cases hasField with
    | free found =>
        exact .free (by rwa [get?_insertAll])
    | declaredOfCompany isCompany member =>
        exact .ofCompany (Option.map_eq_some_iff.mpr ⟨_, isCompany, rfl⟩) (.declared member)
    | ofCompany isCompany unset found =>
        refine .ofCompany (Option.map_eq_some_iff.mpr ⟨_, isCompany, rfl⟩) (.free unset ?_)
        rwa [get?_insertAll]
    | declaredOfUser isUser member =>
        exact .ofUser (Option.map_eq_some_iff.mpr ⟨_, isUser, rfl⟩) (.declared member)
    | ofUser isUser unset found =>
        refine .ofUser (Option.map_eq_some_iff.mpr ⟨_, isUser, rfl⟩) (.free unset ?_)
        rwa [get?_insertAll]

/-- Of several values that are added for one name only the last one counts. -/
theorem add_congr
    {left right : Additions}
    (same : left.SameInTheEnd right)
    (context : Context) :
    context.add left = context.add right := by
  have insertAll_congr
      {earlier later : List (String × Value)}
      (sameValues : ∀ name, lastValue? earlier name = lastValue? later name)
      (attributes : Attributes) :
      attributes.insertAll earlier = attributes.insertAll later := by
    apply Table.eq_of_get?
    intro name
    rw [get?_insertAll, get?_insertAll, sameValues name]
  simp only [add_eq, insertAll_congr same.ofUser, insertAll_congr same.ofCompany,
    insertAll_congr same.free]

/--
The fields of a context are exactly the attributes of its groups, each under the front of
its group. After additions they are still that, with the value that was added last for each
free attribute. So they do not depend on the order in which attributes are set, as long as
each of them gets the same value in the end.
-/
theorem fields_exact (context : Context) :
    (∀ key value, context.fields.get? key = some value ↔ context.HasField key value) ∧
      (∀ additions key value,
        (context.add additions).fields.get? key = some value ↔
          context.HasFieldAfter additions key value) ∧
      ∀ left right : Additions,
        left.SameInTheEnd right → (context.add left).fields = (context.add right).fields := by
  refine ⟨?_, ?_, ?_⟩
  · intro key value
    exact get?_fields_eq_some_iff
  · intro additions key value
    rw [get?_fields_eq_some_iff, hasField_add_iff]
  · intro left right same
    rw [add_congr same]

/--
A free attribute and one of the company that are called like the key of the user's id leave
it as it is, and so does one of the user that is called `id`, also where it is added; an
attribute without a name has a field like any other. Of the plans that are set for the user
the last one counts, and the place of the seats among them does not matter.
-/
theorem fields_exact_imitations :
    let user : User :=
      { id := "u1"
        name := some "Ada"
        custom := .ofList [("id", .text "u2"), ("name", .null), ("", .integer 3)] }
    let company : Company := { id := "c1", custom := .ofList [("user.id", .text "u3")] }
    let context : Context :=
      { user := some user, company := some company, other := .ofList [("user.id", .text "u4")] }
    let replanned : Additions :=
      { ofUser := [("plan", .text "free"), ("seats", .integer 5), ("plan", .text "pro"),
          ("id", .text "u5")]
        ofCompany := [("user.id", .text "u6")]
        free := [("plan", .text "none")] }
    let planned : Additions :=
      { replanned with
        ofUser := [("id", .text "u5"), ("plan", .text "pro"), ("seats", .integer 5)] }
    context.fields.get? "user.id" = some (.text "u1") ∧
      context.fields.get? "company.user.id" = some (.text "u3") ∧
      context.fields.get? "other.user.id" = some (.text "u4") ∧
      context.fields.get? "user.name" = some (.text "Ada") ∧
      context.fields.get? "user." = some (.integer 3) ∧
      (context.add replanned).fields.get? "user.plan" = some (.text "pro") ∧
      (context.add replanned).fields.get? "user.id" = some (.text "u1") ∧
      (context.add replanned).fields.get? "company.user.id" = some (.text "u6") ∧
      (context.add replanned).fields.get? "other.plan" = some (.text "none") ∧
      replanned.SameInTheEnd planned ∧
      (context.add replanned).fields = (context.add planned).fields := by
  intro user company context replanned planned
  obtain ⟨isField, isFieldAfter, sameFields⟩ := context.fields_exact
  have unset : ∀ text, ("", some text) ∉ user.declared := by simp [User.declared]
  have planUnset : ∀ text, ("plan", some text) ∉ user.declared := by simp [User.declared]
  have unsetOfCompany : ∀ text, ("user.id", some text) ∉ company.declared := by
    simp [Company.declared]
  have sameInTheEnd : replanned.SameInTheEnd planned := by
    refine ⟨fun name => ?_, fun _ => rfl, fun _ => rfl⟩
    by_cases isPlan : "plan" = name
    · subst isPlan
      rfl
    by_cases isId : "id" = name
    · subst isId
      rfl
    · simp [replanned, planned, lastValue?, isPlan, isId]
  refine ⟨?_, ?_, ?_, ?_, ?_, ?_, ?_, ?_, ?_, sameInTheEnd,
    sameFields replanned planned sameInTheEnd⟩
  · apply (isField _ _).mpr
    exact @HasField.ofUser context user "id" _ rfl (.declared List.mem_cons_self)
  · apply (isField _ _).mpr
    exact @HasField.ofCompany context company "user.id" _ rfl (.free unsetOfCompany rfl)
  · apply (isField _ _).mpr
    exact @HasField.free context "user.id" _ rfl
  · apply (isField _ _).mpr
    exact @HasField.ofUser context user "name" _ rfl
      (.declared (List.mem_cons_of_mem _ List.mem_cons_self))
  · apply (isField _ _).mpr
    exact @HasField.ofUser context user "" _ rfl (.free unset rfl)
  · apply (isFieldAfter _ _ _).mpr
    exact @HasFieldAfter.ofUser context replanned user "plan" _ rfl planUnset rfl
  · apply (isFieldAfter _ _ _).mpr
    exact @HasFieldAfter.declaredOfUser context replanned user "id" "u1" rfl List.mem_cons_self
  · apply (isFieldAfter _ _ _).mpr
    exact @HasFieldAfter.ofCompany context replanned company "user.id" _ rfl unsetOfCompany rfl
  · apply (isFieldAfter _ _ _).mpr
    exact @HasFieldAfter.free context replanned "plan" _ rfl

end Context

end FeatureFlags
