import FeatureFlags.Proofs.Context
import FeatureFlags.Telemetry.Message

namespace FeatureFlags

/-!
# Updates against fields

An entity is reported in updates and seen by targeting, and both merge its declared
attributes over its free ones. Only targeting sees the id as an attribute, so the two agree
under every name but that of the id: `Context.updates_agree`. An update leaves the name of
the id to a free attribute.
-/

open FeatureFlags.Telemetry (Message UserUpdate)

namespace Attributes

variable {attributes : Attributes} {declared : List (String × Option String)} {name : String}

/-- What is declared over attributes hides them name by name. -/
theorem get?_declareAll_congr
    {left right : Attributes}
    (same : left.get? name = right.get? name)
    (declared : List (String × Option String)) :
    (left.declareAll declared).get? name = (right.declareAll declared).get? name := by
  induction declared generalizing left right with
  | nil =>
      exact same
  | cons entry rest inductionHypothesis =>
      refine @inductionHypothesis (left.declare entry.1 entry.2) (right.declare entry.1 entry.2) ?_
      rw [get?_declare, get?_declare, same]

/-- What is declared under other names changes nothing. -/
theorem get?_declareAll_of_absent
    (absent : ∀ entry ∈ declared, entry.1 ≠ name) :
    (attributes.declareAll declared).get? name = attributes.get? name := by
  induction declared generalizing attributes with
  | nil =>
      rfl
  | cons entry rest inductionHypothesis =>
      obtain ⟨otherName, absentLater⟩ := List.forall_mem_cons.mp absent
      have unchanged : (attributes.declare entry.1 entry.2).get? name = attributes.get? name := by
        rw [get?_declare, if_neg otherName.symm]
      exact (inductionHypothesis absentLater).trans unchanged

end Attributes

/--
What an update carries of an entity with an id, some declared and some free attributes, and
what targeting sees of it under a front.
-/
structure ReportsFields
    (id : String)
    (declared : List (String × Option String))
    (free sent : Attributes)
    (front : String)
    (fields : Fields) : Prop where
  /-- Under every name but that of the id the same is sent and seen, or nothing is either. -/
  agrees :
    ∀ {name}, name ≠ "id" → sent.get? name = fields.get? (front ++ name)
  /-- Targeting sees the id of the entity, whatever else is called like it. -/
  identified :
    fields.get? (front ++ "id") = some (.text id)
  /-- Declared attributes win over free ones on both paths. -/
  declaredWin :
    ∀ {name text},
      (name, some text) ∈ declared →
      name ≠ "id" →
      sent.get? name = some (.text text) ∧ fields.get? (front ++ name) = some (.text text)
  /-- Under the name of the id the free attribute is sent. -/
  freeId :
    sent.get? "id" = free.get? "id"
  /-- So whatever is sent is seen, unless a free attribute passes for another id. -/
  seen_iff :
    (∀ name value, sent.get? name = some value → fields.get? (front ++ name) = some value) ↔
      ∀ value, free.get? "id" = some value → value = .text id

/-- What is merged over the same attributes, with the id and without, is seen and sent. -/
private theorem ReportsFields.of_declareAll
    {id front : String}
    {others : List (String × Option String)}
    {free : Attributes}
    {fields : Fields}
    (distinct : ((("id", some id) :: others).map (·.1)).Nodup)
    (sees :
      ∀ name,
        fields.get? (front ++ name) =
          (free.declareAll (("id", some id) :: others)).get? name) :
    ReportsFields id (("id", some id) :: others) free (free.declareAll others) front fields := by
  let declared : List (String × Option String) := ("id", some id) :: others
  have shown {name text : String} (member : (name, some text) ∈ declared) :
      fields.get? (front ++ name) = some (.text text) := by
    rw [sees]
    exact (get?_declareAll_eq_some_iff distinct).mpr (.declared member)
  have agrees {name : String} (isOther : name ≠ "id") :
      (free.declareAll others).get? name = fields.get? (front ++ name) := by
    rw [sees]
    refine Attributes.get?_declareAll_congr ?_ others
    rw [Attributes.get?_declare, if_neg isOther]
  have notDeclaredAgain : ∀ entry ∈ others, entry.1 ≠ "id" := by
    intro entry member same
    have again := List.mem_map_of_mem (f := fun entry : String × Option String => entry.1) member
    rw [same] at again
    exact (List.nodup_cons.mp distinct).1 again
  have freeId : (free.declareAll others).get? "id" = free.get? "id" :=
    Attributes.get?_declareAll_of_absent notDeclaredAgain
  have identified : fields.get? (front ++ "id") = some (.text id) :=
    shown List.mem_cons_self
  refine ⟨agrees, identified, fun member isOther => ?_, freeId, fun seen value given => ?_,
    fun harmless name value given => ?_⟩
  · rw [agrees isOther]
    exact ⟨shown member, shown member⟩
  · have visible := seen "id" value (freeId.trans given)
    exact Option.some.inj (visible.symm.trans identified)
  · by_cases isId : name = "id"
    · subst isId
      rw [identified, harmless value (freeId.symm.trans given)]
    · rw [← agrees isId]
      exact given

/--
The update of an entity and the fields of a context with that entity agree, as far as no free
attribute is called like the id.
-/
theorem Context.updates_agree
    (context : Context)
    (tracking : Tracking) :
    (∀ user,
      context.user = some user →
      ∃ update,
        Message.ofUser user tracking = .user update ∧
          update.user = user.id ∧
          ReportsFields user.id user.declared user.custom update.attributes "user."
            context.fields) ∧
      ∀ company,
        context.company = some company →
        ∀ associated,
          ∃ update,
            Message.ofCompany company associated tracking = .company update ∧
              update.company = company.id ∧
              ReportsFields company.id company.declared company.custom update.attributes
                "company." context.fields := by
  constructor
  · intro user isUser
    refine ⟨_, rfl, rfl, .of_declareAll (by simp) fun name => ?_⟩
    rw [get?_fields_user, isUser]
    rfl
  · intro company isCompany associated
    refine ⟨_, rfl, rfl, .of_declareAll (by simp) fun name => ?_⟩
    rw [get?_fields_company, isCompany]
    rfl

/-- The name of the user is declared, and its free attributes pass for a name and an id. -/
def User.impersonating : User where
  id := "u1"
  name := some "Ada"
  custom := .ofList [("id", .text "u2"), ("name", .null), ("plan", .text "pro")]

/-- The company has a free attribute of its own and one that repeats its id. -/
def Company.repetitive : Company where
  id := "c1"
  custom := .ofList [("id", .text "c1"), ("seats", .integer 5)]

/-- Of the user all but the free id is sent as it is seen, and of the company everything. -/
theorem Context.updates_agree_impersonating :
    let context : Context :=
      { user := some User.impersonating, company := some Company.repetitive }
    context.user = some User.impersonating ∧
      context.company = some Company.repetitive ∧
      (∃ update,
        Message.ofUser User.impersonating .active = .user update ∧
          update.attributes.get? "name" = some (.text "Ada") ∧
          context.fields.get? ("user." ++ "name") = some (.text "Ada") ∧
          update.attributes.get? "plan" = context.fields.get? ("user." ++ "plan") ∧
          context.fields.get? ("user." ++ "id") = some (.text "u1") ∧
          update.attributes.get? "id" = some (.text "u2")) ∧
      ∃ update,
        Message.ofCompany Company.repetitive (some User.impersonating) .active =
            .company update ∧
          ∀ name value,
            update.attributes.get? name = some value →
            context.fields.get? ("company." ++ name) = some value := by
  intro context
  obtain ⟨ofUser, ofCompany⟩ := context.updates_agree .active
  obtain ⟨userUpdate, sentForUser, -, userReports⟩ := ofUser User.impersonating rfl
  obtain ⟨companyUpdate, sentForCompany, -, companyReports⟩ :=
    ofCompany Company.repetitive rfl (some User.impersonating)
  obtain ⟨nameSent, nameSeen⟩ :=
    userReports.declaredWin (List.mem_cons_of_mem _ List.mem_cons_self) (by decide)
  refine
    ⟨rfl, rfl,
      ⟨userUpdate, sentForUser, nameSent, nameSeen, userReports.agrees (by decide),
        userReports.identified, userReports.freeId⟩,
      companyUpdate, sentForCompany, companyReports.seen_iff.mpr fun value given => ?_⟩
  exact (Option.some.inj given).symm

/-- What an update says of a user is not always what targeting sees: a free id is sent. -/
theorem not_updatesAreSeen :
    ¬ ∀ (context : Context)
        (user : User)
        (tracking : Tracking)
        (update : UserUpdate)
        (name : String)
        (value : Value),
        context.user = some user →
        Message.ofUser user tracking = .user update →
        update.attributes.get? name = some value →
        context.fields.get? ("user." ++ name) = some value := by
  intro areSeen
  let user : User := { id := "u1", custom := .ofList [("id", .text "u2")] }
  have seen := areSeen { user := some user } user .standard _ "id" (.text "u2") rfl rfl rfl
  have real :
      (Context.fields { user := some user }).get? ("user." ++ "id") = some (.text "u1") :=
    rfl
  have same : Value.text "u1" = .text "u2" := Option.some.inj (real.symm.trans seen)
  simp at same

end FeatureFlags
