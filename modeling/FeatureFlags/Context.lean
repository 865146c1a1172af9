import FeatureFlags.Value.Basic

namespace FeatureFlags

/-!
# Evaluation contexts

Users, companies and free attributes, and the fields that targeting sees. Every
group of fields has a front of its own, and inside a group the declared
attributes win over free ones of the same name.
-/

/-- A user with declared and free attributes. -/
structure User where
  id : String
  name : Option String := none
  email : Option String := none
  avatar : Option String := none
  custom : Attributes := .empty

/-- A company with declared and free attributes. -/
structure Company where
  id : String
  name : Option String := none
  avatar : Option String := none
  custom : Attributes := .empty

/-- Who and what a feature is evaluated for. -/
structure Context where
  user : Option User := none
  company : Option Company := none
  other : Attributes := .empty

/-- Set a declared attribute over the free ones, if it is there. -/
def Attributes.declare
    (attributes : Attributes)
    (name : String)
    (value : Option String) :
    Attributes :=
  match value with
  | some text => attributes.insert name (.text text)
  | none => attributes

/-- Put the attributes into the fields under a front. -/
def Fields.addGroup
    (fields : Fields)
    (front : String)
    (attributes : Attributes) :
    Fields :=
  fields.insertAll (attributes.entries.map fun entry => (front ++ entry.1, entry.2))

namespace User

/-- Set a free attribute of a user; of two values of a name the later one counts. -/
def setAttribute
    (user : User)
    (name : String)
    (value : Value) :
    User :=
  { user with custom := user.custom.insert name value }

/-- Declare the attributes of a user other than the id. -/
def declareOver
    (user : User)
    (attributes : Attributes) :
    Attributes :=
  ((Attributes.declare attributes "name" user.name).declare "email" user.email).declare
    "avatar" user.avatar

/-- The attributes that an update of the user carries. -/
def attributes (user : User) : Attributes :=
  user.declareOver user.custom

/-- The attributes that targeting sees, the id among them. -/
def targetingAttributes (user : User) : Attributes :=
  user.declareOver (user.custom.insert "id" (.text user.id))

end User

namespace Company

/-- Set a free attribute of a company. -/
def setAttribute
    (company : Company)
    (name : String)
    (value : Value) :
    Company :=
  { company with custom := company.custom.insert name value }

/-- Declare the attributes of a company other than the id. -/
def declareOver
    (company : Company)
    (attributes : Attributes) :
    Attributes :=
  (Attributes.declare attributes "name" company.name).declare "avatar" company.avatar

/-- The attributes that an update of the company carries. -/
def attributes (company : Company) : Attributes :=
  company.declareOver company.custom

/-- The attributes that targeting sees, the id among them. -/
def targetingAttributes (company : Company) : Attributes :=
  company.declareOver (company.custom.insert "id" (.text company.id))

end Company

namespace Context

/-- Set a free attribute of a context. -/
def setAttribute
    (context : Context)
    (name : String)
    (value : Value) :
    Context :=
  { context with other := context.other.insert name value }

/-- The fields of a context: free attributes, then the company, then the user. -/
def fields (context : Context) : Fields :=
  let free := Fields.addGroup .empty "other." context.other
  let withCompany :=
    match context.company with
    | some company => Fields.addGroup free "company." company.targetingAttributes
    | none => free
  match context.user with
  | some user => Fields.addGroup withCompany "user." user.targetingAttributes
  | none => withCompany

end Context

/-- How updates sent along with a feature request mark activity. -/
inductive Tracking where
  | standard
  | active
  | inactive
  | disabled
deriving DecidableEq

namespace Tracking

/-- The activity mark of an update, if it carries one. -/
def activeMark? : Tracking → Option Bool
  | .active => some true
  | .inactive => some false
  | .standard => none
  | .disabled => none

end Tracking

end FeatureFlags
