import UaaAdmin.Wire.Record

/-!
# User records
-/

namespace UaaAdmin.Wire

/-- The two parts of a person's name. -/
structure PersonName where
  givenName : String := ""
  familyName : String := ""
  deriving DecidableEq

namespace PersonName

instance : Inhabited PersonName := ⟨{}⟩

/-- The fields of a name, which are always written. -/
@[reducible]
def layout : Layout PersonName where
  fields := [
    ⟨"givenName", .always, givenName, fun a s => { s with givenName := a }⟩,
    ⟨"familyName", .always, familyName, fun a s => { s with familyName := a }⟩]

instance : JsonForm PersonName := Layout.form layout.fields

end PersonName

/-- An email address of a user. -/
structure Email where
  value : String
  deriving DecidableEq

namespace Email

instance : Inhabited Email := ⟨⟨""⟩⟩

/-- The one field of an email, which may not be missing. -/
@[reducible]
def layout : Layout Email where
  fields := [
    ⟨"value", .required, value, fun a s => { s with value := a }⟩]

instance : JsonForm Email := Layout.form layout.fields

end Email

/-- A group as the record of one of its members reports it. -/
structure UserGroup where
  value : String := ""
  display : String := ""
  kind : String := ""
  deriving DecidableEq

namespace UserGroup

instance : Inhabited UserGroup := ⟨{}⟩

/-- The fields of a reported group, which are always written. -/
@[reducible]
def layout : Layout UserGroup where
  fields := [
    ⟨"value", .always, value, fun a s => { s with value := a }⟩,
    ⟨"display", .always, display, fun a s => { s with display := a }⟩,
    ⟨"type", .always, kind, fun a s => { s with kind := a }⟩]

instance : JsonForm UserGroup := Layout.form layout.fields

end UserGroup

/-- A user. -/
structure User where
  id : String := ""
  username : String := ""
  password : String := ""
  origin : String := ""
  name : PersonName := {}
  emails : List Email := []
  groups : List UserGroup := []
  zoneId : String := ""
  deriving DecidableEq

namespace User

instance : Inhabited User := ⟨{}⟩

/-- The fields of a user; the name is written even if it is empty. -/
@[reducible]
def layout : Layout User where
  fields := [
    ⟨"id", .sparse, id, fun a s => { s with id := a }⟩,
    ⟨"userName", .sparse, username, fun a s => { s with username := a }⟩,
    ⟨"password", .sparse, password, fun a s => { s with password := a }⟩,
    ⟨"origin", .sparse, origin, fun a s => { s with origin := a }⟩,
    ⟨"name", .always, name, fun a s => { s with name := a }⟩,
    ⟨"emails", .sparse, emails, fun a s => { s with emails := a }⟩,
    ⟨"groups", .sparse, groups, fun a s => { s with groups := a }⟩,
    ⟨"zoneId", .sparse, zoneId, fun a s => { s with zoneId := a }⟩]

instance : JsonForm User := Layout.form layout.fields

/-- The first email address counts. -/
def primaryEmail? (u : User) : Option String :=
  u.emails.head?.map (·.value)

end User

/-- The part of a user that can be changed as a whole. -/
structure Profile where
  username : String := ""
  givenName : String := ""
  familyName : String := ""
  /-- Empty for a user whose name is the address. -/
  email : String := ""
  deriving DecidableEq

namespace Profile

/-- The address of the user. -/
def address (p : Profile) : String := if p.email = "" then p.username else p.email

/-- The record of a user with this profile and nothing else. -/
def toUser (p : Profile) : User where
  username := p.username
  name := ⟨p.givenName, p.familyName⟩
  emails := [⟨p.address⟩]

end Profile

end UaaAdmin.Wire
