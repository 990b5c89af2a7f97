import UaaAdmin.Declared.Group
import UaaAdmin.NameSet
import UaaAdmin.Wire.User

/-!
# Declared users

A user as it is declared, with the groups that it is in besides those that every user of its zone is
in. The password is never read back, and the groups only by a look at the zone.
-/

namespace UaaAdmin.Declared

/-- The declared state of a user. -/
structure User where
  username : String := ""
  password : String := ""
  origin : String := ""
  givenName : String := ""
  familyName : String := ""
  /-- Taken from the user name on creation if it is left empty. -/
  email : String := ""
  /-- Display names of the groups, without the zone's default groups. -/
  groups : NameSet := ∅
  zoneId : String := ""
  deriving DecidableEq

namespace User

instance : Inhabited User := ⟨{}⟩

/-- The origin of users that no other provider manages. -/
def defaultOrigin : String := "uaa"

/-- The provider that manages the user. -/
def provider (u : User) : String := if u.origin = "" then defaultOrigin else u.origin

/-- The part of the user that can be changed as a whole. -/
def profile (u : User) : Wire.Profile where
  username := u.username
  givenName := u.givenName
  familyName := u.familyName
  email := u.email

/-- The user as the server reports it. Password and groups stay as they are, and the zone if none is
reported. -/
def absorb (u : User) (r : Wire.User) : User where
  username := r.username
  password := u.password
  origin := r.origin
  givenName := r.name.givenName
  familyName := r.name.familyName
  email := r.primaryEmail?.getD ""
  groups := u.groups
  zoneId := reportedOr u.zoneId r.zoneId

/-- The password is not shown. -/
instance : Text.Inspect User where
  inspect u := Text.Inspect.record "UserModel"
    [("username", Text.inspect u.username),
      ("password", Text.Inspect.redacted),
      ("origin", Text.inspect u.origin),
      ("given_name", Text.inspect u.givenName),
      ("family_name", Text.inspect u.familyName),
      ("email", Text.inspect u.email),
      ("groups", Text.Inspect.set u.groups.toList),
      ("zone_id", Text.inspect u.zoneId)] true

end User

end UaaAdmin.Declared
