import UaaAdmin.Admin.Groups
import UaaAdmin.Admin.Zones
import UaaAdmin.Wire.User

/-!
# Administration of users

Users, their passwords, and the groups they are in. The groups of a zone are loaded on the first
need and kept in the cache.
-/

namespace UaaAdmin

/-- What the administration of users needs: its own endpoint, the one for identity zones, and the
token of a client that may set passwords without knowing the old ones. -/
structure UserAdmin where
  endpoint : Endpoint
  zones : Endpoint
  clientToken : String

namespace Users

/-- Where users stand. -/
def collection : String := "/Users"

/-- The path of a user. -/
def pathOf (id : String) : String := collection ++ "/" ++ id

/-! ## Groups of a zone -/

/-- The cache entry of the groups and the record of a zone. -/
def entryOf (list : Wire.Listing Wire.Group) (zone : Wire.Zone) : ZoneGroups :=
  ZoneGroups.ofLists (list.resources.map fun g => (g.displayName, g.id)) zone.defaultGroups

/-- The groups of a zone, which are loaded unless they are in the cache. Nothing is kept of a load
that fails. -/
def loadGroups (a : UserAdmin) (zone : String) : Op ZoneGroups := do
  match (← getThe Connection).groups.get? zone with
  | some groups => return groups
  | none =>
    let list ← (a.endpoint.withZone zone).get Groups.collection
    let record ← Zones.get a.zones zone
    -- The cache is written only here, when both answers have been read.
    let c ← getThe Connection
    let (entry, groups) := c.groups.insert zone (entryOf list record)
    set { c with groups := groups }
    return entry

/-- Whether every user of a zone is in a group. -/
def isDefaultGroup (a : UserAdmin) (zone group : String) : Op Bool := do
  return (← loadGroups a zone).isDefault group

/-! ## Users -/

/-- Reads a user. -/
def get (a : UserAdmin) (id zone : String) : Op Wire.User :=
  (a.endpoint.withZone zone).get (pathOf id)

/-- Creates a user. -/
def create (a : UserAdmin) (profile : Wire.Profile) (password origin zone : String) :
    Op Wire.User :=
  let user := { profile.toUser with password, origin }
  ((a.endpoint.withZone zone).post collection user).orExists "user" profile.username

/-- Replaces the profile of a user, whatever its version. -/
def update (a : UserAdmin) (id : String) (profile : Wire.Profile) (zone : String) : Op Wire.User :=
  ((a.endpoint.withZone zone).withHeader .ifMatch "*").put (pathOf id) profile.toUser

/-- Removes a user. -/
def delete (a : UserAdmin) (id zone : String) : Op Unit :=
  (a.endpoint.withZone zone).delete (pathOf id)

/-- The body of a change of passwords. -/
def passwordChange (oldPassword : Option String) (newPassword : String) : Json :=
  .object ((oldPassword.map fun old => ("oldPassword", Json.text old)).toList
    ++ [("password", .text newPassword)])

/-- Gives a user a new password. If the old one is not known, the request is made with the token of
the client, for which the server accepts it. -/
def changePassword (a : UserAdmin) (id : String) (oldPassword : Option String)
    (newPassword zone : String) : Op Unit := do
  -- An empty old password counts as one that is not known.
  let oldPassword := oldPassword.filter (· ≠ "")
  let e := a.endpoint.withZone zone
  let e := if oldPassword.isNone then e.withHeader .authorization a.clientToken else e
  let _ : Json ← e.put (pathOf id ++ "/password") (passwordChange oldPassword newPassword)

/-- Looks a user up by its name. -/
def find (a : UserAdmin) (username zone : String) : Op Wire.User := do
  let list ← (a.endpoint.withZone zone).get (filteredPath collection "userName" username)
  Op.firstOf list "User" username

/-! ## Membership -/

/-- The id of a group by its name. -/
def resolve (groups : ZoneGroups) (zone name : String) : Except Fault String :=
  match groups.groupId? name with
  | some id => .ok id
  | none => .error (.groupNotFound zone name)

/-- The ids of groups by their names; the first unknown name is reported. -/
def resolveAll (groups : ZoneGroups) (zone : String) : List String → Except Fault (List String)
  | [] => .ok []
  | name :: names => do
    let id ← resolve groups zone name
    let ids ← resolveAll groups zone names
    return id :: ids

/-- Takes a user out of some groups, one after the other. -/
def removeAll (e : Endpoint) (userId zone : String) : List String → Op Unit
  | [] => return ()
  | id :: ids => do
    Groups.removeMember e id userId zone
    removeAll e userId zone ids

/-- Puts a member into some groups, one after the other. -/
def addAll (e : Endpoint) (member : Wire.Membership) (zone : String) : List String → Op Unit
  | [] => return ()
  | id :: ids => do
    Groups.addMember e id member zone
    addAll e member zone ids

/-- Takes a user out of the groups `toDelete` and then puts it into the groups `toAdd`. All names
are resolved before anything is changed. -/
def updateRoles (a : UserAdmin) (userId : String) (toDelete toAdd : List String)
    (origin zone : String) : Op Unit := do
  let groups ← loadGroups a zone
  let deleteIds ← Op.ofExcept (resolveAll groups zone toDelete)
  let addIds ← Op.ofExcept (resolveAll groups zone toAdd)
  removeAll a.endpoint userId zone deleteIds
  addAll a.endpoint (Wire.Membership.ofUser userId origin) zone addIds

end Users

end UaaAdmin
