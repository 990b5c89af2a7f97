import UaaAdmin.Admin.Clients

/-!
# Administration of groups
-/

namespace UaaAdmin.Groups

/-- Where groups stand. -/
def collection : String := "/Groups"

/-- The path of a group. -/
def pathOf (id : String) : String := collection ++ "/" ++ id

/-- Creates a group without members. -/
def create (e : Endpoint) (displayName description zone : String) : Op Wire.Group :=
  let group : Wire.Group := { displayName, description, zoneId := zone }
  ((e.withZone zone).post collection group).orExists "group" displayName

/-- Reads a group. -/
def get (e : Endpoint) (id zone : String) : Op Wire.Group :=
  (e.withZone zone).get (pathOf id)

/-- Reads the groups of a zone. -/
def list (e : Endpoint) (zone : String) : Op (List Wire.Group) := do
  let list : Wire.Listing Wire.Group ← (e.withZone zone).get collection
  return list.resources

/-- Replaces a group, whatever its version, so that the last writer wins. -/
def update (e : Endpoint) (id displayName description zone : String) : Op Wire.Group :=
  let group : Wire.Group := { displayName, description }
  ((e.withZone zone).withHeader .ifMatch "*").put (pathOf id) group

/-- Removes a group. -/
def delete (e : Endpoint) (id zone : String) : Op Unit :=
  (e.withZone zone).delete (pathOf id)

/-- Looks a group up by its display name. -/
def find (e : Endpoint) (displayName zone : String) : Op Wire.Group := do
  let list ← (e.withZone zone).get (filteredPath collection "displayName" displayName)
  Op.firstOf list "Group" displayName

/-- The path of the members of a group. -/
def membersPath (groupId : String) : String := pathOf groupId ++ "/members"

/-- Takes a user out of a group. -/
def removeMember (e : Endpoint) (groupId userId zone : String) : Op Unit :=
  (e.withZone zone).delete (membersPath groupId ++ "/" ++ userId)

/-- Puts a member into a group. -/
def addMember (e : Endpoint) (groupId : String) (member : Wire.Membership) (zone : String) :
    Op Unit := do
  let _ : Json ← (e.withZone zone).post (membersPath groupId) member

end UaaAdmin.Groups
