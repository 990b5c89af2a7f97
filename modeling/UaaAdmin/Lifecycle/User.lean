import UaaAdmin.Declared.User
import UaaAdmin.Lifecycle.Handler

/-!
# Lifecycle of users

A user comes with the groups it is in. Groups are compared by name with those before; the zone's
default groups are hidden when a user is read, so that they are never taken for declared ones.
-/

namespace UaaAdmin.Lifecycle.User

open Declared (User)

/-! ## Membership -/

/-- The names of the groups in which the user was before. -/
def oldGroups (d : Snapshot User) : NameSet := (d.prior.map (·.groups)).getD ∅

/-- Brings the membership of the user to what is declared, as far as it differs. -/
def syncRoles (a : UserAdmin) (d : Snapshot User) : Op Unit := do
  let (toDelete, toAdd) := listChanges (oldGroups d) d.desired.groups
  if toDelete.isEmpty && toAdd.isEmpty then return ()
  else Users.updateRoles a d.id toDelete toAdd d.desired.provider d.desired.zoneId

/-- Adds the names of the reported groups to `found` that are no default groups of the zone. -/
def extraGroups (a : UserAdmin) (zone : String) (found : NameSet) :
    List Wire.UserGroup → Op NameSet
  | [] => return found
  | g :: gs => do
    let found := if ← Users.isDefaultGroup a zone g.display then found else found.insert g.display
    extraGroups a zone found gs

/-! ## Handlers -/

/-- Creates the user and puts it into its groups. -/
def create (s : Session) : Handler User Unit := do
  Handler.changeDesired fun u => if u.email = "" then { u with email := u.username } else u
  let d ← Handler.snapshot
  let record ← Handler.call
    (Users.create s.users d.desired.profile d.desired.password d.desired.provider
      d.desired.zoneId)
  Handler.change fun d =>
    { d with
      id := record.id
      desired := { d.desired with zoneId := Declared.reportedOr d.desired.zoneId record.zoneId } }
  Handler.call (syncRoles s.users (← Handler.snapshot))

/-- Takes the state of the user from the server. If the user cannot be read its id is dropped, which
tells the host that it has to be created again. -/
def read (s : Session) : Handler User Unit := do
  let d ← Handler.snapshot
  let zone := d.desired.zoneId
  let record ← tryCatch (Handler.call (Users.get s.users d.id zone)) fun f => do
    Handler.change fun d => { d with id := "" }
    throw f
  Handler.changeDesired (·.absorb record)
  let groups ← Handler.call (extraGroups s.users zone ∅ record.groups)
  Handler.changeDesired fun u => { u with groups }

/-- The profile differs from the one before, or there is none before. -/
def profileDiffers (d : Snapshot User) : Bool :=
  let (_, modified) := d.changedValue (·.username) false
  let (_, modified) := d.changedValue (·.givenName) modified
  let (_, modified) := d.changedValue (·.familyName) modified
  (d.changedValue (·.email) modified).2

/-- Brings profile, password and membership to what is declared, as far as they differ. -/
def update (s : Session) : Handler User Unit := do
  let d ← Handler.snapshot
  let zone := d.desired.zoneId
  if profileDiffers d then
    let _ ← Handler.call (Users.update s.users d.id d.desired.profile zone)
  if let some (old, new) := d.change (·.password) then
    let old := if old = "" then none else some old
    Handler.call (Users.changePassword s.users d.id old new zone)
  Handler.call (syncRoles s.users d)

/-- Removes the user. A fault is passed over, so that a user who is gone already does not stand in
the way. -/
def delete (s : Session) (d : Snapshot User) : Op Unit :=
  tryCatch (Users.delete s.users d.id d.desired.zoneId) fun _ => return ()

/-- Finds the user by its name. Its groups are not looked at. -/
def lookup (s : Session) : Handler User Unit := do
  let d ← Handler.snapshot
  let record ← Handler.call (Users.find s.users d.desired.username d.desired.zoneId)
  Handler.change fun d => { d with id := record.id, desired := d.desired.absorb record }

/-- What can be done with users; every declaration is acceptable. -/
def handlers : Lifecycle User where
  check _ := .ok ()
  create := create
  read := read
  update := update
  delete := delete
  lookup := lookup

end UaaAdmin.Lifecycle.User
