import UaaAdmin.Declared.Group
import UaaAdmin.Lifecycle.Handler

/-!
# Lifecycle of groups
-/

namespace UaaAdmin.Lifecycle.Group

open Declared (Group)

/-- Creates the group. -/
def create (s : Session) : Handler Group Unit := do
  let d ← Handler.snapshot
  let record ← Handler.call
    (Groups.create s.endpoint d.desired.displayName d.desired.description d.desired.zoneId)
  Handler.change fun d => { d with id := record.id, desired := d.desired.absorb record }

/-- Takes the state of the group from the server. -/
def read (s : Session) : Handler Group Unit := do
  let d ← Handler.snapshot
  let record ← Handler.call (Groups.get s.endpoint d.id d.desired.zoneId)
  Handler.changeDesired (·.absorb record)

/-- Brings name and description to what is declared, if one of them differs. -/
def update (s : Session) : Handler Group Unit := do
  let d ← Handler.snapshot
  let (displayName, modified) := d.changedValue (·.displayName) false
  let (description, modified) := d.changedValue (·.description) modified
  if modified then
    let record ← Handler.call
      (Groups.update s.endpoint d.id displayName description d.desired.zoneId)
    Handler.changeDesired (·.absorb record)

/-- Removes the group. -/
def delete (s : Session) (d : Snapshot Group) : Op Unit :=
  Groups.delete s.endpoint d.id d.desired.zoneId

/-- Finds the group by its display name. -/
def lookup (s : Session) : Handler Group Unit := do
  let d ← Handler.snapshot
  let record ← Handler.call (Groups.find s.endpoint d.desired.displayName d.desired.zoneId)
  Handler.change fun d => { d with id := record.id, desired := d.desired.absorb record }

/-- What can be done with groups; every declaration is acceptable. -/
def handlers : Lifecycle Group where
  check _ := .ok ()
  create := create
  read := read
  update := update
  delete := delete
  lookup := lookup

end UaaAdmin.Lifecycle.Group
