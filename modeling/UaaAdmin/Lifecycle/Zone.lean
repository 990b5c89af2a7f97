import UaaAdmin.Declared.Zone
import UaaAdmin.Lifecycle.Handler

/-!
# Lifecycle of identity zones

A zone is sent as a whole, and the declared state becomes what the server answers.
-/

namespace UaaAdmin.Lifecycle.Zone

open Declared (Zone)

/-- Creates the zone. -/
def create (s : Session) : Handler Zone Unit := do
  let d ← Handler.snapshot
  let record ← Handler.call (Zones.create s.endpoint (d.desired.toWire d.id))
  Handler.change fun d => { d with id := record.id, desired := Zone.ofWire record }

/-- Takes the state of the zone from the server. -/
def read (s : Session) : Handler Zone Unit := do
  let d ← Handler.snapshot
  let record ← Handler.call (Zones.get s.endpoint d.id)
  Handler.changeDesired fun _ => Zone.ofWire record

/-- Brings the zone to its declared state. -/
def update (s : Session) : Handler Zone Unit := do
  let d ← Handler.snapshot
  let record ← Handler.call (Zones.update s.endpoint d.id (d.desired.toWire d.id))
  Handler.changeDesired fun _ => Zone.ofWire record

/-- Removes the zone. -/
def delete (s : Session) (d : Snapshot Zone) : Op Unit := Zones.delete s.endpoint d.id

/-- Finds the zone by its name. -/
def lookup (s : Session) : Handler Zone Unit := do
  let d ← Handler.snapshot
  let record ← Handler.call (Zones.find s.endpoint d.desired.name)
  Handler.change fun d => { d with id := record.id, desired := Zone.ofWire record }

/-- What can be done with zones; every declaration is acceptable. -/
def handlers : Lifecycle Zone where
  check _ := .ok ()
  create := create
  read := read
  update := update
  delete := delete
  lookup := lookup

end UaaAdmin.Lifecycle.Zone
