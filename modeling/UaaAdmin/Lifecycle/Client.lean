import UaaAdmin.Declared.Client
import UaaAdmin.Lifecycle.Handler

/-!
# Lifecycle of clients

A client is read back after every change, because the server may report less than it was sent.
-/

namespace UaaAdmin.Lifecycle.Client

open Declared (Client)

/-- Takes the state of the client from the server. -/
def read (s : Session) : Handler Client Unit := do
  let d ← Handler.snapshot
  let record ← Handler.call (Clients.get s.endpoint d.id d.desired.zone)
  Handler.changeDesired (·.absorb record)

/-- Registers the client. -/
def create (s : Session) : Handler Client Unit := do
  let d ← Handler.snapshot
  Handler.call (Op.ofExcept d.desired.check)
  let zone := d.desired.zone
  let record ← Handler.call (Clients.create s.endpoint d.desired.toWire zone)
  Handler.change fun d =>
    { d with id := record.clientId, desired := { d.desired with zoneId := zone } }
  read s

/-- The settings differ from those before, or there are none before. -/
def settingsDiffer (d : Snapshot Client) : Bool := d.differs (·.settings)

/-- The record that replaces a registration. It carries no secret. -/
def settingsRecord (d : Snapshot Client) : Wire.Client :=
  { d.desired.toWire with clientId := d.id, clientSecret := "" }

/-- The secrets before and after, if the client is to have a new one. A secret is never taken away,
since the server accepts no empty one. -/
def secretChange? (d : Snapshot Client) : Option (String × String) :=
  (d.change (·.clientSecret)).filter fun c => c.2 ≠ ""

/-- Brings the settings and the secret to what is declared, as far as they differ. -/
def update (s : Session) : Handler Client Unit := do
  let d ← Handler.snapshot
  Handler.call (Op.ofExcept d.desired.check)
  let zone := d.desired.zone
  if settingsDiffer d then
    let _ ← Handler.call (Clients.update s.endpoint (settingsRecord d) zone)
  if let some (old, new) := secretChange? d then
    Handler.call (Clients.changeSecret s.endpoint d.id (some old) new zone)
  read s

/-- Removes the client. -/
def delete (s : Session) (d : Snapshot Client) : Op Unit :=
  Clients.delete s.endpoint d.id d.desired.zone

/-- Finds the client by its id. -/
def lookup (s : Session) : Handler Client Unit := do
  let d ← Handler.snapshot
  let record ← Handler.call (Clients.find s.endpoint d.desired.clientId d.desired.zone)
  Handler.change fun d => { d with id := record.clientId, desired := d.desired.absorb record }

/-- What can be done with clients. -/
def handlers : Lifecycle Client where
  check := Declared.Client.check
  create := create
  read := read
  update := update
  delete := delete
  lookup := lookup

end UaaAdmin.Lifecycle.Client
