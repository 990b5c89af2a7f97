import UaaAdmin.Admin.Session
import UaaAdmin.Lifecycle.Snapshot

/-!
# Handlers

A handler brings the server and a snapshot together: it makes requests and writes what the server
reports into the snapshot. What it wrote before a fault stays written.
-/

namespace UaaAdmin

/-- A step on the snapshot of an object with declared state `M`. -/
abbrev Handler (M α : Type) : Type :=
  ExceptT Fault (StateT (Snapshot M) (StateM Connection)) α

namespace Handler

variable {M α : Type}

/-- Runs a handler: its result or fault, the snapshot after it, and the connection. -/
def runOn (h : Handler M α) (s : Snapshot M) (c : Connection) :
    Except Fault α × Snapshot M × Connection :=
  let ((r, s), c) := ((ExceptT.run h).run s).run c
  (r, s, c)

/-- An operation, which leaves the snapshot as it is. -/
def call (op : Op α) : Handler M α :=
  ExceptT.mk fun s c =>
    let (r, c) := op.runOn c
    ((r, s), c)

/-- The snapshot as it is now. -/
def snapshot : Handler M (Snapshot M) := getThe (Snapshot M)

/-- Changes the snapshot. -/
def change (f : Snapshot M → Snapshot M) : Handler M Unit := modifyThe (Snapshot M) f

/-- Changes the declared state. -/
def changeDesired (f : M → M) : Handler M Unit :=
  change fun s => { s with desired := f s.desired }

end Handler

/-- What can be done with the objects of one kind. -/
structure Lifecycle (M : Type) where
  /-- Checks a declaration before any request. -/
  check : M → Except Fault Unit
  /-- Puts the object on the server. -/
  create : Session → Handler M Unit
  /-- Takes the state of the object from the server. -/
  read : Session → Handler M Unit
  /-- Brings the object on the server to its declared state. -/
  update : Session → Handler M Unit
  /-- Removes the object from the server. -/
  delete : Session → Snapshot M → Op Unit
  /-- Finds an object by its natural key, and takes its id and state from the server. -/
  lookup : Session → Handler M Unit

end UaaAdmin
