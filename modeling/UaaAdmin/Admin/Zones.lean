import UaaAdmin.Admin.Clients
import UaaAdmin.Wire.Zone

/-!
# Administration of identity zones

Zones are administered from outside: these requests are made in no zone.
-/

namespace UaaAdmin.Zones

/-- Where zones stand. -/
def collection : String := "/identity-zones"

/-- The path of a zone. -/
def pathOf (id : String) : String := collection ++ "/" ++ id

/-- Creates a zone. -/
def create (e : Endpoint) (zone : Wire.Zone) : Op Wire.Zone :=
  (e.post collection zone : Op Wire.Zone).orExists "identity zone" zone.name

/-- Reads a zone. -/
def get (e : Endpoint) (id : String) : Op Wire.Zone := e.get (pathOf id)

/-- Looks a zone up by its name. The server's filter may let others through, so the name is compared
again. -/
def find (e : Endpoint) (name : String) : Op Wire.Zone := do
  let zones : List Wire.Zone ← e.get (filteredPath collection "name" name)
  match zones.find? (·.name == name) with
  | some zone => return zone
  | none => throw (.notFound "Identity Zone" name)

/-- Replaces a zone. -/
def update (e : Endpoint) (id : String) (zone : Wire.Zone) : Op Wire.Zone :=
  e.put (pathOf id) zone

/-- Removes a zone. -/
def delete (e : Endpoint) (id : String) : Op Unit := e.delete (pathOf id)

end UaaAdmin.Zones
