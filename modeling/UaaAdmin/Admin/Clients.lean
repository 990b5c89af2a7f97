import UaaAdmin.Admin.Endpoint
import UaaAdmin.Admin.Filter
import UaaAdmin.Wire.Client
import UaaAdmin.Wire.Group

/-!
# Administration of clients
-/

namespace UaaAdmin

namespace Op

/-- The operation with a conflict reported as something that is there already. -/
def orExists {α : Type} (op : Op α) (kind key : String) : Op α :=
  tryCatch op fun f => throw (if f.isConflict then .alreadyExists kind key else f)

/-- The first record of a list, if it has one. -/
def firstOf {α : Type} (list : Wire.Listing α) (kind key : String) : Op α :=
  match list.resources with
  | a :: _ => return a
  | [] => throw (.notFound kind key)

end Op

namespace Clients

/-- Where clients stand. -/
def collection : String := "/oauth/clients"

/-- The path of a client. -/
def pathOf (id : String) : String := collection ++ "/" ++ id

/-- Reads a client. -/
def get (e : Endpoint) (id zone : String) : Op Wire.Client :=
  (e.withZone zone).get (pathOf id)

/-- Registers a client. -/
def create (e : Endpoint) (client : Wire.Client) (zone : String) : Op Wire.Client :=
  ((e.withZone zone).post collection client).orExists "client" client.clientId

/-- Replaces the registration of a client. -/
def update (e : Endpoint) (client : Wire.Client) (zone : String) : Op Wire.Client :=
  (e.withZone zone).put (pathOf client.clientId) client

/-- Removes a client. -/
def delete (e : Endpoint) (id zone : String) : Op Unit :=
  (e.withZone zone).delete (pathOf id)

/-- The body of a change of secrets. The old one is left out if it is not known. -/
def secretChange (oldSecret : Option String) (newSecret : String) : Json :=
  .object (((oldSecret.filter (· ≠ "")).map fun old => ("oldSecret", Json.text old)).toList
    ++ [("secret", .text newSecret)])

/-- Gives a client a new secret. -/
def changeSecret (e : Endpoint) (id : String) (oldSecret : Option String)
    (newSecret zone : String) : Op Unit := do
  let _ : Json ← (e.withZone zone).put (pathOf id ++ "/secret") (secretChange oldSecret newSecret)

/-- Looks a client up by its id. -/
def find (e : Endpoint) (clientId zone : String) : Op Wire.Client := do
  let list ← (e.withZone zone).get (filteredPath collection "client_id" clientId)
  Op.firstOf list "Client" clientId

end Clients

end UaaAdmin
