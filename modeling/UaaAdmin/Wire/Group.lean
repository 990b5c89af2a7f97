import UaaAdmin.Wire.Record

/-!
# Group records

Groups, memberships, and the envelope in which the server sends a list of records.
-/

namespace UaaAdmin.Wire

/-- A group of users. -/
structure Group where
  id : String := ""
  displayName : String := ""
  description : String := ""
  zoneId : String := ""
  deriving DecidableEq

namespace Group

instance : Inhabited Group := ⟨{}⟩

/-- The fields of a group. -/
@[reducible]
def layout : Layout Group where
  fields := [
    ⟨"id", .sparse, id, fun a s => { s with id := a }⟩,
    ⟨"displayName", .sparse, displayName, fun a s => { s with displayName := a }⟩,
    ⟨"description", .sparse, description, fun a s => { s with description := a }⟩,
    ⟨"zoneId", .sparse, zoneId, fun a s => { s with zoneId := a }⟩]

instance : JsonForm Group := Layout.form layout.fields

end Group

/-- A member of a group. -/
structure Membership where
  origin : String
  kind : String
  value : String
  deriving DecidableEq

namespace Membership

instance : Inhabited Membership := ⟨⟨"", "", ""⟩⟩

/-- The fields of a membership, none of which may be missing. -/
@[reducible]
def layout : Layout Membership where
  fields := [
    ⟨"origin", .required, origin, fun a s => { s with origin := a }⟩,
    ⟨"type", .required, kind, fun a s => { s with kind := a }⟩,
    ⟨"value", .required, value, fun a s => { s with value := a }⟩]

instance : JsonForm Membership := Layout.form layout.fields

/-- The membership of a user. -/
def ofUser (userId origin : String) : Membership :=
  ⟨origin, "USER", userId⟩

end Membership

/-- A list of records in its envelope. -/
structure Listing (α : Type) where
  resources : List α
  deriving DecidableEq

namespace Listing

instance {α : Type} : Inhabited (Listing α) := ⟨⟨[]⟩⟩

/-- The one field of the envelope. -/
@[reducible]
def layout (α : Type) [JsonForm α] : Layout (Listing α) where
  fields := [
    ⟨"resources", .defaulted, resources, fun a _ => ⟨a⟩⟩]
  nodup_names := List.nodup_cons.mpr ⟨List.not_mem_nil, List.nodup_nil⟩

instance {α : Type} [JsonForm α] : JsonForm (Listing α) := Layout.form (layout α).fields

end Listing

end UaaAdmin.Wire
