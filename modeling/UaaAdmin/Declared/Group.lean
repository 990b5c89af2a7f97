import UaaAdmin.Text.Inspect
import UaaAdmin.Wire.Group

/-!
# Declared groups
-/

namespace UaaAdmin.Declared

/-- `reported`, or `kept` if nothing is reported. -/
def reportedOr (kept reported : String) : String := if reported = "" then kept else reported

/-- The declared state of a group. -/
structure Group where
  displayName : String := ""
  description : String := ""
  /-- Reported by the server if it is left empty. -/
  zoneId : String := ""
  deriving DecidableEq

namespace Group

instance : Inhabited Group := ⟨{}⟩

/-- The group as the server reports it. The zone stays if none is reported. -/
def absorb (g : Group) (r : Wire.Group) : Group where
  displayName := r.displayName
  description := r.description
  zoneId := reportedOr g.zoneId r.zoneId

instance : Text.Inspect Group where
  inspect g := Text.Inspect.record "GroupModel"
    [("display_name", Text.inspect g.displayName), ("description", Text.inspect g.description),
      ("zone_id", Text.inspect g.zoneId)] true

end Group

end UaaAdmin.Declared
