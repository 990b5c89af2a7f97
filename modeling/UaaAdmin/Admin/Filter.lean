import UaaAdmin.Text.Percent

/-!
# Filters

A look-up by name asks the server for the records in which an attribute has a given value.
-/

namespace UaaAdmin

/-- The comparison of an attribute with a value. -/
def equalityFilter (name value : String) : String :=
  name ++ " Eq \x22" ++ value ++ "\x22"

/-- The comparison as a part of an address. -/
def encodedFilter (name value : String) : String :=
  Text.Percent.component (equalityFilter name value)

/-- The path of a collection, filtered by an attribute. -/
def filteredPath (collection name value : String) : String :=
  collection ++ "?filter=" ++ encodedFilter name value

end UaaAdmin
