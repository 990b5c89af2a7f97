import UaaAdmin.Wire.Record

/-!
# Client records

The registration of an OAuth client as the server holds it. For a client without scopes, authorities
or resource ids the server reports a list with one marker in place of an empty one.
-/

namespace UaaAdmin.Wire

/-- An OAuth client registration. -/
structure Client where
  clientId : String := ""
  clientSecret : String := ""
  authorizedGrantTypes : List String := []
  redirectUri : List String := []
  scope : List String := []
  resourceIds : List String := []
  authorities : List String := []
  autoapprove : List String := []
  accessTokenValidity : Int64 := 0
  refreshTokenValidity : Int64 := 0
  allowedProviders : List String := []
  name : String := ""
  tokenSalt : String := ""
  createdWith : String := ""
  approvalsDeleted : Bool := false
  requiredUserGroups : List String := []
  lastModified : Int64 := 0
  deriving DecidableEq

namespace Client

instance : Inhabited Client := ⟨{}⟩

/-- The fields of a client registration. -/
@[reducible]
def layout : Layout Client where
  fields := [
    ⟨"client_id", .sparse, clientId, fun a s => { s with clientId := a }⟩,
    ⟨"client_secret", .sparse, clientSecret, fun a s => { s with clientSecret := a }⟩,
    ⟨"authorized_grant_types", .sparse, authorizedGrantTypes,
      fun a s => { s with authorizedGrantTypes := a }⟩,
    ⟨"redirect_uri", .sparse, redirectUri, fun a s => { s with redirectUri := a }⟩,
    ⟨"scope", .sparse, scope, fun a s => { s with scope := a }⟩,
    ⟨"resource_ids", .sparse, resourceIds, fun a s => { s with resourceIds := a }⟩,
    ⟨"authorities", .sparse, authorities, fun a s => { s with authorities := a }⟩,
    ⟨"autoapprove", .sparse, autoapprove, fun a s => { s with autoapprove := a }⟩,
    ⟨"access_token_validity", .sparse, accessTokenValidity,
      fun a s => { s with accessTokenValidity := a }⟩,
    ⟨"refresh_token_validity", .sparse, refreshTokenValidity,
      fun a s => { s with refreshTokenValidity := a }⟩,
    ⟨"allowedproviders", .sparse, allowedProviders, fun a s => { s with allowedProviders := a }⟩,
    ⟨"name", .sparse, name, fun a s => { s with name := a }⟩,
    ⟨"token_salt", .sparse, tokenSalt, fun a s => { s with tokenSalt := a }⟩,
    ⟨"createdwith", .sparse, createdWith, fun a s => { s with createdWith := a }⟩,
    ⟨"approvals_deleted", .sparse, approvalsDeleted, fun a s => { s with approvalsDeleted := a }⟩,
    ⟨"required_user_groups", .sparse, requiredUserGroups,
      fun a s => { s with requiredUserGroups := a }⟩,
    ⟨"lastModified", .sparse, lastModified, fun a s => { s with lastModified := a }⟩]

instance : JsonForm Client := Layout.form layout.fields

end Client

/-! ## Markers of empty lists -/

/-- The list holds the marker and nothing else. -/
def isMarkerOnly (values : List String) (marker : String) : Bool :=
  values == [marker]

/-- Reported for a client without scopes. -/
def noScope : String := "uaa.none"

/-- Reported for a client without authorities. -/
def noAuthority : String := "uaa.none"

/-- Reported for a client without resource ids. -/
def noResourceId : String := "none"

namespace Client

/-- The scopes are reported as none. -/
def hasNoScope (c : Client) : Bool := isMarkerOnly c.scope noScope

/-- The authorities are reported as none. -/
def hasNoAuthorities (c : Client) : Bool := isMarkerOnly c.authorities noAuthority

/-- The resource ids are reported as none. -/
def hasNoResourceIds (c : Client) : Bool := isMarkerOnly c.resourceIds noResourceId

end Client

end UaaAdmin.Wire
