import UaaAdmin.Fault
import UaaAdmin.NameSet
import UaaAdmin.Text.Inspect
import UaaAdmin.Wire.Client

/-!
# Declared clients

An OAuth client as it is declared: lists are sets, and the zone is part of the declaration. A marker
that the server reports for an empty list is read as the empty set, and neither the secret nor the
zone is ever read back.
-/

namespace UaaAdmin.Declared

/-- The declared state of an OAuth client. -/
structure Client where
  clientId : String := ""
  clientSecret : String := ""
  authorizedGrantTypes : NameSet := ∅
  redirectUri : NameSet := ∅
  scope : NameSet := ∅
  resourceIds : NameSet := ∅
  authorities : NameSet := ∅
  autoapprove : NameSet := ∅
  accessTokenValidity : Int64 := 0
  refreshTokenValidity : Int64 := 0
  allowedProviders : NameSet := ∅
  name : String := ""
  tokenSalt : String := ""
  createdWith : String := ""
  approvalsDeleted : Bool := false
  requiredUserGroups : NameSet := ∅
  zoneId : String := ""
  deriving DecidableEq

namespace Client

instance : Inhabited Client := ⟨{}⟩

/-- The zone of a client that names none. -/
def defaultZone : String := "uaa"

/-- The grant for which a client needs a secret. -/
def secretGrant : String := "client_credentials"

/-- The zone that the client is in. -/
def zone (c : Client) : String := if c.zoneId = "" then defaultZone else c.zoneId

/-- Checks the declaration: there is an id, and a secret if the client needs one. -/
def check (c : Client) : Except Fault Unit :=
  if c.clientId = "" then .error (.validation .noClientId)
  else if secretGrant ∈ c.authorizedGrantTypes ∧ c.clientSecret = "" then
    .error (.validation .noClientSecret)
  else .ok ()

/-- The record of the client. -/
def toWire (c : Client) : Wire.Client where
  clientId := c.clientId
  clientSecret := c.clientSecret
  authorizedGrantTypes := c.authorizedGrantTypes.toList
  redirectUri := c.redirectUri.toList
  scope := c.scope.toList
  resourceIds := c.resourceIds.toList
  authorities := c.authorities.toList
  autoapprove := c.autoapprove.toList
  accessTokenValidity := c.accessTokenValidity
  refreshTokenValidity := c.refreshTokenValidity
  allowedProviders := c.allowedProviders.toList
  name := c.name
  tokenSalt := c.tokenSalt
  createdWith := c.createdWith
  approvalsDeleted := c.approvalsDeleted
  requiredUserGroups := c.requiredUserGroups.toList
  lastModified := 0

/-- The set that a reported list stands for, which is empty if the list is a marker. -/
def reportedSet (values : List String) (isMarker : Bool) : NameSet :=
  if isMarker then ∅ else NameSet.ofList values

/-- The client as the server reports it. Secret and zone stay as they are. -/
def absorb (c : Client) (r : Wire.Client) : Client where
  clientId := r.clientId
  clientSecret := c.clientSecret
  authorizedGrantTypes := NameSet.ofList r.authorizedGrantTypes
  redirectUri := NameSet.ofList r.redirectUri
  scope := reportedSet r.scope r.hasNoScope
  resourceIds := reportedSet r.resourceIds r.hasNoResourceIds
  authorities := reportedSet r.authorities r.hasNoAuthorities
  autoapprove := NameSet.ofList r.autoapprove
  accessTokenValidity := r.accessTokenValidity
  refreshTokenValidity := r.refreshTokenValidity
  allowedProviders := NameSet.ofList r.allowedProviders
  name := r.name
  tokenSalt := r.tokenSalt
  createdWith := r.createdWith
  approvalsDeleted := r.approvalsDeleted
  requiredUserGroups := NameSet.ofList r.requiredUserGroups
  zoneId := c.zoneId

/-- The part of the declaration that the record of the client holds. -/
def settings (c : Client) : Client := { c with clientSecret := "", zoneId := "" }

/-- The secret and the salt are not shown. -/
instance : Text.Inspect Client where
  inspect c := Text.Inspect.record "ClientModel"
    [("client_id", Text.inspect c.clientId),
      ("client_secret", Text.Inspect.redacted),
      ("authorized_grant_types", Text.Inspect.set c.authorizedGrantTypes.toList),
      ("redirect_uri", Text.Inspect.set c.redirectUri.toList),
      ("scope", Text.Inspect.set c.scope.toList),
      ("resource_ids", Text.Inspect.set c.resourceIds.toList),
      ("authorities", Text.Inspect.set c.authorities.toList),
      ("autoapprove", Text.Inspect.set c.autoapprove.toList),
      ("access_token_validity", Text.inspect c.accessTokenValidity),
      ("refresh_token_validity", Text.inspect c.refreshTokenValidity),
      ("allowed_providers", Text.Inspect.set c.allowedProviders.toList),
      ("name", Text.inspect c.name),
      ("created_with", Text.inspect c.createdWith),
      ("approvals_deleted", Text.inspect c.approvalsDeleted),
      ("required_user_groups", Text.Inspect.set c.requiredUserGroups.toList),
      ("zone_id", Text.inspect c.zoneId)] false

end Client

end UaaAdmin.Declared
