import UaaAdmin.Admin.Login
import UaaAdmin.Admin.Users
import UaaAdmin.Config.Certificates

/-!
# Sessions

A session is opened with the credentials of a client. The token it is given then goes with all its
requests.
-/

namespace UaaAdmin

/-- An open session. -/
structure Session where
  config : Config
  login : Login
  endpoint : Endpoint
  clientToken : String

namespace Session

/-- The certificates of a configuration can be used. -/
def checkCertificates (config : Config) : Except Fault Unit :=
  if (config.caCert.map Certificates.isAcceptable).getD true then .ok ()
  else .error (.config .badCertificates)

/-- Opens a session. -/
def openWith (config : Config) : Op Session := do
  if config.authUrl = "" then throw (.config .noAuthEndpoint)
  Op.ofExcept (checkCertificates config)
  let login := Login.new config.loginUrl
  let token ← login.clientToken config.clientId config.clientSecret ""
  let endpoint ← Op.ofExcept (Endpoint.new config.authUrl token)
  return ⟨config, login, endpoint, token⟩

/-- Opens a session with the configuration that an environment gives. -/
def openFromEnvironment (env : Environment) : Op Session :=
  match Config.ofEnvironment env with
  | .ok config => openWith config
  | .error why => throw (.config (.environment why))

/-- The administration of users in the session, which shares its endpoint with that of zones. -/
def users (s : Session) : UserAdmin := ⟨s.endpoint, s.endpoint, s.clientToken⟩

end Session

end UaaAdmin
