import UaaAdmin.Wire.Record

/-!
# Identity zone records

An identity zone and the parts of its configuration. A part that is absent is left out, and is not
the same as a part whose fields are all empty.
-/

namespace UaaAdmin.Wire

/-! ## Branding -/

/-- The banner over the login page. -/
structure Banner where
  backgroundColor : String := ""
  logo : String := ""
  text : String := ""
  textColor : String := ""
  url : String := ""
  deriving DecidableEq

namespace Banner

instance : Inhabited Banner := ⟨{}⟩

/-- The fields of a banner. -/
@[reducible]
def layout : Layout Banner where
  fields := [
    ⟨"backgroundColor", .sparse, backgroundColor, fun a s => { s with backgroundColor := a }⟩,
    ⟨"logo", .sparse, logo, fun a s => { s with logo := a }⟩,
    ⟨"text", .sparse, text, fun a s => { s with text := a }⟩,
    ⟨"textColor", .sparse, textColor, fun a s => { s with textColor := a }⟩,
    ⟨"link", .sparse, url, fun a s => { s with url := a }⟩]

instance : JsonForm Banner := Layout.form layout.fields

end Banner

/-- How the pages of a zone look. -/
structure Branding where
  banner : Option Banner := none
  companyName : String := ""
  companyLogo : String := ""
  favicon : String := ""
  footerText : String := ""
  footerLinks : NameMap String := ∅
  deriving DecidableEq

namespace Branding

instance : Inhabited Branding := ⟨{}⟩

/-- The fields of the branding. -/
@[reducible]
def layout : Layout Branding where
  fields := [
    ⟨"banner", .optional, banner, fun a s => { s with banner := a }⟩,
    ⟨"companyName", .sparse, companyName, fun a s => { s with companyName := a }⟩,
    ⟨"productLogo", .sparse, companyLogo, fun a s => { s with companyLogo := a }⟩,
    ⟨"squareLogo", .sparse, favicon, fun a s => { s with favicon := a }⟩,
    ⟨"footerLegalText", .sparse, footerText, fun a s => { s with footerText := a }⟩,
    ⟨"footerLinks", .sparse, footerLinks, fun a s => { s with footerLinks := a }⟩]

instance : JsonForm Branding := Layout.form layout.fields

end Branding

/-! ## Policies -/

/-- Rules for client secrets; an absent one leaves the server's own rule. -/
structure SecretPolicy where
  maxLength : Option Int64 := none
  minLength : Option Int64 := none
  minUpperCase : Option Int64 := none
  minLowerCase : Option Int64 := none
  minDigits : Option Int64 := none
  minSpecial : Option Int64 := none
  deriving DecidableEq

namespace SecretPolicy

instance : Inhabited SecretPolicy := ⟨{}⟩

/-- The fields of the secret policy. -/
@[reducible]
def layout : Layout SecretPolicy where
  fields := [
    ⟨"maxLength", .optional, maxLength, fun a s => { s with maxLength := a }⟩,
    ⟨"minLength", .optional, minLength, fun a s => { s with minLength := a }⟩,
    ⟨"requireUpperCaseCharacter", .optional, minUpperCase, fun a s => { s with minUpperCase := a }⟩,
    ⟨"requireLowerCaseCharacter", .optional, minLowerCase, fun a s => { s with minLowerCase := a }⟩,
    ⟨"requireDigit", .optional, minDigits, fun a s => { s with minDigits := a }⟩,
    ⟨"requireSpecialCharacter", .optional, minSpecial, fun a s => { s with minSpecial := a }⟩]

instance : JsonForm SecretPolicy := Layout.form layout.fields

end SecretPolicy

/-- Which requests from other sites are allowed. -/
structure CorsRule where
  allowedOrigins : List String := []
  allowedOriginPatterns : List String := []
  allowedUris : List String := []
  allowedUriPatterns : List String := []
  allowedHeaders : List String := []
  allowedMethods : List String := []
  allowedCredentials : Bool := false
  maxAge : Option Int64 := none
  deriving DecidableEq

namespace CorsRule

instance : Inhabited CorsRule := ⟨{}⟩

/-- The fields of a rule; whether credentials are allowed is always written. -/
@[reducible]
def layout : Layout CorsRule where
  fields := [
    ⟨"allowedOrigins", .sparse, allowedOrigins, fun a s => { s with allowedOrigins := a }⟩,
    ⟨"allowedOriginPatterns", .sparse, allowedOriginPatterns,
      fun a s => { s with allowedOriginPatterns := a }⟩,
    ⟨"allowedUris", .sparse, allowedUris, fun a s => { s with allowedUris := a }⟩,
    ⟨"allowedUriPatterns", .sparse, allowedUriPatterns,
      fun a s => { s with allowedUriPatterns := a }⟩,
    ⟨"allowedHeaders", .sparse, allowedHeaders, fun a s => { s with allowedHeaders := a }⟩,
    ⟨"allowedMethods", .sparse, allowedMethods, fun a s => { s with allowedMethods := a }⟩,
    ⟨"allowedCredentials", .always, allowedCredentials,
      fun a s => { s with allowedCredentials := a }⟩,
    ⟨"maxAge", .optional, maxAge, fun a s => { s with maxAge := a }⟩]

instance : JsonForm CorsRule := Layout.form layout.fields

end CorsRule

/-- The rules for plain and for scripted requests. -/
structure CorsPolicy where
  standard : Option CorsRule := none
  xhr : Option CorsRule := none
  deriving DecidableEq

namespace CorsPolicy

instance : Inhabited CorsPolicy := ⟨{}⟩

/-- The fields of the policy. -/
@[reducible]
def layout : Layout CorsPolicy where
  fields := [
    ⟨"defaultConfiguration", .optional, standard, fun a s => { s with standard := a }⟩,
    ⟨"xhrConfiguration", .optional, xhr, fun a s => { s with xhr := a }⟩]

instance : JsonForm CorsPolicy := Layout.form layout.fields

end CorsPolicy

/-- How tokens are issued. -/
structure TokenPolicy where
  accessTokenTtl : Option Int64 := none
  refreshTokenTtl : Option Int64 := none
  isJwtRevocable : Bool := false
  isRefreshTokenUnique : Bool := false
  refreshTokenFormat : String := ""
  activeKeyId : String := ""
  deriving DecidableEq

namespace TokenPolicy

instance : Inhabited TokenPolicy := ⟨{}⟩

/-- The fields of the policy. -/
@[reducible]
def layout : Layout TokenPolicy where
  fields := [
    ⟨"accessTokenValidity", .optional, accessTokenTtl, fun a s => { s with accessTokenTtl := a }⟩,
    ⟨"refreshTokenValidity", .optional, refreshTokenTtl,
      fun a s => { s with refreshTokenTtl := a }⟩,
    ⟨"jwtRevocable", .always, isJwtRevocable, fun a s => { s with isJwtRevocable := a }⟩,
    ⟨"refreshTokenUnique", .always, isRefreshTokenUnique,
      fun a s => { s with isRefreshTokenUnique := a }⟩,
    ⟨"refreshTokenFormat", .sparse, refreshTokenFormat,
      fun a s => { s with refreshTokenFormat := a }⟩,
    ⟨"activeKeyId", .sparse, activeKeyId, fun a s => { s with activeKeyId := a }⟩]

instance : JsonForm TokenPolicy := Layout.form layout.fields

end TokenPolicy

/-! ## SAML -/

/-- A key of the SAML service. -/
structure SamlKey where
  certificate : String := ""
  deriving DecidableEq

namespace SamlKey

instance : Inhabited SamlKey := ⟨{}⟩

/-- The one field of a key. -/
@[reducible]
def layout : Layout SamlKey where
  fields := [
    ⟨"certificate", .sparse, certificate, fun a s => { s with certificate := a }⟩]

instance : JsonForm SamlKey := Layout.form layout.fields

end SamlKey

/-- The SAML service of a zone. -/
structure SamlConfig where
  activeKeyId : String := ""
  assertionTtlSeconds : Option Int64 := none
  certificate : String := ""
  disableInResponseToCheck : Bool := false
  entityId : String := ""
  isAssertionSigned : Bool := false
  isRequestSigned : Bool := false
  keys : NameMap SamlKey := ∅
  wantAssertionSigned : Bool := false
  wantAuthnRequestSigned : Bool := false
  deriving DecidableEq

namespace SamlConfig

instance : Inhabited SamlConfig := ⟨{}⟩

/-- The fields of the service. -/
@[reducible]
def layout : Layout SamlConfig where
  fields := [
    ⟨"activeKeyId", .sparse, activeKeyId, fun a s => { s with activeKeyId := a }⟩,
    ⟨"assertionTimeToLiveSeconds", .optional, assertionTtlSeconds,
      fun a s => { s with assertionTtlSeconds := a }⟩,
    ⟨"certificate", .sparse, certificate, fun a s => { s with certificate := a }⟩,
    ⟨"disableInResponseToCheck", .always, disableInResponseToCheck,
      fun a s => { s with disableInResponseToCheck := a }⟩,
    ⟨"entityID", .sparse, entityId, fun a s => { s with entityId := a }⟩,
    ⟨"assertionSigned", .always, isAssertionSigned, fun a s => { s with isAssertionSigned := a }⟩,
    ⟨"requestSigned", .always, isRequestSigned, fun a s => { s with isRequestSigned := a }⟩,
    ⟨"keys", .sparse, keys, fun a s => { s with keys := a }⟩,
    ⟨"wantAssertionSigned", .always, wantAssertionSigned,
      fun a s => { s with wantAssertionSigned := a }⟩,
    ⟨"wantAuthnRequestSigned", .always, wantAuthnRequestSigned,
      fun a s => { s with wantAuthnRequestSigned := a }⟩]

instance : JsonForm SamlConfig := Layout.form layout.fields

end SamlConfig

/-! ## Links -/

/-- Where a user goes after logging out. -/
structure LogoutLinks where
  redirectUrl : String := ""
  redirectParameterName : String := ""
  allowedRedirectUrls : List String := []
  deriving DecidableEq

namespace LogoutLinks

instance : Inhabited LogoutLinks := ⟨{}⟩

/-- The fields of the logout links. The allowed addresses are always written, because the server
takes a missing list for something else than an empty one. -/
@[reducible]
def layout : Layout LogoutLinks where
  fields := [
    ⟨"redirectUrl", .sparse, redirectUrl, fun a s => { s with redirectUrl := a }⟩,
    ⟨"redirectParameterName", .sparse, redirectParameterName,
      fun a s => { s with redirectParameterName := a }⟩,
    ⟨"whitelist", .always, allowedRedirectUrls, fun a s => { s with allowedRedirectUrls := a }⟩]

instance : JsonForm LogoutLinks := Layout.form layout.fields

end LogoutLinks

/-- Where a user registers or asks for a new password. -/
structure SelfServiceLinks where
  enabled : Bool := false
  signupUrl : String := ""
  passwordResetUrl : String := ""
  deriving DecidableEq

namespace SelfServiceLinks

instance : Inhabited SelfServiceLinks := ⟨{}⟩

/-- The fields of the self-service links. -/
@[reducible]
def layout : Layout SelfServiceLinks where
  fields := [
    ⟨"selfServiceLinksEnabled", .always, enabled, fun a s => { s with enabled := a }⟩,
    ⟨"signup", .sparse, signupUrl, fun a s => { s with signupUrl := a }⟩,
    ⟨"passwd", .sparse, passwordResetUrl, fun a s => { s with passwordResetUrl := a }⟩]

instance : JsonForm SelfServiceLinks := Layout.form layout.fields

end SelfServiceLinks

/-- The addresses that the pages of a zone lead to. -/
structure Links where
  homeRedirect : String := ""
  logout : Option LogoutLinks := none
  selfService : Option SelfServiceLinks := none
  deriving DecidableEq

namespace Links

instance : Inhabited Links := ⟨{}⟩

/-- The fields of the links. -/
@[reducible]
def layout : Layout Links where
  fields := [
    ⟨"homeRedirect", .sparse, homeRedirect, fun a s => { s with homeRedirect := a }⟩,
    ⟨"logout", .optional, logout, fun a s => { s with logout := a }⟩,
    ⟨"selfService", .optional, selfService, fun a s => { s with selfService := a }⟩]

instance : JsonForm Links := Layout.form layout.fields

end Links

/-! ## Small parts -/

/-- A question of the login page. -/
structure Prompt where
  name : String := ""
  kind : String := ""
  value : String := ""
  deriving DecidableEq

namespace Prompt

instance : Inhabited Prompt := ⟨{}⟩

/-- The fields of a prompt. -/
@[reducible]
def layout : Layout Prompt where
  fields := [
    ⟨"name", .sparse, name, fun a s => { s with name := a }⟩,
    ⟨"type", .sparse, kind, fun a s => { s with kind := a }⟩,
    ⟨"text", .sparse, value, fun a s => { s with value := a }⟩]

instance : JsonForm Prompt := Layout.form layout.fields

end Prompt

/-- What new users of a zone are given. -/
structure UserDefaults where
  defaultGroups : List String := []
  deriving DecidableEq

namespace UserDefaults

instance : Inhabited UserDefaults := ⟨{}⟩

/-- The one field of the user defaults. -/
@[reducible]
def layout : Layout UserDefaults where
  fields := [
    ⟨"defaultGroups", .sparse, defaultGroups, fun a s => { s with defaultGroups := a }⟩]

instance : JsonForm UserDefaults := Layout.form layout.fields

end UserDefaults

/-- Multi-factor authentication. -/
structure MfaConfig where
  isEnabled : Bool := false
  identityProviders : List String := []
  deriving DecidableEq

namespace MfaConfig

instance : Inhabited MfaConfig := ⟨{}⟩

/-- The fields of the configuration. -/
@[reducible]
def layout : Layout MfaConfig where
  fields := [
    ⟨"enabled", .always, isEnabled, fun a s => { s with isEnabled := a }⟩,
    ⟨"identityProviders", .sparse, identityProviders, fun a s => { s with identityProviders := a }⟩]

instance : JsonForm MfaConfig := Layout.form layout.fields

end MfaConfig

/-! ## Zones -/

/-- The configuration of a zone. -/
structure ZoneConfig where
  accountChooserEnabled : Bool := false
  branding : Option Branding := none
  secretPolicy : Option SecretPolicy := none
  corsPolicy : Option CorsPolicy := none
  idpDiscoveryEnabled : Bool := false
  prompts : List Prompt := []
  issuerUrl : String := ""
  links : Option Links := none
  mfa : Option MfaConfig := none
  tokenPolicy : Option TokenPolicy := none
  saml : Option SamlConfig := none
  userDefaults : Option UserDefaults := none
  deriving DecidableEq

namespace ZoneConfig

instance : Inhabited ZoneConfig := ⟨{}⟩

/-- The fields of the configuration. -/
@[reducible]
def layout : Layout ZoneConfig where
  fields := [
    ⟨"accountChooserEnabled", .always, accountChooserEnabled,
      fun a s => { s with accountChooserEnabled := a }⟩,
    ⟨"branding", .optional, branding, fun a s => { s with branding := a }⟩,
    ⟨"clientSecretPolicy", .optional, secretPolicy, fun a s => { s with secretPolicy := a }⟩,
    ⟨"corsPolicy", .optional, corsPolicy, fun a s => { s with corsPolicy := a }⟩,
    ⟨"idpDiscoveryEnabled", .always, idpDiscoveryEnabled,
      fun a s => { s with idpDiscoveryEnabled := a }⟩,
    ⟨"prompts", .sparse, prompts, fun a s => { s with prompts := a }⟩,
    ⟨"issuer", .sparse, issuerUrl, fun a s => { s with issuerUrl := a }⟩,
    ⟨"links", .optional, links, fun a s => { s with links := a }⟩,
    ⟨"MfaConfig", .optional, mfa, fun a s => { s with mfa := a }⟩,
    ⟨"tokenPolicy", .optional, tokenPolicy, fun a s => { s with tokenPolicy := a }⟩,
    ⟨"samlConfig", .optional, saml, fun a s => { s with saml := a }⟩,
    ⟨"userConfig", .optional, userDefaults, fun a s => { s with userDefaults := a }⟩]

instance : JsonForm ZoneConfig := Layout.form layout.fields

end ZoneConfig

/-- An identity zone. -/
structure Zone where
  id : String := ""
  isActive : Bool := false
  name : String := ""
  subDomain : String := ""
  config : Option ZoneConfig := none
  deriving DecidableEq

namespace Zone

instance : Inhabited Zone := ⟨{}⟩

/-- The fields of a zone; the id is written even if it is empty. -/
@[reducible]
def layout : Layout Zone where
  fields := [
    ⟨"id", .always, id, fun a s => { s with id := a }⟩,
    ⟨"active", .always, isActive, fun a s => { s with isActive := a }⟩,
    ⟨"name", .sparse, name, fun a s => { s with name := a }⟩,
    ⟨"subdomain", .sparse, subDomain, fun a s => { s with subDomain := a }⟩,
    ⟨"config", .optional, config, fun a s => { s with config := a }⟩]

instance : JsonForm Zone := Layout.form layout.fields

/-- The groups that every new user of the zone is in. -/
def defaultGroups (z : Zone) : List String :=
  ((z.config.bind (·.userDefaults)).map (·.defaultGroups)).getD []

end Zone

end UaaAdmin.Wire
