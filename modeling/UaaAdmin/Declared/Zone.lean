import UaaAdmin.NameSet
import UaaAdmin.Text.Inspect
import UaaAdmin.Wire.Zone

/-!
# Declared zones

An identity zone as it is declared, with the parts of its configuration laid side by side. Maps of
the record are lists with names here, so that their order can be told; lists whose order has no
meaning are sets.

`Zone.ofWire` reads a record, `Zone.toWire` writes one. Written and read back, a zone comes out with
every prompt typed, at most one rule of each kind, and links and keys in the order of their names.
-/

namespace UaaAdmin.Declared

/-! ## Branding -/

/-- A link at the foot of a page. -/
structure FooterLink where
  name : String := ""
  url : String := ""
  deriving DecidableEq

instance : Inhabited FooterLink := ⟨{}⟩

/-- How the pages of a zone look. -/
structure Branding where
  bannerBackgroundColor : String := ""
  bannerLogo : String := ""
  bannerText : String := ""
  bannerTextColor : String := ""
  bannerUrl : String := ""
  companyName : String := ""
  companyLogo : String := ""
  favicon : String := ""
  footerText : String := ""
  footerLinks : List FooterLink := []
  deriving DecidableEq

namespace Branding

instance : Inhabited Branding := ⟨{}⟩

/-- The branding of a record. A missing banner is an empty one. -/
def ofWire (b : Wire.Branding) : Branding :=
  let banner := b.banner.getD {}
  { bannerBackgroundColor := banner.backgroundColor
    bannerLogo := banner.logo
    bannerText := banner.text
    bannerTextColor := banner.textColor
    bannerUrl := banner.url
    companyName := b.companyName
    companyLogo := b.companyLogo
    favicon := b.favicon
    footerText := b.footerText
    footerLinks := b.footerLinks.entries.map fun e => ⟨e.1, e.2⟩ }

/-- The banner of the record. -/
def banner (b : Branding) : Wire.Banner where
  backgroundColor := b.bannerBackgroundColor
  logo := b.bannerLogo
  text := b.bannerText
  textColor := b.bannerTextColor
  url := b.bannerUrl

/-- The record of the branding. An empty banner is left out, and of links with one name the last
counts. -/
def toWire (b : Branding) : Wire.Branding where
  banner := if b.banner = {} then none else some b.banner
  companyName := b.companyName
  companyLogo := b.companyLogo
  favicon := b.favicon
  footerText := b.footerText
  footerLinks := NameMap.ofList (b.footerLinks.map fun l => (l.name, l.url))

end Branding

/-! ## Cross-origin rules -/

/-- The kinds of requests for which a zone can have a rule. -/
inductive CorsKind where
  | standard
  | xhr
  deriving DecidableEq

namespace CorsKind

/-- The name of a kind. -/
def name : CorsKind → String
  | standard => "default"
  | xhr => "xhr"

/-- The kind with this name. -/
def ofName? (s : String) : Option CorsKind :=
  if s = standard.name then some standard
  else if s = xhr.name then some xhr
  else none

/-- What is said of a name that no kind has. -/
def unknownName (s : String) : String := "Unknown CORS configuration name: " ++ s

@[simp] theorem ofName?_name (k : CorsKind) : ofName? k.name = some k := by
  cases k <;> decide

end CorsKind

instance : Inhabited CorsKind := ⟨.standard⟩

/-- A rule for one kind of requests. -/
structure CorsRule where
  kind : CorsKind
  allowedOrigins : NameSet := ∅
  allowedOriginPatterns : NameSet := ∅
  allowedUris : NameSet := ∅
  allowedUriPatterns : NameSet := ∅
  allowedHeaders : NameSet := ∅
  allowedMethods : NameSet := ∅
  allowedCredentials : Bool := false
  maxAge : Option Int64 := none
  deriving DecidableEq

namespace CorsRule

instance : Inhabited CorsRule := ⟨{ kind := .standard }⟩

/-- The rule of a record, for requests of this kind. -/
def ofWire (kind : CorsKind) (r : Wire.CorsRule) : CorsRule where
  kind := kind
  allowedOrigins := NameSet.ofList r.allowedOrigins
  allowedOriginPatterns := NameSet.ofList r.allowedOriginPatterns
  allowedUris := NameSet.ofList r.allowedUris
  allowedUriPatterns := NameSet.ofList r.allowedUriPatterns
  allowedHeaders := NameSet.ofList r.allowedHeaders
  allowedMethods := NameSet.ofList r.allowedMethods
  allowedCredentials := r.allowedCredentials
  maxAge := r.maxAge

/-- The record of the rule. -/
def toWire (r : CorsRule) : Wire.CorsRule where
  allowedOrigins := r.allowedOrigins.toList
  allowedOriginPatterns := r.allowedOriginPatterns.toList
  allowedUris := r.allowedUris.toList
  allowedUriPatterns := r.allowedUriPatterns.toList
  allowedHeaders := r.allowedHeaders.toList
  allowedMethods := r.allowedMethods.toList
  allowedCredentials := r.allowedCredentials
  maxAge := r.maxAge

/-- The rules of a policy, the one for plain requests first. -/
def ofPolicy (p : Wire.CorsPolicy) : List CorsRule :=
  (p.standard.map (ofWire .standard)).toList ++ (p.xhr.map (ofWire .xhr)).toList

/-- The policy `p` with the rule put in. -/
def putInto (p : Wire.CorsPolicy) (r : CorsRule) : Wire.CorsPolicy :=
  match r.kind with
  | .standard => { p with standard := some r.toWire }
  | .xhr => { p with xhr := some r.toWire }

/-- The policy of rules, of which the last of each kind counts; none if there are no rules. -/
def toPolicy (rs : List CorsRule) : Option Wire.CorsPolicy :=
  if rs.isEmpty then none else some (rs.foldl putInto {})

end CorsRule

/-! ## SAML -/

/-- A key of the SAML service. -/
structure SamlKey where
  name : String := ""
  certificate : String := ""
  deriving DecidableEq

instance : Inhabited SamlKey := ⟨{}⟩

/-- The certificate is not shown. -/
instance : Text.Inspect SamlKey where
  inspect k := Text.Inspect.record "SamlKeyModel" [("name", Text.inspect k.name)] false

/-- The SAML service of a zone. -/
structure SamlConfig where
  activeKeyId : String := ""
  assertionTtlSeconds : Option Int64 := none
  disableInResponseToCheck : Bool := false
  entityId : String := ""
  isAssertionSigned : Bool := false
  isRequestSigned : Bool := false
  keys : List SamlKey := []
  wantAssertionSigned : Bool := false
  wantAuthnRequestSigned : Bool := false
  deriving DecidableEq

namespace SamlConfig

instance : Inhabited SamlConfig := ⟨{}⟩

/-- The service of a record. Its certificate outside the keys is passed over. -/
def ofWire (s : Wire.SamlConfig) : SamlConfig where
  activeKeyId := s.activeKeyId
  assertionTtlSeconds := s.assertionTtlSeconds
  disableInResponseToCheck := s.disableInResponseToCheck
  entityId := s.entityId
  isAssertionSigned := s.isAssertionSigned
  isRequestSigned := s.isRequestSigned
  keys := s.keys.entries.map fun e => ⟨e.1, e.2.certificate⟩
  wantAssertionSigned := s.wantAssertionSigned
  wantAuthnRequestSigned := s.wantAuthnRequestSigned

/-- The record of the service. Of keys with one name the last counts. -/
def toWire (s : SamlConfig) : Wire.SamlConfig where
  activeKeyId := s.activeKeyId
  assertionTtlSeconds := s.assertionTtlSeconds
  certificate := ""
  disableInResponseToCheck := s.disableInResponseToCheck
  entityId := s.entityId
  isAssertionSigned := s.isAssertionSigned
  isRequestSigned := s.isRequestSigned
  keys := NameMap.ofList (s.keys.map fun k => (k.name, ⟨k.certificate⟩))
  wantAssertionSigned := s.wantAssertionSigned
  wantAuthnRequestSigned := s.wantAuthnRequestSigned

end SamlConfig

/-! ## Zones -/

/-- The type of a prompt that names none. -/
def defaultPromptKind : String := "text"

/-- The format of refresh tokens for which none is declared. -/
def defaultRefreshFormat : String := "jwt"

/-- The declared state of an identity zone. -/
structure Zone where
  name : String := ""
  subDomain : String := ""
  isActive : Bool := true
  accountChooserEnabled : Bool := false
  idpDiscoveryEnabled : Bool := false
  issuerUrl : String := ""
  homeRedirectUrl : String := ""
  logoutRedirectUrl : String := ""
  logoutRedirectParam : String := ""
  logoutAllowedRedirectUrls : NameSet := ∅
  selfServeEnabled : Bool := true
  selfServeSignupUrl : String := ""
  selfServePasswordResetUrl : String := ""
  mfaEnabled : Bool := false
  mfaIdentityProviders : NameSet := ∅
  defaultUserGroups : NameSet := ∅
  /-- In the order in which they are asked. -/
  prompts : List Wire.Prompt := []
  branding : Option Branding := none
  secretPolicy : Option Wire.SecretPolicy := none
  corsRules : List CorsRule := []
  saml : Option SamlConfig := none
  tokenPolicy : Option Wire.TokenPolicy := none
  deriving DecidableEq

namespace Zone

instance : Inhabited Zone := ⟨{}⟩

/-! ### Reading a record -/

/-- The zone with what a record says about multi-factor authentication. -/
def withMfa (z : Zone) : Option Wire.MfaConfig → Zone
  | none => z
  | some mfa =>
    { z with
      mfaEnabled := mfa.isEnabled
      mfaIdentityProviders := NameSet.ofList mfa.identityProviders }

/-- The zone with the logout links of a record. -/
def withLogout (z : Zone) : Option Wire.LogoutLinks → Zone
  | none => z
  | some logout =>
    { z with
      logoutRedirectUrl := logout.redirectUrl
      logoutRedirectParam := logout.redirectParameterName
      logoutAllowedRedirectUrls := NameSet.ofList logout.allowedRedirectUrls }

/-- The zone with the self-service links of a record. -/
def withSelfService (z : Zone) : Option Wire.SelfServiceLinks → Zone
  | none => z
  | some service =>
    { z with
      selfServeEnabled := service.enabled
      selfServeSignupUrl := service.signupUrl
      selfServePasswordResetUrl := service.passwordResetUrl }

/-- The zone with the links of a record. -/
def withLinks (z : Zone) : Option Wire.Links → Zone
  | none => z
  | some links =>
    ({ z with homeRedirectUrl := links.homeRedirect }.withLogout links.logout).withSelfService
      links.selfService

/-- The zone with the user defaults of a record. -/
def withUserDefaults (z : Zone) : Option Wire.UserDefaults → Zone
  | none => z
  | some d => { z with defaultUserGroups := NameSet.ofList d.defaultGroups }

/-- The zone with the configuration of a record. -/
def withConfig (z : Zone) : Option Wire.ZoneConfig → Zone
  | none => z
  | some config =>
    let z :=
      { z with
        accountChooserEnabled := config.accountChooserEnabled
        idpDiscoveryEnabled := config.idpDiscoveryEnabled
        issuerUrl := config.issuerUrl
        prompts := config.prompts
        branding := config.branding.map Branding.ofWire
        secretPolicy := config.secretPolicy
        corsRules := (config.corsPolicy.map CorsRule.ofPolicy).getD []
        saml := config.saml.map SamlConfig.ofWire
        tokenPolicy := config.tokenPolicy }
    ((z.withMfa config.mfa).withLinks config.links).withUserDefaults config.userDefaults

/-- The zone of a record. What the record leaves out is as in a new zone. -/
def ofWire (r : Wire.Zone) : Zone :=
  ({ name := r.name, subDomain := r.subDomain, isActive := r.isActive } : Zone).withConfig r.config

/-! ### Writing a record -/

/-- A prompt with its type, which may have been left out. -/
def typedPrompt (p : Wire.Prompt) : Wire.Prompt :=
  { p with kind := if p.kind = "" then defaultPromptKind else p.kind }

/-- The links of the record. -/
def links (z : Zone) : Wire.Links where
  homeRedirect := z.homeRedirectUrl
  logout := some
    { redirectUrl := z.logoutRedirectUrl
      redirectParameterName := z.logoutRedirectParam
      allowedRedirectUrls := z.logoutAllowedRedirectUrls.toList }
  selfService := some
    { enabled := z.selfServeEnabled
      signupUrl := z.selfServeSignupUrl
      passwordResetUrl := z.selfServePasswordResetUrl }

/-- The configuration of the record. -/
def config (z : Zone) : Wire.ZoneConfig where
  accountChooserEnabled := z.accountChooserEnabled
  branding := z.branding.map Branding.toWire
  secretPolicy := z.secretPolicy
  corsPolicy := CorsRule.toPolicy z.corsRules
  idpDiscoveryEnabled := z.idpDiscoveryEnabled
  prompts := z.prompts.map typedPrompt
  issuerUrl := z.issuerUrl
  links := some z.links
  mfa := some
    { isEnabled := z.mfaEnabled, identityProviders := z.mfaIdentityProviders.toList }
  tokenPolicy := z.tokenPolicy
  saml := z.saml.map SamlConfig.toWire
  userDefaults := some { defaultGroups := z.defaultUserGroups.toList }

/-- The record of the zone with this id. -/
def toWire (id : String) (z : Zone) : Wire.Zone where
  id := id
  isActive := z.isActive
  name := z.name
  subDomain := z.subDomain
  config := some z.config

end Zone

end UaaAdmin.Declared
