import UaaAdmin.Proofs.ZoneNormal

/-!
# Zones read and written back

A zone that is read from a record and written back without a change gives the record again, but for
what has no place in a declaration. `Wire.ZoneConfig.WrittenBack` lists these losses, field by field
and without the code that makes them; nothing is left open by the list, since it determines the
configuration (`WrittenBack.unique`).

The payoff is `Zone.toWire_ofWire_loses_only`: what is written back has the id and the names of the
record, and a configuration that is related to the one of the record in this way. A missing
configuration counts as an empty one.
-/

namespace UaaAdmin

/-- The list `m` has the members of `l`, each of them once, in ascending order. -/
structure Sorts (l m : List String) : Prop where
  ascending : m.Pairwise (· < ·)
  mem_iff : ∀ x, x ∈ m ↔ x ∈ l

/-- A list is sorted in one way. -/
theorem Sorts.unique {l m n : List String} (h : Sorts l m) (h' : Sorts l n) : m = n :=
  NameSet.eq_of_ascending h.ascending h'.ascending fun x => (h.mem_iff x).trans (h'.mem_iff x).symm

theorem NameSet.sorts_ofList (l : List String) : Sorts l (ofList l).toList :=
  ⟨(ofList l).ascending, fun _ => mem_ofList⟩

/-! ## What is lost -/

namespace Wire

/-- The rule `s` is `r` with its lists sorted. -/
structure CorsRule.SortsTo (r s : CorsRule) : Prop where
  allowedOrigins : Sorts r.allowedOrigins s.allowedOrigins
  allowedOriginPatterns : Sorts r.allowedOriginPatterns s.allowedOriginPatterns
  allowedUris : Sorts r.allowedUris s.allowedUris
  allowedUriPatterns : Sorts r.allowedUriPatterns s.allowedUriPatterns
  allowedHeaders : Sorts r.allowedHeaders s.allowedHeaders
  allowedMethods : Sorts r.allowedMethods s.allowedMethods
  allowedCredentials : s.allowedCredentials = r.allowedCredentials
  maxAge : s.maxAge = r.maxAge

theorem CorsRule.SortsTo.unique {r s t : CorsRule} (h : r.SortsTo s) (h' : r.SortsTo t) :
    s = t := by
  cases s
  cases t
  simp only [CorsRule.mk.injEq]
  exact ⟨h.allowedOrigins.unique h'.allowedOrigins,
    h.allowedOriginPatterns.unique h'.allowedOriginPatterns,
    h.allowedUris.unique h'.allowedUris, h.allowedUriPatterns.unique h'.allowedUriPatterns,
    h.allowedHeaders.unique h'.allowedHeaders, h.allowedMethods.unique h'.allowedMethods,
    h.allowedCredentials.trans h'.allowedCredentials.symm, h.maxAge.trans h'.maxAge.symm⟩

/-- The links `m` are `l` with the allowed addresses sorted. -/
structure LogoutLinks.SortsTo (l m : LogoutLinks) : Prop where
  redirectUrl : m.redirectUrl = l.redirectUrl
  redirectParameterName : m.redirectParameterName = l.redirectParameterName
  allowedRedirectUrls : Sorts l.allowedRedirectUrls m.allowedRedirectUrls

theorem LogoutLinks.SortsTo.unique {l m n : LogoutLinks} (h : l.SortsTo m) (h' : l.SortsTo n) :
    m = n := by
  cases m
  cases n
  simp only [LogoutLinks.mk.injEq]
  exact ⟨h.redirectUrl.trans h'.redirectUrl.symm,
    h.redirectParameterName.trans h'.redirectParameterName.symm,
    h.allowedRedirectUrls.unique h'.allowedRedirectUrls⟩

namespace ZoneConfig

/-- The rule of a configuration for a kind of requests. -/
def rule? (c : ZoneConfig) (k : Declared.CorsKind) : Option CorsRule :=
  c.corsPolicy.bind (Declared.CorsRule.ruleOf · k)

/-- What becomes of a configuration `c` that is read and written back as `c'`: prompts without a
type get one, an empty banner and a policy without rules are dropped, so is the certificate outside
the SAML keys, lists without an order are sorted, and links, multi-factor authentication and user
defaults are there even if they were not. -/
structure WrittenBack (c c' : ZoneConfig) : Prop where
  accountChooserEnabled : c'.accountChooserEnabled = c.accountChooserEnabled
  idpDiscoveryEnabled : c'.idpDiscoveryEnabled = c.idpDiscoveryEnabled
  issuerUrl : c'.issuerUrl = c.issuerUrl
  secretPolicy : c'.secretPolicy = c.secretPolicy
  tokenPolicy : c'.tokenPolicy = c.tokenPolicy
  prompts : c'.prompts
    = c.prompts.map fun p => if p.kind = "" then { p with kind := "text" } else p
  branding : c'.branding
    = c.branding.map fun b => { b with banner := b.banner.filter (· ≠ ⟨"", "", "", "", ""⟩) }
  rule : ∀ k, Option.Rel CorsRule.SortsTo (c.rule? k) (c'.rule? k)
  corsPolicy : c'.corsPolicy = none ↔ ∀ k, c.rule? k = none
  saml : c'.saml = c.saml.map fun s => { s with certificate := "" }
  links : ∃ links logout selfService, c'.links = some links ∧
    links.homeRedirect = (c.links.map (·.homeRedirect)).getD "" ∧
    links.logout = some logout ∧
    ((c.links.bind (·.logout)).getD ⟨"", "", []⟩).SortsTo logout ∧
    links.selfService = some selfService ∧
    selfService = (c.links.bind (·.selfService)).getD ⟨true, "", ""⟩
  mfa : ∃ mfa, c'.mfa = some mfa ∧
    mfa.isEnabled = (c.mfa.map (·.isEnabled)).getD false ∧
    Sorts ((c.mfa.map (·.identityProviders)).getD []) mfa.identityProviders
  userDefaults : ∃ d, c'.userDefaults = some d ∧
    Sorts ((c.userDefaults.map (·.defaultGroups)).getD []) d.defaultGroups

/-- An optional rule is sorted in one way. -/
theorem eq_of_rel_sortsTo {o p q : Option CorsRule} (h : Option.Rel CorsRule.SortsTo o p)
    (h' : Option.Rel CorsRule.SortsTo o q) : p = q := by
  cases h with
  | none =>
    cases h' with
    | none => rfl
  | some hr =>
    cases h' with
    | some hr' => rw [hr.unique hr']

/-- A policy is determined by its rules and by whether it is there. -/
theorem corsPolicy_eq {c d : ZoneConfig} (hrule : ∀ k, c.rule? k = d.rule? k)
    (hnone : c.corsPolicy = none ↔ d.corsPolicy = none) : c.corsPolicy = d.corsPolicy := by
  unfold rule? at hrule
  rcases hc : c.corsPolicy with _ | p
  · exact (hnone.mp hc).symm
  · rcases hd : d.corsPolicy with _ | q
    · rw [hnone.mpr hd] at hc
      exact hc.symm
    · rw [hc, hd] at hrule
      have hstandard : p.standard = q.standard := hrule .standard
      have hxhr : p.xhr = q.xhr := hrule .xhr
      cases p
      cases q
      rw [Option.some.injEq, CorsPolicy.mk.injEq]
      exact ⟨hstandard, hxhr⟩

/-- Nothing is left open: the configuration that is written back is determined. -/
theorem WrittenBack.unique {c d e : ZoneConfig} (h : c.WrittenBack d) (h' : c.WrittenBack e) :
    d = e := by
  have hcors : d.corsPolicy = e.corsPolicy :=
    corsPolicy_eq (fun k => eq_of_rel_sortsTo (h.rule k) (h'.rule k))
      (h.corsPolicy.trans h'.corsPolicy.symm)
  have hlinks : d.links = e.links := by
    obtain ⟨⟨_, _, _⟩, l, _, hd, rfl, rfl, hl, rfl, rfl⟩ := h.links
    obtain ⟨⟨_, _, _⟩, m, _, he, rfl, rfl, hm, rfl, rfl⟩ := h'.links
    rw [hd, he, hl.unique hm]
  have hmfa : d.mfa = e.mfa := by
    obtain ⟨⟨_, l⟩, hd, rfl, hl⟩ := h.mfa
    obtain ⟨⟨_, m⟩, he, rfl, hm⟩ := h'.mfa
    have hlist : l = m := hl.unique hm
    rw [hd, he, hlist]
  have hdefaults : d.userDefaults = e.userDefaults := by
    obtain ⟨⟨l⟩, hd, hl⟩ := h.userDefaults
    obtain ⟨⟨m⟩, he, hm⟩ := h'.userDefaults
    have hlist : l = m := hl.unique hm
    rw [hd, he, hlist]
  cases d
  cases e
  rw [ZoneConfig.mk.injEq]
  exact ⟨h.accountChooserEnabled.trans h'.accountChooserEnabled.symm,
    h.branding.trans h'.branding.symm, h.secretPolicy.trans h'.secretPolicy.symm, hcors,
    h.idpDiscoveryEnabled.trans h'.idpDiscoveryEnabled.symm, h.prompts.trans h'.prompts.symm,
    h.issuerUrl.trans h'.issuerUrl.symm, hlinks, hmfa, h.tokenPolicy.trans h'.tokenPolicy.symm,
    h.saml.trans h'.saml.symm, hdefaults⟩

end ZoneConfig

end Wire

/-! ## Reading and writing the parts -/

namespace Declared

/-- A banner comes back unless it is empty. -/
theorem Branding.toWire_ofWire (b : Wire.Branding) :
    (ofWire b).toWire = { b with banner := b.banner.filter (· ≠ ⟨"", "", "", "", ""⟩) } := by
  have hbanner : (ofWire b).toWire.banner = b.banner.filter (· ≠ ⟨"", "", "", "", ""⟩) := by
    show (if b.banner.getD {} = {} then none else some (b.banner.getD {})) = _
    rcases b.banner with _ | m
    · rfl
    · rw [Option.getD_some, Option.filter_some]
      by_cases hm : m = {}
      · rw [if_pos hm, if_neg (by simpa using hm)]
      · rw [if_neg hm, if_pos (by simpa using hm)]
  have hlinks : (ofWire b).toWire.footerLinks = b.footerLinks := by
    show NameMap.ofList ((b.footerLinks.entries.map fun e => (⟨e.1, e.2⟩ : FooterLink)).map
      fun l => (l.name, l.url)) = _
    rw [List.map_map]
    exact (congrArg NameMap.ofList (List.map_id _)).trans (NameMap.ofList_entries _)
  show Wire.Branding.mk (ofWire b).toWire.banner _ _ _ _ (ofWire b).toWire.footerLinks = _
  rw [hbanner, hlinks]
  rfl

theorem SamlConfig.toWire_ofWire (s : Wire.SamlConfig) :
    (ofWire s).toWire = { s with certificate := "" } := by
  have hkeys : (ofWire s).toWire.keys = s.keys := by
    show NameMap.ofList ((s.keys.entries.map fun e => (⟨e.1, e.2.certificate⟩ : SamlKey)).map
      fun k => (k.name, (⟨k.certificate⟩ : Wire.SamlKey))) = _
    rw [List.map_map]
    exact (congrArg NameMap.ofList (List.map_id _)).trans (NameMap.ofList_entries _)
  show { s with certificate := "", keys := (ofWire s).toWire.keys } = _
  rw [hkeys]

namespace CorsRule

/-- A rule comes back with sorted lists. -/
theorem sortsTo_toWire_ofWire (k : CorsKind) (r : Wire.CorsRule) :
    r.SortsTo (ofWire k r).toWire where
  allowedOrigins := NameSet.sorts_ofList _
  allowedOriginPatterns := NameSet.sorts_ofList _
  allowedUris := NameSet.sorts_ofList _
  allowedUriPatterns := NameSet.sorts_ofList _
  allowedHeaders := NameSet.sorts_ofList _
  allowedMethods := NameSet.sorts_ofList _
  allowedCredentials := rfl
  maxAge := rfl

/-- The policy that is written for the rules of a policy, which may be missing. -/
def rewritten (p : Option Wire.CorsPolicy) : Option Wire.CorsPolicy :=
  toPolicy ((p.map ofPolicy).getD [])

/-- Each rule of a policy comes back as a rule of its kind. -/
theorem ruleOf_rewritten (p : Option Wire.CorsPolicy) (k : CorsKind) :
    (rewritten p).bind (ruleOf · k) = (p.bind (ruleOf · k)).map fun r => (ofWire k r).toWire := by
  rcases p with _ | ⟨_ | _, _ | _⟩ <;> cases k <;> rfl

/-- A policy comes back with its rules sorted. -/
theorem rel_rewritten (p : Option Wire.CorsPolicy) (k : CorsKind) :
    Option.Rel Wire.CorsRule.SortsTo (p.bind (ruleOf · k)) ((rewritten p).bind (ruleOf · k)) := by
  rw [ruleOf_rewritten]
  rcases p.bind (ruleOf · k) with _ | r
  · exact .none
  · exact .some (sortsTo_toWire_ofWire k r)

/-- A policy comes back if it has a rule. -/
theorem rewritten_eq_none_iff (p : Option Wire.CorsPolicy) :
    rewritten p = none ↔ ∀ k, p.bind (ruleOf · k) = none := by
  constructor
  · intro h k
    have hrule := ruleOf_rewritten p k
    rw [h, Option.bind_none] at hrule
    exact Option.map_eq_none_iff.mp hrule.symm
  · intro h
    rcases p with _ | ⟨standard, xhr⟩
    · rfl
    · obtain rfl : standard = none := h .standard
      obtain rfl : xhr = none := h .xhr
      rfl

end CorsRule

namespace Zone

/-! ## Reading what may be missing -/

theorem withMfa_eq (z : Zone) (m : Option Wire.MfaConfig) :
    z.withMfa m = { z with
      mfaEnabled := (m.map (·.isEnabled)).getD z.mfaEnabled
      mfaIdentityProviders :=
        (m.map fun m => NameSet.ofList m.identityProviders).getD z.mfaIdentityProviders } := by
  cases m <;> rfl

theorem withLogout_eq (z : Zone) (l : Option Wire.LogoutLinks) :
    z.withLogout l = { z with
      logoutRedirectUrl := (l.map (·.redirectUrl)).getD z.logoutRedirectUrl
      logoutRedirectParam := (l.map (·.redirectParameterName)).getD z.logoutRedirectParam
      logoutAllowedRedirectUrls :=
        (l.map fun l => NameSet.ofList l.allowedRedirectUrls).getD
          z.logoutAllowedRedirectUrls } := by
  cases l <;> rfl

theorem withSelfService_eq (z : Zone) (l : Option Wire.SelfServiceLinks) :
    z.withSelfService l = { z with
      selfServeEnabled := (l.map (·.enabled)).getD z.selfServeEnabled
      selfServeSignupUrl := (l.map (·.signupUrl)).getD z.selfServeSignupUrl
      selfServePasswordResetUrl :=
        (l.map (·.passwordResetUrl)).getD z.selfServePasswordResetUrl } := by
  cases l <;> rfl

theorem withLinks_eq (z : Zone) (l : Option Wire.Links) :
    z.withLinks l = Zone.withSelfService
      (Zone.withLogout { z with homeRedirectUrl := (l.map (·.homeRedirect)).getD z.homeRedirectUrl }
        (l.bind (·.logout))) (l.bind (·.selfService)) := by
  cases l <;> rfl

theorem withUserDefaults_eq (z : Zone) (d : Option Wire.UserDefaults) :
    z.withUserDefaults d = { z with
      defaultUserGroups :=
        (d.map fun d => NameSet.ofList d.defaultGroups).getD z.defaultUserGroups } := by
  cases d <;> rfl

/-- A missing configuration is read as an empty one. -/
theorem ofWire_eq (r : Wire.Zone) :
    ofWire r = ofWire { r with config := some (r.config.getD {}) } := by
  obtain ⟨id, isActive, name, subDomain, _ | c⟩ := r <;> rfl

/-! ## Reading and writing a zone -/

/-- The configuration of a zone comes back part by part. -/
theorem config_writtenBack (r : Wire.Zone) :
    (r.config.getD {}).WrittenBack (ofWire r).config := by
  rw [ofWire_eq]
  -- A record without a configuration is one with an empty configuration here.
  generalize r.config.getD {} = c
  have hbranding : (c.branding.map Branding.ofWire).map Branding.toWire
      = c.branding.map fun b =>
          { b with banner := b.banner.filter (· ≠ ⟨"", "", "", "", ""⟩) } := by
    rw [Option.map_map]
    exact congrArg (fun f => Option.map f _) (funext Branding.toWire_ofWire)
  have hsaml : (c.saml.map SamlConfig.ofWire).map SamlConfig.toWire
      = c.saml.map fun s => { s with certificate := "" } := by
    rw [Option.map_map]
    exact congrArg (fun f => Option.map f _) (funext SamlConfig.toWire_ofWire)
  unfold ofWire
  simp only [withConfig, withMfa_eq, withLinks_eq, withLogout_eq, withSelfService_eq,
    withUserDefaults_eq]
  refine {
    accountChooserEnabled := rfl
    idpDiscoveryEnabled := rfl
    issuerUrl := rfl
    secretPolicy := rfl
    tokenPolicy := rfl
    prompts := List.map_congr_left fun p _ => typedPrompt_eq p
    branding := hbranding
    rule := CorsRule.rel_rewritten c.corsPolicy
    corsPolicy := CorsRule.rewritten_eq_none_iff c.corsPolicy
    saml := hsaml
    links := ⟨_, _, _, rfl, rfl, rfl, ?logout, rfl, ?selfService⟩
    mfa := ⟨_, rfl, rfl, ?mfa⟩
    userDefaults := ⟨_, rfl, ?userDefaults⟩ }
  case logout =>
    dsimp only
    rcases c.links.bind (·.logout) with _ | l <;> exact ⟨rfl, rfl, NameSet.sorts_ofList _⟩
  case selfService =>
    dsimp only
    rcases c.links.bind (·.selfService) with _ | l <;> rfl
  case mfa =>
    dsimp only
    rcases c.mfa with _ | m <;> exact NameSet.sorts_ofList _
  case userDefaults =>
    dsimp only
    rcases c.userDefaults with _ | d <;> exact NameSet.sorts_ofList _

/-- What is written back has the id, the state and the names of the record, and a configuration that
is the one of the record, or an empty one if there is none, but for the losses that
`Wire.ZoneConfig.WrittenBack` lists. These determine it. -/
theorem toWire_ofWire_loses_only (r : Wire.Zone) :
    let back := toWire r.id (ofWire r)
    back.id = r.id ∧ back.isActive = r.isActive ∧ back.name = r.name ∧
    back.subDomain = r.subDomain ∧
    ∃ c', back.config = some c' ∧ (r.config.getD {}).WrittenBack c' ∧
      ∀ d, (r.config.getD {}).WrittenBack d → d = c' := by
  have hconfig := config_writtenBack r
  refine ⟨rfl, ?_, ?_, ?_, (ofWire r).config, rfl, hconfig, fun d hd => hd.unique hconfig⟩
  all_goals
    rw [ofWire_eq]
    unfold ofWire
    simp only [toWire, withConfig, withMfa_eq, withLinks_eq, withLogout_eq, withSelfService_eq,
      withUserDefaults_eq]

end Zone

end Declared

end UaaAdmin
