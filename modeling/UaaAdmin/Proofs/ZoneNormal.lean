import UaaAdmin.Declared.Zone
import UaaAdmin.Proofs.LastOfEach

/-!
# Zones written and read back

Written to a record and read back, a zone comes out in its normal form (`Zone.normal`): every prompt
has a type, of the rules for one kind the last is kept, and of the links and keys with one name the
last is kept, in the order of the names. All else stays as it is.

The payoff is `Zone.ofWire_toWire_normalizes`: the normal form is what comes out, whatever the id;
it is its own normal form; and a zone is left as it is exactly if it satisfies `Zone.IsNormal`.
-/

namespace UaaAdmin.Declared

/-! ## Branding -/

namespace Branding

/-- The branding with the last link of each name, in the order of the names. -/
def normal (b : Branding) : Branding :=
  { b with footerLinks := lastByName FooterLink.name b.footerLinks }

theorem ofWire_toWire (b : Branding) : ofWire b.toWire = b.normal := by
  have hbanner : b.toWire.banner.getD {} = b.banner := by
    -- An empty banner is left out, and what is missing is read as an empty one.
    show (if b.banner = {} then none else some b.banner).getD {} = b.banner
    split
    · rename_i hempty
      exact hempty.symm
    · rfl
  have hlinks : b.toWire.footerLinks.entries.map (fun e => (⟨e.1, e.2⟩ : FooterLink))
      = lastByName FooterLink.name b.footerLinks := by
    show ((NameMap.ofList (b.footerLinks.map fun l => (l.name, l.url))).entries.map _) = _
    rw [NameMap.entries_ofList_map, List.map_map]
    exact List.map_id _
  unfold ofWire
  rw [hbanner, hlinks]
  rfl

theorem normal_eq_self_iff (b : Branding) :
    b.normal = b ↔ b.footerLinks.Pairwise fun l l' => l.name < l'.name := by
  rw [← lastByName_eq_self_iff]
  constructor
  · exact congrArg footerLinks
  · intro h
    unfold normal
    rw [h]

end Branding

/-! ## Cross-origin rules -/

namespace CorsRule

/-- The kinds in the order in which their rules are read. -/
def kinds : List CorsKind := [.standard, .xhr]

/-- The last rule of each kind, the one for plain requests first. -/
def normal (rs : List CorsRule) : List CorsRule := lastOfEach kind kinds rs

/-- The rule that a policy has for a kind. -/
def ruleOf (p : Wire.CorsPolicy) : CorsKind → Option Wire.CorsRule
  | .standard => p.standard
  | .xhr => p.xhr

theorem ofWire_toWire (r : CorsRule) : ofWire r.kind r.toWire = r := by
  simp [ofWire, toWire]

/-- A rule that is put into a policy replaces the one of its kind. -/
theorem ruleOf_putInto (p : Wire.CorsPolicy) (r : CorsRule) (k : CorsKind) :
    ruleOf (putInto p r) k = if r.kind = k then some r.toWire else ruleOf p k := by
  unfold putInto
  cases r.kind <;> cases k <;> rfl

/-- Of the rules for one kind the last is put into the policy. -/
theorem ruleOf_foldl (rs : List CorsRule) (p : Wire.CorsPolicy) (k : CorsKind) :
    ruleOf (rs.foldl putInto p) k
      = ((rs.reverse.find? fun r => r.kind = k).map toWire).or (ruleOf p k) := by
  induction rs generalizing p with
  | nil => rfl
  | cons r rs ih =>
    rw [List.foldl_cons, ih, ruleOf_putInto, List.reverse_cons, List.find?_append]
    by_cases hk : r.kind = k
    · rcases rs.reverse.find? (fun r => r.kind = k) with _ | r' <;> simp [hk]
    · rcases rs.reverse.find? (fun r => r.kind = k) with _ | r' <;> simp [hk]

/-- A policy is declared by the rules that it has, the standard one first. -/
theorem ofPolicy_eq (p : Wire.CorsPolicy) :
    ofPolicy p = kinds.filterMap fun k => (ruleOf p k).map (ofWire k) := by
  rcases p with ⟨_ | _, _ | _⟩ <;> rfl

/-- Of each kind the last rule comes back. -/
theorem ofPolicy_toPolicy (rs : List CorsRule) :
    ((toPolicy rs).map ofPolicy).getD [] = normal rs := by
  have hrules : ofPolicy (rs.foldl putInto {}) = normal rs := by
    rw [ofPolicy_eq, normal, lastOfEach]
    apply List.filterMap_congr
    intro k _
    rw [ruleOf_foldl]
    rcases hfind : rs.reverse.find? (fun r => r.kind = k) with _ | r
    · rw [hfind]
      cases k <;> rfl
    · rw [hfind]
      have hkind : r.kind = k := key_of_find? hfind
      subst hkind
      exact congrArg some (ofWire_toWire r)
  unfold toPolicy
  split
  · -- Without rules there is no policy, and without a policy there are no rules.
    rename_i hempty
    rw [List.isEmpty_iff.mp hempty]
    rfl
  · exact hrules

theorem normal_eq_self_iff (rs : List CorsRule) :
    normal rs = rs ↔ (rs.map kind).Sublist [.standard, .xhr] :=
  lastOfEach_eq_self_iff (by decide) rs

end CorsRule

/-! ## SAML -/

namespace SamlConfig

/-- The service with the last key of each name, in the order of the names. -/
def normal (s : SamlConfig) : SamlConfig :=
  { s with keys := lastByName SamlKey.name s.keys }

theorem ofWire_toWire (s : SamlConfig) : ofWire s.toWire = s.normal := by
  have hkeys : s.toWire.keys.entries.map (fun e => (⟨e.1, e.2.certificate⟩ : SamlKey))
      = lastByName SamlKey.name s.keys := by
    show ((NameMap.ofList (s.keys.map fun k =>
      (k.name, (⟨k.certificate⟩ : Wire.SamlKey)))).entries.map _) = _
    rw [NameMap.entries_ofList_map, List.map_map]
    exact List.map_id _
  unfold ofWire
  rw [hkeys]
  rfl

theorem normal_eq_self_iff (s : SamlConfig) :
    s.normal = s ↔ s.keys.Pairwise fun k k' => k.name < k'.name := by
  rw [← lastByName_eq_self_iff]
  constructor
  · exact congrArg keys
  · intro h
    unfold normal
    rw [h]

end SamlConfig

/-! ## Zones -/

namespace Zone

/-- The normal form of a zone. -/
def normal (z : Zone) : Zone :=
  { z with
    prompts := z.prompts.map fun p => if p.kind = "" then { p with kind := "text" } else p
    branding := z.branding.map Branding.normal
    corsRules := CorsRule.normal z.corsRules
    saml := z.saml.map SamlConfig.normal }

/-- The zone is in normal form: every prompt has a type, there is at most one rule of each kind, the
one for plain requests first, and links and keys have their names in strictly ascending order. -/
structure IsNormal (z : Zone) : Prop where
  prompts : ∀ p ∈ z.prompts, p.kind ≠ ""
  corsRules : (z.corsRules.map (·.kind)).Sublist [.standard, .xhr]
  footerLinks : ∀ b ∈ z.branding, b.footerLinks.Pairwise fun l l' => l.name < l'.name
  keys : ∀ s ∈ z.saml, s.keys.Pairwise fun k k' => k.name < k'.name

/-- A prompt without a kind is one for text. -/
theorem typedPrompt_eq (p : Wire.Prompt) :
    typedPrompt p = if p.kind = "" then { p with kind := "text" } else p := by
  unfold typedPrompt
  split <;> rfl

/-- What comes out is the normal form, whatever the id. -/
theorem ofWire_toWire_eq_normal (id : String) (z : Zone) : ofWire (toWire id z) = z.normal := by
  have hprompts : z.prompts.map typedPrompt = z.normal.prompts :=
    List.map_congr_left fun p _ => typedPrompt_eq p
  have hbranding : (z.branding.map Branding.toWire).map Branding.ofWire
      = z.branding.map Branding.normal := by
    rw [Option.map_map]
    exact congrArg (fun f => Option.map f _) (funext Branding.ofWire_toWire)
  have hsaml : (z.saml.map SamlConfig.toWire).map SamlConfig.ofWire
      = z.saml.map SamlConfig.normal := by
    rw [Option.map_map]
    exact congrArg (fun f => Option.map f _) (funext SamlConfig.ofWire_toWire)
  simp only [ofWire, toWire, withConfig, config, withMfa, withLinks, links, withLogout,
    withSelfService, withUserDefaults, hprompts, hbranding, hsaml, CorsRule.ofPolicy_toPolicy,
    NameSet.ofList_toList]
  rfl

theorem map_eq_self_iff {α : Type} (f : α → α) (o : Option α) :
    o.map f = o ↔ ∀ a ∈ o, f a = a := by
  cases o <;> simp

/-- Prompts stay as they are exactly if all of them have a kind. -/
theorem prompts_eq_self_iff (ps : List Wire.Prompt) :
    (ps.map fun p => if p.kind = "" then { p with kind := "text" } else p) = ps ↔
      ∀ p ∈ ps, p.kind ≠ "" := by
  induction ps with
  | nil => simp
  | cons p ps ih =>
    rw [List.map_cons, List.cons.injEq, ih, List.forall_mem_cons]
    refine and_congr_left fun _ => ?_
    by_cases hp : p.kind = ""
    · rw [if_pos hp]
      refine iff_of_false (fun h => ?_) (fun h => h hp)
      have hkind : "text" = p.kind := congrArg Wire.Prompt.kind h
      exact absurd (hkind.trans hp) (by decide)
    · rw [if_neg hp]
      exact iff_of_true rfl hp

theorem normal_eq_self_iff (z : Zone) : z.normal = z ↔ z.IsNormal := by
  constructor
  · intro h
    exact {
      prompts := (prompts_eq_self_iff _).mp (congrArg prompts h)
      corsRules := (CorsRule.normal_eq_self_iff _).mp (congrArg corsRules h)
      footerLinks := fun b hb => b.normal_eq_self_iff.mp
        ((map_eq_self_iff _ _).mp (congrArg branding h) b hb)
      keys := fun s hs => s.normal_eq_self_iff.mp
        ((map_eq_self_iff _ _).mp (congrArg saml h) s hs) }
  · intro h
    have hbranding : z.branding.map Branding.normal = z.branding :=
      (map_eq_self_iff _ _).mpr fun b hb => b.normal_eq_self_iff.mpr (h.footerLinks b hb)
    have hsaml : z.saml.map SamlConfig.normal = z.saml :=
      (map_eq_self_iff _ _).mpr fun s hs => s.normal_eq_self_iff.mpr (h.keys s hs)
    unfold normal
    rw [(prompts_eq_self_iff _).mpr h.prompts, hbranding, hsaml,
      (CorsRule.normal_eq_self_iff _).mpr h.corsRules]

/-- The normal form of a zone is normal. -/
theorem normal_isNormal (z : Zone) : z.normal.IsNormal where
  prompts := by
    intro p hp
    obtain ⟨q, -, rfl⟩ := List.mem_map.mp hp
    by_cases hq : q.kind = ""
    · simp [hq]
    · simp [hq]
  corsRules := map_lastOfEach_sublist ..
  footerLinks := by
    intro b hb
    obtain ⟨c, -, rfl⟩ := Option.map_eq_some_iff.mp hb
    exact lastByName_ascending ..
  keys := by
    intro s hs
    obtain ⟨t, -, rfl⟩ := Option.map_eq_some_iff.mp hs
    exact lastByName_ascending ..

/-- Writing a zone to a record and reading it back gives its normal form, which does not depend on
the id and stays as it is when that is done again. A zone stays as it is from the start exactly if
every prompt has a type, there is at most one rule of each kind, the one for plain requests first,
and links and keys have their names in strictly ascending order. -/
theorem ofWire_toWire_normalizes (z : Zone) :
    (∀ id, ofWire (toWire id z) = z.normal) ∧
    (∀ id id', ofWire (toWire id z) = ofWire (toWire id' z)) ∧
    (∀ id id', ofWire (toWire id' (ofWire (toWire id z))) = ofWire (toWire id z)) ∧
    ∀ id, ofWire (toWire id z) = z ↔ z.IsNormal := by
  refine ⟨fun id => ofWire_toWire_eq_normal id z, fun id id' => ?_, fun id id' => ?_, fun id => ?_⟩
  · rw [ofWire_toWire_eq_normal, ofWire_toWire_eq_normal]
  · rw [ofWire_toWire_eq_normal, ofWire_toWire_eq_normal]
    exact (normal_eq_self_iff _).mpr z.normal_isNormal
  · rw [ofWire_toWire_eq_normal]
    exact normal_eq_self_iff z

end Zone

end UaaAdmin.Declared
