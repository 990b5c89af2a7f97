import UaaAdmin.Declared.Client
import UaaAdmin.Proofs.WireForms

/-!
# Declared clients and their records

A declared client keeps its lists as sets, and its record as lists in which a marker may stand for
an empty one. `Client.absorb_toWire` says what of a client comes out of its record: all that the
record holds, but for a set that looks like a marker. How a list was ordered does not matter
(`Client.absorb_reordered`), and a list with anything but the marker counts in full
(`Client.reportedSet_of_mem`). The payoff is `Client.record_agrees`, for the text of a record.
-/

namespace UaaAdmin

/-! ## Records up to the order of their lists -/

/-- The record differs from `r` at most in the order of its lists. -/
inductive Wire.Client.Reordered (r : Client) : Client → Prop
  | mk {authorizedGrantTypes redirectUri scope resourceIds authorities autoapprove allowedProviders
      requiredUserGroups : List String}
    (hgrants : r.authorizedGrantTypes.Perm authorizedGrantTypes)
    (huris : r.redirectUri.Perm redirectUri)
    (hscope : r.scope.Perm scope)
    (hresources : r.resourceIds.Perm resourceIds)
    (hauthorities : r.authorities.Perm authorities)
    (happroved : r.autoapprove.Perm autoapprove)
    (hproviders : r.allowedProviders.Perm allowedProviders)
    (hgroups : r.requiredUserGroups.Perm requiredUserGroups) :
    Reordered r { r with
      authorizedGrantTypes, redirectUri, scope, resourceIds, authorities, autoapprove,
      allowedProviders, requiredUserGroups }

theorem NameSet.ofList_perm {l l' : List String} (h : l.Perm l') : ofList l = ofList l' :=
  ofList_congr fun _ => h.mem_iff

namespace Declared.Client

/-! ## Markers -/

variable {values values' : List String} {marker : String}

/-- The set without the marker, if it has no other member. -/
def unmarked (names : NameSet) (marker : String) : NameSet :=
  if names = NameSet.ofList [marker] then ∅ else names

/-- A set is reported as it is, unless it looks like a marker. -/
theorem reportedSet_toList (names : NameSet) (marker : String) :
    reportedSet names.toList (Wire.isMarkerOnly names.toList marker) = unmarked names marker := by
  have hmarker : Wire.isMarkerOnly names.toList marker = true ↔
      names = NameSet.ofList [marker] := by
    unfold Wire.isMarkerOnly
    rw [beq_iff_eq]
    constructor
    · intro h
      rw [← h, NameSet.ofList_toList]
    · intro h
      rw [h]
      rfl
  unfold reportedSet unmarked
  by_cases h : names = NameSet.ofList [marker]
  · rw [if_pos (hmarker.mpr h), if_pos h]
  · rw [if_neg (mt hmarker.mp h), if_neg h, NameSet.ofList_toList]

/-- A list with another value than the marker is reported in full. -/
theorem reportedSet_of_mem {x : String} (hx : x ∈ values) (hne : x ≠ marker) :
    reportedSet values (Wire.isMarkerOnly values marker) = NameSet.ofList values := by
  have hmarker : ¬Wire.isMarkerOnly values marker = true := by
    unfold Wire.isMarkerOnly
    rw [beq_iff_eq]
    intro h
    rw [h, List.mem_singleton] at hx
    exact hne hx
  exact if_neg hmarker

theorem reportedSet_perm (h : values.Perm values') (marker : String) :
    reportedSet values (Wire.isMarkerOnly values marker)
      = reportedSet values' (Wire.isMarkerOnly values' marker) := by
  have hmarker : values = [marker] ↔ values' = [marker] := by
    rw [← List.perm_singleton, ← List.perm_singleton]
    exact ⟨h.symm.trans, h.trans⟩
  unfold reportedSet Wire.isMarkerOnly
  simp only [beq_iff_eq, hmarker, NameSet.ofList_perm h]

/-! ## Records -/

/-- What comes out of the record of a client is the client, but for the secret and the zone, which
stay, and for a set that looks like a marker. -/
theorem absorb_toWire (m t : Client) :
    t.absorb m.toWire = { m with
      clientSecret := t.clientSecret
      zoneId := t.zoneId
      scope := unmarked m.scope "uaa.none"
      authorities := unmarked m.authorities "uaa.none"
      resourceIds := unmarked m.resourceIds "none" } := by
  have hscope := reportedSet_toList m.scope "uaa.none"
  have hauthorities := reportedSet_toList m.authorities "uaa.none"
  have hresourceIds := reportedSet_toList m.resourceIds "none"
  simp only [absorb, toWire, Wire.Client.hasNoScope, Wire.Client.hasNoAuthorities,
    Wire.Client.hasNoResourceIds, Wire.noScope, Wire.noAuthority, Wire.noResourceId, hscope,
    hauthorities, hresourceIds, NameSet.ofList_toList]

/-- The order of the lists of a record does not matter. -/
theorem absorb_reordered {r r' : Wire.Client} (h : r.Reordered r') (t : Client) :
    t.absorb r = t.absorb r' := by
  cases h with
  | mk hgrants huris hscope hresources hauthorities happroved hproviders hgroups =>
    simp only [absorb, Wire.Client.hasNoScope, Wire.Client.hasNoAuthorities,
      Wire.Client.hasNoResourceIds, NameSet.ofList_perm hgrants, NameSet.ofList_perm huris,
      reportedSet_perm hscope, reportedSet_perm hresources, reportedSet_perm hauthorities,
      NameSet.ofList_perm happroved, NameSet.ofList_perm hproviders, NameSet.ofList_perm hgroups]

/-- A record is taken in once: of what it is taken into, only the secret and the zone stay. -/
theorem absorb_congr {t t' : Client} (hsecret : t.clientSecret = t'.clientSecret)
    (hzone : t.zoneId = t'.zoneId) (r : Wire.Client) : t.absorb r = t'.absorb r := by
  unfold absorb
  rw [hsecret, hzone]

/-- What is read from the text of a client's record is the client, but for the secret and the zone,
which stay as they are, and for a set of which the only member is the marker of an empty one. Taking
a record in uses nothing else of what it is taken into, so that taking it in twice changes nothing,
and it does not depend on the order of the lists of the record. A list with another value than the
marker is taken in full. -/
theorem record_agrees (m t : Client) (r : Wire.Client) :
    ((Json.ofText? (Json.print (JsonForm.write m.toWire))).bind JsonForm.read?).map t.absorb
      = some { m with
          clientSecret := t.clientSecret
          zoneId := t.zoneId
          scope := unmarked m.scope "uaa.none"
          authorities := unmarked m.authorities "uaa.none"
          resourceIds := unmarked m.resourceIds "none" } ∧
    (∀ t' : Client, t.clientSecret = t'.clientSecret → t.zoneId = t'.zoneId →
      t.absorb r = t'.absorb r) ∧
    (t.absorb r).absorb r = t.absorb r ∧
    (∀ r', r.Reordered r' → t.absorb r = t.absorb r') ∧
    ((∃ x ∈ r.scope, x ≠ "uaa.none") → ∀ x, x ∈ (t.absorb r).scope ↔ x ∈ r.scope) ∧
    ((∃ x ∈ r.authorities, x ≠ "uaa.none") →
      ∀ x, x ∈ (t.absorb r).authorities ↔ x ∈ r.authorities) ∧
    ((∃ x ∈ r.resourceIds, x ≠ "none") →
      ∀ x, x ∈ (t.absorb r).resourceIds ↔ x ∈ r.resourceIds) := by
  have hfull : ∀ values marker, (∃ x ∈ values, x ≠ marker) →
      ∀ x, x ∈ reportedSet values (Wire.isMarkerOnly values marker) ↔ x ∈ values := by
    intro values marker ⟨y, hy, hne⟩ x
    rw [reportedSet_of_mem hy hne, NameSet.mem_ofList]
  refine ⟨?_, fun t' hsecret hzone => absorb_congr hsecret hzone r, absorb_congr rfl rfl r,
    fun r' h => absorb_reordered h t, hfull _ _, hfull _ _, hfull _ _⟩
  rw [Json.ofText?_print (LawfulForm.isExact_write _), Option.bind_some, LawfulForm.read?_write,
    Option.map_some, absorb_toWire]

end Declared.Client

end UaaAdmin
