import UaaAdmin.Proofs.Requests

/-!
# Loading the groups of a zone

A zone that is in the cache is taken from there and nothing is asked (`runOn_loadGroups_of_cached`).
Any other zone is asked for with two requests, and its entry is put into the cache only when both
answers have been read: `loadGroups_error` says that a load that fails leaves the cache as it was,
`loadGroups_ok` that after one that succeeds the zone has the entry that was given.
-/

namespace UaaAdmin

namespace Users

variable {a : UserAdmin} {zone : String} {c c' : Connection}

/-- The request for the groups of a zone. -/
def listingOf (a : UserAdmin) (zone : String) : Op (Wire.Listing Wire.Group) :=
  (a.endpoint.withZone zone).get Groups.collection

theorem runOn_loadGroups_of_cached {groups : ZoneGroups} (h : c.groups.get? zone = some groups) :
    (loadGroups a zone).runOn c = (.ok groups, c) := by
  unfold loadGroups
  rw [Op.runOn_bind_of_ok (Op.runOn_getThe c), h]
  rfl

/-- A zone that is not in the cache is loaded: its groups first, then its record. -/
theorem runOn_loadGroups_of_absent (h : c.groups.get? zone = none) :
    (loadGroups a zone).runOn c = match (listingOf a zone).runOn c with
      | (.error f, c₁) => (.error f, ⟨c₁.network, c.groups⟩)
      | (.ok list, c₁) =>
        match (Zones.get a.zones zone).runOn c₁ with
        | (.error f, c₂) => (.error f, ⟨c₂.network, c.groups⟩)
        | (.ok record, c₂) =>
          (.ok (entryOf list record),
            ⟨c₂.network, (c.groups.insert zone (entryOf list record)).2⟩) := by
  unfold loadGroups
  rw [Op.runOn_bind_of_ok (Op.runOn_getThe c), h]
  show Op.runOn (listingOf a zone >>= _) c = _
  rw [Op.runOn_bind]
  rcases hl : (listingOf a zone).runOn c with ⟨r, n₁, g₁⟩
  -- Neither request touches the cache, so the zone is still absent when the entry is put into it.
  have hlist : g₁ = c.groups := Endpoint.groups_of_ask hl
  subst hlist
  cases r with
  | error f => rfl
  | ok list =>
    dsimp only
    rw [Op.runOn_bind]
    rcases hz : (Zones.get a.zones zone).runOn ⟨n₁, c.groups⟩ with ⟨r, n₂, g₂⟩
    have hzone : g₂ = c.groups := Endpoint.groups_of_ask hz
    subst hzone
    cases r with
    | error f => rfl
    | ok record =>
      dsimp only
      rw [Op.runOn_bind_of_ok (Op.runOn_getThe _), Op.runOn_bind_of_ok (Op.runOn_set _ _),
        Op.runOn_pure, GroupCache.insert_fst, h, Option.getD_none]

/-- A load that fails was one of a zone that is not in the cache, and leaves the cache as it was. -/
theorem loadGroups_error {f : Fault} (h : (loadGroups a zone).runOn c = (.error f, c')) :
    c.groups.get? zone = none ∧ c'.groups = c.groups := by
  rcases hc : c.groups.get? zone with _ | groups
  · rw [runOn_loadGroups_of_absent hc] at h
    refine ⟨rfl, ?_⟩
    split at h
    · obtain rfl := (Prod.mk.inj h).2
      rfl
    · split at h
      · obtain rfl := (Prod.mk.inj h).2
        rfl
      · exact absurd (Prod.mk.inj h).1 (by simp)
  · rw [runOn_loadGroups_of_cached hc] at h
    exact absurd (Prod.mk.inj h).1 (by simp)

/-- After a load that succeeds the zone is in the cache, with the entry that was given. -/
theorem loadGroups_ok {groups : ZoneGroups}
    (h : (loadGroups a zone).runOn c = (.ok groups, c')) : c'.groups.get? zone = some groups := by
  rcases hc : c.groups.get? zone with _ | kept
  · rw [runOn_loadGroups_of_absent hc] at h
    split at h
    · exact absurd (Prod.mk.inj h).1 (by simp)
    · split at h
      · exact absurd (Prod.mk.inj h).1 (by simp)
      · obtain ⟨hg, rfl⟩ := Prod.mk.inj h
        obtain rfl := Except.ok.inj hg
        rw [GroupCache.get?_insert, if_pos rfl, hc, Option.getD_none]
  · rw [runOn_loadGroups_of_cached hc] at h
    obtain ⟨hg, rfl⟩ := Prod.mk.inj h
    rw [hc, Except.ok.inj hg]

/-- The exchanges of a load are those of its two requests. -/
theorem loadGroups_makes_of {P : Net.Exchange → Prop} (hlist : (listingOf a zone).Makes P)
    (hzone : (Zones.get a.zones zone).Makes P) : (loadGroups a zone).Makes P := by
  intro c
  rcases hc : c.groups.get? zone with _ | groups
  · -- The entry is put into the cache without an exchange, so these two are all there is.
    have hboth := (hlist.bind fun _ => hzone) c
    rw [Op.runOn_bind] at hboth
    rw [runOn_loadGroups_of_absent hc]
    rcases hl : (listingOf a zone).runOn c with ⟨r, c₁⟩
    rw [hl] at hboth
    cases r with
    | error f => exact hboth
    | ok list =>
      dsimp only at hboth ⊢
      rcases hz : (Zones.get a.zones zone).runOn c₁ with ⟨r, c₂⟩
      rw [hz] at hboth
      cases r with
      | error f => exact hboth
      | ok record => exact hboth
  · rw [runOn_loadGroups_of_cached hc]
    exact ⟨[], (List.append_nil _).symm, by simp⟩

/-- A load only reads. -/
theorem loadGroups_makes (a : UserAdmin) (zone : String) :
    (loadGroups a zone).Makes fun x => x.request.method = .get :=
  loadGroups_makes_of (Op.makes_ask fun _ h => (Endpoint.request_eq_ok h).1)
    (Op.makes_ask fun _ h => (Endpoint.request_eq_ok h).1)

end Users

end UaaAdmin
