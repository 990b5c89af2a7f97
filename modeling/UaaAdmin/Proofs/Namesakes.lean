import UaaAdmin.Proofs.CacheRuns
import UaaAdmin.Proofs.ManagerCalls

/-!
# Groups of one name

A group can be found by its display name in two ways. Changes of memberships take the id from the
loaded groups of the zone (`Users.groupIdOf`), in which of several groups of one name the last one
counts; a look-up asks the server for the groups of that name and takes the first one
(`Groups.find`). A name that no group has is a fault in both ways.

The payoff is `group_lookups_agree_iff`: if the server gives the same groups in both cases, the two
agree on a name exactly if the first and the last group of that name have one id.
-/

namespace UaaAdmin

/-! ## Ids by name -/

namespace Users

/-- The id that changes of memberships use for the group of a name. -/
def groupIdOf (a : UserAdmin) (zone name : String) : Op String := do
  let groups ← loadGroups a zone
  Op.ofExcept (resolve groups zone name)

variable {a : UserAdmin} {zone name : String} {groups : ZoneGroups} {c c₁ : Connection}

theorem runOn_groupIdOf (h : (loadGroups a zone).runOn c = (.ok groups, c₁)) (name : String) :
    (groupIdOf a zone name).runOn c = (resolve groups zone name, c₁) := by
  unfold groupIdOf
  rw [Op.runOn_bind_of_ok h, Op.runOn_ofExcept]

/-- Once the zone is loaded, names are resolved one by one without a further request. -/
theorem runOn_mapM_groupIdOf (h : c.groups.get? zone = some groups) (names : List String) :
    (names.mapM (groupIdOf a zone)).runOn c = (resolveAll groups zone names, c) := by
  induction names with
  | nil => rfl
  | cons name names ih =>
    have hone := runOn_groupIdOf (runOn_loadGroups_of_cached (a := a) h) name
    rw [List.mapM_cons, resolveAll]
    rcases hid : resolve groups zone name with f | id
    · rw [hid] at hone
      rw [Op.runOn_bind_of_error hone]
      rfl
    · rw [hid] at hone
      rw [Op.runOn_bind_of_ok hone]
      rcases hids : resolveAll groups zone names with f | ids
      · rw [hids] at ih
        rw [Op.runOn_bind_of_error ih]
        rfl
      · rw [hids] at ih
        rw [Op.runOn_bind_of_ok ih]
        rfl

/-- Changes of memberships take the id of each of their names from `groupIdOf`. -/
theorem runOn_updateRoles_eq (a : UserAdmin) (userId : String) (toDelete toAdd : List String)
    (origin zone : String) (c : Connection) :
    (updateRoles a userId toDelete toAdd origin zone).runOn c = Op.runOn (do
      let _ ← loadGroups a zone
      let deleteIds ← toDelete.mapM (groupIdOf a zone)
      let addIds ← toAdd.mapM (groupIdOf a zone)
      removeAll a.endpoint userId zone deleteIds
      addAll a.endpoint (Wire.Membership.ofUser userId origin) zone addIds) c := by
  unfold updateRoles
  rcases hload : (loadGroups a zone).runOn c with ⟨f | groups, c₁⟩
  · rw [Op.runOn_bind_of_error hload, Op.runOn_bind_of_error hload]
  · rw [Op.runOn_bind_of_ok hload, Op.runOn_bind_of_ok hload]
    have hnames := runOn_mapM_groupIdOf (a := a) (loadGroups_ok hload)
    rw [Op.runOn_bind, Op.runOn_bind, hnames, Op.runOn_ofExcept]
    rcases resolveAll groups zone toDelete with f | deleteIds
    · rfl
    · dsimp only
      rw [Op.runOn_bind, Op.runOn_bind, hnames, Op.runOn_ofExcept]

/-! ## What is loaded and what is found -/

/-- A load with two exchanges gives the entry of the groups that the first one was answered with. -/
theorem groupId?_of_load {list : Wire.Listing Wire.Group} {x y : Net.Exchange}
    (h : (loadGroups a zone).runOn c = (.ok groups, c₁))
    (hlog : c₁.network.log = c.network.log ++ [x, y]) (hx : x.outcome.Gives list) (name : String) :
    groups.groupId? name
      = (list.resources.filter (·.displayName = name)).getLast?.map (·.id) := by
  rcases hc : c.groups.get? zone with _ | kept
  · rcases loadGroups_cases (a := a) hc with
      ⟨entry, x', y', c', hrun, hadv, list', record, hlist, -, hentry⟩ | ⟨f, xs, c', hrun, -, -⟩
    · obtain ⟨hgroups, rfl⟩ := Prod.mk.inj (h.symm.trans hrun)
      obtain rfl := Except.ok.inj hgroups
      have hboth := List.append_cancel_left (hlog.symm.trans hadv.log)
      obtain ⟨rfl, -⟩ := List.cons.inj hboth
      obtain rfl := hx.unique hlist.answer
      rw [hentry.groupId?, ← List.head?_filter, List.filter_reverse, List.head?_reverse]
    · exact absurd (Prod.mk.inj (h.symm.trans hrun)).1 (by simp)
  · rw [runOn_loadGroups_of_cached hc] at h
    obtain ⟨-, rfl⟩ := Prod.mk.inj h
    exact absurd hlog (by simp)

end Users

/-- A look-up that was answered takes the first group of the answer. -/
theorem Groups.find_of_answer {e : Endpoint} {zone name : String} {d : Connection}
    {list : Wire.Listing Wire.Group} {x : Net.Exchange}
    (hlog : ((find e name zone).runOn d).2.network.log = d.network.log ++ [x])
    (hx : x.outcome.Gives list) :
    ((find e name zone).runOn d).1 = foundOr "Group" name list.resources.head? := by
  have hasked := Endpoint.asked (α := Wire.Listing Wire.Group) (e.withZone zone) .get
    (filteredPath collection "displayName" name) .empty d
  unfold find Endpoint.get at hlog ⊢
  generalize hrun : ((e.withZone zone).ask .get (filteredPath collection "displayName" name)
    .empty : Op (Wire.Listing Wire.Group)).runOn d = r at hasked
  cases hasked with
  | refused h =>
    rw [Op.runOn_bind_of_error hrun] at hlog
    exact absurd hlog (by simp)
  | failed h hadv hnone =>
    rw [Op.runOn_bind_of_error hrun, hadv.log] at hlog
    obtain ⟨rfl, -⟩ := List.cons.inj (List.append_cancel_left hlog)
    exact absurd hx (hnone list)
  | answered h hadv hgives =>
    rw [Op.runOn_bind_of_ok hrun, Op.runOn_firstOf] at hlog ⊢
    obtain ⟨rfl, -⟩ := List.cons.inj (List.append_cancel_left (hadv.log.symm.trans hlog))
    obtain rfl := hx.unique hgives
    rfl

/-! ## Both -/

open Users (groupIdOf)

/-- Of groups without a common name there is one of each name at most. -/
theorem filter_name_of_nodup {groups : List Wire.Group} (h : (groups.map (·.displayName)).Nodup)
    (name : String) : (groups.filter (·.displayName = name)).length ≤ 1 := by
  have hcount : (groups.map (·.displayName)).count name ≤ 1 := List.nodup_iff_count_le_one.mp h name
  rw [List.count, List.countP_map, List.countP_eq_length_filter] at hcount
  simpa [Function.comp_def, beq_eq_decide] using hcount

/-- The server gives `groups` when the zone is loaded, and those of a name when they are asked for.
If there is no such group, neither way finds one. Otherwise both do, and they find one id exactly if
the first and the last group of the name have one, as they have if no two groups have one name. The
id by which memberships are changed is the one that is found in the first way, in that call and in
all later ones that find the zone loaded. -/
theorem group_lookups_agree_iff {a : UserAdmin} {e : Endpoint} {zone name : String}
    {groups : List Wire.Group} {entry : ZoneGroups} {c c₁ d : Connection} {x y z : Net.Exchange}
    (hload : (Users.loadGroups a zone).runOn c = (.ok entry, c₁))
    (hlog : c₁.network.log = c.network.log ++ [x, y])
    (hx : x.outcome.Gives (⟨groups⟩ : Wire.Listing Wire.Group))
    (hlog' : ((Groups.find e name zone).runOn d).2.network.log = d.network.log ++ [z])
    (hz : z.outcome.Gives
      (⟨groups.filter (·.displayName = name)⟩ : Wire.Listing Wire.Group)) :
    let used := ((groupIdOf a zone name).runOn c).1
    let found := ((Groups.find e name zone).runOn d).1
    let namesakes := groups.filter (·.displayName = name)
    (namesakes = [] →
      used = .error (.groupNotFound zone name) ∧ found = .error (.notFound "Group" name)) ∧
    (∀ first last, namesakes.head? = some first → namesakes.getLast? = some last →
      used = .ok last.id ∧ found = .ok first ∧
        (used = found.map (·.id) ↔ first.id = last.id) ∧
        ((groups.map (·.displayName)).Nodup → used = found.map (·.id))) ∧
    (∀ c', c'.groups.get? zone = some entry → ((groupIdOf a zone name).runOn c').1 = used) ∧
    ∀ userId toDelete toAdd origin c',
      (Users.updateRoles a userId toDelete toAdd origin zone).runOn c' = Op.runOn (do
          let _ ← Users.loadGroups a zone
          let deleteIds ← toDelete.mapM (groupIdOf a zone)
          let addIds ← toAdd.mapM (groupIdOf a zone)
          Users.removeAll a.endpoint userId zone deleteIds
          Users.addAll a.endpoint (Wire.Membership.ofUser userId origin) zone addIds) c' := by
  intro used found namesakes
  have hused : used = Users.resolve entry zone name := by
    show ((groupIdOf a zone name).runOn c).1 = _
    rw [Users.runOn_groupIdOf hload]
  have hid : entry.groupId? name = namesakes.getLast?.map (·.id) :=
    Users.groupId?_of_load hload hlog hx name
  have hfound : found = foundOr "Group" name namesakes.head? := Groups.find_of_answer hlog' hz
  refine ⟨?none, ?some, ?later, fun userId toDelete toAdd origin c' =>
    Users.runOn_updateRoles_eq a userId toDelete toAdd origin zone c'⟩
  case none =>
    intro hnil
    rw [hnil] at hid hfound
    refine ⟨?_, hfound⟩
    rw [hused, Users.resolve, hid]
    rfl
  case some =>
    intro first last hfirst hlast
    rw [hfirst] at hfound
    rw [hlast] at hid
    have hlastId : used = .ok last.id := by
      rw [hused, Users.resolve, hid]
      rfl
    have hagree : used = found.map (·.id) ↔ first.id = last.id := by
      rw [hlastId, hfound]
      show (.ok last.id : Except Fault String) = .ok first.id ↔ _
      rw [Except.ok.injEq, eq_comm]
    refine ⟨hlastId, hfound, hagree, fun hnodup => hagree.mpr ?_⟩
    -- The only group of the name is the first and the last one.
    obtain ⟨rest, hcons⟩ := List.head?_eq_some_iff.mp hfirst
    have hone : namesakes.length ≤ 1 := filter_name_of_nodup hnodup name
    rw [hcons, List.length_cons] at hone
    obtain rfl : rest = [] := List.length_eq_zero_iff.mp (by omega)
    rw [hcons] at hlast
    exact congrArg _ (Option.some.inj hlast)
  case later =>
    intro c' hc'
    rw [hused, Users.runOn_groupIdOf (Users.runOn_loadGroups_of_cached hc')]

/-- A server that answers with some texts, one after the other. -/
def serving (bodies : List String) : Connection :=
  { network := { replies := bodies.map fun body => some ⟨200, Text.Utf8.encode body⟩ } }

/-- What a server with two groups of one name answers, when they are loaded and when they are asked
for. -/
theorem namesakes_answered :
    let e : Endpoint := ⟨"http://h", "bearer t", "", ∅⟩
    let a : UserAdmin := ⟨e, e, "ct"⟩
    let groups := "\x7b\"resources\":[\x7b\"id\":\"g1\",\"displayName\":\"a\"\x7d,"
      ++ "\x7b\"id\":\"g2\",\"displayName\":\"a\"\x7d]\x7d"
    let zone := "\x7b\"id\":\"z\",\"subdomain\":\"z\",\"name\":\"z\"\x7d"
    let list : Wire.Listing Wire.Group :=
      ⟨[{ id := "g1", displayName := "a" }, { id := "g2", displayName := "a" }]⟩
    let loaded := (Users.loadGroups a "z").runOn (serving [groups, zone])
    let looked := (Groups.find a.endpoint "a" "z").runOn (serving [groups])
    (loaded.1 = .ok (ZoneGroups.ofLists [("a", "g2")] []) ∧ loaded.2.network.log.length = 2 ∧
        ∀ x ∈ loaded.2.network.log.head?, x.outcome.value = .ok list) ∧
      looked.2.network.log.length = 1 ∧
        ∀ x ∈ looked.2.network.log.head?, x.outcome.value = .ok list := by
  decide +kernel

/-- Two groups of one name have different ids: memberships of the second one are changed, while the
first one is found. -/
theorem group_lookups_agree_iff_of_two :
    let e : Endpoint := ⟨"http://h", "bearer t", "", ∅⟩
    let a : UserAdmin := ⟨e, e, "ct"⟩
    let groups := "\x7b\"resources\":[\x7b\"id\":\"g1\",\"displayName\":\"a\"\x7d,"
      ++ "\x7b\"id\":\"g2\",\"displayName\":\"a\"\x7d]\x7d"
    let zone := "\x7b\"id\":\"z\",\"subdomain\":\"z\",\"name\":\"z\"\x7d"
    let used := ((groupIdOf a "z" "a").runOn (serving [groups, zone])).1
    let found := ((Groups.find a.endpoint "a" "z").runOn (serving [groups])).1
    used = .ok "g2" ∧ found = .ok { id := "g1", displayName := "a" } ∧
      ¬used = found.map (·.id) := by
  intro a groups zone used found
  obtain ⟨⟨hloaded, htwo, hgives⟩, hone, hgives'⟩ := namesakes_answered
  obtain ⟨x, y, hxy⟩ := List.length_eq_two.mp htwo
  obtain ⟨z, hz⟩ := List.length_eq_one_iff.mp hone
  rw [hxy] at hgives
  rw [hz] at hgives'
  have hx := Net.Outcome.value_eq_ok_iff.mp (hgives x rfl)
  have hz' := Net.Outcome.value_eq_ok_iff.mp (hgives' z rfl)
  obtain ⟨-, hsome, -⟩ := group_lookups_agree_iff (Prod.ext hloaded rfl) hxy hx hz hz'
  obtain ⟨hused, hfound, hagree, -⟩ := hsome _ _ rfl rfl
  exact ⟨hused, hfound, fun h => absurd (hagree.mp h) (by decide)⟩

end UaaAdmin
