import UaaAdmin.Proofs.UserUpdates

/-!
# Groups of a user that is read

The record of a user names its groups one by one, in any order and perhaps more than once, and each
of them is looked up in the zone that the user had before its record was taken over. That costs one
load at most (`readingCalls`), and all of them are judged by one entry (`Knows`): the one in the
cache, or the one that this load puts there.

The payoff is `user_read_hides_defaults`.
-/

namespace UaaAdmin

open Users (Advanced)

namespace Users

/-- A load that gives an entry has found it in the cache, or has made its two calls and put it
there. -/
theorem loadGroups_ok_attempted {s : Session} {zone : String} {c c' : Connection}
    {entry : ZoneGroups} (h : (loadGroups s.users zone).runOn c = (.ok entry, c')) :
    ∃ xs, Advanced c xs { c' with groups := c.groups } ∧
      c'.groups = (c.groups.insert zone entry).2 ∧
      (c.groups.get? zone = some entry ∧ xs = [] ∨
        c.groups.get? zone = none ∧ Attempted s [⟨.listGroups zone⟩, ⟨.getZone zone⟩] xs (.ok ()) ∧
          ∃ x y, xs = [x, y] ∧ IsLoad s.users zone entry x y) := by
  rcases hc : c.groups.get? zone with _ | kept
  · obtain ⟨xs, hadv, hattempted, hloaded⟩ := runOn_loadGroups_attempted s hc
    rw [h] at hadv hattempted hloaded
    refine ⟨xs, hadv, ?_, .inr ⟨rfl, hattempted, hloaded entry rfl⟩⟩
    rcases loadGroups_cases (a := s.users) hc with
      ⟨entry', x, y, c₁, hrun, -, -⟩ | ⟨f, ys, c₁, hrun, -⟩
    · obtain ⟨hentry, rfl⟩ := Prod.mk.inj (h.symm.trans hrun)
      rw [Except.ok.inj hentry]
    · exact absurd (Prod.mk.inj (h.symm.trans hrun)).1 (by simp)
  · rw [runOn_loadGroups_of_cached hc] at h
    obtain ⟨hentry, rfl⟩ := Prod.mk.inj h
    obtain rfl := Except.ok.inj hentry
    refine ⟨[], .refl c, ?_, .inl ⟨rfl, rfl⟩⟩
    rw [GroupCache.insert, hc]

end Users

namespace Lifecycle.User

open Declared (User)

/-- The calls of a read that gets this record: for the record, and for the zone if the user is in a
group and the zone is not in the cache. -/
def readingCalls (d : Snapshot User) (c : Connection) (record : Wire.User) : List AnyCall :=
  ⟨.getUser d.id d.desired.zoneId⟩ ::
    if record.groups ≠ [] ∧ c.groups.get? d.desired.zoneId = none then
      [⟨.listGroups d.desired.zoneId⟩, ⟨.getZone d.desired.zoneId⟩]
    else []

variable {s : Session} {d : Snapshot User} {c c₁ c₂ : Connection} {record : Wire.User}

/-- The record is got by one call. -/
theorem recordOf_attempted (h : (recordOf s d).runOn c = (.ok record, c₁)) :
    ∃ x, Advanced c [x] c₁ ∧ Attempted s [⟨.getUser d.id d.desired.zoneId⟩] [x] (.ok ()) ∧
      x.outcome.Gives record := by
  obtain ⟨xs, hadv, hattempted, hgiven⟩ :=
    Op.runOn_call_attempted s (.getUser d.id d.desired.zoneId) c
  have hrun : ((ManagerCall.getUser d.id d.desired.zoneId).op s).runOn c = (.ok record, c₁) := h
  rw [hrun] at hadv hattempted hgiven
  obtain ⟨x, rfl, hends⟩ := hgiven record rfl
  exact ⟨x, hadv, hattempted, hends.gives⟩

/-- A read of a user whose groups can be told apart. -/
theorem runOn_read_of_groups {entry : ZoneGroups}
    (h : (recordOf s d).runOn c = (.ok record, c₁)) (hgroups : record.groups ≠ [])
    (hload : (zoneOf s d).runOn c₁ = (.ok entry, c₂)) :
    (read s).runOn d c = (.ok (), { d with
      desired := { d.desired.absorb record with
        groups := extraNames entry ∅ record.groups } }, c₂) := by
  obtain ⟨g, gs, hcons⟩ := List.exists_cons_of_ne_nil hgroups
  unfold zoneOf at hload
  rw [runOn_read, h]
  dsimp only
  rw [hcons, runOn_extraGroups_cons, hload]

/-- A read of a user in no group. -/
theorem runOn_read_of_no_group (h : (recordOf s d).runOn c = (.ok record, c₁))
    (hgroups : record.groups = []) :
    (read s).runOn d c
      = (.ok (), { d with desired := { d.desired.absorb record with groups := ∅ } }, c₁) := by
  rw [runOn_read, h]
  dsimp only
  rw [hgroups]
  rfl

theorem sent_readingCalls (s : Session) (d : Snapshot User) (c : Connection)
    (record : Wire.User) :
    (readingCalls d c record).map (fun call => (call.sent, call.zoneIn s))
      = ((.get, "/Users/" ++ d.id, .empty), d.desired.zoneId) ::
        if record.groups ≠ [] ∧ c.groups.get? d.desired.zoneId = none then
          [((.get, "/Groups", .empty), d.desired.zoneId),
            ((.get, "/identity-zones/" ++ d.desired.zoneId, .empty), s.endpoint.zone)] else [] := by
  unfold readingCalls
  rw [List.map_cons, apply_ite (List.map _)]
  rfl

/-- What a read that gets this record leaves of the groups, which the calls in `xs` made known. -/
inductive Hides (s : Session) (d : Snapshot User) (c : Connection) (record : Wire.User)
    (xs : List Net.Exchange) (groups : NameSet) : GroupCache → Prop
  /-- Of no group none is left, and none is looked up. -/
  | none (h : record.groups = []) (hgroups : groups = ∅) : Hides s d c record xs groups c.groups
  /-- All groups that are no default groups by the one entry of the zone, which is in the cache from
  then on. -/
  | defaults {entry cache} (h : record.groups ≠ []) (hknows : Knows s d c xs entry)
    (hgroups : ∀ n, n ∈ groups ↔ n ∈ record.groups.map (·.display) ∧ entry.isDefault n = false)
    (hcached : cache.get? d.desired.zoneId = some entry)
    (hothers : ∀ z, z ≠ d.desired.zoneId → cache.get? z = c.groups.get? z) :
    Hides s d c record xs groups cache

/-- With the record and, where it is needed, the zone a read ends well and sends its calls. -/
theorem runOn_read_hides (hrecord : (recordOf s d).runOn c = (.ok record, c₁))
    (hload : record.groups ≠ [] → c.groups.get? d.desired.zoneId = none →
      ∃ entry c₂, (zoneOf s d).runOn c₁ = (.ok entry, c₂)) :
    ∃ groups c' xs,
      (read s).runOn d c
        = (.ok (), { d with desired := { d.desired.absorb record with groups } }, c') ∧
      Advanced c xs { c' with groups := c.groups } ∧
      Attempted s (readingCalls d c record) xs (.ok ()) ∧
      Hides s d c record xs groups c'.groups := by
  obtain ⟨w, hadv, hattempted, -⟩ := recordOf_attempted hrecord
  -- The record is got without touching the cache.
  obtain ⟨n₁, g₁⟩ := c₁
  obtain rfl : g₁ = c.groups := hadv.groups
  by_cases hgroups : record.groups = []
  · refine ⟨∅, _, [w], runOn_read_of_no_group hrecord hgroups, hadv, ?_, .none hgroups rfl⟩
    unfold readingCalls
    rw [if_neg fun hboth => hboth.1 hgroups]
    exact hattempted
  · have hzone : ∃ entry c₂, (zoneOf s d).runOn ⟨n₁, c.groups⟩ = (.ok entry, c₂) := by
      rcases hc : c.groups.get? d.desired.zoneId with _ | entry
      · exact hload hgroups hc
      · exact ⟨entry, _, Users.runOn_loadGroups_of_cached hc⟩
    obtain ⟨entry, c₂, hentry⟩ := hzone
    obtain ⟨xs, hadv', hcache, hcalls⟩ := Users.loadGroups_ok_attempted hentry
    dsimp only at hadv' hcache hcalls
    refine ⟨_, c₂, w :: xs, runOn_read_of_groups hrecord hgroups hentry, hadv.trans hadv', ?_,
      .defaults hgroups ?_ (fun n => ?_) (Users.loadGroups_ok hentry) fun z hz => ?_⟩
    · unfold readingCalls
      rcases hcalls with ⟨hc, rfl⟩ | ⟨hc, hloading, -⟩
      · rw [if_neg fun hboth => absurd (hc.symm.trans hboth.2) (by simp)]
        exact hattempted
      · rw [if_pos ⟨hgroups, hc⟩]
        exact hattempted.append hloading
    · rcases hcalls with ⟨hc, -⟩ | ⟨hc, -, x, y, rfl, hisLoad⟩
      · exact .inl hc
      · exact .inr ⟨hc, [w], x, y, rfl, hisLoad⟩
    · rw [mem_extraNames]
      exact or_iff_right NameSet.not_mem_empty
    · rw [hcache, GroupCache.get?_insert, if_neg hz]

/-- A read of a user whose record is got, and whose zone can be loaded if it has to be, ends well.
It leaves id, former state and password as they are, takes over the rest of the record, and keeps of
its groups those that are no default groups of the zone in which the user was declared, by the one
entry that this zone has in the cache or gets. It asks for the record, and after it for the zone
exactly if the user is in a group and the zone is not in the cache; however many groups there are,
it asks for nothing else. -/
theorem user_read_hides_defaults (hrecord : (recordOf s d).runOn c = (.ok record, c₁))
    (hload : record.groups ≠ [] → c.groups.get? d.desired.zoneId = none →
      ∃ entry c₂, (zoneOf s d).runOn c₁ = (.ok entry, c₂)) :
    let run := (read s).runOn d c
    let new := run.2.1.desired
    run.1 = .ok () ∧
    (run.2.1.id = d.id ∧ run.2.1.prior = d.prior ∧ new.password = d.desired.password) ∧
    (new.username = record.username ∧ new.origin = record.origin ∧
      new.givenName = record.name.givenName ∧ new.familyName = record.name.familyName ∧
      new.email = ((record.emails.map (·.value)).head?).getD "" ∧
      new.zoneId = if record.zoneId = "" then d.desired.zoneId else record.zoneId) ∧
    (∃ xs, Advanced c xs { run.2.2 with groups := c.groups } ∧
      Attempted s (readingCalls d c record) xs (.ok ()) ∧
      Hides s d c record xs new.groups run.2.2.groups) ∧
    (readingCalls d c record).map (fun call => (call.sent, call.zoneIn s))
      = ((.get, "/Users/" ++ d.id, .empty), d.desired.zoneId) ::
        if record.groups ≠ [] ∧ c.groups.get? d.desired.zoneId = none then
          [((.get, "/Groups", .empty), d.desired.zoneId),
            ((.get, "/identity-zones/" ++ d.desired.zoneId, .empty), s.endpoint.zone)] else [] := by
  intro run new
  obtain ⟨groups, c', xs, hread, hadv, hattempted, hhides⟩ := runOn_read_hides hrecord hload
  have hrun : run = (.ok (), { d with desired := { d.desired.absorb record with groups } }, c') :=
    hread
  -- Of several addresses the first one counts.
  have hemail : record.primaryEmail?.getD "" = ((record.emails.map (·.value)).head?).getD "" := by
    rw [List.head?_map]
    rfl
  rw [show new = run.2.1.desired from rfl, hrun]
  exact ⟨rfl, ⟨rfl, rfl, rfl⟩, ⟨rfl, rfl, rfl, rfl, hemail, rfl⟩, ⟨xs, hadv, hattempted, hhides⟩,
    sent_readingCalls s d c record⟩

/-- The record of a user in three groups, one of which it names twice, who was moved to another
zone. -/
def moved : Wire.User :=
  { id := "u1", username := "m", zoneId := "y",
    groups := [{ display := "b" }, { display := "d" }, { display := "a" }, { display := "b" }] }

/-- A server that has this record. In the old zone of the user one of the groups is a default
group. -/
def relocating : Connection :=
  answering [
    (200, "\x7b\"id\":\"u1\",\"userName\":\"m\",\"zoneId\":\"y\",\"groups\":[" ++
      "\x7b\"display\":\"b\"\x7d,\x7b\"display\":\"d\"\x7d,\x7b\"display\":\"a\"\x7d," ++
      "\x7b\"display\":\"b\"\x7d]\x7d"),
    (200, "\x7b\"resources\":[]\x7d"),
    (200, "\x7b\"id\":\"z\",\"subdomain\":\"z\",\"name\":\"z\",\"config\":" ++
      "\x7b\"userConfig\":\x7b\"defaultGroups\":[\"d\"]\x7d\x7d\x7d")]

/-- It is read with the groups that are none in its old zone, and costs three requests. -/
theorem user_read_hides_defaults_moved :
    let record := (recordOf session settled).runOn relocating
    let load := (zoneOf session settled).runOn record.2
    let run := (read session).runOn settled relocating
    record.1 = .ok moved ∧ load.1 = .ok (ZoneGroups.ofLists [] ["d"]) ∧
    run.1 = .ok () ∧ run.2.1.desired.zoneId = "y" ∧
    run.2.1.desired.groups = NameSet.ofList ["a", "b"] ∧ run.2.2.network.log.length = 3 := by
  intro record load run
  have hanswers : (record.1, load.1) = (.ok moved, .ok (ZoneGroups.ofLists [] ["d"])) := by
    decide +kernel
  obtain ⟨hrecord, hload⟩ := Prod.mk.inj hanswers
  have hgot : record = (.ok moved, record.2) := Prod.ext hrecord rfl
  obtain ⟨hok, -, ⟨-, -, -, -, -, hzone⟩, -, -⟩ :=
    user_read_hides_defaults hgot fun _ _ => ⟨_, load.2, Prod.ext hload rfl⟩
  have hleft : (run.2.1.desired.groups, run.2.2.network.log.length)
      = (NameSet.ofList ["a", "b"], 3) := by decide +kernel
  exact ⟨hrecord, hload, hok, hzone.trans (by decide), Prod.mk.inj hleft⟩

end Lifecycle.User

end UaaAdmin
