import UaaAdmin.Proofs.RoleSync

/-!
# Reading users

A user is read in two parts: its record, which is taken over at once, and then the groups of its
zone, of which the default ones are hidden. The second part is left out for a user in no group, and
has at most one load (`runOn_extraGroups_cons`): every group after the first one finds the zone in
the cache.

The payoff is `read_outcomes`. It says how a read can go, and when one that fails has done no more
than it should: drop the id of a user that is gone. It does more in two ways. A user whose record
could not be read for any other reason loses its id as well, and a load that fails comes too late,
when the record has been taken over and the groups have not.
-/

namespace UaaAdmin.Lifecycle.User

open Declared (User)

/-! ## Groups of a user -/

/-- The names of reported groups that are no default groups of the zone, added to `found`. -/
def extraNames (entry : ZoneGroups) (found : NameSet) (gs : List Wire.UserGroup) : NameSet :=
  gs.foldl (fun found g => if entry.isDefault g.display then found else found.insert g.display)
    found

theorem mem_extraNames {entry : ZoneGroups} {found : NameSet} {gs : List Wire.UserGroup}
    {name : String} : name ∈ extraNames entry found gs ↔
      name ∈ found ∨ name ∈ gs.map (·.display) ∧ entry.isDefault name = false := by
  unfold extraNames
  induction gs generalizing found with
  | nil => simp
  | cons g gs ih =>
    rw [List.foldl_cons, ih, List.map_cons, List.mem_cons]
    by_cases hdef : entry.isDefault g.display = true
    · rw [if_pos hdef]
      refine or_congr_right (and_congr_left fun hname => ?_)
      have hne : name ≠ g.display := by
        rintro rfl
        exact absurd (hdef.symm.trans hname) (by simp)
      rw [or_iff_right hne]
    · rw [if_neg hdef, NameSet.mem_insert]
      constructor
      · rintro ((rfl | hfound) | ⟨hmem, hname⟩)
        · exact .inr ⟨.inl rfl, eq_false_of_ne_true hdef⟩
        · exact .inl hfound
        · exact .inr ⟨.inr hmem, hname⟩
      · rintro (hfound | ⟨rfl | hmem, hname⟩)
        · exact .inl (.inr hfound)
        · exact .inl (.inl rfl)
        · exact .inr ⟨hmem, hname⟩

variable {a : UserAdmin} {zone : String} {c : Connection}

/-- With the zone in the cache the groups are sorted out without a request. -/
theorem runOn_extraGroups_of_cached {entry : ZoneGroups} (h : c.groups.get? zone = some entry)
    (found : NameSet) (gs : List Wire.UserGroup) :
    (extraGroups a zone found gs).runOn c = (.ok (extraNames entry found gs), c) := by
  induction gs generalizing found with
  | nil => rfl
  | cons g gs ih =>
    have hdef : (Users.isDefaultGroup a zone g.display).runOn c
        = (.ok (entry.isDefault g.display), c) := by
      unfold Users.isDefaultGroup
      rw [Op.runOn_bind_of_ok (Users.runOn_loadGroups_of_cached h), Op.runOn_pure]
    unfold extraGroups
    rw [Op.runOn_bind_of_ok hdef]
    exact ih _

/-- One load decides about all groups of a user. -/
theorem runOn_extraGroups_cons (a : UserAdmin) (zone : String) (found : NameSet)
    (g : Wire.UserGroup) (gs : List Wire.UserGroup) (c : Connection) :
    (extraGroups a zone found (g :: gs)).runOn c = match (Users.loadGroups a zone).runOn c with
      | (.error f, c₁) => (.error f, c₁)
      | (.ok entry, c₁) => (.ok (extraNames entry found (g :: gs)), c₁) := by
  unfold extraGroups Users.isDefaultGroup
  rw [Op.runOn_bind, Op.runOn_bind]
  rcases hload : (Users.loadGroups a zone).runOn c with ⟨f | entry, c₁⟩
  · rfl
  · -- The load has left the zone in the cache, so the other groups ask for nothing.
    dsimp only
    exact runOn_extraGroups_of_cached (Users.loadGroups_ok hload) _ gs

/-! ## The two parts of a read -/

/-- The request for the record of the user. -/
def recordOf (s : Session) (d : Snapshot User) : Op Wire.User :=
  Users.get s.users d.id d.desired.zoneId

/-- The groups of the zone in which the user is declared, whatever zone its record names. -/
def zoneOf (s : Session) (d : Snapshot User) : Op ZoneGroups :=
  Users.loadGroups s.users d.desired.zoneId

theorem runOn_read (s : Session) (d : Snapshot User) (c : Connection) :
    (read s).runOn d c = match (recordOf s d).runOn c with
      | (.error f, c₁) => (.error f, { d with id := "" }, c₁)
      | (.ok record, c₁) =>
        match (extraGroups s.users d.desired.zoneId ∅ record.groups).runOn c₁ with
        | (.error f, c₂) => (.error f, { d with desired := d.desired.absorb record }, c₂)
        | (.ok groups, c₂) =>
          (.ok (), { d with desired := { d.desired.absorb record with groups } }, c₂) := by
  unfold read recordOf
  rw [Handler.runOn_bind, Handler.runOn_snapshot]
  dsimp only
  rw [Handler.runOn_bind, Handler.runOn_tryCatch, Handler.runOn_call]
  rcases (Users.get s.users d.id d.desired.zoneId).runOn c with ⟨f | record, c₁⟩
  · rfl
  · dsimp only
    rw [Handler.runOn_bind, Handler.runOn_changeDesired]
    dsimp only
    rw [Handler.runOn_bind, Handler.runOn_call]
    rcases (extraGroups s.users d.desired.zoneId ∅ record.groups).runOn c₁ with
      ⟨f | groups, c₂⟩ <;> rfl

/-- How a read can go: its result, the snapshot and the connection that it leaves. -/
inductive ReadGoes (s : Session) (d : Snapshot User) (c : Connection) :
    Except Fault Unit × Snapshot User × Connection → Prop
  /-- There is no record to be had, and the id is dropped. -/
  | dropped {f c₁} (h : (recordOf s d).runOn c = (.error f, c₁)) :
    ReadGoes s d c (.error f, { d with id := "" }, c₁)
  /-- The record is taken over, but the groups that it reports cannot be told apart. -/
  | torn {record f c₁ c₂} (h : (recordOf s d).runOn c = (.ok record, c₁))
    (hgroups : record.groups ≠ []) (hload : (zoneOf s d).runOn c₁ = (.error f, c₂)) :
    ReadGoes s d c (.error f, { d with desired := d.desired.absorb record }, c₂)
  /-- The record of a user in no group is taken over, and nothing else is asked for. -/
  | ungrouped {record c₁} (h : (recordOf s d).runOn c = (.ok record, c₁))
    (hgroups : record.groups = []) :
    ReadGoes s d c (.ok (), { d with desired := { d.desired.absorb record with groups := ∅ } }, c₁)
  /-- The record is taken over, with its groups but for the default ones. -/
  | complete {record entry groups c₁ c₂} (h : (recordOf s d).runOn c = (.ok record, c₁))
    (hgroups : record.groups ≠ []) (hload : (zoneOf s d).runOn c₁ = (.ok entry, c₂))
    (hextra : ∀ name, name ∈ groups ↔
      name ∈ record.groups.map (·.display) ∧ entry.isDefault name = false) :
    ReadGoes s d c (.ok (), { d with desired := { d.desired.absorb record with groups } }, c₂)

/-- Every read goes in one of these ways. -/
theorem readGoes (s : Session) (d : Snapshot User) (c : Connection) :
    ReadGoes s d c ((read s).runOn d c) := by
  rw [runOn_read]
  rcases h : (recordOf s d).runOn c with ⟨f | record, c₁⟩
  · exact .dropped h
  · dsimp only
    rcases hgroups : record.groups with _ | ⟨g, gs⟩
    · exact .ungrouped h hgroups
    · have hne : record.groups ≠ [] := by simp [hgroups]
      rw [runOn_extraGroups_cons]
      rcases hload : (Users.loadGroups s.users d.desired.zoneId).runOn c₁ with ⟨f | entry, c₂⟩
      · exact .torn h hne hload
      · refine .complete h hne hload fun name => ?_
        rw [mem_extraNames, hgroups]
        exact or_iff_right NameSet.not_mem_empty

/-- A record that cannot be read costs the user its id. -/
theorem runOn_read_of_no_record {s : Session} {d : Snapshot User} {f : Fault} {c₁ : Connection}
    (h : (recordOf s d).runOn c = (.error f, c₁)) :
    (read s).runOn d c = (.error f, { d with id := "" }, c₁) := by
  rw [runOn_read, h]

/-- Groups that cannot be loaded leave the record taken over without them. -/
theorem runOn_read_of_no_groups {s : Session} {d : Snapshot User} {record : Wire.User} {f : Fault}
    {c₁ c₂ : Connection} (h : (recordOf s d).runOn c = (.ok record, c₁))
    (hgroups : record.groups ≠ []) (hload : (zoneOf s d).runOn c₁ = (.error f, c₂)) :
    (read s).runOn d c = (.error f, { d with desired := d.desired.absorb record }, c₂) := by
  obtain ⟨g, gs, hcons⟩ := List.exists_cons_of_ne_nil hgroups
  unfold zoneOf at hload
  rw [runOn_read, h]
  dsimp only
  rw [hcons, runOn_extraGroups_cons, hload]

/-! ## What a failed read should leave -/

/-- If the read fails, nothing has changed, unless the user is gone: then only its id is dropped. -/
def FailsAtomically (s : Session) (d : Snapshot User) (c : Connection) : Prop :=
  let run := (read s).runOn d c
  ∀ f, run.1 = .error f →
    run.2.1 = d ∨
    ((recordOf s d).runOn c).1 = .error f ∧ f.isNotFound = true ∧ run.2.1 = { d with id := "" }

/-- A read of a user goes in one of four ways. It fails as it should, with nothing changed but the
id of a user that is gone, exactly if it has no id to drop when its record cannot be read for
another reason, and nothing to take over from its record when its groups cannot be loaded. -/
theorem read_outcomes (s : Session) (d : Snapshot User) (c : Connection) :
    ReadGoes s d c ((read s).runOn d c) ∧
    (FailsAtomically s d c ↔
      (∀ f c₁, (recordOf s d).runOn c = (.error f, c₁) → f.isNotFound = true ∨ d.id = "") ∧
      ∀ record f c₁ c₂, (recordOf s d).runOn c = (.ok record, c₁) → record.groups ≠ [] →
        (zoneOf s d).runOn c₁ = (.error f, c₂) → d.desired.absorb record = d.desired) := by
  refine ⟨readGoes s d c, ?_⟩
  unfold FailsAtomically
  constructor
  · intro hatomic
    constructor
    · intro f c₁ h
      rw [runOn_read_of_no_record h] at hatomic
      rcases hatomic f rfl with hsame | ⟨-, hgone, -⟩
      · exact .inr (congrArg Snapshot.id hsame).symm
      · exact .inl hgone
    · intro record f c₁ c₂ h hgroups hload
      rw [runOn_read_of_no_groups h hgroups hload] at hatomic
      rcases hatomic f rfl with hsame | ⟨-, -, hdrop⟩
      · exact congrArg Snapshot.desired hsame
      · exact congrArg Snapshot.desired hdrop
  · rintro ⟨hrecord, hload⟩
    dsimp only
    intro f hf
    have hgoes := readGoes s d c
    generalize (read s).runOn d c = run at hf hgoes ⊢
    -- A read fails without a record, or with one whose groups cannot be told apart.
    cases hgoes with
    | dropped h =>
      obtain rfl := Except.error.inj hf
      rcases hrecord _ _ h with hgone | hid
      · exact .inr ⟨congrArg Prod.fst h, hgone, rfl⟩
      · left
        rw [← hid]
    | torn h hgroups hzone =>
      left
      rw [hload _ _ _ _ h hgroups hzone]
    | ungrouped h hgroups => exact absurd hf (by simp)
    | complete h hgroups hzone hextra => exact absurd hf (by simp)

/-- A user who is there, and whose zone has not been loaded. -/
def settled : Snapshot User :=
  .existing "u1" { username := "n", email := "n", zoneId := "z", groups := NameSet.ofList ["a"] }

/-- A connection on which a server gives some answers and then no more. -/
def answering (replies : List (Nat × String)) : Connection :=
  { network := { replies := replies.map fun r => some ⟨r.1, Text.Utf8.encode r.2⟩ } }

/-- A server in trouble makes a read drop the id of a user who is there. If it gets into trouble
between the record and the groups, the read leaves the new name beside the old groups. -/
theorem read_not_atomic :
    (¬FailsAtomically session settled (answering [(500, "")]) ∧
      ((read session).runOn settled (answering [(500, "")])).2.1 = { settled with id := "" }) ∧
    let renamed := "\x7b\"id\":\"u1\",\"userName\":\"m\",\"groups\":[\x7b\"display\":\"b\"\x7d]\x7d"
    ¬FailsAtomically session settled (answering [(200, renamed), (500, "")]) ∧
      ((read session).runOn settled (answering [(200, renamed), (500, "")])).2.1.desired
        = { username := "m", zoneId := "z", groups := NameSet.ofList ["a"] } := by
  refine ⟨⟨fun hatomic => ?_, by decide +kernel⟩, fun hatomic => ?_, by decide +kernel⟩
  · rcases hatomic (.http 500 none none) (by decide +kernel) with hsame | ⟨-, hgone, -⟩
    · exact absurd hsame (by decide +kernel)
    · exact absurd hgone (by decide)
  · rcases hatomic (.http 500 none none) (by decide +kernel) with hsame | ⟨-, hgone, -⟩
    · exact absurd hsame (by decide +kernel)
    · exact absurd hgone (by decide)

end UaaAdmin.Lifecycle.User
