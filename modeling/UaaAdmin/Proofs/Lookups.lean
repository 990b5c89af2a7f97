import UaaAdmin.Proofs.UserGroups
import UaaAdmin.Proofs.WritesLast

/-!
# Looking up and reading

An object can be found by its name, or read by its id. Where both come upon the same record
(`Views.Both`), they should leave the same id and the same declared state (`SameState`).

The payoff is `lookups_show_reads`. For clients, groups and zones that is so. A user who is looked
up keeps the groups that were declared, while one who is read gets those that are reported, so that
it is only so if these are the same; `user_found_without_groups` has a user who is in a group.
-/

namespace UaaAdmin

variable {L R M α B : Type}

/-! ## Answers to handlers -/

/-- What a result is taken from is in the answer. -/
theorem Ends.of_body [JsonForm B] {conflict? : Option (String × String)}
    {take : B → Except Fault α} {o : Net.Outcome} {a : α}
    (h : Ends conflict? (.body B take) o (.ok a)) : ∃ b, o.Gives b ∧ take b = .ok a := by
  generalize hok : (Except.ok a : Except Fault α) = r at h
  cases h with
  | @read _ _ _ _ b hstatus hbody =>
    exact ⟨b, ⟨_, rfl, Net.Reply.isSuccess_iff.mpr hstatus, readBody?_eq_some_iff.mpr hbody⟩,
      rfl⟩
  | _ => exact absurd hok (by simp)

namespace Handler

/-- The handler ends well with the snapshot `d'`, and the first of its requests is answered with
`v`. -/
def AnsweredWith [JsonForm α] (h : Handler M Unit) (d : Snapshot M) (c : Connection) (v : α)
    (d' : Snapshot M) : Prop :=
  ∃ c' x xs, h.runOn d c = (.ok (), d', c') ∧ c'.network.log = c.network.log ++ x :: xs ∧
    x.outcome.Gives v

/-- A handler that ends well, and whose first exchange is answered with a value. -/
theorem answeredWith_of_head? [JsonForm α] {h : Handler M Unit} {d : Snapshot M}
    {c : Connection} {v : α} (hlog : c.network.log = []) (hok : (h.runOn d c).1 = .ok ())
    (hfirst : (h.runOn d c).2.2.network.log.head?.map (·.outcome.value) = some (.ok v)) :
    h.AnsweredWith d c v (h.runOn d c).2.1 := by
  obtain ⟨x, hx, hvalue⟩ := Option.map_eq_some_iff.mp hfirst
  obtain ⟨xs, hxs⟩ := List.head?_eq_some_iff.mp hx
  refine ⟨(h.runOn d c).2.2, x, xs, Prod.ext hok rfl, ?_, Net.Outcome.value_eq_ok_iff.mp hvalue⟩
  rw [hlog, hxs]
  rfl

/-- A handler that is one call and then one change writes what the call makes of the answer. -/
theorem answeredWith_writing [JsonForm B] {s : Session} {h : Handler M Unit}
    (call : Snapshot M → ManagerCall α) {write : α → Snapshot M → Snapshot M}
    {take : Snapshot M → B → Except Fault α}
    (heq : h = writing (fun d => (call d).op s) write)
    (hreading : ∀ d, (call d).reading = .body B (take d)) {d d' : Snapshot M} {c : Connection}
    {b : B} (hanswered : h.AnsweredWith d c b d') : ∃ a, take d b = .ok a ∧ d' = write a d := by
  obtain ⟨c', x, xs, hrun, hlog, hgives⟩ := hanswered
  rw [heq, runOn_writing] at hrun
  obtain ⟨ys, hadv, -, hgiven⟩ := Op.runOn_call_attempted s (call d) c
  rcases hcall : ((call d).op s).runOn c with ⟨f | a, c₁⟩
  · rw [hcall] at hrun
    exact absurd (Prod.mk.inj hrun).1 (by simp)
  · rw [hcall] at hrun hadv hgiven
    obtain ⟨-, hrest⟩ := Prod.mk.inj hrun
    obtain ⟨rfl, rfl⟩ := Prod.mk.inj hrest
    obtain ⟨y, rfl, hends⟩ := hgiven a rfl
    rw [hreading] at hends
    obtain ⟨b', hgives', htake⟩ := hends.of_body
    -- The one exchange of the call is the first one of the handler.
    obtain ⟨rfl, -⟩ := List.cons.inj (List.append_cancel_left (hlog.symm.trans hadv.log))
    obtain rfl := hgives.unique hgives'
    exact ⟨a, htake, rfl⟩

end Handler

theorem foundOr_eq_ok_iff {kind key : String} {found : Option α} {a : α} :
    foundOr kind key found = .ok a ↔ found = some a := by
  cases found with
  | none => simp [foundOr]
  | some b => simp [foundOr]

/-! ## Two ways to the same record -/

/-- The two ways to take the state of an object from the server. -/
structure Views (L R M : Type) where
  /-- Finds the object by its name. -/
  lookup : Handler M Unit
  /-- Reads the object by its id. -/
  read : Handler M Unit
  /-- The record that is chosen from a list for a declared state. -/
  choose : M → L → Option R
  /-- The id of the object with this record. -/
  idOf : R → String

/-- Two snapshots show the same: id and declared state. -/
def SameState (d d' : Snapshot M) : Prop := d.id = d'.id ∧ d.desired = d'.desired

namespace Views

variable [JsonForm L] [JsonForm R]

/-- Both ways come upon one record, from the same declared state: `found` is left by a look-up that
chooses it from the list that is its answer, and `seen` by a read of the object with its id on the
connection `c`, which is answered with it. -/
structure Both (v : Views L R M) (m : M) (record : R) (c : Connection) (found seen : Snapshot M) :
    Prop where
  found : ∃ d c₁ list, d.desired = m ∧ v.choose m list = some record ∧
    v.lookup.AnsweredWith d c₁ list found
  seen : ∃ d, d.desired = m ∧ d.id = v.idOf record ∧ v.read.AnsweredWith d c record seen

/-- A look-up leaves the id and the state of the record that it chooses. -/
def LookupTakes (v : Views L R M) (takeOver : M → R → M) : Prop :=
  ∀ d c list d', v.lookup.AnsweredWith d c list d' → ∃ record,
    v.choose d.desired list = some record ∧
    d' = { d with id := v.idOf record, desired := takeOver d.desired record }

/-- A read leaves the state of the record. -/
def ReadTakes (v : Views L R M) (takeOver : M → R → M) : Prop :=
  ∀ d c record d', v.read.AnsweredWith d c record d' →
    d' = { d with desired := takeOver d.desired record }

variable {v : Views L R M} {takeOver : M → R → M} {m : M} {record : R} {c : Connection}
  {found seen : Snapshot M}

theorem LookupTakes.of_both (hlookup : v.LookupTakes takeOver) (h : v.Both m record c found seen) :
    found.id = v.idOf record ∧ found.desired = takeOver m record := by
  obtain ⟨d, c₁, list, rfl, hchosen, hanswered⟩ := h.found
  obtain ⟨record', hchosen', rfl⟩ := hlookup d c₁ list found hanswered
  obtain rfl := Option.some.inj (hchosen.symm.trans hchosen')
  exact ⟨rfl, rfl⟩

theorem ReadTakes.of_both (hread : v.ReadTakes takeOver) (h : v.Both m record c found seen) :
    seen.id = v.idOf record ∧ seen.desired = takeOver m record := by
  obtain ⟨d, rfl, hid, hanswered⟩ := h.seen
  obtain rfl := hread d c record seen hanswered
  exact ⟨hid, rfl⟩

/-- Where both take over the same of a record, they show the same. -/
theorem sameState_of_takes (hlookup : v.LookupTakes takeOver) (hread : v.ReadTakes takeOver)
    (h : v.Both m record c found seen) :
    SameState found seen ∧ seen.id = v.idOf record ∧ seen.desired = takeOver m record := by
  obtain ⟨hid, hdesired⟩ := hlookup.of_both h
  obtain ⟨hid', hdesired'⟩ := hread.of_both h
  exact ⟨⟨hid.trans hid'.symm, hdesired.trans hdesired'.symm⟩, hid', hdesired'⟩

end Views

/-! ## Clients, groups and zones -/

namespace Lifecycle

def Client.views (s : Session) :
    Views (Wire.Listing Wire.Client) Wire.Client Declared.Client where
  lookup := Client.lookup s
  read := Client.read s
  choose _ list := list.resources.head?
  idOf record := record.clientId

def Group.views (s : Session) : Views (Wire.Listing Wire.Group) Wire.Group Declared.Group where
  lookup := Group.lookup s
  read := Group.read s
  choose _ list := list.resources.head?
  idOf record := record.id

/-- Of the zones, which are all listed, the first one with the name is chosen. -/
def Zone.views (s : Session) : Views (List Wire.Zone) Wire.Zone Declared.Zone where
  lookup := Zone.lookup s
  read := Zone.read s
  choose m zones := zones.find? (·.name = m.name)
  idOf record := record.id

def User.views (s : Session) : Views (Wire.Listing Wire.User) Wire.User Declared.User where
  lookup := User.lookup s
  read := User.read s
  choose _ list := list.resources.head?
  idOf record := record.id

theorem Client.lookup_takes (s : Session) : (views s).LookupTakes Declared.Client.absorb := by
  intro d c list d' hanswered
  obtain ⟨record, hfound, hd'⟩ := Handler.answeredWith_writing
    (fun d : Snapshot Declared.Client =>
      ManagerCall.findClient d.desired.clientId d.desired.zone)
    (lookup_eq s) (fun _ => rfl) hanswered
  exact ⟨record, foundOr_eq_ok_iff.mp hfound, hd'⟩

theorem Client.read_takes (s : Session) : (views s).ReadTakes Declared.Client.absorb := by
  intro d c record d' hanswered
  obtain ⟨record', hread, hd'⟩ := Handler.answeredWith_writing
    (fun d : Snapshot Declared.Client => ManagerCall.getClient d.id d.desired.zone)
    (read_eq s) (fun _ => rfl) hanswered
  obtain rfl := Except.ok.inj hread
  exact hd'

theorem Group.lookup_takes (s : Session) : (views s).LookupTakes Declared.Group.absorb := by
  intro d c list d' hanswered
  obtain ⟨record, hfound, hd'⟩ := Handler.answeredWith_writing
    (fun d : Snapshot Declared.Group =>
      ManagerCall.findGroup d.desired.displayName d.desired.zoneId)
    (lookup_eq s) (fun _ => rfl) hanswered
  exact ⟨record, foundOr_eq_ok_iff.mp hfound, hd'⟩

theorem Group.read_takes (s : Session) : (views s).ReadTakes Declared.Group.absorb := by
  intro d c record d' hanswered
  obtain ⟨record', hread, hd'⟩ := Handler.answeredWith_writing
    (fun d : Snapshot Declared.Group => ManagerCall.getGroup d.id d.desired.zoneId)
    (read_eq s) (fun _ => rfl) hanswered
  obtain rfl := Except.ok.inj hread
  exact hd'

theorem Zone.lookup_takes (s : Session) :
    (views s).LookupTakes fun _ record => Declared.Zone.ofWire record := by
  intro d c list d' hanswered
  obtain ⟨record, hfound, hd'⟩ := Handler.answeredWith_writing
    (fun d : Snapshot Declared.Zone => ManagerCall.findZone d.desired.name)
    (lookup_eq s) (fun _ => rfl) hanswered
  exact ⟨record, foundOr_eq_ok_iff.mp hfound, hd'⟩

theorem Zone.read_takes (s : Session) :
    (views s).ReadTakes fun _ record => Declared.Zone.ofWire record := by
  intro d c record d' hanswered
  obtain ⟨record', hread, hd'⟩ := Handler.answeredWith_writing
    (fun d : Snapshot Declared.Zone => ManagerCall.getZone d.id)
    (read_eq s) (fun _ => rfl) hanswered
  obtain rfl := Except.ok.inj hread
  exact hd'

/-! ## Users -/

namespace User

open Declared (User)

/-- A user who is looked up keeps the groups that were declared. -/
theorem lookup_takes (s : Session) : (views s).LookupTakes User.absorb := by
  intro d c list d' hanswered
  obtain ⟨record, hfound, hd'⟩ := Handler.answeredWith_writing
    (fun d : Snapshot User =>
      ManagerCall.findUser d.desired.username d.desired.zoneId)
    (lookup_eq s) (fun _ => rfl) hanswered
  exact ⟨record, foundOr_eq_ok_iff.mp hfound, hd'⟩

/-- A user who is read gets the groups that the record reports, without the default ones. -/
theorem read_answered {s : Session} {d d' : Snapshot User} {c : Connection} {record : Wire.User}
    {entry : ZoneGroups} (h : (read s).AnsweredWith d c record d')
    (hentry : c.groups.get? d.desired.zoneId = some entry) :
    d' = { d with desired :=
      { d.desired.absorb record with groups := extraNames entry ∅ record.groups } } := by
  obtain ⟨c', x, xs, hrun, hlog, hgives⟩ := h
  rw [runOn_read] at hrun
  rcases hrecord : (recordOf s d).runOn c with ⟨f | record', c₁⟩
  · rw [hrecord] at hrun
    exact absurd (Prod.mk.inj hrun).1 (by simp)
  · obtain ⟨y, hadv, -, hgives'⟩ := recordOf_attempted hrecord
    rw [← hadv.groups] at hentry
    rw [hrecord] at hrun
    dsimp only at hrun
    rw [runOn_extraGroups_of_cached hentry] at hrun
    obtain ⟨-, hrest⟩ := Prod.mk.inj hrun
    obtain ⟨rfl, rfl⟩ := Prod.mk.inj hrest
    -- With the zone in the cache the request for the record is the only one.
    obtain ⟨rfl, -⟩ := List.cons.inj (List.append_cancel_left (hlog.symm.trans hadv.log))
    rw [hgives.unique hgives']

theorem absorb_eq_iff {m : User} {record : Wire.User} {groups : NameSet} :
    m.absorb record = { m.absorb record with groups } ↔ m.groups = groups := by
  constructor
  · exact congrArg User.groups
  · rintro rfl
    rfl

end User

end Lifecycle

open Lifecycle in
/-- A look-up and a read that come upon the same record of a client, a group or a zone show the
same. For a user they agree in everything but the groups: a look-up leaves those that were declared,
and a read those of the record that are no default groups; so they show the same exactly if these
are the same groups. -/
theorem lookups_show_reads (s : Session) :
    (∀ m record c found seen, (Client.views s).Both m record c found seen →
      SameState found seen ∧ seen.id = record.clientId ∧ seen.desired = m.absorb record) ∧
    (∀ m record c found seen, (Group.views s).Both m record c found seen →
      SameState found seen ∧ seen.id = record.id ∧ seen.desired = m.absorb record) ∧
    (∀ m record c found seen, (Zone.views s).Both m record c found seen →
      SameState found seen ∧ seen.id = record.id ∧ seen.desired = Declared.Zone.ofWire record) ∧
    ∀ m record c found seen entry, (User.views s).Both m record c found seen →
      c.groups.get? m.zoneId = some entry →
      (found.id = record.id ∧ found.desired = m.absorb record) ∧
      (seen.id = record.id ∧
        seen.desired = { m.absorb record with groups := seen.desired.groups } ∧
        ∀ n, n ∈ seen.desired.groups ↔
          n ∈ record.groups.map (·.display) ∧ entry.isDefault n = false) ∧
      (SameState found seen ↔ m.groups = seen.desired.groups) := by
  refine ⟨fun m record c found seen => Views.sameState_of_takes (Client.lookup_takes s)
      (Client.read_takes s),
    fun m record c found seen => Views.sameState_of_takes (Group.lookup_takes s)
      (Group.read_takes s),
    fun m record c found seen => Views.sameState_of_takes (Zone.lookup_takes s)
      (Zone.read_takes s), ?_⟩
  -- Users are left, of which a read tells the groups and a look-up does not.
  intro m record c found seen entry hboth hentry
  obtain ⟨hid, hdesired⟩ := (User.lookup_takes s).of_both hboth
  obtain ⟨d, rfl, hid', hanswered⟩ := hboth.seen
  obtain rfl := User.read_answered hanswered hentry
  refine ⟨⟨hid, hdesired⟩, ⟨hid', rfl, fun n => ?_⟩, ?_⟩
  · rw [User.mem_extraNames]
    exact or_iff_right NameSet.not_mem_empty
  · unfold SameState
    rw [and_iff_right (hid.trans hid'.symm), hdesired]
    exact User.absorb_eq_iff

open Lifecycle.User (session answering) in
/-- A client whose record marks its scope as empty is found and read without one. -/
theorem lookups_show_reads_of_client :
    let m : Declared.Client :=
      { clientId := "c", clientSecret := "s", scope := NameSet.ofList ["a"] }
    let record : Wire.Client := { clientId := "c", scope := ["uaa.none"] }
    let found := ((Lifecycle.Client.lookup session).runOn (.new m) (answering [(200,
      "\x7b\"resources\":[\x7b\"client_id\":\"c\",\"scope\":[\"uaa.none\"]\x7d]\x7d")])).2.1
    let seen := ((Lifecycle.Client.read session).runOn ⟨"c", none, m⟩ (answering [(200,
      "\x7b\"client_id\":\"c\",\"scope\":[\"uaa.none\"]\x7d")])).2.1
    SameState found seen ∧ seen.desired = m.absorb record ∧ (m.absorb record).scope = ∅ := by
  intro m record found seen
  obtain ⟨hsame, -, hdesired⟩ := (lookups_show_reads session).1 m record _ found seen
    ⟨⟨.new m, _, ⟨[record]⟩, rfl, rfl,
        Handler.answeredWith_of_head? rfl (by decide +kernel) (by decide +kernel)⟩,
      ⟨⟨"c", none, m⟩, rfl, rfl,
        Handler.answeredWith_of_head? rfl (by decide +kernel) (by decide +kernel)⟩⟩
  exact ⟨hsame, hdesired, by decide +kernel⟩

/-! ## A user in a group -/

namespace Lifecycle.User

/-- A user of whom only the name is declared. -/
def named : Declared.User := { username := "n", zoneId := "z" }

/-- The record of this user, who is in a group. -/
def grouped : Wire.User := { id := "u1", username := "n", groups := [{ display := "b" }] }

/-- A server that has this record, asked by one who has the zone in the cache. -/
def listing : Connection :=
  { answering [(200, "\x7b\"resources\":[\x7b\"id\":\"u1\",\"userName\":\"n\",\"groups\":[" ++
      "\x7b\"display\":\"b\"\x7d]\x7d]\x7d")] with
    groups := ⟨NameMap.ofList [("z", ZoneGroups.ofLists [] [])]⟩ }

/-- The same server and connection, when it is asked for the record itself. -/
def showing : Connection :=
  { answering [(200, "\x7b\"id\":\"u1\",\"userName\":\"n\",\"groups\":[" ++
      "\x7b\"display\":\"b\"\x7d]\x7d")] with
    groups := listing.groups }

/-- A user who is in a group is found without it and read with it. -/
theorem user_found_without_groups :
    let found := ((lookup session).runOn (.new named) listing).2.1
    let seen := ((read session).runOn ⟨"u1", none, named⟩ showing).2.1
    (views session).Both named grouped showing found seen ∧
    showing.groups.get? named.zoneId = some (ZoneGroups.ofLists [] []) ∧
    found.desired.groups = ∅ ∧ seen.desired.groups = NameSet.ofList ["b"] ∧
    ¬SameState found seen := by
  intro found seen
  have hfound : found.desired.groups = ∅ := by decide +kernel
  have hseen : seen.desired.groups = NameSet.ofList ["b"] := by decide +kernel
  refine ⟨⟨?_, ?_⟩, by decide +kernel, hfound, hseen, fun hsame => ?_⟩
  · exact ⟨.new named, listing, ⟨[grouped]⟩, rfl, rfl,
      Handler.answeredWith_of_head? rfl (by decide +kernel) (by decide +kernel)⟩
  · exact ⟨⟨"u1", none, named⟩, rfl, rfl,
      Handler.answeredWith_of_head? rfl (by decide +kernel) (by decide +kernel)⟩
  · have hgroups := congrArg (·.groups) hsame.2
    rw [hfound, hseen] at hgroups
    exact absurd hgroups (by decide +kernel)

end Lifecycle.User

end UaaAdmin
