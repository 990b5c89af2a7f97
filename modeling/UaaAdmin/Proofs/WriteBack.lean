import UaaAdmin.Proofs.CallSequences
import UaaAdmin.Proofs.Creation
import UaaAdmin.Proofs.SlashRuns
import UaaAdmin.Proofs.UserReading

/-!
# Writing back what the server reports

A handler that creates or updates an object gets records of it: the answers to the requests that
create it, replace it or read it (`Net.Request.IsFor`). What it got last (`LastRecord`) is how the
server has the object, and a handler writes that back if it leaves nothing more to be taken over
(`Handler.WritesBack`).

The payoff is `handlers_write_back`. For clients, groups and zones that is so; users keep what was
declared for them, so that it is only so if the server reports just that. `users_not_written_back`
has a server that does not.
-/

namespace UaaAdmin

variable {α M R : Type}

/-! ## Records -/

/-- The request is for a record of the object: it creates it, replaces it or reads it. -/
def Net.Request.IsFor (e : Endpoint) (kind : Kind) (id : String) (r : Net.Request) : Prop :=
  ∃ task ∈ [Task.create kind, .replace kind id, .get kind id],
    r.method = task.method ∧ r.url = e.urlOf task.path

/-- The last record of the object that came of some exchanges. -/
inductive LastRecord [JsonForm R] (e : Endpoint) (kind : Kind) (id : String) :
    List Net.Exchange → R → Prop
  /-- It came of this exchange, and none comes of a later one. -/
  | last {x record later} (hfor : x.request.IsFor e kind id) (hx : x.outcome.Gives record)
    (hlater : ∀ y ∈ later, y.request.IsFor e kind id → ∀ other : R, ¬y.outcome.Gives other) :
    LastRecord e kind id (x :: later) record
  /-- It came of a later exchange. -/
  | later {x record xs} (h : LastRecord e kind id xs record) : LastRecord e kind id (x :: xs) record

namespace LastRecord

variable [JsonForm R] {e : Endpoint} {kind : Kind} {id : String} {xs : List Net.Exchange}
  {record record' : R}

theorem exists_exchange (h : LastRecord e kind id xs record) :
    ∃ x ∈ xs, x.request.IsFor e kind id ∧ x.outcome.Gives record := by
  induction h with
  | last hfor hx _ => exact ⟨_, List.mem_cons_self, hfor, hx⟩
  | later _ ih =>
    obtain ⟨x, hmem, hx⟩ := ih
    exact ⟨x, List.mem_cons_of_mem _ hmem, hx⟩

/-- There is one last record at most. -/
theorem unique (h : LastRecord e kind id xs record) (h' : LastRecord e kind id xs record') :
    record = record' := by
  -- Of two different exchanges the earlier one would not be the last.
  induction h with
  | last hfor hx hlater =>
    cases h' with
    | last _ hx' _ => exact hx.unique hx'
    | later h' =>
      obtain ⟨y, hmem, hfor', hy⟩ := h'.exists_exchange
      exact absurd hy (hlater y hmem hfor' _)
  | later h ih =>
    cases h' with
    | last _ _ hlater =>
      obtain ⟨y, hmem, hfor', hy⟩ := h.exists_exchange
      exact absurd hy (hlater y hmem hfor' _)
    | later h' => exact ih h'

theorem append_left (h : LastRecord e kind id xs record) (before : List Net.Exchange) :
    LastRecord e kind id (before ++ xs) record := by
  induction before with
  | nil => exact h
  | cons x before ih => exact .later ih

/-- A record that came of an exchange stays the last one if no later request is for one. -/
theorem of_exchange {x : Net.Exchange} {later : List Net.Exchange}
    (hfor : x.request.IsFor e kind id) (hx : x.outcome.Gives record)
    (hlater : ∀ y ∈ later, ¬y.request.IsFor e kind id) :
    LastRecord e kind id (x :: later) record :=
  .last hfor hx fun y hy hfor' => absurd hfor' (hlater y hy)

end LastRecord

/-! ## Writing back -/

section

variable [JsonForm R]

/-- If the handler ends well after it got records of the object, then taking over the last of them
once more changes nothing in the declared state, exactly if `cond` holds of the snapshot that it
began with and this record. -/
def Handler.WritesBackWhen (h : Handler M Unit) (s : Session) (kind : Kind) (takeOver : M → R → M)
    (cond : Snapshot M → R → Prop) : Prop :=
  ∀ d c d' c' xs record, h.runOn d c = (.ok (), d', c') →
    c'.network.log = c.network.log ++ xs → LastRecord s.endpoint kind d'.id xs record →
    (takeOver d'.desired record = d'.desired ↔ cond d record)

/-- The handler writes back what the server reports: if it ends well after it got records of the
object, the declared state is as the last of them has it. -/
def Handler.WritesBack (h : Handler M Unit) (s : Session) (kind : Kind) (takeOver : M → R → M) :
    Prop :=
  h.WritesBackWhen s kind takeOver fun _ _ => True

variable {h : Handler M Unit} {s : Session} {kind : Kind} {takeOver : M → R → M}
  {cond : Snapshot M → R → Prop}

/-- Which record is the last one has to be known of one way to split the log only. -/
theorem Handler.writesBackWhen_of (hrun : ∀ d c d' c', h.runOn d c = (.ok (), d', c') →
    ∃ xs, c'.network.log = c.network.log ++ xs ∧
      ((∀ x ∈ xs, ¬x.request.IsFor s.endpoint kind d'.id) ∨
        ∃ record, LastRecord s.endpoint kind d'.id xs record ∧
          (takeOver d'.desired record = d'.desired ↔ cond d record))) :
    h.WritesBackWhen s kind takeOver cond := by
  intro d c d' c' xs record hok hlog hlast
  obtain ⟨ys, hlog', hys⟩ := hrun d c d' c' hok
  obtain rfl : xs = ys := List.append_cancel_left (hlog.symm.trans hlog')
  rcases hys with hnone | ⟨record', hlast', hwritten⟩
  · obtain ⟨x, hx, hfor, -⟩ := hlast.exists_exchange
    exact absurd hfor (hnone x hx)
  · rwa [hlast.unique hlast']

/-- A handler that ends well after one exchange, which gives a record with something to be taken
over, does not write back what it gets. -/
theorem Handler.not_writesBack (d : Snapshot M) (c : Connection) (task : Task) (record : R)
    (hok : (h.runOn d c).1.isOk = true)
    (htask : task ∈ [Task.create kind, .replace kind (h.runOn d c).2.1.id,
      .get kind (h.runOn d c).2.1.id])
    (hlog : c.network.log = [])
    (hexchange : (h.runOn d c).2.2.network.log.map (fun x =>
        (x.request.method, x.request.url, x.outcome.value.toOption))
      = [(task.method, s.endpoint.urlOf task.path, some record)])
    (hne : takeOver (h.runOn d c).2.1.desired record ≠ (h.runOn d c).2.1.desired) :
    ¬h.WritesBack s kind takeOver := by
  intro hwrites
  rcases hrun : h.runOn d c with ⟨f | _, d', c'⟩
  · rw [hrun] at hok
    exact absurd hok (by simp [Except.isOk, Except.toBool])
  · rw [hrun] at htask hexchange hne
    obtain ⟨x, hx, heq⟩ := List.map_eq_singleton_iff.mp hexchange
    obtain ⟨hmethod, hrest⟩ := Prod.mk.inj heq
    obtain ⟨hurl, hvalue⟩ := Prod.mk.inj hrest
    have hgives : x.outcome.Gives record := by
      rw [← Net.Outcome.value_eq_ok_iff]
      rcases hv : x.outcome.value (α := R) with f | a
      · rw [hv] at hvalue
        exact absurd hvalue (by simp [Except.toOption])
      · rw [hv] at hvalue
        rw [Option.some.inj hvalue]
    have hlast : LastRecord s.endpoint kind d'.id [x] record :=
      .of_exchange ⟨task, htask, hmethod, hurl⟩ hgives (by simp)
    exact hne ((hwrites d c d' c' [x] record hrun (by rw [hlog, hx]; rfl) hlast).mpr trivial)

/-! ## Operations that end with a record -/

/-- If the operation gives a record, its last exchange does, in answer to a request for one. -/
def Op.EndsWith (op : Op R) (s : Session) (kind : Kind) (id : R → String) : Prop :=
  ∀ c record c', op.runOn c = (.ok record, c') → ∃ before x,
    c'.network.log = c.network.log ++ (before ++ [x]) ∧
    x.request.IsFor s.endpoint kind (id record) ∧ x.outcome.Gives record

/-- What is done before the request does not matter. -/
theorem Op.EndsWith.after {id : R → String} {op : Op α} {f : α → Op R}
    (hop : op.Makes fun _ => True) (hf : ∀ a, (f a).EndsWith s kind id) :
    (op >>= f).EndsWith s kind id := by
  intro c record c' hrun
  obtain ⟨a, c₁, hfirst, hrest⟩ := runOn_bind_eq_ok.mp hrun
  obtain ⟨xs, hxs, -⟩ := hop c
  obtain ⟨before, x, hlog, hfor, hx⟩ := hf a c₁ record c' hrest
  rw [hfirst] at hxs
  refine ⟨xs ++ before, x, ?_, hfor, hx⟩
  rw [hlog, hxs, List.append_assoc, List.append_assoc]

/-- A call for a record of an object. -/
theorem ManagerCall.endsWith (call : ManagerCall R) {id : R → String}
    (hreading : call.reading = .body R .ok)
    (htask : ∀ record, call.task ∈ [Task.create kind, .replace kind (id record),
      .get kind (id record)]) : (call.op s).EndsWith s kind id := by
  intro c record c' hrun
  have hgoes := call.goes s c
  rw [hrun] at hgoes
  cases hgoes with
  | @made x _ _ _ h hadv hends =>
    obtain ⟨hmethod, hurl, -⟩ := Endpoint.request_eq_ok h
    rw [hreading] at hends
    refine ⟨[], x, hadv.log, ⟨call.task, htask record, hmethod, ?_⟩, hends.gives⟩
    rw [hurl]
    unfold Endpoint.urlOf
    rw [(call.endpoint_shared s).1]

/-- A handler that makes an operation for a record has that as the last one when it takes it
over. -/
theorem Handler.lastRecord_writing {op : Snapshot M → Op R} {write : R → Snapshot M → Snapshot M}
    {d d' : Snapshot M} {c c' : Connection}
    (hop : (op d).EndsWith s kind fun record => (write record d).id)
    (hok : (writing op write).runOn d c = (.ok (), d', c')) :
    ∃ xs record, c'.network.log = c.network.log ++ xs ∧
      LastRecord s.endpoint kind d'.id xs record ∧ d' = write record d := by
  rw [runOn_writing] at hok
  rcases hr : (op d).runOn c with ⟨f | record, c₁⟩
  · rw [hr] at hok
    exact absurd (congrArg Prod.fst hok) (by simp)
  · rw [hr] at hok
    obtain ⟨-, hrest⟩ := Prod.mk.inj hok
    obtain ⟨rfl, rfl⟩ := Prod.mk.inj hrest
    obtain ⟨before, x, hlog, hfor, hx⟩ := hop c record c₁ hr
    exact ⟨before ++ [x], record, hlog,
      (LastRecord.of_exchange hfor hx (by simp)).append_left before, rfl⟩

/-- Such a handler writes back what it gets. -/
theorem Handler.writesBack_writing {op : Snapshot M → Op R} {write : R → Snapshot M → Snapshot M}
    (hop : ∀ d, (op d).EndsWith s kind fun record => (write record d).id)
    (hwrite : ∀ record d, takeOver (write record d).desired record = (write record d).desired) :
    (writing op write).WritesBack s kind takeOver := by
  refine writesBackWhen_of fun d c d' c' hok => ?_
  obtain ⟨xs, record, hlog, hlast, rfl⟩ := lastRecord_writing (hop d) hok
  exact ⟨xs, hlog, .inr ⟨record, hlast, iff_of_true (hwrite record d) trivial⟩⟩

end

namespace Lifecycle

/-! ## Clients, groups and zones -/

namespace Client

open Declared (Client)

/-- Reading a client ends with its record. -/
theorem get_endsWith (s : Session) (id zone : String) :
    (Clients.get s.endpoint id zone).EndsWith s .client fun _ => id :=
  ManagerCall.endsWith (.getClient id zone) rfl fun _ => by simp [ManagerCall.task]

theorem update_writesBack (s : Session) :
    (update s).WritesBack s .client Declared.Client.absorb := by
  rw [update_eq]
  refine Handler.writesBack_writing (fun d => ?_) fun _ _ => rfl
  have hsettings : (replaceSettings s.endpoint d).Makes fun _ => True := by
    unfold replaceSettings
    split
    · exact (Op.makes_ask fun _ _ => trivial).bind fun _ => Op.makes_pure _
    · exact Op.makes_pure _
  have hsecret : (replaceSecret s.endpoint d).Makes fun _ => True := by
    unfold replaceSecret
    split
    · exact (Op.makes_ask fun _ _ => trivial).bind fun _ => Op.makes_pure _
    · exact Op.makes_pure _
  refine Op.EndsWith.after (Op.makes_ofExcept _) fun _ => ?_
  refine Op.EndsWith.after hsettings fun _ => ?_
  exact Op.EndsWith.after hsecret fun _ => get_endsWith s d.id d.desired.zone

/-- A client that has been created is read back, under the id that its first record has. -/
theorem create_writesBack (s : Session) :
    (create s).WritesBack s .client Declared.Client.absorb := by
  refine Handler.writesBackWhen_of fun d c d' c' hok => ?_
  rw [runOn_create] at hok
  rcases hr : (register s d).runOn c with ⟨f | first, c₁⟩
  · rw [hr] at hok
    exact absurd (congrArg Prod.fst hok) (by simp)
  · rw [hr] at hok
    dsimp only at hok
    -- The record that was registered is not the last one: the client is read back.
    rw [read_eq] at hok
    have hregister : (register s d).Makes fun _ => True :=
      (Op.makes_ofExcept _).bind fun _ => Op.makes_orExists (Op.makes_ask fun _ _ => trivial) _ _
    obtain ⟨before, hbefore, -⟩ := hregister c
    rw [hr] at hbefore
    obtain ⟨xs, record, hlog, hlast, rfl⟩ := Handler.lastRecord_writing (get_endsWith s _ _) hok
    refine ⟨before ++ xs, ?_, .inr ⟨record, hlast.append_left before, iff_of_true rfl trivial⟩⟩
    rw [hlog, hbefore, List.append_assoc]

end Client

namespace Group

open Declared (Group)

theorem absorb_absorb (m : Group) (record : Wire.Group) :
    (m.absorb record).absorb record = m.absorb record := by
  unfold Declared.Group.absorb Declared.reportedOr
  split <;> rfl

theorem create_writesBack (s : Session) : (create s).WritesBack s .group Declared.Group.absorb := by
  rw [create_eq]
  refine Handler.writesBack_writing (fun d => ?_) fun record d => absorb_absorb d.desired record
  exact ManagerCall.endsWith
    (.createGroup d.desired.displayName d.desired.description d.desired.zoneId) rfl
    fun _ => List.mem_cons_self

/-- The group that there is nothing to change of is not asked for. -/
theorem update_writesBack (s : Session) : (update s).WritesBack s .group Declared.Group.absorb := by
  refine Handler.writesBackWhen_of fun d c d' c' hok => ?_
  rw [update_eq, Handler.runOn_writing] at hok
  unfold replace? at hok
  by_cases hd : differs d = true
  · rw [if_pos hd, Op.runOn_bind] at hok
    have hwriting : (Handler.writing (fun _ => Groups.update s.endpoint d.id d.desired.displayName
        d.desired.description d.desired.zoneId) absorb).runOn d c = (.ok (), d', c') := by
      rw [Handler.runOn_writing, ← hok]
      rcases (Groups.update s.endpoint d.id d.desired.displayName d.desired.description
        d.desired.zoneId).runOn c with ⟨f | record, c₁⟩ <;> rfl
    have hput : (Groups.update s.endpoint d.id d.desired.displayName d.desired.description
        d.desired.zoneId).EndsWith s .group fun _ => d.id :=
      ManagerCall.endsWith (.updateGroup d.id d.desired.displayName d.desired.description
        d.desired.zoneId) rfl fun _ => by simp [ManagerCall.task]
    obtain ⟨xs, record, hlog, hlast, rfl⟩ := Handler.lastRecord_writing hput hwriting
    exact ⟨xs, hlog, .inr ⟨record, hlast, iff_of_true (absorb_absorb _ record) trivial⟩⟩
  · rw [if_neg hd] at hok
    obtain ⟨-, hrest⟩ := Prod.mk.inj hok
    obtain ⟨rfl, rfl⟩ := Prod.mk.inj hrest
    exact ⟨[], (List.append_nil _).symm, .inl (by simp)⟩

end Group

namespace Zone

open Declared (Zone)

theorem create_writesBack (s : Session) :
    (create s).WritesBack s .zone fun _ record => Zone.ofWire record := by
  rw [create_eq]
  refine Handler.writesBack_writing (fun d => ?_) fun _ _ => rfl
  exact ManagerCall.endsWith (.createZone (d.desired.toWire d.id)) rfl
    fun _ => List.mem_cons_self

theorem update_writesBack (s : Session) :
    (update s).WritesBack s .zone fun _ record => Zone.ofWire record := by
  rw [update_eq]
  refine Handler.writesBack_writing (fun d => ?_) fun _ _ => rfl
  exact ManagerCall.endsWith (.updateZone d.id (d.desired.toWire d.id)) rfl
    fun _ => by simp [ManagerCall.task, replace]

end Zone

end Lifecycle

/-! ## Users -/

namespace Declared.User

/-- The record has the user as it is declared, the zone apart. -/
structure Matches (u : User) (r : Wire.User) : Prop where
  username : r.username = u.username
  origin : r.origin = u.origin
  givenName : r.name.givenName = u.givenName
  familyName : r.name.familyName = u.familyName
  email : r.primaryEmail?.getD "" = u.email

/-- There is nothing to be taken over of a record exactly if it has the user as it is declared. -/
theorem absorb_eq_self_iff {u : User} {r : Wire.User} :
    u.absorb r = u ↔ u.Matches r ∧ (r.zoneId = "" ∨ r.zoneId = u.zoneId) := by
  constructor
  · intro h
    refine ⟨⟨congrArg username h, congrArg origin h, congrArg givenName h, congrArg familyName h,
      congrArg email h⟩, ?_⟩
    have hzone : reportedOr u.zoneId r.zoneId = u.zoneId := congrArg zoneId h
    unfold reportedOr at hzone
    by_cases hr : r.zoneId = ""
    · exact .inl hr
    · rw [if_neg hr] at hzone
      exact .inr hzone
  · rintro ⟨⟨husername, horigin, hgiven, hfamily, hemail⟩, hzone⟩
    have hreported : reportedOr u.zoneId r.zoneId = u.zoneId := by
      unfold reportedOr
      rcases hzone with hr | hr
      · rw [if_pos hr]
      · rw [hr, ite_self]
    unfold absorb
    rw [husername, horigin, hgiven, hfamily, hemail, hreported]

end Declared.User

namespace Lifecycle.User

open Declared (User)

/-- What has nothing to do with users has another address than a request for a user. -/
theorem not_isFor_of_path {e : Endpoint} {id path : String} {r : Net.Request} (a : Char)
    (hurl : r.url = e.urlOf path) (hpath : ∃ cs, path.toList = '/' :: a :: cs)
    (hslash : a ≠ '/') (ha : a ≠ 'U') : ¬r.IsFor e .user id := by
  obtain ⟨cs, hpath⟩ := hpath
  rintro ⟨task, htask, -, hfor⟩
  have hcollection : ∃ rest, task.path = Kind.user.collection ++ rest := by
    simp only [List.mem_cons, List.not_mem_nil, or_false] at htask
    rcases htask with rfl | rfl | rfl
    · exact ⟨"", String.append_empty.symm⟩
    · exact ⟨"/" ++ id, String.append_assoc⟩
    · exact ⟨"/" ++ id, String.append_assoc⟩
  obtain ⟨rest, hrest⟩ := hcollection
  have hchars : task.path.toList = '/' :: 'U' :: (['s', 'e', 'r', 's'] ++ rest.toList) := by
    rw [hrest, String.toList_append]
    rfl
  exact Endpoint.urlOf_ne hpath hchars hslash (by decide) ha (hurl.symm.trans hfor)

/-- No record of a user comes of what is done about its groups. -/
theorem syncRoles_makes_no_record (s : Session) (d : Snapshot User) (id : String) :
    (syncRoles s.users d).Makes fun x => ¬x.request.IsFor s.endpoint .user id := by
  refine syncRoles_makes (Users.loadGroups_makes_of ?list ?record) ?change
  case list =>
    refine Op.makes_ask fun x h => ?_
    obtain ⟨-, hurl, -⟩ := Endpoint.request_eq_ok h
    exact not_isFor_of_path 'G' hurl ⟨_, rfl⟩ (by decide) (by decide)
  case record =>
    refine Op.makes_ask fun x h => ?_
    obtain ⟨-, hurl, -⟩ := Endpoint.request_eq_ok h
    exact not_isFor_of_path 'i' hurl (by simp [Zones.pathOf, Zones.collection]) (by decide)
      (by decide)
  case change =>
    intro ch x h
    unfold Users.Change.request at h
    cases ch with
    | remove g =>
      obtain ⟨-, hurl, -⟩ := Endpoint.request_eq_ok h
      exact not_isFor_of_path 'G' hurl (by simp) (by decide) (by decide)
    | add g =>
      obtain ⟨-, hurl, -⟩ := Endpoint.request_eq_ok h
      exact not_isFor_of_path 'G' hurl (by simp) (by decide) (by decide)

/-- No record of a user comes of a change of its password. -/
theorem replacePassword_makes_no_record (s : Session) (d : Snapshot User) :
    (replacePassword s.users d).Makes fun x => ¬x.request.IsFor s.endpoint .user d.id := by
  refine replacePassword_makes_of fun old new => ?_
  refine Op.Makes.bind (Op.makes_ask fun x h => ?_) fun _ => Op.makes_pure _
  obtain ⟨hmethod, hurl, -⟩ := Endpoint.request_eq_ok h
  have hpassword : x.request.url = s.endpoint.urlOf ("/Users/" ++ d.id ++ "/password") := by
    rw [hurl]
    split <;> rfl
  rintro ⟨task, htask, hfor, htaskurl⟩
  simp only [List.mem_cons, List.not_mem_nil, or_false] at htask
  -- Records are replaced by `PUT` as well, but at another address.
  rcases htask with rfl | rfl | rfl
  · exact absurd (hmethod.symm.trans hfor) (by simp [Task.method])
  · exact Endpoint.urlOf_append_ne (by decide) (hpassword.symm.trans htaskurl)
  · exact absurd (hmethod.symm.trans hfor) (by simp [Task.method])

/-- A user that has been created has the id and the zone of its record, and is as declared for the
rest. -/
theorem create_writesBackWhen (s : Session) :
    (create s).WritesBackWhen s .user User.absorb fun d record =>
      (pending d.desired).Matches record := by
  refine Handler.writesBackWhen_of fun d c d' c' hok => ?_
  rw [runOn_create] at hok
  rcases hr : (register s d).runOn c with ⟨f | record, c₁⟩
  · rw [hr] at hok
    exact absurd (congrArg Prod.fst hok) (by simp)
  · rw [hr] at hok
    dsimp only at hok
    rw [Handler.runOn_call] at hok
    obtain ⟨-, hrest⟩ := Prod.mk.inj hok
    obtain ⟨rfl, rfl⟩ := Prod.mk.inj hrest
    have hregister : (register s d).EndsWith s .user fun record => record.id :=
      ManagerCall.endsWith (.createUser (pending d.desired).profile (pending d.desired).password
        (pending d.desired).provider (pending d.desired).zoneId) rfl fun _ => List.mem_cons_self
    obtain ⟨before, x, hlog, hfor, hx⟩ := hregister c record c₁ hr
    obtain ⟨later, hlater, hnone⟩ := syncRoles_makes_no_record s (placed record d) record.id c₁
    refine ⟨before ++ x :: later, ?_, .inr ⟨record,
      (LastRecord.of_exchange hfor hx hnone).append_left before, ?_⟩⟩
    · rw [hlater, hlog]
      simp
    · -- The zone is as reported, so that only the rest of the record counts.
      have hzone : record.zoneId = "" ∨ record.zoneId = (placed record d).desired.zoneId := by
        by_cases hreported : record.zoneId = ""
        · exact .inl hreported
        · exact .inr (if_neg hreported).symm
      rw [Declared.User.absorb_eq_self_iff, and_iff_left hzone]
      exact ⟨fun ⟨hn, ho, hg, hf, he⟩ => ⟨hn, ho, hg, hf, he⟩,
        fun ⟨hn, ho, hg, hf, he⟩ => ⟨hn, ho, hg, hf, he⟩⟩

/-- A user that has been updated is as declared. -/
theorem update_writesBackWhen (s : Session) :
    (update s).WritesBackWhen s .user User.absorb fun d record =>
      d.desired.Matches record ∧ (record.zoneId = "" ∨ record.zoneId = d.desired.zoneId) := by
  refine Handler.writesBackWhen_of fun d c d' c' hok => ?_
  rw [runOn_update, Handler.runOn_call] at hok
  obtain ⟨hr, hrest⟩ := Prod.mk.inj hok
  obtain ⟨rfl, hc⟩ := Prod.mk.inj hrest
  obtain ⟨_, c₁, hprofile, hlater⟩ := Op.runOn_bind_eq_ok.mp (Prod.ext_iff.mpr ⟨hr, hc⟩)
  obtain ⟨later, hlog, hnone⟩ := ((replacePassword_makes_no_record s d).bind fun _ =>
    syncRoles_makes_no_record s d d.id) c₁
  rw [hlater] at hlog
  -- A record only comes of the profile: password and groups are dealt with later on.
  unfold replaceProfile at hprofile
  split at hprofile
  · obtain ⟨record, c₂, hput, hpure⟩ := Op.runOn_bind_eq_ok.mp hprofile
    obtain rfl := (Prod.mk.inj hpure).2
    have hreplace : (Users.update s.users d.id d.desired.profile d.desired.zoneId).EndsWith s .user
        fun _ => d.id :=
      ManagerCall.endsWith (.updateUser d.id d.desired.profile d.desired.zoneId) rfl
        fun _ => by simp [ManagerCall.task]
    obtain ⟨before, x, hbefore, hfor, hx⟩ := hreplace c record c₂ hput
    refine ⟨before ++ x :: later, ?_, .inr ⟨record,
      (LastRecord.of_exchange hfor hx hnone).append_left before,
      Declared.User.absorb_eq_self_iff⟩⟩
    rw [hlog, hbefore]
    simp
  · obtain rfl := (Prod.mk.inj hprofile).2
    exact ⟨later, hlog, .inl hnone⟩

end Lifecycle.User

open Lifecycle in
/-- Creating or updating a client, a group or a zone writes back what the server reports. For a user
that is only so if the server reports it as it was declared. -/
theorem handlers_write_back (s : Session) :
    (Client.create s).WritesBack s .client Declared.Client.absorb ∧
    (Client.update s).WritesBack s .client Declared.Client.absorb ∧
    (Group.create s).WritesBack s .group Declared.Group.absorb ∧
    (Group.update s).WritesBack s .group Declared.Group.absorb ∧
    (Zone.create s).WritesBack s .zone (fun _ record => Declared.Zone.ofWire record) ∧
    (Zone.update s).WritesBack s .zone (fun _ record => Declared.Zone.ofWire record) ∧
    (User.create s).WritesBackWhen s .user Declared.User.absorb
      (fun d record => (User.pending d.desired).Matches record) ∧
    (User.update s).WritesBackWhen s .user Declared.User.absorb (fun d record =>
      d.desired.Matches record ∧ (record.zoneId = "" ∨ record.zoneId = d.desired.zoneId)) :=
  ⟨Client.create_writesBack s, Client.update_writesBack s, Group.create_writesBack s,
    Group.update_writesBack s, Zone.create_writesBack s, Zone.update_writesBack s,
    User.create_writesBackWhen s, User.update_writesBackWhen s⟩

namespace Lifecycle.User

open Declared (User)

/-- A user whose name is not in lower case. -/
def capital : User := { username := "Ann", origin := "uaa", email := "a@b", zoneId := "z" }

/-- A server that puts names into lower case. -/
def lowering : Connection :=
  answering [(200, "\x7b\"id\":\"u1\",\"userName\":\"ann\",\"origin\":\"uaa\",\"emails\":" ++
    "[\x7b\"value\":\"a@b\"\x7d],\"zoneId\":\"z\"\x7d")]

/-- What the server answers. -/
def lowered : Wire.User :=
  { id := "u1", username := "ann", origin := "uaa", emails := [⟨"a@b"⟩], zoneId := "z" }

/-- The name that the server reports is neither written back when the user is created nor when it is
updated. -/
theorem users_not_written_back :
    ¬(create session).WritesBack session .user User.absorb ∧
    ¬(update session).WritesBack session .user User.absorb := by
  have hid : ((update session).runOn (.planned "u1" {} capital) lowering).2.1.id = "u1" := by
    decide +kernel
  constructor
  · exact Handler.not_writesBack (.new capital) lowering (.create .user) lowered (by decide +kernel)
      List.mem_cons_self rfl (by decide +kernel) (by decide +kernel)
  · exact Handler.not_writesBack (.planned "u1" {} capital) lowering (.replace .user "u1") lowered
      (by decide +kernel) (by rw [hid]; exact List.mem_cons_of_mem _ List.mem_cons_self) rfl
      (by decide +kernel) (by decide +kernel)

end Lifecycle.User

end UaaAdmin
