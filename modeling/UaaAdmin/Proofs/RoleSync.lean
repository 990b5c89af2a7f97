import UaaAdmin.Lifecycle.User
import UaaAdmin.Proofs.Exchanges
import UaaAdmin.Proofs.MembershipEdits

/-!
# Bringing memberships to what is declared

Creating or updating a user ends with `Lifecycle.User.syncRoles`. What comes before it is not about
memberships (`handler_ok`), and what it sends itself asks for the removals and the additions that it
has to make (`syncRoles_ok`).

The payoff is `handler_sent`: a handler that succeeds has sent, after what leaves memberships alone,
one request for every group that the user is to be taken out of, and then one for every group that
it is to be put into.
-/

namespace UaaAdmin

/-! ## Membership requests in the log -/

namespace Users

variable {e : Endpoint} {userId origin zone : String}

/-- The pair that a change of the membership of a user is about. -/
def Change.edit (userId : String) : Change → Edit
  | remove g => .remove g userId
  | add g => .add g userId

/-- The request for a change asks for that change. -/
theorem Change.isAskedBy {ch : Change} {r : Net.Request}
    (h : request e userId origin zone ch = .ok r) : (ch.edit userId).IsAskedBy e r := by
  unfold request at h
  cases ch with
  | remove g =>
    obtain ⟨hmethod, hurl, -⟩ := Endpoint.request_eq_ok h
    exact ⟨hmethod, hurl⟩
  | add g =>
    obtain ⟨hmethod, hurl, hcontent⟩ := Endpoint.request_eq_ok h
    exact ⟨hmethod, hurl, _, hcontent, rfl⟩

theorem Passes.isSent {request : Change → Except Fault Net.Request} {ch : Change}
    {x : Net.Exchange} (h : Passes request ch x) : x.isSent = true := by
  unfold Net.Exchange.isSent
  split
  · rename_i hx
    have hv := h.2
    rw [hx] at hv
    exact absurd hv (by simp [Change.verdict])
  · rfl

/-- Changes that all pass were all sent, and are what their exchanges ask for. -/
theorem areAskedBy_of_passes {chs : List Change} {xs : List Net.Exchange}
    (h : List.Forall₂ (Passes (Change.request e userId origin zone)) chs xs) :
    AreAskedBy e (chs.map (Change.edit userId)) xs ∧ xs.filter (·.isSent) = xs := by
  induction h with
  | nil => exact ⟨.nil, rfl⟩
  | cons hp _ ih =>
    refine ⟨.cons (Change.isAskedBy hp.1) ih.1, ?_⟩
    rw [List.filter_cons_of_pos hp.isSent, ih.2]

/-- A change of memberships that succeeds: only reading goes before the changes, all of them are
sent, and the ids are those of the entry that the zone has then. -/
theorem updateRoles_ok {a : UserAdmin} {toDelete toAdd : List String} {c c' : Connection}
    (h : (updateRoles a userId toDelete toAdd origin zone).runOn c = (.ok (), c')) :
    ∃ (groups : ZoneGroups) (deleteIds addIds : List String) (gets xs : List Net.Exchange),
      c'.groups.get? zone = some groups ∧
      toDelete.map groups.groupId? = deleteIds.map some ∧
      toAdd.map groups.groupId? = addIds.map some ∧
      c'.network.log = c.network.log ++ (gets ++ xs) ∧
      (∀ x ∈ gets, x.request.method = .get) ∧
      AreAskedBy a.endpoint (deleteIds.map (.remove · userId) ++ addIds.map (.add · userId)) xs ∧
      xs.filter (·.isSent) = xs := by
  rcases hl : (loadGroups a zone).runOn c with ⟨r, c₁⟩
  obtain ⟨gets, hgets, hget⟩ := loadGroups_makes a zone c
  rw [hl] at hgets
  -- It ends well only if the groups were loaded and all names are known.
  cases r with
  | error f =>
    rw [runOn_updateRoles_of_load_error hl] at h
    exact absurd (congrArg Prod.fst h) (by simp)
  | ok groups =>
    rcases hn : firstUnknown? groups (toDelete ++ toAdd) with _ | n
    · obtain ⟨deleteIds, addIds, xs, hdel, hadd, hadv, hmade⟩ :=
        runOn_updateRoles_of_known userId origin hl hn
      rw [h] at hadv hmade
      obtain ⟨hasked, hsent⟩ := areAskedBy_of_passes (hmade.eq_ok_iff.mp rfl)
      refine ⟨groups, deleteIds, addIds, gets, xs, ?_, hdel, hadd, ?_, hget, ?_, hsent⟩
      · rw [hadv.groups, loadGroups_ok hl]
      · rw [hadv.log, hgets, List.append_assoc]
      · rwa [List.map_append, List.map_map, List.map_map] at hasked
    · rw [runOn_updateRoles_of_unknown hl hn] at h
      exact absurd (congrArg Prod.fst h) (by simp)

/-- A user that is created was given by an answer to the one request for it. -/
theorem create_ok {a : UserAdmin} {profile : Wire.Profile} {password origin zone : String}
    {record : Wire.User} {c c' : Connection}
    (h : (create a profile password origin zone).runOn c = (.ok record, c')) :
    ∃ x : Net.Exchange, c'.network.log = c.network.log ++ [x] ∧ x.request.method = .post ∧
      x.request.url = a.endpoint.urlOf "/Users" ∧ x.outcome.value = .ok record := by
  have hasked : Asked _ c ((create a profile password origin zone).runOn c) :=
    Endpoint.asked_create (a.endpoint.withZone zone) collection _ "user" profile.username c
  rw [h] at hasked
  cases hasked with
  | answered hrequest hadv hx =>
    obtain ⟨hmethod, hurl, -⟩ := Endpoint.request_eq_ok hrequest
    exact ⟨_, hadv.log, hmethod, hurl, Net.Outcome.value_eq_ok_iff.mpr hx⟩

end Users

namespace Lifecycle.User

variable {s : Session} {d d' : Snapshot Declared.User} {c c' : Connection}

/-- The id of a group as the cache has it. -/
def idOf? (c : Connection) (zone name : String) : Option String :=
  (c.groups.get? zone).bind (·.groupId? name)

/-- Memberships that have been brought to what is declared: only reading goes before the changes,
and these are the removals and then the additions of the groups that differ. -/
theorem syncRoles_ok {a : UserAdmin} (h : (syncRoles a d).runOn c = (.ok (), c')) :
    ∃ (deleteIds addIds : List String) (gets xs : List Net.Exchange),
      ((oldGroups d).diff d.desired.groups).map (idOf? c' d.desired.zoneId)
        = deleteIds.map some ∧
      (d.desired.groups.diff (oldGroups d)).map (idOf? c' d.desired.zoneId) = addIds.map some ∧
      c'.network.log = c.network.log ++ (gets ++ xs) ∧
      (∀ x ∈ gets, x.request.method = .get) ∧
      AreAskedBy a.endpoint (deleteIds.map (.remove · d.id) ++ addIds.map (.add · d.id)) xs ∧
      xs.filter (·.isSent) = xs := by
  unfold syncRoles listChanges at h
  dsimp only at h
  split at h
  · rename_i hempty
    obtain rfl := (Prod.mk.inj h).2
    rw [Bool.and_eq_true, List.isEmpty_iff, List.isEmpty_iff] at hempty
    -- With nothing to change the zone need not be loaded, and no name is resolved.
    rw [hempty.1, hempty.2]
    exact ⟨[], [], [], [], rfl, rfl, (List.append_nil _).symm, by simp, .nil, rfl⟩
  · obtain ⟨groups, deleteIds, addIds, gets, xs, hentry, hdel, hadd, hrest⟩ :=
      Users.updateRoles_ok h
    have hid : idOf? c' d.desired.zoneId = groups.groupId? := by
      funext n
      unfold idOf?
      rw [hentry, Option.bind_some]
    rw [hid]
    exact ⟨deleteIds, addIds, gets, xs, hdel, hadd, hrest⟩

/-- The part of an update that is about the profile. -/
def replaceProfile (a : UserAdmin) (d : Snapshot Declared.User) : Op Unit :=
  if profileDiffers d then do
    let _ ← Users.update a d.id d.desired.profile d.desired.zoneId
  else return ()

/-- The part of an update that is about the password. -/
def replacePassword (a : UserAdmin) (d : Snapshot Declared.User) : Op Unit :=
  match d.change (·.password) with
  | some (old, new) =>
    Users.changePassword a d.id (if old = "" then none else some old) new d.desired.zoneId
  | none => return ()

/-- The profile is replaced by one call, or not at all. -/
theorem replaceProfile_makes_of {P : Net.Exchange → Prop} {a : UserAdmin}
    {d : Snapshot Declared.User}
    (h : (Users.update a d.id d.desired.profile d.desired.zoneId).Makes P) :
    (replaceProfile a d).Makes P := by
  unfold replaceProfile
  split
  · exact h.bind fun _ => Op.makes_pure _
  · exact Op.makes_pure _

/-- The password is set by one call, or not at all. -/
theorem replacePassword_makes_of {P : Net.Exchange → Prop} {a : UserAdmin}
    {d : Snapshot Declared.User}
    (h : ∀ old new, (Users.changePassword a d.id old new d.desired.zoneId).Makes P) :
    (replacePassword a d).Makes P := by
  unfold replacePassword
  split
  · exact h _ _
  · exact Op.makes_pure _

theorem replaceProfile_makes (a : UserAdmin) (d : Snapshot Declared.User) :
    (replaceProfile a d).Makes fun x => x.request.method = .put :=
  replaceProfile_makes_of (Op.makes_ask fun _ h => (Endpoint.request_eq_ok h).1)

theorem replacePassword_makes (a : UserAdmin) (d : Snapshot Declared.User) :
    (replacePassword a d).Makes fun x => x.request.method = .put :=
  replacePassword_makes_of fun _ _ =>
    (Op.makes_ask fun _ h => (Endpoint.request_eq_ok h).1).bind fun _ => Op.makes_pure _

/-- An update is one operation on the server and leaves the snapshot as it is. -/
theorem runOn_update (s : Session) (d : Snapshot Declared.User) (c : Connection) :
    (update s).runOn d c = (Handler.call (do
      replaceProfile s.users d
      replacePassword s.users d
      syncRoles s.users d)).runOn d c := by
  unfold update replaceProfile replacePassword
  rw [Handler.runOn_bind, Handler.runOn_snapshot]
  dsimp only
  -- What is left out on one side is an operation that does nothing on the other.
  rcases d.change (·.password) with _ | ⟨old, new⟩
  · split
    · simp only [bind_assoc, pure_bind]
      exact Handler.runOn_call_bind (fun _ _ => rfl) c
    · simp only [pure_bind]
  · split
    · simp only [bind_assoc, pure_bind]
      exact Handler.runOn_call_bind (fun _ => Handler.runOn_call_bind fun _ _ => rfl) c
    · simp only [pure_bind]
      exact Handler.runOn_call_bind (fun _ _ => rfl) c

/-- Updating a user replaces at most its profile and its password before the memberships are brought
to what is declared, and leaves the snapshot as it is. -/
theorem update_ok (h : (update s).runOn d c = (.ok (), d', c')) :
    d' = d ∧ ∃ c₁ puts, c₁.network.log = c.network.log ++ puts ∧
      (∀ x ∈ puts, x.request.method = .put) ∧
      (syncRoles s.users d').runOn c₁ = (.ok (), c') := by
  rw [runOn_update, Handler.runOn_call] at h
  obtain ⟨hr, hs⟩ := Prod.mk.inj h
  obtain ⟨rfl, hc⟩ := Prod.mk.inj hs
  refine ⟨rfl, ?_⟩
  obtain ⟨_, c₁, hprofile, hop⟩ := Op.runOn_bind_eq_ok.mp (Prod.ext_iff.mpr ⟨hr, hc⟩)
  obtain ⟨_, c₂, hpassword, hop⟩ := Op.runOn_bind_eq_ok.mp hop
  obtain ⟨puts, hputs, hput⟩ := replaceProfile_makes s.users d c
  obtain ⟨puts', hputs', hput'⟩ := replacePassword_makes s.users d c₁
  rw [hprofile] at hputs
  rw [hpassword] at hputs'
  refine ⟨c₂, puts ++ puts', ?_, ?_, hop⟩
  · rw [hputs', hputs, List.append_assoc]
  · intro x hx
    rcases List.mem_append.mp hx with hx | hx
    · exact hput x hx
    · exact hput' x hx

/-- Creating a user makes one request for it before the memberships are brought to what is declared,
and takes id and zone from the answer. -/
theorem create_ok (h : (create s).runOn d c = (.ok (), d', c')) :
    ∃ (c₁ : Connection) (x : Net.Exchange) (record : Wire.User),
      c₁.network.log = c.network.log ++ [x] ∧ x.request.method = .post ∧
      x.request.url = s.users.endpoint.urlOf "/Users" ∧ x.outcome.value = .ok record ∧
      d'.id = record.id ∧ d'.prior = d.prior ∧ d'.desired.groups = d.desired.groups ∧
      d'.desired.zoneId = Declared.reportedOr d.desired.zoneId record.zoneId ∧
      (syncRoles s.users d').runOn c₁ = (.ok (), c') := by
  unfold create at h
  rw [Handler.runOn_bind, Handler.runOn_changeDesired] at h
  dsimp only at h
  rw [Handler.runOn_bind, Handler.runOn_snapshot] at h
  dsimp only at h
  obtain ⟨record, d₁, c₁, hcreate, h⟩ := Handler.runOn_bind_eq_ok.mp h
  rw [Handler.runOn_call] at hcreate
  obtain ⟨hr, hs⟩ := Prod.mk.inj hcreate
  obtain ⟨rfl, hc⟩ := Prod.mk.inj hs
  obtain ⟨x, hlog, hmethod, hurl, hvalue⟩ := Users.create_ok (Prod.ext_iff.mpr ⟨hr, hc⟩)
  rw [Handler.runOn_bind, Handler.runOn_change] at h
  dsimp only at h
  rw [Handler.runOn_bind, Handler.runOn_snapshot] at h
  dsimp only at h
  rw [Handler.runOn_call] at h
  obtain ⟨hsync, hs⟩ := Prod.mk.inj h
  obtain ⟨rfl, hc'⟩ := Prod.mk.inj hs
  refine ⟨c₁, x, record, hlog, hmethod, hurl, hvalue, rfl, rfl, ?_, ?_,
    Prod.ext_iff.mpr ⟨hsync, hc'⟩⟩
  · dsimp only
    split <;> rfl
  · dsimp only
    split <;> rfl

/-- The request is none that is meant to change memberships: it reads or replaces something, or it
creates a user. -/
def LeavesMemberships (e : Endpoint) (r : Net.Request) : Prop :=
  r.method = .get ∨ r.method = .put ∨ r.method = .post ∧ r.url = e.urlOf "/Users"

/-- Before the memberships are brought to what is declared, an update leaves the snapshot as it is
and a creation takes id and zone from the first answer. Nothing is asked for that changes
memberships. -/
theorem handler_ok {handler : Handler Declared.User Unit}
    (h : handler = create s ∨ handler = update s)
    (hrun : handler.runOn d c = (.ok (), d', c')) :
    ∃ (c₁ : Connection) (before : List Net.Exchange),
      (handler = update s ∧ d' = d ∨ handler = create s ∧
        ∃ (x : Net.Exchange) (record : Wire.User), before = [x] ∧ x.request.method = .post ∧
        x.request.url = s.users.endpoint.urlOf "/Users" ∧ x.outcome.value = .ok record ∧
        d'.id = record.id ∧
        d'.desired.zoneId = Declared.reportedOr d.desired.zoneId record.zoneId) ∧
      c₁.network.log = c.network.log ++ before ∧
      (∀ x ∈ before, LeavesMemberships s.users.endpoint x.request) ∧
      oldGroups d' = oldGroups d ∧ d'.desired.groups = d.desired.groups ∧
      (syncRoles s.users d').runOn c₁ = (.ok (), c') := by
  rcases h with rfl | rfl
  · obtain ⟨c₁, x, record, hlog, hmethod, hurl, hvalue, hid, hprior, hgroups, hzone, hsync⟩ :=
      create_ok hrun
    refine ⟨c₁, [x], .inr ⟨rfl, x, record, rfl, hmethod, hurl, hvalue, hid, hzone⟩, hlog, ?_, ?_,
      hgroups, hsync⟩
    · intro y hy
      obtain rfl := List.mem_singleton.mp hy
      exact .inr (.inr ⟨hmethod, hurl⟩)
    · unfold oldGroups
      rw [hprior]
  · obtain ⟨rfl, c₁, puts, hlog, hput, hsync⟩ := update_ok hrun
    exact ⟨c₁, puts, .inl ⟨rfl, rfl⟩, hlog, fun x hx => .inr (.inl (hput x hx)), rfl, rfl, hsync⟩

/-- A user that is created or updated ends up with requests for its declared groups. An update
leaves the snapshot as it is, and a creation takes id and zone from the answer to its first request.
What is sent then takes the user out of the groups that it was in and is not declared in, and puts
it into those that it is declared in and was not in; ids are those of the entry that the cache then
has for the zone of the user. -/
theorem handler_sent {handler : Handler Declared.User Unit}
    (h : handler = create s ∨ handler = update s)
    (hrun : handler.runOn d c = (.ok (), d', c')) :
    (handler = update s ∧ d' = d ∨ handler = create s ∧
        ∃ (x : Net.Exchange) (record : Wire.User),
      c'.network.log[c.network.log.length]? = some x ∧ x.request.method = .post ∧
      x.request.url = s.users.endpoint.urlOf "/Users" ∧ x.outcome.value = .ok record ∧
      d'.id = record.id ∧
      d'.desired.zoneId = Declared.reportedOr d.desired.zoneId record.zoneId) ∧
    ∃ (deleteIds addIds : List String) (before xs : List Net.Exchange),
      ((oldGroups d).diff d.desired.groups).map (idOf? c' d'.desired.zoneId)
        = deleteIds.map some ∧
      (d.desired.groups.diff (oldGroups d)).map (idOf? c' d'.desired.zoneId) = addIds.map some ∧
      c'.network.sent = c.network.sent ++ (before ++ xs) ∧
      (∀ x ∈ before, LeavesMemberships s.users.endpoint x.request) ∧
      AreAskedBy s.users.endpoint (deleteIds.map (.remove · d'.id) ++ addIds.map (.add · d'.id))
        xs := by
  obtain ⟨c₁, before, hstart, hbefore, hleaves, hold, hnew, hsync⟩ := handler_ok h hrun
  obtain ⟨deleteIds, addIds, gets, xs, hdel, hadd, hlog, hget, hasked, hsent⟩ := syncRoles_ok hsync
  rw [hold, hnew] at hdel hadd
  refine ⟨?_, deleteIds, addIds, (before ++ gets).filter (·.isSent), xs, hdel, hadd, ?_, ?_, hasked⟩
  · refine hstart.imp_right (And.imp_right ?_)
    rintro ⟨x, record, rfl, hrecord⟩
    refine ⟨x, record, ?_, hrecord⟩
    rw [hlog, hbefore, List.append_assoc, List.getElem?_append_right le_rfl, Nat.sub_self]
    rfl
  · unfold Net.Network.sent
    -- All changes were sent, since they succeeded; what went before may not have been.
    rw [hlog, hbefore, List.append_assoc, ← List.append_assoc before, List.filter_append,
      List.filter_append, hsent]
  · intro x hx
    rcases List.mem_append.mp (List.mem_of_mem_filter hx) with hx | hx
    · exact hleaves x hx
    · exact .inl (hget x hx)

/-- A user that is to move from one group to another, and stay in a third. -/
def moving : Snapshot Declared.User :=
  ⟨"u1", some { username := "n", zoneId := "z", groups := NameSet.ofList ["a", "b"] },
    { username := "n", zoneId := "z", groups := NameSet.ofList ["b", "c"] }⟩

/-- A session with a server at some address. -/
def session : Session :=
  ⟨⟨"", "", "", "", none, false, none, {}⟩, ⟨""⟩, ⟨"http://h", "bearer t", "", ∅⟩, "ct"⟩

end Lifecycle.User

end UaaAdmin
