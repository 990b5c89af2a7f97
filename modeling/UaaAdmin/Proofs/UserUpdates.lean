import UaaAdmin.Proofs.CacheRuns
import UaaAdmin.Proofs.ClientUpdates
import UaaAdmin.Proofs.UserReading

/-!
# What an update of a user sends

An update replaces the profile of a user if it differs (`ProfileDiffers`), sets its password if it
has another one, and changes its memberships if the groups differ. The first two are calls
(`replacingCalls`), and so are those that load the zone where the cache does not have it
(`loadingCalls`). The changes come after them, with ids from the groups that are then known
(`Knows`). `Sends` says in which ways this can end.

The payoff is `user_update_sends`. That not every request is made in the zone of the user is seen
from `zone_asked_for_outside`.
-/

namespace UaaAdmin

open Users (Advanced)

/-! ## Zones of calls -/

namespace ManagerCall

variable {α : Type}

/-- No call has a header of its own for the zone. -/
theorem get?_zone_endpoint (s : Session) (call : ManagerCall α) :
    (call.endpoint s).headers.get? "x-identity-zone-id"
      = s.endpoint.headers.get? "x-identity-zone-id" := by
  have hheader : ∀ (e : Endpoint) (h : Net.Header) (value : String), h ≠ .zoneId →
      (e.withHeader h value).headers.get? "x-identity-zone-id"
        = e.headers.get? "x-identity-zone-id" := by
    intro e h value hne
    have hname : Text.asciiLower h.name ≠ "x-identity-zone-id" := by
      cases h with
      | zoneId => exact absurd rfl hne
      | _ => decide
    rw [Endpoint.withHeader, Endpoint.get?_withHeaders, Net.Header.lastValue?_single, if_neg hname,
      Option.none_or]
  cases call with
  | updateGroup id displayName description zone => exact hheader _ _ _ (by decide)
  | updateUser id profile zone => exact hheader _ _ _ (by decide)
  | changePassword id old new zone =>
    show (if (old.filter (· ≠ "")).isNone then _ else _ : Endpoint).headers.get? _ = _
    split
    · exact hheader _ _ _ (by decide)
    · rfl
  | _ => rfl

/-- A call is made in its zone, unless it is about zones. -/
theorem zone_endpoint (s : Session) (call : ManagerCall α) :
    (call.endpoint s).zone
      = if call.task.kind = .zone then s.endpoint.zone else call.zone := by
  cases call with
  | changePassword id old new zone =>
    show Endpoint.zone (if (old.filter (· ≠ "")).isNone then _ else _) = zone
    split <;> rfl
  | _ => rfl

end ManagerCall

namespace AnyCall

/-- The zone that the request of a call is made in. -/
def zoneIn (s : Session) (call : AnyCall) : String := (call.call.endpoint s).zone

theorem zone_of_request {s : Session} {call : AnyCall} {r : Net.Request}
    (h : call.call.request s = .ok r) :
    r.headers.get? "x-identity-zone-id"
      = some ((s.endpoint.headers.get? "x-identity-zone-id").getD (call.zoneIn s)) := by
  rw [← call.call.get?_zone_endpoint s]
  exact Endpoint.zone_of_request h

end AnyCall

/-! ## Loads -/

namespace Users

theorem Advanced.withGroups {c c' : Connection} {xs : List Net.Exchange} (h : Advanced c xs c')
    (groups : GroupCache) : Advanced { c with groups } xs { c' with groups } :=
  ⟨h.network, h.log, rfl⟩

variable {zone : String} {c : Connection}

/-- The calls that a load of a zone makes. -/
def zoneCalls (s : Session) (zone : String) : Op Wire.Zone := do
  let _ ← (ManagerCall.listGroups zone).op s
  (ManagerCall.getZone zone).op s

theorem zoneCalls_attempts (s : Session) (zone : String) :
    (zoneCalls s zone).Attempts s [⟨.listGroups zone⟩, ⟨.getZone zone⟩] :=
  (Op.attempts_call (.listGroups zone)).bind fun _ => Op.attempts_call (.getZone zone)

/-- A load of a zone that is not in the cache asks as its calls do, and fails when they do. -/
theorem runOn_loadGroups_calls (s : Session) (h : c.groups.get? zone = none) :
    let run := (loadGroups s.users zone).runOn c
    let calls := (zoneCalls s zone).runOn c
    (run.1.map fun _ => ()) = (calls.1.map fun _ => ()) ∧ run.2.network = calls.2.network := by
  have hsteps : zoneCalls s zone = listingOf s.users zone >>= fun list =>
      pure list.resources >>= fun _ => Zones.get s.users.zones zone := by
    rw [← bind_assoc]
    rfl
  rw [runOn_loadGroups_of_absent h, hsteps, Op.runOn_bind]
  rcases (listingOf s.users zone).runOn c with ⟨f | list, c₁⟩
  · exact ⟨rfl, rfl⟩
  · dsimp only
    rw [pure_bind]
    rcases (Zones.get s.users.zones zone).runOn c₁ with ⟨f | record, c₂⟩
    · exact ⟨rfl, rfl⟩
    · exact ⟨rfl, rfl⟩

/-- A load of a zone that is not in the cache makes two calls in a row, and what comes of it is the
entry of their answers. -/
theorem runOn_loadGroups_attempted (s : Session) (h : c.groups.get? zone = none) :
    let run := (loadGroups s.users zone).runOn c
    ∃ xs, Advanced c xs { run.2 with groups := c.groups } ∧
      Attempted s [⟨.listGroups zone⟩, ⟨.getZone zone⟩] xs (run.1.map fun _ => ()) ∧
      ∀ groups, run.1 = .ok groups → ∃ x y, xs = [x, y] ∧ IsLoad s.users zone groups x y := by
  intro run
  obtain ⟨hends, hnetwork⟩ := runOn_loadGroups_calls s h
  obtain ⟨xs, hadv, hattempted⟩ := zoneCalls_attempts s zone c
  rw [← hends] at hattempted
  have hlog : run.2.network.log = c.network.log ++ xs :=
    (congrArg (·.log) hnetwork).trans hadv.log
  refine ⟨xs, ⟨hnetwork.trans hadv.network, hlog, rfl⟩, hattempted, fun groups hgroups => ?_⟩
  rcases loadGroups_cases (a := s.users) h with
    ⟨entry, x, y, c₁, hrun, hadv', hload⟩ | ⟨f, ys, c', hrun, -⟩
  · have hrun' : run = (.ok entry, ⟨c₁.network, (c.groups.insert zone entry).2⟩) := hrun
    rw [hrun'] at hgroups hlog
    obtain rfl := Except.ok.inj hgroups
    have hxs : c.network.log ++ xs = c.network.log ++ [x, y] := hlog.symm.trans hadv'.log
    exact ⟨x, y, List.append_cancel_left hxs, hload⟩
  · have hrun' : run = (.error f, c') := hrun
    rw [hrun'] at hgroups
    exact absurd hgroups (by simp)

end Users

namespace Lifecycle.User

open Declared (User)

/-! ## When there is something to send -/

/-- The profile is not known to be as declared. -/
def ProfileDiffers (d : Snapshot User) : Prop :=
  ∀ prior, d.prior = some prior →
    prior.username ≠ d.desired.username ∨ prior.givenName ≠ d.desired.givenName ∨
      prior.familyName ≠ d.desired.familyName ∨ prior.email ≠ d.desired.email

theorem profileDiffers_iff {d : Snapshot User} : profileDiffers d = true ↔ ProfileDiffers d := by
  unfold profileDiffers ProfileDiffers
  dsimp only
  rw [Snapshot.changedValue_snd, Snapshot.changedValue_snd, Snapshot.changedValue_snd,
    Snapshot.changedValue_snd]
  rcases d.prior with _ | prior
  · simp
  · simp [or_assoc]

instance (d : Snapshot User) : Decidable (ProfileDiffers d) := decidable_of_iff _ profileDiffers_iff

/-- The password that the user has, as far as it is known. -/
def oldPassword (d : Snapshot User) : String := (d.prior.map (·.password)).getD ""

theorem write_profile (p : Wire.Profile) :
    JsonForm.write p.toUser = .object (textMember "userName" p.username ++
      [("name", .object [("givenName", .text p.givenName), ("familyName", .text p.familyName)]),
        ("emails", .array [.object [("value", .text p.address)]])]) := by
  show Json.object (Layout.members Wire.User.layout.fields p.toUser) = _
  rw [Wire.User.layout, Layout.members_cons, Layout.members_cons, Field.toMember?_sparse,
    Field.toMember?_sparse]
  rfl

/-! ## What is sent -/

/-- The calls for profile and password. -/
def replacingCalls (d : Snapshot User) : List AnyCall :=
  (if ProfileDiffers d then [⟨.updateUser d.id d.desired.profile d.desired.zoneId⟩] else []) ++
    (if oldPassword d ≠ d.desired.password then
      [⟨.changePassword d.id (if oldPassword d = "" then none else some (oldPassword d))
        d.desired.password d.desired.zoneId⟩] else [])

/-- The calls that load the zone of the user, where groups differ and it is not in the cache. -/
def loadingCalls (d : Snapshot User) (c : Connection) : List AnyCall :=
  if oldGroups d ≠ d.desired.groups ∧ c.groups.get? d.desired.zoneId = none then
    [⟨.listGroups d.desired.zoneId⟩, ⟨.getZone d.desired.zoneId⟩]
  else []

theorem passwordChange_eq (old new : String) :
    Users.passwordChange ((if old = "" then none else some old).filter (· ≠ "")) new
      = .object (textMember "oldPassword" old ++ [("password", .text new)]) := by
  unfold Users.passwordChange textMember
  by_cases h : old = ""
  · rw [if_pos h, if_pos h]
    rfl
  · rw [if_neg h, if_neg h, Option.filter_some, if_pos (by simpa using h)]
    rfl

theorem sent_replacingCalls (s : Session) (d : Snapshot User) :
    (replacingCalls d).map (fun call => (call.sent, call.zoneIn s))
      = (if ProfileDiffers d then
          [((.put, "/Users/" ++ d.id, .json (.object (textMember "userName" d.desired.username ++
            [("name", .object [("givenName", .text d.desired.givenName),
                ("familyName", .text d.desired.familyName)]),
              ("emails", .array [.object [("value", .text
                (if d.desired.email = "" then d.desired.username else d.desired.email))]])]))),
            d.desired.zoneId)] else []) ++
        (if oldPassword d ≠ d.desired.password then
          [((.put, "/Users/" ++ d.id ++ "/password", .json (.object
            (textMember "oldPassword" (oldPassword d) ++
              [("password", .text d.desired.password)]))), d.desired.zoneId)] else []) := by
  have hprofile := write_profile d.desired.profile
  have hpassword := passwordChange_eq (oldPassword d) d.desired.password
  have hzone : AnyCall.zoneIn s ⟨.changePassword d.id
      (if oldPassword d = "" then none else some (oldPassword d)) d.desired.password
      d.desired.zoneId⟩ = d.desired.zoneId := ManagerCall.zone_endpoint s _
  unfold replacingCalls
  rw [List.map_append, apply_ite (List.map _), apply_ite (List.map _), List.map_singleton,
    List.map_singleton, hzone]
  unfold AnyCall.sent
  dsimp only [ManagerCall.content]
  rw [hprofile, hpassword]
  rfl

theorem sent_loadingCalls (s : Session) (d : Snapshot User) (c : Connection) :
    (loadingCalls d c).map (fun call => (call.sent, call.zoneIn s))
      = if oldGroups d ≠ d.desired.groups ∧ c.groups.get? d.desired.zoneId = none then
          [((.get, "/Groups", .empty), d.desired.zoneId),
            ((.get, "/identity-zones/" ++ d.desired.zoneId, .empty), s.endpoint.zone)] else [] := by
  unfold loadingCalls
  rw [apply_ite (List.map _)]
  rfl

/-! ## The calls are made -/

theorem replaceProfile_attempts (s : Session) (d : Snapshot User) :
    (replaceProfile s.users d).Attempts s (if ProfileDiffers d then
      [⟨.updateUser d.id d.desired.profile d.desired.zoneId⟩] else []) := by
  unfold replaceProfile
  by_cases h : ProfileDiffers d
  · rw [if_pos h, if_pos (profileDiffers_iff.mpr h)]
    exact (Op.attempts_call (.updateUser d.id d.desired.profile d.desired.zoneId)).bind
      fun _ => Op.attempts_pure ()
  · rw [if_neg h, if_neg (mt profileDiffers_iff.mp h)]
    exact Op.attempts_pure ()

theorem replacePassword_attempts (s : Session) (d : Snapshot User) :
    (replacePassword s.users d).Attempts s
      (if oldPassword d ≠ d.desired.password then
        [⟨.changePassword d.id (if oldPassword d = "" then none else some (oldPassword d))
          d.desired.password d.desired.zoneId⟩] else []) := by
  have hold : d.oldValue (·.password) = oldPassword d := rfl
  unfold replacePassword Snapshot.change
  rw [hold]
  by_cases h : oldPassword d = d.desired.password
  · rw [if_pos h, if_neg (not_not.mpr h)]
    exact Op.attempts_pure ()
  · rw [if_neg h, if_pos h]
    exact Op.attempts_call (.changePassword d.id
      (if oldPassword d = "" then none else some (oldPassword d)) d.desired.password
      d.desired.zoneId)

/-- Profile and password are replaced by the calls for them. -/
theorem replacing_attempts (s : Session) (d : Snapshot User) :
    (replaceProfile s.users d >>= fun _ => replacePassword s.users d).Attempts s
      (replacingCalls d) :=
  (replaceProfile_attempts s d).bind fun _ => replacePassword_attempts s d

/-- There is a group to leave or to enter exactly if the groups differ. -/
theorem isEmpty_diffs_iff {old new : NameSet} :
    ((old.diff new).isEmpty && (new.diff old).isEmpty) = true ↔ old = new := by
  rw [Bool.and_eq_true, List.isEmpty_iff, List.isEmpty_iff]
  constructor
  · intro ⟨hold, hnew⟩
    have hsub : ∀ {s t : NameSet}, s.diff t = [] → ∀ n ∈ s, n ∈ t := by
      intro s t h n hn
      by_contra hnot
      exact absurd (NameSet.mem_diff.mpr ⟨hn, hnot⟩) (h ▸ List.not_mem_nil)
    exact NameSet.ext fun n => ⟨hsub hold n, hsub hnew n⟩
  · intro h
    subst h
    have hnone : old.diff old = [] := List.filter_eq_nil_iff.mpr fun n hn => by
      simpa using NameSet.mem_toList.mp hn
    exact ⟨hnone, hnone⟩

theorem runOn_syncRoles_of_eq {a : UserAdmin} {d : Snapshot User}
    (h : oldGroups d = d.desired.groups) (c : Connection) :
    (syncRoles a d).runOn c = (.ok (), c) := by
  unfold syncRoles listChanges
  dsimp only
  rw [if_pos (isEmpty_diffs_iff.mpr h)]
  rfl

theorem syncRoles_of_ne (a : UserAdmin) {d : Snapshot User} (h : oldGroups d ≠ d.desired.groups) :
    syncRoles a d = Users.updateRoles a d.id ((oldGroups d).diff d.desired.groups)
      (d.desired.groups.diff (oldGroups d)) d.desired.provider d.desired.zoneId :=
  if_neg (mt isEmpty_diffs_iff.mp h)

/-! ## What an update sends -/

/-- The groups with which an update resolves the names: those in the cache, or those that the last
two of its first exchanges load. -/
def Knows (s : Session) (d : Snapshot User) (c : Connection) (xs : List Net.Exchange)
    (groups : ZoneGroups) : Prop :=
  c.groups.get? d.desired.zoneId = some groups ∨
    c.groups.get? d.desired.zoneId = none ∧
      ∃ before x y, xs = before ++ [x, y] ∧ Users.IsLoad s.users d.desired.zoneId groups x y

/-- What an update sends, in two parts, and how it ends. First come the calls for profile and
password, and those that load the zone; then the changes of memberships, before which all names are
resolved. -/
inductive Sends (s : Session) (d : Snapshot User) (c : Connection) :
    List Net.Exchange → List Net.Exchange → Except Fault Unit → Prop
  /-- A call fails. -/
  | stopped {xs f} (h : Attempted s (replacingCalls d ++ loadingCalls d c) xs (.error f)) :
    Sends s d c xs [] (.error f)
  /-- The groups are the same. -/
  | unmoved {xs} (h : Attempted s (replacingCalls d ++ loadingCalls d c) xs (.ok ()))
    (hsame : oldGroups d = d.desired.groups) : Sends s d c xs [] (.ok ())
  /-- A group is not known. -/
  | unknown {xs groups n} (h : Attempted s (replacingCalls d ++ loadingCalls d c) xs (.ok ()))
    (hdiffer : oldGroups d ≠ d.desired.groups) (hknows : Knows s d c xs groups)
    (hn : Users.firstUnknown? groups
      ((oldGroups d).diff d.desired.groups ++ d.desired.groups.diff (oldGroups d)) = some n) :
    Sends s d c xs [] (.error (.groupNotFound d.desired.zoneId n))
  /-- All groups are known: the user is taken out of some and then put into others. -/
  | moved {xs ys groups r} {deleteIds addIds : List String}
    (h : Attempted s (replacingCalls d ++ loadingCalls d c) xs (.ok ()))
    (hdiffer : oldGroups d ≠ d.desired.groups) (hknows : Knows s d c xs groups)
    (hdelete : ((oldGroups d).diff d.desired.groups).map groups.groupId? = deleteIds.map some)
    (hadd : (d.desired.groups.diff (oldGroups d)).map groups.groupId? = addIds.map some)
    (hmade : Users.Made (Users.Change.request s.endpoint d.id d.desired.provider d.desired.zoneId)
      (deleteIds.map .remove ++ addIds.map .add) ys r) : Sends s d c xs ys r

/-- The groups of the zone come from the cache, or the calls that load them are made. -/
theorem runOn_loadGroups_of_differ (s : Session) {d : Snapshot User} {c : Connection}
    (h : oldGroups d ≠ d.desired.groups) (before : List Net.Exchange) :
    let load := (Users.loadGroups s.users d.desired.zoneId).runOn c
    ∃ xs, Advanced c xs { load.2 with groups := c.groups } ∧
      Attempted s (loadingCalls d c) xs (load.1.map fun _ => ()) ∧
      ∀ groups, load.1 = .ok groups → Knows s d c (before ++ xs) groups := by
  intro load
  have hload : load = (Users.loadGroups s.users d.desired.zoneId).runOn c := rfl
  rcases hgroups : c.groups.get? d.desired.zoneId with _ | groups
  · obtain ⟨xs, hadv, hattempted, hloaded⟩ := Users.runOn_loadGroups_attempted s hgroups
    refine ⟨xs, hadv, ?_, fun groups hok => ?_⟩
    · unfold loadingCalls
      rw [if_pos ⟨h, hgroups⟩]
      exact hattempted
    · obtain ⟨x, y, rfl, hisLoad⟩ := hloaded groups hok
      exact .inr ⟨hgroups, before, x, y, rfl, hisLoad⟩
  · rw [Users.runOn_loadGroups_of_cached hgroups] at hload
    rw [hload]
    refine ⟨[], .refl c, ?_, fun groups' hok => ?_⟩
    · unfold loadingCalls
      rw [if_neg fun hboth => absurd (hgroups.symm.trans hboth.2) (by simp)]
      exact .done
    · obtain rfl := Except.ok.inj hok
      exact .inl hgroups

/-- After the calls for profile and password the memberships are brought to what is declared. -/
theorem runOn_syncRoles_sends {s : Session} {d : Snapshot User} {c c₁ : Connection}
    {xs : List Net.Exchange} (hadv : Advanced c xs c₁)
    (hattempted : Attempted s (replacingCalls d) xs (.ok ())) :
    let run := (syncRoles s.users d).runOn c₁
    ∃ zs ys, Advanced c (zs ++ ys) { run.2 with groups := c.groups } ∧ Sends s d c zs ys run.1 := by
  -- The cache is still the same, so what is loaded depends on the one at the start.
  obtain ⟨n₁, g₁⟩ := c₁
  obtain rfl : g₁ = c.groups := hadv.groups
  by_cases hsame : oldGroups d = d.desired.groups
  · rw [runOn_syncRoles_of_eq hsame]
    refine ⟨xs, [], ?_, .unmoved ?_ hsame⟩
    · rw [List.append_nil]
      exact hadv
    · unfold loadingCalls
      rw [if_neg fun hboth => hboth.1 hsame, List.append_nil]
      exact hattempted
  · rw [syncRoles_of_ne s.users hsame]
    obtain ⟨zs, hadv', hattempted', hknows⟩ :=
      runOn_loadGroups_of_differ s (c := ⟨n₁, c.groups⟩) hsame xs
    have hload : Attempted s (replacingCalls d ++ loadingCalls d c) (xs ++ zs) _ :=
      hattempted.append hattempted'
    have hboth := hadv.trans hadv'
    rcases hl : (Users.loadGroups s.users d.desired.zoneId).runOn ⟨n₁, c.groups⟩
      with ⟨f | groups, c₂⟩
    · rw [hl] at hload hboth
      rw [Users.runOn_updateRoles_of_load_error hl]
      refine ⟨xs ++ zs, [], ?_, .stopped hload⟩
      rw [List.append_nil]
      exact hboth
    rw [hl] at hload hboth hknows
    rcases hn : Users.firstUnknown? groups
      ((oldGroups d).diff d.desired.groups ++ d.desired.groups.diff (oldGroups d)) with _ | n
    · obtain ⟨deleteIds, addIds, ys, hdelete, hadd, hadv'', hmade⟩ :=
        Users.runOn_updateRoles_of_known d.id d.desired.provider hl hn
      exact ⟨xs ++ zs, ys, hboth.trans (hadv''.withGroups c.groups),
        .moved hload hsame (hknows groups rfl) hdelete hadd hmade⟩
    · rw [Users.runOn_updateRoles_of_unknown hl hn]
      refine ⟨xs ++ zs, [], ?_, .unknown hload hsame (hknows groups rfl) hn⟩
      rw [List.append_nil]
      exact hboth

/-- An update sends what `Sends` says. -/
theorem runOn_updating (s : Session) (d : Snapshot User) (c : Connection) :
    let run := (do
      replaceProfile s.users d
      replacePassword s.users d
      syncRoles s.users d : Op Unit).runOn c
    ∃ xs ys, Advanced c (xs ++ ys) { run.2 with groups := c.groups } ∧ Sends s d c xs ys run.1 := by
  intro run
  have hrun : run = (replaceProfile s.users d >>= fun _ => replacePassword s.users d >>=
      fun _ => syncRoles s.users d).runOn c := rfl
  rw [← bind_assoc] at hrun
  rw [hrun]
  obtain ⟨xs, hadv, hattempted⟩ := replacing_attempts s d c
  rcases hr : (replaceProfile s.users d >>= fun _ => replacePassword s.users d).runOn c
    with ⟨f | _, c₁⟩
  · rw [hr] at hadv hattempted
    rw [Op.runOn_bind_of_error hr]
    refine ⟨xs, [], ?_, .stopped (hattempted.append_of_error _)⟩
    rw [List.append_nil]
    exact hadv.withGroups c.groups
  · rw [hr] at hadv hattempted
    rw [Op.runOn_bind_of_ok hr]
    exact runOn_syncRoles_sends hadv hattempted

/-- Every exchange of an update is that of a call or a change, in the zone for it. -/
theorem Sends.zone {s : Session} {d : Snapshot User} {c : Connection} {xs ys : List Net.Exchange}
    {r : Except Fault Unit} (h : Sends s d c xs ys r) :
    (∀ x ∈ xs, ∃ call ∈ replacingCalls d ++ loadingCalls d c, call.call.request s = .ok x.request ∧
      x.request.headers.get? "x-identity-zone-id"
        = some ((s.endpoint.headers.get? "x-identity-zone-id").getD (call.zoneIn s))) ∧
    ∀ y ∈ ys, y.request.headers.get? "x-identity-zone-id"
      = some ((s.endpoint.headers.get? "x-identity-zone-id").getD d.desired.zoneId) := by
  have hcalls : ∀ {r}, Attempted s (replacingCalls d ++ loadingCalls d c) xs r → ∀ x ∈ xs,
      ∃ call ∈ replacingCalls d ++ loadingCalls d c, call.call.request s = .ok x.request ∧
        x.request.headers.get? "x-identity-zone-id"
          = some ((s.endpoint.headers.get? "x-identity-zone-id").getD (call.zoneIn s)) := by
    intro r h x hx
    obtain ⟨call, hmem, hrequest⟩ := h.exists_call hx
    exact ⟨call, hmem, hrequest, AnyCall.zone_of_request hrequest⟩
  cases h with
  | stopped h => exact ⟨hcalls h, List.forall_mem_nil _⟩
  | unmoved h hsame => exact ⟨hcalls h, List.forall_mem_nil _⟩
  | unknown h hdiffer hknows hn => exact ⟨hcalls h, List.forall_mem_nil _⟩
  | moved h hdiffer hknows hdelete hadd hmade =>
    refine ⟨hcalls h, fun y hy => ?_⟩
    obtain ⟨ch, -, hch⟩ := hmade.exists_change hy
    exact Users.Change.zone_of_request _ _ _ _ hch

/-- What an update sends are the messages of the first of its calls, and if it sends more, those of
the first changes, for ids of the groups that are then known. -/
theorem Sends.messages {s : Session} {d : Snapshot User} {c : Connection}
    {xs ys : List Net.Exchange} {r : Except Fault Unit} (h : Sends s d c xs ys r) :
    xs.map (·.request.message)
      <+: ((replacingCalls d ++ loadingCalls d c).map AnyCall.sent).map s.endpoint.message ∧
    (ys = [] ∨ ∃ groups, ∃ deleteIds addIds : List String, Knows s d c xs groups ∧
      ((oldGroups d).diff d.desired.groups).map groups.groupId? = deleteIds.map some ∧
      (d.desired.groups.diff (oldGroups d)).map groups.groupId? = addIds.map some ∧
      ys.map (·.request.message)
        <+: (deleteIds.map Users.Change.remove ++ addIds.map Users.Change.add).map
          (Users.Change.message s.endpoint d.id d.desired.provider)) := by
  cases h with
  | stopped h => exact ⟨h.messages, .inl rfl⟩
  | unmoved h hsame => exact ⟨h.messages, .inl rfl⟩
  | unknown h hdiffer hknows hn => exact ⟨h.messages, .inl rfl⟩
  | moved h hdiffer hknows hdelete hadd hmade =>
    exact ⟨h.messages, .inr ⟨_, _, _, hknows, hdelete, hadd, hmade.messages⟩⟩

theorem ascending_diff (s t : NameSet) : (s.diff t).Pairwise (· < ·) := s.ascending.filter _

end Lifecycle.User

open Lifecycle.User in
/-- An update of a user makes its calls in a row, and after them the changes of memberships. It
replaces the profile if that differs, and sets the password if there is another one, naming the old
one if that is known; and if the groups differ it loads those of the zone, unless they are in the
cache, and takes the user out of the groups that it should not be in and puts it into those that it
is to be in, both in the order of the names. The first failure ends it, and a name that the zone has
no group of ends it before any change. What is sent are the first of the messages of all this. It is
asked for in the zone of the user, only the record of the zone is asked for in the one of the
session. The snapshot stays as it is. -/
theorem user_update_sends (s : Session) (d : Snapshot Declared.User) (c : Connection) :
    let run := (update s).runOn d c
    let zone := d.desired.zoneId
    let toDelete := (oldGroups d).diff d.desired.groups
    let toAdd := d.desired.groups.diff (oldGroups d)
    run.2.1 = d ∧
    (∃ xs ys, Users.Advanced c (xs ++ ys) { run.2.2 with groups := c.groups } ∧
      Sends s d c xs ys run.1 ∧
      xs.map (·.request.message)
        <+: ((replacingCalls d ++ loadingCalls d c).map AnyCall.sent).map s.endpoint.message ∧
      (ys = [] ∨ ∃ groups, ∃ deleteIds addIds : List String, Knows s d c xs groups ∧
        toDelete.map groups.groupId? = deleteIds.map some ∧
        toAdd.map groups.groupId? = addIds.map some ∧
        ys.map (·.request.message)
          <+: (deleteIds.map Users.Change.remove ++ addIds.map Users.Change.add).map
            (Users.Change.message s.endpoint d.id d.desired.provider)) ∧
      (∀ x ∈ xs, ∃ call ∈ replacingCalls d ++ loadingCalls d c,
        call.call.request s = .ok x.request ∧
        x.request.headers.get? "x-identity-zone-id"
          = some ((s.endpoint.headers.get? "x-identity-zone-id").getD (call.zoneIn s))) ∧
      ∀ y ∈ ys, y.request.headers.get? "x-identity-zone-id"
        = some ((s.endpoint.headers.get? "x-identity-zone-id").getD zone)) ∧
    (replacingCalls d).map (fun call => (call.sent, call.zoneIn s))
      = (if ProfileDiffers d then
          [((.put, "/Users/" ++ d.id, .json (.object (textMember "userName" d.desired.username ++
            [("name", .object [("givenName", .text d.desired.givenName),
                ("familyName", .text d.desired.familyName)]),
              ("emails", .array [.object [("value", .text
                (if d.desired.email = "" then d.desired.username else d.desired.email))]])]))),
            zone)] else []) ++
        (if oldPassword d ≠ d.desired.password then
          [((.put, "/Users/" ++ d.id ++ "/password", .json (.object
            (textMember "oldPassword" (oldPassword d) ++
              [("password", .text d.desired.password)]))), zone)] else []) ∧
    (loadingCalls d c).map (fun call => (call.sent, call.zoneIn s))
      = (if oldGroups d ≠ d.desired.groups ∧ c.groups.get? zone = none then
          [((.get, "/Groups", .empty), zone),
            ((.get, "/identity-zones/" ++ zone, .empty), s.endpoint.zone)] else []) ∧
    (toDelete.Pairwise (· < ·) ∧ ∀ n, n ∈ toDelete ↔ n ∈ oldGroups d ∧ n ∉ d.desired.groups) ∧
    (toAdd.Pairwise (· < ·) ∧ ∀ n, n ∈ toAdd ↔ n ∈ d.desired.groups ∧ n ∉ oldGroups d) := by
  intro run zone toDelete toAdd
  have hrun : run = (update s).runOn d c := rfl
  rw [runOn_update, Handler.runOn_call] at hrun
  rw [hrun]
  obtain ⟨xs, ys, hadv, hsends⟩ := runOn_updating s d c
  obtain ⟨hcalls, hchanges⟩ := hsends.messages
  exact ⟨rfl, ⟨xs, ys, hadv, hsends, hcalls, hchanges, hsends.zone⟩, sent_replacingCalls s d,
    sent_loadingCalls s d c, ⟨ascending_diff _ _, fun _ => NameSet.mem_diff⟩,
    ⟨ascending_diff _ _, fun _ => NameSet.mem_diff⟩⟩

open Lifecycle.User in
/-- When a user is moved whose zone has to be loaded, the record of the zone is asked for in no zone
at all, and only the rest in the zone of the user. -/
theorem zone_asked_for_outside :
    let groups := "\x7b\"resources\":[\x7b\"id\":\"g1\",\"displayName\":\"a\"\x7d," ++
      "\x7b\"id\":\"g3\",\"displayName\":\"c\"\x7d]\x7d"
    let zone := "\x7b\"id\":\"z\",\"subdomain\":\"z\",\"name\":\"z\"\x7d"
    let run := (update session).runOn moving
      (answering [(200, groups), (200, zone), (204, ""), (200, "")])
    let seen := fun x : Net.Exchange =>
      (x.request.method, x.request.url, x.request.headers.get? "x-identity-zone-id")
    run.1 = .ok () ∧
    run.2.2.network.log.map seen
      = [(.get, "http://h/Groups", some "z"), (.get, "http://h/identity-zones/z", some ""),
        (.delete, "http://h/Groups/g1/members/u1", some "z"),
        (.post, "http://h/Groups/g3/members", some "z")] ∧
    ¬∀ x ∈ run.2.2.network.log,
      x.request.headers.get? "x-identity-zone-id" = some moving.desired.zoneId := by
  intro groups zone run seen
  have hboth : (run.1, run.2.2.network.log.map seen)
      = (.ok (), [(.get, "http://h/Groups", some "z"), (.get, "http://h/identity-zones/z", some ""),
        (.delete, "http://h/Groups/g1/members/u1", some "z"),
        (.post, "http://h/Groups/g3/members", some "z")]) := by decide +kernel
  obtain ⟨hok, hlog⟩ := Prod.mk.inj hboth
  refine ⟨hok, hlog, fun hall => ?_⟩
  have hzones : ∀ p ∈ run.2.2.network.log.map seen, p.2.2 = some "z" :=
    List.forall_mem_map.mpr hall
  rw [hlog] at hzones
  exact absurd (hzones _ (List.mem_cons_of_mem _ List.mem_cons_self)) (by decide)

end UaaAdmin
