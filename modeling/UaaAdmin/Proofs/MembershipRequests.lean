import UaaAdmin.Proofs.IdAddresses
import UaaAdmin.Proofs.RoleSync

/-!
# Membership requests as a server reads them

A server reads a request by its address: behind the directories that it stands below, the names in
the path say what is asked for. `Edit.asked?` reads the change of memberships in this way that a
request comes to, whatever it was made for.

Ids are put into paths as they are, so a request comes to the change that it was made for if the ids
in its path are ones that a path takes (`asked?_of_isAskedBy`), and what is no membership request is
not read as one (`asked?_of_leaves`).

The payoff is `sync_reaches_desired`: with such ids, the requests of a handler that succeeds, read
from the log and replayed on any memberships, bring the user from its old groups to the declared
ones and change nothing else. With other ids they may not, and no way to read requests could change
that (`sync_misses_desired`).
-/

namespace UaaAdmin

open Text
open Url (IsServer)

/-! ## Reading a request -/

theorem Text.Utf8.decodeLossy_encode (s : String) : decodeLossy (encode s) = s := by
  rw [decodeLossy, decode_encode, List.map_map]
  exact (congrArg String.ofList (List.map_id _)).trans String.ofList_toList

namespace Url

/-- The names in the path of an address. -/
def names (u : Url) : List String :=
  match u.path with
  | .flat _ => []
  | .segments segments => (decoded segments).map Utf8.decodeLossy

/-- The names in the path of an address behind the directories that a server stands below, if the
address is one behind them. -/
def namesBelow? (base url : String) : Option (List String) :=
  match parse (base ++ "/"), parse url with
  | .ok root, .ok u => u.names.dropPrefix? root.names.dropLast
  | _, _ => none

/-- The path of names that it takes is read as these names. -/
theorem IsServer.namesBelow?_urlOf {base : String} {u : Url} (h : IsServer base u) {e : Endpoint}
    (hbase : e.baseUrl = trimEndSlashes base) {path s : String} {names : List String}
    (hpath : path.toList = pathText (s :: names)) (hs : s ≠ "")
    (hnames : ∀ t ∈ s :: names, IsPathName t) (hfront : ∀ t ∈ (s :: names).dropLast, t ≠ "")
    (hlast : ∀ t ∈ (s :: names).getLast?, EndsVisibly t.toList) :
    namesBelow? e.baseUrl (e.urlOf path) = some (s :: names) := by
  obtain ⟨dirs, hplace, hbelow⟩ := h.parse_below
  have htext : pathText (s :: names) = '/' :: (s.toList ++ pathText names) := rfl
  have hends : EndsVisibly (s.toList ++ pathText names) :=
    (endsVisibly_pathText hlast).of_suffix (htext ▸ List.suffix_cons '/' _)
  obtain ⟨hclean, hmarks, hreads⟩ := reads_of_names hs hnames hfront htext hends
  -- Nothing in the names is walked up or dropped.
  have hwalk := (decoded_walk_eq_iff dirs htext (List.Sublist.refl _)).2 ⟨rfl, hreads⟩
  have hroot := hplace.directory
  have hasked := hbelow (String.ofList (sentPath path.toList))
  rw [String.toList_ofList, hpath, hclean] at hasked
  have hurl : e.urlOf path
      = trimEndSlashes base ++ "/" ++ String.ofList (sentPath (pathText (s :: names))) := by
    rw [Endpoint.urlOf, hbase, sentPath, hpath]
  have hlossy (names : List String) :
      (names.map Utf8.encode).map Utf8.decodeLossy = names := by
    rw [List.map_map]
    exact (List.map_congr_left fun t _ => Utf8.decodeLossy_encode t).trans (List.map_id _)
  rw [hbase, namesBelow?, hroot, hurl, hasked]
  have hdirectory : Url.names { u with path := .segments (dirs ++ [""]) }
      = (decoded dirs).map Utf8.decodeLossy ++ [""] := by
    show (decoded (dirs ++ [""])).map Utf8.decodeLossy = _
    rw [decoded_append, List.map_append]
    rfl
  have hbehind : (u.below dirs.reverse (s.toList ++ pathText names)).names
      = (decoded dirs).map Utf8.decodeLossy ++ (s :: names) := by
    show (decoded (walk false dirs.reverse _)).map Utf8.decodeLossy = _
    rw [pathPart_eq_self_iff.2 hmarks, hwalk, List.map_append, hlossy]
  dsimp only
  rw [hdirectory, hbehind, List.dropLast_concat]
  exact List.dropPrefix?_append_of_beq _ (beq_self_eq_true _)

end Url

/-- The user that is to be added, by what a request carries. -/
def Net.Content.member? : Net.Content → Option String
  | .json v =>
    match v.member "value" with
    | .text u => some u
    | _ => none
  | _ => none

namespace Edit

/-- The change of memberships that a request to the server at an address comes to. -/
def asked? (base : String) (r : Net.Request) : Option Edit :=
  match r.method, Url.namesBelow? base r.url with
  | .delete, some ["Groups", g, "members", u] => some (.remove g u)
  | .post, some ["Groups", g, "members"] => r.content.member?.map (.add g)
  | _, _ => none

/-- The ids in the path of a request for the change are ones that the path takes as they are. -/
def HasPathIds : Edit → Prop
  | remove g u => (g ≠ "" ∧ IsPathName g) ∧ IsPathId u []
  | add g _ => g ≠ "" ∧ IsPathName g

variable {base : String} {u : Url} {e : Endpoint}

/-- A request for a change comes to this change, if the path takes the ids. -/
theorem asked?_of_isAskedBy (h : IsServer base u) (hbase : e.baseUrl = trimEndSlashes base)
    {edit : Edit} {r : Net.Request} (hids : edit.HasPathIds) (hasked : edit.IsAskedBy e r) :
    asked? e.baseUrl r = some edit := by
  have hgroups : IsFixedName "Groups" := by decide +kernel
  have hmembers : IsFixedName "members" := by decide +kernel
  cases edit with
  | remove g user =>
    obtain ⟨hg, huser⟩ := hids
    obtain ⟨hmethod, hurl⟩ := hasked
    have hnames : Url.namesBelow? e.baseUrl r.url = some ["Groups", g, "members", user] := by
      rw [hurl]
      refine h.namesBelow?_urlOf hbase (by simp [Url.pathText]) hgroups.2.1 ?_ ?_ ?_
      · simp [hgroups.isPathName, hg.2, hmembers.isPathName, huser.toIsPathName]
      · simp [hg.1]
      · simpa using huser.ends rfl
    rw [asked?, hmethod, hnames]
    rfl
  | add g user =>
    obtain ⟨hmethod, hurl, v, hcontent, hvalue⟩ := hasked
    have hnames : Url.namesBelow? e.baseUrl r.url = some ["Groups", g, "members"] := by
      rw [hurl]
      refine h.namesBelow?_urlOf hbase (by simp [Url.pathText]) hgroups.2.1 ?_ ?_ ?_
      · simp [hgroups.isPathName, hids.2, hmembers.isPathName]
      · simp [hids.1]
      · simpa using hmembers.endsVisibly
    have hmember : r.content.member? = some user := by
      rw [hcontent, Net.Content.member?, hvalue]
    rw [asked?, hmethod, hnames, hmember]
    rfl

/-- Requests for some changes come to these changes, if the paths take the ids. -/
theorem filterMap_asked? (h : IsServer base u) (hbase : e.baseUrl = trimEndSlashes base)
    {edits : List Edit} {xs : List Net.Exchange} (hids : ∀ edit ∈ edits, edit.HasPathIds)
    (hasked : AreAskedBy e edits xs) :
    xs.filterMap (fun x => asked? e.baseUrl x.request) = edits := by
  induction hasked with
  | nil => rfl
  | @cons edit x edits xs hedit _ ih =>
    obtain ⟨hid, hids⟩ := List.forall_mem_cons.1 hids
    rw [List.filterMap_cons, asked?_of_isAskedBy h hbase hid hedit]
    exact congrArg _ (ih hids)

/-- What leaves the memberships alone comes to no change of them. -/
theorem asked?_of_leaves (h : IsServer base u) (hbase : e.baseUrl = trimEndSlashes base)
    {r : Net.Request} (hleaves : Lifecycle.User.LeavesMemberships e r) :
    asked? e.baseUrl r = none := by
  rcases hleaves with hget | hput | ⟨hpost, hurl⟩
  · rw [asked?, hget]
  · rw [asked?, hput]
  · have husers : IsFixedName "Users" := by decide +kernel
    have hnames : Url.namesBelow? e.baseUrl r.url = some ["Users"] := by
      rw [hurl]
      refine h.namesBelow?_urlOf hbase (by simp [Url.pathText]) husers.2.1 ?_ ?_ ?_
      · simp [husers.isPathName]
      · simp
      · simpa using husers.endsVisibly
    rw [asked?, hpost, hnames]
    rfl

end Edit

/-! ## From the old groups to the declared ones -/

namespace Lifecycle.User

variable {s : Session} {d d' : Snapshot Declared.User} {c c' : Connection}

/-- A user that is created or updated ends up in the declared groups. The requests that were sent
for it are read as a server does and replayed on any memberships. If its id and those of the groups
can stand in paths, this takes away the groups that it was in and is not declared in, and adds those
that it is declared in and was not in; ids are those of the entry that the cache then has for the
zone of the user. So if these ids tell the groups apart, and the user was, among them, in exactly
its old groups, then it is in exactly the declared ones, and nothing else has changed. -/
theorem sync_reaches_desired {base : String} {u : Url} (hserver : IsServer base u)
    (hbase : s.endpoint.baseUrl = trimEndSlashes base) {handler : Handler Declared.User Unit}
    (h : handler = create s ∨ handler = update s)
    (hrun : handler.runOn d c = (.ok (), d', c')) :
    let old := oldGroups d
    let new := d.desired.groups
    let id? := idOf? c' d'.desired.zoneId
    (handler = update s ∧ d' = d ∨ handler = create s ∧
        ∃ (x : Net.Exchange) (record : Wire.User),
      c'.network.log[c.network.log.length]? = some x ∧ x.request.method = .post ∧
      x.request.url = s.endpoint.urlOf "/Users" ∧ x.outcome.value = .ok record ∧
      d'.id = record.id ∧
      d'.desired.zoneId = Declared.reportedOr d.desired.zoneId record.zoneId) ∧
    (∀ n ∈ old.diff new ++ new.diff old, (id? n).isSome) ∧
    ∃ xs, c'.network.sent = c.network.sent ++ xs ∧
      ((∀ n ∈ old.diff new ++ new.diff old, ∀ g ∈ id? n, g ≠ "" ∧ IsPathName g) →
        (old.diff new ≠ [] → IsPathId d'.id []) →
        let edits := xs.filterMap fun x => Edit.asked? s.endpoint.baseUrl x.request
        ∀ S, replay edits S
            = S \ pairsOf id? d'.id (old.diff new) ∪ pairsOf id? d'.id (new.diff old) ∧
          ((∀ n m g, n ∈ old ∨ n ∈ new → m ∈ old ∨ m ∈ new →
              id? n = some g → id? m = some g → n = m) →
            HoldsExactly S id? d'.id {n | n ∈ old ∨ n ∈ new} {n | n ∈ old} →
            HoldsExactly (replay edits S) id? d'.id {n | n ∈ old ∨ n ∈ new} {n | n ∈ new}) ∧
          ∀ p, p ∉ pairsOf id? d'.id (old.toList ++ new.toList) →
            (p ∈ replay edits S ↔ p ∈ S)) := by
  intro old new id?
  obtain ⟨hstart, deleteIds, addIds, before, xs, hdel, hadd, hsent, hleaves, hasked⟩ :=
    handler_sent h hrun
  have hsome : ∀ n ∈ old.diff new ++ new.diff old, (id? n).isSome := by
    intro n hn
    rcases List.mem_append.mp hn with hn | hn
    · exact isSome_of_ids hdel hn
    · exact isSome_of_ids hadd hn
  refine ⟨hstart, hsome, before ++ xs, hsent, fun hgroups huser => ?_⟩
  let changes : List Edit := deleteIds.map (.remove · d'.id) ++ addIds.map (.add · d'.id)
  have hids : ∀ edit ∈ changes, edit.HasPathIds := by
    intro edit hedit
    rcases List.mem_append.mp hedit with hedit | hedit
    · obtain ⟨g, hg, rfl⟩ := List.mem_map.mp hedit
      obtain ⟨n, hn, hid⟩ := (mem_ids_iff hdel g).mp hg
      exact ⟨hgroups n (List.mem_append.mpr (.inl hn)) g hid, huser (List.ne_nil_of_mem hn)⟩
    · obtain ⟨g, hg, rfl⟩ := List.mem_map.mp hedit
      obtain ⟨n, hn, hid⟩ := (mem_ids_iff hadd g).mp hg
      exact hgroups n (List.mem_append.mpr (.inr hn)) g hid
  -- What goes before the changes asks for none of them: it creates, replaces or reads.
  have hedits : (before ++ xs).filterMap (fun x => Edit.asked? s.endpoint.baseUrl x.request)
      = changes := by
    have hnone : before.filterMap (fun x => Edit.asked? s.endpoint.baseUrl x.request) = [] :=
      List.filterMap_eq_nil_iff.mpr fun x hx => Edit.asked?_of_leaves hserver hbase (hleaves x hx)
    rw [List.filterMap_append, hnone, List.nil_append]
    exact Edit.filterMap_asked? hserver hbase hids hasked
  intro edits S
  have hreplay : replay edits S
      = S \ pairsOf id? d'.id (old.diff new) ∪ pairsOf id? d'.id (new.diff old) := by
    show replay (List.filterMap _ (before ++ xs)) S = _
    rw [hedits, replay_removals_additions, setOf_ids _ hdel, setOf_ids _ hadd]
  rw [hreplay]
  exact ⟨rfl, HoldsExactly.sync, fun p => mem_sync_of_not_mem⟩

/-- A connection on which groups are loaded under their ids, and some requests will succeed. -/
def knowing (ids : List (String × String)) (replies : List Net.Reply) : Connection where
  network := { replies := replies.map some }
  groups := ⟨NameMap.ofList [("z", ZoneGroups.ofLists ids [])]⟩

/-- A user in the first two of three groups is moved to the last two. -/
theorem sync_reaches_desired_moving :
    let c := knowing [("a", "g1"), ("b", "g2"), ("c", "g3")] [⟨204, []⟩, ⟨200, []⟩]
    let run := (update Session.atPort).runOn moving c
    run.1.isOk = true ∧ ∀ S, replay (run.2.2.network.sent.filterMap
        fun x => Edit.asked? Session.atPort.endpoint.baseUrl x.request) S
      = S \ pairsOf (idOf? run.2.2 "z") "u1" ["a"] ∪ pairsOf (idOf? run.2.2 "z") "u1" ["c"] := by
  intro c run
  have hok : run.1.isOk = true := by decide +kernel
  refine ⟨hok, fun S => ?_⟩
  have hrun : (update Session.atPort).runOn moving c = (.ok (), run.2.1, run.2.2) := by
    rcases hr : run with ⟨_ | _, _⟩
    · rw [hr] at hok
      exact absurd hok (by simp [Except.isOk, Except.toBool])
    · exact hr
  obtain ⟨-, -, xs, hsent, hreplay⟩ :=
    sync_reaches_desired isServer_atPort baseUrl_atPort (.inr rfl) hrun
  have hxs : run.2.2.network.sent = xs := hsent
  have hid : run.2.1.id = "u1" := by decide +kernel
  have hzone : run.2.1.desired.zoneId = "z" := by decide +kernel
  have hdel : (oldGroups moving).diff moving.desired.groups = ["a"] := by decide +kernel
  have hadd : moving.desired.groups.diff (oldGroups moving) = ["c"] := by decide +kernel
  have hids : (idOf? run.2.2 "z") "a" = some "g1" ∧ (idOf? run.2.2 "z") "c" = some "g3" := by
    decide +kernel
  have hfixed : ∀ name ∈ ["g1", "g3", "u1"], IsFixedName name := by decide +kernel
  rw [hid, hzone, hdel, hadd] at hreplay
  rw [hxs]
  refine (hreplay ?groups ?user S).1
  case groups =>
    intro n hn g hg
    rcases List.mem_pair.mp hn with rfl | rfl
    · obtain rfl := Option.some.inj (hids.1.symm.trans hg)
      exact ⟨by decide, (hfixed _ (by decide)).isPathName⟩
    · obtain rfl := Option.some.inj (hids.2.symm.trans hg)
      exact ⟨by decide, (hfixed _ (by decide)).isPathName⟩
  case user =>
    have hu := hfixed "u1" (by decide)
    exact fun _ => ⟨hu.isPathName, fun _ => hu.endsVisibly⟩

/-- The update succeeds, but what is read from its requests in some way does not do to all
memberships what it is to do. -/
def Misses (read : Net.Request → Option Edit) (s : Session) (d : Snapshot Declared.User)
    (c : Connection) : Prop :=
  let run := (update s).runOn d c
  let id? := idOf? run.2.2 run.2.1.desired.zoneId
  let edits := run.2.2.network.sent.filterMap fun x => read x.request
  run.1.isOk = true ∧ ¬∀ S, replay edits S
    = S \ pairsOf id? run.2.1.id ((oldGroups d).diff d.desired.groups)
      ∪ pairsOf id? run.2.1.id (d.desired.groups.diff (oldGroups d))

/-- A user that is to leave its only group. -/
def leaving (userId : String) : Snapshot Declared.User :=
  ⟨userId, some { username := "n", zoneId := "z", groups := NameSet.ofList ["a"] },
    { username := "n", zoneId := "z" }⟩

/-- The update goes well, and is to take the user out of the group with this id. -/
def IsToLeave (s : Session) (user : String) (c : Connection) (g : String) : Prop :=
  let run := (update s).runOn (leaving user) c
  run.1.isOk = true ∧ run.2.1.id = user ∧ idOf? run.2.2 run.2.1.desired.zoneId "a" = some g

instance (s : Session) (user : String) (c : Connection) (g : String) :
    Decidable (IsToLeave s user c g) :=
  inferInstanceAs (Decidable (_ ∧ _ ∧ _))

/-- However requests are read, just this one membership should be gone. -/
theorem misses_of_mem_replay {read : Net.Request → Option Edit} {s : Session} {c : Connection}
    {g user : String} (hleave : IsToLeave s user c g) {S : Memberships} {p : String × String}
    (h : ¬(p ∈ replay (((update s).runOn (leaving user) c).2.2.network.sent.filterMap
      fun x => read x.request) S ↔ p ∈ S ∧ p ≠ (g, user))) : Misses read s (leaving user) c := by
  obtain ⟨hok, hid, hgroup⟩ := hleave
  refine ⟨hok, fun hall => h ?_⟩
  have hdel : (oldGroups (leaving user)).diff (leaving user).desired.groups = ["a"] := rfl
  have hadd : (leaving user).desired.groups.diff (oldGroups (leaving user)) = [] := rfl
  rw [hall, hdel, hadd, hid]
  simp [pairsOf, hgroup, Prod.ext_iff, eq_comm]

/-- The user stays in the group if no request is read as its removal. -/
theorem misses_of_not_mem {read : Net.Request → Option Edit} {s : Session} {c : Connection}
    {g user : String} (hleave : IsToLeave s user c g)
    (h : .remove g user ∉ ((update s).runOn (leaving user) c).2.2.network.sent.filterMap
      fun x => read x.request) : Misses read s (leaving user) c := by
  have hstays := mem_replay_of_not_mem (Set.mem_singleton (g, user)) h
  exact misses_of_mem_replay hleave fun hiff => (hiff.mp hstays).2 rfl

/-- All that an update sends for this user is the request that takes it out of the group. -/
theorem network_leaving (s : Session) (user g : String) (replies : List Net.Reply) :
    ((update s).runOn (leaving user) (knowing [("a", g)] replies)).2.2.network
      = ((Groups.removeMember s.users.endpoint g user "z").runOn
          (knowing [] replies)).2.network := by
  have hop : (do
      replaceProfile s.users (leaving user)
      replacePassword s.users (leaving user)
      syncRoles s.users (leaving user) : Op Unit)
        = Users.updateRoles s.users user ["a"] [] "uaa" "z" := rfl
  let groups := ZoneGroups.ofLists [("a", g)] []
  have hcached : (knowing [("a", g)] replies).groups.get? "z" = some groups := rfl
  have hids : Users.resolveAll groups "z" ["a"] = .ok [g] := rfl
  have hnone : Users.resolveAll groups "z" [] = .ok [] := rfl
  rw [runOn_update, Handler.runOn_call, hop, Users.updateRoles,
    Op.runOn_bind_of_ok (Users.runOn_loadGroups_of_cached hcached), hids, hnone,
    Op.runOn_bind_of_ok (Op.runOn_ofExcept _ _), Op.runOn_bind_of_ok (Op.runOn_ofExcept _ _),
    Users.removeAll, Users.removeAll, Users.addAll, bind_pure, bind_pure,
    Groups.removeMember, Endpoint.runOn_delete, Endpoint.runOn_delete]
  unfold Connection.single
  split <;> rfl

/-- Addresses of servers, ids of groups and ids of users, one of which a path does not take. -/
def astray : List (String × String × String) :=
  [("http://h", "g#1", "u1"), ("http://h", "g?1", "u1"), ("http://h", "g/1", "u1"),
    ("http://h", "g\\1", "u1"), ("http://h", "g\t1", "u1"), ("http://h", "g%31", "u1"),
    ("http://h", "", "u1"), ("http://h", ".", "u1"), ("http://h", "..", "u1"),
    ("http://h", "g1", "u/1"), ("http://h", "g1", "u1 "), ("http://h?q", "g1", "u1")]

/-- With such an id, or at an address with a query, the request that is to take a user out of a
group is read as something else, and the user stays in it. And two ids of groups have the same
requests, so that with one of them it goes wrong however requests are read. -/
theorem sync_misses_desired :
    List.Forall (fun p =>
      Misses (Edit.asked? p.1) { session with endpoint := ⟨p.1, "bearer t", "", ∅⟩ }
        (leaving p.2.2) (knowing [("a", p.2.1)] [⟨204, []⟩])) astray ∧
    ∀ read : Net.Request → Option Edit, ∃ g ∈ ["g/1", "g//1"],
      Misses read session (leaving "u1") (knowing [("a", g)] [⟨204, []⟩]) := by
  refine ⟨?astray, fun read => ?alike⟩
  case astray =>
    have hall : List.Forall (fun p =>
        let s := { session with endpoint := ⟨p.1, "bearer t", "", ∅⟩ }
        let c := knowing [("a", p.2.1)] [⟨204, []⟩]
        IsToLeave s p.2.2 c p.2.1 ∧
          .remove p.2.1 p.2.2 ∉ ((update s).runOn (leaving p.2.2) c).2.2.network.sent.filterMap
            fun x => Edit.asked? p.1 x.request) astray := by
      decide +kernel
    exact hall.imp fun p h => misses_of_not_mem h.1 h.2
  case alike =>
    let run (g : String) := (update session).runOn (leaving "u1") (knowing [("a", g)] [⟨204, []⟩])
    have hleave : ∀ g ∈ ["g/1", "g//1"],
        IsToLeave session "u1" (knowing [("a", g)] [⟨204, []⟩]) g := by
      decide +kernel
    -- Two slashes are one in an address, so that the two ids are not told apart.
    have hurl (e : Endpoint) : e.urlOf (Groups.membersPath "g/1" ++ "/" ++ "u1")
        = e.urlOf (Groups.membersPath "g//1" ++ "/" ++ "u1") :=
      Endpoint.urlOf_eq_iff.mpr (by decide +kernel)
    have hsame : (run "g/1").2.2.network = (run "g//1").2.2.network := by
      rw [network_leaving, network_leaving, Groups.removeMember, Groups.removeMember,
        Endpoint.runOn_delete, Endpoint.runOn_delete, Endpoint.request, Endpoint.request, hurl]
    by_cases h : ("g/1", "u1") ∈ replay ((run "g/1").2.2.network.sent.filterMap
        fun x => read x.request) {("g/1", "u1")}
    · exact ⟨"g/1", by simp, misses_of_mem_replay (hleave _ (by simp))
        fun hiff => (hiff.mp h).2 rfl⟩
    · rw [hsame] at h
      exact ⟨"g//1", by simp, misses_of_mem_replay (hleave _ (by simp))
        fun hiff => h (hiff.mpr ⟨Set.mem_singleton _, by decide⟩)⟩

end Lifecycle.User

end UaaAdmin
