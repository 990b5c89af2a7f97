import Mathlib.Data.List.Forall2
import UaaAdmin.Proofs.GroupLoading

/-!
# Changing the membership of a user

`Users.updateRoles` loads the groups of the zone, resolves every name, and only then makes one
change after the other. A `Change` is one such change: its request, and what comes of it, are said
here without the code that makes it. `Made` says of a list of changes which exchanges were had for
it and how it ended: in order, and none behind the first that fails.

The payoff is `updateRoles_resolves_then_changes`: a load that fails and a name that is unknown end
the operation before anything is changed, and otherwise the removals and then the additions are made
as `Made` says.
-/

namespace UaaAdmin.Users

/-! ## Changes -/

/-- A change of the membership of a user. -/
inductive Change where
  | remove (groupId : String)
  | add (groupId : String)

namespace Change

/-- The request that makes the change. -/
def request (e : Endpoint) (userId origin zone : String) : Change → Except Fault Net.Request
  | remove g =>
    (e.withZone zone).request .delete ("/Groups/" ++ g ++ "/members/" ++ userId) .empty
  | add g =>
    (e.withZone zone).request .post ("/Groups/" ++ g ++ "/members")
      (.json (.object [("origin", .text origin), ("type", .text "USER"), ("value", .text userId)]))

/-- The method, the address and the content of that request. -/
def message (e : Endpoint) (userId origin : String) : Change → Net.Method × String × Net.Content
  | remove g => (.delete, e.urlOf ("/Groups/" ++ g ++ "/members/" ++ userId), .empty)
  | add g =>
    (.post, e.urlOf ("/Groups/" ++ g ++ "/members"),
      .json (.object [("origin", .text origin), ("type", .text "USER"), ("value", .text userId)]))

/-- The request for a change has its method, address and content. -/
theorem message_of_request {e : Endpoint} {userId origin zone : String} {ch : Change}
    {r : Net.Request} (h : request e userId origin zone ch = .ok r) :
    r.message = ch.message e userId origin := by
  unfold request at h
  cases ch <;> exact Endpoint.message_of_request (e := e.withZone zone) h

/-- The body of an answer is blank or JSON. -/
def isReadable (body : List UInt8) : Bool :=
  body.all isBlankByte || ((Json.ofBytes? body).bind (·.keep? Json.maxDepth)).isSome

/-- What comes of the change. Only what an addition is answered with is read. -/
def verdict (ch : Change) : Net.Outcome → Except Fault Unit
  | .answered reply =>
    if !reply.isSuccess then .error (.ofReply reply)
    else match ch with
      | remove _ => .ok ()
      | add _ => if isReadable reply.content then .ok () else .error .decode
  | _ => .error .transport

/-- The operation that makes the change. -/
def make (e : Endpoint) (userId origin zone : String) : Change → Op Unit
  | remove g => Groups.removeMember e g userId zone
  | add g => Groups.addMember e g (Wire.Membership.ofUser userId origin) zone

/-- The operation that makes one change after the other. -/
def makeAll (e : Endpoint) (userId origin zone : String) : List Change → Op Unit
  | [] => return ()
  | ch :: chs => do
    make e userId origin zone ch
    makeAll e userId origin zone chs

end Change

/-- The exchange makes the change, and it is a success. -/
def Passes (request : Change → Except Fault Net.Request) (ch : Change) (x : Net.Exchange) : Prop :=
  request ch = .ok x.request ∧ ch.verdict x.outcome = .ok ()

/-- The exchanges that are had for changes, and how they end: one for each change, in their order,
up to the first change that fails. A change with a bad header fails without an exchange. -/
inductive Made (request : Change → Except Fault Net.Request) :
    List Change → List Net.Exchange → Except Fault Unit → Prop
  | done : Made request [] [] (.ok ())
  | refused {ch chs f} (h : request ch = .error f) : Made request (ch :: chs) [] (.error f)
  | failed {ch chs x f} (h : request ch = .ok x.request) (hf : ch.verdict x.outcome = .error f) :
    Made request (ch :: chs) [x] (.error f)
  | passed {ch chs x xs r} (h : Passes request ch x) (rest : Made request chs xs r) :
    Made request (ch :: chs) (x :: xs) r

namespace Made

variable {request : Change → Except Fault Net.Request} {chs chs' : List Change}
  {xs ys : List Net.Exchange} {r : Except Fault Unit} {f : Fault}

/-- After changes that pass the next ones are made. -/
theorem append (h : Made request chs xs (.ok ())) (h' : Made request chs' ys r) :
    Made request (chs ++ chs') (xs ++ ys) r := by
  -- The result is an index of `Made`, so the induction needs it to be a variable.
  generalize hr : (.ok () : Except Fault Unit) = r₀ at h
  induction h with
  | done => exact h'
  | refused _ => cases hr
  | failed _ _ => cases hr
  | passed hp _ ih => exact .passed hp (ih hr)

/-- After a change that fails no other one is made. -/
theorem append_of_error (h : Made request chs xs (.error f)) (chs' : List Change) :
    Made request (chs ++ chs') xs (.error f) := by
  generalize hr : (.error f : Except Fault Unit) = r₀ at h
  induction h with
  | done => cases hr
  | refused h => exact .refused h
  | failed h hf => exact .failed h hf
  | passed hp _ ih => exact .passed hp (ih hr)

/-- All changes are made exactly when each has its exchange and that is a success. -/
theorem eq_ok_iff (h : Made request chs xs r) :
    r = .ok () ↔ List.Forall₂ (Passes request) chs xs := by
  induction h with
  | done => simp
  | refused h => simp
  | failed h hf =>
    simp only [reduceCtorEq, List.forall₂_cons, false_iff, not_and]
    intro hp
    exact absurd (hf.symm.trans hp.2) (by simp)
  | passed hp _ ih => rw [ih, List.forall₂_cons, and_iff_right hp]

/-- Every exchange is one of a change. -/
theorem exists_change (h : Made request chs xs r) {x : Net.Exchange} (hx : x ∈ xs) :
    ∃ ch ∈ chs, request ch = .ok x.request := by
  induction h with
  | done => exact absurd hx List.not_mem_nil
  | refused _ => exact absurd hx List.not_mem_nil
  | failed h _ =>
    obtain rfl := List.mem_singleton.mp hx
    exact ⟨_, List.mem_cons_self, h⟩
  | passed hp _ ih =>
    rcases List.mem_cons.mp hx with rfl | hx
    · exact ⟨_, List.mem_cons_self, hp.1⟩
    · obtain ⟨ch, hch, hr⟩ := ih hx
      exact ⟨ch, List.mem_cons_of_mem _ hch, hr⟩

/-- What is sent are the messages of the first changes, in their order. -/
theorem messages {e : Endpoint} {userId origin zone : String}
    (h : Made (Change.request e userId origin zone) chs xs r) :
    xs.map (·.request.message) <+: chs.map (Change.message e userId origin) := by
  induction h with
  | done => exact List.prefix_refl _
  | refused _ => exact List.nil_prefix
  | failed h _ =>
    exact List.cons_prefix_cons.mpr ⟨Change.message_of_request h, List.nil_prefix⟩
  | passed hp _ ih => exact List.cons_prefix_cons.mpr ⟨Change.message_of_request hp.1, ih⟩

end Made

/-! ## A run of changes -/

/-- The connection `c'` is `c` after the exchanges `xs`, and nothing else. -/
structure Advanced (c : Connection) (xs : List Net.Exchange) (c' : Connection) : Prop where
  network : c'.network = c.network.after (xs.map (·.request))
  log : c'.network.log = c.network.log ++ xs
  groups : c'.groups = c.groups

theorem Advanced.refl (c : Connection) : Advanced c [] c :=
  ⟨rfl, (List.append_nil _).symm, rfl⟩

theorem Advanced.trans {c c' c'' : Connection} {xs ys : List Net.Exchange}
    (h : Advanced c xs c') (h' : Advanced c' ys c'') : Advanced c (xs ++ ys) c'' := by
  refine ⟨?_, ?_, h'.groups.trans h.groups⟩
  · rw [h'.network, h.network, List.map_append]
    exact (List.foldl_append ..).symm
  · rw [h'.log, h.log, List.append_assoc]

/-- An exchange advances the connection by itself. -/
theorem advanced_exchange (c : Connection) (r : Net.Request) :
    Advanced c [⟨r, (c.network.exchange r).1⟩] { c with network := (c.network.exchange r).2 } :=
  ⟨rfl, Net.Network.exchange_log _ _, rfl⟩

namespace Change

variable (e : Endpoint) (userId origin zone : String)

theorem url_remove (g : String) :
    Groups.membersPath g ++ "/" ++ userId = "/Groups/" ++ g ++ "/members/" ++ userId := by
  show "/Groups/" ++ g ++ "/members" ++ "/" ++ userId = _
  rw [show "/members/" = "/members" ++ "/" from rfl, ← String.append_assoc]

theorem verdict_remove (g : String) (o : Net.Outcome) :
    (remove g).verdict o = o.reply.map fun _ => () := by
  rcases o with _ | _ | reply
  · rfl
  · rfl
  · by_cases hs : reply.isSuccess <;> simp [verdict, Net.Outcome.reply, hs, Except.map]

/-- A body is readable exactly if it is read as some JSON value. -/
theorem isReadable_eq (body : List UInt8) :
    isReadable body = (readBody? (α := Json) body).isSome := by
  unfold isReadable readBody?
  by_cases hb : body.all isBlankByte
  · rw [hb, if_pos rfl]
    rfl
  · rw [if_neg hb, eq_false_of_ne_true hb]
    rfl

theorem verdict_add (g : String) (o : Net.Outcome) :
    (add g).verdict o = (o.value (α := Json)).map fun _ => () := by
  rcases o with _ | _ | reply
  · rfl
  · rfl
  · by_cases hs : reply.isSuccess
    · simp only [verdict, Net.Outcome.value, Net.Outcome.reply, hs, Bool.not_true,
        Bool.false_eq_true, if_false, if_true, isReadable_eq, Except.bind]
      rcases readBody? (α := Json) reply.content with _ | v <;> rfl
    · simp [verdict, Net.Outcome.value, Net.Outcome.reply, hs, Except.map, Except.bind]

/-- A change is asked for in its zone, unless the endpoint has a further header of that name. -/
theorem zone_of_request {ch : Change} {r : Net.Request}
    (h : request e userId origin zone ch = .ok r) :
    r.headers.get? Net.Header.zoneId.key
      = some ((e.headers.get? Net.Header.zoneId.key).getD zone) := by
  unfold request at h
  cases ch <;> exact Endpoint.zone_of_request h

/-- One change has at most one exchange, whose outcome decides how it ends. -/
theorem runOn_make (ch : Change) (c : Connection) :
    (make e userId origin zone ch).runOn c
      = c.single (request e userId origin zone ch) ch.verdict := by
  cases ch with
  | remove g =>
    rw [funext (verdict_remove g)]
    show ((e.withZone zone).delete (Groups.membersPath g ++ "/" ++ userId)).runOn c = _
    rw [url_remove, Endpoint.runOn_delete]
    rfl
  | add g =>
    rw [funext (verdict_add g)]
    exact Op.runOn_bind_single (Endpoint.runOn_ask ..) ()

/-- A run of changes has the exchanges that they are made with. -/
theorem runOn_makeAll (chs : List Change) (c : Connection) :
    ∃ xs, Advanced c xs ((makeAll e userId origin zone chs).runOn c).2 ∧
      Made (request e userId origin zone) chs xs
        ((makeAll e userId origin zone chs).runOn c).1 := by
  -- The changes that are left run on the connection that the first one leaves.
  induction chs generalizing c with
  | nil => exact ⟨[], .refl c, .done⟩
  | cons ch chs ih =>
    unfold makeAll
    have hmake := runOn_make e userId origin zone ch c
    unfold Connection.single at hmake
    rcases hr : request e userId origin zone ch with f | r
    · rw [hr] at hmake
      rw [Op.runOn_bind_of_error hmake]
      exact ⟨[], .refl c, .refused hr⟩
    · rw [hr] at hmake
      dsimp only at hmake
      rcases hv : ch.verdict (c.network.exchange r).1 with f | _
      · rw [hv] at hmake
        rw [Op.runOn_bind_of_error hmake]
        exact ⟨_, advanced_exchange c r, .failed hr hv⟩
      · rw [hv] at hmake
        rw [Op.runOn_bind_of_ok hmake]
        obtain ⟨xs, hadv, hmade⟩ := ih { c with network := (c.network.exchange r).2 }
        exact ⟨_, (advanced_exchange c r).trans hadv, .passed ⟨hr, hv⟩ hmade⟩

/-- Removing from some groups is making these changes. -/
theorem removeAll_eq (ids : List String) :
    removeAll e userId zone ids = makeAll e userId origin zone (ids.map .remove) := by
  induction ids with
  | nil => rfl
  | cons id ids ih =>
    rw [List.map_cons, removeAll, makeAll, ih]
    rfl

/-- Adding to some groups is making these changes. -/
theorem addAll_eq (ids : List String) :
    addAll e (Wire.Membership.ofUser userId origin) zone ids
      = makeAll e userId origin zone (ids.map .add) := by
  induction ids with
  | nil => rfl
  | cons id ids ih =>
    rw [List.map_cons, addAll, makeAll, ih]
    rfl

end Change

/-! ## Resolving names -/

/-- The first of some names that the zone has no group of. -/
def firstUnknown? (groups : ZoneGroups) (names : List String) : Option String :=
  names.find? fun n => (groups.groupId? n).isNone

variable {groups : ZoneGroups} {zone : String}

/-- The first name that is unknown is reported. -/
theorem resolveAll_of_unknown (zone : String) {names : List String} {n : String}
    (h : firstUnknown? groups names = some n) :
    resolveAll groups zone names = .error (.groupNotFound zone n) := by
  induction names with
  | nil => exact absurd h (by simp [firstUnknown?])
  | cons name names ih =>
    unfold resolveAll resolve
    unfold firstUnknown? at h ih
    rw [List.find?_cons] at h
    rcases hid : groups.groupId? name with _ | id
    · rw [hid] at h
      obtain rfl := Option.some.inj h
      rfl
    · rw [hid] at h
      rw [ih h]
      rfl

/-- Names that are all known give their ids, in order. -/
theorem resolveAll_of_known (zone : String) {names : List String}
    (h : firstUnknown? groups names = none) :
    ∃ ids, resolveAll groups zone names = .ok ids ∧ names.map groups.groupId? = ids.map some := by
  induction names with
  | nil => exact ⟨[], rfl, rfl⟩
  | cons name names ih =>
    unfold resolveAll resolve
    unfold firstUnknown? at h ih
    rw [List.find?_cons] at h
    rcases hid : groups.groupId? name with _ | id
    · rw [hid] at h
      exact absurd h (by simp)
    · rw [hid] at h
      obtain ⟨ids, hids, hmap⟩ := ih h
      rw [hids]
      exact ⟨id :: ids, rfl, by rw [List.map_cons, List.map_cons, hid, hmap]⟩

theorem firstUnknown?_append (names names' : List String) :
    firstUnknown? groups (names ++ names')
      = (firstUnknown? groups names).or (firstUnknown? groups names') :=
  List.find?_append

/-! ## The operation -/

variable {a : UserAdmin} {userId origin : String} {toDelete toAdd : List String}
  {c c₁ : Connection}

/-- If the groups cannot be loaded nothing else is done. -/
theorem runOn_updateRoles_of_load_error {f : Fault}
    (h : (loadGroups a zone).runOn c = (.error f, c₁)) :
    (updateRoles a userId toDelete toAdd origin zone).runOn c = (.error f, c₁) :=
  Op.runOn_bind_of_error h

/-- If a name is unknown nothing is changed. -/
theorem runOn_updateRoles_of_unknown {n : String}
    (h : (loadGroups a zone).runOn c = (.ok groups, c₁))
    (hn : firstUnknown? groups (toDelete ++ toAdd) = some n) :
    (updateRoles a userId toDelete toAdd origin zone).runOn c
      = (.error (.groupNotFound zone n), c₁) := by
  unfold updateRoles
  rw [Op.runOn_bind_of_ok h]
  rw [firstUnknown?_append] at hn
  -- The names to add are only looked at once those to take away are all known.
  rcases hd : firstUnknown? groups toDelete with _ | m
  · obtain ⟨ids, hids, -⟩ := resolveAll_of_known zone hd
    rw [hd, Option.none_or] at hn
    rw [hids, resolveAll_of_unknown zone hn, Op.runOn_bind_of_ok (Op.runOn_ofExcept _ c₁)]
    exact Op.runOn_bind_of_error (Op.runOn_ofExcept _ c₁)
  · rw [hd, Option.some_or] at hn
    obtain rfl := Option.some.inj hn
    rw [resolveAll_of_unknown zone hd]
    exact Op.runOn_bind_of_error (Op.runOn_ofExcept _ c₁)

/-- If all names are known the removals are made, and then the additions. -/
theorem runOn_updateRoles_of_known (userId origin : String)
    (h : (loadGroups a zone).runOn c = (.ok groups, c₁))
    (hn : firstUnknown? groups (toDelete ++ toAdd) = none) :
    ∃ (deleteIds addIds : List String) (xs : List Net.Exchange),
      toDelete.map groups.groupId? = deleteIds.map some ∧
      toAdd.map groups.groupId? = addIds.map some ∧
      Advanced c₁ xs ((updateRoles a userId toDelete toAdd origin zone).runOn c).2 ∧
      Made (Change.request a.endpoint userId origin zone)
        (deleteIds.map .remove ++ addIds.map .add) xs
        ((updateRoles a userId toDelete toAdd origin zone).runOn c).1 := by
  rw [firstUnknown?_append, Option.or_eq_none_iff] at hn
  obtain ⟨deleteIds, hdel, hdelMap⟩ := resolveAll_of_known zone hn.1
  obtain ⟨addIds, hadd, haddMap⟩ := resolveAll_of_known zone hn.2
  unfold updateRoles
  rw [Op.runOn_bind_of_ok h, hdel, hadd, Op.runOn_bind_of_ok (Op.runOn_ofExcept _ c₁),
    Op.runOn_bind_of_ok (Op.runOn_ofExcept _ c₁),
    Change.removeAll_eq a.endpoint userId origin zone, Change.addAll_eq]
  obtain ⟨xs, hadv, hmade⟩ :=
    Change.runOn_makeAll a.endpoint userId origin zone (deleteIds.map .remove) c₁
  rcases hr : (Change.makeAll a.endpoint userId origin zone (deleteIds.map .remove)).runOn c₁
    with ⟨r, c₂⟩
  rw [hr] at hadv hmade
  -- Nothing is added once a removal has failed.
  cases r with
  | error f =>
    rw [Op.runOn_bind_of_error hr]
    exact ⟨deleteIds, addIds, xs, hdelMap, haddMap, hadv, hmade.append_of_error _⟩
  | ok _ =>
    rw [Op.runOn_bind_of_ok hr]
    obtain ⟨ys, hadv', hmade'⟩ :=
      Change.runOn_makeAll a.endpoint userId origin zone (addIds.map .add) c₂
    exact ⟨deleteIds, addIds, xs ++ ys, hdelMap, haddMap, hadv.trans hadv', hmade.append hmade'⟩

/-- The groups of the zone are taken from the cache or loaded, which only reads; if that fails,
nothing else is done. Then all names are resolved, those to take away before those to add, and the
first one that the zone has no group of ends the operation without a change. Then the removals are
made, and after them the additions, up to the first that fails: what is sent are the first of their
messages. All of them are asked for in the zone, unless the endpoint has a further header of that
name. -/
theorem updateRoles_resolves_then_changes (a : UserAdmin) (userId : String)
    (toDelete toAdd : List String) (origin zone : String) (c : Connection) :
    let load := (loadGroups a zone).runOn c
    let run := (updateRoles a userId toDelete toAdd origin zone).runOn c
    (∀ groups, c.groups.get? zone = some groups → load = (.ok groups, c)) ∧
    (∃ gets, load.2.network.log = c.network.log ++ gets ∧ ∀ x ∈ gets, x.request.method = .get) ∧
    match load.1 with
    | .error f =>
      c.groups.get? zone = none ∧ load.2.groups = c.groups ∧ run = (.error f, load.2)
    | .ok groups =>
      load.2.groups.get? zone = some groups ∧
      match firstUnknown? groups (toDelete ++ toAdd) with
      | some n => run = (.error (.groupNotFound zone n), load.2)
      | none => ∃ (deleteIds addIds : List String) (changes : List Change) (xs : List Net.Exchange),
        toDelete.map groups.groupId? = deleteIds.map some ∧
        toAdd.map groups.groupId? = addIds.map some ∧
        changes = deleteIds.map .remove ++ addIds.map .add ∧
        Advanced load.2 xs run.2 ∧
        xs.map (·.request.message) <+: changes.map (Change.message a.endpoint userId origin) ∧
        Made (Change.request a.endpoint userId origin zone) changes xs run.1 ∧
        (run.1 = .ok () ↔
          List.Forall₂ (Passes (Change.request a.endpoint userId origin zone)) changes xs) ∧
        ∀ x ∈ xs, x.request.headers.get? Net.Header.zoneId.key
          = some ((a.endpoint.headers.get? Net.Header.zoneId.key).getD zone) := by
  intro load run
  refine ⟨fun _ => runOn_loadGroups_of_cached, loadGroups_makes a zone c, ?_⟩
  rcases hl : (loadGroups a zone).runOn c with ⟨r, c₁⟩
  have hload : load = (r, c₁) := hl
  rw [hload]
  cases r with
  | error f =>
    obtain ⟨habsent, hgroups⟩ := loadGroups_error hl
    exact ⟨habsent, hgroups, runOn_updateRoles_of_load_error hl⟩
  | ok groups =>
    refine ⟨loadGroups_ok hl, ?_⟩
    -- All names are looked up before the first change.
    rcases hn : firstUnknown? groups (toDelete ++ toAdd) with _ | n
    · obtain ⟨deleteIds, addIds, xs, hdel, hadd, hadv, hmade⟩ :=
        runOn_updateRoles_of_known userId origin hl hn
      refine ⟨deleteIds, addIds, _, xs, hdel, hadd, rfl, hadv, hmade.messages, hmade,
        hmade.eq_ok_iff, ?_⟩
      intro x hx
      obtain ⟨ch, -, hch⟩ := hmade.exists_change hx
      exact Change.zone_of_request _ _ _ _ hch
    · exact runOn_updateRoles_of_unknown hl hn

end UaaAdmin.Users
