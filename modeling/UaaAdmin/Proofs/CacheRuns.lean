import Mathlib.Data.List.Induction
import UaaAdmin.Proofs.Exchanges
import UaaAdmin.Proofs.LastOfEach

/-!
# Runs of calls on the group cache

A call for a zone gets the entry of the zone, from the cache or by a load, and then uses it
(`CacheCall.op_eq`). What one call does is said by `Serves`: an entry that is there is used and
nothing is read, and one that is not there is put in if two exchanges load it (`IsLoad`); otherwise
no entry changes.

The payoff is `cache_over_runs`, about the calls of a run that begins with an empty cache: each of
them does what `Serves` says or takes entries out; every entry was put in by a load in the run, has
been the same since, and has not been taken out; and between two loads of a zone its entry is taken
out.
-/

namespace UaaAdmin

namespace Users

/-- Changes of memberships read nothing. -/
theorem Change.makeAll_has (e : Endpoint) (userId origin zone : String) (chs : List Change) :
    (makeAll e userId origin zone chs).Has fun x => x.request.method ≠ .get := by
  refine makeAll_has_of (fun ch x hch => ?_) chs
  unfold request at hch
  cases ch with
  | remove g =>
    rw [(Endpoint.request_eq_ok hch).1]
    decide
  | add g =>
    rw [(Endpoint.request_eq_ok hch).1]
    decide

/-! ## Calls -/

/-- A call that has to do with the group cache. -/
inductive CacheCall where
  | load (zone : String)
  | isDefault (zone group : String)
  | updateRoles (userId : String) (toDelete toAdd : List String) (origin zone : String)
  | invalidate (zone : String)
  | reset

/-- What a call gives. -/
inductive CacheAnswer where
  | groups (groups : ZoneGroups)
  | isDefault (answer : Bool)
  | done

namespace CacheCall

/-- The zone whose groups the call needs. -/
def zone? : CacheCall → Option String
  | load zone => some zone
  | isDefault zone _ => some zone
  | updateRoles _ _ _ _ zone => some zone
  | invalidate _ => none
  | reset => none

/-- The call takes the entry of a zone out of the cache. -/
def Removes (zone : String) : CacheCall → Prop
  | invalidate z => z = zone
  | reset => True
  | _ => False

instance (zone : String) (call : CacheCall) : Decidable (call.Removes zone) := by
  unfold Removes
  split <;> infer_instance

/-- The operation of the call. -/
def op (a : UserAdmin) : CacheCall → Op CacheAnswer
  | load zone => do
    let groups ← loadGroups a zone
    return .groups groups
  | isDefault zone group => do
    let answer ← isDefaultGroup a zone group
    return .isDefault answer
  | updateRoles userId toDelete toAdd origin zone => do
    Users.updateRoles a userId toDelete toAdd origin zone
    return .done
  | invalidate zone => do
    modifyThe Connection fun c => { c with groups := c.groups.invalidate zone }
    return .done
  | reset => do
    modifyThe Connection fun c => { c with groups := c.groups.reset }
    return .done

/-- What the call does once it has the groups of its zone. -/
def use (a : UserAdmin) (call : CacheCall) (groups : ZoneGroups) : Op CacheAnswer :=
  match call with
  | load _ => return .groups groups
  | isDefault _ group => return .isDefault (groups.isDefault group)
  | updateRoles userId toDelete toAdd origin zone => do
    let deleteIds ← Op.ofExcept (resolveAll groups zone toDelete)
    let addIds ← Op.ofExcept (resolveAll groups zone toAdd)
    removeAll a.endpoint userId zone deleteIds
    addAll a.endpoint (Wire.Membership.ofUser userId origin) zone addIds
    return .done
  | invalidate _ => return .done
  | reset => return .done

variable {a : UserAdmin} {call : CacheCall} {zone : String} {c c' : Connection}

/-- A call for a zone first gets its groups, and then uses them. -/
theorem op_eq (h : call.zone? = some zone) : call.op a = loadGroups a zone >>= call.use a := by
  cases call with
  | load z =>
    obtain rfl := Option.some.inj h
    rfl
  | isDefault z group =>
    obtain rfl := Option.some.inj h
    simp only [op, isDefaultGroup, bind_assoc, pure_bind]
    rfl
  | updateRoles userId toDelete toAdd origin z =>
    obtain rfl := Option.some.inj h
    simp only [op, Users.updateRoles, bind_assoc]
    rfl
  | invalidate z => exact absurd h (by simp [zone?])
  | reset => exact absurd h (by simp [zone?])

/-- Using an entry reads nothing, and leaves the cache as it is. -/
theorem use_has (a : UserAdmin) (call : CacheCall) (groups : ZoneGroups) :
    (call.use a groups).Has fun x => x.request.method ≠ .get := by
  cases call with
  | load z => exact Op.has_pure _
  | isDefault z group => exact Op.has_pure _
  | updateRoles userId toDelete toAdd origin z =>
    refine (Op.has_ofExcept _).bind fun deleteIds => (Op.has_ofExcept _).bind fun addIds => ?_
    rw [Change.removeAll_eq a.endpoint userId origin, Change.addAll_eq]
    have hmade := Change.makeAll_has a.endpoint userId origin z
    exact (hmade _).bind fun _ => (hmade _).bind fun _ => Op.has_pure _
  | invalidate z => exact Op.has_pure _
  | reset => exact Op.has_pure _

end CacheCall

/-! ## Loads -/

/-- The exchange reads what stands at a path, and its answer reports success and holds `v`. -/
structure Reads {α : Type} [JsonForm α] (e : Endpoint) (path : String) (v : α)
    (x : Net.Exchange) : Prop where
  request : e.request .get path .empty = .ok x.request
  answer : x.outcome.Gives v

/-- The entry is that of a list of groups, of which the last one with a name counts, and of the
default groups of a record, which are none if it does not tell them. -/
structure IsEntryOf (entry : ZoneGroups) (list : Wire.Listing Wire.Group) (record : Wire.Zone) :
    Prop where
  groupId? : ∀ n, entry.groupId? n
    = (list.resources.reverse.find? fun g => g.displayName = n).map (·.id)
  isDefault : ∀ n, entry.isDefault n = true ↔
    ∃ config defaults, record.config = some config ∧ config.userDefaults = some defaults ∧
      n ∈ defaults.defaultGroups

/-- The two exchanges load a zone: its groups are read in the zone, then its record, and the entry
is that of both. -/
def IsLoad (a : UserAdmin) (zone : String) (entry : ZoneGroups) (x y : Net.Exchange) : Prop :=
  ∃ (list : Wire.Listing Wire.Group) (record : Wire.Zone),
    Reads (a.endpoint.withZone zone) "/Groups" list x ∧
    Reads a.zones ("/identity-zones/" ++ zone) record y ∧ IsEntryOf entry list record

variable {a : UserAdmin} {zone : String} {c c' : Connection}

theorem Reads.method {α : Type} [JsonForm α] {e : Endpoint} {path : String} {v : α}
    {x : Net.Exchange} (h : Reads e path v x) : x.request.method = .get :=
  (Endpoint.request_eq_ok h.request).1

theorem IsEntryOf.unique {entry entry' : ZoneGroups} {list : Wire.Listing Wire.Group}
    {record : Wire.Zone} (h : IsEntryOf entry list record) (h' : IsEntryOf entry' list record) :
    entry = entry' := by
  have hids : entry.ids = entry'.ids :=
    NameMap.ext fun n => (h.groupId? n).trans (h'.groupId? n).symm
  have hdefaults : entry.defaults = entry'.defaults := by
    refine NameSet.ext fun n => ?_
    have hn := (h.isDefault n).trans (h'.isDefault n).symm
    unfold ZoneGroups.isDefault at hn
    rwa [decide_eq_true_iff, decide_eq_true_iff] at hn
  cases entry
  cases entry'
  rw [ZoneGroups.mk.injEq]
  exact ⟨hids, hdefaults⟩

/-- What two exchanges load is determined by them. -/
theorem IsLoad.unique {entry entry' : ZoneGroups} {x y : Net.Exchange}
    (h : IsLoad a zone entry x y) (h' : IsLoad a zone entry' x y) : entry = entry' := by
  obtain ⟨list, record, hlist, hrecord, hentry⟩ := h
  obtain ⟨list', record', hlist', hrecord', hentry'⟩ := h'
  obtain rfl := hlist.answer.unique hlist'.answer
  obtain rfl := hrecord.answer.unique hrecord'.answer
  exact hentry.unique hentry'

theorem isEntryOf_entryOf (list : Wire.Listing Wire.Group) (record : Wire.Zone) :
    IsEntryOf (entryOf list record) list record where
  groupId? n := by
    show (NameMap.ofList _).get? n = _
    rw [NameMap.get?_ofList, ← List.map_reverse, NameMap.lookup_map]
  isDefault n := by
    unfold ZoneGroups.isDefault
    rw [decide_eq_true_iff]
    refine NameSet.mem_ofList.trans ?_
    unfold Wire.Zone.defaultGroups
    rcases record.config with _ | config
    · simp
    · rcases hd : config.userDefaults with _ | defaults <;> simp [hd]

/-- A request that reads has at most one exchange, and gives a value exactly if that one does. -/
theorem runOn_get {α : Type} [JsonForm α] (e : Endpoint) (path : String) (c : Connection) :
    (∃ v x c', (e.get path : Op α).runOn c = (.ok v, c') ∧ Advanced c [x] c' ∧ Reads e path v x) ∨
    ∃ f xs c', (e.get path : Op α).runOn c = (.error f, c') ∧ Advanced c xs c' ∧ xs.length ≤ 1 ∧
      ∀ x ∈ xs, ∀ v : α, ¬Reads e path v x := by
  have hasked := Endpoint.asked (α := α) e .get path .empty c
  unfold Endpoint.get
  generalize (e.ask .get path .empty : Op α).runOn c = r at hasked ⊢
  cases hasked with
  | refused h => exact .inr ⟨_, [], c, rfl, .refl c, by simp, by simp⟩
  | failed h hadv hx =>
    refine .inr ⟨_, _, _, rfl, hadv, by simp, ?_⟩
    intro y hy v hread
    obtain rfl := List.mem_singleton.mp hy
    exact hx v hread.answer
  | answered h hadv hx => exact .inl ⟨_, _, _, rfl, hadv, h, hx⟩

/-- A load of a zone that is not in the cache. It is answered twice and puts the entry of both
answers in, or it fails and its exchanges are not those of a load. -/
theorem loadGroups_cases (h : c.groups.get? zone = none) :
    (∃ entry x y c₁, (loadGroups a zone).runOn c
        = (.ok entry, ⟨c₁.network, (c.groups.insert zone entry).2⟩) ∧
      Advanced c [x, y] c₁ ∧ IsLoad a zone entry x y) ∨
    ∃ f xs c', (loadGroups a zone).runOn c = (.error f, c') ∧ Advanced c xs c' ∧
      ∀ x y rest entry, xs = x :: y :: rest → ¬IsLoad a zone entry x y := by
  rw [runOn_loadGroups_of_absent h]
  rcases runOn_get (α := Wire.Listing Wire.Group) (a.endpoint.withZone zone) Groups.collection c
    with ⟨list, x, c₁, hrun, hadv, hread⟩ | ⟨f, xs, c₁, hrun, hadv, hlen, -⟩
  · rw [show (listingOf a zone).runOn c = _ from hrun]
    dsimp only
    rcases runOn_get (α := Wire.Zone) a.zones (Zones.pathOf zone) c₁ with
      ⟨record, y, c₂, hrun', hadv', hread'⟩ | ⟨f, ys, c₂, hrun', hadv', -, hnone⟩
    · rw [show (Zones.get a.zones zone).runOn c₁ = _ from hrun']
      exact .inl ⟨entryOf list record, x, y, c₂, rfl, hadv.trans hadv',
        ⟨list, record, hread, hread', isEntryOf_entryOf list record⟩⟩
    · rw [show (Zones.get a.zones zone).runOn c₁ = _ from hrun']
      have hboth := hadv.trans hadv'
      refine .inr ⟨f, x :: ys, ⟨c₂.network, c.groups⟩, rfl, ⟨hboth.network, hboth.log, rfl⟩, ?_⟩
      -- The second request is the one that failed, so the second exchange does not hold a record.
      rintro x' y rest entry hxs ⟨list', record', -, hread', -⟩
      have hy : y ∈ ys := by simp [(List.cons.inj hxs).2]
      exact hnone y hy record' hread'
  · rw [show (listingOf a zone).runOn c = _ from hrun]
    refine .inr ⟨f, xs, ⟨c₁.network, c.groups⟩, rfl, ⟨hadv.network, hadv.log, rfl⟩, ?_⟩
    rintro x y rest entry rfl
    simp at hlen

/-! ## One call -/

/-- What a call for a zone does to the connection `c`: its exchanges, its result, and the connection
that it leaves. -/
inductive Serves (a : UserAdmin) (call : CacheCall) (zone : String) (c : Connection) :
    List Net.Exchange → Except Fault CacheAnswer × Connection → Prop
  /-- The zone has an entry: that one is used, and nothing is read. -/
  | used {entry xs r c'} (h : c.groups.get? zone = some entry)
      (hrun : (call.use a entry).runOn c = (r, c')) (hadv : Advanced c xs c')
      (hxs : ∀ x ∈ xs, x.request.method ≠ .get) : Serves a call zone c xs (r, c')
  /-- It has none, and the load fails: no entry changes. -/
  | failed {f xs c'} (h : c.groups.get? zone = none) (hadv : Advanced c xs c')
      (hxs : ∀ x y rest entry, xs = x :: y :: rest → ¬IsLoad a zone entry x y) :
      Serves a call zone c xs (.error f, c')
  /-- It has none, and one is loaded, put in and used; behind the load nothing is read. -/
  | loaded {entry x y c₁ xs r c'} (h : c.groups.get? zone = none) (hadv : Advanced c [x, y] c₁)
      (hload : IsLoad a zone entry x y)
      (hrun : (call.use a entry).runOn ⟨c₁.network, (c.groups.insert zone entry).2⟩ = (r, c'))
      (hadv' : Advanced ⟨c₁.network, (c.groups.insert zone entry).2⟩ xs c')
      (hxs : ∀ x ∈ xs, x.request.method ≠ .get) : Serves a call zone c (x :: y :: xs) (r, c')

namespace CacheCall

variable {call : CacheCall} {entry : ZoneGroups}

/-- Every call for a zone serves it. -/
theorem serves (a : UserAdmin) (c : Connection) (hzone : call.zone? = some zone) :
    ∃ xs, Serves a call zone c xs ((call.op a).runOn c) := by
  rw [op_eq hzone]
  rcases h : c.groups.get? zone with _ | entry
  · rcases loadGroups_cases (a := a) h with
      ⟨entry, x, y, c₁, hrun, hadv, hload⟩ | ⟨f, xs, c', hrun, hadv, hnone⟩
    · rw [Op.runOn_bind_of_ok hrun]
      obtain ⟨ys, hadv', hys⟩ :=
        use_has a call entry ⟨c₁.network, (c.groups.insert zone entry).2⟩
      exact ⟨_, .loaded h hadv hload rfl hadv' hys⟩
    · rw [Op.runOn_bind_of_error hrun]
      exact ⟨_, .failed h hadv hnone⟩
  · rw [Op.runOn_bind_of_ok (runOn_loadGroups_of_cached h)]
    obtain ⟨xs, hadv, hxs⟩ := use_has a call entry c
    exact ⟨_, .used h rfl hadv hxs⟩

/-- The exchanges of the call begin with a load of the zone it is for. -/
def Loads (a : UserAdmin) (zone : String) (entry : ZoneGroups) (c : Connection)
    (call : CacheCall) : Prop :=
  call.zone? = some zone ∧ ∃ x y rest, IsLoad a zone entry x y ∧
    ((call.op a).runOn c).2.network.log = c.network.log ++ x :: y :: rest

end CacheCall

namespace Serves

variable {call : CacheCall} {entry : ZoneGroups} {xs : List Net.Exchange}
  {r : Except Fault CacheAnswer × Connection}

theorem log (h : Serves a call zone c xs r) : r.2.network.log = c.network.log ++ xs := by
  cases h with
  | used _ _ hadv _ => exact hadv.log
  | failed _ hadv _ => exact hadv.log
  | loaded _ hadv _ _ hadv' _ =>
    rw [hadv'.log, hadv.log, List.append_assoc]
    rfl

/-- A call leaves the entries of other zones as they are. -/
theorem get?_of_ne (h : Serves a call zone c xs r) {z : String} (hz : z ≠ zone) :
    r.2.groups.get? z = c.groups.get? z := by
  cases h with
  | used _ _ hadv _ => rw [hadv.groups]
  | failed _ hadv _ => rw [hadv.groups]
  | loaded _ _ _ _ hadv' _ => rw [hadv'.groups, GroupCache.get?_insert, if_neg hz]

/-- An entry that is there stays. -/
theorem get?_of_some (h : Serves a call zone c xs r) (hc : c.groups.get? zone = some entry) :
    r.2.groups.get? zone = some entry := by
  cases h with
  | used _ _ hadv _ => rw [hadv.groups, hc]
  | failed hnone _ _ => exact absurd (hnone.symm.trans hc) (by simp)
  | loaded hnone _ _ _ _ _ => exact absurd (hnone.symm.trans hc) (by simp)

/-- A call has the entry of its zone afterwards if it had it before, or has loaded it. -/
theorem get?_eq_some (h : Serves a call zone c xs r) (hr : r.2.groups.get? zone = some entry) :
    c.groups.get? zone = some entry ∨
      ∃ x y rest, IsLoad a zone entry x y ∧ xs = x :: y :: rest := by
  cases h with
  | used _ _ hadv _ => exact .inl (by rw [← hadv.groups, hr])
  | failed _ hadv _ => exact .inl (by rw [← hadv.groups, hr])
  | loaded hnone _ hload _ hadv' _ =>
    rw [hadv'.groups, GroupCache.get?_insert, if_pos rfl, hnone, Option.getD_none] at hr
    obtain rfl := Option.some.inj hr
    exact .inr ⟨_, _, _, hload, rfl⟩

/-- A call that begins with a load found no entry, and leaves the one that it loaded. -/
theorem of_isLoad {x y : Net.Exchange} {rest : List Net.Exchange}
    (h : Serves a call zone c (x :: y :: rest) r) (hload : IsLoad a zone entry x y) :
    c.groups.get? zone = none ∧ r.2.groups.get? zone = some entry := by
  cases h with
  | used _ _ _ hxs =>
    obtain ⟨list, record, hlist, -⟩ := hload
    exact absurd hlist.method (hxs x List.mem_cons_self)
  | failed _ _ hxs => exact absurd hload (hxs x y rest entry rfl)
  | loaded hnone _ hload' _ hadv' _ =>
    obtain rfl := hload.unique hload'
    refine ⟨hnone, ?_⟩
    rw [hadv'.groups, GroupCache.get?_insert, if_pos rfl, hnone, Option.getD_none]

end Serves

namespace CacheCall

variable {call : CacheCall} {entry : ZoneGroups}

/-- A call that needs no groups only takes entries out. -/
theorem get?_of_zone?_eq_none (h : call.zone? = none) (z : String) :
    ((call.op a).runOn c).2.groups.get? z = if call.Removes z then none else c.groups.get? z := by
  cases call with
  | load _ => exact absurd h (by simp [zone?])
  | isDefault _ _ => exact absurd h (by simp [zone?])
  | updateRoles _ _ _ _ _ => exact absurd h (by simp [zone?])
  | invalidate zone =>
    show (c.groups.invalidate zone).get? z = if zone = z then _ else _
    rw [GroupCache.get?_invalidate]
    simp only [eq_comm]
  | reset => exact (GroupCache.get?_reset c.groups z).trans (if_pos trivial).symm

/-- A call for a zone takes nothing out. -/
theorem not_removes (h : call.zone? = some zone) (z : String) : ¬call.Removes z := by
  cases call with
  | load _ => exact id
  | isDefault _ _ => exact id
  | updateRoles _ _ _ _ _ => exact id
  | invalidate _ => exact absurd h (by simp [zone?])
  | reset => exact absurd h (by simp [zone?])

/-- An entry stays until it is taken out. -/
theorem get?_of_not_removes (hc : c.groups.get? zone = some entry) (hr : ¬call.Removes zone) :
    ((call.op a).runOn c).2.groups.get? zone = some entry := by
  rcases hz : call.zone? with _ | z
  · rw [get?_of_zone?_eq_none hz, if_neg hr, hc]
  · obtain ⟨xs, hserves⟩ := serves a c hz
    by_cases hzone : zone = z
    · subst hzone
      exact hserves.get?_of_some hc
    · rw [hserves.get?_of_ne hzone, hc]

/-- A zone has an entry after a call if it had it before and it was not taken out, or the call
loaded it. -/
theorem get?_eq_some (h : ((call.op a).runOn c).2.groups.get? zone = some entry) :
    (c.groups.get? zone = some entry ∧ ¬call.Removes zone) ∨ call.Loads a zone entry c := by
  rcases hz : call.zone? with _ | z
  · rw [get?_of_zone?_eq_none hz] at h
    split at h
    · exact absurd h (by simp)
    · exact .inl ⟨h, ‹_›⟩
  · obtain ⟨xs, hserves⟩ := serves a c hz
    by_cases hzone : zone = z
    · subst hzone
      rcases hserves.get?_eq_some h with hc | ⟨x, y, rest, hload, rfl⟩
      · exact .inl ⟨hc, not_removes hz zone⟩
      · exact .inr ⟨hz, x, y, rest, hload, hserves.log⟩
    · rw [hserves.get?_of_ne hzone] at h
      exact .inl ⟨h, not_removes hz zone⟩

/-- A call loads a zone only if it has no entry, and then gives it the entry. -/
theorem Loads.get? (h : call.Loads a zone entry c) :
    c.groups.get? zone = none ∧ ((call.op a).runOn c).2.groups.get? zone = some entry := by
  obtain ⟨hz, x, y, rest, hload, hlog⟩ := h
  obtain ⟨xs, hserves⟩ := serves a c hz
  obtain rfl := List.append_cancel_left (hserves.log.symm.trans hlog)
  exact hserves.of_isLoad hload

end CacheCall

/-! ## Runs -/

/-- The connection after some calls. -/
def runAll (a : UserAdmin) (calls : List CacheCall) (c : Connection) : Connection :=
  calls.foldl (fun c call => ((call.op a).runOn c).2) c

theorem runAll_append (calls calls' : List CacheCall) :
    runAll a (calls ++ calls') c = runAll a calls' (runAll a calls c) := List.foldl_append

theorem runAll_cons (call : CacheCall) (calls : List CacheCall) :
    runAll a (call :: calls) c = runAll a calls ((call.op a).runOn c).2 := rfl

/-- An entry stays in a run that does not take it out. -/
theorem get?_runAll {entry : ZoneGroups} {calls : List CacheCall}
    (hc : c.groups.get? zone = some entry) (h : ∀ call ∈ calls, ¬call.Removes zone) :
    (runAll a calls c).groups.get? zone = some entry := by
  induction calls generalizing c with
  | nil => exact hc
  | cons call calls ih =>
    have hcall := CacheCall.get?_of_not_removes (a := a) hc (h call List.mem_cons_self)
    exact ih hcall fun call' hcall' => h call' (List.mem_cons_of_mem _ hcall')

/-- What a call in a run loaded is there until it is taken out. -/
theorem CacheCall.Loads.get?_runAll {entry : ZoneGroups} {call : CacheCall}
    {earlier since : List CacheCall} (h : call.Loads a zone entry (runAll a earlier c))
    (hsince : ∀ call' ∈ since, ¬call'.Removes zone) :
    (runAll a (earlier ++ call :: since) c).groups.get? zone = some entry := by
  rw [runAll_append, runAll_cons]
  exact Users.get?_runAll h.get?.2 hsince

/-- The entry of a zone after a run that began without one comes from the last load in it, and has
not been taken out since. -/
theorem exists_loads {entry : ZoneGroups} {calls : List CacheCall}
    (hc : c.groups.get? zone = none) (h : (runAll a calls c).groups.get? zone = some entry) :
    ∃ earlier call later, calls = earlier ++ call :: later ∧
      call.Loads a zone entry (runAll a earlier c) ∧ ∀ call' ∈ later, ¬call'.Removes zone := by
  -- The run is taken apart at its end: the last call has loaded the entry, or found it.
  induction calls using List.reverseRecOn with
  | nil => exact absurd (hc.symm.trans h) (by simp)
  | append_singleton calls last ih =>
    rw [runAll_append] at h
    rcases CacheCall.get?_eq_some h with ⟨hkept, hlast⟩ | hloads
    · obtain ⟨earlier, call, later, rfl, hloads, hlater⟩ := ih hkept
      refine ⟨earlier, call, later ++ [last], by simp, hloads, ?_⟩
      intro call' hcall'
      rcases List.mem_append.mp hcall' with hcall' | hcall'
      · exact hlater call' hcall'
      · rwa [List.mem_singleton.mp hcall']
    · exact ⟨calls, last, [], rfl, hloads, by simp⟩

/-- Every call of a run that begins with an empty cache does what `Serves` says, or takes entries
out. An entry that is there in the end is that of a load in the run, and has been the same since.
Between two loads of a zone its entry is taken out. -/
theorem cache_over_runs (a : UserAdmin) (network : Net.Network) (calls : List CacheCall) :
    (∀ earlier call later, calls = earlier ++ call :: later →
      let c := runAll a earlier ⟨network, ∅⟩
      (∀ zone, call.zone? = some zone →
        (∃ xs, Serves a call zone c xs ((call.op a).runOn c)) ∧
        ∀ z, z ≠ zone → ((call.op a).runOn c).2.groups.get? z = c.groups.get? z) ∧
      (call.zone? = none → ∀ zone, ((call.op a).runOn c).2.groups.get? zone
        = if call.Removes zone then none else c.groups.get? zone)) ∧
    (∀ zone entry, (runAll a calls ⟨network, ∅⟩).groups.get? zone = some entry →
      ∃ earlier call later, calls = earlier ++ call :: later ∧
        call.Loads a zone entry (runAll a earlier ⟨network, ∅⟩) ∧
        ∀ since rest, later = since ++ rest → (∀ call' ∈ since, ¬call'.Removes zone) ∧
          (runAll a (earlier ++ call :: since) ⟨network, ∅⟩).groups.get? zone = some entry) ∧
    ∀ zone entry entry' earlier call between call' later,
      calls = earlier ++ call :: (between ++ call' :: later) →
      call.Loads a zone entry (runAll a earlier ⟨network, ∅⟩) →
      call'.Loads a zone entry' (runAll a (earlier ++ call :: between) ⟨network, ∅⟩) →
      ∃ removal ∈ between, removal.Removes zone := by
  refine ⟨?each, ?provenance, ?once⟩
  case each =>
    intro earlier call later _ c
    refine ⟨fun zone hzone => ?_, fun hnone zone => CacheCall.get?_of_zone?_eq_none hnone zone⟩
    obtain ⟨xs, hserves⟩ := CacheCall.serves a c hzone
    exact ⟨⟨xs, hserves⟩, fun z hz => hserves.get?_of_ne hz⟩
  case provenance =>
    intro zone entry hentry
    obtain ⟨earlier, call, later, rfl, hloads, hlater⟩ :=
      exists_loads (GroupCache.get?_empty zone) hentry
    refine ⟨earlier, call, later, rfl, hloads, ?_⟩
    rintro since rest rfl
    have hsince : ∀ call' ∈ since, ¬call'.Removes zone :=
      fun call' hcall' => hlater call' (List.mem_append_left rest hcall')
    exact ⟨hsince, hloads.get?_runAll hsince⟩
  case once =>
    intro zone entry entry' earlier call between call' later _ hloads hloads'
    by_contra hnever
    -- Without a removal the second load would have found the entry of the first.
    have hkept := hloads.get?_runAll fun removal hmem hremoves => hnever ⟨removal, hmem, hremoves⟩
    exact absurd (hloads'.get?.1.symm.trans hkept) (by simp)

/-- A server that answers twice for the groups and the record of a zone. -/
def answering : Net.Network :=
  let groups := "\x7b\"resources\":[\x7b\"id\":\"g1\",\"displayName\":\"a\"\x7d]\x7d"
  let zone := "\x7b\"id\":\"z\",\"subdomain\":\"z\",\"name\":\"z\"\x7d"
  { replies := [groups, zone, groups, zone].map fun body => some ⟨200, body.toUTF8.toList⟩ }

-- The zone is asked for on the first need and again once its entry has been taken out.
example :
    let e : Endpoint := ⟨"http://h", "bearer t", "", ∅⟩
    let a : UserAdmin := ⟨e, e, "ct"⟩
    (runAll a [.load "z", .isDefault "z" "a", .load "z", .invalidate "z", .load "z"]
        ⟨answering, ∅⟩).network.log.map (·.request.url)
      = ["http://h/Groups", "http://h/identity-zones/z", "http://h/Groups",
        "http://h/identity-zones/z"] := by
  decide +kernel

end Users

end UaaAdmin
