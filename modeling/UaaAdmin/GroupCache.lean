import UaaAdmin.NameMap

/-!
# Group cache

The groups of the zones that have been loaded. An entry is never refreshed: the first one put in for
a zone stays, until it is taken out. So a group that was renamed or created later is not seen before
the zone is invalidated.

`GroupCache.get?_insert`, `GroupCache.get?_invalidate` and `GroupCache.get?_reset` say what each
change does to every zone.
-/

namespace UaaAdmin

/-- The groups of one zone: ids by display name, and the names of those that every user is in. -/
structure ZoneGroups where
  ids : NameMap String
  defaults : NameSet
  deriving DecidableEq

namespace ZoneGroups

/-- The entry of a list of names and ids, of which the last one with a name counts. -/
def ofLists (groups : List (String × String)) (defaults : List String) : ZoneGroups :=
  ⟨NameMap.ofList groups, NameSet.ofList defaults⟩

/-- The id of the group with this display name. -/
def groupId? (g : ZoneGroups) (displayName : String) : Option String :=
  g.ids.get? displayName

/-- Every user of the zone is in the group, whether or not the zone has it. -/
def isDefault (g : ZoneGroups) (displayName : String) : Bool :=
  decide (displayName ∈ g.defaults)

/-- Number of groups. -/
def size (g : ZoneGroups) : Nat := g.ids.size

/-- The zone has no group. -/
def isEmpty (g : ZoneGroups) : Bool := g.ids.isEmpty

end ZoneGroups

/-- The loaded zones. -/
structure GroupCache where
  zones : NameMap ZoneGroups
  deriving DecidableEq

namespace GroupCache

/-- The cache in which no zone is loaded. -/
def empty : GroupCache := ⟨∅⟩

instance : EmptyCollection GroupCache := ⟨empty⟩
instance : Inhabited GroupCache := ⟨empty⟩

/-- The entry of a zone. -/
def get? (c : GroupCache) (zone : String) : Option ZoneGroups := c.zones.get? zone

/-- The zone is loaded. -/
def contains (c : GroupCache) (zone : String) : Bool := (c.get? zone).isSome

/-- The entry of a zone after `groups` were put in for it, and the cache with it. -/
def insert (c : GroupCache) (zone : String) (groups : ZoneGroups) : ZoneGroups × GroupCache :=
  match c.get? zone with
  | some kept => (kept, c)
  | none => (groups, ⟨c.zones.insert zone groups⟩)

/-- The cache without one zone. -/
def invalidate (c : GroupCache) (zone : String) : GroupCache := ⟨c.zones.erase zone⟩

/-- The cache without any zone. -/
def reset (_ : GroupCache) : GroupCache := ∅

/-! ## What is found after a change -/

@[simp] theorem get?_empty (z : String) : (∅ : GroupCache).get? z = none := rfl

theorem get?_insert (c : GroupCache) (zone : String) (groups : ZoneGroups) (z : String) :
    (c.insert zone groups).2.get? z
      = if z = zone then some ((c.get? zone).getD groups) else c.get? z := by
  unfold insert
  split
  · rename_i kept h
    by_cases hz : z = zone <;> simp [hz, h]
  · rename_i h
    simp [get?] at h ⊢
    split <;> simp [h]

theorem insert_fst (c : GroupCache) (zone : String) (groups : ZoneGroups) :
    (c.insert zone groups).1 = (c.get? zone).getD groups := by
  unfold insert
  split <;> simp_all

@[simp] theorem get?_invalidate (c : GroupCache) (zone z : String) :
    (c.invalidate zone).get? z = if z = zone then none else c.get? z :=
  NameMap.get?_erase c.zones zone z

@[simp] theorem get?_reset (c : GroupCache) (z : String) : c.reset.get? z = none := rfl

end GroupCache

/-! ## Handles

A cache can be held by several owners, who all see each other's changes. -/

/-- Caches and the handles through which they are held: the handle with number `h` holds the cache
whose place is the member `h` of `places`. -/
structure CacheHandles where
  caches : List GroupCache := []
  places : List Nat := []

namespace CacheHandles

/-- A new cache with a handle of its own, whose number comes with it. -/
def create (s : CacheHandles) : Nat × CacheHandles :=
  (s.places.length, ⟨s.caches ++ [∅], s.places ++ [s.caches.length]⟩)

/-- Another handle for the cache that `h` holds. -/
def share (s : CacheHandles) (h : Nat) : Nat × CacheHandles :=
  (s.places.length, { s with places := s.places ++ [s.places.getD h 0] })

/-- The cache that `h` holds. -/
def cache (s : CacheHandles) (h : Nat) : GroupCache :=
  s.caches.getD (s.places.getD h 0) ∅

/-- The handles after the cache that `h` holds became `c`. -/
def setCache (s : CacheHandles) (h : Nat) (c : GroupCache) : CacheHandles :=
  { s with caches := s.caches.set (s.places.getD h 0) c }

end CacheHandles

end UaaAdmin
