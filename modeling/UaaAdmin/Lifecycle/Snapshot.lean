import UaaAdmin.NameSet

/-!
# Snapshots

A snapshot of one declared object: its id on the server, the state it had, and the state it should
have. `Snapshot.changedValue_snd` and `Snapshot.change_eq_none_iff` say when a field counts as
changed.
-/

namespace UaaAdmin

/-- An object as it was and as it should be. An object that is not there yet has an empty id. -/
structure Snapshot (M : Type) where
  id : String
  prior : Option M
  desired : M
  deriving DecidableEq

namespace Snapshot

variable {M V : Type}

/-- An object that is not there yet. -/
def new (desired : M) : Snapshot M := ⟨"", none, desired⟩

/-- An object that is to stay as it is. -/
def existing (id : String) (state : M) : Snapshot M := ⟨id, some state, state⟩

/-- An object that is to change. -/
def planned (id : String) (prior desired : M) : Snapshot M := ⟨id, some prior, desired⟩

/-- The object is not there yet. -/
def isNew (s : Snapshot M) : Bool := s.id == ""

/-- The field has another value than before, or there is no state before. -/
def differs [DecidableEq V] (s : Snapshot M) (field : M → V) : Bool :=
  match s.prior with
  | some prior => field prior != field s.desired
  | none => true

/-- The value that a field should have, and whether this field or an earlier one differs. -/
def changedValue [DecidableEq V] (s : Snapshot M) (field : M → V) (modified : Bool) : V × Bool :=
  (field s.desired, modified || s.differs field)

/-- The value that a field had, which is the default of its type if there is no state before. -/
def oldValue [Inhabited V] (s : Snapshot M) (field : M → V) : V :=
  (s.prior.map field).getD default

/-- The values that a field had and should have, if they differ. -/
def change [DecidableEq V] [Inhabited V] (s : Snapshot M) (field : M → V) : Option (V × V) :=
  if s.oldValue field = field s.desired then none
  else some (s.oldValue field, field s.desired)

theorem changedValue_snd [DecidableEq V] (s : Snapshot M) (field : M → V) (modified : Bool) :
    (s.changedValue field modified).2 = true ↔
      modified = true ∨ ∀ prior, s.prior = some prior → field prior ≠ field s.desired := by
  cases h : s.prior <;> simp [changedValue, differs, h]

theorem change_eq_none_iff [DecidableEq V] [Inhabited V] (s : Snapshot M) (field : M → V) :
    s.change field = none ↔ s.oldValue field = field s.desired := by
  unfold change
  split <;> simp_all

end Snapshot

/-- The names to take away from `old` and to add to it, so that it becomes `new`. -/
def listChanges (old new : NameSet) : List String × List String :=
  (old.diff new, new.diff old)

end UaaAdmin
