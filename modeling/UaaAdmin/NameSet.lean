/-!
# Sets of names

A finite set of texts, kept as the strictly ascending list of its members, so that two sets with the
same members are equal (`NameSet.ext`). The order is that of the code points.
-/

namespace UaaAdmin

/-- A finite set of texts in ascending order. -/
structure NameSet where
  toList : List String
  ascending : toList.Pairwise (· < ·)
  deriving DecidableEq

namespace NameSet

/-- Puts `a` into an ascending list, at its place and only once. -/
def insertInto (a : String) : List String → List String
  | [] => [a]
  | b :: bs =>
    if a < b then a :: b :: bs
    else if a = b then b :: bs
    else b :: insertInto a bs

@[simp] theorem mem_insertInto {a x : String} {l : List String} :
    x ∈ insertInto a l ↔ x = a ∨ x ∈ l := by
  induction l with
  | nil => simp [insertInto]
  | cons b bs ih =>
    unfold insertInto
    split
    · simp
    · split
      · rename_i h; subst h; simp
      · simp only [List.mem_cons, ih]
        constructor
        · rintro (h | h | h) <;> simp [h]
        · rintro (h | h | h) <;> simp [h]

/-- Of two texts that differ, one comes before the other. -/
theorem lt_of_not_lt_of_ne {a b : String} (h : ¬a < b) (hne : a ≠ b) : b < a := by
  rcases String.le_total a b with hab | hab
  · exact absurd (String.le_antisymm hab (fun hlt => h hlt)) hne
  · exact Decidable.byContradiction fun hn =>
      hne (String.le_antisymm (fun hlt => hn hlt) hab)

/-- The list stays ascending. -/
theorem insertInto_ascending {a : String} {l : List String} (h : l.Pairwise (· < ·)) :
    (insertInto a l).Pairwise (· < ·) := by
  induction l with
  | nil => simp [insertInto]
  | cons b bs ih =>
    rw [List.pairwise_cons] at h
    unfold insertInto
    split
    · rename_i hab
      simp only [List.pairwise_cons, List.mem_cons, forall_eq_or_imp]
      exact ⟨⟨hab, fun x hx => String.lt_trans hab (h.1 x hx)⟩, h⟩
    · rename_i hab
      split
      · exact List.pairwise_cons.2 h
      · rename_i hne
        refine List.pairwise_cons.2 ⟨fun x hx => ?_, ih h.2⟩
        rcases mem_insertInto.1 hx with rfl | hx
        · exact lt_of_not_lt_of_ne hab hne
        · exact h.1 x hx

/-- The set without members. -/
def empty : NameSet := ⟨[], List.Pairwise.nil⟩

instance : EmptyCollection NameSet := ⟨empty⟩
instance : Inhabited NameSet := ⟨empty⟩

/-- The set with `a` added. -/
def insert (a : String) (s : NameSet) : NameSet :=
  ⟨insertInto a s.toList, insertInto_ascending s.ascending⟩

/-- The set of the members of a list, which may be unsorted and repeat. -/
def ofList (l : List String) : NameSet :=
  l.foldr insert empty

instance : Membership String NameSet := ⟨fun s a => a ∈ s.toList⟩

instance (a : String) (s : NameSet) : Decidable (a ∈ s) :=
  inferInstanceAs (Decidable (a ∈ s.toList))

/-- The set has no member. -/
def isEmpty (s : NameSet) : Bool := s.toList.isEmpty

/-- The members of `s` that are not in `t`, ascending. -/
def diff (s t : NameSet) : List String :=
  s.toList.filter fun a => decide (a ∉ t)

theorem mem_toList {a : String} {s : NameSet} : a ∈ s.toList ↔ a ∈ s := Iff.rfl

@[simp] theorem not_mem_empty {a : String} : a ∉ (∅ : NameSet) := List.not_mem_nil

@[simp] theorem mem_insert {a x : String} {s : NameSet} : x ∈ s.insert a ↔ x = a ∨ x ∈ s :=
  mem_insertInto

@[simp] theorem mem_ofList {x : String} {l : List String} : x ∈ ofList l ↔ x ∈ l := by
  induction l with
  | nil => exact iff_of_false not_mem_empty List.not_mem_nil
  | cons a l ih => rw [List.mem_cons, ← ih]; exact mem_insert

@[simp] theorem mem_diff {x : String} {s t : NameSet} : x ∈ s.diff t ↔ x ∈ s ∧ x ∉ t := by
  simp [diff, mem_toList]

/-- Two ascending lists with the same members are equal. -/
theorem eq_of_ascending : ∀ {l m : List String}, l.Pairwise (· < ·) → m.Pairwise (· < ·) →
    (∀ x, x ∈ l ↔ x ∈ m) → l = m
  | [], [], _, _, _ => rfl
  | [], b :: _, _, _, h => absurd ((h b).2 List.mem_cons_self) List.not_mem_nil
  | a :: _, [], _, _, h => absurd ((h a).1 List.mem_cons_self) List.not_mem_nil
  | a :: l, b :: m, hl, hm, h => by
    rw [List.pairwise_cons] at hl hm
    have hab : a = b := by
      rcases List.mem_cons.1 ((h a).1 List.mem_cons_self) with hab | ha
      · exact hab
      · rcases List.mem_cons.1 ((h b).2 List.mem_cons_self) with hba | hb
        · exact hba.symm
        · exact absurd (hm.1 a ha) (String.lt_asymm (hl.1 b hb))
    subst hab
    have htail : l = m := eq_of_ascending hl.2 hm.2 fun x => by
      constructor
      · intro hx
        rcases List.mem_cons.1 ((h x).1 (List.mem_cons_of_mem _ hx)) with rfl | hxm
        · exact absurd (hl.1 x hx) (String.lt_irrefl x)
        · exact hxm
      · intro hx
        rcases List.mem_cons.1 ((h x).2 (List.mem_cons_of_mem _ hx)) with rfl | hxl
        · exact absurd (hm.1 x hx) (String.lt_irrefl x)
        · exact hxl
    rw [htail]

/-- Sets with the same members are equal. -/
theorem ext {s t : NameSet} (h : ∀ x, x ∈ s ↔ x ∈ t) : s = t := by
  cases s; cases t
  congr
  exact eq_of_ascending ‹_› ‹_› h

@[simp] theorem ofList_toList (s : NameSet) : ofList s.toList = s :=
  ext fun _ => mem_ofList.trans mem_toList

/-- Order and repetition in the list make no difference. -/
theorem ofList_congr {l m : List String} (h : ∀ x, x ∈ l ↔ x ∈ m) : ofList l = ofList m :=
  ext fun x => by simp [h x]

end NameSet

end UaaAdmin
