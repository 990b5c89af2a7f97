import UaaAdmin.NameSet

/-!
# Maps from names

A finite map whose keys are texts, kept as the list of its entries with strictly ascending keys.
`NameMap.get?_insert` and `NameMap.get?_erase` say what the two changes do to every look-up, and
`NameMap.get?_ofList` that of several entries with one key the last one counts.
-/

namespace UaaAdmin

/-- A finite map from texts, in ascending order of its keys. -/
structure NameMap (α : Type) where
  entries : List (String × α)
  ascending : entries.Pairwise fun a b => a.1 < b.1
  deriving DecidableEq

namespace NameMap

variable {α β : Type}

/-- Puts an entry into a list with ascending keys, in place of one with the same key. -/
def insertInto (k : String) (v : α) : List (String × α) → List (String × α)
  | [] => [(k, v)]
  | e :: es =>
    if k < e.1 then (k, v) :: e :: es
    else if k = e.1 then (k, v) :: es
    else e :: insertInto k v es

theorem mem_insertInto {k : String} {v : α} {x : String × α} {l : List (String × α)}
    (h : x ∈ insertInto k v l) : x = (k, v) ∨ x ∈ l := by
  induction l with
  | nil => simpa [insertInto] using h
  | cons e es ih =>
    unfold insertInto at h
    split at h
    · simpa using h
    · split at h
      · rcases List.mem_cons.1 h with h | h
        · exact Or.inl h
        · exact Or.inr (List.mem_cons_of_mem _ h)
      · rcases List.mem_cons.1 h with h | h
        · exact Or.inr (h ▸ List.mem_cons_self)
        · exact (ih h).imp_right (List.mem_cons_of_mem _)

theorem insertInto_ascending {k : String} {v : α} {l : List (String × α)}
    (h : l.Pairwise fun a b => a.1 < b.1) :
    (insertInto k v l).Pairwise fun a b => a.1 < b.1 := by
  induction l with
  | nil => simp [insertInto]
  | cons e es ih =>
    rw [List.pairwise_cons] at h
    unfold insertInto
    split
    · rename_i hk
      simp only [List.pairwise_cons, List.mem_cons, forall_eq_or_imp]
      exact ⟨⟨hk, fun x hx => String.lt_trans hk (h.1 x hx)⟩, h⟩
    · rename_i hk
      split
      · rename_i he
        exact List.pairwise_cons.2 ⟨fun x hx => by rw [he]; exact h.1 x hx, h.2⟩
      · rename_i hne
        refine List.pairwise_cons.2 ⟨fun x hx => ?_, ih h.2⟩
        rcases mem_insertInto hx with rfl | hx
        · exact NameSet.lt_of_not_lt_of_ne hk hne
        · exact h.1 x hx

/-- The map without entries. -/
def empty : NameMap α := ⟨[], List.Pairwise.nil⟩

instance : EmptyCollection (NameMap α) := ⟨empty⟩
instance : Inhabited (NameMap α) := ⟨empty⟩

/-- The map with the value of `k` set to `v`. -/
def insert (k : String) (v : α) (m : NameMap α) : NameMap α :=
  ⟨insertInto k v m.entries, insertInto_ascending m.ascending⟩

/-- The map without the key `k`. -/
def erase (k : String) (m : NameMap α) : NameMap α :=
  ⟨m.entries.filter fun e => e.1 ≠ k, m.ascending.filter _⟩

/-- The value of `k`. -/
def get? (m : NameMap α) (k : String) : Option α :=
  m.entries.lookup k

/-- The map has the key `k`. -/
def contains (m : NameMap α) (k : String) : Bool :=
  (m.get? k).isSome

/-- The map with the entries of a list put over its own, later ones over earlier ones. -/
def insertMany (m : NameMap α) (l : List (String × α)) : NameMap α :=
  l.foldl (fun m e => m.insert e.1 e.2) m

/-- The map with the entries of a list, of which a later one counts over an earlier one. -/
def ofList (l : List (String × α)) : NameMap α :=
  insertMany ∅ l

/-- The keys, ascending. -/
def keys (m : NameMap α) : List String := m.entries.map (·.1)

/-- Number of entries. -/
def size (m : NameMap α) : Nat := m.entries.length

/-- The map has no entry. -/
def isEmpty (m : NameMap α) : Bool := m.entries.isEmpty

/-! ## Look-ups -/

theorem lookup_cons_eq_ite (k : String) (v : α) (l : List (String × α)) (x : String) :
    ((k, v) :: l).lookup x = if x = k then some v else l.lookup x := by
  by_cases h : x = k
  · simp [h]
  · have : (x == k) = false := by simp [h]
    rw [List.lookup_cons, this, if_neg h]

theorem lookup_insertInto {k : String} {v : α} {l : List (String × α)} (x : String) :
    (insertInto k v l).lookup x = if x = k then some v else l.lookup x := by
  induction l with
  | nil => exact lookup_cons_eq_ite k v [] x
  | cons e es ih =>
    obtain ⟨a, w⟩ := e
    unfold insertInto
    split
    · exact lookup_cons_eq_ite k v _ x
    · split
      · rename_i he
        simp only at he
        subst he
        simp only [lookup_cons_eq_ite]
        split <;> rfl
      · rename_i hne
        simp only at hne
        simp only [lookup_cons_eq_ite, ih]
        by_cases hx : x = a
        · rw [if_pos hx, if_pos hx, if_neg (hx ▸ Ne.symm hne)]
        · rw [if_neg hx, if_neg hx]

@[simp] theorem get?_empty (x : String) : (∅ : NameMap α).get? x = none := rfl

@[simp] theorem get?_insert (m : NameMap α) (k : String) (v : α) (x : String) :
    (m.insert k v).get? x = if x = k then some v else m.get? x :=
  lookup_insertInto x

theorem lookup_filter_ne (k : String) (l : List (String × α)) (x : String) :
    (l.filter fun e => e.1 ≠ k).lookup x = if x = k then none else l.lookup x := by
  induction l with
  | nil => simp
  | cons e es ih =>
    obtain ⟨a, w⟩ := e
    by_cases ha : a = k
    · subst ha
      simp only [ne_eq, not_true_eq_false, decide_false, Bool.false_eq_true, not_false_eq_true,
        List.filter_cons_of_neg, lookup_cons_eq_ite]
      rw [ih]
      split <;> rfl
    · simp only [ne_eq, ha, not_false_eq_true, decide_true, List.filter_cons_of_pos,
        lookup_cons_eq_ite]
      rw [ih]
      by_cases hx : x = a
      · rw [if_pos hx, if_pos hx, if_neg (hx ▸ ha)]
      · rw [if_neg hx, if_neg hx]

@[simp] theorem get?_erase (m : NameMap α) (k x : String) :
    (m.erase k).get? x = if x = k then none else m.get? x :=
  lookup_filter_ne k m.entries x

/-- The last entry with a key is the one that counts. -/
theorem get?_insertMany (m : NameMap α) (l : List (String × α)) (x : String) :
    (m.insertMany l).get? x = (l.reverse.lookup x).or (m.get? x) := by
  induction l generalizing m with
  | nil => simp [insertMany]
  | cons e es ih =>
    have h := ih (m.insert e.1 e.2)
    simp only [insertMany] at h
    simp only [insertMany, List.foldl_cons, h, get?_insert, List.reverse_cons, List.lookup_append]
    rw [show [e].lookup x = if x = e.1 then some e.2 else none from
      lookup_cons_eq_ite e.1 e.2 [] x]
    by_cases hx : x = e.1 <;> simp [hx]

/-- The last entry with a key is the one that counts. -/
theorem get?_ofList (l : List (String × α)) (x : String) :
    (ofList l).get? x = l.reverse.lookup x := by
  exact (get?_insertMany ∅ l x).trans (by rw [get?_empty, Option.or_none])

end NameMap

end UaaAdmin
