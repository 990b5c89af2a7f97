import UaaAdmin.Proofs.WireForms

/-!
# Reading records field by field

What an object gives for a field does not depend on the other fields (`Field.Finds`): the field has
one member at most, a member that is not `null` is read by the form of its type (`Slot.Takes`), and
a missing one means the same as `null`. A record is read exactly if every field finds a value, and
it is then made of these values (`WireType.read?_object_eq_some_iff`).

So nothing else in an object matters. `Alike` says of two values that they differ, at any depth,
only in the order of members, in members that no field has the name of, and in members that are
`null` in one and missing in the other. The payoff is `WireType.records_read_fieldwise`.
-/

namespace UaaAdmin

/-! ## Slots -/

namespace Slot

/-- The value stands for `a` in a slot, by the form of its type. -/
inductive Takes (v : Json) : {α : Type} → Slot α → α → Prop
  | nullable {α : Type} [JsonForm α] {default a : α} {omits : α → Bool}
    (h : JsonForm.read? v = some a) : Takes v (nullable default omits) a
  | optional {α : Type} [JsonForm α] {a : α} (h : JsonForm.read? v = some a) :
    Takes v optional (some a)
  | required {α : Type} [JsonForm α] {a : α} (h : JsonForm.read? v = some a) : Takes v required a

/-- A slot in which `null` means the same as a missing member, and any other value what it means in
the form of its type. -/
class Plain {α : Type} (slot : Slot α) : Prop where
  read?_null : slot.read? .null = slot.missing
  takes_of_read? : ∀ {v a}, v ≠ .null → slot.read? v = some a → slot.Takes v a

variable {α : Type}

section

variable [JsonForm α] {v w : Json}

theorem read?_nullable_of_ne (default : α) (omits : α → Bool) (hv : v ≠ .null) :
    (nullable default omits).read? v = JsonForm.read? v := by
  unfold nullable
  dsimp only
  split
  · exact absurd rfl hv
  · rfl

theorem read?_optional_of_ne (hv : v ≠ .null) :
    (optional (α := α)).read? v = (JsonForm.read? v).map some := by
  unfold optional
  dsimp only
  split
  · exact absurd rfl hv
  · rfl

/-- A slot that takes `null` for its default sees no more of a value than its form does. -/
theorem read?_nullable_congr (default : α) (omits : α → Bool) (hnull : v = .null ↔ w = .null)
    (h : JsonForm.read? (α := α) v = JsonForm.read? w) :
    (nullable default omits).read? v = (nullable default omits).read? w := by
  by_cases hv : v = .null
  · rw [hv, hnull.mp hv]
  · rw [read?_nullable_of_ne _ _ hv, read?_nullable_of_ne _ _ (mt hnull.mpr hv), h]

theorem read?_optional_congr (hnull : v = .null ↔ w = .null)
    (h : JsonForm.read? (α := α) v = JsonForm.read? w) :
    (optional (α := α)).read? v = (optional (α := α)).read? w := by
  by_cases hv : v = .null
  · rw [hv, hnull.mp hv]
  · rw [read?_optional_of_ne hv, read?_optional_of_ne (mt hnull.mpr hv), h]

end

theorem read?_of_takes {slot : Slot α} {v : Json} {a : α} (hv : v ≠ .null)
    (h : slot.Takes v a) : slot.read? v = some a := by
  cases h with
  | nullable h => rw [read?_nullable_of_ne _ _ hv, h]
  | optional h => rw [read?_optional_of_ne hv, h, Option.map_some]
  | required h => exact h

variable [JsonForm α]

theorem plain_nullable (default : α) (omits : α → Bool) : Plain (nullable default omits) where
  read?_null := rfl
  takes_of_read? hv h := by
    rw [read?_nullable_of_ne _ _ hv] at h
    exact .nullable h

instance [Inhabited α] : Plain (always : Slot α) := plain_nullable _ _

instance [Inhabited α] [DecidableEq α] : Plain (sparse : Slot α) := plain_nullable _ _

instance : Plain (optional : Slot (Option α)) where
  read?_null := rfl
  takes_of_read? hv h := by
    rw [read?_optional_of_ne hv] at h
    obtain ⟨b, hb, rfl⟩ := Option.map_eq_some_iff.mp h
    exact .optional hb

/-- No text is written as `null`, so that one that has to be there is no `null`. -/
instance : Plain (required : Slot String) where
  read?_null := rfl
  takes_of_read? _ h := .required h

end Slot

/-! ## Fields -/

namespace Field

variable {σ : Type} {f : Field σ} {ms ms' : List (String × Json)}

/-- The members of an object give the field the value `a`: it has one member at most, which is read
by the form of its type unless it is `null`, and without such a one the value is what a missing
member means. -/
structure Finds (f : Field σ) (ms : List (String × Json)) (a : f.α) : Prop where
  once : (ms.map Prod.fst).count f.name ≤ 1
  member : ∀ v, (f.name, v) ∈ ms → v ≠ .null → f.slot.Takes v a
  nothing : (∀ v, (f.name, v) ∈ ms → v = .null) → f.slot.missing = some a

theorem mem_filter_name {name : String} {m : String × Json} :
    m ∈ ms.filter (fun m => m.1 == name) ↔ m ∈ ms ∧ m.1 = name := by
  rw [List.mem_filter, beq_iff_eq]

theorem length_filter_name :
    (ms.filter fun m => m.1 == f.name).length = (ms.map Prod.fst).count f.name := by
  rw [← List.countP_eq_length_filter, List.count, List.countP_map]
  rfl

/-- A field that has one member at most has one value. -/
theorem eq_of_once (h : (ms.map Prod.fst).count f.name ≤ 1) {v w : Json} (hv : (f.name, v) ∈ ms)
    (hw : (f.name, w) ∈ ms) : v = w := by
  have hv' : (f.name, v) ∈ ms.filter fun m => m.1 == f.name := mem_filter_name.mpr ⟨hv, rfl⟩
  have hw' : (f.name, w) ∈ ms.filter fun m => m.1 == f.name := mem_filter_name.mpr ⟨hw, rfl⟩
  rw [← length_filter_name] at h
  rcases hown : ms.filter (fun m => m.1 == f.name) with _ | ⟨m, _ | ⟨m', rest⟩⟩
  · rw [hown] at hv'
    exact absurd hv' List.not_mem_nil
  · rw [hown, List.mem_singleton] at hv' hw'
    exact congrArg Prod.snd (hv'.trans hw'.symm)
  · rw [hown, List.length_cons, List.length_cons] at h
    omega

/-- What is read for a field is what it finds. -/
theorem ofMembers?_eq_some_iff (hslot : f.slot.Plain) {a : f.α} :
    f.ofMembers? ms = some a ↔ f.Finds ms a := by
  have hlength := @length_filter_name _ f ms
  have hmem := @mem_filter_name ms f.name
  unfold ofMembers?
  generalize ms.filter (fun m => m.1 == f.name) = own at hlength hmem
  -- The field has no member, just one, or more than it may have.
  rcases own with _ | ⟨⟨name, v⟩, _ | ⟨m, rest⟩⟩
  · have hnone : ∀ v, (f.name, v) ∉ ms := by
      intro v hv
      exact absurd (hmem.mpr ⟨hv, rfl⟩) List.not_mem_nil
    refine ⟨fun h => ⟨?_, fun v hv => absurd hv (hnone v), fun _ => h⟩, fun h => ?_⟩
    · rw [← hlength]
      exact Nat.zero_le 1
    · exact h.nothing fun v hv => absurd hv (hnone v)
  · obtain ⟨hv, rfl⟩ : (name, v) ∈ ms ∧ name = f.name := hmem.mp List.mem_cons_self
    have hone : (ms.map Prod.fst).count f.name ≤ 1 := hlength.symm.le
    have honly : ∀ w, (f.name, w) ∈ ms → w = v := fun w hw => eq_of_once hone hw hv
    dsimp only
    by_cases hnull : v = .null
    · rw [hnull, hslot.read?_null]
      rw [hnull] at honly hv
      refine ⟨fun h => ⟨hone, fun w hw hne => absurd (honly w hw) hne, fun _ => h⟩, fun h => ?_⟩
      exact h.nothing honly
    · refine ⟨fun h => ⟨hone, fun w hw hne => ?_, fun hall => absurd (hall v hv) hnull⟩,
        fun h => Slot.read?_of_takes hnull (h.member v hv hnull)⟩
      rw [honly w hw]
      exact hslot.takes_of_read? hnull h
  · refine ⟨fun h => absurd h (by simp), fun h => ?_⟩
    have honce := h.once
    rw [← hlength, List.length_cons, List.length_cons] at honce
    omega

/-- There is something for the field to find if it has no second member, a form for the member that
it has, and a member if it has to have one. -/
theorem exists_finds_iff :
    (∃ a, f.Finds ms a) ↔ (ms.map Prod.fst).count f.name ≤ 1 ∧
      (∀ v, (f.name, v) ∈ ms → v ≠ .null → ∃ a, f.slot.Takes v a) ∧
      (f.slot.missing = none → ∃ v, (f.name, v) ∈ ms ∧ v ≠ .null) := by
  constructor
  · intro ⟨a, h⟩
    refine ⟨h.once, fun v hv hne => ⟨a, h.member v hv hne⟩, fun hmissing => ?_⟩
    by_contra hnone
    have hnull : ∀ v, (f.name, v) ∈ ms → v = .null := by
      intro v hv
      by_contra hne
      exact hnone ⟨v, hv, hne⟩
    exact absurd (hmissing.symm.trans (h.nothing hnull)) (by simp)
  · intro ⟨honce, hmember, hmissing⟩
    by_cases hthere : ∃ v, (f.name, v) ∈ ms ∧ v ≠ .null
    · obtain ⟨v, hv, hne⟩ := hthere
      obtain ⟨a, ha⟩ := hmember v hv hne
      refine ⟨a, honce, fun w hw _ => ?_, fun hall => absurd (hall v hv) hne⟩
      rwa [eq_of_once honce hw hv]
    · have hnull : ∀ v, (f.name, v) ∈ ms → v = .null := by
        intro v hv
        by_contra hne
        exact hthere ⟨v, hv, hne⟩
      obtain ⟨a, ha⟩ := Option.ne_none_iff_exists'.mp (mt hmissing hthere)
      exact ⟨a, honce, fun v hv hne => absurd (hnull v hv) hne, fun _ => ha⟩

/-! ## What a field does not see -/

/-- The order of the members does not matter. -/
theorem ofMembers?_perm (h : ms.Perm ms') : f.ofMembers? ms = f.ofMembers? ms' := by
  have hown := h.filter fun m => m.1 == f.name
  unfold ofMembers?
  generalize ms.filter (fun m => m.1 == f.name) = own at hown
  generalize ms'.filter (fun m => m.1 == f.name) = own' at hown
  rcases own with _ | ⟨m, _ | ⟨n, rest⟩⟩
  · rw [List.nil_perm.mp hown]
  · rw [List.singleton_perm.mp hown]
  · have hlength := hown.length_eq
    rcases own' with _ | ⟨m', _ | ⟨n', rest'⟩⟩
    · exact absurd hlength (by simp)
    · exact absurd hlength (by simp)
    · rfl

/-- A member with another name does not matter. -/
theorem ofMembers?_cons_of_ne {name : String} (h : f.name ≠ name) (v : Json) :
    f.ofMembers? ((name, v) :: ms) = f.ofMembers? ms := by
  unfold ofMembers?
  rw [List.filter_cons_of_neg (by simpa using Ne.symm h)]

/-- A member that is `null` means the same as a missing one. -/
theorem ofMembers?_cons_null (hslot : f.slot.Plain) (h : f.name ∉ ms.map Prod.fst) :
    f.ofMembers? ((f.name, .null) :: ms) = f.ofMembers? ms := by
  have hnone : ms.filter (fun m => m.1 == f.name) = [] := by
    rw [← List.length_eq_zero_iff, length_filter_name, List.count_eq_zero]
    exact h
  unfold ofMembers?
  rw [List.filter_cons_of_pos (by simp), hnone]
  exact hslot.read?_null

/-- Of the value of a member the field sees what it reads from it. -/
theorem ofMembers?_replace {name : String} {v w : Json}
    (h : f.name = name → f.slot.read? v = f.slot.read? w) (xs ys : List (String × Json)) :
    f.ofMembers? (xs ++ (name, v) :: ys) = f.ofMembers? (xs ++ (name, w) :: ys) := by
  by_cases hname : f.name = name
  · -- The member comes to the front, where the field has no other one or too many.
    rw [ofMembers?_perm List.perm_middle, ofMembers?_perm List.perm_middle]
    unfold ofMembers?
    subst hname
    rw [List.filter_cons_of_pos (by simp), List.filter_cons_of_pos (by simp)]
    generalize (xs ++ ys).filter (fun m => m.1 == f.name) = others
    rcases others with _ | ⟨m, rest⟩
    · exact h rfl
    · rfl
  · rw [ofMembers?_perm List.perm_middle, ofMembers?_perm List.perm_middle,
      ofMembers?_cons_of_ne hname, ofMembers?_cons_of_ne hname]

end Field

/-! ## Layouts -/

namespace Layout

variable {σ : Type} {fs : List (Field σ)} {ms ms' : List (String × Json)}

/-- What no field sees does not matter to the record. -/
theorem readMembers?_congr (h : ∀ f ∈ fs, f.ofMembers? ms = f.ofMembers? ms') (s : σ) :
    readMembers? ms fs s = readMembers? ms' fs s := by
  induction fs generalizing s with
  | nil => rfl
  | cons f fs ih =>
    rw [List.forall_mem_cons] at h
    rw [readMembers?, readMembers?, h.1]
    congr 1
    funext a
    exact ih h.2 _

/-- A record is only read if every field finds a value. -/
theorem exists_ofMembers? {s t : σ} (h : readMembers? ms fs s = some t) :
    ∀ f ∈ fs, ∃ a, f.ofMembers? ms = some a := by
  induction fs generalizing s with
  | nil => exact fun f hf => absurd hf List.not_mem_nil
  | cons f fs ih =>
    obtain ⟨a, ha, hrest⟩ := Option.bind_eq_some_iff.mp h
    exact List.forall_mem_cons.mpr ⟨⟨a, ha⟩, ih hrest⟩

end Layout

namespace Wire.WireType

theorem read?_object (t : WireType) (ms : List (String × Json)) :
    JsonForm.read? (α := t.Carrier) (.object ms) = Layout.readMembers? ms t.fields default :=
  rfl

/-- Each field of a record has the value that the record is made of. -/
theorem get_build (t : WireType) (a : (f : Field t.Carrier) → f.α) :
    ∀ f ∈ t.fields, f.get (Field.build t.fields a) = a f := by
  cases t <;> repeat first
    | exact List.forall_mem_nil _
    | refine List.forall_mem_cons.mpr ⟨rfl, ?_⟩

/-- In every record but the envelope of a list `null` means the same as a missing member. -/
theorem plain_fields {t : WireType} (ht : ∀ item, t ≠ listing item) :
    ∀ f ∈ t.fields, f.slot.Plain := by
  cases t with
  | listing item => exact absurd rfl (ht item)
  | _ =>
    repeat first
      | exact List.forall_mem_nil _
      | refine List.forall_mem_cons.mpr ⟨by dsimp only; infer_instance, ?_⟩

/-- A missing member means the value of the empty record. -/
theorem missing_of_default {t : WireType} (ht : ¬(t = email ∨ t = membership)) :
    ∀ f ∈ t.fields, f.slot.missing = some (f.get default) := by
  cases t with
  | email => exact absurd (.inl rfl) ht
  | membership => exact absurd (.inr rfl) ht
  | _ =>
    repeat first
      | exact List.forall_mem_nil _
      | refine List.forall_mem_cons.mpr ⟨rfl, ?_⟩

/-- Nothing may be missing in an email or a membership. -/
theorem missing_of_required {t : WireType} (ht : t = email ∨ t = membership) :
    ∀ f ∈ t.fields, f.slot.missing = none := by
  rcases ht with rfl | rfl <;> repeat first
    | exact List.forall_mem_nil _
    | refine List.forall_mem_cons.mpr ⟨rfl, ?_⟩

/-- If every field gets a value from an object, the record of these values is read. -/
theorem read?_object_of_exists (t : WireType) {ms : List (String × Json)}
    (h : ∀ f ∈ t.fields, ∃ a, f.ofMembers? ms = some a) :
    ∃ s : t.Carrier, JsonForm.read? (.object ms) = some s ∧
      ∀ f ∈ t.fields, f.ofMembers? ms = some (f.get s) := by
  -- The value of the empty record only fills in for fields of other records.
  let a : (f : Field t.Carrier) → f.α := fun f => (f.ofMembers? ms).getD (f.get default)
  have ha : ∀ f ∈ t.fields, f.ofMembers? ms = some (a f) := by
    intro f hf
    obtain ⟨b, hb⟩ := h f hf
    show f.ofMembers? ms = some ((f.ofMembers? ms).getD (f.get default))
    rw [hb, Option.getD_some]
  refine ⟨Field.build t.fields a, ?_, fun f hf => ?_⟩
  · rw [t.read?_object]
    exact Layout.readMembers?_of_forall ha default
  · rw [ha f hf, t.get_build a f hf]

/-- An object is read as the record of the values that the fields find. -/
theorem read?_object_eq_some_iff {t : WireType} (ht : ∀ item, t ≠ listing item)
    {ms : List (String × Json)} {s : t.Carrier} :
    JsonForm.read? (.object ms) = some s ↔ ∀ f ∈ t.fields, f.Finds ms (f.get s) := by
  constructor
  · intro h f hf
    have hexists : ∀ f ∈ t.fields, ∃ a, f.ofMembers? ms = some a := by
      rw [t.read?_object] at h
      exact Layout.exists_ofMembers? h
    obtain ⟨s', hs', hget⟩ := t.read?_object_of_exists hexists
    obtain rfl := Option.some.inj (h.symm.trans hs')
    exact (Field.ofMembers?_eq_some_iff (t.plain_fields ht f hf)).mp (hget f hf)
  · intro h
    have hget : ∀ f ∈ t.fields, f.ofMembers? ms = some (f.get s) := fun f hf =>
      (Field.ofMembers?_eq_some_iff (t.plain_fields ht f hf)).mpr (h f hf)
    rw [t.read?_object, Layout.readMembers?_of_forall hget]
    exact congrArg some (t.record.layout.build_get s)

/-- An object is read if there is something for every field to find. -/
theorem exists_read?_object_iff {t : WireType} (ht : ∀ item, t ≠ listing item)
    {ms : List (String × Json)} :
    (∃ s : t.Carrier, JsonForm.read? (.object ms) = some s) ↔
      ∀ f ∈ t.fields, ∃ a, f.Finds ms a := by
  constructor
  · intro ⟨s, hs⟩ f hf
    exact ⟨f.get s, (read?_object_eq_some_iff ht).mp hs f hf⟩
  · intro h
    have hexists : ∀ f ∈ t.fields, ∃ a, f.ofMembers? ms = some a := by
      intro f hf
      obtain ⟨a, ha⟩ := h f hf
      exact ⟨a, (Field.ofMembers?_eq_some_iff (t.plain_fields ht f hf)).mpr ha⟩
    obtain ⟨s, hs, -⟩ := t.read?_object_of_exists hexists
    exact ⟨s, hs⟩

/-- What no field sees does not matter to the record. -/
theorem read?_object_congr (t : WireType) {ms ms' : List (String × Json)}
    (h : ∀ f ∈ t.fields, f.ofMembers? ms = f.ofMembers? ms') :
    JsonForm.read? (α := t.Carrier) (.object ms) = JsonForm.read? (.object ms') := by
  rw [t.read?_object, t.read?_object]
  exact Layout.readMembers?_congr h default

end WireType

/-! ## What no record sees -/

/-- The two values differ in nothing that `read` sees, if it reads a record or something made of
records: at any depth, the members of a record may be reordered, members may be there that no field
has the name of, and a member that is `null` may stand for one that is missing. -/
inductive Alike : {α : Type} → (Json → Option α) → Json → Json → Prop
  | refl {α : Type} (read : Json → Option α) (v : Json) : Alike read v v
  | symm {α : Type} {read : Json → Option α} {v w : Json} (h : Alike read v w) : Alike read w v
  | trans {α : Type} {read : Json → Option α} {v w x : Json} (h : Alike read v w)
    (h' : Alike read w x) : Alike read v x
  | reordered (t : WireType) {ms ms' : List (String × Json)} (h : ms.Perm ms') :
    Alike (JsonForm.read? (α := t.Carrier)) (.object ms) (.object ms')
  | unknown (t : WireType) {name : String} (h : ∀ f ∈ t.fields, f.name ≠ name) (v : Json)
    (ms : List (String × Json)) :
    Alike (JsonForm.read? (α := t.Carrier)) (.object ms) (.object ((name, v) :: ms))
  | null {t : WireType} (ht : ∀ item, t ≠ .listing item) {f : Field t.Carrier} (hf : f ∈ t.fields)
    {ms : List (String × Json)} (h : f.name ∉ ms.map Prod.fst) :
    Alike (JsonForm.read? (α := t.Carrier)) (.object ms) (.object ((f.name, .null) :: ms))
  | member (t : WireType) {f : Field t.Carrier} (hf : f ∈ t.fields) {v w : Json}
    (h : Alike f.slot.read? v w) (xs ys : List (String × Json)) :
    Alike (JsonForm.read? (α := t.Carrier)) (.object (xs ++ (f.name, v) :: ys))
      (.object (xs ++ (f.name, w) :: ys))
  | nullable {α : Type} [JsonForm α] (default : α) (omits : α → Bool) {v w : Json}
    (h : Alike (JsonForm.read? (α := α)) v w) : Alike (Slot.nullable default omits).read? v w
  | optional {α : Type} [JsonForm α] {v w : Json} (h : Alike (JsonForm.read? (α := α)) v w) :
    Alike (Slot.optional (α := α)).read? v w
  | item {α : Type} [JsonForm α] {v w : Json} (h : Alike (JsonForm.read? (α := α)) v w)
    (xs ys : List Json) :
    Alike (JsonForm.read? (α := List α)) (.array (xs ++ v :: ys)) (.array (xs ++ w :: ys))
  | entry {α : Type} [JsonForm α] {v w : Json} (h : Alike (JsonForm.read? (α := α)) v w)
    (key : String) (xs ys : List (String × Json)) :
    Alike (JsonForm.read? (α := NameMap α)) (.object (xs ++ (key, v) :: ys))
      (.object (xs ++ (key, w) :: ys))

namespace Alike

variable {α : Type} {read : Json → Option α} {v w : Json}

theorem eq_null_iff (h : Alike read v w) : v = .null ↔ w = .null := by
  induction h with
  | refl => exact Iff.rfl
  | symm h ih => exact ih.symm
  | trans h h' ih ih' => exact ih.trans ih'
  | nullable _ _ h ih => exact ih
  | optional h ih => exact ih
  | _ => exact iff_of_false (by simp) (by simp)

/-- Values that differ in nothing that is seen are read as the same. -/
theorem read_eq (h : Alike read v w) : read v = read w := by
  induction h with
  | refl => rfl
  | symm h ih => exact ih.symm
  | trans h h' ih ih' => exact ih.trans ih'
  | reordered t h => exact t.read?_object_congr fun f _ => Field.ofMembers?_perm h
  | unknown t h v ms =>
    exact t.read?_object_congr fun f hf => (Field.ofMembers?_cons_of_ne (h f hf) v).symm
  | @null t ht f hf ms h =>
    refine t.read?_object_congr fun g hg => ?_
    by_cases hname : g.name = f.name
    · rw [← hname] at h ⊢
      exact (Field.ofMembers?_cons_null (t.plain_fields ht g hg) h).symm
    · exact (Field.ofMembers?_cons_of_ne hname _).symm
  | @member t f hf v w h xs ys ih =>
    refine t.read?_object_congr fun g hg => Field.ofMembers?_replace (fun hname => ?_) xs ys
    -- No two fields have one name.
    obtain rfl := List.inj_on_of_nodup_map t.record.layout.nodup_names hg hf hname
    exact ih
  | nullable default omits h ih => exact Slot.read?_nullable_congr _ _ h.eq_null_iff ih
  | optional h ih => exact Slot.read?_optional_congr h.eq_null_iff ih
  | @item α _ v w h xs ys ih =>
    show (xs ++ v :: ys).mapM JsonForm.read? = (xs ++ w :: ys).mapM JsonForm.read?
    rw [List.mapM_append, List.mapM_append, List.mapM_cons, List.mapM_cons, ih]
  | @entry α _ v w h key xs ys ih =>
    show Option.map NameMap.ofList (List.mapM _ _) = Option.map NameMap.ofList (List.mapM _ _)
    rw [List.mapM_append, List.mapM_append, List.mapM_cons, List.mapM_cons, ih]

end Alike

/-! ## All records at once -/

namespace WireType

/-- An object is read as a record, the envelope of a list apart, if no field has two members, every
member of a field that is not `null` has the form of its type, and, in an email or a membership,
none is missing or `null`. Each field then has the value of its member, or without such a one that
of the empty record. So the record does not depend on the order of the members, on members that no
field has the name of, and on whether a member is `null` or missing, at no depth. -/
theorem records_read_fieldwise (t : WireType) (ht : ∀ item, t ≠ listing item)
    (ms : List (String × Json)) :
    ((∃ s : t.Carrier, JsonForm.read? (.object ms) = some s) ↔
      ∀ f ∈ t.fields, (ms.map Prod.fst).count f.name ≤ 1 ∧
        (∀ v, (f.name, v) ∈ ms → v ≠ .null → ∃ a, f.slot.Takes v a) ∧
        (t = email ∨ t = membership → ∃ v, (f.name, v) ∈ ms ∧ v ≠ .null)) ∧
    (∀ s : t.Carrier, JsonForm.read? (.object ms) = some s → ∀ f ∈ t.fields,
      (∀ v, (f.name, v) ∈ ms → v ≠ .null → f.slot.Takes v (f.get s)) ∧
      ((∀ v, (f.name, v) ∈ ms → v = .null) → f.get s = f.get default)) ∧
    ∀ v w, Alike (JsonForm.read? (α := t.Carrier)) v w →
      JsonForm.read? (α := t.Carrier) v = JsonForm.read? w := by
  -- Two of the record types require all of their fields, and the others none.
  have hmissing : ∀ f ∈ t.fields, f.slot.missing = none ↔ t = email ∨ t = membership := by
    intro f hf
    by_cases hrequired : t = email ∨ t = membership
    · exact iff_of_true (missing_of_required hrequired f hf) hrequired
    · rw [missing_of_default hrequired f hf]
      exact iff_of_false (by simp) hrequired
  refine ⟨?_, ?_, fun v w h => h.read_eq⟩
  · rw [exists_read?_object_iff ht]
    refine forall₂_congr fun f hf => ?_
    rw [Field.exists_finds_iff, hmissing f hf]
  · intro s hs f hf
    have hfinds := (read?_object_eq_some_iff ht).mp hs f hf
    refine ⟨hfinds.member, fun hnull => ?_⟩
    have hsome := hfinds.nothing hnull
    have hdefault : ¬(t = email ∨ t = membership) := by
      rw [← hmissing f hf, hsome]
      simp
    rw [missing_of_default hdefault f hf] at hsome
    exact (Option.some.inj hsome).symm

/-- A user is read from an object whose members are in another order than the fields, with `null`
and an unknown member in its name, as from the object without these. -/
theorem records_read_fieldwise_rearranged :
    JsonForm.read? (α := User) (.object [("name", .object [("honorific", .text "Lady"),
        ("familyName", .null), ("givenName", .text "Ada")]), ("userName", .text "ada")])
      = some { username := "ada", name := { givenName := "Ada" } } := by
  have hname : Alike (JsonForm.read? (α := personName.Carrier))
      (.object [("givenName", .text "Ada")])
      (.object [("honorific", .text "Lady"), ("familyName", .null), ("givenName", .text "Ada")]) :=
    .trans (.null (t := personName) (by simp) (List.getElem_mem (n := 1) (by decide)) (by decide))
      (.unknown personName (by decide) _ _)
  have hfield : ⟨"name", .always, User.name, fun a s => { s with name := a }⟩ ∈ user.fields :=
    List.getElem_mem (n := 4) (by decide)
  have huser := Alike.member user hfield (.nullable _ _ hname) [] [("userName", .text "ada")]
  exact ((records_read_fieldwise user (by simp) []).2.2 _ _ huser).symm.trans rfl

end WireType

end Wire

end UaaAdmin
