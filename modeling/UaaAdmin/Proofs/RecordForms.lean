import UaaAdmin.Wire.Record
import UaaAdmin.Proofs.JsonTokens
import UaaAdmin.Proofs.NameMaps

/-!
# Forms that can be read back

A JSON form is lawful (`LawfulForm`) if every value is read back from the form in which it is
written. A record has a lawful form if its slots lose nothing (`Slot.Lossless`), since no two fields
of its layout have one name, and it is made of their values. So the form of a record type is found
to be lawful by looking at the slots of its layout.
-/

namespace UaaAdmin

/-! ## Lawful forms -/

/-- A JSON form from which every value is read back. No value is written as `null`, which is how a
missing one is told from one that is there. -/
class LawfulForm (α : Type) [JsonForm α] : Prop where
  read?_write : ∀ a : α, JsonForm.read? (JsonForm.write a) = some a
  isExact_write : ∀ a : α, (JsonForm.write a).IsExact
  write_ne_null : ∀ a : α, JsonForm.write a ≠ .null

namespace LawfulForm

/-- A text is written as it is. -/
instance : LawfulForm String where
  read?_write _ := rfl
  isExact_write := .text
  write_ne_null _ := by rintro ⟨⟩

/-- A truth value is written as it is. -/
instance : LawfulForm Bool where
  read?_write _ := rfl
  isExact_write := .bool
  write_ne_null _ := by rintro ⟨⟩

/-- Every integer of 64 bits is in the range that is read. -/
instance : LawfulForm Int64 where
  read?_write n := by
    have hlow : Int64.minValue.toInt ≤ n.toInt := Int64.le_toInt n
    have hhigh : n.toInt ≤ Int64.maxValue.toInt := Int64.toInt_le n
    show (if Int64.minValue.toInt ≤ n.toInt && n.toInt ≤ Int64.maxValue.toInt then
      some (Int64.ofInt n.toInt) else none) = some n
    rw [decide_eq_true hlow, decide_eq_true hhigh, Bool.and_self, if_pos rfl, Int64.ofInt_toInt]
  isExact_write n := by
    have hlow := Int64.le_toInt n
    have hhigh := Int64.toInt_lt n
    exact .int hlow (by omega)
  write_ne_null _ := by rintro ⟨⟩

variable {α : Type} [JsonForm α] [LawfulForm α]

/-- A list is lawful if its items are. -/
instance : LawfulForm (List α) where
  read?_write as := by
    have hread : JsonForm.read? ∘ JsonForm.write = fun a : α => (pure (id a) : Option α) :=
      funext read?_write
    show (as.map JsonForm.write).mapM JsonForm.read? = some as
    rw [List.mapM_map, hread, List.mapM_pure, List.map_id]
    rfl
  isExact_write as := by
    refine .array fun v hv => ?_
    obtain ⟨a, -, rfl⟩ := List.mem_map.mp hv
    exact isExact_write a
  write_ne_null _ := by rintro ⟨⟩

/-- An object with arbitrary keys is lawful if its values are, since no key stands twice. -/
instance : LawfulForm (NameMap α) where
  read?_write m := by
    have hentries : ∀ es : List (String × α),
        ((es.map fun e => (e.1, JsonForm.write e.2)).mapM fun m =>
          (JsonForm.read? m.2).map fun a => (m.1, a)) = some es := by
      intro es
      induction es with
      | nil => rfl
      | cons e es ih =>
        rw [List.map_cons, List.mapM_cons, ih, read?_write]
        rfl
    show Option.map NameMap.ofList (List.mapM _ (m.entries.map _)) = some m
    rw [hentries, Option.map_some, NameMap.ofList_entries]
  isExact_write m := by
    refine .object fun e he => ?_
    obtain ⟨e, -, rfl⟩ := List.mem_map.mp he
    exact isExact_write e.2
  write_ne_null _ := by rintro ⟨⟩

end LawfulForm

/-! ## Slots -/

namespace Slot

/-- A slot that loses nothing: a value that is written is read back, and a value that is left out is
what a missing one means. -/
class Lossless {α : Type} (slot : Slot α) : Prop where
  read?_write : ∀ a v, slot.write a = some v → slot.read? v = some a
  isExact_write : ∀ a v, slot.write a = some v → v.IsExact
  missing_of_omitted : ∀ a, slot.write a = none → slot.missing = some a

variable {α : Type} [JsonForm α] [LawfulForm α]

/-- A slot that takes `null` for its default loses nothing if it leaves out only the default. -/
theorem lossless_nullable {default : α} {omits : α → Bool} (h : ∀ a, omits a = true → a = default) :
    Lossless (nullable default omits) where
  read?_write a v hv := by
    unfold nullable at hv ⊢
    dsimp only at hv ⊢
    split at hv
    · exact absurd hv (by simp)
    · obtain rfl := Option.some.inj hv
      split
      · rename_i hnull
        exact absurd hnull (LawfulForm.write_ne_null a)
      · exact LawfulForm.read?_write a
  isExact_write a v hv := by
    unfold nullable at hv
    dsimp only at hv
    split at hv
    · exact absurd hv (by simp)
    · obtain rfl := Option.some.inj hv
      exact LawfulForm.isExact_write a
  missing_of_omitted a ha := by
    unfold nullable at ha ⊢
    dsimp only at ha ⊢
    split at ha
    · rename_i homits
      rw [h a homits]
    · exact absurd ha (by simp)

/-- A slot that is always written leaves out nothing. -/
instance [Inhabited α] : Lossless (always : Slot α) :=
  lossless_nullable fun _ h => absurd h (by simp)

/-- A sparse slot leaves out only the default. -/
instance [Inhabited α] [DecidableEq α] : Lossless (sparse : Slot α) :=
  lossless_nullable fun _ h => eq_of_beq h

/-- What may be absent is told from what is there, which is never `null`. -/
instance : Lossless (optional : Slot (Option α)) where
  read?_write a v hv := by
    obtain ⟨b, rfl, rfl⟩ := Option.map_eq_some_iff.mp hv
    unfold optional
    dsimp only
    split
    · rename_i hnull
      exact absurd hnull (LawfulForm.write_ne_null b)
    · rw [LawfulForm.read?_write, Option.map_some]
  isExact_write a v hv := by
    obtain ⟨b, rfl, rfl⟩ := Option.map_eq_some_iff.mp hv
    exact LawfulForm.isExact_write b
  missing_of_omitted a ha := by
    obtain rfl := Option.map_eq_none_iff.mp ha
    rfl

/-- What has to be there is always written. -/
instance : Lossless (required : Slot α) where
  read?_write a v hv := by
    obtain rfl := Option.some.inj hv
    exact LawfulForm.read?_write a
  isExact_write a v hv := by
    obtain rfl := Option.some.inj hv
    exact LawfulForm.isExact_write a
  missing_of_omitted a ha := absurd ha (by simp [required])

/-- What may be missing is always written nevertheless. -/
instance [Inhabited α] : Lossless (defaulted : Slot α) where
  read?_write a v hv := by
    obtain rfl := Option.some.inj hv
    exact LawfulForm.read?_write a
  isExact_write a v hv := by
    obtain rfl := Option.some.inj hv
    exact LawfulForm.isExact_write a
  missing_of_omitted a ha := absurd ha (by simp [defaulted])

end Slot

/-! ## Layouts -/

namespace Layout

variable {σ : Type}

/-- Fields whose slots all lose nothing. -/
class Lossless (fs : List (Field σ)) : Prop where
  slots : ∀ f ∈ fs, f.slot.Lossless

instance : Lossless ([] : List (Field σ)) where
  slots _ hf := absurd hf List.not_mem_nil

instance {α : Type} {name : String} {slot : Slot α} {get : σ → α} {put : α → σ → σ}
    {fs : List (Field σ)} [h : slot.Lossless] [hs : Lossless fs] :
    Lossless (⟨name, slot, get, put⟩ :: fs) where
  slots := List.forall_mem_cons.mpr ⟨h, hs.slots⟩

/-- The members that the fields give to the object of a record. -/
def members (fs : List (Field σ)) (s : σ) : List (String × Json) :=
  fs.filterMap fun f => f.toMember? s

/-- The member of a field comes before those of the fields behind it. -/
theorem members_cons (f : Field σ) (fs : List (Field σ)) (s : σ) :
    members (f :: fs) s = (f.toMember? s).toList ++ members fs s := by
  unfold members
  rw [List.filterMap_cons]
  cases f.toMember? s <;> rfl

/-- Members have the names of the fields. -/
theorem name_of_mem_members {fs : List (Field σ)} {s : σ} {m : String × Json}
    (h : m ∈ members fs s) : m.1 ∈ fs.map (·.name) := by
  obtain ⟨f, hf, hm⟩ := List.mem_filterMap.mp h
  obtain ⟨v, -, rfl⟩ := Option.map_eq_some_iff.mp hm
  exact List.mem_map_of_mem hf

/-- Of the members of a record, a field finds its own. -/
theorem filter_members {fs : List (Field σ)} (hnames : (fs.map (·.name)).Nodup) {f : Field σ}
    (hf : f ∈ fs) (s : σ) :
    (members fs s).filter (fun m => m.1 == f.name) = (f.toMember? s).toList := by
  have hother : ∀ gs : List (Field σ), f.name ∉ gs.map (·.name) →
      (members gs s).filter (fun m => m.1 == f.name) = [] := by
    intro gs hgs
    rw [List.filter_eq_nil_iff]
    intro m hm heq
    exact hgs (eq_of_beq heq ▸ name_of_mem_members hm)
  -- The members are split at the field, since no name stands twice.
  induction fs with
  | nil => exact absurd hf List.not_mem_nil
  | cons g gs ih =>
    rw [List.map_cons, List.nodup_cons] at hnames
    rw [members_cons, List.filter_append]
    rcases List.mem_cons.mp hf with rfl | hf
    · rw [hother gs hnames.1, List.append_nil]
      unfold Field.toMember?
      cases f.slot.write (f.get s) <;> simp
    · have hne : g.name ≠ f.name := fun h => hnames.1 (h ▸ List.mem_map_of_mem hf)
      rw [ih hnames.2 hf]
      unfold Field.toMember?
      cases g.slot.write (g.get s) <;> simp [hne]

/-- A field reads from the members of a record what the record has in it. -/
theorem ofMembers?_members {fs : List (Field σ)} (hnames : (fs.map (·.name)).Nodup) {f : Field σ}
    (hf : f ∈ fs) (hslot : f.slot.Lossless) (s : σ) :
    f.ofMembers? (members fs s) = some (f.get s) := by
  unfold Field.ofMembers?
  rw [filter_members hnames hf]
  unfold Field.toMember?
  rcases hw : f.slot.write (f.get s) with _ | v
  · exact hslot.missing_of_omitted _ hw
  · exact hslot.read?_write _ v hw

/-- If every field finds a value, the record of these values is read. -/
theorem readMembers?_of_forall {ms : List (String × Json)} {a : (f : Field σ) → f.α}
    {fs : List (Field σ)} (h : ∀ f ∈ fs, f.ofMembers? ms = some (a f)) (t : σ) :
    readMembers? ms fs t = some (fs.foldl (fun t f => f.put (a f) t) t) := by
  induction fs generalizing t with
  | nil => rfl
  | cons f fs ih =>
    rw [List.forall_mem_cons] at h
    rw [readMembers?, h.1, Option.bind_some, ih h.2]
    rfl

/-- A record is read back if no slot of its layout loses anything. -/
instance [Inhabited σ] {l : Layout σ} [h : Lossless l.fields] : @LawfulForm σ (form l.fields) :=
  letI := form l.fields
  { read?_write := fun s => by
      show readMembers? (members l.fields s) l.fields default = some s
      rw [readMembers?_of_forall fun f hf =>
        ofMembers?_members l.nodup_names hf (h.slots f hf) s]
      exact congrArg some (l.build_get s)
    isExact_write := fun s => by
      refine .object fun m hm => ?_
      obtain ⟨f, hf, hmember⟩ := List.mem_filterMap.mp hm
      obtain ⟨v, hv, rfl⟩ := Option.map_eq_some_iff.mp hmember
      exact (h.slots f hf).isExact_write _ v hv
    write_ne_null := fun _ => by rintro ⟨⟩ }

end Layout

end UaaAdmin
