import UaaAdmin.Json.Value
import UaaAdmin.NameMap

/-!
# Records in JSON

A record type is read from JSON and written to it by its layout, the list of its fields. A field
says under which name it stands, what its value means, what a missing one means, and which values
are left out when the record is written.

A record is read from an object, in which fields may come in any order, unknown members are ignored
and no field may stand twice; or from an array that holds the fields in their order, of which the
last ones may be missing if they have a default.
-/

namespace UaaAdmin

/-- Types with one JSON form. -/
class JsonForm (α : Type) where
  /-- The value that a JSON value stands for. -/
  read? : Json → Option α
  /-- The JSON form of a value. -/
  write : α → Json

namespace JsonForm

instance : JsonForm String where
  read?
    | .text s => some s
    | _ => none
  write := .text

instance : JsonForm Bool where
  read?
    | .bool b => some b
    | _ => none
  write := .bool

/-- The signed integers of 64 bits are written as integer literals, and read from nothing else. -/
instance : JsonForm Int64 where
  read?
    | .int n =>
      if Int64.minValue.toInt ≤ n && n ≤ Int64.maxValue.toInt then some (Int64.ofInt n) else none
    | _ => none
  write n := .int n.toInt

instance {α : Type} [JsonForm α] : JsonForm (List α) where
  read?
    | .array vs => vs.mapM read?
    | _ => none
  write as := .array (as.map write)

/-- An object with arbitrary keys; of a repeated key the last value counts. -/
instance {α : Type} [JsonForm α] : JsonForm (NameMap α) where
  read?
    | .object ms => (ms.mapM fun m => (read? m.2).map fun a => (m.1, a)).map NameMap.ofList
    | _ => none
  write m := .object (m.entries.map fun e => (e.1, write e.2))

end JsonForm

/-! ## Fields -/

/-- How one value of a record is read and written. -/
structure Slot (α : Type) where
  /-- What a value that is there means. -/
  read? : Json → Option α
  /-- The form of a value, `none` if it is left out. -/
  write : α → Option Json
  /-- What a missing member of an object means, `none` if it has to be there. -/
  missing : Option α
  /-- What a missing item at the end of an array means, `none` if it has to be there. -/
  short : Option α

namespace Slot

variable {α : Type} [JsonForm α]

/-- A value whose default is also meant by `null`, and which is left out if `omits` holds of it. -/
def nullable (default : α) (omits : α → Bool) : Slot α where
  read?
    | .null => some default
    | v => JsonForm.read? v
  write a := if omits a then none else some (JsonForm.write a)
  missing := some default
  short := some default

/-- A value that is always written; a missing one and `null` mean the default of its type. -/
def always [Inhabited α] : Slot α := nullable default fun _ => false

/-- A value that is left out when it is the default of its type. -/
def sparse [Inhabited α] [DecidableEq α] : Slot α := nullable default (· == default)

/-- A value that may be absent, and is then left out. -/
def optional : Slot (Option α) where
  read?
    | .null => some none
    | v => (JsonForm.read? v).map some
  write a := a.map JsonForm.write
  missing := some none
  short := some none

/-- A value that has to be there and is no `null`. -/
def required : Slot α where
  read? := JsonForm.read?
  write a := some (JsonForm.write a)
  missing := none
  short := none

/-- A value that may be missing but is no `null`, and is always written. -/
def defaulted [Inhabited α] : Slot α where
  read? := JsonForm.read?
  write a := some (JsonForm.write a)
  missing := some default
  short := some default

end Slot

/-- A field of the record type `σ`. -/
structure Field (σ : Type) where
  {α : Type}
  name : String
  slot : Slot α
  get : σ → α
  put : α → σ → σ

namespace Field

variable {σ : Type}

/-- The value that an object gives the field. -/
def ofMembers? (f : Field σ) (ms : List (String × Json)) : Option f.α :=
  match ms.filter fun m => m.1 == f.name with
  | [] => f.slot.missing
  | [m] => f.slot.read? m.2
  | _ => none

/-- The member that the field gives to the object of a record. -/
def toMember? (f : Field σ) (s : σ) : Option (String × Json) :=
  (f.slot.write (f.get s)).map fun v => (f.name, v)

end Field

/-! ## Layouts -/

/-- The record made of a value for each of its fields. -/
def Field.build {σ : Type} [Inhabited σ] (fs : List (Field σ)) (a : (f : Field σ) → f.α) : σ :=
  fs.foldl (fun s f => f.put (a f) s) default

/-- The fields of a record type in their order. No two of them have one name, and a record is made
of their values. -/
structure Layout (σ : Type) [Inhabited σ] where
  fields : List (Field σ)
  nodup_names : (fields.map (·.name)).Nodup := by decide
  build_get : ∀ s : σ, Field.build fields (fun f => f.get s) = s := by exact fun _ => rfl

namespace Layout

variable {σ : Type}

/-- The record `s` with its fields taken from the members of an object. -/
def readMembers? (ms : List (String × Json)) : List (Field σ) → σ → Option σ
  | [], s => some s
  | f :: fs, s => (f.ofMembers? ms).bind fun a => readMembers? ms fs (f.put a s)

/-- The record `s` with its fields taken from the items of an array. -/
def readItems? : List (Field σ) → List Json → σ → Option σ
  | [], [], s => some s
  | [], _ :: _, _ => none
  | f :: fs, [], s => f.slot.short.bind fun a => readItems? fs [] (f.put a s)
  | f :: fs, v :: vs, s => (f.slot.read? v).bind fun a => readItems? fs vs (f.put a s)

/-- The record that a JSON value stands for. -/
def read? [Inhabited σ] (fs : List (Field σ)) : Json → Option σ
  | .object ms => readMembers? ms fs default
  | .array vs => readItems? fs vs default
  | _ => none

/-- The object of a record. -/
def write (fs : List (Field σ)) (s : σ) : Json :=
  .object (fs.filterMap fun f => f.toMember? s)

/-- The JSON form of a record type with these fields. -/
@[reducible]
def form [Inhabited σ] (fs : List (Field σ)) : JsonForm σ where
  read? := read? fs
  write := write fs

end Layout

end UaaAdmin
