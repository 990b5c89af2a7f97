import UaaAdmin.Admin.Endpoint
import UaaAdmin.Proofs.JsonText
import UaaAdmin.Proofs.RecordForms
import UaaAdmin.Proofs.Utf8
import UaaAdmin.Wire.Client
import UaaAdmin.Wire.Group
import UaaAdmin.Wire.User
import UaaAdmin.Wire.Zone

/-!
# The wire format

Every record of the wire format is read back from the text in which it is written. `WireType` names
the record types, so that this can be said of all of them at once: `WireType.wire_format_lossless`.
-/

namespace UaaAdmin.Wire

/-! ## Bodies -/

/-- What is written is read back from its bytes. -/
theorem ofBytes?_encode_print {v : Json} (h : v.IsExact) :
    Json.ofBytes? (Text.Utf8.encode (Json.print v)) = some v := by
  unfold Json.ofBytes?
  rw [Text.Utf8.decode_encode]
  exact Json.ofText?_print h

/-- A body that starts with a brace is not blank. -/
theorem all_isBlankByte_encode_object (members : List (String × Json)) :
    (Text.Utf8.encode (Json.print (.object members))).all isBlankByte = false := by
  unfold Text.Utf8.encode Json.print
  rw [String.toList_ofList]
  rfl

/-- The body of an object is read as the object. -/
theorem readBody?_encode_object {α : Type} [JsonForm α] {members : List (String × Json)}
    (h : (Json.object members).IsExact) :
    readBody? (α := α) (Text.Utf8.encode (Json.print (.object members)))
      = JsonForm.read? (.object members) := by
  unfold readBody?
  rw [all_isBlankByte_encode_object, if_neg Bool.false_ne_true, ofBytes?_encode_print h,
    Option.bind_some]

/-- What is written as an object is read back from the body in which it is sent. -/
theorem readBody?_encode_write {α : Type} [JsonForm α] [LawfulForm α] (a : α)
    {members : List (String × Json)} (h : JsonForm.write a = .object members) :
    readBody? (Text.Utf8.encode (Json.print (JsonForm.write a))) = some a := by
  have hexact := LawfulForm.isExact_write a
  have hread := LawfulForm.read?_write a
  rw [h] at hexact hread ⊢
  rw [readBody?_encode_object hexact, hread]

/-! ## All records at once -/

/-- A record type with a layout, none of whose slots loses anything. -/
structure RecordType where
  {Carrier : Type}
  [inhabited : Inhabited Carrier]
  layout : Layout Carrier
  [lossless : Layout.Lossless layout.fields]

namespace RecordType

attribute [instance] inhabited lossless

/-- Its records have the form of their layout, which is the one that they have everywhere else. -/
instance (r : RecordType) : JsonForm r.Carrier := Layout.form r.layout.fields

end RecordType

-- The configuration of a zone has more parts in it than a search by instances goes through.
set_option synthInstance.maxSize 512 in
instance : Layout.Lossless ZoneConfig.layout.fields := inferInstance

/-- The names of the record types of the wire format, with lists of each in their envelope. -/
inductive WireType where
  | client
  | group
  | membership
  | user
  | personName
  | email
  | userGroup
  | zone
  | zoneConfig
  | branding
  | banner
  | secretPolicy
  | corsPolicy
  | corsRule
  | tokenPolicy
  | samlConfig
  | samlKey
  | links
  | logoutLinks
  | selfServiceLinks
  | prompt
  | userDefaults
  | mfaConfig
  | listing (item : WireType)

namespace WireType

/-- The record type of a name. -/
@[reducible]
def record : WireType → RecordType
  | client => ⟨Client.layout⟩
  | group => ⟨Group.layout⟩
  | membership => ⟨Membership.layout⟩
  | user => ⟨User.layout⟩
  | personName => ⟨PersonName.layout⟩
  | email => ⟨Email.layout⟩
  | userGroup => ⟨UserGroup.layout⟩
  | zone => ⟨Zone.layout⟩
  | zoneConfig => ⟨ZoneConfig.layout⟩
  | branding => ⟨Branding.layout⟩
  | banner => ⟨Banner.layout⟩
  | secretPolicy => ⟨SecretPolicy.layout⟩
  | corsPolicy => ⟨CorsPolicy.layout⟩
  | corsRule => ⟨CorsRule.layout⟩
  | tokenPolicy => ⟨TokenPolicy.layout⟩
  | samlConfig => ⟨SamlConfig.layout⟩
  | samlKey => ⟨SamlKey.layout⟩
  | links => ⟨Links.layout⟩
  | logoutLinks => ⟨LogoutLinks.layout⟩
  | selfServiceLinks => ⟨SelfServiceLinks.layout⟩
  | prompt => ⟨Prompt.layout⟩
  | userDefaults => ⟨UserDefaults.layout⟩
  | mfaConfig => ⟨MfaConfig.layout⟩
  | listing item => ⟨Listing.layout item.record.Carrier⟩

/-- The records of a type. -/
@[reducible]
def Carrier (t : WireType) : Type := t.record.Carrier

/-- The fields of the records of a type. -/
def fields (t : WireType) : List (Field t.Carrier) := t.record.layout.fields

/-- The body in which a record is sent. -/
def encode (t : WireType) (v : t.Carrier) : List UInt8 :=
  Text.Utf8.encode (Json.print (JsonForm.write v))

/-- What is written for a record is read back as it is, from the text and from the bytes of a body.
A field that is left out has the value that a missing one means, so that nothing is lost with it.
And no two records of a type have the same text; in particular a part of which all fields are empty
is told from one that is absent. -/
theorem wire_format_lossless (t : WireType) (v : t.Carrier) :
    (Json.ofText? (Json.print (JsonForm.write v))).bind JsonForm.read? = some v ∧
    readBody? (t.encode v) = some v ∧
    (∀ f ∈ t.fields, f.slot.write (f.get v) = none → f.slot.missing = some (f.get v)) ∧
    ∀ w : t.Carrier, t.encode v = t.encode w → v = w := by
  -- Stated for all records at once, because it also tells two of them apart.
  have hbody : ∀ v : t.Carrier, readBody? (t.encode v) = some v :=
    fun v => readBody?_encode_write v rfl
  refine ⟨?_, hbody v, ?_, ?_⟩
  · rw [Json.ofText?_print (LawfulForm.isExact_write v), Option.bind_some, LawfulForm.read?_write]
  · intro f hf
    exact (t.record.lossless.slots f hf).missing_of_omitted _
  · intro w h
    have hw := hbody w
    rw [← h, hbody v] at hw
    exact Option.some.inj hw

end WireType

end UaaAdmin.Wire
