import UaaAdmin.Config.Element

/-!
# The binary form of a certificate

A certificate is what it certifies, the way it is signed, and the signature. It can be trusted to
sign others if its parts are in their places; names, times and keys are not looked into, and the
signature is not checked.
-/

namespace UaaAdmin.Certificate

open UaaAdmin.Element

/-! ## Extensions -/

/-- An extension: its registered name and its value. -/
structure Extension where
  name : List UInt8
  value : List UInt8

/-- Reads an extension. Between name and value it may say whether it has to be understood. -/
def readExtension : Reading Extension := do
  let name ← .value nameTag
  let flag ← .value? flagTag
  guard (flag.all fun f => f = [0xff] || f = [0x00])
  let value ← .value octetsTag
  return ⟨name, value⟩

/-- What the registered names of the standard extensions begin with. -/
def standardArc : List UInt8 := [0x55, 0x1d]

/-- The standard extension that says what the key may be used for. -/
def keyUsage : UInt8 := 15

/-- The standard extensions whose value is a list of elements: other names of the owner, limits of
what is certified, limits of names, places of revocations, and purposes of the key. -/
def listExtensions : List UInt8 := [17, 19, 30, 31, 37]

/-- The number of a standard extension, if it is one that is understood. -/
def Extension.standard? (e : Extension) : Option UInt8 :=
  match e.name.drop 2 with
  | [n] =>
    if e.name.take 2 = standardArc && (keyUsage :: listExtensions).contains n then some n else none
  | _ => none

/-- The value of the extension has the form that it asks for. -/
def Extension.isWellFormed (e : Extension) : Bool :=
  e.standard?.all fun n =>
    n = keyUsage || ((Reading.value sequenceTag).whole? e.value).isSome

/-- Each extension is well-formed, and those that are understood stand there once. -/
def areWellFormed (extensions : List Extension) : Bool :=
  extensions.all Extension.isWellFormed && decide (extensions.filterMap Extension.standard?).Nodup

/-- Reads the extensions at the end of what is certified, if there are any. -/
def readExtensions : Reading (List Extension) := do
  match ← Reading.value? (placeTag 3) with
  | none => return []
  | some bytes =>
    let list ← liftM ((Reading.value sequenceTag).whole? bytes)
    let values ← liftM (elements? sequenceTag list)
    liftM (values.mapM readExtension.whole?)

/-! ## Whole certificates -/

/-- Reads what a certificate of the first version certifies: its number, and the way it is signed,
issuer, times, owner and key. -/
def readFirstVersion : Reading Unit := do
  let _ ← .value integerTag
  .sequences 5

/-- Reads what a certificate of the third version certifies. It says its version and, once more, in
which `way` it is signed, and may have extensions. -/
def readThirdVersion (way : List UInt8) : Reading Unit := do
  let version ← .value (placeTag 0)
  guard ((Reading.value integerTag).whole? version = some [2])
  let _ ← .value integerTag
  let signed ← .value sequenceTag
  guard (signed = way)
  .sequences 4
  let extensions ← readExtensions
  guard (areWellFormed extensions)

/-- Reads a certificate. Its signature is in whole bytes. -/
def read : Reading Unit := do
  let certified ← .value sequenceTag
  let way ← .value sequenceTag
  let signature ← .value bitsTag
  guard (signature.head? = some 0)
  let hasVersion := certified.head? = some (placeTag 0)
  let body := if hasVersion then readThirdVersion way else readFirstVersion
  liftM (body.whole? certified)

/-- The bytes are a certificate that can be trusted. -/
def isTrustable (bytes : List UInt8) : Bool :=
  (((Reading.value sequenceTag).whole? bytes).bind read.whole?).isSome

end UaaAdmin.Certificate
