import UaaAdmin.Text.Quoted

/-!
# Inspection text

How values are shown to a person who looks into a running program: texts in quotes, records with
their name and fields in braces. A secret field is shown as a fixed text, and a record that leaves
fields out ends in two dots.
-/

namespace UaaAdmin.Text

/-- Values that can be shown. -/
class Inspect (α : Type) where
  /-- The text that shows a value. -/
  inspect : α → String

export Inspect (inspect)

namespace Inspect

instance : Inspect String := ⟨Quoted.quote⟩
instance : Inspect Bool := ⟨fun b => if b then "true" else "false"⟩
instance : Inspect Int64 := ⟨fun n => toString n.toInt⟩

instance {α : Type} [Inspect α] : Inspect (Option α) where
  inspect
    | none => "None"
    | some a => "Some(" ++ inspect a ++ ")"

/-- Texts between two marks, with commas. -/
def enclose (first last : String) (parts : List String) : String :=
  first ++ ", ".intercalate parts ++ last

instance {α : Type} [Inspect α] : Inspect (List α) where
  inspect as := enclose "[" "]" (as.map inspect)

/-- A set of texts. -/
def set (names : List String) : String :=
  enclose "\x7b" "\x7d" (names.map Quoted.quote)

/-- What stands in place of a secret. -/
def redacted : String := Quoted.quote "<redacted>"

/-- A record with its shown fields; `complete` says that it has no others. -/
def record (name : String) (fields : List (String × String)) (complete : Bool) : String :=
  let shown := fields.map fun f => f.1 ++ ": " ++ f.2
  let parts := if complete then shown else shown ++ [".."]
  name ++ enclose " \x7b " " \x7d" parts

end Inspect

end UaaAdmin.Text
