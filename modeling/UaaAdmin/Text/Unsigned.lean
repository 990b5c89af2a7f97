/-!
# Unsigned numbers

Reads a natural number below `2 ^ 64` from decimal digits, with a plus sign in front or none. The
digits are taken from the left, and the first thing wrong is the one that is reported.
-/

namespace UaaAdmin.Text.Unsigned

/-- Why a text is no number. -/
inductive Fault where
  | empty
  | badDigit
  | tooLarge
  deriving DecidableEq

/-- The wording of a fault. -/
def Fault.text : Fault → String
  | empty => "cannot parse integer from empty string"
  | badDigit => "invalid digit found in string"
  | tooLarge => "number too large to fit in target type"

/-- The bound below which numbers lie. -/
def bound : Nat := Nat.pow 2 64

/-- The number with the digits `cs` behind those of `n`. -/
def digitsFrom (n : Nat) : List Char → Except Fault Nat
  | [] => .ok n
  | c :: cs =>
    if !c.isDigit then .error .badDigit
    else
      let next := n * 10 + (c.toNat - 0x30)
      if next < bound then digitsFrom next cs else .error .tooLarge

/-- The number that a text denotes. -/
def read (cs : List Char) : Except Fault Nat :=
  match cs with
  | [] => .error .empty
  | ['+'] => .error .badDigit
  | '+' :: ds => digitsFrom 0 ds
  | ds => digitsFrom 0 ds

end UaaAdmin.Text.Unsigned
